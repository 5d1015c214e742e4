import Courier.Proofs.Text.Utf8
import Courier.Wire.Field

/-!
# What header fields say

* `Decimal` : a text that writes a number; `natural?_eq_some_iff` : the numbers that are read; `Digits.natural?_eq` :
  the number that digits are read as;
* `Readable` : a byte that is visible or blank; `valueText?_eq_some_iff` : the values that are texts;
* `Fields.First` : the first value of a field; `Fields.Tells` : the text that it is, as `Fields.tells_iff` says.
-/

namespace Courier.Wire

/-! ## Numbers -/

/-- Digits that write a number, with zeros in front of it or none. -/
def Digits (ds : List Char) (n : Nat) : Prop :=
  ds ≠ [] ∧ (∀ d ∈ ds, d.isDigit = true) ∧ n = Nat.ofDigitChars 10 ds 0

/-- A text that writes a number: digits, after at most one plus sign. -/
def Decimal (s : List Char) (n : Nat) : Prop :=
  Digits s n ∨ ∃ ds, s = '+' :: ds ∧ Digits ds n

theorem not_digits_plus {ds : List Char} {n : Nat} : ¬ Digits ('+' :: ds) n := by
  rintro ⟨-, h, -⟩
  exact absurd (h '+' List.mem_cons_self) (by decide)

theorem decimal_plus_iff {ds : List Char} {n : Nat} : Decimal ('+' :: ds) n ↔ Digits ds n := by
  constructor
  · rintro (h | ⟨ds', h, hd⟩)
    · exact absurd h not_digits_plus
    · rwa [(List.cons.inj h).2]
  · exact fun h => .inr ⟨ds, rfl, h⟩

theorem decimal_iff_of_not_plus {s : List Char} (hs : ∀ ds, s ≠ '+' :: ds) {n : Nat} : Decimal s n ↔ Digits s n := by
  constructor
  · rintro (h | ⟨ds, h, -⟩)
    · exact h
    · exact absurd h (hs ds)
  · exact .inl

theorem foldl_digits_eq (ds : List Char) :
    ds.foldl (fun n c => n * 10 + (c.toNat - 48)) 0 = Nat.ofDigitChars 10 ds 0 := by
  rw [Nat.ofDigitChars_eq_foldl]
  simp only [Nat.mul_comm 10]
  rfl

/-- The numbers that are read are those below the limit that the text writes. -/
theorem natural?_eq_some_iff {limit : Nat} {s : List Char} {n : Nat} :
    natural? limit s = some n ↔ Decimal s n ∧ n < limit := by
  have hdigits (ds : List Char) : (if ds.isEmpty || !ds.all Char.isDigit then none
      else if Nat.ofDigitChars 10 ds 0 < limit then some (Nat.ofDigitChars 10 ds 0) else none) = some n ↔
        Digits ds n ∧ n < limit := by
    unfold Digits
    split
    · next h =>
      simp only [reduceCtorEq, false_iff]
      rintro ⟨⟨hne, hd, -⟩, -⟩
      exact absurd h (by simpa [hne] using hd)
    · next h =>
      have hn : ds ≠ [] ∧ ∀ d ∈ ds, d.isDigit = true := by simpa using h
      rw [Option.ite_none_right_eq_some, Option.some.injEq]
      constructor
      · rintro ⟨hl, rfl⟩
        exact ⟨⟨hn.1, hn.2, rfl⟩, hl⟩
      · rintro ⟨⟨-, -, rfl⟩, hl⟩
        exact ⟨hl, rfl⟩
  unfold natural?
  dsimp only
  rw [foldl_digits_eq]
  split
  · rw [hdigits, decimal_plus_iff]
  · next h => rw [hdigits, decimal_iff_of_not_plus fun ds e => h ds e]

theorem Digits.natural?_eq {ds : List Char} {n : Nat} (h : Digits ds n) (limit : Nat) :
    natural? limit ds = if n < limit then some n else none := by
  split_ifs with hn
  · exact natural?_eq_some_iff.2 ⟨.inl h, hn⟩
  · refine Option.eq_none_iff_forall_ne_some.2 fun m hm => hn ?_
    obtain ⟨hd | ⟨ds', rfl, -⟩, hm⟩ := natural?_eq_some_iff.1 hm
    · rwa [h.2.2, ← hd.2.2]
    · exact absurd h not_digits_plus

/-! ## Texts -/

/-- A visible ASCII byte, a space or a tab. -/
def Readable (b : UInt8) : Prop :=
  b = 9 ∨ 0x20 ≤ b ∧ b ≤ 0x7E

theorem Readable.lt {b : UInt8} (h : Readable b) : b.toNat < 128 := by
  simp only [Readable, UInt8.le_iff_toNat_le] at h
  rcases h with rfl | ⟨-, h⟩
  · decide
  · exact Nat.lt_of_le_of_lt h (by decide)

theorem encode_toLatin {bs : Bytes} (h : ∀ b ∈ bs, b.toNat < 128) : Utf8.encode (Bytes.toLatin bs) = bs := by
  have hlt : ∀ c ∈ Bytes.toLatin bs, c.toNat < 128 := by
    intro c hc
    obtain ⟨b, hb, rfl⟩ := List.mem_map.1 hc
    rw [Utf8.latin_toNat]
    exact h b hb
  rw [Utf8.encode_of_ascii hlt, Bytes.toLatin, List.map_map]
  exact (List.map_congr_left fun b _ => Utf8.ascii_latin b).trans (List.map_id bs)

theorem valueText?_eq_some_iff {value : Bytes} {s : String} :
    valueText? value = some s ↔ value = Utf8.encode s.toList ∧ ∀ b ∈ value, Readable b := by
  have hall : (value.all fun b => b == ascii '\t' || (b ≥ 0x20 && b < 0x7F)) = true ↔ ∀ b ∈ value, Readable b := by
    have htab : ascii '\t' = 9 := rfl
    rw [List.all_eq_true]
    refine forall₂_congr fun b _ => ?_
    rw [Bool.or_eq_true, Bool.and_eq_true, beq_iff_eq, decide_eq_true_eq, decide_eq_true_eq, Readable, htab,
      UInt8.lt_iff_toNat_lt, UInt8.le_iff_toNat_le (b := 0x7E)]
    exact or_congr_right (and_congr_right fun _ => Nat.lt_succ_iff)
  rw [valueText?, Option.ite_none_right_eq_some, Option.some.injEq, hall]
  constructor
  · rintro ⟨h, rfl⟩
    rw [String.toList_ofList, encode_toLatin fun b hb => (h b hb).lt]
    exact ⟨rfl, h⟩
  · rintro ⟨hs, h⟩
    -- Two texts of the same bytes are one.
    have htext : Utf8.decode? value = some (Bytes.toLatin value) :=
      Utf8.decode?_eq_some_iff.2 (encode_toLatin fun b hb => (h b hb).lt).symm
    rw [Utf8.decode?_eq_some_iff.2 hs, Option.some.injEq] at htext
    exact ⟨h, by rw [← htext, String.ofList_toList]⟩

/-! ## Fields -/

namespace Fields

/-- The value is the first of a field. -/
def First (fs : Fields) (name : String) (value : Bytes) : Prop :=
  ∃ before after, fs = before ++ (Utf8.encode name.toList, value) :: after ∧
    ∀ f ∈ before, f.1 ≠ Utf8.encode name.toList

/-- The first value of a field is the text, all of it visible or blank. -/
def Tells (fs : Fields) (name s : String) : Prop :=
  fs.First name (Utf8.encode s.toList) ∧ ∀ b ∈ Utf8.encode s.toList, Readable b

theorem value?_eq_some_iff {fs : Fields} {name : String} {value : Bytes} :
    fs.value? name = some value ↔ fs.First name value := by
  rw [value?, List.lookup_eq_some_iff]
  refine exists₂_congr fun before after => and_congr_right fun _ => forall₂_congr fun f _ => ?_
  rw [bne_iff_ne, ne_comm]

theorem tells_iff {fs : Fields} {name s : String} : (fs.value? name).bind valueText? = some s ↔ fs.Tells name s := by
  rw [Option.bind_eq_some_iff]
  constructor
  · rintro ⟨value, hv, hs⟩
    obtain ⟨rfl, hr⟩ := valueText?_eq_some_iff.1 hs
    exact ⟨value?_eq_some_iff.1 hv, hr⟩
  · rintro ⟨hf, hr⟩
    exact ⟨_, value?_eq_some_iff.2 hf, valueText?_eq_some_iff.2 ⟨rfl, hr⟩⟩

end Fields

end Courier.Wire
