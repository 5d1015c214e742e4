import Courier.Proofs.Json.Members

/-!
# Reading values of a known type

* `ReadsValue` : what a reader comes to at a value, whatever blanks stand before it and whatever follows;
* `readsValue_string`, `readsValue_null`, `ReadsValue.optional` : texts, and values that may be `null`;
* `Integer.read_eq`, `integer_toDigits` : a whole number below `2 ^ 64` is read from its digits, and these are printed;
* `ReadsValue.readsMember` : a field whose value is read is taken over.
-/

namespace Courier.Json

variable {α β : Type}

/-- The reader comes to `x` at the bytes `v` of a value. -/
def ReadsValue (read : Reader α) (v : Bytes) (x : α) : Prop :=
  ∀ a rest, Blanks a → Delimited rest → read (a ++ (v ++ rest)) = .ok (x, rest)

theorem ReadsValue.readsMember {read : Reader α} {v : Bytes} {x : α} (h : ReadsValue read v x)
    {member : String → β → Reader β} {acc : β} {name : String} {old : Option α} (put : Option α → β)
    (hm : ∀ bs, member name acc bs = (readField read old bs).map fun r => (put r.1, r.2)) (ho : old.isSome = false) :
    ReadsMember member acc (name, v) (.ok (put (some x))) := by
  intro b c rest hb hc hr
  rw [hm, readField_eq ho hb (h c rest hc hr)]
  rfl

/-! ## Texts, and values that may be missing -/

theorem readsValue_string {s : Bytes} {text : String} (hs : Literal s text.toList) :
    ReadsValue string? (quoted s) text := by
  intro a rest ha _
  exact string?_eq ha hs rest

theorem readsValue_null (read : Reader α) : ReadsValue (optional? read) (Utf8.encode "null".toList) none := by
  intro a rest ha _
  have hn : Utf8.encode "null".toList = ascii 'n' :: Bytes.ofLatin ['u', 'l', 'l'] := by decide
  rw [hn, List.cons_append, optional?, skipBlank_append ha (by decide)]
  rfl

/-- A value that is there is read as the value itself, unless it could be taken for `null`. -/
theorem ReadsValue.optional {read : Reader α} {b : UInt8} {v : Bytes} {x : α} (h : ReadsValue read (b :: v) x)
    (hb : isBlank b = false) (hn : b ≠ ascii 'n') : ReadsValue (optional? read) (b :: v) (some x) := by
  intro a rest ha hr
  have hread := h [] rest Blanks.nil hr
  rw [List.nil_append, List.cons_append] at hread
  rw [List.cons_append, optional?, skipBlank_append ha hb]
  dsimp only
  rw [if_neg hn, hread]
  rfl

/-! ## Whole numbers -/

theorem Digit.isDigit {b : UInt8} (hb : Digit b) : isDigit b = true := by
  have hall : (Bytes.ofLatin ['0', '1', '2', '3', '4', '5', '6', '7', '8', '9']).all Json.isDigit = true := by decide
  exact List.all_eq_true.1 hall b hb

theorem not_in_number_of_mem_delimiters : ∀ b ∈ delimiters,
    isDigit b = false ∧ b ≠ ascii '.' ∧ ¬ (b = ascii 'e' ∨ b = ascii 'E') := by
  decide +kernel

theorem Integer.forall_digit {i : Bytes} (hi : Integer i) : ∀ d ∈ i, Digit d := by
  intro d hd
  cases hi with
  | zero =>
    rw [List.mem_singleton.1 hd]
    unfold Digit
    decide
  | digits h _ hs =>
    rcases List.mem_cons.1 hd with rfl | hd
    · exact h
    · exact hs d hd

theorem ofDigitChars_cons_latin (d : UInt8) (ds : Bytes) (n : Nat) :
    Nat.ofDigitChars 10 (Bytes.toLatin (d :: ds)) n = Nat.ofDigitChars 10 (Bytes.toLatin ds) (n * 10 + (d.toNat - 48)) := by
  rw [Bytes.toLatin, List.map_cons, Nat.ofDigitChars_cons, Utf8.latin_toNat, Nat.mul_comm]
  rfl

theorem absorb_eq {n : Nat} {ds : Bytes} (h : Nat.ofDigitChars 10 (Bytes.toLatin ds) n < limit64) :
    Number.absorb n ds = (Nat.ofDigitChars 10 (Bytes.toLatin ds) n, []) := by
  induction ds generalizing n with
  | nil => rfl
  | cons d ds ih =>
    rw [ofDigitChars_cons_latin] at h ⊢
    have hle : n * 10 + (d.toNat - 48) ≤ Nat.ofDigitChars 10 (Bytes.toLatin ds) (n * 10 + (d.toNat - 48)) := by
      rw [Nat.ofDigitChars_eq_ofDigitChars_zero]
      have hpow : 0 < 10 ^ (Bytes.toLatin ds).length := Nat.pow_pos (by decide)
      exact Nat.le_add_right_of_le (Nat.le_mul_of_pos_left _ hpow)
    rw [Number.absorb, if_neg (by omega), ih h]

theorem Integer.read_eq {i rest : Bytes} (hi : Integer i) {n : Nat} (hn : n = Nat.ofDigitChars 10 (Bytes.toLatin i) 0)
    (hl : n < limit64) (hr : Delimited rest) : Number.read false (i ++ rest) = .ok (.natural n, rest) := by
  subst hn
  obtain ⟨hb⟩ := hr
  rename_i b rest
  obtain ⟨hdigit, hpoint, hmark⟩ := not_in_number_of_mem_delimiters b hb
  have htake : (i ++ b :: rest).takeWhile Json.isDigit = i := by
    rw [List.takeWhile_append_of_pos fun d hd => (hi.forall_digit d hd).isDigit,
      List.takeWhile_cons_of_neg (by simp [hdigit]), List.append_nil]
  have hdrop : (i ++ b :: rest).dropWhile Json.isDigit = b :: rest := by
    rw [List.dropWhile_append_of_pos fun d hd => (hi.forall_digit d hd).isDigit,
      List.dropWhile_cons_of_neg (by simp [hdigit])]
  have htail (m : Nat) : Number.readTail false m 0 (b :: rest) = .ok (.natural m, b :: rest) := by
    unfold Number.readTail
    dsimp only
    rw [if_neg hpoint, if_neg hmark, if_neg (by decide), if_neg (by decide)]
  rw [Number.read, htake, hdrop]
  -- Only a zero by itself may start with a zero.
  cases hi with
  | zero => exact htail 0
  | @digits d ds hd hne hds =>
    have h0 : d ≠ 0x30 := hne
    split
    · next h _ => cases h
    · next h _ => cases h
    · next h => exact absurd (List.cons.inj h).1 h0
    · dsimp only
      rw [absorb_eq hl]
      exact htail _

/-- A number is printed without a zero before its other digits. -/
theorem head_toDigits_ne_zero {n : Nat} (hn : 0 < n) : ∃ d ds, Nat.toDigits 10 n = d :: ds ∧ d ≠ '0' := by
  induction n using Nat.strongRecOn with
  | ind n ih =>
    by_cases h : n < 10
    · refine ⟨n.digitChar, [], Nat.toDigits_of_lt_base h, ?_⟩
      have hall : ∀ n < 10, 0 < n → n.digitChar ≠ '0' := by decide
      exact hall n h hn
    · obtain ⟨d, ds, hd, h0⟩ := ih (n / 10) (by omega) (by omega)
      exact ⟨d, ds ++ [(n % 10).digitChar], by rw [Nat.toDigits_of_base_le (by decide) (by omega), hd]; rfl, h0⟩

theorem digit_of_isDigit {c : Char} (h : c.isDigit = true) : Digit (ascii c) ∧ c.toNat < 128 := by
  have hall : ∀ n < 58, 48 ≤ n → Digit (Nat.toUInt8 n) := by
    unfold Digit
    decide
  simp only [Char.isDigit, Bool.and_eq_true, decide_eq_true_eq, ge_iff_le, UInt32.le_iff_toNat_le] at h
  obtain ⟨h₁, h₂⟩ := h
  exact ⟨hall c.toNat (by show c.val.toNat < 58; exact Nat.lt_succ_of_le h₂) h₁, by
    show c.val.toNat < 128
    exact Nat.lt_of_le_of_lt h₂ (by decide)⟩

theorem isDigit_of_mem_toDigits {n : Nat} {c : Char} (hc : c ∈ Nat.toDigits 10 n) : c.isDigit = true :=
  Nat.isDigit_of_mem_toDigits (by decide) (by decide) hc

theorem integer_toDigits (n : Nat) : Integer ((Nat.toDigits 10 n).map ascii) := by
  rcases Nat.eq_zero_or_pos n with rfl | hn
  · exact .zero
  · obtain ⟨d, ds, hd, h0⟩ := head_toDigits_ne_zero hn
    have hall : ∀ c ∈ d :: ds, Digit (ascii c) ∧ c.toNat < 128 := fun c hc =>
      digit_of_isDigit (isDigit_of_mem_toDigits (hd ▸ hc))
    rw [hd, List.map_cons]
    refine .digits (hall d List.mem_cons_self).1 (fun h => h0 ?_) fun e he => ?_
    · have hlt := (hall d List.mem_cons_self).2
      have h := congrArg latin h
      rwa [Utf8.latin_ascii (by omega), Utf8.latin_ascii (by decide)] at h
    · obtain ⟨c, hc, rfl⟩ := List.mem_map.1 he
      exact (hall c (List.mem_cons_of_mem _ hc)).1

theorem readsValue_natural {n : Nat} (h : n < limit64) :
    ReadsValue (optional? natural?) (Utf8.encode (toString n).toList) (some n) := by
  have hascii : ∀ c ∈ Nat.toDigits 10 n, c.toNat < 128 := fun c hc => (digit_of_isDigit (isDigit_of_mem_toDigits hc)).2
  have htext : Utf8.encode (toString n).toList = (Nat.toDigits 10 n).map ascii := by
    rw [Nat.toString_eq_repr, Nat.toList_repr, Utf8.encode_of_ascii hascii]
  have hvalue : n = Nat.ofDigitChars 10 (Bytes.toLatin ((Nat.toDigits 10 n).map ascii)) 0 := by
    rw [Utf8.toLatin_map_ascii fun c hc => Nat.lt_trans (hascii c hc) (by decide), Nat.ofDigitChars_ten_toDigits]
  have hi := integer_toDigits n
  rw [htext]
  obtain ⟨d, ds, hd⟩ := List.exists_cons_of_ne_nil (List.map_eq_nil_iff.not.2 (Nat.toDigits_ne_nil (n := n) (b := 10)))
  rw [hd] at hi hvalue ⊢
  have hdigit : Digit d := hi.forall_digit d List.mem_cons_self
  have hnot : ∀ d, Digit d → isBlank d = false ∧ d ≠ ascii 'n' ∧ d ≠ ascii '-' := by
    unfold Digit
    decide +kernel
  obtain ⟨hblank, hn, hminus⟩ := hnot d hdigit
  refine ReadsValue.optional (fun a rest ha hr => ?_) hblank hn
  have hread := hi.read_eq hvalue h hr
  rw [List.cons_append] at hread
  rw [List.cons_append, natural?, skipBlank_append ha hblank]
  dsimp only
  rw [if_pos (.inr hdigit.isDigit), if_neg hminus, decide_eq_false hminus, hread]

end Courier.Json
