import Courier.Template
import Courier.Proofs.Text.Utf8
import Mathlib.Tactic

/-!
# Where a token first stands

* `FirstAt token text i` : `i` is the first position of `token` in `text`; there is at most one
  (`FirstAt.unique`), and one exactly when the token occurs (`exists_firstAt_iff`);
* `position?_eq_some_iff` : the search for a placeholder finds that position;
* `FirstAt.encode` : the same position in the bytes of the text, which is the number of bytes before it, since no
  byte of another character is a percent sign;
* `Placeholder.apart` : two tokens do not overlap.
-/

namespace Courier
open String (utf8EncodeChar)

variable {α : Type}

/-- `i` is the first position at which `token` stands in `text`. -/
def FirstAt (token text : List α) (i : Nat) : Prop :=
  token <+: text.drop i ∧ ∀ k < i, ¬ token <+: text.drop k

theorem FirstAt.unique {token text : List α} {i j : Nat} (hi : FirstAt token text i) (hj : FirstAt token text j) :
    i = j := by
  rcases lt_trichotomy i j with h | h | h
  · exact absurd hi.1 (hj.2 i h)
  · exact h
  · exact absurd hj.1 (hi.2 j h)

theorem firstAt_zero_iff {token text : List α} : FirstAt token text 0 ↔ token <+: text := by
  simp [FirstAt]

theorem firstAt_succ_iff {token text : List α} {a : α} {i : Nat} :
    FirstAt token (a :: text) (i + 1) ↔ ¬ token <+: a :: text ∧ FirstAt token text i := by
  constructor
  · rintro ⟨h, hn⟩
    exact ⟨hn 0 (by omega), h, fun k hk => hn (k + 1) (by omega)⟩
  · rintro ⟨h0, h, hn⟩
    refine ⟨h, fun k hk => ?_⟩
    cases k with
    | zero => exact h0
    | succ k => exact hn k (by omega)

theorem infix_iff_exists_prefix_drop {token text : List α} : token <:+: text ↔ ∃ i, token <+: text.drop i := by
  constructor
  · rintro ⟨s, t, rfl⟩
    exact ⟨s.length, t, by simp⟩
  · rintro ⟨i, h⟩
    exact h.isInfix.trans (List.drop_suffix i text).isInfix

theorem exists_firstAt_iff {token text : List α} : (∃ i, FirstAt token text i) ↔ token <:+: text := by
  classical
  rw [infix_iff_exists_prefix_drop]
  constructor
  · rintro ⟨i, h⟩
    exact ⟨i, h.1⟩
  · intro h
    exact ⟨Nat.find h, Nat.find_spec h, fun k hk => Nat.find_min h hk⟩

/-! ## The search for a placeholder -/

namespace Placeholder

theorem prefix_cons_iff {c a : Char} {rest : List Char} :
    ['%', c] <+: a :: rest ↔ a = '%' ∧ rest.head? = some c := by
  cases rest <;> simp [List.cons_prefix_cons, eq_comm]

theorem positionFrom_eq_some_iff {c : Char} {raw : List Char} {i k : Nat} :
    positionFrom c i raw = some k ↔ ∃ j, k = i + j ∧ FirstAt ['%', c] raw j := by
  induction raw generalizing i with
  | nil => simp [positionFrom, FirstAt]
  | cons a rest ih =>
    rw [positionFrom]
    split_ifs with h
    · have h0 := prefix_cons_iff.2 h
      constructor
      · rintro ⟨⟩
        exact ⟨0, rfl, firstAt_zero_iff.2 h0⟩
      · rintro ⟨j, rfl, hj⟩
        rw [hj.unique (firstAt_zero_iff.2 h0), Nat.add_zero]
    · have h0 := fun hp => h (prefix_cons_iff.1 hp)
      rw [ih]
      constructor
      · rintro ⟨j, rfl, hj⟩
        exact ⟨j + 1, by omega, firstAt_succ_iff.2 ⟨h0, hj⟩⟩
      · rintro ⟨j, rfl, hj⟩
        cases j with
        | zero => exact absurd (firstAt_zero_iff.1 hj) h0
        | succ j => exact ⟨j, by omega, (firstAt_succ_iff.1 hj).2⟩

theorem position?_eq_some_iff {p : Placeholder} {raw : List Char} {i : Nat} :
    p.position? raw = some i ↔ FirstAt p.token raw i := by
  simp [position?, positionFrom_eq_some_iff, token]

theorem position?_eq_none_iff {p : Placeholder} {raw : List Char} :
    p.position? raw = none ↔ ¬ p.token <:+: raw := by
  rw [← exists_firstAt_iff, Option.eq_none_iff_forall_ne_some]
  simp [position?_eq_some_iff]

/-- Where a token stands: a percent sign, and the letter after it. -/
theorem token_prefix_drop_iff {p : Placeholder} {raw : List Char} {i : Nat} :
    p.token <+: raw.drop i ↔ raw[i]? = some '%' ∧ raw[i + 1]? = some p.letter := by
  rcases h : raw.drop i with _ | ⟨a, rest⟩
  · have : raw[i]? = none := by simpa using h
    simp [token, this]
  · have h0 : raw[i]? = some a := by rw [← List.head?_drop, h, List.head?_cons]
    have h1 : raw[i + 1]? = rest.head? := by rw [← List.head?_drop, ← List.tail_drop, h, List.tail_cons]
    rw [token, prefix_cons_iff, h0, h1, Option.some_inj]

theorem apart {p q : Placeholder} (hpq : p ≠ q) {raw : List Char} {i j : Nat} (hi : p.token <+: raw.drop i)
    (hj : q.token <+: raw.drop j) : i + 2 ≤ j ∨ j + 2 ≤ i := by
  rw [token_prefix_drop_iff] at hi hj
  have hl : p.letter ≠ q.letter ∧ p.letter ≠ '%' ∧ q.letter ≠ '%' := by
    cases p <;> cases q <;> first | exact absurd rfl hpq | decide
  by_contra h
  obtain h | h | h : j = i ∨ j = i + 1 ∨ i = j + 1 := by omega
  · subst h
    exact hl.1 (Option.some.inj (hi.2.symm.trans hj.2))
  · subst h
    exact hl.2.1 (Option.some.inj (hi.2.symm.trans hj.1))
  · subst h
    exact hl.2.2 (Option.some.inj (hj.2.symm.trans hi.1))

end Placeholder

/-! ## Positions in the bytes of a text -/

namespace Utf8

/-- The number of bytes before a position of a text. -/
def offset (text : List Char) (i : Nat) : Nat := (encode (text.take i)).length

theorem encode_eq_append (text : List Char) (i : Nat) :
    encode text = encode (text.take i) ++ encode (text.drop i) := by
  rw [← encode_append, List.take_append_drop]

theorem take_offset (text : List Char) (i : Nat) : (encode text).take (offset text i) = encode (text.take i) := by
  rw [encode_eq_append text i, offset, List.take_left]

theorem drop_offset (text : List Char) (i : Nat) : (encode text).drop (offset text i) = encode (text.drop i) := by
  rw [encode_eq_append text i, offset, List.drop_left]

theorem offset_mono (text : List Char) {i j : Nat} (h : i ≤ j) : offset text i ≤ offset text j := by
  rw [offset, offset, ← Nat.add_sub_cancel' h, List.take_add, encode_append, List.length_append]
  exact Nat.le_add_right _ _

theorem offset_cons_succ (c : Char) (text : List Char) (i : Nat) :
    offset (c :: text) (i + 1) = (utf8EncodeChar c).length + offset text i := by
  rw [offset, List.take_succ_cons, encode_cons, List.length_append, offset]

theorem ascii_inj {c d : Char} (hc : c.toNat < 128) (hd : d.toNat < 128) (h : ascii c = ascii d) : c = d := by
  have := congrArg UInt8.toNat h
  simp only [Nat.toUInt8_eq, UInt8.toNat_ofNat'] at this
  rw [← Char.toNat_inj]
  omega

theorem eq_of_ascii_mem_encodeChar {a c : Char} (ha : a.toNat < 128) (h : ascii a ∈ utf8EncodeChar c) : a = c := by
  by_cases hc : c.toNat < 128
  · rw [encodeChar_ascii hc, List.mem_singleton] at h
    exact ascii_inj ha hc h
  · have := le_of_mem_encodeChar (by omega) h
    simp only [Nat.toUInt8_eq, UInt8.toNat_ofNat'] at this
    omega

theorem exists_of_encode_eq_cons {text : List Char} {a : Char} {bs : Bytes} (ha : a.toNat < 128)
    (h : encode text = ascii a :: bs) : ∃ rest, text = a :: rest ∧ encode rest = bs := by
  cases text with
  | nil => cases h
  | cons c rest =>
    obtain ⟨d, ds, e⟩ := List.exists_cons_of_ne_nil (String.utf8EncodeChar_ne_nil (c := c))
    rw [encode_cons, e] at h
    have hm : ascii a ∈ utf8EncodeChar c := by
      rw [e, ← (List.cons.inj h).1]
      exact List.mem_cons_self
    obtain rfl := eq_of_ascii_mem_encodeChar ha hm
    rw [encodeChar_ascii ha] at e
    rw [← (List.cons.inj e).2] at h
    exact ⟨rest, rfl, (List.cons.inj h).2⟩

end Utf8

namespace Placeholder

theorem encode_token (p : Placeholder) : Utf8.encode p.token = [ascii '%', ascii p.letter] := by
  cases p <;> rfl

theorem token_prefix_of_encode {p : Placeholder} {raw : List Char} (h : Utf8.encode p.token <+: Utf8.encode raw) :
    p.token <+: raw := by
  obtain ⟨bs, h⟩ := h
  rw [encode_token] at h
  have hl : p.letter.toNat < 128 := by cases p <;> decide
  obtain ⟨rest, rfl, h₁⟩ := Utf8.exists_of_encode_eq_cons (by decide) h.symm
  obtain ⟨rest, rfl, -⟩ := Utf8.exists_of_encode_eq_cons hl h₁
  exact ⟨rest, rfl⟩

/-- The bytes of a token stand in the bytes of a text exactly where the token stands in the text. -/
theorem encode_token_prefix_drop_iff {p : Placeholder} {raw : List Char} {k : Nat} :
    Utf8.encode p.token <+: (Utf8.encode raw).drop k ↔ ∃ i, k = Utf8.offset raw i ∧ p.token <+: raw.drop i := by
  constructor
  · intro h
    induction raw generalizing k with
    | nil => simp [encode_token] at h
    | cons c raw ih =>
      by_cases hk : (utf8EncodeChar c).length ≤ k
      · obtain ⟨k, rfl⟩ := Nat.exists_eq_add_of_le hk
        rw [Utf8.encode_cons, List.drop_length_add_append] at h
        obtain ⟨i, rfl, hi⟩ := ih h
        exact ⟨i + 1, (Utf8.offset_cons_succ c raw i).symm, hi⟩
      · -- A percent sign among the bytes of one character is that character, and stands at its front.
        have hd : ∃ d ds, (utf8EncodeChar c).drop k = d :: ds :=
          List.exists_cons_of_ne_nil (by rw [ne_eq, List.drop_eq_nil_iff]; exact hk)
        obtain ⟨d, ds, e⟩ := hd
        have hm : ascii '%' ∈ utf8EncodeChar c := by
          rw [Utf8.encode_cons, List.drop_append_of_le_length (by omega), e, encode_token, List.cons_append,
            List.cons_prefix_cons] at h
          rw [h.1]
          exact List.mem_of_mem_drop (e ▸ List.mem_cons_self)
        obtain rfl := Utf8.eq_of_ascii_mem_encodeChar (by decide) hm
        rw [Utf8.encodeChar_ascii (by decide), List.length_singleton] at hk
        obtain rfl : k = 0 := by omega
        exact ⟨0, rfl, token_prefix_of_encode h⟩
  · rintro ⟨i, rfl, s, hs⟩
    rw [Utf8.drop_offset, ← hs, Utf8.encode_append]
    exact List.prefix_append _ _

end Placeholder

theorem FirstAt.encode {p : Placeholder} {raw : List Char} {i : Nat} (h : FirstAt p.token raw i) :
    FirstAt (Utf8.encode p.token) (Utf8.encode raw) (Utf8.offset raw i) := by
  refine ⟨Placeholder.encode_token_prefix_drop_iff.2 ⟨i, rfl, h.1⟩, fun k hk hp => ?_⟩
  obtain ⟨j, rfl, hj⟩ := Placeholder.encode_token_prefix_drop_iff.1 hp
  have hij : i ≤ j := by
    by_contra hlt
    exact h.2 j (by omega) hj
  have := Utf8.offset_mono raw hij
  omega

end Courier
