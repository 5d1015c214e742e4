import Courier.Bytes
import Courier.Proofs.Text.Utf8

/-!
# Texts that differ in capitals only

* `SameLetter`, `Respelled` : characters, and texts, that are the same but for the case of ASCII letters, told by what
  the letters are and not by a common form;
* `sameLetters_iff` : comparing the lower-case forms decides that.
-/

namespace Courier

/-- The same character, or an ASCII letter in its two cases. -/
inductive SameLetter : Char → Char → Prop
  | same (c : Char) : SameLetter c c
  | capital {a b : Char} : 'A' ≤ a → a ≤ 'Z' → b.toNat = a.toNat + 32 → SameLetter a b
  | small {a b : Char} : 'A' ≤ b → b ≤ 'Z' → a.toNat = b.toNat + 32 → SameLetter a b

/-- The same text but for the case of its ASCII letters. -/
abbrev Respelled (s t : List Char) : Prop :=
  List.Forall₂ SameLetter s t

theorem capital_iff {c : Char} : 'A' ≤ c ∧ c ≤ 'Z' ↔ 65 ≤ c.toNat ∧ c.toNat ≤ 90 := by
  rw [Char.le_def, Char.le_def, UInt32.le_iff_toNat_le, UInt32.le_iff_toNat_le]
  rfl

theorem toNat_lowerAscii (c : Char) :
    (lowerAscii c).toNat = if 65 ≤ c.toNat ∧ c.toNat ≤ 90 then c.toNat + 32 else c.toNat := by
  unfold lowerAscii
  simp only [capital_iff]
  split_ifs with h
  · exact Utf8.toNat_ofNat_valid (.inl (by omega))
  · rfl

theorem lowerAscii_eq_iff {a b : Char} : lowerAscii a = lowerAscii b ↔ SameLetter a b := by
  rw [← Char.toNat_inj, toNat_lowerAscii, toNat_lowerAscii]
  constructor
  · intro h
    split_ifs at h with ha hb hb
    · rw [Char.toNat_inj.1 (by omega : a.toNat = b.toNat)]
      exact .same b
    · exact .capital (capital_iff.2 ha).1 (capital_iff.2 ha).2 h.symm
    · exact .small (capital_iff.2 hb).1 (capital_iff.2 hb).2 h
    · rw [Char.toNat_inj.1 h]
      exact .same b
  · intro h
    cases h with
    | same => rfl
    | capital h₁ h₂ h =>
      have := capital_iff.1 ⟨h₁, h₂⟩
      rw [if_pos this, if_neg (by omega), h]
    | small h₁ h₂ h =>
      have := capital_iff.1 ⟨h₁, h₂⟩
      rw [if_pos this, if_neg (by omega), h]

theorem sameLetters_iff {s t : List Char} : sameLetters s t = true ↔ Respelled s t := by
  unfold sameLetters
  rw [beq_iff_eq]
  induction s generalizing t with
  | nil => cases t <;> simp
  | cons a s ih =>
    cases t with
    | nil => simp
    | cons b t =>
      rw [List.map_cons, List.map_cons, List.cons.injEq, lowerAscii_eq_iff, ih]
      exact List.forall₂_cons.symm

instance (s t : List Char) : Decidable (Respelled s t) :=
  decidable_of_iff _ sameLetters_iff

end Courier
