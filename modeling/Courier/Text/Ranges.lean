/-!
# Character ranges

A property of characters is given as an ascending list of ranges of code points, ends included. Whatever `contains`
finds lies in one of the ranges (`exists_of_contains`).
-/

namespace Courier.Text.Ranges

/-- Whether `n` is in one of the ascending ranges; the search stops at the first range above `n`. -/
def contains : List (Nat × Nat) → Nat → Bool
  | [], _ => false
  | (lo, hi) :: rest, n => if n < lo then false else if n ≤ hi then true else contains rest n

theorem exists_of_contains {n : Nat} : ∀ {rs : List (Nat × Nat)}, contains rs n = true →
    ∃ r ∈ rs, r.1 ≤ n ∧ n ≤ r.2
  | [], h => by simp [contains] at h
  | (lo, hi) :: rest, h => by
    rw [contains] at h
    split at h
    · simp at h
    · split at h
      · exact ⟨(lo, hi), by simp, by omega, by omega⟩
      · obtain ⟨r, hr, hb⟩ := exists_of_contains h
        exact ⟨r, by simp [hr], hb⟩

end Courier.Text.Ranges
