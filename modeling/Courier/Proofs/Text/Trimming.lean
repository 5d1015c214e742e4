import Courier.Proofs.Text.Case
import Courier.Text.Blank
import Mathlib.Data.List.TakeWhile

/-!
# Texts in white space

* `whiteSpace` : the characters of the property White_Space, one by one; `isBlank_iff` : the ranges hold these;
* `Padded` : a text with nothing but white space before and after another; `padded_trim`, `Padded.trim_eq` : trimming
  takes off such space, and nothing else;
* `trim_eq_self` : a text without white space stays; `mem_trim` : so does what stands between two visible characters;
* `trim_map_lowerAscii` : it makes no difference whether a text is trimmed before its capitals are made small.
-/

namespace Courier.Text

/-- The characters of the property White_Space. -/
def whiteSpace : List Char :=
  ['\u0009', '\u000A', '\u000B', '\u000C', '\u000D', '\u0020', '\u0085', '\u00A0', '\u1680', '\u2000', '\u2001',
   '\u2002', '\u2003', '\u2004', '\u2005', '\u2006', '\u2007', '\u2008', '\u2009', '\u200A', '\u2028', '\u2029',
   '\u202F', '\u205F', '\u3000']

/-- A text that is another but for white space before it and after it. -/
inductive Padded (word : List Char) : List Char → Prop
  | around {before after : List Char} : (∀ c ∈ before, c ∈ whiteSpace) → (∀ c ∈ after, c ∈ whiteSpace) →
      Padded word (before ++ word ++ after)

theorem isBlank_iff {c : Char} : isBlank c = true ↔ c ∈ whiteSpace := by
  have hmem : c ∈ whiteSpace ↔ c.toNat ∈ whiteSpace.map Char.toNat :=
    (List.mem_map_of_injective fun _ _ h => Char.toNat_inj.1 h).symm
  rw [hmem]
  simp only [isBlank, Bool.or_eq_true, Bool.and_eq_true, decide_eq_true_eq, beq_iff_eq, whiteSpace, List.map_cons,
    List.map_nil, List.mem_cons, List.not_mem_nil, or_false, Char.reduceToNat]
  omega

theorem isBlank_lowerAscii (c : Char) : isBlank (lowerAscii c) = isBlank c := by
  rw [Bool.eq_iff_iff]
  simp only [isBlank, toNat_lowerAscii, Bool.or_eq_true, Bool.and_eq_true, decide_eq_true_eq, beq_iff_eq]
  split_ifs <;> omega

/-! ## What trimming takes off -/

section Trim
variable {cs before after : List Char}

theorem trimEnd_append (ha : ∀ c ∈ after, c ∈ whiteSpace) : trimEnd (cs ++ after) = trimEnd cs := by
  unfold trimEnd
  rw [List.reverse_append, List.dropWhile_append_of_pos fun c hc => isBlank_iff.2 (ha c (List.mem_reverse.1 hc))]

theorem trim_append (hb : ∀ c ∈ before, c ∈ whiteSpace) (ha : ∀ c ∈ after, c ∈ whiteSpace) :
    trim (before ++ cs ++ after) = trim cs := by
  unfold trim
  rw [List.append_assoc, List.dropWhile_append_of_pos fun c hc => isBlank_iff.2 (hb c hc), List.dropWhile_append]
  split
  · next h =>
    -- All of it is white space.
    rw [List.isEmpty_iff.1 h, List.dropWhile_eq_nil_iff.2 fun c hc => isBlank_iff.2 (ha c hc)]
  · exact trimEnd_append ha

theorem Padded.trim_eq {word s : List Char} (h : Padded word s) : trim s = trim word := by
  obtain ⟨hb, ha⟩ := h
  exact trim_append hb ha

theorem trimEnd_append_takeWhile (cs : List Char) : trimEnd cs ++ (cs.reverse.takeWhile isBlank).reverse = cs := by
  rw [trimEnd, ← List.reverse_append, List.takeWhile_append_dropWhile, List.reverse_reverse]

theorem padded_trim (s : List Char) : Padded (trim s) s := by
  have hsplit : s = s.takeWhile isBlank ++ trim s ++ ((s.dropWhile isBlank).reverse.takeWhile isBlank).reverse := by
    rw [List.append_assoc, trim, trimEnd_append_takeWhile, List.takeWhile_append_dropWhile]
  have hpadded : Padded (trim s) (s.takeWhile isBlank ++ trim s ++
      ((s.dropWhile isBlank).reverse.takeWhile isBlank).reverse) :=
    .around (fun c hc => isBlank_iff.1 (List.mem_takeWhile_imp hc))
      fun c hc => isBlank_iff.1 (List.mem_takeWhile_imp (List.mem_reverse.1 hc))
  rwa [← hsplit] at hpadded

theorem Padded.mem_of_visible {word s : List Char} (h : Padded word s) {c : Char} (hc : c ∈ s) (hv : c ∉ whiteSpace) :
    c ∈ word := by
  obtain ⟨hb, ha⟩ := h
  rcases List.mem_append.1 hc with hc | hc
  · rcases List.mem_append.1 hc with hc | hc
    · exact absurd (hb c hc) hv
    · exact hc
  · exact absurd (ha c hc) hv

/-! ## What trimming leaves -/

theorem dropWhile_append_of_visible {left right : List Char} (h : ∃ c ∈ left, c ∉ whiteSpace) :
    (left ++ right).dropWhile isBlank = left.dropWhile isBlank ++ right := by
  obtain ⟨c, hc, hv⟩ := h
  rw [List.dropWhile_append, if_neg]
  intro he
  exact hv (isBlank_iff.1 (List.dropWhile_eq_nil_iff.1 (List.isEmpty_iff.1 he) c hc))

theorem trim_eq_self (h : ∀ c ∈ cs, c ∉ whiteSpace) : trim cs = cs := by
  have hdrop : ∀ t : List Char, (∀ c ∈ t, c ∉ whiteSpace) → t.dropWhile isBlank = t := by
    intro t ht
    rw [List.dropWhile_eq_self_iff]
    intro hl hb
    exact ht _ (List.getElem_mem hl) (isBlank_iff.1 hb)
  rw [trim, hdrop cs h, trimEnd, hdrop _ fun c hc => h c (List.mem_reverse.1 hc), List.reverse_reverse]

theorem mem_trim {left right : List Char} {c : Char} (hl : ∃ x ∈ left, x ∉ whiteSpace)
    (hr : ∃ x ∈ right, x ∉ whiteSpace) : c ∈ trim (left ++ c :: right) := by
  obtain ⟨x, hx, hv⟩ := hr
  have hright : ∃ x ∈ right.reverse, x ∉ whiteSpace := ⟨x, List.mem_reverse.2 hx, hv⟩
  rw [trim, dropWhile_append_of_visible hl, trimEnd, List.reverse_append, List.reverse_cons, List.append_assoc,
    dropWhile_append_of_visible hright]
  simp

theorem trim_map_lowerAscii (cs : List Char) : trim (cs.map lowerAscii) = (trim cs).map lowerAscii := by
  have hblank : isBlank ∘ lowerAscii = isBlank := funext isBlank_lowerAscii
  rw [trim, trim, List.dropWhile_map, hblank, trimEnd, trimEnd, ← List.map_reverse, List.dropWhile_map, hblank,
    List.map_reverse]

end Trim

end Courier.Text
