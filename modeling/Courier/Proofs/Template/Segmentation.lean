import Courier.Proofs.Template.Rendering
import Mathlib.Data.Set.Function

/-!
# The pieces of a template

Reading a template is cutting it into pieces, and there is one way to do that.

* `Canonical` : the pieces that reading comes to, told without it;
* `Laid` : places of tokens from left to right; `flatten_cut`, `canonical_cut` : a text cut at them;
* `places` : where the placeholders of pieces stand in their text; `cut_places` : the text cut there is the pieces;
* `firstAt_flatten` : each token stands first where its placeholder does, since none arises between two pieces;
* `parsing_inverts_flattening` : reading and flattening are inverse to each other.
-/

namespace Courier

/-! ## Tokens between places -/

theorem FirstAt.not_infix_take_drop {α : Type} {token raw : List α} {i j cursor : Nat} (ht : 0 < token.length)
    (hj : FirstAt token raw j) (hij : i ≤ j) : ¬ token <:+: (raw.take i).drop cursor := by
  intro h
  have hi : token <:+: raw.take i := h.trans (List.drop_suffix _ _).isInfix
  obtain ⟨k, hk⟩ := infix_iff_exists_prefix_drop.1 hi
  rw [List.drop_take, List.prefix_take_iff] at hk
  exact hj.2 k (by omega) hk.1

namespace Placeholder

theorem length_token (p : Placeholder) : p.token.length = 2 := rfl

/-- A token that starts in a text that is followed by no letter of its own stands in that text. -/
theorem token_infix_of_prefix_drop {p : Placeholder} {text rest : List Char} {k : Nat} (hk : k < text.length)
    (hr : rest.head? ≠ some p.letter) (h : p.token <+: (text ++ rest).drop k) : p.token <:+: text := by
  rw [token_prefix_drop_iff] at h
  have hk' : k + 1 < text.length := by
    by_contra hlt
    have he : k + 1 = text.length := by omega
    rw [he, List.getElem?_append_right (Nat.le_refl _), Nat.sub_self, ← List.head?_eq_getElem?] at h
    exact hr h.2
  rw [List.getElem?_append_left hk, List.getElem?_append_left hk'] at h
  exact infix_iff_exists_prefix_drop.2 ⟨k, token_prefix_drop_iff.2 h⟩

end Placeholder

namespace Segment

/-- Two pieces that are not both literals. -/
def Parted : Segment → Segment → Prop
  | literal _, literal _ => False
  | _, _ => True

/-- If the pieces are a literal and a placeholder, the literal does not hold the token of the placeholder. -/
def Free : Segment → Segment → Prop
  | literal text, placeholder p => ¬ p.token <:+: text
  | _, _ => True

theorem parted_placeholder_left (p : Placeholder) (s : Segment) : Parted (placeholder p) s := trivial

theorem parted_placeholder_right (s : Segment) (p : Placeholder) : Parted s (placeholder p) := by
  cases s <;> trivial

end Segment

namespace Template

/-- Pieces as reading finds them, for the placeholders that are required. -/
structure Canonical (required : List Placeholder) (t : Template) : Prop where
  /-- There is no empty literal. -/
  nonempty : .literal [] ∉ t.segments
  /-- No two literals are neighbours. -/
  parted : t.segments.IsChain Segment.Parted
  /-- Each required placeholder occurs once, and no other does. -/
  once : ∀ p, t.segments.count (.placeholder p) = if p ∈ required then 1 else 0
  /-- No literal that stands before a placeholder holds the token of that placeholder. -/
  free : t.segments.Pairwise Segment.Free

theorem count_placeholder (t : Template) (p : Placeholder) : t.segments.count (.placeholder p) = t.order.count p := by
  rw [order, List.count_filterMap, List.count]
  congr 1
  funext s
  cases s with
  | literal text => simp [Segment.placeholder?]
  | placeholder q =>
    rw [Bool.eq_iff_iff, beq_iff_eq, beq_iff_eq, Segment.placeholder?, Option.some_inj, Segment.placeholder.injEq]

theorem perm_order_iff {required : List Placeholder} (hr : required.Nodup) {t : Template} :
    t.order.Perm required ↔ ∀ p, t.segments.count (.placeholder p) = if p ∈ required then 1 else 0 := by
  rw [List.perm_iff_count]
  exact forall_congr' fun p => by rw [count_placeholder, hr.count]

/-! ## A text cut at the places of tokens -/

/-- Places of tokens from left to right, from position `cursor` on, each the first of its token. -/
inductive Laid (raw : List Char) : Nat → List (Nat × Placeholder) → Prop
  | nil {cursor : Nat} : cursor ≤ raw.length → Laid raw cursor []
  | cons {cursor i : Nat} {p : Placeholder} {rest : List (Nat × Placeholder)} : cursor ≤ i → FirstAt p.token raw i →
      Laid raw (i + 2) rest → Laid raw cursor ((i, p) :: rest)

theorem add_two_le_length {p : Placeholder} {raw : List Char} {i : Nat} (h : p.token <+: raw.drop i) :
    i + 2 ≤ raw.length := by
  have := h.length_le
  rw [Placeholder.length_token, List.length_drop] at this
  omega

theorem laid_of_pairwise {raw : List Char} {found : List (Nat × Placeholder)} {cursor : Nat}
    (hf : ∀ e ∈ found, FirstAt e.2.token raw e.1) (hs : found.Pairwise fun a b => a.1 + 2 ≤ b.1)
    (hc : ∀ e ∈ found, cursor ≤ e.1) (hl : cursor ≤ raw.length) : Laid raw cursor found := by
  induction found generalizing cursor with
  | nil => exact .nil hl
  | cons e rest ih =>
    obtain ⟨i, p⟩ := e
    have hi : FirstAt p.token raw i := hf _ List.mem_cons_self
    have hs' := List.pairwise_cons.1 hs
    exact .cons (hc _ List.mem_cons_self) hi (ih (fun e he => hf e (List.mem_cons_of_mem _ he)) hs'.2 hs'.1
      (add_two_le_length hi.1))

namespace Laid
variable {raw : List Char} {cursor : Nat} {found : List (Nat × Placeholder)}

theorem firstAt (h : Laid raw cursor found) {j : Nat} {q : Placeholder} (hq : (j, q) ∈ found) :
    cursor ≤ j ∧ FirstAt q.token raw j := by
  induction h with
  | nil => cases hq
  | cons hc hi _ ih =>
    rcases List.mem_cons.1 hq with ⟨rfl, rfl⟩ | hq
    · exact ⟨hc, hi⟩
    · have := ih hq
      exact ⟨by omega, this.2⟩

theorem flatten_cut (h : Laid raw cursor found) : (cut raw cursor found).flatMap Segment.flatten = raw.drop cursor := by
  have e : Segment.flatten = Segment.render Placeholder.url.token Placeholder.payload.token := by
    funext s
    rcases s with text | _ | _ <;> rfl
  rw [e]
  induction h with
  | nil _ => exact flatMap_render_cut_nil ..
  | @cons cursor i p rest hc hi _ ih =>
    obtain ⟨s, hs⟩ := hi.1
    have ht : (Segment.placeholder p).render Placeholder.url.token Placeholder.payload.token = p.token := by
      cases p <;> rfl
    have hd : raw.drop (i + 2) = s := by
      rw [← List.drop_drop, ← hs]
      rfl
    have hm : raw.drop i = (raw.drop cursor).drop (i - cursor) := by
      rw [List.drop_drop, Nat.add_sub_cancel' hc]
    rw [flatMap_render_cut_cons, ih, ht, hd, List.append_assoc, hs, List.drop_take, hm]
    exact List.take_append_drop _ _

end Laid

theorem cut_cons (raw : List Char) (cursor i : Nat) (p : Placeholder) (rest : List (Nat × Placeholder)) :
    cut raw cursor ((i, p) :: rest) = (if cursor < i then [.literal ((raw.take i).drop cursor)] else []) ++
      .placeholder p :: cut raw (i + 2) rest := rfl

theorem order_cut (raw : List Char) (cursor : Nat) (found : List (Nat × Placeholder)) :
    (cut raw cursor found).filterMap Segment.placeholder? = found.map Prod.snd := by
  induction found generalizing cursor with
  | nil =>
    rw [cut]
    split_ifs <;> rfl
  | cons e rest ih =>
    obtain ⟨i, p⟩ := e
    rw [cut_cons, List.filterMap_append, List.filterMap_cons, ih, List.map_cons]
    split_ifs <;> rfl

theorem placeholder_mem_cut {raw : List Char} {cursor : Nat} {found : List (Nat × Placeholder)} {p : Placeholder}
    (h : .placeholder p ∈ cut raw cursor found) : ∃ i, (i, p) ∈ found := by
  have hm : p ∈ (cut raw cursor found).filterMap Segment.placeholder? := List.mem_filterMap.2 ⟨_, h, rfl⟩
  rw [order_cut] at hm
  obtain ⟨⟨i, q⟩, he, rfl⟩ := List.mem_map.1 hm
  exact ⟨i, he⟩

namespace Laid
variable {raw : List Char} {cursor : Nat} {found : List (Nat × Placeholder)}

theorem nil_notMem_cut (h : Laid raw cursor found) : .literal [] ∉ cut raw cursor found := by
  induction h with
  | @nil cursor _ =>
    rw [cut]
    split_ifs with hlt
    · simp
      omega
    · exact List.not_mem_nil
  | @cons cursor i p rest _ hi _ ih =>
    have := add_two_le_length hi.1
    rw [cut_cons, List.mem_append, List.mem_cons]
    rintro (hm | hm | hm)
    · split_ifs at hm with hlt
      · simp at hm
        omega
      · cases hm
    · cases hm
    · exact ih hm

theorem isChain_cut (h : Laid raw cursor found) : (cut raw cursor found).IsChain Segment.Parted := by
  induction h with
  | nil _ =>
    rw [cut]
    split_ifs <;> simp
  | @cons cursor i p rest _ _ _ ih =>
    have hp : (Segment.placeholder p :: cut raw (i + 2) rest).IsChain Segment.Parted :=
      List.isChain_cons.2 ⟨fun s _ => Segment.parted_placeholder_left p s, ih⟩
    rw [cut_cons]
    split_ifs
    · exact List.isChain_cons_cons.2 ⟨Segment.parted_placeholder_right _ p, hp⟩
    · exact hp

theorem pairwise_cut (h : Laid raw cursor found) : (cut raw cursor found).Pairwise Segment.Free := by
  induction h with
  | nil _ =>
    rw [cut]
    split_ifs <;> simp
  | @cons cursor i p rest _ hi hl ih =>
    have hp : (Segment.placeholder p :: cut raw (i + 2) rest).Pairwise Segment.Free :=
      List.pairwise_cons.2 ⟨fun _ _ => trivial, ih⟩
    rw [cut_cons]
    split_ifs
    · refine List.pairwise_cons.2 ⟨fun s hs => ?_, hp⟩
      cases s with
      | literal text => trivial
      | placeholder q =>
        have hq : ∃ j, i ≤ j ∧ FirstAt q.token raw j := by
          rcases List.mem_cons.1 hs with he | hm
          · cases he
            exact ⟨i, Nat.le_refl _, hi⟩
          · obtain ⟨j, hj⟩ := placeholder_mem_cut hm
            have := hl.firstAt hj
            exact ⟨j, by omega, this.2⟩
        obtain ⟨j, hij, hj⟩ := hq
        exact hj.not_infix_take_drop (by rw [Placeholder.length_token]; decide) hij
    · exact hp

/-- **A text cut at the first tokens is in pieces as reading finds them.** -/
theorem canonical_cut (h : Laid raw cursor found) {required : List Placeholder} (hr : required.Nodup)
    (hp : (found.map Prod.snd).Perm required) : Canonical required ⟨cut raw cursor found⟩ where
  nonempty := h.nil_notMem_cut
  parted := h.isChain_cut
  once := (perm_order_iff hr).1 (by rw [order, order_cut]; exact hp)
  free := h.pairwise_cut

end Laid

/-! ## Reading -/

theorem exists_locate_eq {raw : List Char} {required : List Placeholder} (h : ∀ p ∈ required, p.token <:+: raw) :
    ∃ found, locate raw required = .ok found ∧ found.map Prod.snd = required ∧
      ∀ e ∈ found, FirstAt e.2.token raw e.1 := by
  induction required with
  | nil => exact ⟨[], rfl, rfl, by simp⟩
  | cons p required ih =>
    obtain ⟨i, hi⟩ := exists_firstAt_iff.2 (h p List.mem_cons_self)
    obtain ⟨found, hl, hm, hf⟩ := ih fun q hq => h q (List.mem_cons_of_mem _ hq)
    refine ⟨(i, p) :: found, ?_, by rw [List.map_cons, hm], List.forall_mem_cons.2 ⟨hi, hf⟩⟩
    rw [locate_cons hi, hl]
    rfl

/-- A template in which every required token occurs is cut at the first of each. -/
theorem exists_parse_eq {raw : List Char} {required : List Placeholder} (hr : required.Nodup)
    (h : ∀ p ∈ required, p.token <:+: raw) :
    ∃ sorted, parse required raw = .ok ⟨cut raw 0 sorted⟩ ∧ (sorted.map Prod.snd).Perm required ∧
      Laid raw 0 sorted ∧ sorted.Pairwise fun a b => a.1 + 2 ≤ b.1 := by
  obtain ⟨found, hl, hm, hf⟩ := exists_locate_eq h
  let sorted := found.mergeSort fun a b => a.1 ≤ b.1
  have hp : sorted.Perm found := List.mergeSort_perm _ _
  have hs : ∀ e ∈ sorted, FirstAt e.2.token raw e.1 := fun e he => hf e (hp.mem_iff.1 he)
  have hperm : (sorted.map Prod.snd).Perm required := hm ▸ hp.map Prod.snd
  have hle : sorted.Pairwise fun a b => a.1 ≤ b.1 := pairwise_mergeSort found
  -- Different placeholders do not overlap, so what stands no further right stands two characters further left.
  have hne : sorted.Pairwise fun a b => a.2 ≠ b.2 := List.pairwise_map.1 (hperm.nodup_iff.2 hr)
  have hlt : sorted.Pairwise fun a b => a.1 + 2 ≤ b.1 := by
    refine (hle.and hne).imp_of_mem fun {a b} ha hb hab => ?_
    have := Placeholder.apart hab.2 (hs a ha).1 (hs b hb).1
    omega
  exact ⟨sorted, by rw [parse, hl]; rfl, hperm, laid_of_pairwise hs hlt (by simp) (Nat.zero_le _), hlt⟩

/-! ## The places of placeholders in the text of pieces -/

/-- Where the placeholders stand in the text of pieces that starts at position `n`. -/
def places (n : Nat) : List Segment → List (Nat × Placeholder)
  | [] => []
  | .literal text :: rest => places (n + text.length) rest
  | .placeholder p :: rest => (n, p) :: places (n + 2) rest

theorem map_snd_places (n : Nat) (segments : List Segment) :
    (places n segments).map Prod.snd = segments.filterMap Segment.placeholder? := by
  induction segments generalizing n with
  | nil => rfl
  | cons s rest ih =>
    cases s with
    | literal text => exact ih _
    | placeholder p => rw [places, List.map_cons, ih]; rfl

theorem exists_of_mem_places {n i : Nat} {p : Placeholder} {segments : List Segment}
    (h : (i, p) ∈ places n segments) :
    ∃ before after, segments = before ++ .placeholder p :: after ∧ i = n + (before.flatMap Segment.flatten).length := by
  induction segments generalizing n with
  | nil => cases h
  | cons s rest ih =>
    have hrest : (i, p) ∈ places (n + s.flatten.length) rest → ∃ before after,
        s :: rest = before ++ .placeholder p :: after ∧ i = n + (before.flatMap Segment.flatten).length := by
      intro h
      obtain ⟨before, after, rfl, rfl⟩ := ih h
      exact ⟨s :: before, after, rfl, by rw [List.flatMap_cons, List.length_append]; omega⟩
    cases s with
    | literal text => exact hrest h
    | placeholder q =>
      rcases List.mem_cons.1 h with ⟨rfl, rfl⟩ | h
      · exact ⟨[], rest, rfl, rfl⟩
      · exact hrest h

theorem pairwise_places (n : Nat) (segments : List Segment) : (places n segments).Pairwise fun a b => a.1 < b.1 := by
  induction segments generalizing n with
  | nil => exact List.Pairwise.nil
  | cons s rest ih =>
    cases s with
    | literal text => exact ih _
    | placeholder p =>
      refine List.pairwise_cons.2 ⟨fun e he => ?_, ih _⟩
      obtain ⟨before, after, -, hi⟩ := exists_of_mem_places (i := e.1) (p := e.2) he
      change n < e.1
      omega

/-- The text of pieces, cut where their placeholders stand, is those pieces again. -/
theorem cut_places : ∀ (segments : List Segment) (before : List Char), .literal [] ∉ segments →
    segments.IsChain Segment.Parted →
    cut (before ++ segments.flatMap Segment.flatten) before.length (places before.length segments) = segments
  -- Two pieces at a time: a literal is the last piece, or a placeholder comes after it.
  | [], before, _, _ => by simp [places, cut]
  | .placeholder p :: rest, before, hn, hc => by
    have ih := cut_places rest (before ++ p.token) (fun h => hn (List.mem_cons_of_mem _ h)) hc.tail
    rw [List.length_append, Placeholder.length_token, List.append_assoc] at ih
    rw [places, cut_cons, if_neg (Nat.lt_irrefl _), List.flatMap_cons, List.nil_append]
    exact congrArg _ ih
  | [.literal text], before, hn, _ => by
    have ht : 0 < text.length := List.length_pos_of_ne_nil (by rintro rfl; exact hn List.mem_cons_self)
    simp [places, cut, Segment.flatten, ht]
  | .literal text :: .placeholder p :: rest, before, hn, hc => by
    have ht : 0 < text.length := List.length_pos_of_ne_nil (by rintro rfl; exact hn List.mem_cons_self)
    have ih := cut_places rest (before ++ text ++ p.token)
      (fun h => hn (List.mem_cons_of_mem _ (List.mem_cons_of_mem _ h))) hc.tail.tail
    rw [List.length_append, List.length_append, Placeholder.length_token, List.append_assoc, List.append_assoc] at ih
    have hl : ((before ++ (text ++ (p.token ++ rest.flatMap Segment.flatten))).take
        (before.length + text.length)).drop before.length = text := by
      rw [List.drop_take, List.drop_left, Nat.add_sub_cancel_left, List.take_left]
    rw [places, places, cut_cons, if_pos (by omega), List.flatMap_cons, List.flatMap_cons]
    change [Segment.literal (((before ++ (text ++ (p.token ++ rest.flatMap Segment.flatten))).take
        (before.length + text.length)).drop before.length)] ++ _ = _
    rw [hl]
    exact congrArg _ (congrArg _ ih)
  | .literal text :: .literal text' :: rest, before, _, hc => by
    exact absurd (List.isChain_cons_cons.1 hc).1 id

/-- No token of a placeholder starts before it, in the text of pieces that hold none of their own: none arises where two
pieces meet, since after a literal a percent sign follows, and no letter of a token. -/
theorem not_token_prefix_drop {p : Placeholder} (before : List Segment) (after : List Char) {k : Nat}
    (ha : after.head? = some '%') (hp : .placeholder p ∉ before)
    (hc : (before ++ [Segment.placeholder p]).IsChain Segment.Parted)
    (hl : ∀ text, .literal text ∈ before → ¬ p.token <:+: text) (hk : k < (before.flatMap Segment.flatten).length) :
    ¬ p.token <+: (before.flatMap Segment.flatten ++ after).drop k := by
  induction before generalizing k with
  | nil => simp at hk
  | cons s before ih =>
    rw [List.cons_append] at hc
    rw [List.flatMap_cons, List.append_assoc]
    rw [List.flatMap_cons, List.length_append] at hk
    -- The token starts behind the first piece, or in it.
    by_cases hs : s.flatten.length ≤ k
    · obtain ⟨k, rfl⟩ := Nat.exists_eq_add_of_le hs
      rw [List.drop_length_add_append]
      exact ih (fun h => hp (List.mem_cons_of_mem _ h)) hc.tail (fun text h => hl text (List.mem_cons_of_mem _ h))
        (by omega)
    · intro h
      rw [not_le] at hs
      cases s with
      | literal text =>
        have hhead : (before.flatMap Segment.flatten ++ after).head? = some '%' := by
          cases before with
          | nil => exact ha
          | cons s' before =>
            cases s' with
            | literal text' => exact absurd (List.isChain_cons_cons.1 hc).1 id
            | placeholder q => rfl
        have hletter : some '%' ≠ some p.letter := by cases p <;> decide
        exact hl text List.mem_cons_self
          (Placeholder.token_infix_of_prefix_drop hs (hhead ▸ hletter) h)
      | placeholder q =>
        have hq : q.token <+: ((Segment.placeholder q).flatten ++ (before.flatMap Segment.flatten ++ after)).drop 0 :=
          List.prefix_append _ _
        have hpq : q ≠ p := by
          rintro rfl
          exact hp List.mem_cons_self
        have := Placeholder.apart hpq hq h
        have hlen : (Segment.placeholder q).flatten.length = 2 := Placeholder.length_token q
        omega

namespace Canonical
variable {required : List Placeholder} {t : Template}

/-- **A token stands first where its placeholder does.** -/
theorem firstAt_flatten (h : Canonical required t) {before after : List Segment} {p : Placeholder}
    (ht : t.segments = before ++ .placeholder p :: after) :
    FirstAt p.token t.flatten (before.flatMap Segment.flatten).length := by
  have hf : t.flatten = before.flatMap Segment.flatten ++ (p.token ++ after.flatMap Segment.flatten) := by
    rw [flatten, ht, List.flatMap_append, List.flatMap_cons]
    rfl
  have hcount : before.count (.placeholder p) = 0 := by
    have := h.once p
    rw [ht, List.count_append, List.count_cons_self] at this
    split_ifs at this
    omega
  have hchain : (before ++ [Segment.placeholder p]).IsChain Segment.Parted := (List.isChain_split.1 (ht ▸ h.parted)).1
  have hfree := (List.pairwise_append.1 (ht ▸ h.free)).2.2
  rw [hf]
  refine ⟨?_, fun k hk => not_token_prefix_drop before _ rfl (List.count_eq_zero.1 hcount) hchain ?_ hk⟩
  · rw [List.drop_left]
    exact List.prefix_append _ _
  · exact fun text hm => hfree _ hm _ List.mem_cons_self

theorem token_infix (h : Canonical required t) {p : Placeholder} (hp : p ∈ required) : p.token <:+: t.flatten := by
  have hm : .placeholder p ∈ t.segments := by
    refine List.count_pos_iff.1 ?_
    rw [h.once, if_pos hp]
    decide
  obtain ⟨before, after, ht⟩ := List.append_of_mem hm
  exact exists_firstAt_iff.1 ⟨_, h.firstAt_flatten ht⟩

theorem firstAt_places (h : Canonical required t) : ∀ e ∈ places 0 t.segments, FirstAt e.2.token t.flatten e.1 := by
  rintro ⟨i, p⟩ he
  obtain ⟨before, after, ht, rfl⟩ := exists_of_mem_places he
  rw [Nat.zero_add]
  exact h.firstAt_flatten ht

end Canonical

theorem eq_map_of_firstAt {raw : List Char} {found : List (Nat × Placeholder)}
    (h : ∀ e ∈ found, FirstAt e.2.token raw e.1) :
    found = (found.map Prod.snd).map fun p => ((p.position? raw).getD 0, p) := by
  rw [List.map_map]
  refine (List.map_id'' (fun _ => rfl) found).symm.trans (List.map_congr_left fun e he => ?_)
  rw [Function.comp_apply, Placeholder.position?_eq_some_iff.2 (h e he)]
  rfl

/-- **Reading the text of canonical pieces finds those pieces.** -/
theorem parse_flatten {required : List Placeholder} (hr : required.Nodup) {t : Template} (h : Canonical required t) :
    parse required t.flatten = .ok t := by
  obtain ⟨found, hl, hm, hf⟩ := exists_locate_eq fun p hp => h.token_infix hp
  have horder : (found.map Prod.snd).Perm ((places 0 t.segments).map Prod.snd) := by
    rw [hm, map_snd_places]
    exact ((perm_order_iff hr).2 h.once).symm
  have hperm : found.Perm (places 0 t.segments) := by
    rw [eq_map_of_firstAt hf, eq_map_of_firstAt h.firstAt_places]
    exact horder.map _
  have hcut : cut t.flatten 0 (places 0 t.segments) = t.segments := cut_places t.segments [] h.nonempty h.parted
  rw [parse_eq hl hperm (pairwise_places 0 t.segments), hcut]

/-- **A text in which the required tokens occur is read into canonical pieces of it**, with the placeholders in the
order of the first tokens. -/
theorem exists_canonical_parse {required : List Placeholder} (hr : required.Nodup) {raw : List Char}
    (h : ∀ p ∈ required, p.token <:+: raw) : ∃ t, parse required raw = .ok t ∧ t.flatten = raw ∧
      t.Canonical required ∧ t.order.Perm required ∧
      t.order.Pairwise fun p q => ∃ i j, FirstAt p.token raw i ∧ FirstAt q.token raw j ∧ i < j := by
  obtain ⟨sorted, ht, hp, hl, hs⟩ := exists_parse_eq hr h
  have horder : (⟨cut raw 0 sorted⟩ : Template).order = sorted.map Prod.snd := order_cut raw 0 sorted
  refine ⟨_, ht, hl.flatten_cut, hl.canonical_cut hr hp, horder ▸ hp, ?_⟩
  rw [horder, List.pairwise_map]
  exact hs.imp_of_mem fun {a b} ha hb hab => ⟨a.1, b.1, (hl.firstAt ha).2, (hl.firstAt hb).2, by omega⟩

/-- **Reading a template and flattening it are inverse to each other.** A text in which every required token occurs is
read into canonical pieces whose text it is, and they are the only ones; the placeholders of them stand in the order of
the first tokens. -/
theorem parsing_inverts_flattening (required : List Placeholder) (hr : required.Nodup) :
    (∀ raw, (∀ p ∈ required, p.token <:+: raw) → ∃ t, parse required raw = .ok t ∧ t.flatten = raw ∧
      t.Canonical required ∧ t.order.Perm required ∧
      t.order.Pairwise fun p q => ∃ i j, FirstAt p.token raw i ∧ FirstAt q.token raw j ∧ i < j) ∧
    (∀ t : Template, t.Canonical required → parse required t.flatten = .ok t) ∧
    Set.BijOn flatten {t | t.Canonical required} {raw | ∀ p ∈ required, p.token <:+: raw} := by
  refine ⟨fun raw h => exists_canonical_parse hr h, fun t h => parse_flatten hr h, fun t h p hp => h.token_infix hp,
    fun t h t' h' he => ?_, fun raw h => ?_⟩
  · have hp := parse_flatten hr h
    rw [he, parse_flatten hr h'] at hp
    exact (Except.ok.inj hp).symm
  · obtain ⟨t, -, hf, hc, -⟩ := exists_canonical_parse hr h
    exact ⟨t, hc, hf⟩

/-- A stray percent sign before the URL, and the payload right behind it. -/
theorem parsing_inverts_flattening_adjacent :
    let required : List Placeholder := [.payload, .url]
    let raw := ['%', '%', 'u', '%', 'p']
    let t : Template := ⟨[.literal ['%'], .placeholder .url, .placeholder .payload]⟩
    required.Nodup ∧ (∀ p ∈ required, p.token <:+: raw) ∧ t.Canonical required ∧ t.flatten = raw ∧
      parse required raw = .ok t ∧ t.order = [.url, .payload] ∧
      ∀ t' : Template, t'.Canonical required → t'.flatten = raw → t' = t := by
  intro required raw t
  have hr : required.Nodup := by decide
  have h : ∀ p ∈ required, p.token <:+: raw := by decide
  have hc : t.Canonical required :=
    ⟨by decide, by simp [t, Segment.Parted], by intro p; cases p <;> decide, by
      have hu : ¬ Placeholder.url.token <:+: ['%'] := by decide
      have hp : ¬ Placeholder.payload.token <:+: ['%'] := by decide
      simpa [t, Segment.Free] using ⟨hu, hp⟩⟩
  obtain ⟨-, hback, hb⟩ := parsing_inverts_flattening required hr
  exact ⟨hr, h, hc, rfl, hback t hc, rfl, fun t' hc' hf' => hb.injOn hc' hc hf'⟩

end Template

end Courier
