import Courier.Proofs.Template.Slicing
import Mathlib.Data.List.Dedup

/-!
# The list of required placeholders

The placeholders that a template has to contain are given as a list, but only how often each one stands in it counts.
A repeated placeholder is found at one position as often as it is required, and each time but the first the text
before it has been taken already.

* `exists_parse_iff` : a template can be read exactly when the tokens of all required placeholders occur;
* `Segment.repeated` : a piece as often as its placeholder is required;
* `repeatedPlaces`, `cut_repeatedPlaces` : repeated places cut a text into repeated pieces, with the same literals;
* `parse_of_parse_distinct` : reading with a list that repeats itself, by reading with one that does not;
* `parse_of_perm` : the order of the list does not count;
* `parsing_ignores_order_and_repeats` : the whole of it.
-/

namespace Courier

/-- A piece as often as it is required. Literals are not repeated. -/
def Segment.repeated (n : Placeholder → Nat) : Segment → List Segment
  | .literal text => [.literal text]
  | .placeholder p => List.replicate (n p) (.placeholder p)

namespace Template
variable {raw : List Char} {required distinct : List Placeholder}

theorem exists_parse_iff : (∃ t, parse required raw = .ok t) ↔ ∀ p ∈ required, p.token <:+: raw := by
  constructor
  · rintro ⟨t, ht⟩ p hp
    cases hl : locate raw required with
    | error q => simp [parse, hl, Except.map] at ht
    | ok found =>
      obtain ⟨rfl, hf⟩ := locate_eq_ok_iff.1 hl
      obtain ⟨e, he, rfl⟩ := List.mem_map.1 hp
      exact exists_firstAt_iff.1 ⟨e.1, hf e he⟩
  · intro h
    obtain ⟨found, hl, -⟩ := exists_locate_eq h
    exact ⟨_, by rw [parse, hl]; rfl⟩

/-! ## Repeated places -/

/-- Each place as often as its placeholder is required. -/
def repeatedPlaces (n : Placeholder → Nat) (found : List (Nat × Placeholder)) : List (Nat × Placeholder) :=
  found.flatMap fun e => List.replicate (n e.2) e

theorem mem_of_mem_repeatedPlaces {n : Placeholder → Nat} {found : List (Nat × Placeholder)} {e : Nat × Placeholder}
    (h : e ∈ repeatedPlaces n found) : e ∈ found := by
  obtain ⟨e', he', h⟩ := List.mem_flatMap.1 h
  rw [List.eq_of_mem_replicate h]
  exact he'

theorem map_snd_repeatedPlaces (n : Placeholder → Nat) (found : List (Nat × Placeholder)) :
    (repeatedPlaces n found).map Prod.snd = (found.map Prod.snd).flatMap fun p => List.replicate (n p) p := by
  simp only [repeatedPlaces, List.map_flatMap, List.flatMap_map, List.map_replicate]

theorem pairwise_repeatedPlaces {n : Placeholder → Nat} {found : List (Nat × Placeholder)}
    (h : found.Pairwise fun a b => a.1 ≤ b.1) : (repeatedPlaces n found).Pairwise fun a b => a.1 ≤ b.1 := by
  refine List.pairwise_flatMap.2 ⟨fun e _ => List.pairwise_replicate.2 (.inr (Nat.le_refl _)), h.imp ?_⟩
  intro a b hab x hx y hy
  rw [List.eq_of_mem_replicate hx, List.eq_of_mem_replicate hy]
  exact hab

theorem cut_replicate_append (n i : Nat) (p : Placeholder) (rest : List (Nat × Placeholder)) :
    cut raw (i + 2) (List.replicate n (i, p) ++ rest) = List.replicate n (.placeholder p) ++ cut raw (i + 2) rest := by
  induction n with
  | zero => rfl
  | succ n ih =>
    -- The cursor is past the place already, so there is no text before it.
    rw [List.replicate_succ, List.cons_append, cut_cons, if_neg (by omega), ih]
    rfl

theorem cut_repeatedPlaces {n : Placeholder → Nat} {found : List (Nat × Placeholder)} (hn : ∀ e ∈ found, 0 < n e.2)
    (cursor : Nat) :
    cut raw cursor (repeatedPlaces n found) = (cut raw cursor found).flatMap (Segment.repeated n) := by
  unfold repeatedPlaces
  induction found generalizing cursor with
  | nil =>
    rw [List.flatMap_nil, cut]
    split_ifs <;> rfl
  | cons e rest ih =>
    obtain ⟨i, p⟩ := e
    obtain ⟨k, hk⟩ := Nat.exists_eq_succ_of_ne_zero (Nat.pos_iff_ne_zero.1 (hn _ List.mem_cons_self))
    have hp : Segment.repeated n (.placeholder p) = .placeholder p :: List.replicate k (.placeholder p) := by
      rw [Segment.repeated, hk, List.replicate_succ]
    rw [List.flatMap_cons, hk, List.replicate_succ, List.cons_append, cut_cons, cut_replicate_append,
      ih fun e he => hn e (List.mem_cons_of_mem _ he), cut_cons, List.flatMap_append, List.flatMap_cons, hp,
      List.cons_append]
    congr 1
    split_ifs <;> rfl

/-! ## Lists that repeat themselves -/

theorem count_flatMap_replicate {n : Placeholder → Nat} (hd : distinct.Nodup) (p : Placeholder) :
    (distinct.flatMap fun q => List.replicate (n q) q).count p = if p ∈ distinct then n p else 0 := by
  induction distinct with
  | nil => rfl
  | cons q rest ih =>
    obtain ⟨hq, hr⟩ := List.nodup_cons.1 hd
    rw [List.flatMap_cons, List.count_append, List.count_replicate, ih hr]
    by_cases hpq : q = p
    · subst hpq
      simp [hq]
    · simp [hpq, Ne.symm hpq]

/-- A list is its elements without repeats, each as often as it stands in the list, in some order. -/
theorem perm_flatMap_replicate (hd : distinct.Nodup) (hm : ∀ p, p ∈ distinct ↔ p ∈ required) :
    required.Perm (distinct.flatMap fun p => List.replicate (required.count p) p) := by
  rw [List.perm_iff_count]
  intro p
  rw [count_flatMap_replicate hd]
  split_ifs with h
  · rfl
  · exact List.count_eq_zero.2 fun hp => h ((hm p).2 hp)

theorem eq_of_firstAt {a b : Nat × Placeholder} (ha : FirstAt a.2.token raw a.1) (hb : FirstAt b.2.token raw b.1)
    (h : a.1 = b.1) : a = b := by
  refine Prod.ext h ?_
  by_contra hne
  have := Placeholder.apart hne ha.1 hb.1
  omega

/-- **Reading with a list that repeats itself** finds the pieces that reading without the repeats finds, each
placeholder as often as it is required. -/
theorem parse_of_parse_distinct (hd : distinct.Nodup) (hm : ∀ p, p ∈ distinct ↔ p ∈ required) {t : Template}
    (ht : parse distinct raw = .ok t) :
    parse required raw = .ok ⟨t.segments.flatMap (Segment.repeated required.count)⟩ := by
  have htokens : ∀ p ∈ distinct, p.token <:+: raw := exists_parse_iff.1 ⟨t, ht⟩
  obtain ⟨sorted, hs, hp, hlaid, hlt⟩ := exists_parse_eq hd htokens
  obtain rfl : ⟨cut raw 0 sorted⟩ = t := Except.ok.inj (hs.symm.trans ht)
  obtain ⟨found, hl, hf, hfirst⟩ := exists_locate_eq fun p h => htokens p ((hm p).2 h)
  have hplaces : ∀ e ∈ repeatedPlaces required.count sorted, FirstAt e.2.token raw e.1 :=
    fun e he => (hlaid.firstAt (mem_of_mem_repeatedPlaces he)).2
  have hperm : found.Perm (repeatedPlaces required.count sorted) := by
    rw [eq_map_of_firstAt hfirst, eq_map_of_firstAt hplaces, hf, map_snd_repeatedPlaces]
    exact (perm_flatMap_replicate (hp.nodup_iff.2 hd) fun p => hp.mem_iff.trans (hm p)).map _
  have hle : (repeatedPlaces required.count sorted).Pairwise fun a b => a.1 ≤ b.1 :=
    pairwise_repeatedPlaces (hlt.imp fun {a b} hab => by omega)
  have hpos : ∀ e ∈ sorted, 0 < required.count e.2 := fun e he =>
    List.count_pos_iff.2 ((hm _).1 (hp.mem_iff.1 (List.mem_map_of_mem he)))
  rw [parse, hl, Except.map, mergeSort_eq hperm hle fun a ha b hb => eq_of_firstAt (hplaces a ha) (hplaces b hb),
    cut_repeatedPlaces hpos]

/-- **The order of the required placeholders does not count.** -/
theorem parse_of_perm {reordered : List Placeholder} (hp : reordered.Perm required) {t : Template}
    (ht : parse required raw = .ok t) : parse reordered raw = .ok t := by
  have htokens : ∀ p ∈ required.dedup, p.token <:+: raw :=
    fun p h => exists_parse_iff.1 ⟨t, ht⟩ p (List.mem_dedup.1 h)
  obtain ⟨t₁, ht₁⟩ := exists_parse_iff.2 htokens
  have hcount : reordered.count = required.count := funext hp.count_eq
  -- Both lists have the same elements without repeats.
  have h := parse_of_parse_distinct (List.nodup_dedup required) (fun p => List.mem_dedup) ht₁
  have h' := parse_of_parse_distinct (List.nodup_dedup required) (fun p => List.mem_dedup.trans hp.mem_iff.symm) ht₁
  rw [h', hcount, ← h, ht]

/-! ## The failure and the empty list -/

/-- What is told of a failure does not tell the order either. -/
theorem mapError_parse_of_perm {reordered : List Placeholder} (hp : reordered.Perm required) (f : Failure) :
    (parse reordered raw).mapError (fun _ => f) = (parse required raw).mapError fun _ => f := by
  cases h : parse required raw with
  | ok t => rw [parse_of_perm hp h]
  | error p =>
    cases h' : parse reordered raw with
    | ok t => simp [parse_of_perm hp.symm h'] at h
    | error q => rfl

theorem value_load {σ : Type} (setting : String) (required : List Placeholder) (raw : List Char) (w : σ) :
    (load setting required (String.ofList raw) w).value =
      some ((parse required raw).mapError fun _ => .badTemplate setting (String.ofList raw)) := by
  rw [load, String.toList_ofList]
  cases parse required raw <;> rfl

theorem parse_nil (raw : List Char) : parse [] raw = .ok ⟨if raw = [] then [] else [.literal raw]⟩ := by
  rw [parse, locate, Except.map, List.mergeSort_nil, cut]
  cases raw <;> rfl

/-- **The list of required placeholders counts only by what is in it and how often.** For every text and every list,
no slice of the reading panics; the text is read exactly when the tokens of all of them occur; a list in another order
comes to the same pieces, or to a failure with the same fields; a list that repeats itself comes to the pieces that one
without the repeats comes to, with as many copies of each placeholder as there are of it in the list, and the same
literals; and the empty list to the whole text. -/
theorem parsing_ignores_order_and_repeats (raw : List Char) (required : List Placeholder) :
    sliced required (Utf8.encode raw) = some (parse required raw) ∧
    ((∃ t, parse required raw = .ok t) ↔ ∀ p ∈ required, p.token <:+: raw) ∧
    (∀ {σ : Type} (setting : String) (w : σ), (load setting required (String.ofList raw) w).value =
      some ((parse required raw).mapError fun _ => .badTemplate setting (String.ofList raw))) ∧
    (∀ reordered : List Placeholder, reordered.Perm required →
      (∀ t, parse reordered raw = .ok t ↔ parse required raw = .ok t) ∧
      ∀ {σ : Type} (setting : String) (w : σ), (load setting reordered (String.ofList raw) w).value =
        (load setting required (String.ofList raw) w).value) ∧
    (∀ distinct : List Placeholder, distinct.Nodup → (∀ p, p ∈ distinct ↔ p ∈ required) →
      ∀ t, parse required raw = .ok t → ∃ t₁, parse distinct raw = .ok t₁ ∧
        t.segments = t₁.segments.flatMap (Segment.repeated required.count)) ∧
    parse [] raw = .ok ⟨if raw = [] then [] else [.literal raw]⟩ := by
  refine ⟨sliced_eq required raw, exists_parse_iff, fun setting w => value_load setting required raw w,
    fun reordered hp => ⟨fun t => ⟨parse_of_perm hp.symm, parse_of_perm hp⟩, fun setting w => ?_⟩,
    fun distinct hd hm t ht => ?_, parse_nil raw⟩
  · rw [value_load, value_load, mapError_parse_of_perm hp]
  · obtain ⟨t₁, ht₁⟩ := exists_parse_iff.2 fun p hp => exists_parse_iff.1 ⟨t, ht⟩ p ((hm p).1 hp)
    have h := parse_of_parse_distinct hd hm ht₁
    rw [ht] at h
    cases h
    exact ⟨t₁, ht₁, rfl⟩

/-- The payload is required twice, and stands before the URL and behind a character of two bytes. -/
theorem parsing_ignores_order_and_repeats_twice :
    let raw := ['é', '%', 'p', '%', 'u', '!']
    let required : List Placeholder := [.payload, .url, .payload]
    let reordered : List Placeholder := [.url, .payload, .payload]
    let distinct : List Placeholder := [.url, .payload]
    let t : Template :=
      ⟨[.literal ['é'], .placeholder .payload, .placeholder .payload, .placeholder .url, .literal ['!']]⟩
    reordered.Perm required ∧ distinct.Nodup ∧ (∀ p, p ∈ distinct ↔ p ∈ required) ∧
      parse required raw = .ok t ∧ parse reordered raw = .ok t ∧ sliced reordered (Utf8.encode raw) = some (.ok t) ∧
      parse distinct raw = .ok ⟨[.literal ['é'], .placeholder .payload, .placeholder .url, .literal ['!']]⟩ ∧
      parse [] raw = .ok ⟨[.literal raw]⟩ := by
  intro raw required reordered distinct t
  have hp : reordered.Perm required := by decide
  have hd : distinct.Nodup := by decide
  have hm : ∀ p, p ∈ distinct ↔ p ∈ required := by
    intro p
    cases p <;> decide
  have hl : locate raw distinct = .ok [(3, .url), (1, .payload)] := rfl
  have h₁ := parse_eq hl (List.Perm.swap _ _ _) (List.pairwise_pair.2 (by decide))
  obtain ⟨-, hok, -, horder, hrepeat, hnil⟩ := parsing_ignores_order_and_repeats raw required
  obtain ⟨t', ht'⟩ := hok.2 (by decide)
  obtain ⟨t₁, ht₁, hs⟩ := hrepeat distinct hd hm t' ht'
  obtain rfl := Except.ok.inj (h₁.symm.trans ht₁)
  obtain rfl : t' = t := congrArg Template.mk hs
  have hr : parse reordered raw = .ok t := ((horder reordered hp).1 t).2 ht'
  have hb := (parsing_ignores_order_and_repeats raw reordered).1
  exact ⟨hp, hd, hm, ht', hr, by rw [hb, hr], h₁, hnil⟩

end Template

end Courier
