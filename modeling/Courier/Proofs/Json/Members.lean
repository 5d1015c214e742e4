import Courier.Json.Reader
import Courier.Proofs.Json.Skipping
import Courier.Proofs.Json.Spelling
import Mathlib.Data.List.TakeWhile

/-!
# Reading the members of an object

* `name?_eq`, `colon_eq`, `string?_eq`, `skipMember_eq` : the readers of what stands in a member;
* `ReadsMember` : what a reader of members comes to at one of them, whatever stands around it;
* `ReadsAll` : what it comes to at members in a row, up to the first complaint;
* `ReadsAll.whole_eq` : that is what a text comes to that is an object of these members.
-/

namespace Courier.Json

/-! ## Readers -/

theorem skipBlank_append {a : Bytes} (ha : Blanks a) {b : UInt8} (hb : isBlank b = false) (rest : Bytes) :
    skipBlank (a ++ b :: rest) = b :: rest := by
  rw [skipBlank, List.dropWhile_append_of_pos fun b h => isBlank_of_mem b (ha b h), List.dropWhile_cons_of_neg]
  simp [hb]

theorem skipBlank_blanks {a : Bytes} (ha : Blanks a) : skipBlank a = [] := by
  rw [skipBlank, List.dropWhile_eq_nil_iff]
  exact fun b h => isBlank_of_mem b (ha b h)

theorem Literal.readText_text {s : Bytes} {text : String} (hs : Literal s text.toList) (rest : Bytes) :
    readText (s ++ ascii '"' :: rest) = .ok (text, rest) := by
  rw [hs.readText_eq, String.ofList_toList]

theorem name?_eq {a s : Bytes} {name : String} (ha : Blanks a) (hs : Literal s name.toList) (rest : Bytes) :
    name? (a ++ (quoted s ++ rest)) = .ok (name, rest) := by
  rw [quoted, List.cons_append, List.append_assoc, name?, skipBlank_append ha (by decide)]
  exact hs.readText_text rest

theorem string?_eq {a s : Bytes} {text : String} (ha : Blanks a) (hs : Literal s text.toList) (rest : Bytes) :
    string? (a ++ (quoted s ++ rest)) = .ok (text, rest) := by
  rw [quoted, List.cons_append, List.append_assoc, string?, skipBlank_append ha (by decide)]
  exact hs.readText_text rest

theorem colon_eq {b : Bytes} (hb : Blanks b) (rest : Bytes) : colon (b ++ ascii ':' :: rest) = .ok rest := by
  rw [colon, skipBlank_append hb (by decide)]
  rfl

theorem skipMember_eq {b c v rest : Bytes} (hb : Blanks b) (hc : Blanks c) (hv : Well .value v) (hr : Delimited rest) :
    skipMember (b ++ ascii ':' :: (c ++ (v ++ rest))) = .ok rest := by
  rw [skipMember, colon_eq hb]
  exact skip_eq hc hv hr

theorem readField_eq {α : Type} {read : Reader α} {old : Option α} (ho : old.isSome = false) {b rest rest' : Bytes}
    (hb : Blanks b) {x : α} (hr : read rest = .ok (x, rest')) :
    readField read old (b ++ ascii ':' :: rest) = .ok (some x, rest') := by
  rw [readField, ho, colon_eq hb]
  exact congrArg (Except.map fun r => (some r.1, r.2)) hr

/-- What stands before the first member, and before each other. -/
inductive Opens : Bool → Bytes → Prop
  | first : Opens true []
  | other {d : Bytes} : Blanks d → Opens false (d ++ [ascii ','])

theorem nextName_eq {first : Bool} {before a s : Bytes} {name : String} (ho : Opens first before) (ha : Blanks a)
    (hs : Literal s name.toList) (rest : Bytes) :
    nextName first (before ++ (a ++ (quoted s ++ rest))) = .ok (some (name, rest)) := by
  cases ho with
  | first =>
    have hn := name?_eq Blanks.nil hs rest
    rw [quoted, List.nil_append, List.cons_append] at hn
    rw [List.nil_append, quoted, List.cons_append, nextName, skipBlank_append ha (by decide)]
    exact congrArg (Except.map some) hn
  | other hd =>
    rw [List.append_assoc, List.singleton_append, nextName, skipBlank_append hd (by decide)]
    exact congrArg (Except.map some) (name?_eq ha hs rest)

theorem nextName_end {first : Bool} {a : Bytes} (ha : Blanks a) (rest : Bytes) :
    nextName first (a ++ ascii '}' :: rest) = .ok none := by
  rw [nextName, skipBlank_append ha (by decide)]
  rfl

/-! ## Members in a row -/

variable {α : Type} {member : String → α → Reader α} {acc acc' : α} {first : Bool}

theorem readMembers_end {a : Bytes} (ha : Blanks a) (rest : Bytes) :
    readMembers member first acc (a ++ ascii '}' :: rest) = .ok (acc, rest) := by
  rw [readMembers, nextName_end ha, skipBlank_append ha (by decide)]
  rfl

theorem readMembers_of_ok {bs rest rest' : Bytes} {name : String} (hn : nextName first bs = .ok (some (name, rest)))
    (hm : member name acc rest = .ok (acc', rest')) (hl : rest'.length < bs.length) :
    readMembers member first acc bs = readMembers member false acc' rest' := by
  rw [readMembers, hn]
  simp [hm, hl]

theorem readMembers_of_error {bs rest : Bytes} {name : String} {x : Complaint}
    (hn : nextName first bs = .ok (some (name, rest))) (hm : member name acc rest = .error x) :
    readMembers member first acc bs = .error x := by
  rw [readMembers, hn]
  simp [hm]

/-- What a reader of members comes to at a member of a given name and value, whatever stands around it: it leaves what
follows the value, or it complains. -/
def ReadsMember (member : String → α → Reader α) (acc : α) (e : String × Bytes) (result : Except Complaint α) : Prop :=
  ∀ b c rest, Blanks b → Blanks c → Delimited rest →
    member e.1 acc (b ++ ascii ':' :: (c ++ (e.2 ++ rest))) = result.map (·, rest)

/-- What a reader of members comes to at members in a row, up to the first complaint. -/
inductive ReadsAll (member : String → α → Reader α) : α → List (String × Bytes) → Except Complaint α → Prop
  | done (acc : α) : ReadsAll member acc [] (.ok acc)
  | next {acc acc' : α} {e : String × Bytes} {entries : List (String × Bytes)} {result : Except Complaint α} :
      ReadsMember member acc e (.ok acc') → ReadsAll member acc' entries result →
      ReadsAll member acc (e :: entries) result
  | stop {acc : α} {e : String × Bytes} {entries : List (String × Bytes)} {x : Complaint} :
      ReadsMember member acc e (.error x) → ReadsAll member acc (e :: entries) (.error x)

/-- A member with what follows it: the reader of its name leaves its colon, and its blanks belong to what follows. -/
theorem Entry.exists_split {s v m before : Bytes} {name : String} (hm : Entry s v m) (hs : Literal s name.toList)
    (ho : Opens first before) (rest : Bytes) : ∃ b c d, Blanks b ∧ Blanks c ∧ Blanks d ∧
      nextName first (before ++ (m ++ rest)) = .ok (some (name, b ++ ascii ':' :: (c ++ (v ++ (d ++ rest))))) ∧
      (d ++ rest).length < (before ++ (m ++ rest)).length := by
  cases hm with
  | @mk a b c d ha hb hc hd =>
    refine ⟨b, c, d, hb, hc, hd, ?_, ?_⟩
    · simp only [List.append_assoc, List.cons_append]
      exact nextName_eq ho ha hs _
    · simp [quoted]
      omega

theorem Row.readMembers_eq {entries : List (String × Bytes)} {row before : Bytes} {result : Except Complaint α}
    (hrow : Row entries row) (h : ReadsAll member acc entries result) (ho : Opens first before) (rest : Bytes) :
    readMembers member first acc (before ++ (row ++ ascii '}' :: rest)) = result.map (·, rest) := by
  -- The blanks behind a value are not read with it: they stand before the next name, or before the brace.
  induction hrow generalizing acc first before with
  | one hs hm =>
    obtain ⟨b, c, d, hb, hc, hd, hn, hl⟩ := hm.exists_split hs ho (ascii '}' :: rest)
    have hdel := hd.delimited_append (.mk (by decide : ascii '}' ∈ delimiters) : Delimited (ascii '}' :: rest))
    cases h with
    | next he h =>
      cases h with
      | done => rw [readMembers_of_ok hn (he b c _ hb hc hdel) hl, readMembers_end hd]; rfl
    | stop he => exact readMembers_of_error hn (he b c _ hb hc hdel)
  | @more name s v m row entries hs hm _ ih =>
    rw [List.append_assoc, List.cons_append]
    obtain ⟨b, c, d, hb, hc, hd, hn, hl⟩ := hm.exists_split hs ho (ascii ',' :: (row ++ ascii '}' :: rest))
    have hdel := hd.delimited_append
      (.mk (by decide : ascii ',' ∈ delimiters) : Delimited (ascii ',' :: (row ++ ascii '}' :: rest)))
    cases h with
    | next he h =>
      have hrest := ih h (.other hd)
      rw [List.append_assoc, List.singleton_append] at hrest
      rw [readMembers_of_ok hn (he b c _ hb hc hdel) hl, hrest]
    | stop he => exact readMembers_of_error hn (he b c _ hb hc hdel)

/-! ## Whole objects -/

theorem ObjectText.exists_inside {entries : List (String × Bytes)} {text : Bytes} (ht : ObjectText entries text) :
    ∃ a inside, text = a ++ ascii '{' :: inside ∧ Blanks a ∧ ∃ d, Blanks d ∧
      ∀ (member : String → α → Reader α) acc result, ReadsAll member acc entries result →
        readMembers member true acc inside = result.map (·, d) := by
  cases ht with
  | @empty a b d ha hb hd =>
    refine ⟨a, _, rfl, ha, d, hd, fun member acc result h => ?_⟩
    cases h
    exact readMembers_end hb d
  | @members a row d _ ha hrow hd =>
    exact ⟨a, _, rfl, ha, d, hd, fun member acc result h => hrow.readMembers_eq h .first d⟩

/-- What an object comes to is what its members come to, when the whole of it has been made from them. -/
theorem ReadsAll.whole_eq {β : Type} {entries : List (String × Bytes)} {text : Bytes} {result : Except Complaint α}
    (h : ReadsAll member acc entries result) (ht : ObjectText entries text) {array object : Reader β}
    (finish : α → Except Complaint β)
    (ho : ∀ bs, object bs = do
      let (a, rest) ← readMembers member true acc bs
      return (← finish a, rest)) :
    whole (record array object) text = result >>= finish := by
  obtain ⟨a, inside, rfl, ha, d, hd, hread⟩ := ht.exists_inside
  have hrecord : record array object (a ++ ascii '{' :: inside) = (result >>= finish).map (·, d) := by
    rw [record, skipBlank_append ha (by decide)]
    refine (ho inside).trans ?_
    rw [hread member acc result h]
    cases result with
    | error x => rfl
    | ok a => cases ha : finish a <;> simp [Except.map, bind, Except.bind, ha, pure, Except.pure]
  rw [whole, hrecord]
  cases result >>= finish with
  | error x => rfl
  | ok b => simp [Except.map, skipBlank_blanks hd]

end Courier.Json
