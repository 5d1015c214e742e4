import Courier.Proofs.Template.Position
import Courier.Transport.Command

/-!
# What a template renders

A command is the text of its template with the values in the place of the first tokens, and nothing else changed.

* `substitute`, `substituteBoth` : a text with values in the place of what stands at given positions;
* `GetText`, `PostText` : the command of a GET and of a POST, told by the first positions of the tokens, in the
  characters of the template and in its bytes;
* `GetText.unique`, `PostText.unique` : there is one such command;
* `Template.flatMap_render_cut_cons` : what the pieces of a template render, up to a placeholder;
* `Template.parse_forGet`, `Template.parse_forPost` : what a template renders once it is read;
* `Body.Carries` : the text that a body without a file carries; `Commands.render_of_get`, `Commands.render_of_post` : what
  rendering looks at;
* `rendering_substitutes` : reading and rendering a template gives these texts, and so does the command transport.
-/

namespace Courier
variable {α : Type}

/-- `text` with `value` in the place of the two elements from position `i` on. -/
def substitute (text : List α) (i : Nat) (value : List α) : List α :=
  text.take i ++ value ++ text.drop (i + 2)

/-- `text` with one value in the place of the two elements from `i` on, and another in that of the two from `j` on,
further right. -/
def substituteInOrder (text : List α) (i : Nat) (value : List α) (j : Nat) (value' : List α) : List α :=
  text.take i ++ value ++ (text.take j).drop (i + 2) ++ value' ++ text.drop (j + 2)

/-- `text` with `u` in the place of the two elements from `i` on, and `p` in that of the two from `j` on. -/
def substituteBoth (text : List α) (i : Nat) (u : List α) (j : Nat) (p : List α) : List α :=
  if i < j then substituteInOrder text i u j p else substituteInOrder text j p i u

/-- The command of a GET: the template with the URL in the place of the first `%u`. The second line says it of the
bytes. -/
def GetText (raw url command : List Char) : Prop :=
  (∃ i, FirstAt ['%', 'u'] raw i ∧ command = substitute raw i url) ∧
  ∃ i, FirstAt (Utf8.encode ['%', 'u']) (Utf8.encode raw) i ∧
    Utf8.encode command = substitute (Utf8.encode raw) i (Utf8.encode url)

/-- The command of a POST: the template with the URL in the place of the first `%u` and the payload in that of the
first `%p`, which do not overlap. The second part says it of the bytes. -/
def PostText (raw url payload command : List Char) : Prop :=
  (∃ i j, FirstAt ['%', 'u'] raw i ∧ FirstAt ['%', 'p'] raw j ∧ (i + 2 ≤ j ∨ j + 2 ≤ i) ∧
    command = substituteBoth raw i url j payload) ∧
  ∃ i j, FirstAt (Utf8.encode ['%', 'u']) (Utf8.encode raw) i ∧ FirstAt (Utf8.encode ['%', 'p']) (Utf8.encode raw) j ∧
    (i + 2 ≤ j ∨ j + 2 ≤ i) ∧
    Utf8.encode command = substituteBoth (Utf8.encode raw) i (Utf8.encode url) j (Utf8.encode payload)

/-! ## Substituting in bytes -/

namespace Utf8

/-- Two characters of the text at a position are two bytes there. -/
theorem drop_offset_add_two {p : Placeholder} {raw : List Char} {i : Nat} (h : p.token <+: raw.drop i) :
    (encode raw).drop (offset raw i + 2) = encode (raw.drop (i + 2)) := by
  obtain ⟨s, hs⟩ := h
  have hd : raw.drop (i + 2) = s := by
    rw [← List.drop_drop, ← hs]
    rfl
  rw [← List.drop_drop, drop_offset, ← hs, encode_append, Placeholder.encode_token, hd]
  rfl

theorem offset_add_two {p : Placeholder} {raw : List Char} {i : Nat} (h : p.token <+: raw.drop i) :
    offset raw (i + 2) = offset raw i + 2 := by
  obtain ⟨s, hs⟩ := h
  rw [offset, List.take_add, ← hs, encode_append, List.length_append, offset, show (2 : Nat) = p.token.length from rfl,
    List.take_left, Placeholder.encode_token]
  rfl

theorem encode_substitute {p : Placeholder} {raw : List Char} {i : Nat} (h : p.token <+: raw.drop i)
    (value : List Char) : encode (substitute raw i value) = substitute (encode raw) (offset raw i) (encode value) := by
  rw [substitute, substitute, encode_append, encode_append, take_offset, drop_offset_add_two h]

theorem encode_substituteInOrder {p q : Placeholder} {raw : List Char} {i j : Nat} (hi : p.token <+: raw.drop i)
    (hj : q.token <+: raw.drop j) (hij : i + 2 ≤ j) (value value' : List Char) :
    encode (substituteInOrder raw i value j value') =
      substituteInOrder (encode raw) (offset raw i) (encode value) (offset raw j) (encode value') := by
  -- The part between the tokens is cut from the text before the second one.
  have hi' : p.token <+: (raw.take j).drop i := by
    rw [List.drop_take]
    exact List.prefix_take_iff.2 ⟨hi, by rw [show p.token.length = 2 from rfl]; omega⟩
  have ho : offset (raw.take j) i = offset raw i := by
    rw [offset, List.take_take, min_eq_left (by omega), offset]
  have hm := drop_offset_add_two hi'
  rw [ho] at hm
  simp only [substituteInOrder, encode_append, take_offset, drop_offset_add_two hj, hm]

theorem encode_substituteBoth {p q : Placeholder} {raw : List Char} {i j : Nat} (hi : p.token <+: raw.drop i)
    (hj : q.token <+: raw.drop j) (hij : i + 2 ≤ j ∨ j + 2 ≤ i) (u v : List Char) :
    encode (substituteBoth raw i u j v) =
      substituteBoth (encode raw) (offset raw i) (encode u) (offset raw j) (encode v) := by
  rcases hij with h | h
  · have := offset_mono raw h
    rw [offset_add_two hi] at this
    rw [substituteBoth, if_pos (by omega), substituteBoth, if_pos (by omega), encode_substituteInOrder hi hj h]
  · have := offset_mono raw h
    rw [offset_add_two hj] at this
    rw [substituteBoth, if_neg (by omega), substituteBoth, if_neg (by omega), encode_substituteInOrder hj hi h]

end Utf8

theorem getText_of_firstAt {raw url command : List Char} {i : Nat} (hi : FirstAt Placeholder.url.token raw i)
    (h : command = substitute raw i url) : GetText raw url command :=
  ⟨⟨i, hi, h⟩, Utf8.offset raw i, hi.encode, by rw [h, Utf8.encode_substitute hi.1]⟩

theorem postText_of_firstAt {raw url payload command : List Char} {i j : Nat}
    (hi : FirstAt Placeholder.url.token raw i) (hj : FirstAt Placeholder.payload.token raw j)
    (h : command = substituteBoth raw i url j payload) : PostText raw url payload command := by
  have ha := Placeholder.apart (by decide) hi.1 hj.1
  have hb : Utf8.offset raw i + 2 ≤ Utf8.offset raw j ∨ Utf8.offset raw j + 2 ≤ Utf8.offset raw i := by
    rw [← Utf8.offset_add_two hi.1, ← Utf8.offset_add_two hj.1]
    exact ha.imp (Utf8.offset_mono raw) (Utf8.offset_mono raw)
  exact ⟨⟨i, j, hi, hj, ha, h⟩, Utf8.offset raw i, Utf8.offset raw j, hi.encode, hj.encode, hb,
    by rw [h, Utf8.encode_substituteBoth hi.1 hj.1 ha]⟩

theorem GetText.unique {raw url command command' : List Char} (h : GetText raw url command)
    (h' : GetText raw url command') : command = command' := by
  obtain ⟨i, hi, rfl⟩ := h.1
  obtain ⟨j, hj, rfl⟩ := h'.1
  rw [hi.unique hj]

theorem PostText.unique {raw url payload command command' : List Char} (h : PostText raw url payload command)
    (h' : PostText raw url payload command') : command = command' := by
  obtain ⟨i, j, hi, hj, -, rfl⟩ := h.1
  obtain ⟨k, l, hk, hl, -, rfl⟩ := h'.1
  rw [hi.unique hk, hj.unique hl]

/-! ## Reading a template -/

namespace Template

theorem locate_cons {p : Placeholder} {raw : List Char} {i : Nat} (hi : FirstAt p.token raw i)
    (required : List Placeholder) : locate raw (p :: required) = (locate raw required).map ((i, p) :: ·) := by
  rw [locate, Placeholder.position?_eq_some_iff.2 hi]

theorem pairwise_mergeSort (found : List (Nat × Placeholder)) :
    (found.mergeSort fun a b => a.1 ≤ b.1).Pairwise fun a b => a.1 ≤ b.1 := by
  have h := @List.pairwise_mergeSort _ (fun a b : Nat × Placeholder => decide (a.1 ≤ b.1))
    (fun a b c hab hbc => by simp only [decide_eq_true_eq] at *; omega) (fun a b => by simp; omega) found
  exact h.imp of_decide_eq_true

theorem mergeSort_eq {found sorted : List (Nat × Placeholder)} (hp : found.Perm sorted)
    (hs : sorted.Pairwise fun a b => a.1 ≤ b.1) (hi : ∀ a ∈ sorted, ∀ b ∈ sorted, a.1 = b.1 → a = b) :
    found.mergeSort (fun a b => a.1 ≤ b.1) = sorted :=
  List.Perm.eq_of_pairwise
    (fun a b ha hb hab hba => hi a (hp.mem_iff.1 (List.mem_mergeSort.1 ha)) b hb (Nat.le_antisymm hab hba))
    (pairwise_mergeSort found) hs ((List.mergeSort_perm _ _).trans hp)

/-- A template is cut at the places of its placeholders, from left to right. -/
theorem parse_eq {raw : List Char} {required : List Placeholder} {found sorted : List (Nat × Placeholder)}
    (hl : locate raw required = .ok found) (hp : found.Perm sorted) (hs : sorted.Pairwise fun a b => a.1 < b.1) :
    parse required raw = .ok ⟨cut raw 0 sorted⟩ := by
  have hn : (sorted.map Prod.fst).Nodup := List.pairwise_map.2 (hs.imp Nat.ne_of_lt)
  have hi : ∀ a ∈ sorted, ∀ b ∈ sorted, a.1 = b.1 → a = b :=
    fun a ha b hb hab => List.inj_on_of_nodup_map hn ha hb hab
  rw [parse, hl, Except.map, mergeSort_eq hp (hs.imp Nat.le_of_lt) hi]

theorem flatMap_render_cut_nil (raw url payload : List Char) (cursor : Nat) :
    (cut raw cursor []).flatMap (Segment.render url payload) = raw.drop cursor := by
  rw [cut]
  split_ifs with h
  · simp [Segment.render]
  · rw [List.drop_eq_nil_of_le (by omega), List.flatMap_nil]

/-- The pieces up to a placeholder render the text before it and its value. -/
theorem flatMap_render_cut_cons (raw url payload : List Char) (cursor i : Nat) (p : Placeholder)
    (rest : List (Nat × Placeholder)) :
    (cut raw cursor ((i, p) :: rest)).flatMap (Segment.render url payload) =
      (raw.take i).drop cursor ++ (Segment.placeholder p).render url payload ++
        (cut raw (i + 2) rest).flatMap (Segment.render url payload) := by
  rw [cut, show p.token.length = 2 from rfl, List.flatMap_append, List.flatMap_cons, List.append_assoc]
  congr 1
  split_ifs with h
  · simp [Segment.render]
  · rw [List.drop_eq_nil_of_le (by rw [List.length_take]; omega), List.flatMap_nil]

theorem parse_forGet {raw : List Char} (h : Placeholder.url.token <:+: raw) :
    ∃ t, parse forGet raw = .ok t ∧ ∀ url payload, GetText raw url (t.render url payload) := by
  obtain ⟨i, hi⟩ := exists_firstAt_iff.2 h
  have hl : locate raw forGet = .ok [(i, .url)] := by
    rw [forGet, locate_cons hi]
    rfl
  refine ⟨_, parse_eq hl (List.Perm.refl _) (List.pairwise_singleton _ _),
    fun url payload => getText_of_firstAt hi ?_⟩
  rw [render, flatMap_render_cut_cons, flatMap_render_cut_nil]
  rfl

theorem parse_forPost {raw : List Char} (hu : Placeholder.url.token <:+: raw)
    (hp : Placeholder.payload.token <:+: raw) :
    ∃ t, parse forPost raw = .ok t ∧ ∀ url payload, PostText raw url payload (t.render url payload) := by
  obtain ⟨i, hi⟩ := exists_firstAt_iff.2 hu
  obtain ⟨j, hj⟩ := exists_firstAt_iff.2 hp
  have hl : locate raw forPost = .ok [(i, .url), (j, .payload)] := by
    rw [forPost, locate_cons hi, locate_cons hj]
    rfl
  have ha := Placeholder.apart (by decide) hi.1 hj.1
  by_cases hij : i < j
  · refine ⟨_, parse_eq hl (List.Perm.refl _) (List.pairwise_pair.2 hij),
      fun url payload => postText_of_firstAt hi hj ?_⟩
    rw [render, flatMap_render_cut_cons, flatMap_render_cut_cons, flatMap_render_cut_nil, substituteBoth, if_pos hij,
      substituteInOrder, List.drop_zero]
    simp only [Segment.render, List.append_assoc]
  · have hji : j < i := by omega
    refine ⟨_, parse_eq hl (List.Perm.swap _ _ _) (List.pairwise_pair.2 hji),
      fun url payload => postText_of_firstAt hi hj ?_⟩
    rw [render, flatMap_render_cut_cons, flatMap_render_cut_cons, flatMap_render_cut_nil, substituteBoth, if_neg hij,
      substituteInOrder, List.drop_zero]
    simp only [Segment.render, List.append_assoc]

end Template

/-! ## The commands -/

/-- The text that a body carries. A body that is a file carries none, not even the empty one. -/
inductive Body.Carries : Body → String → Prop
  | empty : Body.Carries .empty ""
  | text (s : String) : Body.Carries (.text s) s

theorem Body.exists_carries {b : Body} (h : ∀ path length, b ≠ .file path length) : ∃ s, b.Carries s := by
  cases b with
  | empty => exact ⟨_, .empty⟩
  | text s => exact ⟨_, .text s⟩
  | file path length => exact absurd rfl (h path length)

namespace Commands
variable {σ : Type}

theorem load_eq_ok {setting raw : String} {required : List Placeholder} {t : Template} (w : σ)
    (h : Template.parse required raw.toList = .ok t) : Template.load setting required raw w = ⟨w, [], some (.ok t)⟩ := by
  rw [Template.load, h]
  rfl

theorem render_of_get {c : Commands} {r : Request} (hb : ∀ path length, r.body ≠ .file path length)
    (hm : r.method = .get) :
    (c.render r : Act σ _) = Template.load Setting.getCommand Template.forGet c.get >>= fun t =>
      pure (t.map fun t => String.ofList (t.render r.url.toList [])) := by
  obtain ⟨method, url, headers, body⟩ := r
  cases hm
  cases body with
  | empty => rfl
  | text text => rfl
  | file path length => exact absurd rfl (hb path length)

theorem render_of_post {c : Commands} {r : Request} {text : String} (hb : r.body.Carries text)
    (hm : r.method = .post) :
    (c.render r : Act σ _) = Template.load Setting.postCommand Template.forPost c.post >>= fun t =>
      pure (t.map fun t => String.ofList (t.render r.url.toList text.toList)) := by
  obtain ⟨method, url, headers, body⟩ := r
  cases hm
  cases hb with
  | empty => rfl
  | text text => rfl

/-- The command for a GET, whatever body it carries that is no file. -/
theorem render_get {c : Commands} {r : Request} (hm : r.method = .get) (hb : ∀ path length, r.body ≠ .file path length)
    (hu : Placeholder.url.token <:+: c.get.toList) (w : σ) :
    ∃ command, c.render r w = ⟨w, [], some (.ok command)⟩ ∧
      GetText c.get.toList r.url.toList command.toList := by
  obtain ⟨t, ht, hr⟩ := Template.parse_forGet hu
  have hl : Template.load Setting.getCommand Template.forGet c.get w = ⟨w, [], some (.ok t)⟩ := load_eq_ok w ht
  refine ⟨String.ofList (t.render r.url.toList []), ?_, by rw [String.toList_ofList]; exact hr _ _⟩
  rw [render_of_get hb hm, Act.bind_apply, hl]
  rfl

/-- The command for a POST of a text, or of nothing. -/
theorem render_post {c : Commands} {r : Request} {text : String} (hm : r.method = .post) (hb : r.body.Carries text)
    (hu : Placeholder.url.token <:+: c.post.toList) (hp : Placeholder.payload.token <:+: c.post.toList) (w : σ) :
    ∃ command, c.render r w = ⟨w, [], some (.ok command)⟩ ∧
      PostText c.post.toList r.url.toList text.toList command.toList := by
  obtain ⟨t, ht, hr⟩ := Template.parse_forPost hu hp
  have hl : Template.load Setting.postCommand Template.forPost c.post w = ⟨w, [], some (.ok t)⟩ := load_eq_ok w ht
  refine ⟨String.ofList (t.render r.url.toList text.toList), ?_, by rw [String.toList_ofList]; exact hr _ _⟩
  rw [render_of_post hb hm, Act.bind_apply, hl]
  rfl

end Commands

/-- **Substitution is simultaneous and touches only the first tokens**, whatever else the template holds and whatever
the values hold. The payload of a POST is its text, or empty when it carries none. -/
theorem rendering_substitutes :
    (∀ raw, ['%', 'u'] <:+: raw → ∃ t, Template.parse Template.forGet raw = .ok t ∧
      ∀ url payload, GetText raw url (t.render url payload)) ∧
    (∀ raw, ['%', 'u'] <:+: raw → ['%', 'p'] <:+: raw → ∃ t, Template.parse Template.forPost raw = .ok t ∧
      ∀ url payload, PostText raw url payload (t.render url payload)) ∧
    ∀ (σ : Type) (c : Commands) (r : Request) (w : σ),
      (r.method = .get → (∀ path length, r.body ≠ .file path length) → ['%', 'u'] <:+: c.get.toList →
        ∃ command, c.render r w = ⟨w, [], some (.ok command)⟩ ∧
          GetText c.get.toList r.url.toList command.toList) ∧
      (r.method = .post → ['%', 'u'] <:+: c.post.toList → ['%', 'p'] <:+: c.post.toList →
        (∀ text, r.body = .text text → ∃ command, c.render r w = ⟨w, [], some (.ok command)⟩ ∧
          PostText c.post.toList r.url.toList text.toList command.toList) ∧
        (r.body = .empty → ∃ command, c.render r w = ⟨w, [], some (.ok command)⟩ ∧
          PostText c.post.toList r.url.toList [] command.toList)) := by
  refine ⟨fun _ hu => Template.parse_forGet hu, fun _ hu hp => Template.parse_forPost hu hp, fun σ c r w => ⟨?_, ?_⟩⟩
  · intro hm hb hu
    exact Commands.render_get hm hb hu w
  · intro hm hu hp
    refine ⟨fun text hb => ?_, fun hb => ?_⟩
    · exact Commands.render_post hm (hb ▸ Body.Carries.text text) hu hp w
    · exact Commands.render_post hm (hb ▸ Body.Carries.empty) hu hp w

/-- Tokens side by side, one after a stray percent sign, a second `%u`, and values that hold tokens themselves. -/
theorem rendering_substitutes_adjacent :
    let raw := ['%', '%', 'p', '%', 'u', 'é', '%', 'u']
    let c : Commands := ⟨String.ofList raw, String.ofList raw⟩
    let get : Request := ⟨.get, "http://h/%u", [], .text "%p"⟩
    let post : Request := ⟨.post, "http://h/%p", [], .text "%u"⟩
    let bare : Request := ⟨.post, "http://h/%p", [], .empty⟩
    ['%', 'u'] <:+: raw ∧ ['%', 'p'] <:+: raw ∧
    (∃ t, Template.parse Template.forGet raw = .ok t ∧ ∀ url payload, GetText raw url (t.render url payload)) ∧
    (∃ t, Template.parse Template.forPost raw = .ok t ∧
      ∀ url payload, PostText raw url payload (t.render url payload)) ∧
    c.render get () = ⟨(), [], some (.ok "%%phttp://h/%ué%u")⟩ ∧
    c.render post () = ⟨(), [], some (.ok "%%uhttp://h/%pé%u")⟩ ∧
    c.render bare () = ⟨(), [], some (.ok "%http://h/%pé%u")⟩ := by
  intro raw c get post bare
  have hu : ['%', 'u'] <:+: raw := by decide
  have hp : ['%', 'p'] <:+: raw := by decide
  have hc : c.get.toList = raw ∧ c.post.toList = raw := ⟨String.toList_ofList, String.toList_ofList⟩
  have hi : FirstAt Placeholder.url.token raw 3 := ⟨by decide, by decide⟩
  have hj : FirstAt Placeholder.payload.token raw 1 := ⟨by decide, by decide⟩
  obtain ⟨_, hget, hget'⟩ := (rendering_substitutes.2.2 Unit c get ()).1 rfl (by simp [get]) (hc.1 ▸ hu)
  obtain ⟨_, hpost, hpost'⟩ :=
    ((rendering_substitutes.2.2 Unit c post ()).2 rfl (hc.2 ▸ hu) (hc.2 ▸ hp)).1 _ rfl
  obtain ⟨_, hbare, hbare'⟩ := ((rendering_substitutes.2.2 Unit c bare ()).2 rfl (hc.2 ▸ hu) (hc.2 ▸ hp)).2 rfl
  rw [hc.1] at hget'
  rw [hc.2] at hpost' hbare'
  have get_eq : GetText raw get.url.toList "%%phttp://h/%ué%u".toList := getText_of_firstAt hi (by decide)
  have post_eq : PostText raw post.url.toList "%u".toList "%%uhttp://h/%pé%u".toList :=
    postText_of_firstAt hi hj (by decide)
  have bare_eq : PostText raw bare.url.toList [] "%http://h/%pé%u".toList := postText_of_firstAt hi hj (by decide)
  rw [String.toList_inj.1 (hget'.unique get_eq)] at hget
  rw [String.toList_inj.1 (hpost'.unique post_eq)] at hpost
  rw [String.toList_inj.1 (hbare'.unique bare_eq)] at hbare
  exact ⟨hu, hp, rendering_substitutes.1 raw hu, rendering_substitutes.2.1 raw hu hp, hget, hpost, hbare⟩

end Courier
