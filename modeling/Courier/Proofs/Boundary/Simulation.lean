import Courier.Boundary.Session
import Courier.Proofs.Text.Utf8

/-!
# C calls as calls of the client

A session of C calls does what the calls of the client behind it do.

* `Envelope.telling` : the envelope of a failure, its text with spaces for zeros; `failed_eq` : there is no other;
* `notice` : the code and the text that tell a failure, kind by kind; `ofFailure_eq_failed` : its envelope has them;
* `Contents` : the bytes before the first zero; `Reads` : the text a pointer stands for; `argument_cases`,
  `optionalArgument_cases`;
* `Rejects`, `Refuses` : the first wrong argument of a call, and the envelope that names it;
* `Stands` : the call of the client that a C call stands for; `answer_cases` : it is made unless an argument is wrong;
* `Answers` : what one call comes to, `answers_iff`;
* `Session` : what calls in a row come to, `session_simulates_client`.
-/

namespace Courier.Boundary
open String (utf8EncodeChar)

/-! ## Envelopes of failures -/

/-- A text that can be a C string: spaces stand where it had zeros. -/
def zeroless (text : List Char) : List Char :=
  text.map fun c => if c = '\x00' then ' ' else c

/-- The envelope that tells a failure: a code and a C string, and no data. -/
def Envelope.telling (code : Code) (text : String) : Envelope :=
  ⟨code, some (Utf8.encode (zeroless text.toList) ++ [0]), none, 0⟩

theorem ascii_eq_zero_iff {c : Char} (h : c.toNat < 128) : ascii c = 0 ↔ c = '\x00' := by
  rw [← UInt8.toNat_inj, ← Char.toNat_inj]
  simp [ascii]
  omega

/-- A zero byte in the encoding of a text is a zero character, since every other has no zero among its bytes. -/
theorem zero_mem_encodeChar_iff {c : Char} : 0 ∈ utf8EncodeChar c ↔ c = '\x00' := by
  rcases lt_or_ge c.toNat 128 with h | h
  · rw [Utf8.encodeChar_ascii h, List.mem_singleton, eq_comm, ascii_eq_zero_iff h]
  · constructor
    · intro h0
      exact absurd (Utf8.le_of_mem_encodeChar h h0) (by decide)
    · rintro rfl
      exact absurd h (by decide)

theorem zero_notMem_encode_zeroless (text : List Char) : 0 ∉ Utf8.encode (zeroless text) := by
  induction text with
  | nil => simp [zeroless]
  | cons c text ih =>
    rw [zeroless, List.map_cons, Utf8.encode_cons, List.mem_append, zero_mem_encodeChar_iff]
    rintro (h | h)
    · split_ifs at h with hc
      · cases h
      · exact hc h
    · exact ih h

theorem map_encode_zeroless (text : List Char) :
    (Utf8.encode text).map (fun b => if b = 0 then ascii ' ' else b) = Utf8.encode (zeroless text) := by
  induction text with
  | nil => rfl
  | cons c text ih =>
    rw [zeroless, List.map_cons, Utf8.encode_cons, Utf8.encode_cons, List.map_append, ih]
    congr 1
    split_ifs with hc
    · rw [hc]
      decide
    · refine (List.map_congr_left fun b hb => if_neg ?_).trans (List.map_id _)
      rintro rfl
      exact hc (zero_mem_encodeChar_iff.1 hb)

theorem Envelope.failed_eq (code : Code) (text : String) : failed code text = telling code text := by
  have h : (messageBytes text).contains 0 = false := by
    rw [messageBytes, map_encode_zeroless]
    simpa using zero_notMem_encode_zeroless text.toList
  rw [failed, cString?, h, messageBytes, map_encode_zeroless]
  rfl

/-- The code and the text that tell a failure, kind by kind. -/
def notice : Failure → Code × String
  | .badTemplate setting template => (.configuration,
      "invalid HTTP command template " ++ String.ofList (Text.quote template.toList) ++ ": set the '" ++ setting ++
        "' environment variable")
  | .transport reason => (.transport, "transport failure: " ++ reason)
  | .subprocess reason => (.subprocess, "failed to spawn HTTP command: " ++ reason)
  | .unreadableFile path cause => (.fileNotFound,
      "cannot read " ++ String.ofList (Utf8.decodeLossy path) ++ ": " ++ cause.message)
  | .unsupported reason => (.unsupported, "unsupported operation: " ++ reason)
  | .allocation .tooLarge => (.allocation, "reply buffer allocation failed: " ++
      "memory allocation failed because the computed capacity exceeded the collection's maximum")
  | .allocation .outOfMemory => (.allocation, "reply buffer allocation failed: " ++
      "memory allocation failed because the memory allocator returned an error")

theorem notice_fst (x : Failure) : (notice x).1 = .ofFailure x := by
  cases x with
  | allocation cause => cases cause <;> rfl
  | _ => rfl

theorem notice_snd (x : Failure) : (notice x).2 = x.message := by
  cases x with
  | badTemplate setting template =>
    change _ = String.ofList (Failure.badTemplateText setting.toList template.toList)
    unfold Failure.badTemplateText notice
    simp only [String.ofList_append, String.ofList_toList]
  | allocation cause => cases cause <;> rfl
  | _ => rfl

theorem Envelope.ofFailure_eq_failed (x : Failure) : ofFailure x = failed (notice x).1 (notice x).2 := by
  rw [ofFailure, notice_fst, notice_snd]

/-! ## Arguments -/

/-- The bytes before the first zero, or all of them if there is no zero. -/
inductive Contents : Bytes → Bytes → Prop
  | whole {bs : Bytes} : 0 ∉ bs → Contents bs bs
  | ended {bs : Bytes} (more : Bytes) : 0 ∉ bs → Contents (bs ++ 0 :: more) bs

/-- The text that a string argument stands for, if it is not null: the one whose bytes are its contents. -/
inductive Reads : Pointer → Option String → Prop
  | null : Reads none none
  | text {bs : Bytes} {s : String} : Contents bs (Utf8.encode s.toList) → Reads (some bs) (some s)

/-- An argument of a call: a client, or a string of a given name that has to be there, or may be left out. -/
inductive Argument (σ : Type) where
  | client (client : Option (Client σ))
  | required (name : String) (p : Pointer)
  | optional (name : String) (p : Pointer)

variable {σ : Type}

/-- What is wrong with an argument, as the envelope that names it. -/
inductive Rejects : Argument σ → Envelope → Prop
  | nullClient : Rejects (.client none) (.telling .nullArg "null argument: client")
  | null (name : String) : Rejects (.required name none) (.telling .nullArg ("null argument: " ++ name))
  | required (name : String) {bs : Bytes} : (∀ s : String, ¬ Contents bs (Utf8.encode s.toList)) →
      Rejects (.required name (some bs)) (.telling .invalidUtf8 ("argument is not UTF-8: " ++ name))
  | optional (name : String) {bs : Bytes} : (∀ s : String, ¬ Contents bs (Utf8.encode s.toList)) →
      Rejects (.optional name (some bs)) (.telling .invalidUtf8 ("argument is not UTF-8: " ++ name))

/-- The envelope that names the first wrong argument of a list. -/
inductive Refuses : List (Argument σ) → Envelope → Prop
  | here {a : Argument σ} {args : List (Argument σ)} {e : Envelope} : Rejects a e → Refuses (a :: args) e
  | there {a : Argument σ} {args : List (Argument σ)} {e : Envelope} : (∀ e', ¬ Rejects a e') → Refuses args e →
      Refuses (a :: args) e

theorem Rejects.unique {a : Argument σ} {e e' : Envelope} (h : Rejects a e) (h' : Rejects a e') : e = e' := by
  cases h <;> cases h' <;> rfl

theorem Refuses.unique {args : List (Argument σ)} {e e' : Envelope} (h : Refuses args e) (h' : Refuses args e') :
    e = e' := by
  induction h with
  | here h =>
    cases h' with
    | here h' => exact h.unique h'
    | there hn _ => exact absurd h (hn _)
  | there hn _ ih =>
    cases h' with
    | here h' => exact absurd h' (hn _)
    | there _ h' => exact ih h'

theorem not_refuses_of_forall {args : List (Argument σ)} (h : ∀ a ∈ args, ∀ e, ¬ Rejects a e) (e : Envelope) :
    ¬ Refuses args e := by
  intro hr
  induction hr with
  | here hr => exact h _ List.mem_cons_self _ hr
  | there _ _ ih => exact ih fun a ha => h a (List.mem_cons_of_mem _ ha)

theorem not_rejects_client (c : Client σ) (e : Envelope) : ¬ Rejects (.client (some c)) e := by
  rintro ⟨⟩

theorem Reads.not_rejects_required {p : Pointer} {s : String} (h : Reads p (some s)) (name : String) (e : Envelope) :
    ¬ Rejects (.required name p : Argument σ) e := by
  cases h with
  | text h =>
    intro hr
    cases hr with
    | required _ hn => exact hn s h

theorem Reads.not_rejects_optional {p : Pointer} {s : Option String} (h : Reads p s) (name : String) (e : Envelope) :
    ¬ Rejects (.optional name p : Argument σ) e := by
  intro hr
  cases hr with
  | optional _ hn =>
    cases h with
    | text h => exact hn _ h

theorem cContents_append {bs : Bytes} (h : 0 ∉ bs) (more : Bytes) : cContents (bs ++ more) = bs ++ cContents more := by
  refine List.takeWhile_append_of_pos fun b hb => ?_
  rw [bne_iff_ne]
  rintro rfl
  exact h hb

theorem Contents.cContents_eq {bs contents : Bytes} (h : Contents bs contents) : cContents bs = contents := by
  cases h with
  | whole h0 =>
    have h := cContents_append h0 []
    rwa [List.append_nil, show cContents [] = [] from rfl, List.append_nil] at h
  | ended more h0 => rw [cContents_append h0, cContents, List.takeWhile_cons_of_neg (by decide), List.append_nil]

theorem contents_cContents (bs : Bytes) : Contents bs (cContents bs) := by
  induction bs with
  | nil => exact .whole List.not_mem_nil
  | cons b bs ih =>
    by_cases hb : b = 0
    · rw [hb, cContents, List.takeWhile_cons_of_neg (by decide)]
      exact .ended bs List.not_mem_nil
    · have hne : ∀ {cs : Bytes}, 0 ∉ cs → 0 ∉ b :: cs := fun h0 => List.not_mem_cons_of_ne_of_not_mem (Ne.symm hb) h0
      rw [cContents, List.takeWhile_cons_of_pos (by simpa using hb)]
      generalize hcs : bs.takeWhile (· != 0) = cs
      rw [cContents, hcs] at ih
      cases ih with
      | whole h0 => exact .whole (hne h0)
      | ended more h0 => exact .ended more (hne h0)

theorem contents_iff {bs contents : Bytes} : Contents bs contents ↔ cContents bs = contents := by
  constructor
  · exact Contents.cContents_eq
  · rintro rfl
    exact contents_cContents bs

theorem textOf_eq_some_iff {bs : Bytes} {s : String} : textOf bs = some s ↔ Contents bs (Utf8.encode s.toList) := by
  rw [textOf, Option.map_eq_some_iff, contents_iff]
  constructor
  · rintro ⟨cs, h, rfl⟩
    rw [String.toList_ofList]
    exact Utf8.decode?_eq_some_iff.1 h
  · intro h
    exact ⟨s.toList, Utf8.decode?_eq_some_iff.2 h, String.ofList_toList⟩

theorem textOf_eq_none_iff {bs : Bytes} :
    textOf bs = none ↔ ∀ s : String, ¬ Contents bs (Utf8.encode s.toList) := by
  rw [Option.eq_none_iff_forall_ne_some]
  exact forall_congr' fun s => not_congr textOf_eq_some_iff

/-- A string that has to be there is read, or the call is refused for it. -/
theorem argument_cases (σ : Type) (name : String) (p : Pointer) :
    (∃ s, Reads p (some s) ∧ argument name p = .ok s) ∨
      ∃ e, Rejects (.required name p : Argument σ) e ∧ argument name p = .error e := by
  cases p with
  | none => exact .inr ⟨_, .null name, by rw [argument, Envelope.nullArgument, Envelope.failed_eq]⟩
  | some bs =>
    cases h : textOf bs with
    | some s => exact .inl ⟨s, .text (textOf_eq_some_iff.1 h), by rw [argument, h]⟩
    | none =>
      exact .inr ⟨_, .required name (textOf_eq_none_iff.1 h),
        by rw [argument, h, Envelope.invalidText, Envelope.failed_eq]⟩

/-- A string that may be left out is read unless it is there and is not text. -/
theorem optionalArgument_cases (σ : Type) (name : String) (p : Pointer) :
    (∃ s, Reads p s ∧ optionalArgument name p = .ok s) ∨
      ∃ e, Rejects (.optional name p : Argument σ) e ∧ optionalArgument name p = .error e := by
  cases p with
  | none => exact .inl ⟨none, .null, rfl⟩
  | some bs =>
    rcases argument_cases σ name (some bs) with ⟨s, hs, h⟩ | ⟨e, he, h⟩
    · exact .inl ⟨some s, hs, by rw [optionalArgument, h]; rfl⟩
    · cases he with
      | required _ hn => exact .inr ⟨_, .optional name hn, by rw [optionalArgument, h]; rfl⟩

/-! ## One call -/

namespace ForeignCall

/-- The name of the function that is called. -/
def function : ForeignCall σ → String
  | get .. => "oauth_http_get"
  | post .. => "oauth_http_post"
  | postFile .. => "oauth_post_file"

/-- The arguments that can be wrong, in their order. -/
def arguments : ForeignCall σ → List (Argument σ)
  | get client url query => [.client client, .required "url" url, .optional "query" query]
  | post client url body => [.client client, .required "url" url, .required "body" body]
  | postFile client url path _ contentType =>
    [.client client, .required "url" url, .required "path" path, .optional "content_type" contentType]

end ForeignCall

/-- The call of a client that a C call stands for. -/
inductive Stands : ForeignCall σ → Client σ → Call → Prop
  | get (c : Client σ) {url query : Pointer} {u : String} {q : Option String} :
      Reads url (some u) → Reads query q → Stands (.get (some c) url query) c (.get u q)
  | post (c : Client σ) {url body : Pointer} {u b : String} :
      Reads url (some u) → Reads body (some b) → Stands (.post (some c) url body) c (.post u b)
  | postFile (c : Client σ) {url path : Pointer} (length : Nat) {contentType : Pointer} {u p : String}
      {t : Option String} : Reads url (some u) → Reads path (some p) → Reads contentType t →
      Stands (.postFile (some c) url path length contentType) c (.postFile u (Utf8.encode p.toList) length t)

/-- What one call comes to: the events, the envelope and the world after it. -/
inductive Answers (f : ForeignCall σ) (w : σ) : List Event → Envelope → σ → Prop
  | refused {e : Envelope} : Refuses f.arguments e → Answers f w [] e w
  | replied {c : Client σ} {call : Call} {es : List Event} {b : Buffer} {w' : σ} : Stands f c call →
      c.call call w = ⟨w', es, some (.ok b)⟩ → Answers f w es ⟨.ok, none, some (b.toList ++ [0]), b.toList.length⟩ w'
  | failed {c : Client σ} {call : Call} {es : List Event} {x : Failure} {w' : σ} : Stands f c call →
      c.call call w = ⟨w', es, some (.error x)⟩ → Answers f w es (.telling (notice x).1 (notice x).2) w'
  | panicked {c : Client σ} {call : Call} {es : List Event} {w' : σ} : Stands f c call →
      c.call call w = ⟨w', es, none⟩ →
      Answers f w (es ++ [.panicCaught f.function]) (.telling .panic ("panic in " ++ f.function)) w'

theorem Reads.argument_eq {p : Pointer} {s : String} (h : Reads p (some s)) (name : String) :
    argument name p = .ok s := by
  cases h with
  | text h => rw [argument, textOf_eq_some_iff.2 h]

theorem Reads.optionalArgument_eq {p : Pointer} {s : Option String} (h : Reads p s) (name : String) :
    optionalArgument name p = .ok s := by
  cases h with
  | null => rfl
  | text h => rw [optionalArgument, Reads.argument_eq (.text h)]; rfl

theorem Stands.answer_eq {f : ForeignCall σ} {c : Client σ} {call : Call} (h : Stands f c call) :
    f.answer = perform f.function (.ok (c, call)) := by
  cases h with
  | get c hu hq =>
    rw [ForeignCall.answer, Boundary.get, getArguments, hu.argument_eq, hq.optionalArgument_eq]
    rfl
  | post c hu hb =>
    rw [ForeignCall.answer, Boundary.post, postArguments, hu.argument_eq, hb.argument_eq]
    rfl
  | postFile c length hu hp ht =>
    rw [ForeignCall.answer, Boundary.postFile, postFileArguments, hu.argument_eq, hp.argument_eq, ht.optionalArgument_eq]
    rfl

theorem Stands.not_refuses {f : ForeignCall σ} {c : Client σ} {call : Call} (h : Stands f c call) (e : Envelope) :
    ¬ Refuses f.arguments e := by
  refine not_refuses_of_forall ?_ e
  cases h with
  | get c hu hq =>
    simp [ForeignCall.arguments, not_rejects_client, hu.not_rejects_required, hq.not_rejects_optional]
  | post c hu hb =>
    simp [ForeignCall.arguments, not_rejects_client, hu.not_rejects_required, hb.not_rejects_required]
  | postFile c length hu hp ht =>
    simp [ForeignCall.arguments, not_rejects_client, hu.not_rejects_required, hp.not_rejects_required,
      ht.not_rejects_optional]

/-- All calls start with the client and the URL: the checks go on from them, or the call is refused for one. -/
theorem client_url_cases {β : Type} (client : Option (Client σ)) (url : Pointer) (args : List (Argument σ))
    (k : Client σ → String → Except Envelope β) :
    (∃ c u, client = some c ∧ Reads url (some u) ∧
      (do let c ← clientArgument client; let u ← argument "url" url; k c u) = k c u) ∨
    ∃ e, Refuses (.client client :: .required "url" url :: args) e ∧
      (do let c ← clientArgument client; let u ← argument "url" url; k c u) = .error e := by
  cases client with
  | none => exact .inr ⟨_, .here .nullClient, congrArg Except.error (Envelope.failed_eq _ _)⟩
  | some c =>
    rcases argument_cases σ "url" url with ⟨u, hu, h⟩ | ⟨e, he, h⟩
    · exact .inl ⟨c, u, rfl, hu, by rw [h]; rfl⟩
    · exact .inr ⟨e, .there (not_rejects_client c) (.here he), by rw [h]; rfl⟩

/-- A call stands for one of the client, or it is refused before the client is called. -/
theorem answer_cases (f : ForeignCall σ) :
    (∃ c call, Stands f c call) ∨ ∃ e, Refuses f.arguments e ∧ f.answer = pure e := by
  cases f with
  | get client url query =>
    rcases client_url_cases client url [.optional "query" query] (fun c u => do
      let q ← optionalArgument "query" query
      pure (c, Call.get u q)) with ⟨c, u, rfl, hu, h⟩ | ⟨e, he, h⟩
    · rcases optionalArgument_cases σ "query" query with ⟨q, hq, -⟩ | ⟨e, he, hq⟩
      · exact .inl ⟨c, _, .get c hu hq⟩
      · refine .inr ⟨e, .there (not_rejects_client c) (.there (hu.not_rejects_required _) (.here he)), ?_⟩
        rw [ForeignCall.answer, Boundary.get, getArguments, h, hq]
        rfl
    · exact .inr ⟨e, he, by rw [ForeignCall.answer, Boundary.get, getArguments, h]; rfl⟩
  | post client url body =>
    rcases client_url_cases client url [.required "body" body] (fun c u => do
      let b ← argument "body" body
      pure (c, Call.post u b)) with ⟨c, u, rfl, hu, h⟩ | ⟨e, he, h⟩
    · rcases argument_cases σ "body" body with ⟨b, hb, -⟩ | ⟨e, he, hb⟩
      · exact .inl ⟨c, _, .post c hu hb⟩
      · refine .inr ⟨e, .there (not_rejects_client c) (.there (hu.not_rejects_required _) (.here he)), ?_⟩
        rw [ForeignCall.answer, Boundary.post, postArguments, h, hb]
        rfl
    · exact .inr ⟨e, he, by rw [ForeignCall.answer, Boundary.post, postArguments, h]; rfl⟩
  | postFile client url path length contentType =>
    rcases client_url_cases client url [.required "path" path, .optional "content_type" contentType] (fun c u => do
      let p ← argument "path" path
      let t ← optionalArgument "content_type" contentType
      pure (c, Call.postFile u (Utf8.encode p.toList) length t)) with ⟨c, u, rfl, hu, h⟩ | ⟨e, he, h⟩
    · have hc := not_rejects_client c
      have hn := hu.not_rejects_required (σ := σ) "url"
      rcases argument_cases σ "path" path with ⟨p, hp, hp'⟩ | ⟨e, he, hp⟩
      · rcases optionalArgument_cases σ "content_type" contentType with ⟨t, ht, -⟩ | ⟨e, he, ht⟩
        · exact .inl ⟨c, _, .postFile c length hu hp ht⟩
        · refine .inr ⟨e, .there hc (.there hn (.there (hp.not_rejects_required _) (.here he))), ?_⟩
          rw [ForeignCall.answer, Boundary.postFile, postFileArguments, h, hp', ht]
          rfl
      · refine .inr ⟨e, .there hc (.there hn (.here he)), ?_⟩
        rw [ForeignCall.answer, Boundary.postFile, postFileArguments, h, hp]
        rfl
    · exact .inr ⟨e, he, by rw [ForeignCall.answer, Boundary.postFile, postFileArguments, h]; rfl⟩

theorem perform_apply (function : String) (c : Client σ) (call : Call) (w : σ) :
    perform function (.ok (c, call)) w =
      match c.call call w with
      | ⟨w', es, some reply⟩ => ⟨w', es, some (.ofReply reply)⟩
      | ⟨w', es, none⟩ => ⟨w', es ++ [.panicCaught function], some (.panicked ("panic in " ++ function))⟩ := by
  simp only [perform, Act.recover, Act.bind_apply]
  rcases c.call call w with ⟨w', es, _ | reply⟩ <;> simp

theorem Answers.sound {f : ForeignCall σ} {w w' : σ} {es : List Event} {e : Envelope} (h : Answers f w es e w') :
    f.answer w = ⟨w', es, some e⟩ := by
  cases h with
  | refused h =>
    rcases answer_cases f with ⟨c, call, hs⟩ | ⟨e', hr, ha⟩
    · exact absurd h (hs.not_refuses _)
    · rw [ha, hr.unique h]
      rfl
  | @replied c call es b w' hs h =>
    rw [hs.answer_eq, perform_apply, h, ← b.toListWithZero_eq, b.length_toList]
    rfl
  | failed hs h =>
    rw [hs.answer_eq, perform_apply, h, ← Envelope.failed_eq, ← Envelope.ofFailure_eq_failed]
    rfl
  | panicked hs h =>
    rw [hs.answer_eq, perform_apply, h, ← Envelope.failed_eq]
    rfl

theorem exists_answers (f : ForeignCall σ) (w : σ) : ∃ es e w', Answers f w es e w' := by
  rcases answer_cases f with ⟨c, call, hs⟩ | ⟨e, hr, -⟩
  · cases h : c.call call w with
    | mk w' es value =>
      cases value with
      | none => exact ⟨_, _, _, .panicked hs h⟩
      | some reply =>
        cases reply with
        | error x => exact ⟨_, _, _, .failed hs h⟩
        | ok b => exact ⟨_, _, _, .replied hs h⟩
  · exact ⟨_, _, _, .refused hr⟩

theorem answers_iff {f : ForeignCall σ} {w w' : σ} {es : List Event} {e : Envelope} :
    f.answer w = ⟨w', es, some e⟩ ↔ Answers f w es e w' := by
  constructor
  · intro h
    obtain ⟨es₁, e₁, w₁, h₁⟩ := exists_answers f w
    obtain ⟨rfl, rfl, ⟨⟩⟩ := Outcome.mk.inj (h.symm.trans h₁.sound)
    exact h₁
  · exact Answers.sound

/-! ## Calls in a row -/

/-- What calls in a row come to: the events, the envelopes and the world after them. -/
inductive Session : List (ForeignCall σ) → σ → List Event → List Envelope → σ → Prop
  | nil (w : σ) : Session [] w [] [] w
  | cons {f : ForeignCall σ} {calls : List (ForeignCall σ)} {w w₁ w' : σ} {es es' : List Event} {e : Envelope}
      {envelopes : List Envelope} : Answers f w es e w₁ → Session calls w₁ es' envelopes w' →
      Session (f :: calls) w (es ++ es') (e :: envelopes) w'

theorem Session.sound {calls : List (ForeignCall σ)} {w w' : σ} {es : List Event} {envelopes : List Envelope}
    (h : Session calls w es envelopes w') : session calls w = ⟨w', es, some envelopes⟩ := by
  induction h with
  | nil w => rfl
  | cons h _ ih =>
    simp only [session, Act.bind_apply, h.sound, ih, Act.pure_apply, List.append_nil]

theorem exists_session (calls : List (ForeignCall σ)) (w : σ) :
    ∃ es envelopes w', Session calls w es envelopes w' := by
  induction calls generalizing w with
  | nil => exact ⟨_, _, _, .nil w⟩
  | cons f calls ih =>
    obtain ⟨es, e, w₁, h⟩ := exists_answers f w
    obtain ⟨es', envelopes, w', h'⟩ := ih w₁
    exact ⟨_, _, _, .cons h h'⟩

/-- **C calls simulate calls of the client.** Whatever is passed and whatever the transports do, calls in a row never
panic. A call with a wrong argument is refused with an envelope that names the first of them, and leaves the world
as it was. Any other makes one call of the client with the strings it was passed, and its envelope tells what that
came to: the bytes of the reply, the failure, or the panic, which is reported. -/
theorem session_simulates_client (calls : List (ForeignCall σ)) (w : σ) :
    (∃ es envelopes w', session calls w = ⟨w', es, some envelopes⟩) ∧
    ∀ es envelopes w', session calls w = ⟨w', es, some envelopes⟩ ↔ Session calls w es envelopes w' := by
  obtain ⟨es, envelopes, w', h⟩ := exists_session calls w
  refine ⟨⟨es, envelopes, w', h.sound⟩, fun es₁ envelopes₁ w₁ => ⟨fun h₁ => ?_, Session.sound⟩⟩
  obtain ⟨rfl, rfl, ⟨⟩⟩ := Outcome.mk.inj (h.sound.symm.trans h₁)
  exact h

/-- A program that gives its client six orders. The first four reach the transport, which counts them: a reply that holds
a zero, a failure whose text holds one, a refusal of room, and a panic. In the others two arguments are wrong, and the
first is named: a URL that is not text before a body that is null, and a path that is null before a content type that
is not text. -/
theorem session_simulates_client_failing :
    let transport : Transport Nat := ⟨"t", true, fun r n =>
      match n with
      | 0 => ⟨1, [.sending r.method r.url], some (.ok (.ofList [1, 0]))⟩
      | 1 => ⟨2, [], some (.error (.badTemplate "S\x00" "\"%p"))⟩
      | 2 => ⟨3, [], some (.error (.allocation .outOfMemory))⟩
      | _ => ⟨n + 1, [.sending r.method r.url], none⟩⟩
    let client : Client Nat := ⟨transport, ⟨fun _ => pure (.ok 0), fun _ => pure (.ok ⟨0, []⟩)⟩⟩
    let u : Pointer := some [0x75, 0, 0xFF]
    let broken : Pointer := some [0xFF]
    session [.get (some client) u none, .post (some client) u u, .get (some client) u u, .post (some client) u u,
        .post (some client) broken none, .postFile (some client) u none 0 broken] 0 =
      ⟨4, [.sending .get "u", .sending .post "u", .panicCaught "oauth_http_post"],
        some [⟨.ok, none, some [1, 0, 0], 2⟩,
          .telling .configuration "invalid HTTP command template \"\\\"%p\": set the 'S ' environment variable",
          .telling .allocation ("reply buffer allocation failed: " ++
            "memory allocation failed because the memory allocator returned an error"),
          .telling .panic "panic in oauth_http_post",
          .telling .invalidUtf8 "argument is not UTF-8: url",
          .telling .nullArg "null argument: path"]⟩ := by
  intro transport client u broken
  have hu : Reads u (some "u") := .text (.ended [0xFF] (show 0 ∉ [0x75] by decide))
  have hbroken : ∀ s : String, ¬ Contents [0xFF] (Utf8.encode s.toList) := by
    have hnext : Utf8.next 0xFF [] = (.broken, []) := rfl
    refine textOf_eq_none_iff.1 ?_
    rw [textOf, show cContents [0xFF] = [0xFF] from rfl, Utf8.decode?, Utf8.pieces_cons, hnext, Utf8.pieces_nil]
    rfl
  have hc := not_rejects_client client
  have h₁ : Answers (.get (some client) u none) 0 [.sending .get "u"] ⟨.ok, none, some [1, 0, 0], 2⟩ 1 :=
    .replied (b := .ofList [1, 0]) (.get client hu .null) rfl
  have h₂ : Answers (.post (some client) u u) 1 [] (.telling .configuration
      "invalid HTTP command template \"\\\"%p\": set the 'S ' environment variable") 2 := by
    have h : Answers (.post (some client) u u) 1 [] _ 2 :=
      .failed (x := .badTemplate "S\x00" "\"%p") (.post client hu hu) rfl
    have htext : zeroless (notice (.badTemplate "S\x00" "\"%p")).2.toList =
        "invalid HTTP command template \"\\\"%p\": set the 'S ' environment variable".toList := by
      decide +kernel
    rw [Envelope.telling, htext] at h
    exact h
  have h₃ : Answers (.get (some client) u u) 2 [] (.telling .allocation ("reply buffer allocation failed: " ++
      "memory allocation failed because the memory allocator returned an error")) 3 :=
    .failed (x := .allocation .outOfMemory) (.get client hu hu) rfl
  have h₄ : Answers (.post (some client) u u) 3 [.sending .post "u", .panicCaught "oauth_http_post"]
      (.telling .panic "panic in oauth_http_post") 4 := by
    have h : Answers (.post (some client) u u) 3 ([.sending .post "u"] ++ [.panicCaught "oauth_http_post"])
        (.telling .panic ("panic in " ++ "oauth_http_post")) 4 := .panicked (.post client hu hu) rfl
    exact h
  have h₅ : Answers (.post (some client) broken none) 4 [] (.telling .invalidUtf8 "argument is not UTF-8: url") 4 :=
    .refused (.there hc (.here (.required "url" hbroken)))
  have h₆ : Answers (.postFile (some client) u none 0 broken) 4 [] (.telling .nullArg "null argument: path") 4 :=
    .refused (.there hc (.there (hu.not_rejects_required "url") (.here (.null "path"))))
  exact ((session_simulates_client _ 0).2 _ _ _).2
    (.cons h₁ (.cons h₂ (.cons h₃ (.cons h₄ (.cons h₅ (.cons h₆ (.nil 4)))))))

end Courier.Boundary
