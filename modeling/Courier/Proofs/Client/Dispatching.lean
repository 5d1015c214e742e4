import Courier.Client
import Mathlib.Tactic

/-!
# What a client hands to its transport

Each call of a client is one request for its transport, or none, and comes to what the transport makes of the request.

* `Client.Asks` : the request that a call describes, and what finding it out reports and leaves behind;
* `Client.Handles` : the requests of one call, at most one, and what the call comes to; each call is handled in one way
  (`exists_handles`), and that is what it does (`Handles.call_eq`);
* `Client.Dispatches` : the same for calls in a row, by induction on the calls (`Dispatches.callAll_eq`);
* `Handles.recording`, `Dispatches.recording` : a client that keeps the requests handles calls in the same way;
* `call_of_no_uploads` : a client that cannot send files does not look at them;
* `calls_dispatch_described_requests` : all of it together.
-/

namespace Courier
variable {σ : Type}

namespace Client

/-! ## One call -/

/-- The request that a call describes. Only a call that posts the whole of a file looks at the files; the world is left
as that look leaves it. -/
inductive Asks (c : Client σ) : Call → σ → List Event → Request → σ → Prop
  | get (url : String) {query : Option String} (w : σ) : query = none ∨ query = some "" →
      Asks c (.get url query) w [] ⟨.get, url, [], .empty⟩ w
  | getQuery (url : String) {query : String} (w : σ) : query ≠ "" →
      Asks c (.get url (some query)) w [] ⟨.get, url ++ "?" ++ query, [], .empty⟩ w
  | post (url body : String) (w : σ) : Asks c (.post url body) w [] ⟨.post, url, [], .text body⟩ w
  | part (url : String) (path : Bytes) {length : Nat} (contentType : Option String) (w : σ) :
      c.transport.uploads = true → 0 < length → Asks c (.postFile url path length contentType) w []
        ⟨.post, url, [("content-type", contentType.getD "image/jpeg")], .file path length⟩ w
  | whole (url : String) {path : Bytes} {size : Nat} (contentType : Option String) {w w' : σ} {es : List Event} :
      c.transport.uploads = true → c.files.size path w = ⟨w', es, some (.ok size)⟩ →
      Asks c (.postFile url path 0 contentType) w es
        ⟨.post, url, [("content-type", contentType.getD "image/jpeg")], .file path size⟩ w'

/-- The requests that the transport executes for a call, and what the call comes to. A call that describes a request
comes to what the transport makes of it. Files are refused by a transport that cannot send them; the length of a file
that cannot be inspected is a failure, or a panic where the inspection panics. -/
inductive Handles (c : Client σ) : Call → σ → List Request → Outcome σ Reply → Prop
  | executed {x : Call} {w w₁ w' : σ} {es es' : List Event} {r : Request} {reply : Option Reply} :
      Asks c x w es r w₁ → c.transport.execute r w₁ = ⟨w', es', reply⟩ → Handles c x w [r] ⟨w', es ++ es', reply⟩
  | noUpload (url : String) (path : Bytes) (length : Nat) (contentType : Option String) (w : σ) :
      c.transport.uploads = false → Handles c (.postFile url path length contentType) w []
        ⟨w, [.uploadRefused c.transport.name], some (.error (.unsupported "file upload requires the library backend"))⟩
  | missing (url : String) {path : Bytes} (contentType : Option String) {w w' : σ} {es : List Event} {e : IoFault} :
      c.transport.uploads = true → c.files.size path w = ⟨w', es, some (.error e)⟩ →
      Handles c (.postFile url path 0 contentType) w [] ⟨w', es, some (.error (.unreadableFile path e))⟩
  | broken (url : String) {path : Bytes} (contentType : Option String) {w w' : σ} {es : List Event} :
      c.transport.uploads = true → c.files.size path w = ⟨w', es, none⟩ →
      Handles c (.postFile url path 0 contentType) w [] ⟨w', es, none⟩

theorem exists_handles_postFile (c : Client σ) (url : String) (path : Bytes) (length : Nat)
    (contentType : Option String) (w : σ) : ∃ rs o, Handles c (.postFile url path length contentType) w rs o := by
  cases hu : c.transport.uploads with
  | false => exact ⟨_, _, .noUpload url path length contentType w hu⟩
  | true =>
    rcases Nat.eq_zero_or_pos length with rfl | hl
    · rcases hs : c.files.size path w with ⟨w', es, _ | e | size⟩
      · exact ⟨_, _, .broken url contentType hu hs⟩
      · exact ⟨_, _, .missing url contentType hu hs⟩
      · exact ⟨_, _, .executed (.whole url contentType hu hs) rfl⟩
    · exact ⟨_, _, .executed (.part url path contentType w hu hl) rfl⟩

theorem exists_handles (c : Client σ) (x : Call) (w : σ) : ∃ rs o, Handles c x w rs o := by
  cases x with
  | get url query =>
    cases query with
    | none => exact ⟨_, _, .executed (.get url w (.inl rfl)) rfl⟩
    | some query =>
      by_cases hq : query = ""
      · exact ⟨_, _, .executed (.get url w (.inr (by rw [hq]))) rfl⟩
      · exact ⟨_, _, .executed (.getQuery url w hq) rfl⟩
  | post url body => exact ⟨_, _, .executed (.post url body w) rfl⟩
  | postFile url path length contentType => exact c.exists_handles_postFile url path length contentType w

/-! ### What the client does -/

theorem effectiveUrl_of_none_or_empty {url : String} {query : Option String} (h : query = none ∨ query = some "") :
    effectiveUrl url query = url := by
  rcases h with rfl | rfl <;> rfl

theorem effectiveUrl_of_ne {url query : String} (h : query ≠ "") :
    effectiveUrl url (some query) = url ++ "?" ++ query := by
  rw [effectiveUrl, if_neg (by simpa using h)]

theorem postFile_of_no_uploads {c : Client σ} (h : c.transport.uploads = false) (url : String) (path : Bytes)
    (length : Nat) (contentType : Option String) (w : σ) : c.postFile url path length contentType w =
      ⟨w, [.uploadRefused c.transport.name], some (.error .noUpload)⟩ := by
  rw [postFile, h]
  rfl

/-- A client that can send files settles the length, and then has the transport send that much. -/
theorem postFile_of_uploads {c : Client σ} (h : c.transport.uploads = true) (url : String) (path : Bytes)
    (length : Nat) (contentType : Option String) : c.postFile url path length contentType =
      c.uploadLength path length >>= fun
        | .error f => pure (.error f)
        | .ok n => c.transport.execute (.upload url path n contentType) := by
  rw [postFile, h]
  rfl

theorem uploadLength_of_pos (c : Client σ) (path : Bytes) {length : Nat} (h : 0 < length) :
    c.uploadLength path length = pure (.ok length) := by
  rw [uploadLength, if_neg (by omega)]

theorem uploadLength_zero {c : Client σ} {path : Bytes} {w w' : σ} {es : List Event}
    {size : Option (Except IoFault Nat)} (h : c.files.size path w = ⟨w', es, size⟩) :
    c.uploadLength path 0 w = ⟨w', es, size.map (Except.mapError (.unreadableFile path))⟩ := by
  rw [uploadLength, if_pos rfl, Act.bind_apply, h]
  cases size <;> simp

theorem Asks.call_eq {c : Client σ} {x : Call} {w w₁ : σ} {es : List Event} {r : Request} (h : Asks c x w es r w₁) :
    c.call x w = ⟨(c.transport.execute r w₁).world, es ++ (c.transport.execute r w₁).events,
      (c.transport.execute r w₁).value⟩ := by
  cases h with
  | get url w hq => rw [call, Client.get, Request.get, effectiveUrl_of_none_or_empty hq]; rfl
  | getQuery url w hq => rw [call, Client.get, Request.get, effectiveUrl_of_ne hq]; rfl
  | post url body w => rfl
  | part url path contentType w hu hl =>
    rw [call, postFile_of_uploads hu, uploadLength_of_pos c path hl, Act.bind_apply]
    rfl
  | whole url contentType hu hs =>
    rw [call, postFile_of_uploads hu, Act.bind_apply, uploadLength_zero hs]
    rfl

/-- **A call does what it is handled by.** -/
theorem Handles.call_eq {c : Client σ} {x : Call} {w : σ} {rs : List Request} {o : Outcome σ Reply}
    (h : Handles c x w rs o) : c.call x w = o := by
  cases h with
  | executed ha he => rw [ha.call_eq, he]
  | noUpload url path length contentType w hu => exact postFile_of_no_uploads hu url path length contentType w
  | missing url contentType hu hs =>
    rw [call, postFile_of_uploads hu, Act.bind_apply, uploadLength_zero hs]
    simp [Except.mapError]
  | broken url contentType hu hs =>
    rw [call, postFile_of_uploads hu, Act.bind_apply, uploadLength_zero hs]
    rfl

/-- A client that cannot send files comes to the same whatever the files are. -/
theorem call_of_no_uploads {c c' : Client σ} (ht : c'.transport = c.transport) (h : c.transport.uploads = false)
    (x : Call) : c'.call x = c.call x := by
  cases x with
  | get url query => rw [call, call, Client.get, Client.get, ht]
  | post url body => rw [call, call, Client.post, Client.post, ht]
  | postFile url path length contentType =>
    funext w
    rw [call, call, postFile_of_no_uploads h, postFile_of_no_uploads (ht ▸ h), ht]

end Client

/-! ### Keeping the requests -/

theorem Transport.recording_execute (t : Transport σ) (r : Request) (w : σ) (log : List Request) :
    t.recording.execute r (w, log) = ⟨((t.execute r w).world, log ++ [r]), (t.execute r w).events,
      (t.execute r w).value⟩ := rfl

theorem FileAccess.beside_size {τ : Type} {files : FileAccess σ} {path : Bytes} {w w' : σ} {es : List Event}
    {size : Option (Except IoFault Nat)} (h : files.size path w = ⟨w', es, size⟩) (more : τ) :
    (files.beside τ).size path (w, more) = ⟨(w', more), es, size⟩ := by
  simp [beside, Act.focus, h]

namespace Client

theorem Asks.recording {c : Client σ} {x : Call} {w w₁ : σ} {es : List Event} {r : Request} (h : Asks c x w es r w₁)
    (log : List Request) : Asks c.recording x (w, log) es r (w₁, log) := by
  cases h with
  | get url w hq => exact .get url _ hq
  | getQuery url w hq => exact .getQuery url _ hq
  | post url body w => exact .post url body _
  | part url path contentType w hu hl => exact .part url path contentType _ hu hl
  | whole url contentType hu hs => exact .whole url contentType hu (FileAccess.beside_size hs log)

theorem Handles.recording {c : Client σ} {x : Call} {w : σ} {rs : List Request} {o : Outcome σ Reply}
    (h : Handles c x w rs o) (log : List Request) :
    Handles c.recording x (w, log) rs ⟨(o.world, log ++ rs), o.events, o.value⟩ := by
  cases h with
  | executed ha he =>
    refine .executed (ha.recording log) ?_
    rw [show c.recording.transport = c.transport.recording from rfl, Transport.recording_execute, he]
  | noUpload url path length contentType w hu =>
    rw [List.append_nil]
    exact .noUpload url path length contentType _ hu
  | missing url contentType hu hs =>
    rw [List.append_nil]
    exact .missing url contentType hu (FileAccess.beside_size hs log)
  | broken url contentType hu hs =>
    rw [List.append_nil]
    exact .broken url contentType hu (FileAccess.beside_size hs log)

/-! ## Calls in a row -/

/-- The requests that the transport executes for calls in a row, in order, and what the calls report and come to. -/
inductive Dispatches (c : Client σ) : List Call → σ → List Request → List Event → List (Option Reply) → σ → Prop
  | nil (w : σ) : Dispatches c [] w [] [] [] w
  | cons {x : Call} {calls : List Call} {w w' : σ} {o : Outcome σ Reply} {rs requests : List Request}
      {es : List Event} {replies : List (Option Reply)} : Handles c x w rs o →
      Dispatches c calls o.world requests es replies w' →
      Dispatches c (x :: calls) w (rs ++ requests) (o.events ++ es) (o.value :: replies) w'

theorem exists_dispatches (c : Client σ) (calls : List Call) (w : σ) :
    ∃ requests es replies w', Dispatches c calls w requests es replies w' := by
  induction calls generalizing w with
  | nil => exact ⟨_, _, _, _, .nil w⟩
  | cons x calls ih =>
    obtain ⟨rs, o, h⟩ := c.exists_handles x w
    obtain ⟨requests, es, replies, w', hd⟩ := ih o.world
    exact ⟨_, _, _, _, .cons h hd⟩

theorem attempt_apply (c : Client σ) (x : Call) (w : σ) :
    c.attempt x w = ⟨(c.call x w).world, (c.call x w).events, some (c.call x w).value⟩ := by
  rw [attempt, Act.recover, Act.bind_apply]
  rcases c.call x w with ⟨w', es, _ | reply⟩ <;> simp

theorem callAll_cons (c : Client σ) (x : Call) (calls : List Call) (w : σ) :
    c.callAll (x :: calls) w = ⟨(c.callAll calls (c.call x w).world).world,
      (c.call x w).events ++ (c.callAll calls (c.call x w).world).events,
      (c.callAll calls (c.call x w).world).value.map ((c.call x w).value :: ·)⟩ := by
  rw [callAll, Act.bind_apply, attempt_apply]
  dsimp only
  rw [Act.bind_apply]
  cases (c.callAll calls (c.call x w).world).value <;> simp

theorem Dispatches.callAll_eq {c : Client σ} {calls : List Call} {w w' : σ} {requests : List Request}
    {es : List Event} {replies : List (Option Reply)} (h : Dispatches c calls w requests es replies w') :
    c.callAll calls w = ⟨w', es, some replies⟩ := by
  induction h with
  | nil w => rfl
  | cons h _ ih =>
    rw [callAll_cons, h.call_eq, ih]
    rfl

theorem Dispatches.recording {c : Client σ} {calls : List Call} {w w' : σ} {requests : List Request}
    {es : List Event} {replies : List (Option Reply)} (h : Dispatches c calls w requests es replies w')
    (log : List Request) : Dispatches c.recording calls (w, log) requests es replies (w', log ++ requests) := by
  induction h generalizing log with
  | nil w =>
    rw [List.append_nil]
    exact .nil _
  | @cons x calls w w' o rs requests es replies h _ ih =>
    rw [← List.append_assoc]
    exact .cons (h.recording log) (ih (log ++ rs))

theorem callAll_of_no_uploads {c c' : Client σ} (ht : c'.transport = c.transport) (h : c.transport.uploads = false)
    (calls : List Call) (w : σ) : c'.callAll calls w = c.callAll calls w := by
  induction calls generalizing w with
  | nil => rfl
  | cons x calls ih => rw [callAll_cons, callAll_cons, call_of_no_uploads ht h, ih]

end Client

/-- **The transport executes the requests that the calls describe, and no others.** Whatever the transport does and
whatever the files are, calls in a row hand the transport the request of each call that describes one, once and in
order, and such a call comes to what the transport makes of it, a panic included; any other call hands over nothing and
comes to its failure. With a transport that cannot send files, the calls come to the same whatever the files are. -/
theorem calls_dispatch_described_requests (c : Client σ) (calls : List Call) (w : σ) (log : List Request) :
    (∃ requests es replies w', c.Dispatches calls w requests es replies w' ∧
      c.callAll calls w = ⟨w', es, some replies⟩) ∧
    (∀ requests es replies w', c.recording.callAll calls (w, log) = ⟨(w', log ++ requests), es, some replies⟩ ↔
      c.Dispatches calls w requests es replies w') ∧
    (c.transport.uploads = false → ∀ files : FileAccess σ,
      (Client.mk c.transport files).recording.callAll calls (w, log) = c.recording.callAll calls (w, log)) := by
  obtain ⟨requests, es, replies, w', h⟩ := c.exists_dispatches calls w
  refine ⟨⟨requests, es, replies, w', h, h.callAll_eq⟩, fun requests₁ es₁ replies₁ w₁ => ⟨fun h₁ => ?_, fun h₁ => ?_⟩,
    fun hu files => ?_⟩
  · obtain ⟨hw, rfl, hr⟩ := Outcome.mk.inj ((h.recording log).callAll_eq.symm.trans h₁)
    obtain ⟨rfl, hl⟩ := Prod.mk.inj hw
    obtain rfl := List.append_cancel_left hl
    obtain rfl := Option.some.inj hr
    exact h
  · exact (h₁.recording log).callAll_eq
  · have ht : (Client.mk c.transport files).recording.transport = c.recording.transport := rfl
    exact Client.callAll_of_no_uploads ht hu calls (w, log)

/-- A file that is not there, and then a GET at which the transport panics. Another host has the file, and nothing is
different. -/
theorem calls_dispatch_described_requests_no_uploads :
    let t : Transport Nat := ⟨"t", false, fun _ n => ⟨n + 1, [], none⟩⟩
    let absent : FileAccess Nat := ⟨fun _ => pure (.error .noEntry), fun _ => pure (.error .noEntry)⟩
    let present : FileAccess Nat := ⟨fun _ => pure (.ok 3), fun _ => pure (.ok ⟨3, [.data [1, 2, 3]]⟩)⟩
    let calls : List Call := [.postFile "u" [0x66] 0 none, .get "u" (some "")]
    (Client.mk t absent).transport.uploads = false ∧
      (Client.mk t absent).recording.callAll calls (0, []) = ⟨(1, [⟨.get, "u", [], .empty⟩]), [.uploadRefused "t"],
        some [some (.error (.unsupported "file upload requires the library backend")), none]⟩ ∧
      (Client.mk t present).recording.callAll calls (0, []) = (Client.mk t absent).recording.callAll calls (0, []) := by
  intro t absent present calls
  have hd : (Client.mk t absent).Dispatches calls 0 [⟨.get, "u", [], .empty⟩] [.uploadRefused "t"]
      [some (.error (.unsupported "file upload requires the library backend")), none] 1 :=
    .cons (.noUpload _ _ _ _ _ rfl) (.cons (.executed (.get _ _ (.inr rfl)) rfl) (.nil _))
  obtain ⟨-, hiff, hsame⟩ := calls_dispatch_described_requests (Client.mk t absent) calls 0 []
  exact ⟨rfl, (hiff _ _ _ _).2 hd, hsame rfl present⟩

end Courier
