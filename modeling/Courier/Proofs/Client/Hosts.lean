import Courier.Boundary.Session

/-!
# Hosts that answer alike

What a client reports and replies depends on the host by no more than what the host answers.

* `Act.Alike` : two acts report and come to the same in worlds that correspond, and leave worlds that do; `pure`,
  `report`, `bind`, `recover` : acts that are built of such acts are alike;
* `Beside` : worlds that correspond and hold the same record beside; `Alike.beside`, `Alike.keep` : acts on these;
* `Host.Alike` : hosts that answer alike; `Host.Alike.recording` : what they are asked to start is recorded alike;
* `Interpreter.alike_runner`, `Commands.alike_render`, `Library.alike_execute` : so do the parts of the transports;
* `Client.alike_of_hosts`, `alike_session` : and the clients of one configuration, in any session.
-/

namespace Courier

variable {σ τ : Type} {R : σ → τ → Prop}

/-- Two acts that do the same in worlds that correspond. -/
def Act.Alike {α : Type} (R : σ → τ → Prop) (x : Act σ α) (y : Act τ α) : Prop :=
  ∀ s t, R s t → R (x s).world (y t).world ∧ (x s).events = (y t).events ∧ (x s).value = (y t).value

namespace Act.Alike

variable {α β : Type}

theorem pure (a : α) : Act.Alike R (Pure.pure a) (Pure.pure a) := by
  intro s t h
  exact ⟨h, rfl, rfl⟩

theorem report (e : Event) : Act.Alike R (Act.report e) (Act.report e) := by
  intro s t h
  exact ⟨h, rfl, rfl⟩

theorem bind {x : Act σ α} {y : Act τ α} {f : α → Act σ β} {g : α → Act τ β} (h : Act.Alike R x y)
    (hf : ∀ a, Act.Alike R (f a) (g a)) : Act.Alike R (x >>= f) (y >>= g) := by
  intro s t hst
  obtain ⟨hworld, hevents, hvalue⟩ := h s t hst
  rw [Act.bind_apply, Act.bind_apply, hvalue]
  cases (y t).value with
  | none => exact ⟨hworld, hevents, rfl⟩
  | some a =>
    obtain ⟨hworld', hevents', hvalue'⟩ := hf a _ _ hworld
    refine ⟨hworld', ?_, hvalue'⟩
    show (x s).events ++ _ = (y t).events ++ _
    rw [hevents, hevents']

theorem recover {x x' : Act σ α} {y y' : Act τ α} (h : Act.Alike R x y) (h' : Act.Alike R x' y') :
    Act.Alike R (x.recover x') (y.recover y') := by
  intro s t hst
  obtain ⟨hworld, hevents, hvalue⟩ := h s t hst
  unfold Act.recover
  rcases hx : x s with ⟨s', es, v⟩
  rcases hy : y t with ⟨t', es', v'⟩
  rw [hx, hy] at hworld hevents hvalue
  dsimp only at hworld hevents hvalue
  subst hevents hvalue
  -- The handlers are met in worlds that correspond, or not at all.
  cases v with
  | some a => exact ⟨hworld, rfl, rfl⟩
  | none =>
    obtain ⟨hworld', hevents', hvalue'⟩ := h' _ _ hworld
    exact ⟨hworld', congrArg (es ++ ·) hevents', hvalue'⟩

end Act.Alike

/-! ## Records beside a world -/

/-- Worlds that correspond, with the same record beside each. -/
def Beside (R : σ → τ → Prop) (γ : Type) (s : σ × γ) (t : τ × γ) : Prop :=
  R s.1 t.1 ∧ s.2 = t.2

namespace Act.Alike

variable {α γ : Type} {x : Act σ α} {y : Act τ α}

theorem beside (h : Act.Alike R x y) :
    Act.Alike (Beside R γ) (x.focus Prod.fst fun s w => (s, w.2)) (y.focus Prod.fst fun t w => (t, w.2)) := by
  rintro s t ⟨hst, hrecord⟩
  obtain ⟨hworld, hevents, hvalue⟩ := h _ _ hst
  exact ⟨⟨hworld, hrecord⟩, hevents, hvalue⟩

theorem keep (entries : List γ) :
    Act.Alike (Beside R (List γ)) (Act.step fun w => ((), (w.1, w.2 ++ entries)))
      (Act.step fun w => ((), (w.1, w.2 ++ entries))) := by
  rintro s t ⟨hst, hrecord⟩
  exact ⟨⟨hst, congrArg (· ++ entries) hrecord⟩, rfl, rfl⟩

end Act.Alike

/-! ## Hosts -/

/-- Hosts that answer alike in worlds that correspond. -/
structure Host.Alike (R : σ → τ → Prop) (host : Host σ) (host' : Host τ) : Prop where
  size : ∀ path, Act.Alike R (host.files.size path) (host'.files.size path)
  openFile : ∀ path, Act.Alike R (host.files.openFile path) (host'.files.openFile path)
  spawn : ∀ program args, Act.Alike R (host.spawn program args) (host'.spawn program args)
  send : ∀ e, Act.Alike R (host.send e) (host'.send e)

theorem Host.alike_refl (host : Host σ) : Host.Alike Eq host host := by
  constructor
  all_goals
    intros
    rintro s _ rfl
    exact ⟨rfl, rfl, rfl⟩

theorem Host.Alike.recording {host : Host σ} {host' : Host τ} (h : Host.Alike R host host') :
    Host.Alike (Beside R (List (String × List String))) host.recording host'.recording where
  size path := (h.size path).beside
  openFile path := (h.openFile path).beside
  spawn program args := (Act.Alike.keep [(program, args)]).bind fun _ => (h.spawn program args).beside
  send e := (h.send e).beside

/-! ## Transports -/

section Transports
variable {host : Host σ} {host' : Host τ}

namespace Interpreter

theorem alike_start (h : Host.Alike R host host') (i : Interpreter) (command : String) :
    Act.Alike (Beside R (List ProcessStep)) (i.start host.spawn command) (i.start host'.spawn command) := by
  refine (h.spawn i.program [i.flag, command]).beside.bind fun started => ?_
  cases started with
  | error e => exact .pure _
  | ok child => exact (Act.Alike.keep [ProcessStep.started]).bind fun _ => .pure _

theorem alike_drain (grants : Nat → Grant) (child : Child) :
    Act.Alike (Beside R (List ProcessStep)) (drain grants child) (drain grants child) :=
  (Act.Alike.keep _).bind fun _ => (Act.Alike.keep _).bind fun _ => .pure _

theorem alike_wait (child : Child) : Act.Alike (Beside R (List ProcessStep)) (wait child) (wait child) :=
  (Act.Alike.keep _).bind fun _ => .pure _

theorem alike_reportEnding (ending : Except IoFault ExitStatus) :
    Act.Alike (Beside R (List ProcessStep)) (reportEnding ending) (reportEnding ending) := by
  unfold reportEnding
  cases ending with
  | error e => exact .report _
  | ok status =>
    dsimp only
    split
    · exact .pure _
    · exact .report _

theorem alike_run (h : Host.Alike R host host') (i : Interpreter) (grants : Nat → Grant) (command : String) :
    Act.Alike (Beside R (List ProcessStep)) (i.run grants host.spawn command) (i.run grants host'.spawn command) := by
  refine (Act.Alike.report _).bind fun _ => (alike_start h i command).bind fun started => ?_
  cases started with
  | error e => exact .pure _
  | ok child =>
    refine (alike_drain grants child).bind fun output => (alike_wait child).bind fun ending => ?_
    refine (alike_reportEnding ending).bind fun _ => ?_
    cases output with
    | error f => exact .pure _
    | ok b => exact (Act.Alike.report _).bind fun _ => .pure _

/-- A runner forgets the steps, so the worlds it leaves correspond as they are. -/
theorem alike_runner (h : Host.Alike R host host') (i : Interpreter) (command : String) :
    Act.Alike R (i.runner host.spawn command) (i.runner host'.spawn command) := by
  intro s t hst
  obtain ⟨⟨hworld, -⟩, hevents, hvalue⟩ := i.alike_run h plenty command (s, []) (t, []) ⟨hst, rfl⟩
  exact ⟨hworld, hevents, hvalue⟩

end Interpreter

theorem Template.alike_load (setting : String) (required : List Placeholder) (raw : String) :
    Act.Alike R (Template.load setting required raw : Act σ (Except Failure Template))
      (Template.load setting required raw) := by
  unfold load
  split
  · exact .pure _
  · exact (Act.Alike.report _).bind fun _ => .pure _

theorem Commands.alike_render (c : Commands) (r : Request) :
    Act.Alike R (c.render r : Act σ (Except Failure String)) (c.render r) := by
  unfold render
  split
  · exact .pure _
  · exact (Template.alike_load _ _ _).bind fun _ => .pure _
  · exact (Template.alike_load _ _ _).bind fun _ => .pure _

namespace Library

theorem alike_prepareUpload (h : Host.Alike R host host') (r : Request) (path : Bytes) (length : Nat) :
    Act.Alike R (prepareUpload host.files r path length) (prepareUpload host'.files r path length) := by
  refine (h.openFile path).bind fun opened => ?_
  cases opened with
  | error e => exact .pure _
  | ok file =>
    dsimp only
    split
    · exact (Act.Alike.report _).bind fun _ => .pure _
    · exact .pure _

theorem alike_prepare (h : Host.Alike R host host') (r : Request) :
    Act.Alike R (prepare host.files r) (prepare host'.files r) := by
  unfold prepare
  split
  · exact alike_prepareUpload h r _ _
  · exact .pure _

theorem alike_perform (h : Host.Alike R host host') (url : String) (e : Errand) :
    Act.Alike R (perform host.send url e) (perform host'.send url e) := by
  refine (h.send e).bind fun answer => ?_
  cases answer with
  | error reason => exact .pure _
  | ok response =>
    dsimp only
    split
    · exact (Act.Alike.report _).bind fun _ => .pure _
    · exact .pure _

theorem alike_execute (h : Host.Alike R host host') (r : Request) :
    Act.Alike R ((transport host.files host.send).execute r) ((transport host'.files host'.send).execute r) := by
  refine (Act.Alike.report _).bind fun _ => (alike_prepare h r).bind fun prepared => ?_
  cases prepared with
  | error f => exact .pure _
  | ok e => exact alike_perform h r.url e

end Library

end Transports

/-! ## Clients -/

/-- Clients that answer alike in worlds that correspond. -/
structure Client.Alike (R : σ → τ → Prop) (c : Client σ) (c' : Client τ) : Prop where
  name : c.transport.name = c'.transport.name
  uploads : c.transport.uploads = c'.transport.uploads
  execute : ∀ r, Act.Alike R (c.transport.execute r) (c'.transport.execute r)
  size : ∀ path, Act.Alike R (c.files.size path) (c'.files.size path)

theorem Client.alike_of_hosts {host : Host σ} {host' : Host τ} (h : Host.Alike R host host') (config : Config) :
    Client.Alike R ⟨Client.transportOf host config, host.files⟩ ⟨Client.transportOf host' config, host'.files⟩ := by
  unfold Client.transportOf
  cases config.backend with
  | library => exact ⟨rfl, rfl, fun r => Library.alike_execute h r, h.size⟩
  | command =>
    refine ⟨rfl, rfl, fun r => ?_, h.size⟩
    refine (Commands.alike_render _ r).bind fun rendered => ?_
    cases rendered with
    | error f => exact .pure _
    | ok command => exact Interpreter.standard.alike_runner h command

theorem Client.Alike.uploadLength {c : Client σ} {c' : Client τ} (h : Client.Alike R c c') (path : Bytes) (length : Nat) :
    Act.Alike R (c.uploadLength path length) (c'.uploadLength path length) := by
  unfold Client.uploadLength
  split
  · exact (h.size path).bind fun _ => .pure _
  · exact .pure _

theorem Client.Alike.call {c : Client σ} {c' : Client τ} (h : Client.Alike R c c') (call : Call) :
    Act.Alike R (c.call call) (c'.call call) := by
  cases call with
  | get url query => exact h.execute _
  | post url body => exact h.execute _
  | postFile url path length contentType =>
    show Act.Alike R (c.postFile url path length contentType) (c'.postFile url path length contentType)
    unfold Client.postFile
    rw [h.uploads, h.name]
    split
    · refine (h.uploadLength path length).bind fun measured => ?_
      cases measured with
      | error f => exact .pure _
      | ok n => exact h.execute _
    · exact (Act.Alike.report _).bind fun _ => .pure _

namespace Boundary

theorem alike_perform {c : Client σ} {c' : Client τ} (h : Client.Alike R c c') (function : String)
    (checked : Except Envelope Call) :
    Act.Alike R (perform function (checked.map (c, ·))) (perform function (checked.map (c', ·))) := by
  cases checked with
  | error e => exact .pure e
  | ok call =>
    exact ((h.call call).bind fun _ => .pure _).recover ((Act.Alike.report _).bind fun _ => .pure _)

/-- What an order asks of a client, once its arguments are checked, whichever client it is. -/
def Order.checked : Order → Except Envelope Call
  | .get url query => do pure (.get (← argument "url" url) (← optionalArgument "query" query))
  | .post url body => do pure (.post (← argument "url" url) (← argument "body" body))
  | .postFile url path length contentType => do
    let url ← argument "url" url
    let path ← argument "path" path
    let contentType ← optionalArgument "content_type" contentType
    pure (.postFile url (Utf8.encode path.toList) length contentType)

/-- The name of the function an order is given by. -/
def Order.function : Order → String
  | .get .. => "oauth_http_get"
  | .post .. => "oauth_http_post"
  | .postFile .. => "oauth_post_file"

theorem getArguments_eq (c : Client σ) (url query : Pointer) :
    getArguments (some c) url query = (Order.checked (.get url query)).map (c, ·) := by
  dsimp only [getArguments, Order.checked]
  cases argument "url" url with
  | error e => rfl
  | ok url => cases optionalArgument "query" query <;> rfl

theorem postArguments_eq (c : Client σ) (url body : Pointer) :
    postArguments (some c) url body = (Order.checked (.post url body)).map (c, ·) := by
  dsimp only [postArguments, Order.checked]
  cases argument "url" url with
  | error e => rfl
  | ok url => cases argument "body" body <;> rfl

theorem postFileArguments_eq (c : Client σ) (url path : Pointer) (length : Nat) (contentType : Pointer) :
    postFileArguments (some c) url path length contentType =
      (Order.checked (.postFile url path length contentType)).map (c, ·) := by
  dsimp only [postFileArguments, Order.checked]
  cases argument "url" url with
  | error e => rfl
  | ok url =>
    cases argument "path" path with
    | error e => rfl
    | ok path => cases optionalArgument "content_type" contentType <;> rfl

theorem answer_call (o : Order) (c : Client σ) :
    (o.call (some c)).answer = perform o.function (o.checked.map (c, ·)) := by
  cases o with
  | get url query => exact congrArg (perform _) (getArguments_eq c url query)
  | post url body => exact congrArg (perform _) (postArguments_eq c url body)
  | postFile url path length contentType =>
    exact congrArg (perform _) (postFileArguments_eq c url path length contentType)

theorem alike_session {c : Client σ} {c' : Client τ} (h : Client.Alike R c c') (orders : List Order) :
    Act.Alike R (session (orders.map (·.call (some c)))) (session (orders.map (·.call (some c')))) := by
  induction orders with
  | nil => exact .pure []
  | cons o orders ih =>
    have ho : Act.Alike R (o.call (some c)).answer (o.call (some c')).answer := by
      rw [answer_call, answer_call]
      exact alike_perform h o.function o.checked
    exact ho.bind fun _ => ih.bind fun _ => .pure _

end Boundary

end Courier
