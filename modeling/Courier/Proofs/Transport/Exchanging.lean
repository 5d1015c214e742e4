import Courier.Client
import Courier.Proofs.Buffer.Reading
import Courier.Proofs.Transport.Running

/-!
# The first response is the reply

* `AgentMaker.Heeds` : an agent is built from a single exchange, and heeds what its settings say of redirects and errors;
  `heeds_redirecting` : one that follows redirects and refuses errors, where it is told to, does;
* `Heeds.settings_eq` : the agent of the transport does no more than the exchange;
* `perform_of_error`, `perform_of_response`, `execute_of_error`, `execute_of_response` : the stages of a request;
* `transportOf_eq_connect` : a client in this process has the transport that builds its own agent;
* `reply_is_first_response` : what a request comes to.
-/

namespace Courier

variable {σ : Type}

/-! ## Agents that heed their settings -/

/-- A status that redirects. -/
def Redirects (status : Nat) : Prop :=
  300 ≤ status ∧ status < 400

instance (status : Nat) : Decidable (Redirects status) :=
  inferInstanceAs (Decidable (_ ∧ _))

/-- What is known of an agent that makes exchanges: where there was no response it fails as the exchange did, and it
hands a response over if its settings neither make it a failure nor have it followed. -/
structure AgentMaker.Heeds (make : AgentMaker σ) (exchange : Agent σ) : Prop where
  unanswered {s : AgentSettings} {e : Errand} {w w' : σ} {es : List Event} {reason : String} :
    exchange e w = ⟨w', es, some (.error reason)⟩ → make s e w = ⟨w', es, some (.error reason)⟩
  answered {s : AgentSettings} {e : Errand} {w w' : σ} {es : List Event} {r : Response} : ¬ Redirects r.status →
    s.statusFails = false ∨ r.status < 400 →
      exchange e w = ⟨w', es, some (.ok r)⟩ → make s e w = ⟨w', es, some (.ok r)⟩
  redirected {s : AgentSettings} {e : Errand} {w w' : σ} {es : List Event} {r : Response} : Redirects r.status →
    s.maxRedirects = 0 → s.redirectFails = false →
      exchange e w = ⟨w', es, some (.ok r)⟩ → make s e w = ⟨w', es, some (.ok r)⟩

theorem AgentMaker.Heeds.settings_eq {make : AgentMaker σ} {exchange : Agent σ} (h : make.Heeds exchange) {e : Errand}
    {w w' : σ} {es : List Event} {result : Except String Response} (hx : exchange e w = ⟨w', es, some result⟩) :
    make Library.settings e w = ⟨w', es, some result⟩ := by
  cases result with
  | error reason => exact h.unanswered hx
  | ok r =>
    by_cases hr : Redirects r.status
    · exact h.redirected hr rfl rfl hx
    · exact h.answered hr (.inl rfl) hx

/-- Where a response redirects to. -/
def Response.location? (r : Response) : Option String :=
  if Redirects r.status then r.headers.lookup "location" else none

/-- A response that is not followed is handed over, unless it is a failure by the settings. -/
def AgentSettings.handOver (s : AgentSettings) (r : Response) : Except String Response :=
  match r.location? with
  | some _ => if s.redirectFails then .error "too many redirects" else .ok r
  | none => if s.statusFails && 400 ≤ r.status then .error s!"http status: {r.status}" else .ok r

/-- An agent that follows so many redirects, each with a `GET` of the location. -/
def Agent.redirecting (exchange : Agent σ) (s : AgentSettings) : Nat → Agent σ
  | 0, e => do pure ((← exchange e).bind s.handOver)
  | left + 1, e => do
    match ← exchange e with
    | .error reason => pure (.error reason)
    | .ok r =>
      match r.location? with
      | some url => redirecting exchange s left { e with method := .get, url := url, payload := .none }
      | none => pure (s.handOver r)

theorem handOver_of_not_redirects {s : AgentSettings} {r : Response} (hr : ¬ Redirects r.status)
    (hs : s.statusFails = false ∨ r.status < 400) : s.handOver r = .ok r := by
  have hnot : (s.statusFails && 400 ≤ r.status) = false := by
    rcases hs with hs | hs
    · simp [hs]
    · simp [hs]
  rw [AgentSettings.handOver, Response.location?, if_neg hr]
  simp [hnot]

theorem handOver_of_redirects {s : AgentSettings} {r : Response} (hr : Redirects r.status)
    (hf : s.redirectFails = false) : s.handOver r = .ok r := by
  have hnot : (s.statusFails && 400 ≤ r.status) = false := by
    have hlt := hr.2
    simp [hlt]
  rw [AgentSettings.handOver]
  split
  · simp [hf]
  · simp [hnot]

theorem heeds_redirecting (exchange : Agent σ) :
    AgentMaker.Heeds (fun s => exchange.redirecting s s.maxRedirects) exchange where
  unanswered {s} _ _ _ _ _ hx := by
    cases s.maxRedirects with
    | zero =>
      rw [Agent.redirecting, Act.bind_of_eq hx]
      simp [Except.bind]
    | succ left =>
      rw [Agent.redirecting, Act.bind_of_eq hx]
      simp
  answered {s} _ _ _ _ r hr hs hx := by
    have hover := handOver_of_not_redirects hr hs
    cases s.maxRedirects with
    | zero =>
      rw [Agent.redirecting, Act.bind_of_eq hx]
      simp [Except.bind, hover]
    | succ left =>
      have hnone : r.location? = none := if_neg hr
      rw [Agent.redirecting, Act.bind_of_eq hx]
      simp [hnone, hover]
  redirected {s} _ _ _ _ r hr hm hf hx := by
    rw [hm, Agent.redirecting, Act.bind_of_eq hx]
    simp [Except.bind, handOver_of_redirects hr hf]

theorem Agent.recording_eq {send : Agent σ} {e : Errand} {w w' : σ} {es : List Event}
    {value : Option (Except String Response)} (h : send e w = ⟨w', es, value⟩) (log : List Errand) :
    send.recording e (w, log) = ⟨(w', log ++ [e]), es, value⟩ := by
  have hkeep : Act.step (fun w : σ × List Errand => ((), (w.1, w.2 ++ [e]))) (w, log) =
      ⟨(w, log ++ [e]), [], some ()⟩ := rfl
  unfold Agent.recording
  rw [Act.bind_of_eq hkeep, Act.focus_beside h]
  simp

/-! ## The stages of a request -/

namespace Library

theorem errand_method (r : Request) : (errand r).method = r.method := by
  unfold errand
  split <;> simp_all

theorem errand_url (r : Request) : (errand r).url = r.url := by
  unfold errand
  split <;> rfl

theorem prepare_of_fileless {r : Request} (hr : r.Fileless) (files : FileAccess σ) :
    prepare files r = pure (.ok (errand r)) := by
  unfold prepare
  split
  · next path length _ hb => exact absurd hb (hr path length)
  · rfl

/-- What is reported of a status, where it is no success. -/
def statusEvents (status : Nat) (url : String) : List Event :=
  if 200 ≤ status ∧ status < 300 then [] else [.unsuccessfulStatus status url]

section Perform
variable {send : Agent σ} {e : Errand} {w w' : σ} {es : List Event}

theorem perform_of_error {reason : String} (h : send e w = ⟨w', es, some (.error reason)⟩) (url : String) :
    perform send url e w = ⟨w', es, some (.error (.transport reason))⟩ := by
  unfold perform
  rw [Act.bind_of_eq h]
  simp

theorem perform_of_response {r : Response} (h : send e w = ⟨w', es, some (.ok r)⟩) (url : String) :
    perform send url e w =
      ⟨w', es ++ statusEvents r.status url, some (readAll plenty readFailure r.body).reply⟩ := by
  unfold perform statusEvents
  rw [Act.bind_of_eq h]
  by_cases hs : 200 ≤ r.status ∧ r.status < 300
  · simp [Wire.isSuccess, hs]
  · have hn : Wire.isSuccess r.status = false := by simpa [Wire.isSuccess] using hs
    rw [if_neg hs]
    simp [hn, Act.bind_apply]

end Perform

section Execute
variable {r : Request} {send : Agent σ} {w w' : σ} {es : List Event}

theorem execute_of_fileless (hr : r.Fileless) (files : FileAccess σ) (send : Agent σ) (w : σ) :
    let o := perform send r.url (errand r) w
    (transport files send).execute r w = ⟨o.world, .sending r.method r.url :: o.events, o.value⟩ := by
  intro o
  unfold transport
  dsimp only
  rw [prepare_of_fileless hr, Act.bind_of_eq (Act.report_apply _ _), Act.bind_of_eq (Act.pure_apply _ _)]
  simp [o]

theorem execute_of_error (hr : r.Fileless) {reason : String}
    (h : send (errand r) w = ⟨w', es, some (.error reason)⟩) (files : FileAccess σ) :
    (transport files send).execute r w =
      ⟨w', .sending r.method r.url :: es, some (.error (.transport reason))⟩ := by
  rw [execute_of_fileless hr, perform_of_error h]

theorem execute_of_response (hr : r.Fileless) {response : Response}
    (h : send (errand r) w = ⟨w', es, some (.ok response)⟩) (files : FileAccess σ) :
    (transport files send).execute r w =
      ⟨w', .sending r.method r.url :: (es ++ statusEvents response.status r.url),
        some (readAll plenty readFailure response.body).reply⟩ := by
  rw [execute_of_fileless hr, perform_of_response h]

end Execute

end Library

/-- A client in this process has the transport that builds its own agent, on a host whose agent is built so. -/
theorem transportOf_eq_connect {config : Config} (hc : config.backend = .library) (files : FileAccess σ)
    (spawn : Spawn σ) (make : AgentMaker σ) :
    Client.transportOf ⟨files, spawn, make Library.settings⟩ config = Library.connect files make := by
  unfold Client.transportOf
  rw [hc]
  rfl

/-- **The reply is the body of the first response, all of it or nothing.** For a request that carries no file one
exchange is made, whatever comes of it. Where there was no response the request fails with the reason. A response, with
any status and headers, is the reply if its body could be read to the end, and else the request fails with the fault;
a response with the same body has the same outcome. A status that is no success is reported. -/
theorem reply_is_first_response {config : Config} (hc : config.backend = .library) {exchange : Agent σ}
    {make : AgentMaker (σ × List Errand)} (hm : make.Heeds exchange.recording) (files : FileAccess (σ × List Errand))
    (spawn : Spawn (σ × List Errand)) {r : Request} (hr : r.Fileless) (w : σ) (log : List Errand) :
    let e := Library.errand r
    let o := (Client.transportOf ⟨files, spawn, make Library.settings⟩ config).execute r (w, log)
    e.method = r.method ∧ e.url = r.url ∧
    (∀ w' es reason, exchange e w = ⟨w', es, some (.error reason)⟩ →
      o = ⟨(w', log ++ [e]), .sending r.method r.url :: es, some (.error (.transport reason))⟩) ∧
    ∀ w' es response, exchange e w = ⟨w', es, some (.ok response)⟩ →
      o.world = (w', log ++ [e]) ∧
      o.events = .sending r.method r.url :: (es ++
        if 200 ≤ response.status ∧ response.status < 300 then [] else [.unsuccessfulStatus response.status r.url]) ∧
      (∃ reply, o.value = some reply ∧ reply.map Buffer.toList =
        match response.body.ending with
        | none => .ok response.body.delivered
        | some x => .error (.transport ("reading reply: " ++ x.message))) ∧
      ∀ {exchange' : Agent σ} {make' : AgentMaker (σ × List Errand)}, make'.Heeds exchange'.recording →
        ∀ w₂ es₂ response', exchange' e w = ⟨w₂, es₂, some (.ok response')⟩ → response'.body = response.body →
          ((Client.transportOf ⟨files, spawn, make' Library.settings⟩ config).execute r (w, log)).value = o.value := by
  intro e o
  have hresponse {exchange : Agent σ} {make : AgentMaker (σ × List Errand)} (hm : make.Heeds exchange.recording)
      {w' : σ} {es : List Event} {response : Response} (hx : exchange e w = ⟨w', es, some (.ok response)⟩) :
      (Client.transportOf ⟨files, spawn, make Library.settings⟩ config).execute r (w, log) =
        ⟨(w', log ++ [e]), .sending r.method r.url :: (es ++ Library.statusEvents response.status r.url),
          some (readAll plenty Library.readFailure response.body).reply⟩ := by
    rw [transportOf_eq_connect hc]
    exact Library.execute_of_response hr (hm.settings_eq (Agent.recording_eq hx log)) files
  refine ⟨Library.errand_method r, Library.errand_url r, fun w' es reason hx => ?_, fun w' es response hx => ?_⟩
  · show (Client.transportOf ⟨files, spawn, make Library.settings⟩ config).execute r (w, log) = _
    rw [transportOf_eq_connect hc]
    exact Library.execute_of_error hr (hm.settings_eq (Agent.recording_eq hx log)) files
  · have ho := hresponse hm hx
    refine ⟨congrArg Outcome.world ho, congrArg Outcome.events ho, ⟨_, congrArg Outcome.value ho, ?_⟩, ?_⟩
    · exact reply_readOnto (fun _ => 0) Library.readFailure 0 .empty .blank ⟨response.body, []⟩
    · intro exchange' make' hm' w₂ es₂ response' hx' hbody
      -- Of the response only its body is looked at for the reply.
      have ho' := hresponse hm' hx'
      rw [hbody] at ho'
      exact (congrArg Outcome.value ho').trans (congrArg Outcome.value ho).symm

/-- A redirect that answers a `POST`, a success with the same body, an error whose body breaks off, and no response. -/
theorem reply_is_first_response_redirected :
    let files : FileAccess (Unit × List Errand) := ⟨fun _ => pure (.error .noEntry), fun _ => pure (.error .noEntry)⟩
    let make (exchange : Agent Unit) : AgentMaker (Unit × List Errand) :=
      fun s => exchange.recording.redirecting s s.maxRedirects
    let answer (status : Nat) (body : Source) : Agent Unit := fun _ =>
      pure (.ok ⟨status, [("location", "http://h/echo")], body⟩)
    let pieces : Source := [.data [1], .failed (.os 4), .data [2]]
    let r : Request := .post "http://h/" "a"
    let e : Errand := ⟨.post, "http://h/", [("User-Agent", "liboauth-agent/0.1.0"),
      ("Content-Type", "application/x-www-form-urlencoded")], .bytes [0x61]⟩
    let spawn : Spawn (Unit × List Errand) := fun _ _ => pure (.error .noEntry)
    let reply (exchange : Agent Unit) :=
      (Client.transportOf ⟨files, spawn, make exchange Library.settings⟩ .standard).execute r ((), [])
    (∀ exchange : Agent Unit, (make exchange).Heeds exchange.recording) ∧ r.Fileless ∧
      (reply (answer 302 pieces)).world = ((), [e]) ∧
      (reply (answer 302 pieces)).events = [.sending .post "http://h/", .unsuccessfulStatus 302 "http://h/"] ∧
      (∃ b, (reply (answer 302 pieces)).value = some (.ok b) ∧ b.toList = [1, 2]) ∧
      (reply (answer 200 pieces)).value = (reply (answer 302 pieces)).value ∧
      (reply (answer 503 [.data [1], .failed (.os 104)])).value =
        some (.error (.transport "reading reply: Connection reset by peer (os error 104)")) ∧
      reply (fun _ => pure (.error "io: refused")) =
        ⟨((), [e]), [.sending .post "http://h/"], some (.error (.transport "io: refused"))⟩ := by
  intro files make answer pieces r e spawn reply
  have hmake (exchange : Agent Unit) : (make exchange).Heeds exchange.recording := heeds_redirecting exchange.recording
  have hr : r.Fileless := by
    intro path length h
    cases h
  have hlibrary : Config.standard.backend = .library := rfl
  have hall (exchange : Agent Unit) := reply_is_first_response hlibrary (hmake exchange) files spawn hr () []
  have herrand : Library.errand r = e := by decide
  simp only [herrand] at hall
  obtain ⟨hworld, hevents, ⟨x, hvalue, hx⟩, hsame⟩ :=
    (hall (answer 302 pieces)).2.2.2 () [] ⟨302, [("location", "http://h/echo")], pieces⟩ rfl
  obtain ⟨-, -, ⟨y, hbroken, hy⟩, -⟩ := (hall (answer 503 [.data [1], .failed (.os 104)])).2.2.2 () []
    ⟨503, [("location", "http://h/echo")], [.data [1], .failed (.os 104)]⟩ rfl
  refine ⟨hmake, hr, hworld, hevents, ?_, ?_, ?_, ?_⟩
  · obtain ⟨b, rfl, hb⟩ := Buffer.map_toList_eq_ok_iff.1 hx
    exact ⟨b, hvalue, hb⟩
  · exact hsame (hmake (answer 200 pieces)) () [] ⟨200, [("location", "http://h/echo")], pieces⟩ rfl rfl
  · rw [hbroken, Buffer.map_toList_eq_error_iff.1 hy]
    rfl
  · exact (hall fun _ => pure (.error "io: refused")).2.2.1 () [] "io: refused" rfl

end Courier
