import Courier.Proofs.Boundary.Simulation
import Courier.Proofs.Client.Hosts

/-!
# Two ways to a client

A C program gives a backend and two templates, or leaves them to the environment.

* `Holds`, `Sets` : the templates in memory, and in an environment;
* `Legible`, `Says` : a template that can be read, and the text it comes to where it is missing or cannot be read;
* `config?_eq`, `config?_eq_none` : the configuration of the arguments; `ofEnvironment_apply` : that of an environment;
* `alike_serve` : clients of one configuration on hosts that answer alike;
* `constructions_agree` : what the two ways have in common, and where they differ.
-/

namespace Courier.Boundary

/-- The memory of a string that may be missing: null, or its bytes and a zero, whatever stands behind it. -/
inductive Holds : Pointer → Option Bytes → Prop
  | null : Holds none none
  | string {bs : Bytes} (more : Bytes) : 0 ∉ bs → Holds (some (bs ++ 0 :: more)) (some bs)

/-- An environment that sets a backend, in one of its spellings, and the templates that are not missing. -/
structure Sets (environment : String → Option Bytes) (backend : Backend) (get post : Option Bytes) : Prop where
  backend : ∃ s : String, environment "OAUTH_HTTP_BACKEND" = some (Utf8.encode s.toList) ∧
    Backend.parse? s = some backend
  get : environment "OAUTH_HTTP_GET_CMD" = get
  post : environment "OAUTH_HTTP_CMD" = post

/-- A template that is missing or is text. -/
def Legible (template : Option Bytes) : Prop :=
  ∀ bs ∈ template, ∃ s : String, bs = Utf8.encode s.toList

/-- The text a template comes to: the standard one where it is missing or no text. -/
inductive Says : Option Bytes → String → String → Prop
  | missing (standard : String) : Says none standard standard
  | text (s standard : String) : Says (some (Utf8.encode s.toList)) standard s
  | broken {bs : Bytes} (standard : String) : ¬ Legible (some bs) → Says (some bs) standard standard

theorem legible_some_iff {bs : Bytes} : Legible (some bs) ↔ ∃ cs, Utf8.decode? bs = some cs := by
  simp only [Legible, Option.mem_some_iff, forall_eq', Utf8.decode?_eq_some_iff]
  constructor
  · rintro ⟨s, h⟩
    exact ⟨s.toList, h⟩
  · rintro ⟨cs, h⟩
    exact ⟨String.ofList cs, by rwa [String.toList_ofList]⟩

/-! ## Templates -/

section Templates
variable {template : Option Bytes} {standard s : String} {p : Pointer}

theorem exists_says (template : Option Bytes) (standard : String) : ∃ s, Says template standard s := by
  cases template with
  | none => exact ⟨_, .missing standard⟩
  | some bs =>
    by_cases h : Legible (some bs)
    · obtain ⟨s, rfl⟩ := h bs rfl
      exact ⟨s, .text s standard⟩
    · exact ⟨_, .broken standard h⟩

theorem Says.templateArgument_eq (h : Says template standard s) (hl : Legible template) (hp : Holds p template) :
    templateArgument standard p = some s := by
  cases h with
  | missing =>
    cases hp
    rfl
  | text =>
    cases hp with
    | string more h0 => exact textOf_eq_some_iff.2 (.ended more h0)
  | broken _ hn => exact absurd hl hn

theorem templateArgument_eq_none (hn : ¬ Legible template) (hp : Holds p template) (standard : String) :
    templateArgument standard p = none := by
  cases hp with
  | null => exact absurd (fun bs h => by cases h) hn
  | @string bs more h0 =>
    refine textOf_eq_none_iff.2 fun s h => hn ?_
    have hs : bs = Utf8.encode s.toList := (Contents.ended more h0).cContents_eq.symm.trans h.cContents_eq
    rintro _ ⟨⟩
    exact ⟨s, hs⟩

theorem Says.getD_eq (h : Says template standard s) :
    (((template.bind Utf8.decode?).map String.ofList).getD standard) = s := by
  cases h with
  | missing => rfl
  | text =>
    rw [Option.bind_some, Utf8.decode?_eq_some_iff.2 rfl, Option.map_some, Option.getD_some, String.ofList_toList]
  | @broken bs _ hn =>
    have hnone : Utf8.decode? bs = none := by
      cases hd : Utf8.decode? bs with
      | none => rfl
      | some cs => exact absurd (legible_some_iff.2 ⟨cs, hd⟩) hn
    rw [Option.bind_some, hnone]
    rfl

end Templates

/-! ## Configurations -/

section Configurations
variable {backend : Backend} {g p : Option Bytes} {get post : Pointer} {environment : String → Option Bytes}
  {getText postText : String}

theorem config?_eq (hg : Holds get g) (hp : Holds post p) (hgs : Says g Config.standard.getCommand getText)
    (hps : Says p Config.standard.postCommand postText) (hgl : Legible g) (hpl : Legible p) :
    config? backend get post = some ⟨backend, getText, postText⟩ := by
  rw [config?, hgs.templateArgument_eq hgl hg, hps.templateArgument_eq hpl hp]
  rfl

theorem config?_eq_none (hg : Holds get g) (hp : Holds post p) (h : ¬ Legible g ∨ ¬ Legible p) :
    config? backend get post = none := by
  unfold config?
  rcases h with h | h
  · rw [templateArgument_eq_none h hg]
    rfl
  · -- The first argument may be read before the second is found to be no text.
    rw [templateArgument_eq_none h hp]
    cases templateArgument Config.standard.getCommand get <;> rfl

theorem ofEnvironment_eq {σ : Type} (he : Sets environment backend g p) (hgs : Says g Config.standard.getCommand getText)
    (hps : Says p Config.standard.postCommand postText) :
    (Config.ofEnvironment environment : Act σ Config) = pure ⟨backend, getText, postText⟩ := by
  obtain ⟨⟨s, hs, hb⟩, rfl, rfl⟩ := he
  have hchoose : (Config.chooseBackend (some s) : Act σ Backend) = pure backend := by
    rw [Config.chooseBackend, hb]
  have hlookup : ((environment Setting.backend).bind Utf8.decode?).map String.ofList = some s := by
    rw [Setting.backend, hs, Option.bind_some, Utf8.decode?_eq_some_iff.2 rfl, Option.map_some, String.ofList_toList]
  have hget : (((environment Setting.getCommand).bind Utf8.decode?).map String.ofList).getD
      Config.standard.getCommand = getText := hgs.getD_eq
  have hpost : (((environment Setting.postCommand).bind Utf8.decode?).map String.ofList).getD
      Config.standard.postCommand = postText := hps.getD_eq
  -- The backend is looked up first, and its word is known, so nothing is reported.
  funext w
  rw [Config.ofEnvironment, Config.load, Act.bind_apply, Act.pure_apply, hlookup]
  dsimp only
  rw [hchoose]
  simp only [Act.bind_apply, Act.pure_apply, List.append_nil, hget, hpost]

end Configurations

/-! ## Clients -/

/-- Makes the client of a configuration. -/
def configured {σ : Type} (host : Host σ) (config : Config) : Act σ (Option (Client σ)) := do
  pure (some (← Client.configure host config))

theorem serve_configured {σ : Type} (host : Host σ) (config : Config) (orders : List Order) :
    let client : Client σ := ⟨Client.transportOf host config, host.files⟩
    serve (configured host config) orders = (do
      Act.report (.clientConfigured client.transport.name)
      session (orders.map (·.call (some client)))) := by
  intro client
  funext w
  simp only [serve, configured, Client.configure, Act.bind_apply, Act.report_apply, Act.pure_apply, List.append_nil]
  rfl

/-- Clients of one configuration, on hosts that answer alike, report and reply alike, and start the same programs. -/
theorem alike_serve {σ τ : Type} {R : σ → τ → Prop} {host : Host σ} {host' : Host τ} (h : Host.Alike R host host')
    (config : Config) (orders : List Order) :
    Act.Alike R (serve (configured host config) orders) (serve (configured host' config) orders) := by
  have hclient := Client.alike_of_hosts h config
  rw [serve_configured, serve_configured]
  dsimp only
  rw [hclient.name]
  exact (Act.Alike.report _).bind fun _ => alike_session hclient orders

/-- **The two ways to a client agree.** An environment that sets the backend, in any spelling of it, and the templates
that are not missing always comes to a client, with the standard text for a template that cannot be read. Arguments that
can be read come to the client of the same configuration, so that orders are answered alike, and the same programs are
started for them, on hosts that answer alike. For an argument that cannot be read there is no client, whatever the
backend and the other argument. -/
theorem constructions_agree {backend : Backend} {g p : Option Bytes} {get post : Pointer}
    {environment : String → Option Bytes} (hg : Holds get g) (hp : Holds post p) (he : Sets environment backend g p) :
    ∃ getText postText, Says g "curl -sA 'liboauth-agent/0.1.0' '%u' " getText ∧
      Says p "curl -sA 'liboauth-agent/0.1.0' -d '%p' '%u' " postText ∧
      let config : Config := ⟨backend, getText, postText⟩
      (∀ {σ : Type} (host : Host σ), environmentClient host environment = configured host config) ∧
      (Legible g → Legible p →
        (∀ {σ : Type} (host : Host σ), newClient host backend get post = configured host config) ∧
        ∀ {σ τ : Type} {R : σ → τ → Prop} {host : Host σ} {host' : Host τ}, Host.Alike R host host' →
          ∀ s t, R s t → ∀ orders : List Order,
            let x := serve (newClient host.recording backend get post) orders (s, [])
            let y := serve (environmentClient host'.recording environment) orders (t, [])
            x.value = y.value ∧ x.events = y.events ∧ x.world.2 = y.world.2 ∧ R x.world.1 y.world.1) ∧
      (¬ Legible g ∨ ¬ Legible p → ∀ {σ : Type} (host : Host σ), newClient host backend get post = pure none) := by
  have hgetStandard : "curl -sA 'liboauth-agent/0.1.0' '%u' " = Config.standard.getCommand := by decide
  have hpostStandard : "curl -sA 'liboauth-agent/0.1.0' -d '%p' '%u' " = Config.standard.postCommand := by decide
  rw [hgetStandard, hpostStandard]
  obtain ⟨getText, hgs⟩ := exists_says g Config.standard.getCommand
  obtain ⟨postText, hps⟩ := exists_says p Config.standard.postCommand
  have henvironment {σ : Type} (host : Host σ) :
      environmentClient host environment = configured host ⟨backend, getText, postText⟩ := by
    rw [environmentClient, ofEnvironment_eq he hgs hps]
    rfl
  refine ⟨getText, postText, hgs, hps, henvironment, fun hgl hpl => ?_, fun h _ host => ?_⟩
  · have hnew {σ : Type} (host : Host σ) :
        newClient host backend get post = configured host ⟨backend, getText, postText⟩ := by
      rw [newClient, config?_eq hg hp hgs hps hgl hpl]
      rfl
    refine ⟨hnew, fun hR s t hst orders => ?_⟩
    intro x y
    have halike := alike_serve hR.recording ⟨backend, getText, postText⟩ orders (s, []) (t, []) ⟨hst, rfl⟩
    rw [← hnew, ← henvironment] at halike
    obtain ⟨⟨hworld, hstarted⟩, hevents, hvalue⟩ := halike
    exact ⟨hvalue, hevents, hstarted, hworld⟩
  · rw [newClient, config?_eq_none hg hp h]

/-- A backend spelled with blanks and in capitals. One template is missing and the other set; then the first is no text. -/
theorem constructions_agree_crossed :
    let text : Bytes := Utf8.encode "send %p %u".toList
    let broken : Bytes := [0x25, 0xFF]
    let environment (g p : Option Bytes) : String → Option Bytes := fun name =>
      if name = "OAUTH_HTTP_BACKEND" then some (Utf8.encode " CMD\n".toList)
      else if name = "OAUTH_HTTP_GET_CMD" then g else if name = "OAUTH_HTTP_CMD" then p else none
    let host : Host Nat :=
      { files := ⟨fun _ => pure (.error .noEntry), fun _ => pure (.error .noEntry)⟩
        spawn := fun _ _ => Act.step fun n => (.error (.os n), n + 1)
        send := fun _ => pure (.error "refused") }
    let orders : List Order := [.get (some [0x75, 0]) none, .post (some [0x75, 0]) none]
    let x := serve (newClient host.recording .command none (some (text ++ [0, 0xFF]))) orders (3, [])
    let y := serve (environmentClient host.recording (environment none (some text))) orders (3, [])
    Holds none none ∧ Holds (some (text ++ [0, 0xFF])) (some text) ∧ Holds (some (broken ++ [0])) (some broken) ∧
      (∀ g p, Sets (environment g p) .command g p) ∧ Legible none ∧ Legible (some text) ∧ ¬ Legible (some broken) ∧
      Host.Alike Eq host host ∧ x.value = y.value ∧ x.events = y.events ∧ x.world.2 = y.world.2 ∧
      newClient host .command (some (broken ++ [0])) (some (text ++ [0, 0xFF])) = pure none ∧
      environmentClient host (environment (some broken) (some text)) =
        configured host ⟨.command, "curl -sA 'liboauth-agent/0.1.0' '%u' ", "send %p %u"⟩ := by
  intro text broken environment host orders x y
  have hnull : Holds none none := .null
  have htext : Holds (some (text ++ [0, 0xFF])) (some text) := .string [0xFF] (by decide)
  have hbroken : Holds (some (broken ++ [0])) (some broken) := .string [] (by decide)
  have hsets (g p : Option Bytes) : Sets (environment g p) .command g p := ⟨⟨" CMD\n", rfl, by decide⟩, rfl, rfl⟩
  have hnone : Legible none := fun bs h => by cases h
  have hlegible : Legible (some text) := by
    rintro _ ⟨⟩
    exact ⟨"send %p %u", rfl⟩
  have hdecode : Utf8.decode? broken = none := by
    have hpercent : Utf8.next 0x25 [0xFF] = (.char '%', [0xFF]) := rfl
    have hlead : Utf8.next 0xFF [] = (.broken, []) := rfl
    rw [Utf8.decode?, Utf8.pieces_cons, hpercent, Utf8.pieces_cons, hlead, Utf8.pieces_nil]
    rfl
  have hillegible : ¬ Legible (some broken) := by
    rw [legible_some_iff, hdecode]
    rintro ⟨cs, h⟩
    cases h
  obtain ⟨_, _, -, -, -, hagree, -⟩ := constructions_agree hnull htext (hsets none (some text))
  obtain ⟨hvalue, hevents, hstarted, -⟩ := (hagree hnone hlegible).2 host.alike_refl 3 3 rfl orders
  obtain ⟨getText, postText, hgs, hps, henvironment, -, hnew⟩ :=
    constructions_agree hbroken htext (hsets (some broken) (some text))
  have hget : getText = "curl -sA 'liboauth-agent/0.1.0' '%u' " := by
    rw [← hgs.getD_eq, Option.bind_some, hdecode]
    rfl
  have hpost : postText = "send %p %u" := by
    rw [← hps.getD_eq, Option.bind_some, Utf8.decode?_eq_some_iff.2 rfl, Option.map_some, Option.getD_some,
      String.ofList_toList]
  refine ⟨hnull, htext, hbroken, hsets, hnone, hlegible, hillegible, host.alike_refl, hvalue, hevents, hstarted,
    hnew (.inl hillegible) host, ?_⟩
  rw [henvironment host, hget, hpost]

end Courier.Boundary
