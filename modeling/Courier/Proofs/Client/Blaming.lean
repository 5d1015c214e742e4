import Courier.Proofs.Client.Dispatching
import Courier.Proofs.Transport.Running
import Courier.Proofs.Buffer.Reading

/-!
# Which setting a template fault blames

A template is read where it is used, far from the variable it was set by. The fault still names that variable.

* `Broken` : the variable of a method is set to a template that lacks a token;
* `Runner.Honest` : a runner that makes up no template faults; that of the standard interpreter is one
  (`Interpreter.honest_runner`);
* `Client.running` : the client of a configuration, with a runner for its commands;
* `Config.TakenFrom.refuses_iff_broken` : a request is refused for its template just if the variable is broken, since
  the templates used where nothing is set lack nothing;
* `library_call_ne_badTemplate` : in this process there are no template faults;
* `template_fault_blames_setting` : all of it together.
-/

namespace Courier
variable {σ : Type}

/-- The method whose template a call needs. Posting a file needs none. -/
def Call.template? : Call → Option Method
  | .get .. => some .get
  | .post .. => some .post
  | .postFile .. => none

/-- The variable of a method's template is set to a text that lacks a token; `missing` is the first it lacks of those that
the template of the method has to contain. -/
inductive Broken (lookup : String → Option String) : Method → String → String → Placeholder → Prop
  | get {t : String} : lookup "OAUTH_HTTP_GET_CMD" = some t → ¬ ['%', 'u'] <:+: t.toList →
      Broken lookup .get "OAUTH_HTTP_GET_CMD" t .url
  | postUrl {t : String} : lookup "OAUTH_HTTP_CMD" = some t → ¬ ['%', 'u'] <:+: t.toList →
      Broken lookup .post "OAUTH_HTTP_CMD" t .url
  | postPayload {t : String} : lookup "OAUTH_HTTP_CMD" = some t → ['%', 'u'] <:+: t.toList →
      ¬ ['%', 'p'] <:+: t.toList → Broken lookup .post "OAUTH_HTTP_CMD" t .payload

/-! ## Runners -/

/-- The runner never answers that a template is broken. -/
def Runner.Honest (run : Runner σ) : Prop :=
  ∀ command w setting t, (run command w).value ≠ some (.error (.badTemplate setting t))

theorem exists_of_readAll_error {classify : IoFault → Failure} {s : Source} {f : Failure}
    (h : (readAll plenty classify s).reply = .error f) : ∃ e, f = classify e := by
  have hr := reply_readOnto (fun _ => 0) classify 0 .empty .blank ⟨s, []⟩
  change (readAll plenty classify s).reply.map Buffer.toList = _ at hr
  rw [h] at hr
  split at hr
  · cases hr
  · exact ⟨_, Except.error.inj hr⟩

theorem Interpreter.honest_runner (i : Interpreter) (spawn : Spawn σ) : (i.runner spawn).Honest := by
  intro command w setting t h
  change (i.run plenty spawn command (w, [])).value = _ at h
  obtain ⟨_, -, h⟩ := Act.value_bind_eq_some_iff.1 h
  obtain ⟨started, -, h⟩ := Act.value_bind_eq_some_iff.1 h
  cases started with
  | error e => cases h
  | ok child =>
    obtain ⟨output, hread, h⟩ := Act.value_bind_eq_some_iff.1 h
    obtain ⟨_, -, h⟩ := Act.value_bind_eq_some_iff.1 h
    obtain ⟨_, -, h⟩ := Act.value_bind_eq_some_iff.1 h
    cases output with
    | ok b => cases h
    | error f =>
      obtain ⟨e, rfl⟩ := exists_of_readAll_error (Option.some.inj hread)
      cases h

/-! ## In this process -/

namespace Library

theorem perform_ne_badTemplate (send : Agent σ) (url : String) (e : Errand) (w : σ) (setting t : String) :
    (perform send url e w).value ≠ some (.error (.badTemplate setting t)) := by
  intro h
  obtain ⟨result, -, h⟩ := Act.value_bind_eq_some_iff.1 h
  cases result with
  | error reason => cases h
  | ok response =>
    have hr : (readAll plenty readFailure response.body).reply = .error (.badTemplate setting t) := by
      dsimp only at h
      split_ifs at h
      · obtain ⟨_, -, h⟩ := Act.value_bind_eq_some_iff.1 h
        exact Option.some.inj h
      · exact Option.some.inj h
    obtain ⟨e, he⟩ := exists_of_readAll_error hr
    cases he

theorem prepareUpload_ne_badTemplate (files : FileAccess σ) (r : Request) (path : Bytes) (length : Nat) (w : σ)
    (setting t : String) : (prepareUpload files r path length w).value ≠ some (.error (.badTemplate setting t)) := by
  intro h
  obtain ⟨result, -, h⟩ := Act.value_bind_eq_some_iff.1 h
  cases result with
  | error e => cases h
  | ok file =>
    dsimp only at h
    split_ifs at h
    · obtain ⟨_, -, h⟩ := Act.value_bind_eq_some_iff.1 h
      cases h
    · cases h

theorem prepare_ne_badTemplate (files : FileAccess σ) (r : Request) (w : σ) (setting t : String) :
    (prepare files r w).value ≠ some (.error (.badTemplate setting t)) := by
  obtain ⟨method, url, headers, body⟩ := r
  cases method with
  | get => rintro ⟨⟩
  | post =>
    cases body with
    | empty => rintro ⟨⟩
    | text text => rintro ⟨⟩
    | file path length => exact prepareUpload_ne_badTemplate files _ path length w setting t

theorem execute_ne_badTemplate (files : FileAccess σ) (send : Agent σ) (r : Request) (w : σ) (setting t : String) :
    ((transport files send).execute r w).value ≠ some (.error (.badTemplate setting t)) := by
  intro h
  obtain ⟨_, -, h⟩ := Act.value_bind_eq_some_iff.1 h
  obtain ⟨prepared, hp, h⟩ := Act.value_bind_eq_some_iff.1 h
  cases prepared with
  | error f =>
    rw [Except.error.inj (Option.some.inj h)] at hp
    exact prepare_ne_badTemplate files r _ setting t hp
  | ok e => exact perform_ne_badTemplate send r.url e _ setting t h

end Library

theorem Client.call_ne_badTemplate {c : Client σ} {setting t : String}
    (h : ∀ r w, (c.transport.execute r w).value ≠ some (.error (.badTemplate setting t))) (x : Call) (w : σ) :
    (c.call x w).value ≠ some (.error (.badTemplate setting t)) := by
  obtain ⟨rs, o, ho⟩ := c.exists_handles x w
  rw [ho.call_eq]
  cases ho with
  | executed _ he => exact fun hv => h _ _ (by rw [he]; exact hv)
  | noUpload url path length contentType w hu => simp
  | missing url contentType hu hs => simp
  | broken url contentType hu hs => simp

theorem library_call_ne_badTemplate (files : FileAccess σ) (send : Agent σ) (x : Call) (w : σ) (setting t : String) :
    ((Client.mk (Library.transport files send) files).call x w).value ≠ some (.error (.badTemplate setting t)) :=
  Client.call_ne_badTemplate (fun r w => Library.execute_ne_badTemplate files send r w setting t) x w

/-! ## By a command -/

/-- The commands of a configuration. -/
def Config.commands (config : Config) : Commands :=
  ⟨config.getCommand, config.postCommand⟩

/-- The client of the templates of a configuration, with a runner for its commands. -/
def Client.running (files : FileAccess σ) (config : Config) (run : Runner σ) : Client σ :=
  ⟨config.commands.transport run, files⟩

namespace Config

/-- The templates of a configuration are those of an environment, with the standard ones where nothing is set. -/
structure TakenFrom (config : Config) (lookup : String → Option String) : Prop where
  get : config.getCommand = (lookup "OAUTH_HTTP_GET_CMD").getD standard.getCommand
  post : config.postCommand = (lookup "OAUTH_HTTP_CMD").getD standard.postCommand

theorem chooseBackend_apply (value : Option String) (w : σ) :
    ∃ es backend, chooseBackend value w = ⟨w, es, some backend⟩ := by
  cases value with
  | none => exact ⟨_, _, rfl⟩
  | some value =>
    cases h : Backend.parse? value with
    | some b => exact ⟨_, _, by rw [chooseBackend, h]; rfl⟩
    | none => exact ⟨_, _, by rw [chooseBackend, h]; rfl⟩

theorem load_apply (lookup : String → Option String) (w : σ) : ∃ es config,
    load (fun name => pure (lookup name)) w = ⟨w, es, some config⟩ ∧ config.TakenFrom lookup := by
  obtain ⟨es, backend, h⟩ := chooseBackend_apply (lookup Setting.backend) w
  refine ⟨es, ⟨backend, (lookup Setting.getCommand).getD standard.getCommand,
    (lookup Setting.postCommand).getD standard.postCommand⟩, ?_, rfl, rfl⟩
  rw [load, Act.bind_apply, Act.pure_apply]
  dsimp only
  rw [Act.bind_apply, h]
  simp [Act.bind_apply]

theorem url_infix_standardGet : ['%', 'u'] <:+: standard.getCommand.toList := by
  decide +kernel

theorem url_infix_standardPost : ['%', 'u'] <:+: standard.postCommand.toList := by
  decide +kernel

theorem payload_infix_standardPost : ['%', 'p'] <:+: standard.postCommand.toList := by
  decide +kernel

namespace TakenFrom
variable {config : Config} {lookup : String → Option String}

/-- A GET template without its token is not the standard one, so it was set. -/
theorem get_of_not_infix (h : config.TakenFrom lookup) (hn : ¬ ['%', 'u'] <:+: config.getCommand.toList) :
    lookup "OAUTH_HTTP_GET_CMD" = some config.getCommand := by
  rw [h.get] at hn ⊢
  cases hl : lookup "OAUTH_HTTP_GET_CMD" with
  | some t => rfl
  | none =>
    rw [hl] at hn
    exact absurd url_infix_standardGet hn

/-- A POST template without one of its tokens is not the standard one, so it was set. -/
theorem post_of_not_infix (h : config.TakenFrom lookup)
    (hn : ¬ ['%', 'u'] <:+: config.postCommand.toList ∨ ¬ ['%', 'p'] <:+: config.postCommand.toList) :
    lookup "OAUTH_HTTP_CMD" = some config.postCommand := by
  rw [h.post] at hn ⊢
  cases hl : lookup "OAUTH_HTTP_CMD" with
  | some t => rfl
  | none =>
    rw [hl] at hn
    rcases hn with hn | hn
    · exact absurd url_infix_standardPost hn
    · exact absurd payload_infix_standardPost hn

theorem getCommand_eq (h : config.TakenFrom lookup) {t : String} (hl : lookup "OAUTH_HTTP_GET_CMD" = some t) :
    config.getCommand = t := by
  rw [h.get, hl]
  rfl

theorem postCommand_eq (h : config.TakenFrom lookup) {t : String} (hl : lookup "OAUTH_HTTP_CMD" = some t) :
    config.postCommand = t := by
  rw [h.post, hl]
  rfl

end TakenFrom

/-- **A request that carries no file is refused just if the variable of its method is broken.** -/
theorem TakenFrom.refuses_iff_broken {config : Config} {lookup : String → Option String} (h : config.TakenFrom lookup)
    {r : Request} (hr : r.Fileless) {f : Failure} {es : List Event} :
    config.commands.Refuses r f es ↔ ∃ setting t missing, Broken lookup r.method setting t missing ∧
      f = .badTemplate setting t ∧ es = [.invalidTemplate setting missing] := by
  constructor
  · intro hf
    cases hf with
    | file hf => exact absurd hf (hr _ _)
    | get _ hm hu =>
      rw [hm]
      exact ⟨_, _, _, .get (h.get_of_not_infix hu) hu, rfl, rfl⟩
    | postUrl _ hm hu =>
      rw [hm]
      exact ⟨_, _, _, .postUrl (h.post_of_not_infix (.inl hu)) hu, rfl, rfl⟩
    | postPayload _ hm hu hp =>
      rw [hm]
      exact ⟨_, _, _, .postPayload (h.post_of_not_infix (.inr hp)) hu hp, rfl, rfl⟩
  · rintro ⟨setting, t, missing, hb, rfl, rfl⟩
    cases hm : r.method with
    | get =>
      rw [hm] at hb
      cases hb with
      | get hl hu =>
        obtain rfl := h.getCommand_eq hl
        exact .get hr hm hu
    | post =>
      rw [hm] at hb
      cases hb with
      | postUrl hl hu =>
        obtain rfl := h.postCommand_eq hl
        exact .postUrl hr hm hu
      | postPayload hl hu hp =>
        obtain rfl := h.postCommand_eq hl
        exact .postPayload hr hm hu hp

end Config

namespace Client
variable {config : Config} {lookup : String → Option String}

theorem exists_request_of_template? {x : Call} {m : Method} (h : x.template? = some m) :
    ∃ r : Request, r.Fileless ∧ r.method = m ∧ ∀ c : Client σ, c.call x = c.transport.execute r := by
  cases x with
  | get url query =>
    cases h
    exact ⟨.get url query, by rintro _ _ ⟨⟩, rfl, fun _ => rfl⟩
  | post url body =>
    cases h
    exact ⟨.post url body, by rintro _ _ ⟨⟩, rfl, fun _ => rfl⟩
  | postFile url path length contentType => cases h

theorem running_call_of_broken (h : config.TakenFrom lookup) {x : Call} {m : Method} (hx : x.template? = some m)
    {setting t : String} {missing : Placeholder} (hb : Broken lookup m setting t missing) (files : FileAccess σ)
    (run : Runner σ) (w : σ) : (running files config run).call x w =
      ⟨w, [.invalidTemplate setting missing], some (.error (.badTemplate setting t))⟩ := by
  obtain ⟨r, hr, rfl, hc⟩ := exists_request_of_template? hx
  rw [hc]
  exact ((h.refuses_iff_broken hr).2 ⟨setting, t, missing, hb, rfl, rfl⟩).execute_eq run w

/-- Only a call whose variable is broken comes to a template fault. -/
theorem broken_of_running_call (h : config.TakenFrom lookup) (files : FileAccess σ) {run : Runner σ} (hrun : run.Honest)
    {x : Call} {w : σ} {setting t : String}
    (hv : ((running files config run).call x w).value = some (.error (.badTemplate setting t))) :
    ∃ m missing, x.template? = some m ∧ Broken lookup m setting t missing := by
  cases hx : x.template? with
  | none =>
    cases x with
    | get url query => cases hx
    | post url body => cases hx
    | postFile url path length contentType =>
      rw [call, postFile_of_no_uploads rfl] at hv
      cases hv
  | some m =>
    obtain ⟨r, hr, rfl, hc⟩ := exists_request_of_template? hx
    rw [hc] at hv
    rcases config.commands.renders_or_refuses r with ⟨command, hc⟩ | ⟨f, es, hf⟩
    · exact absurd ((congrArg Outcome.value (hc.execute_eq run w)).symm.trans hv) (hrun command w setting t)
    · obtain ⟨setting', t', missing, hb, rfl, rfl⟩ := (h.refuses_iff_broken hr).1 hf
      have he := (congrArg Outcome.value (hf.execute_eq run w)).symm.trans hv
      cases he
      exact ⟨_, missing, rfl, hb⟩

end Client

/-- **A template fault names the variable that holds the broken template.** Whatever is set, reading the settings comes
to a configuration. Under the command backend, with any runner that makes up no such faults, a call comes to a template
fault just if the variable of its method is set to a text that lacks a token; the fault carries that variable and that
text, the one thing reported is the first token that is missing, and nothing is run. The client that is made for the
configuration runs its commands by the standard interpreter, which makes up no such faults; and under the library backend
no call comes to one. -/
theorem template_fault_blames_setting (lookup : String → Option String) (w₀ : σ) :
    ∃ es config, Config.load (fun name => pure (lookup name)) w₀ = ⟨w₀, es, some config⟩ ∧
      (config.backend = .command →
        (∀ (files : FileAccess σ) (run : Runner σ) (x : Call) (w : σ), run.Honest → ∀ setting t,
          ((Client.running files config run).call x w).value = some (.error (.badTemplate setting t)) ↔
            ∃ m missing, x.template? = some m ∧ Broken lookup m setting t missing) ∧
        (∀ (files : FileAccess σ) (run : Runner σ) (x : Call) (w : σ) (log : List String) (m : Method) (setting t : String)
          (missing : Placeholder), x.template? = some m → Broken lookup m setting t missing →
          (Client.running (files.beside _) config run.recording).call x (w, log) =
            ⟨(w, log), [.invalidTemplate setting missing], some (.error (.badTemplate setting t))⟩) ∧
        ∀ host : Host σ, Client.configure host config w₀ = ⟨w₀, [.clientConfigured "command"],
          some (Client.running host.files config (Interpreter.standard.runner host.spawn))⟩ ∧
            (Interpreter.standard.runner host.spawn).Honest) ∧
      (config.backend = .library → ∀ host : Host σ, ∃ client,
        Client.configure host config w₀ = ⟨w₀, [.clientConfigured "library"], some client⟩ ∧
          ∀ x w setting t, (client.call x w).value ≠ some (.error (.badTemplate setting t))) := by
  obtain ⟨es, config, hl, h⟩ := Config.load_apply lookup w₀
  refine ⟨es, config, hl, fun hc => ⟨fun files run x w hrun setting t => ⟨fun hv => ?_, ?_⟩, ?_, fun host => ⟨?_, ?_⟩⟩,
    fun hc host => ⟨⟨Library.transport host.files host.send, host.files⟩, ?_, ?_⟩⟩
  · exact Client.broken_of_running_call h files hrun hv
  · rintro ⟨m, missing, hx, hb⟩
    rw [Client.running_call_of_broken h hx hb]
  · intro files run x w log m setting t missing hx hb
    exact Client.running_call_of_broken h hx hb (files.beside _) run.recording (w, log)
  · rw [Client.configure, Client.transportOf, hc]
    rfl
  · exact Interpreter.standard.honest_runner host.spawn
  · rw [Client.configure, Client.transportOf, hc]
    rfl
  · exact fun x w setting t => library_call_ne_badTemplate host.files host.send x w setting t

/-- Each template has the token that only the other method asks for. The fault of a GET and that of a POST name different
variables and tokens, a file has none; and where nothing is set a GET has none. -/
theorem template_fault_blames_setting_crossed :
    let lookup : String → Option String := fun name =>
      if name = "OAUTH_HTTP_BACKEND" then some " CMD" else if name = "OAUTH_HTTP_GET_CMD" then some "fetch %p"
      else if name = "OAUTH_HTTP_CMD" then some "send %u" else none
    let files : FileAccess Nat := ⟨fun _ => pure (.ok 0), fun _ => pure (.ok ⟨0, []⟩)⟩
    let run : Runner Nat := fun command n => ⟨n + 1, [], some (.error (.subprocess command))⟩
    let host : Host Nat := ⟨files, fun _ _ => pure (.error .noEntry), fun _ => pure (.error "refused")⟩
    (∃ es config, Config.load (fun name => pure (lookup name)) 0 = ⟨0, es, some config⟩ ∧ config.backend = .command ∧
      run.Honest ∧
      (Client.running (files.beside _) config run.recording).call (.get "u" none) (0, []) = ⟨(0, []),
        [.invalidTemplate "OAUTH_HTTP_GET_CMD" .url],
        some (.error (.badTemplate "OAUTH_HTTP_GET_CMD" "fetch %p"))⟩ ∧
      (Client.running (files.beside _) config run.recording).call (.post "u" "%p") (0, []) = ⟨(0, []),
        [.invalidTemplate "OAUTH_HTTP_CMD" .payload], some (.error (.badTemplate "OAUTH_HTTP_CMD" "send %u"))⟩ ∧
      ((Client.running files config run).call (.postFile "u" [] 0 none) 0).value ≠
        some (.error (.badTemplate "OAUTH_HTTP_CMD" "send %u"))) ∧
    ∃ es config client, Config.load (fun _ => pure none) 0 = ⟨0, es, some config⟩ ∧ config.backend = .library ∧
      Client.configure host config 0 = ⟨0, [.clientConfigured "library"], some client⟩ ∧
      (client.call (.get "u" none) 0).value ≠ some (.error (.badTemplate "OAUTH_HTTP_GET_CMD" "")) := by
  intro lookup files run host
  have hrun : run.Honest := by
    rintro command w setting t ⟨⟩
  have hget : Broken lookup .get "OAUTH_HTTP_GET_CMD" "fetch %p" .url := .get rfl (by decide)
  have hpost : Broken lookup .post "OAUTH_HTTP_CMD" "send %u" .payload := .postPayload rfl (by decide) (by decide)
  constructor
  · obtain ⟨es, config, hl, hcommand, -⟩ := template_fault_blames_setting lookup 0
    have hb : config.backend = .command := by
      have hv : (Config.load (fun name => pure (lookup name)) 0).value = some ⟨.command, "fetch %p", "send %u"⟩ := rfl
      rw [hl] at hv
      exact congrArg Config.backend (Option.some.inj hv)
    obtain ⟨hiff, hfault, -⟩ := hcommand hb
    refine ⟨es, config, hl, hb, hrun, hfault files run _ 0 [] .get _ _ .url rfl hget,
      hfault files run _ 0 [] .post _ _ .payload rfl hpost, fun hv => ?_⟩
    obtain ⟨m, missing, hx, -⟩ := (hiff files run _ 0 hrun _ _).1 hv
    cases hx
  · obtain ⟨es, config, hl, -, hlibrary⟩ := template_fault_blames_setting (fun _ => none) 0
    have hb : config.backend = .library := by
      have hv : (Config.load (fun _ => pure none) 0).value = some Config.standard := rfl
      rw [hl] at hv
      exact congrArg Config.backend (Option.some.inj hv)
    obtain ⟨client, hc, hn⟩ := hlibrary hb host
    exact ⟨es, config, client, hl, hb, hc, hn _ 0 _ _⟩

end Courier
