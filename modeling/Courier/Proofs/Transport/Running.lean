import Courier.Proofs.Template.Rendering

/-!
# What the command transport runs

A request is rendered or refused, and what is rendered is run once.

* `Commands.Renders`, `Commands.Refuses` : the command of a request, or why it has none; each request has one of them
  (`renders_or_refuses`), and it is what the transport does (`Renders.execute_eq`, `Refuses.execute_eq`);
* `Commands.Alike` : requests that differ only in what their commands do not depend on, `Alike.render_eq`;
* `Commands.Serves` : the commands that requests in a row have run, and what the requests come to;
* `requests_run_what_renders` : the transport serves requests in this way, and requests that are alike in one way.
-/

namespace Courier
variable {σ : Type}

/-! ## Templates that lack a token -/

namespace Template

theorem parse_eq_error {raw : List Char} {p : Placeholder} (before after : List Placeholder)
    (hb : ∀ q ∈ before, q.token <:+: raw) (hp : ¬ p.token <:+: raw) :
    parse (before ++ p :: after) raw = .error p := by
  have hl : locate raw (before ++ p :: after) = .error p := by
    induction before with
    | nil => rw [List.nil_append, locate, Placeholder.position?_eq_none_iff.2 hp]
    | cons q before ih =>
      obtain ⟨i, hi⟩ := exists_firstAt_iff.2 (hb q List.mem_cons_self)
      rw [List.cons_append, locate_cons hi, ih fun q hq => hb q (List.mem_cons_of_mem _ hq)]
      rfl
  rw [parse, hl]
  rfl

theorem load_eq_error {setting raw : String} {required : List Placeholder} {p : Placeholder} (w : σ)
    (h : parse required raw.toList = .error p) :
    load setting required raw w = ⟨w, [.invalidTemplate setting p], some (.error (.badTemplate setting raw))⟩ := by
  rw [load, h]
  rfl

end Template

/-! ## One request -/

/-- The request carries no file. -/
def Request.Fileless (r : Request) : Prop :=
  ∀ path length, r.body ≠ .file path length

namespace Commands

/-- The command of a request: the template of its method with the values of the request in it. -/
inductive Renders (c : Commands) (r : Request) (command : String) : Prop
  | get : r.Fileless → r.method = .get → GetText c.get.toList r.url.toList command.toList → Renders c r command
  | post {text : String} : r.method = .post → r.body.Carries text →
      PostText c.post.toList r.url.toList text.toList command.toList → Renders c r command

/-- Why a request has no command, with what is reported. A file is refused whatever the templates hold; else the
template of the method lacks a token. -/
inductive Refuses (c : Commands) (r : Request) : Failure → List Event → Prop
  | file {path : Bytes} {length : Nat} : r.body = .file path length →
      Refuses c r (.unsupported "file upload requires the library backend") []
  | get : r.Fileless → r.method = .get → ¬ ['%', 'u'] <:+: c.get.toList →
      Refuses c r (.badTemplate "OAUTH_HTTP_GET_CMD" c.get) [.invalidTemplate "OAUTH_HTTP_GET_CMD" .url]
  | postUrl : r.Fileless → r.method = .post → ¬ ['%', 'u'] <:+: c.post.toList →
      Refuses c r (.badTemplate "OAUTH_HTTP_CMD" c.post) [.invalidTemplate "OAUTH_HTTP_CMD" .url]
  | postPayload : r.Fileless → r.method = .post → ['%', 'u'] <:+: c.post.toList → ¬ ['%', 'p'] <:+: c.post.toList →
      Refuses c r (.badTemplate "OAUTH_HTTP_CMD" c.post) [.invalidTemplate "OAUTH_HTTP_CMD" .payload]

/-- Requests under templates, of which each pair differs only in what the command of neither depends on: two files; two
GETs of one URL under one template; or two POSTs of one URL and text under one template. -/
inductive Alike (c c' : Commands) (r r' : Request) : Prop
  | file {path path' : Bytes} {length length' : Nat} : r.body = .file path length → r'.body = .file path' length' →
      Alike c c' r r'
  | get : r.Fileless → r'.Fileless → r.method = .get → r'.method = .get → c.get = c'.get → r.url = r'.url →
      Alike c c' r r'
  | post {text : String} : r.body.Carries text → r'.body.Carries text → r.method = .post → r'.method = .post →
      c.post = c'.post → r.url = r'.url → Alike c c' r r'

theorem renders_or_refuses (c : Commands) (r : Request) :
    (∃ command, c.Renders r command) ∨ ∃ f es, c.Refuses r f es := by
  by_cases hb : r.Fileless
  · cases hm : r.method with
    | get =>
      by_cases hu : ['%', 'u'] <:+: c.get.toList
      · obtain ⟨command, -, h⟩ := render_get hm hb hu ()
        exact .inl ⟨command, .get hb hm h⟩
      · exact .inr ⟨_, _, .get hb hm hu⟩
    | post =>
      by_cases hu : ['%', 'u'] <:+: c.post.toList
      · by_cases hp : ['%', 'p'] <:+: c.post.toList
        · obtain ⟨text, ht⟩ := Body.exists_carries hb
          obtain ⟨command, -, h⟩ := render_post hm ht hu hp ()
          exact .inl ⟨command, .post hm ht h⟩
        · exact .inr ⟨_, _, .postPayload hb hm hu hp⟩
      · exact .inr ⟨_, _, .postUrl hb hm hu⟩
  · have hf : ∃ path length, r.body = .file path length := by
      simpa [Request.Fileless] using hb
    obtain ⟨path, length, hf⟩ := hf
    exact .inr ⟨_, _, .file hf⟩

/-! ### What rendering looks at -/

theorem render_of_file {c : Commands} {r : Request} {path : Bytes} {length : Nat} (h : r.body = .file path length) :
    (c.render r : Act σ _) = pure (.error .noUpload) := by
  obtain ⟨method, url, headers, body⟩ := r
  cases h
  cases method <;> rfl

/-- **Requests that are alike have one command, or one reason why they have none.** -/
theorem Alike.render_eq {c c' : Commands} {r r' : Request} (h : Alike c c' r r') :
    (c.render r : Act σ _) = c'.render r' := by
  cases h with
  | file hf hf' => rw [render_of_file hf, render_of_file hf']
  | get hb hb' hm hm' hc hu => rw [render_of_get hb hm, render_of_get hb' hm', hc, hu]
  | post hb hb' hm hm' hc hu => rw [render_of_post hb hm, render_of_post hb' hm', hc, hu]

/-! ### What the transport does -/

theorem execute_eq (c : Commands) (run : Runner σ) (r : Request) :
    (c.transport run).execute r = c.render r >>= fun
      | .ok command => run command
      | .error f => pure (.error f) := rfl

theorem Renders.render_eq {c : Commands} {r : Request} {command : String} (h : c.Renders r command) (w : σ) :
    c.render r w = ⟨w, [], some (.ok command)⟩ := by
  cases h with
  | get hb hm ht =>
    obtain ⟨i, hi, -⟩ := ht.1
    obtain ⟨command', hr, ht'⟩ := render_get hm hb (exists_firstAt_iff.1 ⟨i, hi⟩) w
    rw [String.toList_inj.1 (ht.unique ht'), hr]
  | post hm hb ht =>
    obtain ⟨i, j, hi, hj, -⟩ := ht.1
    obtain ⟨command', hr, ht'⟩ :=
      render_post hm hb (exists_firstAt_iff.1 ⟨i, hi⟩) (exists_firstAt_iff.1 ⟨j, hj⟩) w
    rw [String.toList_inj.1 (ht.unique ht'), hr]

theorem Refuses.render_eq {c : Commands} {r : Request} {f : Failure} {es : List Event} (h : c.Refuses r f es) (w : σ) :
    c.render r w = ⟨w, es, some (.error f)⟩ := by
  cases h with
  | file hf =>
    rw [render_of_file hf]
    rfl
  | get hb hm hu =>
    have hp : Template.parse Template.forGet c.get.toList = .error .url :=
      Template.parse_eq_error [] [] (by simp) hu
    rw [render_of_get hb hm, Act.bind_apply, Template.load_eq_error w hp]
    rfl
  | postUrl hb hm hu =>
    obtain ⟨text, hb⟩ := Body.exists_carries hb
    have hp : Template.parse Template.forPost c.post.toList = .error .url :=
      Template.parse_eq_error [] [.payload] (by simp) hu
    rw [render_of_post hb hm, Act.bind_apply, Template.load_eq_error w hp]
    rfl
  | postPayload hb hm hu hp =>
    obtain ⟨text, hb⟩ := Body.exists_carries hb
    have hp : Template.parse Template.forPost c.post.toList = .error .payload :=
      Template.parse_eq_error [.url] [] (List.forall_mem_singleton.2 hu) hp
    rw [render_of_post hb hm, Act.bind_apply, Template.load_eq_error w hp]
    rfl

/-- Rendering succeeds with the command of the request, and with no other. -/
theorem render_eq_ok_iff {c : Commands} {r : Request} {command : String} (w : σ) :
    c.render r w = ⟨w, [], some (.ok command)⟩ ↔ c.Renders r command := by
  refine ⟨fun h => ?_, fun h => h.render_eq w⟩
  rcases c.renders_or_refuses r with ⟨command', hr⟩ | ⟨f, es, hr⟩
  · rw [hr.render_eq w] at h
    cases h
    exact hr
  · rw [hr.render_eq w] at h
    cases h

/-- Rendering fails for the reason why the request has no command, and for no other. -/
theorem render_eq_error_iff {c : Commands} {r : Request} {f : Failure} {es : List Event} (w : σ) :
    c.render r w = ⟨w, es, some (.error f)⟩ ↔ c.Refuses r f es := by
  refine ⟨fun h => ?_, fun h => h.render_eq w⟩
  rcases c.renders_or_refuses r with ⟨command, hr⟩ | ⟨f', es', hr⟩
  · rw [hr.render_eq w] at h
    cases h
  · rw [hr.render_eq w] at h
    cases h
    exact hr

/-- **A request that has a command has it run**, whatever the runner answers. -/
theorem Renders.execute_eq {c : Commands} {r : Request} {command : String} (h : c.Renders r command) (run : Runner σ)
    (w : σ) : (c.transport run).execute r w = run command w := by
  rw [Commands.execute_eq, Act.bind_apply, h.render_eq w]
  rfl

/-- **A request that has no command has nothing run**, and its reply is the reason. -/
theorem Refuses.execute_eq {c : Commands} {r : Request} {f : Failure} {es : List Event} (h : c.Refuses r f es)
    (run : Runner σ) (w : σ) : (c.transport run).execute r w = ⟨w, es, some (.error f)⟩ := by
  rw [Commands.execute_eq, Act.bind_apply, h.render_eq w]
  simp

/-! ## Requests in a row -/

/-- The commands that requests in a row have run, in order, and what the requests come to. A request that renders has
its command run once, and its reply is that of the runner; any other runs nothing, leaves the world as it is, and its
reply is the reason. A panic of the runner ends the row. -/
inductive Serves (c : Commands) (run : Runner σ) : List Request → σ → List String → Outcome σ (List Reply) → Prop
  | nil (w : σ) : Serves c run [] w [] ⟨w, [], some []⟩
  | refused {r : Request} {f : Failure} {es : List Event} {requests : List Request} {w : σ} {commands : List String}
      {o : Outcome σ (List Reply)} : c.Refuses r f es → Serves c run requests w commands o →
      Serves c run (r :: requests) w commands ⟨o.world, es ++ o.events, o.value.map (.error f :: ·)⟩
  | ran {r : Request} {command : String} {reply : Reply} {es : List Event} {requests : List Request} {w w₁ : σ}
      {commands : List String} {o : Outcome σ (List Reply)} : c.Renders r command →
      run command w = ⟨w₁, es, some reply⟩ → Serves c run requests w₁ commands o →
      Serves c run (r :: requests) w (command :: commands) ⟨o.world, es ++ o.events, o.value.map (reply :: ·)⟩
  | panicked {r : Request} {command : String} {es : List Event} {requests : List Request} {w w₁ : σ} :
      c.Renders r command → run command w = ⟨w₁, es, none⟩ →
      Serves c run (r :: requests) w [command] ⟨w₁, es, none⟩

theorem exists_serves (c : Commands) (run : Runner σ) (requests : List Request) (w : σ) :
    ∃ commands o, Serves c run requests w commands o := by
  induction requests generalizing w with
  | nil => exact ⟨_, _, .nil w⟩
  | cons r requests ih =>
    rcases c.renders_or_refuses r with ⟨command, hr⟩ | ⟨f, es, hr⟩
    · cases h : run command w with
      | mk w₁ es value =>
        cases value with
        | none => exact ⟨_, _, .panicked hr h⟩
        | some reply =>
          obtain ⟨commands, o, ho⟩ := ih w₁
          exact ⟨_, _, .ran hr h ho⟩
    · obtain ⟨commands, o, ho⟩ := ih w
      exact ⟨_, _, .refused hr ho⟩

end Commands

theorem Transport.executeAll_cons {t : Transport σ} {r : Request} {w w₁ : σ} {es : List Event} {reply : Reply}
    (h : t.execute r w = ⟨w₁, es, some reply⟩) (requests : List Request) :
    t.executeAll (r :: requests) w = ⟨(t.executeAll requests w₁).world, es ++ (t.executeAll requests w₁).events,
      (t.executeAll requests w₁).value.map (reply :: ·)⟩ := by
  simp only [executeAll, Act.bind_apply, h]
  cases (t.executeAll requests w₁).value <;> simp

theorem Transport.executeAll_cons_of_panic {t : Transport σ} {r : Request} {w w₁ : σ} {es : List Event}
    (h : t.execute r w = ⟨w₁, es, none⟩) (requests : List Request) :
    t.executeAll (r :: requests) w = ⟨w₁, es, none⟩ := by
  simp only [executeAll, Act.bind_apply, h]

theorem Runner.recording_apply (run : Runner σ) (command : String) (w : σ) (log : List String) :
    run.recording command (w, log) =
      ⟨((run command w).world, log ++ [command]), (run command w).events, (run command w).value⟩ := rfl

namespace Commands

theorem Serves.executeAll_eq {c : Commands} {run : Runner σ} {requests : List Request} {w : σ}
    {commands : List String} {o : Outcome σ (List Reply)} (h : Serves c run requests w commands o) :
    (c.transport run).executeAll requests w = o := by
  induction h with
  | nil w => rfl
  | refused hr _ ih => rw [Transport.executeAll_cons (hr.execute_eq run _), ih]
  | ran hr h _ ih => rw [Transport.executeAll_cons ((hr.execute_eq run _).trans h), ih]
  | panicked hr h => rw [Transport.executeAll_cons_of_panic ((hr.execute_eq run _).trans h)]

/-- The commands handed to the runner are those, and keeping them changes nothing else. -/
theorem Serves.executeAll_recording {c : Commands} {run : Runner σ} {requests : List Request} {w : σ}
    {commands : List String} {o : Outcome σ (List Reply)} (h : Serves c run requests w commands o)
    (log : List String) : (c.transport run.recording).executeAll requests (w, log) =
      ⟨(o.world, log ++ commands), o.events, o.value⟩ := by
  induction h generalizing log with
  | nil w => simp [Transport.executeAll]
  | refused hr _ ih => rw [Transport.executeAll_cons (hr.execute_eq run.recording _), ih]
  | @ran r command reply es requests w w₁ commands o hr h _ ih =>
    have hrun : run.recording command (w, log) = ⟨(w₁, log ++ [command]), es, some reply⟩ := by
      rw [Runner.recording_apply, h]
    rw [Transport.executeAll_cons ((hr.execute_eq run.recording _).trans hrun), ih, List.append_assoc]
    rfl
  | @panicked r command es requests w w₁ hr h =>
    have hrun : run.recording command (w, log) = ⟨(w₁, log ++ [command]), es, none⟩ := by
      rw [Runner.recording_apply, h]
    rw [Transport.executeAll_cons_of_panic ((hr.execute_eq run.recording _).trans hrun)]

theorem executeAll_eq_of_alike {c c' : Commands} {requests requests' : List Request}
    (h : List.Forall₂ (Alike c c') requests requests') (run : Runner σ) :
    (c.transport run).executeAll requests = (c'.transport run).executeAll requests' := by
  induction h with
  | nil => rfl
  | cons hr _ ih => rw [Transport.executeAll, Transport.executeAll, ih, execute_eq, execute_eq, hr.render_eq]

end Commands

/-- **The command transport runs what renders, and nothing else.** Whatever the templates hold and whatever the runner
does, a request renders to its command, or fails for the reason why it has none; requests in a row hand the runner the
commands of those that render, once each and in order; such a request is answered with the runner's reply, and any other
with that reason. What requests run and come to depends on no more than the template, the URL and the payload of
each. -/
theorem requests_run_what_renders (c : Commands) (run : Runner σ) (requests : List Request) (w : σ)
    (log : List String) :
    (∀ r command, c.render r w = ⟨w, [], some (.ok command)⟩ ↔ c.Renders r command) ∧
    (∀ r f es, c.render r w = ⟨w, es, some (.error f)⟩ ↔ c.Refuses r f es) ∧
    (∃ commands o, c.Serves run requests w commands o ∧ (c.transport run).executeAll requests w = o ∧
      (c.transport run.recording).executeAll requests (w, log) = ⟨(o.world, log ++ commands), o.events, o.value⟩) ∧
    ∀ c' requests', List.Forall₂ (Commands.Alike c c') requests requests' →
      (c'.transport run.recording).executeAll requests' (w, log) =
        (c.transport run.recording).executeAll requests (w, log) := by
  obtain ⟨commands, o, h⟩ := c.exists_serves run requests w
  refine ⟨fun _ _ => Commands.render_eq_ok_iff w, fun _ _ _ => Commands.render_eq_error_iff w,
    ⟨commands, o, h, h.executeAll_eq, h.executeAll_recording log⟩, fun c' requests' ha => ?_⟩
  rw [Commands.executeAll_eq_of_alike ha]

/-- A GET that carries a text and one that does not, the second under a POST template without tokens, with two files;
and two POSTs of a text, the second under a GET template without tokens. The runner counts its runs and fails each. -/
theorem requests_run_what_renders_alike :
    let c : Commands := ⟨"fetch %u", "send %p %u"⟩
    let c' : Commands := ⟨"fetch %u", "broken"⟩
    let c'' : Commands := ⟨"broken", "send %p %u"⟩
    let run : Runner Nat := fun command n => ⟨n + 1, [], some (.error (.subprocess command))⟩
    let requests : List Request := [⟨.get, "http://h/%p", [], .text "x"⟩, ⟨.get, "", [], .file [0x2F] 3⟩]
    let requests' : List Request := [⟨.get, "http://h/%p", [("a", "b")], .empty⟩, ⟨.post, "u", [], .file [] 0⟩]
    let posts : List Request := [⟨.post, "http://h/%p", [], .text "%u"⟩, ⟨.post, "u", [], .empty⟩]
    let posts' : List Request := [⟨.post, "http://h/%p", [("a", "b")], .text "%u"⟩, ⟨.post, "u", [], .text ""⟩]
    List.Forall₂ (Commands.Alike c c') requests requests' ∧
      (c.transport run.recording).executeAll requests (0, []) =
        ⟨(1, ["fetch http://h/%p"]), [], some [.error (.subprocess "fetch http://h/%p"), .error .noUpload]⟩ ∧
      (c'.transport run.recording).executeAll requests' (0, []) =
        (c.transport run.recording).executeAll requests (0, []) ∧
      List.Forall₂ (Commands.Alike c c'') posts posts' ∧
      (c.transport run.recording).executeAll posts (0, []) =
        ⟨(2, ["send %u http://h/%p", "send  u"]), [],
          some [.error (.subprocess "send %u http://h/%p"), .error (.subprocess "send  u")]⟩ ∧
      (c''.transport run.recording).executeAll posts' (0, []) =
        (c.transport run.recording).executeAll posts (0, []) := by
  intro c c' c'' run requests requests' posts posts'
  have hb : ∀ r : Request, r.body = .empty ∨ r.body = .text "x" → r.Fileless := by
    rintro r (h | h) path length <;> simp [h]
  have ha : List.Forall₂ (Commands.Alike c c') requests requests' :=
    .cons (.get (hb _ (.inr rfl)) (hb _ (.inl rfl)) rfl rfl rfl rfl) (.cons (.file rfl rfl) .nil)
  have ha' : List.Forall₂ (Commands.Alike c c'') posts posts' :=
    .cons (.post (.text "%u") (.text "%u") rfl rfl rfl rfl) (.cons (.post .empty (.text "") rfl rfl rfl rfl) .nil)
  have ht : GetText "fetch %u".toList "http://h/%p".toList "fetch http://h/%p".toList :=
    getText_of_firstAt (i := 6) ⟨by decide, by decide⟩ (by decide)
  have hp : ∀ url text command : List Char, command = substituteBoth "send %p %u".toList 8 url 5 text →
      PostText "send %p %u".toList url text command := fun _ _ _ h =>
    postText_of_firstAt ⟨by decide, by decide⟩ ⟨by decide, by decide⟩ h
  have hs : c.Serves run requests 0 ["fetch http://h/%p"] _ :=
    .ran (.get (hb _ (.inr rfl)) rfl ht) rfl (.refused (.file rfl) (.nil _))
  have hs' : c.Serves run posts 0 ["send %u http://h/%p", "send  u"] _ :=
    .ran (.post rfl (.text "%u") (hp _ _ _ (by decide))) rfl
      (.ran (.post rfl .empty (hp _ _ _ (by decide))) rfl (.nil _))
  exact ⟨ha, hs.executeAll_recording [], (requests_run_what_renders c run requests 0 []).2.2.2 c' requests' ha,
    ha', hs'.executeAll_recording [], (requests_run_what_renders c run posts 0 []).2.2.2 c'' posts' ha'⟩

end Courier
