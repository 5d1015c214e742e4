import Courier.Proofs.Text.Case
import Courier.Proofs.Transport.Uploading

/-!
# The headers of a request

* `Named` : a header of a name, in any capitalisation; `header?_eq`, `header?_eq_none_iff` : the first of them is what a
  request tells;
* `Request.Uploads`, `Library.Ready` : requests that post a file, and requests that can be sent;
* `Library.addedHeaders` : what is added behind the headers of a request, by its method and body; `headers_errand`,
  `headers_uploadErrand`;
* `countP_sent`, `find?_sent` : the content types among the headers that are sent;
* `prepare_beside`, `execute_sent` : the stages of a request, whose errand has these headers;
* `posted_texts_are_labelled` : what is sent for any request.
-/

namespace Courier
variable {σ : Type}

/-- A header of the name, in any capitalisation. -/
def Named (name : String) (h : String × String) : Prop :=
  Respelled h.1.toList name.toList

instance (name : String) : DecidablePred (Named name) := fun _ => inferInstanceAs (Decidable (Respelled _ _))

namespace Request

theorem header?_eq (r : Request) (name : String) : r.header? name = (r.headers.find? (Named name ·)).map Prod.snd := by
  unfold header?
  congr 2
  funext h
  rw [Bool.eq_iff_iff, sameLetters_iff, decide_eq_true_iff]
  rfl

theorem header?_eq_none_iff {r : Request} {name : String} :
    r.header? name = none ↔ ∀ h ∈ r.headers, ¬ Named name h := by
  rw [header?_eq, Option.map_eq_none_iff, List.find?_eq_none]
  simp only [decide_eq_true_iff]

/-- The request posts the first `length` bytes of the file at `path`. -/
def Uploads (r : Request) (path : Bytes) (length : Nat) : Prop :=
  r.method = .post ∧ r.body = .file path length

/-- The request posts a text. -/
def PostsText (r : Request) : Prop :=
  r.method = .post ∧ ∃ text, r.body = .text text

end Request

namespace Library

/-- The headers added behind those of a request. -/
def addedHeaders (r : Request) : List (String × String) :=
  match r.method, r.body with
  | .post, .text _ =>
    if ∀ h ∈ r.headers, ¬ Named "content-type" h then [("Content-Type", "application/x-www-form-urlencoded")] else []
  | .post, .file _ length => [("Content-Length", toString length)]
  | _, _ => []

/-- All headers that are put on a request here. -/
def sentHeaders (r : Request) : List (String × String) :=
  ("User-Agent", "liboauth-agent/0.1.0") :: r.headers ++ addedHeaders r

theorem headers_errand {r : Request} (hr : ∀ path length, ¬ r.Uploads path length) :
    (errand r).headers = sentHeaders r := by
  obtain ⟨method, url, headers, body⟩ := r
  unfold sentHeaders errand addedHeaders
  cases method with
  | get => exact (List.append_nil _).symm
  | post =>
    cases body with
    | empty => exact (List.append_nil _).symm
    | file path length => exact absurd ⟨rfl, rfl⟩ (hr path length)
    | text text =>
      have hnone : Request.header? ⟨.post, url, headers, .text text⟩ "content-type" = none ↔
          ∀ h ∈ headers, ¬ Named "content-type" h := Request.header?_eq_none_iff
      dsimp only
      by_cases hn : ∀ h ∈ headers, ¬ Named "content-type" h
      · rw [if_pos hn, if_pos (Option.isNone_iff_eq_none.2 (hnone.2 hn))]
        rfl
      · rw [if_neg hn, if_neg fun h => hn (hnone.1 (Option.isNone_iff_eq_none.1 h))]
        rfl

theorem headers_uploadErrand {r : Request} {path : Bytes} {length : Nat} (hr : r.Uploads path length)
    (file : OpenFile) : (uploadErrand r length file).headers = sentHeaders r := by
  obtain ⟨method, url, headers, body⟩ := r
  obtain ⟨rfl, rfl⟩ : method = .post ∧ body = .file path length := hr
  rfl

/-! ## Content types -/

theorem not_named_agent : ¬ Named "content-type" ("User-Agent", "liboauth-agent/0.1.0") := by decide

theorem addedHeaders_of_text {r : Request} (hr : r.PostsText) : addedHeaders r =
    if ∀ h ∈ r.headers, ¬ Named "content-type" h then [("Content-Type", "application/x-www-form-urlencoded")]
    else [] := by
  obtain ⟨hm, text, hb⟩ := hr
  unfold addedHeaders
  rw [hm, hb]

theorem not_named_added {r : Request} (hr : ¬ r.PostsText) : ∀ h ∈ addedHeaders r, ¬ Named "content-type" h := by
  obtain ⟨method, url, headers, body⟩ := r
  intro h hh
  unfold addedHeaders at hh
  cases method with
  | get => cases hh
  | post =>
    cases body with
    | empty => cases hh
    | text text => exact absurd ⟨rfl, text, rfl⟩ hr
    | file path length =>
      rw [List.mem_singleton.1 hh]
      show ¬ Respelled "Content-Length".toList "content-type".toList
      decide

theorem countP_sent (r : Request) : (sentHeaders r).countP (Named "content-type" ·) =
    r.headers.countP (Named "content-type" ·) + (addedHeaders r).countP (Named "content-type" ·) := by
  unfold sentHeaders
  rw [List.countP_append, List.countP_cons_of_neg (by simpa using not_named_agent)]

theorem countP_sent_of_not_text {r : Request} (hr : ¬ r.PostsText) :
    (sentHeaders r).countP (Named "content-type" ·) = r.headers.countP (Named "content-type" ·) := by
  have h0 : (addedHeaders r).countP (Named "content-type" ·) = 0 := by
    rw [List.countP_eq_zero]
    simpa using not_named_added hr
  rw [countP_sent, h0, Nat.add_zero]

theorem countP_sent_of_text {r : Request} (hr : r.PostsText) :
    (sentHeaders r).countP (Named "content-type" ·) = max 1 (r.headers.countP (Named "content-type" ·)) := by
  rw [countP_sent, addedHeaders_of_text hr]
  split_ifs with hn
  · have h0 : r.headers.countP (Named "content-type" ·) = 0 := by
      rw [List.countP_eq_zero]
      simpa using hn
    have h1 : [("Content-Type", "application/x-www-form-urlencoded")].countP (Named "content-type" ·) = 1 := by decide
    rw [h0, h1]
    rfl
  · have hpos : 0 < r.headers.countP (Named "content-type" ·) := by
      rw [List.countP_pos_iff]
      push Not at hn
      simpa using hn
    rw [List.countP_nil]
    omega

theorem find?_sent {r : Request} (hr : r.PostsText) :
    ((sentHeaders r).find? (Named "content-type" ·)).map Prod.snd =
      some ((r.header? "content-type").getD "application/x-www-form-urlencoded") := by
  unfold sentHeaders
  rw [List.cons_append, List.find?_cons_of_neg (by simpa using not_named_agent), List.find?_append,
    addedHeaders_of_text hr]
  cases hf : r.header? "content-type" with
  | none =>
    have hn := Request.header?_eq_none_iff.1 hf
    rw [if_pos hn, List.find?_eq_none.2 (by simpa using hn)]
    rfl
  | some value =>
    rw [Request.header?_eq] at hf
    obtain ⟨h, hh, rfl⟩ := Option.map_eq_some_iff.1 hf
    rw [hh]
    rfl

/-! ## The stages of a request -/

/-- The request can be sent: it posts no file, or one that can be opened and is as long as declared. -/
inductive Ready (files : FileAccess σ) (w : σ) (r : Request) : Prop
  | plain : (∀ path length, ¬ r.Uploads path length) → Ready files w r
  | upload {path : Bytes} {length : Nat} {es : List Event} {w' : σ} {file : OpenFile} : r.Uploads path length →
      files.openFile path w = ⟨w', es, some (.ok file)⟩ → length ≤ file.size → Ready files w r

theorem Ready.exists_file {files : FileAccess σ} {w : σ} {r : Request} (h : Ready files w r) {path : Bytes}
    {length : Nat} (hr : r.Uploads path length) :
    ∃ es w' file, files.openFile path w = ⟨w', es, some (.ok file)⟩ ∧ length ≤ file.size := by
  cases h with
  | plain h => exact absurd hr (h path length)
  | upload hr' hopen hle =>
    obtain ⟨rfl, rfl⟩ : path = _ ∧ length = _ := by simpa using hr.2.symm.trans hr'.2
    exact ⟨_, _, _, hopen, hle⟩

theorem prepareUpload_beside (files : FileAccess σ) {r : Request} {path : Bytes} {length : Nat}
    (hr : r.Uploads path length) (w : σ) (log : List Errand) :
    let o := prepareUpload (files.beside (List Errand)) r path length (w, log)
    o.world.2 = log ∧ (∀ e, o.value = some (.ok e) → e.headers = sentHeaders r) ∧
      (Ready files w r → ∃ e, o.value = some (.ok e)) := by
  intro o
  -- Opening the file panics, fails, or gives a file that may be too short; only the last can leave an errand.
  rcases hf : files.openFile path w with ⟨w', es, _ | result⟩
  · have ho : o = ⟨(w', log), es, none⟩ := by
      show prepareUpload _ r path length (w, log) = _
      unfold prepareUpload
      rw [Act.bind_apply]
      simp [FileAccess.beside, Act.focus, hf]
    rw [ho]
    refine ⟨rfl, by simp, fun hready => ?_⟩
    obtain ⟨_, _, _, hopen, -⟩ := hready.exists_file hr
    rw [hf] at hopen
    cases hopen
  · have ho : o = _ := Client.prepareUpload_apply files path r length hf log
    rw [ho]
    cases result with
    | error e =>
      refine ⟨rfl, by simp, fun hready => ?_⟩
      obtain ⟨_, _, _, hopen, -⟩ := hready.exists_file hr
      rw [hf] at hopen
      cases hopen
    | ok file =>
      dsimp only
      split_ifs with hlt
      · refine ⟨rfl, by simp, fun hready => ?_⟩
        obtain ⟨_, _, _, hopen, hle⟩ := hready.exists_file hr
        rw [hf] at hopen
        cases hopen
        omega
      · refine ⟨rfl, fun e he => ?_, fun _ => ⟨_, rfl⟩⟩
        cases he
        exact headers_uploadErrand hr file

theorem prepare_beside (files : FileAccess σ) (r : Request) (w : σ) (log : List Errand) :
    let o := prepare (files.beside (List Errand)) r (w, log)
    o.world.2 = log ∧ (∀ e, o.value = some (.ok e) → e.headers = sentHeaders r) ∧
      (Ready files w r → ∃ e, o.value = some (.ok e)) := by
  by_cases hu : ∃ path length, r.Uploads path length
  · obtain ⟨path, length, hr⟩ := hu
    have hp : prepare (files.beside (List Errand)) r = prepareUpload (files.beside _) r path length := by
      unfold prepare
      rw [hr.1, hr.2]
    rw [hp]
    exact prepareUpload_beside files hr w log
  · have hn : ∀ path length, ¬ r.Uploads path length := fun path length h => hu ⟨path, length, h⟩
    have hp : prepare (files.beside (List Errand)) r = pure (.ok (errand r)) := by
      unfold prepare
      split
      · next path length hm hb => exact absurd ⟨hm, hb⟩ (hn path length)
      · rfl
    rw [hp]
    refine ⟨rfl, fun e he => ?_, fun _ => ⟨_, rfl⟩⟩
    cases he
    exact headers_errand hn

/-- At most one errand is run for a request, and it has the headers of the request. -/
theorem execute_sent (files : FileAccess σ) (send : Agent σ) (r : Request) (w : σ) (log : List Errand) :
    ∃ sent, ((transport (files.beside _) send.recording).execute r (w, log)).world.2 = log ++ sent ∧
      sent.length ≤ 1 ∧ (Ready files w r → sent.length = 1) ∧ ∀ e ∈ sent, e.headers = sentHeaders r := by
  obtain ⟨hlog, hheaders, hready⟩ := prepare_beside files r w log
  unfold transport
  dsimp only
  rw [Act.bind_of_eq (Act.report_apply _ _), Act.bind_apply]
  rcases hp : prepare (files.beside (List Errand)) r (w, log) with ⟨⟨w', log'⟩, es, value⟩
  rw [hp] at hlog hheaders hready
  obtain rfl : log' = log := hlog
  rcases value with _ | f | e
  · exact ⟨[], (List.append_nil _).symm, Nat.zero_le 1, fun h => by simpa using hready h, by simp⟩
  · exact ⟨[], (List.append_nil _).symm, Nat.zero_le 1, fun h => by simpa using hready h, by simp⟩
  · refine ⟨[e], ?_, Nat.le_refl 1, fun _ => rfl, ?_⟩
    · dsimp only
      rw [perform_world, Agent.recording_world]
    · intro e' he'
      rw [List.mem_singleton.1 he']
      exact hheaders e rfl

/-- **A text that is posted has a content type, and the caller's is not overridden.** What is sent for a request has the
program's name, the headers of the request in order, and what `addedHeaders` adds. So a posted text has as many content
types as the request, in any capitalisation, and one if that has none; the first of them is the one the request tells,
if it tells one. No other request gains one. -/
theorem posted_texts_are_labelled (files : FileAccess σ) (send : Agent σ) (r : Request) (w : σ) (log : List Errand) :
    ∃ sent, ((transport (files.beside _) send.recording).execute r (w, log)).world.2 = log ++ sent ∧
      sent.length ≤ 1 ∧ (Ready files w r → sent.length = 1) ∧
      ∀ e ∈ sent, e.headers = ("User-Agent", "liboauth-agent/0.1.0") :: r.headers ++ addedHeaders r ∧
        (r.PostsText →
          e.headers.countP (Named "content-type" ·) = max 1 (r.headers.countP (Named "content-type" ·)) ∧
          (e.headers.find? (Named "content-type" ·)).map Prod.snd =
            some ((r.header? "content-type").getD "application/x-www-form-urlencoded")) ∧
        (¬ r.PostsText →
          e.headers.countP (Named "content-type" ·) = r.headers.countP (Named "content-type" ·)) := by
  obtain ⟨sent, hsent, hone, hready, hheaders⟩ := execute_sent files send r w log
  refine ⟨sent, hsent, hone, hready, fun e he => ?_⟩
  rw [hheaders e he]
  exact ⟨rfl, fun hr => ⟨countP_sent_of_text hr, find?_sent hr⟩, countP_sent_of_not_text⟩

/-- A text with two content types, oddly spelt, one with a name that only starts like that, and a file without one. -/
theorem posted_texts_are_labelled_spelt :
    let files : FileAccess Unit := ⟨fun _ => pure (.ok 3), fun _ => pure (.ok ⟨3, [.data [1, 2, 3]]⟩)⟩
    let send : Agent Unit := fun _ => pure (.error "refused")
    let sent (r : Request) := ((transport (files.beside _) send.recording).execute r ((), [])).world.2
    let spelt : Request := ⟨.post, "u", [("CONTENT-type", "a"), ("x", "y"), ("content-TYPE", "b")], .text "t"⟩
    let bare : Request := ⟨.post, "u", [("content-type2", "a")], .text "t"⟩
    let file : Request := ⟨.post, "u", [], .file [0x66] 2⟩
    (∃ e, sent spelt = [e] ∧ e.headers.countP (Named "content-type" ·) = 2 ∧
      (e.headers.find? (Named "content-type" ·)).map Prod.snd = some "a") ∧
    (∃ e, sent bare = [e] ∧ e.headers = [("User-Agent", "liboauth-agent/0.1.0"), ("content-type2", "a"),
      ("Content-Type", "application/x-www-form-urlencoded")]) ∧
    ∃ e, sent file = [e] ∧ e.headers = [("User-Agent", "liboauth-agent/0.1.0"), ("Content-Length", "2")] ∧
      e.headers.countP (Named "content-type" ·) = 0 := by
  intro files send sent spelt bare file
  have htext : spelt.PostsText ∧ bare.PostsText := ⟨⟨rfl, "t", rfl⟩, rfl, "t", rfl⟩
  have hfile : ¬ file.PostsText := by
    rintro ⟨-, text, h⟩
    cases h
  have hspelt : Ready files () spelt := .plain fun path length h => by cases h.2
  have hbare : Ready files () bare := .plain fun path length h => by cases h.2
  have huploads : file.Uploads [0x66] 2 := ⟨rfl, rfl⟩
  have hready : Ready files () file := .upload huploads rfl (by decide)
  obtain ⟨a, ha, -, ha₁, hall⟩ := posted_texts_are_labelled files send spelt () []
  obtain ⟨b, hb, -, hb₁, hbll⟩ := posted_texts_are_labelled files send bare () []
  obtain ⟨c, hc, -, hc₁, hcll⟩ := posted_texts_are_labelled files send file () []
  obtain ⟨x, rfl⟩ := List.length_eq_one_iff.1 (ha₁ hspelt)
  obtain ⟨y, rfl⟩ := List.length_eq_one_iff.1 (hb₁ hbare)
  obtain ⟨z, rfl⟩ := List.length_eq_one_iff.1 (hc₁ hready)
  obtain ⟨-, hx, -⟩ := hall x (List.mem_singleton_self x)
  obtain ⟨hy, -, -⟩ := hbll y (List.mem_singleton_self y)
  obtain ⟨hz, -, hcount⟩ := hcll z (List.mem_singleton_self z)
  refine ⟨⟨x, ha, (hx htext.1).1, (hx htext.1).2⟩, ⟨y, hb, ?_⟩, z, hc, hz, hcount hfile⟩
  rw [hy]
  decide

end Library

end Courier
