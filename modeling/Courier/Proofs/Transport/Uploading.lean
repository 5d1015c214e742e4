import Courier.Client
import Courier.Proofs.Buffer.Reading

/-!
# Posting a file in this process

The length of an upload is settled before the file is opened, and the file can change in between.

* `Source.delivered_take`, `Source.ending_take` : a source that is cut off after `n` bytes;
* `Declares` : the length that a call declares, and the world in which it is known;
* `Opens` : the contents of a file when it is opened, to which more may be added while it is read;
* `Errand.Uploads` : the errand that posts the first bytes of a file under their number;
* `upload_sends_declared_length` : what a call sends, and when it sends nothing.
-/

namespace Courier
variable {σ : Type}

/-! ## A source that is cut off -/

namespace Source

theorem take_zero (s : Source) : take 0 s = [] := by
  cases s <;> rfl

theorem delivered_take (n : Nat) (s : Source) : (take n s).delivered = s.delivered.take n := by
  induction s generalizing n with
  | nil => cases n <;> simp [take, delivered]
  | cons d s ih =>
    cases n with
    | zero => rw [take_zero, List.take_zero]; rfl
    | succ n =>
      cases d with
      | ended => rw [take, delivered_cons_of_stops Delivery.stops_ended]; rfl
      | failed e =>
        rw [take]
        cases he : (Delivery.failed e).stops with
        | true => rw [delivered_cons_of_stops he, delivered_cons_of_stops he, List.take_nil]
        | false =>
          rw [delivered_cons he, delivered_cons he, ih]
          rfl
      | data bs =>
        rw [take]
        cases bs with
        | nil => rfl
        | cons b bs =>
          have hs : (Delivery.data (b :: bs)).stops = false := rfl
          have ht : (Delivery.data ((b :: bs).take (n + 1))).stops = false := rfl
          rw [delivered_cons ht, delivered_cons hs, ih, Delivery.bytes, Delivery.bytes, List.take_append]

/-- No fault is met before the last of the bytes, so none is met at all. -/
theorem ending_take {n : Nat} {s : Source} (h : n ≤ s.delivered.length) : (take n s).ending = none := by
  induction s generalizing n with
  | nil => cases n <;> rfl
  | cons d s ih =>
    cases n with
    | zero => rw [take_zero]; rfl
    | succ n =>
      cases hd : d.stops with
      | true =>
        rw [delivered_cons_of_stops hd] at h
        cases h
      | false =>
        rw [delivered_cons hd, List.length_append] at h
        cases d with
        | ended => cases hd
        | failed e =>
          rw [take, ending_cons hd]
          refine ih ?_
          simpa [Delivery.bytes] using h
        | data bs =>
          have ht : (Delivery.data (bs.take (n + 1))).stops = false := by
            cases bs with
            | nil => cases hd
            | cons b bs => rfl
          rw [take, ending_cons ht]
          refine ih ?_
          change n + 1 ≤ bs.length + _ at h
          omega

end Source

/-! ## The file -/

/-- What a call that asks for `n` bytes of a file declares: that number, or the size of the file in the world of the call
if it is zero. The world is left as finding this out leaves it. -/
inductive Declares (files : FileAccess σ) (path : Bytes) (w : σ) : Nat → Nat → List Event → σ → Prop
  | given {n : Nat} : 0 < n → Declares files path w n n [] w
  | whole {contents : Bytes} {es : List Event} {w' : σ} :
      files.size path w = ⟨w', es, some (.ok contents.length)⟩ → Declares files path w 0 contents.length es w'

/-- Opening a file finds `contents`, and no part of them is lost before it is read. -/
def Opens (files : FileAccess σ) (path : Bytes) (w : σ) (contents : Bytes) (es : List Event) (w' : σ) : Prop :=
  ∃ file, files.openFile path w = ⟨w', es, some (.ok file)⟩ ∧ file.size = contents.length ∧
    contents <+: file.contents.delivered

/-- An errand that posts the first `N` bytes of a file, and declares that number. -/
structure Errand.Uploads (e : Errand) (url : String) (contentType : Option String) (N : Nat) (contents : Bytes) :
    Prop where
  method : e.method = .post
  url : e.url = url
  headers : e.headers = [("User-Agent", "liboauth-agent/0.1.0"), ("content-type", contentType.getD "image/jpeg"),
    ("Content-Length", toString N)]
  body : ∃ source, e.payload = .stream source ∧ source.delivered = contents.take N ∧ source.ending = none
  length : (contents.take N).length = N

theorem uploads_uploadErrand {url : String} {path : Bytes} {contentType : Option String} {N : Nat} {file : OpenFile}
    {contents : Bytes} (hc : contents <+: file.contents.delivered) (hN : N ≤ contents.length) :
    (Library.uploadErrand (.upload url path N contentType) N file).Uploads url contentType N contents where
  method := rfl
  url := rfl
  headers := rfl
  body := by
    have hl := hc.length_le
    have ht : file.contents.delivered.take N = contents.take N := by
      obtain ⟨more, hm⟩ := hc
      rw [← hm, List.take_append_of_le_length hN]
    exact ⟨_, rfl, by rw [Source.delivered_take, ht], Source.ending_take (by omega)⟩
  length := by
    rw [List.length_take]
    omega

/-! ## The call -/

namespace Client

/-- The client that sends with an agent, in a world that also keeps the errands the agent is given. -/
def sending (files : FileAccess σ) (send : Agent σ) : Client (σ × List Errand) :=
  ⟨Library.transport (files.beside _) send.recording, files.beside _⟩

section Sending
variable (files : FileAccess σ) (send : Agent σ) (url : String) (path : Bytes) (contentType : Option String)

theorem postFile_sending (n : Nat) :
    (sending files send).postFile url path n contentType = (sending files send).uploadLength path n >>= fun
      | .error f => pure (.error f)
      | .ok N => (sending files send).transport.execute (.upload url path N contentType) := rfl

theorem uploadLength_sending {n N : Nat} {es : List Event} {w w' : σ} (h : Declares files path w n N es w')
    (log : List Errand) : (sending files send).uploadLength path n (w, log) = ⟨(w', log), es, some (.ok N)⟩ := by
  unfold uploadLength
  cases h with
  | given hn => rw [if_neg (by omega)]; rfl
  | whole hs =>
    rw [if_pos rfl, Act.bind_apply]
    simp [sending, FileAccess.beside, Act.focus, hs, Except.mapError]

theorem uploadLength_sending_error {es : List Event} {w w' : σ} {e : IoFault}
    (h : files.size path w = ⟨w', es, some (.error e)⟩) (log : List Errand) :
    (sending files send).uploadLength path 0 (w, log) = ⟨(w', log), es, some (.error (.unreadableFile path e))⟩ := by
  unfold uploadLength
  rw [if_pos rfl, Act.bind_apply]
  simp [sending, FileAccess.beside, Act.focus, h, Except.mapError]

theorem execute_sending (N : Nat) :
    (sending files send).transport.execute (.upload url path N contentType) =
      Act.report (.sending .post url) >>= fun _ =>
        Library.prepareUpload (files.beside _) (.upload url path N contentType) path N >>= fun
          | .error f => pure (.error f)
          | .ok e => Library.perform send.recording url e := rfl

theorem prepareUpload_apply (r : Request) (N : Nat) {es : List Event} {w w' : σ} {result : Except IoFault OpenFile}
    (h : files.openFile path w = ⟨w', es, some result⟩) (log : List Errand) :
    Library.prepareUpload (files.beside _) r path N (w, log) =
      match result with
      | .error e => ⟨(w', log), es, some (.error (.unreadableFile path e))⟩
      | .ok file =>
        if file.size < N then
          ⟨(w', log), es ++ [.uploadTooShort path file.size N],
            some (.error (.unreadableFile path (Library.tooShort file.size N)))⟩
        else ⟨(w', log), es, some (.ok (Library.uploadErrand r N file))⟩ := by
  unfold Library.prepareUpload
  rw [Act.bind_apply]
  simp only [FileAccess.beside, Act.focus, h]
  cases result with
  | error e => simp
  | ok file =>
    dsimp only
    split_ifs
    · simp [Act.bind_apply]
    · simp

/-- A call whose file is opened: what opens it decides whether anything is sent. -/
theorem postFile_apply {n N : Nat} {es es₂ : List Event} {w w₁ w₂ : σ} {result : Except IoFault OpenFile}
    (hn : Declares files path w n N es w₁) (ho : files.openFile path w₁ = ⟨w₂, es₂, some result⟩) (log : List Errand) :
    (sending files send).postFile url path n contentType (w, log) =
      match result with
      | .error e => ⟨(w₂, log), es ++ .sending .post url :: es₂, some (.error (.unreadableFile path e))⟩
      | .ok file =>
        if file.size < N then
          ⟨(w₂, log), es ++ .sending .post url :: (es₂ ++ [.uploadTooShort path file.size N]),
            some (.error (.unreadableFile path (Library.tooShort file.size N)))⟩
        else
          let o := Library.perform send.recording url (Library.uploadErrand (.upload url path N contentType) N file)
            (w₂, log)
          ⟨o.world, es ++ .sending .post url :: (es₂ ++ o.events), o.value⟩ := by
  rw [postFile_sending, Act.bind_apply, uploadLength_sending files send path hn]
  dsimp only
  rw [execute_sending, Act.bind_apply, Act.report_apply]
  dsimp only
  rw [Act.bind_apply, prepareUpload_apply files path _ N ho]
  cases result with
  | error e => simp
  | ok file =>
    dsimp only
    split_ifs <;> simp

end Sending

end Client

theorem Library.perform_world (send : Agent σ) (url : String) (e : Errand) (w : σ) :
    (perform send url e w).world = (send e w).world := by
  unfold perform
  rw [Act.bind_apply]
  cases (send e w).value with
  | none => rfl
  | some result =>
    cases result with
    | error reason => rfl
    | ok response =>
      dsimp only
      split_ifs <;> rfl

theorem Agent.recording_world (send : Agent σ) (e : Errand) (w : σ) (log : List Errand) :
    (send.recording e (w, log)).world = ((send e w).world, log ++ [e]) := by
  unfold recording
  rw [Act.bind_apply]
  rfl

/-- **An upload sends as many bytes as it declares, or nothing.** The number is the one the call gives, or the size of
the file if that is zero. If the size cannot be found, or the file cannot be opened, or is shorter when it is opened, the
call fails and no errand is run; else the agent is given one errand, the file's first bytes under that number. What the
file holds can change between the two looks at it, and more can be added to it later. -/
theorem upload_sends_declared_length (files : FileAccess σ) (send : Agent σ) (url : String) (path : Bytes) (n : Nat)
    (contentType : Option String) (w : σ) (log : List Errand) :
    let post := (Client.sending files send).postFile url path n contentType (w, log)
    (∀ es w₁ e, n = 0 → files.size path w = ⟨w₁, es, some (.error e)⟩ →
      post = ⟨(w₁, log), es, some (.error (.unreadableFile path e))⟩) ∧
    ∀ N es w₁, Declares files path w n N es w₁ →
      (∀ es₂ w₂ e, files.openFile path w₁ = ⟨w₂, es₂, some (.error e)⟩ →
        post = ⟨(w₂, log), es ++ .sending .post url :: es₂, some (.error (.unreadableFile path e))⟩) ∧
      ∀ contents es₂ w₂, Opens files path w₁ contents es₂ w₂ →
        (contents.length < N → ∃ cause, cause.kind = .unexpectedEof ∧
          post = ⟨(w₂, log), es ++ .sending .post url :: (es₂ ++ [.uploadTooShort path contents.length N]),
            some (.error (.unreadableFile path cause))⟩) ∧
        (N ≤ contents.length → ∃ e : Errand, e.Uploads url contentType N contents ∧
          post.world = ((send e w₂).world, log ++ [e])) := by
  intro post
  refine ⟨fun es w₁ e h0 h => ?_, fun N es w₁ hn => ⟨fun es₂ w₂ e ho => ?_, ?_⟩⟩
  · subst h0
    show (Client.sending files send).postFile url path 0 contentType (w, log) = _
    rw [Client.postFile_sending, Act.bind_apply, Client.uploadLength_sending_error files send path h]
    simp
  · exact Client.postFile_apply files send url path contentType hn ho log
  · rintro contents es₂ w₂ ⟨file, ho, hs, hc⟩
    have hp := Client.postFile_apply files send url path contentType hn ho log
    dsimp only at hp
    constructor
    · intro hN
      rw [if_pos (by omega), hs] at hp
      exact ⟨_, rfl, hp⟩
    · intro hN
      rw [if_neg (by omega)] at hp
      let e := Library.uploadErrand (.upload url path N contentType) N file
      have hw : post.world = (Library.perform send.recording url e (w₂, log)).world := by
        show ((Client.sending files send).postFile url path n contentType (w, log)).world = _
        rw [hp]
      refine ⟨e, uploads_uploadErrand hc hN, ?_⟩
      rw [hw, Library.perform_world, Agent.recording_world]

/-- A file that grows by two bytes after its size is told, and a path that names no file. Of the whole file the bytes
that were there are sent; of a file that stays at three bytes, six cannot be. -/
theorem upload_sends_declared_length_changing :
    let files : FileAccess Bytes :=
      { size := fun path w => if path = [] then ⟨w, [], some (.error .noEntry)⟩ else ⟨w ++ [4, 5], [], some (.ok w.length)⟩
        openFile := fun path w =>
          if path = [] then ⟨w, [], some (.error .noEntry)⟩ else ⟨w, [], some (.ok ⟨w.length, [.data w]⟩)⟩ }
    let send : Agent Bytes := fun _ => pure (.error "refused")
    let client := Client.sending files send
    client.postFile "u" [] 0 none ([1, 2, 3], []) =
        ⟨([1, 2, 3], []), [], some (.error (.unreadableFile [] .noEntry))⟩ ∧
      client.postFile "u" [] 7 none ([1, 2, 3], []) =
        ⟨([1, 2, 3], []), [.sending .post "u"], some (.error (.unreadableFile [] .noEntry))⟩ ∧
      (∃ cause, cause.kind = .unexpectedEof ∧ client.postFile "u" [0x66] 6 none ([1, 2, 3], []) =
        ⟨([1, 2, 3], []), [.sending .post "u", .uploadTooShort [0x66] 3 6],
          some (.error (.unreadableFile [0x66] cause))⟩) ∧
      ∃ e : Errand, e.Uploads "u" none 3 [1, 2, 3, 4, 5] ∧
        (client.postFile "u" [0x66] 0 none ([1, 2, 3], [])).world = ([1, 2, 3, 4, 5], [e]) := by
  intro files send client
  have hw : Declares files [0x66] [1, 2, 3] 0 ([1, 2, 3] : Bytes).length [] [1, 2, 3, 4, 5] := .whole rfl
  have h3 : Opens files [0x66] [1, 2, 3] [1, 2, 3] [] [1, 2, 3] := ⟨_, rfl, rfl, by decide⟩
  have h5 : Opens files [0x66] [1, 2, 3, 4, 5] [1, 2, 3, 4, 5] [] [1, 2, 3, 4, 5] := ⟨_, rfl, rfl, by decide⟩
  exact ⟨(upload_sends_declared_length files send "u" [] 0 none [1, 2, 3] []).1 [] [1, 2, 3] .noEntry rfl rfl,
    ((upload_sends_declared_length files send "u" [] 7 none [1, 2, 3] []).2 7 [] [1, 2, 3] (.given (by decide))).1
      [] [1, 2, 3] .noEntry rfl,
    (((upload_sends_declared_length files send "u" [0x66] 6 none [1, 2, 3] []).2 6 [] [1, 2, 3]
      (.given (by decide))).2 [1, 2, 3] [] [1, 2, 3] h3).1 (by decide),
    (((upload_sends_declared_length files send "u" [0x66] 0 none [1, 2, 3] []).2 3 [] [1, 2, 3, 4, 5] hw).2
      [1, 2, 3, 4, 5] [] [1, 2, 3, 4, 5] h5).2 (by decide)⟩

end Courier
