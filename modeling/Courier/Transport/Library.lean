import Courier.Transport.Basic
import Courier.Setting

/-!
# The library transport

Performs requests with an HTTP agent in this process. A reply is returned whatever its status, and redirects are not
followed: the agent is asked for one exchange per request, and the body of the first response is the reply. The agent
is built for that (`Library.settings`): another would follow redirects, or drop the body of an error.
-/

namespace Courier

/-- What an agent is given to send. -/
inductive Payload where
  | none
  | bytes (bs : Bytes)
  /-- Read while it is sent. -/
  | stream (source : Source)
  deriving DecidableEq, Repr

/-- One exchange an agent is asked for. The headers are those put on the request here; an agent adds its own. -/
structure Errand where
  method : Method
  url : String
  headers : List (String × String)
  payload : Payload
  deriving DecidableEq, Repr

/-- A response: its head, and what reading its body will give. -/
structure Response where
  status : Nat
  headers : List (String × String)
  body : Source

/-- Performs one exchange, or tells why there was no response. -/
abbrev Agent (σ : Type) := Errand → Act σ (Except String Response)

/-- The agent that also keeps each errand it is given, the last one at the end. -/
def Agent.recording {σ : Type} (send : Agent σ) : Agent (σ × List Errand) := fun e => do
  Act.step fun w => ((), (w.1, w.2 ++ [e]))
  (send e).focus Prod.fst fun s w => (s, w.2)

/-- What an agent does with a response that is an error or a redirect, before it hands one over. -/
structure AgentSettings where
  /-- Whether an error status is a failure. -/
  statusFails : Bool
  maxRedirects : Nat
  /-- Whether it is a failure to be redirected once more than `maxRedirects`. -/
  redirectFails : Bool
  deriving DecidableEq, Repr

abbrev AgentMaker (σ : Type) := AgentSettings → Agent σ

/-- A file that was opened: its size, and what reading it will give. -/
structure OpenFile where
  size : Nat
  contents : Source

/-- The files of the host. -/
structure FileAccess (σ : Type) where
  size : Bytes → Act σ (Except IoFault Nat)
  openFile : Bytes → Act σ (Except IoFault OpenFile)

/-- The same files in a world with more in it. -/
def FileAccess.beside {σ : Type} (τ : Type) (files : FileAccess σ) : FileAccess (σ × τ) where
  size path := (files.size path).focus Prod.fst fun s w => (s, w.2)
  openFile path := (files.openFile path).focus Prod.fst fun s w => (s, w.2)

namespace Source

/-- The first `n` bytes a source hands out. -/
def take : Nat → Source → Source
  | 0, _ => []
  | _ + 1, [] => []
  | n + 1, .data bs :: rest => .data (bs.take (n + 1)) :: take (n + 1 - bs.length) rest
  | _ + 1, .ended :: _ => []
  | n + 1, .failed e :: rest => .failed e :: take (n + 1) rest

end Source

namespace Library

/-- The content type of a text that is posted, where the caller gives none. -/
def formContentType : String := "application/x-www-form-urlencoded"

def baseHeaders (r : Request) : List (String × String) :=
  ("User-Agent", Setting.userAgent) :: r.headers

/-- The errand for a request that carries no file. -/
def errand (r : Request) : Errand :=
  match r.method, r.body with
  | .get, _ => ⟨.get, r.url, baseHeaders r, .none⟩
  | .post, .text text =>
    let contentType := if (r.header? "content-type").isNone then [("Content-Type", formContentType)] else []
    ⟨.post, r.url, baseHeaders r ++ contentType, .bytes (Utf8.encode text.toList)⟩
  | .post, _ => ⟨.post, r.url, baseHeaders r, .bytes []⟩

/-- The errand that posts the first `length` bytes of an open file. -/
def uploadErrand (r : Request) (length : Nat) (file : OpenFile) : Errand :=
  ⟨.post, r.url, baseHeaders r ++ [("Content-Length", toString length)], .stream (file.contents.take length)⟩

def tooShort (available length : Nat) : IoFault :=
  .described .unexpectedEof s!"file has {available} bytes, {length} declared"

variable {σ : Type}

/-- Opens the file a request carries and checks that it is long enough. The declared length is a promise to
the peer, who would wait for the rest of a short file. -/
def prepareUpload (files : FileAccess σ) (r : Request) (path : Bytes) (length : Nat) :
    Act σ (Except Failure Errand) := do
  match ← files.openFile path with
  | .error e => pure (.error (.unreadableFile path e))
  | .ok file =>
    if file.size < length then
      Act.report (.uploadTooShort path file.size length)
      pure (.error (.unreadableFile path (tooShort file.size length)))
    else pure (.ok (uploadErrand r length file))

def prepare (files : FileAccess σ) (r : Request) : Act σ (Except Failure Errand) :=
  match r.method, r.body with
  | .post, .file path length => prepareUpload files r path length
  | _, _ => pure (.ok (errand r))

def readFailure (e : IoFault) : Failure :=
  .transport ("reading reply: " ++ e.message)

/-- Runs an errand and reads the reply. -/
def perform (send : Agent σ) (url : String) (e : Errand) : Act σ Reply := do
  match ← send e with
  | .error reason => pure (.error (.transport reason))
  | .ok response =>
    if !Wire.isSuccess response.status then
      Act.report (.unsuccessfulStatus response.status url)
    pure (readAll plenty readFailure response.body).reply

/-- The transport that uses an agent. -/
def transport (files : FileAccess σ) (send : Agent σ) : Transport σ where
  name := "library"
  uploads := true
  execute r := do
    Act.report (.sending r.method r.url)
    match ← prepare files r with
    | .error f => pure (.error f)
    | .ok e => perform send r.url e

/-- The settings of the transport's agent: a response is handed over whatever its status, and none is followed. -/
def settings : AgentSettings := ⟨false, 0, false⟩

def connect (files : FileAccess σ) (make : AgentMaker σ) : Transport σ :=
  transport files (make settings)

/-- How the transport shows itself in diagnostics. -/
def debugText : String := "LibraryTransport \x7b .. \x7d"

end Library

end Courier
