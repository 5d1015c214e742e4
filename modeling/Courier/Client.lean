import Courier.Config
import Courier.Interpreter
import Courier.Transport.Library

/-!
# The client

The entry points for requests. A client owns one transport and hands every call to it as a `Request`; it keeps nothing
from one call to the next. `Client.callAll` has it perform several, and `Client.recording` is the same client in a world
that also keeps the requests its transport is handed.
-/

namespace Courier

/-- What a client needs of the host. -/
structure Host (σ : Type) where
  files : FileAccess σ
  spawn : Spawn σ
  /-- The agent, built with `Library.settings`. -/
  send : Agent σ

/-- The host that also keeps what it is asked to start, the last one at the end. -/
def Host.recording {σ : Type} (host : Host σ) : Host (σ × List (String × List String)) where
  files := host.files.beside _
  spawn := host.spawn.recording
  send e := (host.send e).focus Prod.fst fun s w => (s, w.2)

/-- A client: a transport, and the files of the host. -/
structure Client (σ : Type) where
  transport : Transport σ
  files : FileAccess σ

/-- The calls a client takes. -/
inductive Call where
  | get (url : String) (query : Option String)
  | post (url body : String)
  | postFile (url : String) (path : Bytes) (length : Nat) (contentType : Option String)
  deriving DecidableEq, Repr

namespace Client

variable {σ : Type}

/-- The transport of a configuration. -/
def transportOf (host : Host σ) (config : Config) : Transport σ :=
  match config.backend with
  | .library => Library.transport host.files host.send
  | .command =>
    (Commands.mk config.getCommand config.postCommand).transport (Interpreter.standard.runner host.spawn)

def configure (host : Host σ) (config : Config) : Act σ (Client σ) := do
  let transport := transportOf host config
  Act.report (.clientConfigured transport.name)
  pure ⟨transport, host.files⟩

def backend (c : Client σ) : String :=
  c.transport.name

def debugText (c : Client σ) : String :=
  "HttpClient \x7b backend: " ++ String.ofList (Text.quote c.backend.toList) ++ " \x7d"

/-- Gets a URL, with a query after it when there is one that is not empty. -/
def get (c : Client σ) (url : String) (query : Option String) : Act σ Reply :=
  c.transport.execute (.get url query)

def post (c : Client σ) (url body : String) : Act σ Reply :=
  c.transport.execute (.post url body)

/-- How many bytes of a file to send: the number asked for, or all of the file for zero. -/
def uploadLength (c : Client σ) (path : Bytes) (length : Nat) : Act σ (Except Failure Nat) :=
  if length = 0 then do
    pure ((← c.files.size path).mapError (.unreadableFile path))
  else pure (.ok length)

/-- Posts a file. Whether the backend can do it is settled before the file is looked at. -/
def postFile (c : Client σ) (url : String) (path : Bytes) (length : Nat) (contentType : Option String) :
    Act σ Reply := do
  if c.transport.uploads then
    match ← c.uploadLength path length with
    | .error f => pure (.error f)
    | .ok n => c.transport.execute (.upload url path n contentType)
  else
    Act.report (.uploadRefused c.transport.name)
    pure (.error .noUpload)

def call (c : Client σ) : Call → Act σ Reply
  | .get url query => c.get url query
  | .post url body => c.post url body
  | .postFile url path length contentType => c.postFile url path length contentType

/-- Performs a call and catches a panic: the reply, or nothing after a panic. -/
def attempt (c : Client σ) (x : Call) : Act σ (Option Reply) :=
  (do pure (some (← c.call x)) : Act σ (Option Reply)).recover (pure none)

/-- Performs calls one after the other, each in the world the one before left. -/
def callAll (c : Client σ) : List Call → Act σ (List (Option Reply))
  | [] => pure []
  | x :: calls => do pure ((← c.attempt x) :: (← callAll c calls))

/-- The client that also keeps each request its transport is handed, the last one at the end. -/
def recording (c : Client σ) : Client (σ × List Request) :=
  ⟨c.transport.recording, c.files.beside _⟩

end Client

end Courier
