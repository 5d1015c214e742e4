import Courier.Boundary.Envelope
import Courier.Client

/-!
# Calls from C

The functions a C program calls. An argument is a pointer, null or to a string that ends at its first zero
byte. Arguments are checked from left to right before the client is called, and a panic of the client never
reaches the caller.
-/

namespace Courier.Boundary

variable {σ : Type}

/-- A string argument: null, or the memory it points to. -/
abbrev Pointer := Option Bytes

def textOf (bs : Bytes) : Option String :=
  (Utf8.decode? (cContents bs)).map String.ofList

def argument (name : String) : Pointer → Except Envelope String
  | none => .error (.nullArgument name)
  | some bs =>
    match textOf bs with
    | none => .error (.invalidText name)
    | some s => .ok s

def optionalArgument (name : String) : Pointer → Except Envelope (Option String)
  | none => .ok none
  | some bs => (argument name (some bs)).map some

def clientArgument : Option (Client σ) → Except Envelope (Client σ)
  | none => .error (.nullArgument "client")
  | some c => .ok c

/-- A request made from C: the checked arguments give a client and a call, or the envelope of the first that
is wrong. -/
def perform (function : String) (checked : Except Envelope (Client σ × Call)) : Act σ Envelope :=
  match checked with
  | .error e => pure e
  | .ok (client, call) =>
    (do pure (Envelope.ofReply (← client.call call)) : Act σ Envelope).recover do
      Act.report (.panicCaught function)
      pure (.panicked ("panic in " ++ function))

def getArguments (client : Option (Client σ)) (url query : Pointer) : Except Envelope (Client σ × Call) := do
  let client ← clientArgument client
  let url ← argument "url" url
  let query ← optionalArgument "query" query
  pure (client, .get url query)

def postArguments (client : Option (Client σ)) (url body : Pointer) : Except Envelope (Client σ × Call) := do
  let client ← clientArgument client
  let url ← argument "url" url
  let body ← argument "body" body
  pure (client, .post url body)

def postFileArguments (client : Option (Client σ)) (url path : Pointer) (length : Nat) (contentType : Pointer) :
    Except Envelope (Client σ × Call) := do
  let client ← clientArgument client
  let url ← argument "url" url
  let path ← argument "path" path
  let contentType ← optionalArgument "content_type" contentType
  pure (client, .postFile url (Utf8.encode path.toList) length contentType)

def get (client : Option (Client σ)) (url query : Pointer) : Act σ Envelope :=
  perform "oauth_http_get" (getArguments client url query)

def post (client : Option (Client σ)) (url body : Pointer) : Act σ Envelope :=
  perform "oauth_http_post" (postArguments client url body)

def postFile (client : Option (Client σ)) (url path : Pointer) (length : Nat) (contentType : Pointer) :
    Act σ Envelope :=
  perform "oauth_post_file" (postFileArguments client url path length contentType)

/-- A template given by a C program: the standard one for null, none if it is not text. -/
def templateArgument (standard : String) : Pointer → Option String
  | none => some standard
  | some bs => textOf bs

/-- The configuration a C program asks for, unless a template is not text. -/
def config? (backend : Backend) (get post : Pointer) : Option Config := do
  let get ← templateArgument Config.standard.getCommand get
  let post ← templateArgument Config.standard.postCommand post
  pure ⟨backend, get, post⟩

def newClient (host : Host σ) (backend : Backend) (get post : Pointer) : Act σ (Option (Client σ)) :=
  match config? backend get post with
  | none => pure none
  | some config => do pure (some (← Client.configure host config))

def environmentClient (host : Host σ) (environment : String → Option Bytes) : Act σ (Option (Client σ)) := do
  pure (some (← Client.configure host (← Config.ofEnvironment environment)))

end Courier.Boundary
