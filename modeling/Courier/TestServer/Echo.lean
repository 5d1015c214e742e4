import Courier.Json.Printer
import Courier.Json.Reader

/-!
# What a test server saw

An `Echo` describes a request to the client that sent it. `Echo.toJson` writes it as an object; `Echo.ofJson` reads it
from an object, in which what the request lacked may be missing, or from an array of all its fields.
-/

namespace Courier.TestServer

/-- What a server saw of a request. -/
structure Echo where
  method : String
  /-- The path and query. -/
  uri : String
  userAgent : Option String
  contentType : Option String
  contentLength : Option Nat
  body : String
  deriving DecidableEq, Repr

namespace Echo

/-- An echo as an object of its six fields. -/
def toJson (e : Echo) : List Char :=
  let text (s : String) : List Char := Json.string s.toList
  Json.object
    [Json.member "method" (text e.method),
     Json.member "uri" (text e.uri),
     Json.member "user_agent" (Json.optional (e.userAgent.map text)),
     Json.member "content_type" (Json.optional (e.contentType.map text)),
     Json.member "content_length" (Json.optional (e.contentLength.map fun n => (toString n).toList)),
     Json.member "body" (text e.body)]

/-- The fields of an echo that have been read. -/
structure Read where
  method : Option String
  uri : Option String
  userAgent : Option (Option String)
  contentType : Option (Option String)
  contentLength : Option (Option Nat)
  body : Option String
  deriving DecidableEq, Repr

/-- The echo of some fields, if all that a request has are among them. -/
def Read.echo (r : Read) : Except Json.Complaint Echo :=
  match r.method, r.uri, r.body with
  | some method, some uri, some body =>
    .ok ⟨method, uri, r.userAgent.join, r.contentType.join, r.contentLength.join, body⟩
  | _, _, _ => .error .mismatch

/-- Reads a member of an echo. -/
def readMember (name : String) (r : Read) : Json.Reader Read := fun bs =>
  let maybeText : Json.Reader (Option String) := Json.optional? Json.string?
  match name with
  | "method" => (Json.readField Json.string? r.method bs).map fun x => ({ r with method := x.1 }, x.2)
  | "uri" => (Json.readField Json.string? r.uri bs).map fun x => ({ r with uri := x.1 }, x.2)
  | "user_agent" => (Json.readField maybeText r.userAgent bs).map fun x => ({ r with userAgent := x.1 }, x.2)
  | "content_type" => (Json.readField maybeText r.contentType bs).map fun x => ({ r with contentType := x.1 }, x.2)
  | "content_length" =>
    (Json.readField (Json.optional? Json.natural?) r.contentLength bs).map fun x =>
      ({ r with contentLength := x.1 }, x.2)
  | "body" => (Json.readField Json.string? r.body bs).map fun x => ({ r with body := x.1 }, x.2)
  | _ => (Json.skipMember bs).map (r, ·)

def readObject : Json.Reader Echo := fun bs => do
  let (r, rest) ← Json.readMembers readMember true ⟨none, none, none, none, none, none⟩ bs
  return (← r.echo, rest)

/-- Reads the fields of an echo by position; none may be missing. -/
def readArray : Json.Reader Echo := fun bs => do
  let maybeText : Json.Reader (Option String) := Json.optional? Json.string?
  let (method, bs) ← Json.readElement Json.string? (.error .mismatch) true bs
  let (uri, bs) ← Json.readElement Json.string? (.error .mismatch) false bs
  let (userAgent, bs) ← Json.readElement maybeText (.error .mismatch) false bs
  let (contentType, bs) ← Json.readElement maybeText (.error .mismatch) false bs
  let (contentLength, bs) ← Json.readElement (Json.optional? Json.natural?) (.error .mismatch) false bs
  let (body, bs) ← Json.readElement Json.string? (.error .mismatch) false bs
  return (⟨method, uri, userAgent, contentType, contentLength, body⟩, ← Json.endArray bs)

def ofJson (bs : Bytes) : Except Json.Complaint Echo :=
  Json.whole (Json.record readArray readObject) bs

end Echo

end Courier.TestServer
