import Courier.Limits
import Courier.Transport.Library
import Courier.Wire.Field

/-!
# Sending a request

What is put on a connection for an errand: `Dispatch.ofErrand` checks the url and the headers, so that nothing
is sent of an errand that breaks the rules.
-/

namespace Courier.Wire

/-- A request on its way: where it goes, and what is sent there. -/
structure Dispatch where
  target : Target
  method : Method
  /-- The fields, their names in lower case. -/
  fields : Fields
  body : Bytes

namespace Dispatch

/-- Why nothing can be sent for an errand. -/
inductive Refusal where
  | badUrl
  | badField (name : String)
  | unreadable (fault : IoFault)
  deriving DecidableEq, Repr

def Refusal.message : Refusal → String
  | badUrl => "invalid url"
  | badField name => "invalid header: " ++ name
  | unreadable e => e.message

def bytesOf (s : String) : Bytes := Utf8.encode s.toList

/-- The target of a url: it needs the scheme `http`, a host, and a socket number that is one if it is there. -/
def target? (url : String) : Option Target := do
  let t ← Target.parse? (bytesOf url)
  let (host, socket) := Target.hostAndSocket t.authority
  let socketIsGood := match socket with
    | none => true
    | some p => (natural? limit16 (Bytes.toLatin p)).isSome
  if t.scheme == some (bytesOf "http") && !host.isEmpty && socketIsGood then some t else none

def fieldsOf (e : Errand) : Except Refusal Fields :=
  e.headers.mapM fun h =>
    let name := (bytesOf h.1).map lowerByte
    if isField name (bytesOf h.2) then .ok (name, bytesOf h.2) else .error (.badField h.1)

def drain : Source → Except Refusal Bytes
  | [] => .ok []
  | .ended :: _ => .ok []
  | .data bs :: rest => do return bs ++ (← drain rest)
  | .failed e :: rest => if e.kind = .interrupted then drain rest else .error (.unreadable e)

def ofErrand (e : Errand) : Except Refusal Dispatch := do
  let target ← match target? e.url with
    | some t => .ok t
    | none => .error .badUrl
  let fields ← fieldsOf e
  let body ← match e.payload with
    | .none => .ok []
    | .bytes bs => .ok bs
    | .stream source => drain source
  let length := if e.payload = .none || (fields.value? "content-length").isSome then []
    else [(bytesOf "content-length", bytesOf (toString body.length))]
  return ⟨target, e.method, fields ++ length, body⟩

def line (d : Dispatch) : Bytes :=
  bytesOf (match d.method with
    | .get => "GET "
    | .post => "POST ") ++ d.target.text ++ bytesOf " HTTP/1.1"

end Dispatch

end Courier.Wire
