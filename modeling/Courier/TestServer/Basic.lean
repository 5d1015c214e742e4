import Courier.Limits
import Courier.TestServer.Echo
import Courier.Wire.Field

/-!
# A server to test clients against

`answer` is what the server does with a request. It echoes requests, and has routes for awkward replies: an
empty one, a redirect, any status, and a body of any length up to `maxGenerated`.

A route is found by the path alone, the last part of which may be a number. A route that is there for `GET`
also answers `HEAD`, with the same head and no body.
-/

namespace Courier.TestServer

/-- The longest body the server makes. -/
def maxGenerated : Nat := 1048576

/-- The longest body the server reads. -/
def maxRead : Nat := 2097152

def redirectBody : String := "redirect-body"

/-- A request as it comes to the server. -/
structure Inquiry where
  method : Bytes
  target : Wire.Target
  fields : Wire.Fields
  body : Bytes
  deriving DecidableEq, Repr

/-- What the server answers. -/
structure Answer where
  status : Nat
  headers : List (String × String)
  body : Bytes
  deriving DecidableEq, Repr

/-- The routes of the server. A number is kept as it was written. -/
inductive Route where
  | echo
  | empty
  | redirect
  | status (code : Bytes)
  | bytes (n : Bytes)
  deriving DecidableEq, Repr

namespace Route

/-- What follows a text at the front of some bytes, if it stands there and what follows is one part of a path. -/
def lastPart? (front : String) (path : Bytes) : Option Bytes :=
  let front := Utf8.encode front.toList
  let rest := path.drop front.length
  if front.isPrefixOf path && !rest.isEmpty && !rest.contains (ascii '/') then some rest else none

/-- The route of a path. -/
def ofPath? (path : Bytes) : Option Route :=
  let is (s : String) : Bool := path == Utf8.encode s.toList
  if is "/echo" then some echo
  else if is "/empty" then some empty
  else if is "/redirect" then some redirect
  else match lastPart? "/status/" path, lastPart? "/bytes/" path with
    | some code, _ => some (status code)
    | none, some n => some (bytes n)
    | none, none => none

/-- Whether a route is also there for `POST`. -/
def takesPost : Route → Bool
  | echo | redirect => true
  | _ => false

def methods (r : Route) : List String :=
  ["GET", "HEAD"] ++ if r.takesPost then ["POST"] else []

end Route

/-! ## Parts of a path -/

/-- Bytes with each `%` and two hexadecimal digits replaced by the byte they say. -/
def unescape : Bytes → Bytes
  | [] => []
  | a :: b :: c :: rest =>
    match if a == ascii '%' then (hexValue? b).bind fun x => (hexValue? c).map fun y => x * 16 + y else none with
    | some n => n.toUInt8 :: unescape rest
    | none => a :: unescape (b :: c :: rest)
  | a :: rest => a :: unescape rest

/-- Why a part of a path is not the number it has to be. -/
inductive BadPart where
  | notText
  | notNumber (text : String)
  deriving DecidableEq, Repr

/-- The words for a part that is not the number it has to be, by its name and the name of the kind of number. -/
def BadPart.message (name kind : String) : BadPart → String
  | notText => "Invalid URL: Invalid UTF-8 in \x60" ++ name ++ "\x60"
  | notNumber text => "Invalid URL: Cannot parse \x60" ++ text ++ "\x60 to a \x60" ++ kind ++ "\x60"

/-- The number below `limit` that a part of a path says. -/
def number (limit : Nat) (part : Bytes) : Except BadPart Nat :=
  match Utf8.decode? (unescape part) with
  | none => .error .notText
  | some cs =>
    match Wire.natural? limit cs with
    | some n => .ok n
    | none => .error (.notNumber (String.ofList cs))

/-! ## Answers -/

namespace Answer

def ofBytes (status : Nat) (type : String) (body : Bytes) : Answer :=
  ⟨status, [("content-type", type)], body⟩

def ofText (status : Nat) (text : String) : Answer :=
  ofBytes status "text/plain; charset=utf-8" (Utf8.encode text.toList)

def bare (status : Nat) : Answer := ⟨status, [], []⟩

def withLength (a : Answer) : Answer :=
  { a with headers := a.headers ++ [("content-length", toString a.body.length)] }

def withoutBody (a : Answer) : Answer := { a with body := [] }

end Answer

/-- What the server saw of a request. -/
def echoOf (q : Inquiry) : Echo where
  method := String.ofList (Bytes.toLatin q.method)
  uri := String.ofList (Utf8.decodeLossy q.target.text)
  userAgent := (q.fields.value? "user-agent").bind Wire.valueText?
  contentType := (q.fields.value? "content-type").bind Wire.valueText?
  contentLength := ((q.fields.value? "content-length").bind Wire.valueText?).bind fun s =>
    Wire.natural? limit64 s.toList
  body := String.ofList (Utf8.decodeLossy q.body)

/-- The bytes of a made body: the letters over and over again. -/
def generated (n : Nat) : Bytes :=
  (List.range n).map fun i => (97 + i % 26).toUInt8

/-- The answer of a route. -/
def Route.answer (q : Inquiry) : Route → Answer
  | echo =>
    if q.body.length > maxRead then .ofText 413 "Failed to buffer the request body: length limit exceeded"
    else .ofBytes 200 "application/json" (Utf8.encode (echoOf q).toJson)
  | empty => .bare 200
  | redirect =>
    let a := Answer.ofText 302 redirectBody
    { a with headers := a.headers ++ [("location", "/echo")] }
  | status code =>
    match number limit16 code with
    | .error e => .ofText 400 (e.message "code" "u16")
    | .ok n => if 100 ≤ n ∧ n ≤ 999 then .ofText n s!"status {n}" else .ofText 400 s!"invalid status {n}"
  | bytes n =>
    match number limit64 n with
    | .error e => .ofText 400 (e.message "n" "u64")
    | .ok n => if n > maxGenerated then .bare 413 else .ofBytes 200 "application/octet-stream" (generated n)

/-- The answer where no route is. A path is answered with nothing but the status; what is no path, an asterisk or an
authority by itself, is answered with a length as well. -/
def notFound (path : Bytes) : Answer :=
  if path.head? = some (ascii '/') then .bare 404 else (Answer.bare 404).withLength

/-- What the server answers to a request. -/
def answer (q : Inquiry) : Answer :=
  match Route.ofPath? q.target.fullPath with
  | none => notFound q.target.fullPath
  | some route =>
    let method := String.ofList (Bytes.toLatin q.method)
    if !route.methods.contains method then
      { Answer.bare 405 with headers := [("allow", ",".intercalate route.methods)] }.withLength
    else
      let a := (route.answer q).withLength
      if method == "HEAD" then a.withoutBody else a

end Courier.TestServer
