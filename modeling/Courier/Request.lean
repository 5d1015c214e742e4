import Courier.Bytes

/-!
# Requests

A request is plain data: the URL is put together, the length of a file is known and the headers are chosen before any
backend sees it, so all backends are handed the same thing.
-/

namespace Courier

/-- The methods in use. -/
inductive Method where
  | get
  | post
  deriving DecidableEq, Repr

/-- What a request carries. -/
inductive Body where
  | empty
  | text (text : String)
  /-- The first `length` bytes of the file at `path`. -/
  | file (path : Bytes) (length : Nat)
  deriving DecidableEq, Repr

/-- A request. -/
structure Request where
  method : Method
  url : String
  headers : List (String × String)
  body : Body
  deriving DecidableEq, Repr

/-- The URL with a query after a question mark, unless there is no query or it is empty. -/
def effectiveUrl (url : String) : Option String → String
  | none => url
  | some query => if query.isEmpty then url else url ++ "?" ++ query

namespace Request

def fileContentType : String := "image/jpeg"

def get (url : String) (query : Option String) : Request :=
  ⟨.get, effectiveUrl url query, [], .empty⟩

def post (url body : String) : Request :=
  ⟨.post, url, [], .text body⟩

/-- A POST of the first `length` bytes of a file. -/
def upload (url : String) (path : Bytes) (length : Nat) (contentType : Option String) : Request :=
  ⟨.post, url, [("content-type", contentType.getD fileContentType)], .file path length⟩

/-- The value of the first header of a name, whatever the case of its letters. -/
def header? (r : Request) (name : String) : Option String :=
  (r.headers.find? fun h => sameLetters h.1.toList name.toList).map Prod.snd

end Request

end Courier
