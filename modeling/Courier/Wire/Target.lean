import Courier.Text.Utf8

/-!
# Targets

What a request is sent to: a scheme and an authority, both of which may be missing, and a path with a query. A
target is read from bytes by `Target.parse?`, which refuses any byte that has no place where it stands; a
fragment is dropped, and nothing is normalised.
-/

namespace Courier.Wire

/-- The target of a request. -/
structure Target where
  scheme : Option Bytes
  authority : Bytes
  path : Bytes
  query : Option Bytes
  deriving DecidableEq, Repr

def isAlphanumeric (b : UInt8) : Bool :=
  (latin b).isAlphanum

/-- Whether a byte stands for one of some characters. -/
def isOneOf (cs : String) (b : UInt8) : Bool :=
  cs.toList.contains (latin b)

namespace Target

def maxLength : Nat := 65534

def maxSchemeLength : Nat := 64

/-- Whether a byte may stand in a path. Beyond ASCII every byte may; whether they are text is seen later. -/
def isPathByte (b : UInt8) : Bool :=
  b ≥ 0x21 && !isOneOf "#<>?\x60" b

def isQueryByte (b : UInt8) : Bool :=
  b ≥ 0x21 && !isOneOf "\"#<>" b

def isAuthorityByte (b : UInt8) : Bool :=
  isAlphanumeric b || isOneOf "!$%&'()*+,-.:;=@[]_~" b

def endsAuthority (b : UInt8) : Bool := isOneOf "/?#" b

def isSchemeByte (b : UInt8) : Bool := isAlphanumeric b || isOneOf "+-.~" b

/-- Reads a path and a query. -/
def pathAndQuery? (bs : Bytes) : Option (Bytes × Option Bytes) :=
  let whole := bs.takeWhile (· != ascii '#')
  let path := whole.takeWhile (· != ascii '?')
  let query := (whole.drop path.length).drop 1
  let given := path.length < whole.length
  if path.all isPathByte && query.all isQueryByte && (Utf8.decode? whole).isSome then
    some (path, if given then some query else none)
  else none

/-- What has been seen of an authority. -/
structure Seen where
  colons : Nat
  opened : Bool
  closed : Bool
  percent : Bool
  /-- Whether the last byte was the end of a user's name. -/
  atEnd : Bool

def maxColons : Nat := 8

/-- One byte of an authority. -/
def seeByte (s : Seen) (b : UInt8) : Option Seen :=
  if !isAuthorityByte b then none
  else match latin b with
    | ':' => if s.colons ≥ maxColons then none else some { s with colons := s.colons + 1, atEnd := false }
    | '[' => if s.percent || s.opened then none else some { s with opened := true, atEnd := false }
    | ']' =>
      if !s.opened || s.closed then none
      else some { s with closed := true, colons := 0, percent := false, atEnd := false }
    | '@' => some { s with colons := 0, percent := false, atEnd := true }
    | '%' => some { s with percent := true, atEnd := false }
    | _ => some { s with atEnd := false }

/-- Whether bytes are an authority: a host, which may have the number of a socket after it and a user's name
before it. -/
def isAuthority (bs : Bytes) : Bool :=
  match bs.foldlM seeByte ⟨0, false, false, false, false⟩ with
  | none => false
  | some s => s.opened == s.closed && s.colons ≤ 1 && !s.percent && !s.atEnd

/-- The scheme at the front, before `://`, and what follows. -/
def scheme? (bs : Bytes) : Option (Bytes × Bytes) :=
  let scheme := bs.takeWhile isSchemeByte
  match bs.drop scheme.length with
  | a :: b :: c :: rest =>
    if a == ascii ':' && b == ascii '/' && c == ascii '/' then some (scheme, rest) else none
  | _ => none

/-- Reads a target. -/
def parse? (bs : Bytes) : Option Target :=
  if bs.isEmpty || bs.length > maxLength then none
  else if bs == [ascii '*'] then some ⟨none, [], [ascii '*'], none⟩
  else if bs.head? == some (ascii '/') then do
    let (path, query) ← pathAndQuery? bs
    return ⟨none, [], path, query⟩
  else
    match scheme? bs with
    | none => if isAuthority bs then some ⟨none, bs, [], none⟩ else none
    | some (scheme, rest) => do
      let authority := rest.takeWhile fun b => !endsAuthority b
      if scheme.length > maxSchemeLength || authority.isEmpty || !isAuthority authority then none
      else
        let (path, query) ← pathAndQuery? (rest.drop authority.length)
        return ⟨some (scheme.map lowerByte), authority, path, query⟩

/-- The path, which is a slash where an absolute target has none. -/
def fullPath (t : Target) : Bytes :=
  if t.path.isEmpty && t.scheme.isSome then [ascii '/'] else t.path

/-- The path and query as they are sent. -/
def text (t : Target) : Bytes :=
  t.fullPath ++ match t.query with
    | some q => ascii '?' :: q
    | none => []

/-- The host and the socket number of an authority. -/
def hostAndSocket (authority : Bytes) : Bytes × Option Bytes :=
  let host := (authority.splitOn (ascii '@')).getLast?.getD []
  let after := if host.contains (ascii ']') then (host.dropWhile (· != ascii ']')).drop 1
    else host.dropWhile (· != ascii ':')
  (host.take (host.length - after.length), if after.isEmpty then none else some (after.drop 1))

end Target

end Courier.Wire
