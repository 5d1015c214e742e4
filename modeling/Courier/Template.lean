/-!
# Command templates

A template such as `curl -s -d '%p' '%u'` is read once into literal text and typed placeholders, and filled in
later. Only the first occurrence of each placeholder that is asked for counts; every other percent sign is
literal text. So the order in which the placeholders stand in the text is found by the reading, and values are
never searched for tokens.
-/

namespace Courier

/-- A value that a template leaves open. -/
inductive Placeholder where
  /-- `%u`: the URL of the request. -/
  | url
  /-- `%p`: the payload of a POST. -/
  | payload
  deriving DecidableEq, Repr

namespace Placeholder

def letter : Placeholder → Char
  | url => 'u'
  | payload => 'p'

def token (p : Placeholder) : List Char :=
  ['%', p.letter]

/-- The position of the first `%` followed by `c`, if the text is taken to start at position `i`. -/
def positionFrom (c : Char) : Nat → List Char → Option Nat
  | _, [] => none
  | i, a :: rest => if a = '%' ∧ rest.head? = some c then some i else positionFrom c (i + 1) rest

/-- The position of the first occurrence of a placeholder in a text. -/
def position? (p : Placeholder) (raw : List Char) : Option Nat :=
  positionFrom p.letter 0 raw

end Placeholder

/-- A piece of a template. -/
inductive Segment where
  | literal (text : List Char)
  | placeholder (p : Placeholder)
  deriving DecidableEq, Repr

/-- A template that has been read. -/
structure Template where
  segments : List Segment
  deriving DecidableEq, Repr

namespace Segment

def flatten : Segment → List Char
  | literal text => text
  | placeholder p => p.token

def render (url payload : List Char) : Segment → List Char
  | literal text => text
  | placeholder .url => url
  | placeholder .payload => payload

def placeholder? : Segment → Option Placeholder
  | literal _ => none
  | placeholder p => some p

end Segment

namespace Template

def forGet : List Placeholder := [.url]

def forPost : List Placeholder := [.url, .payload]

/-- Where each required placeholder first stands, in the order they are required, or the first one that is missing. -/
def locate (raw : List Char) : List Placeholder → Except Placeholder (List (Nat × Placeholder))
  | [] => .ok []
  | p :: rest =>
    match p.position? raw with
    | none => .error p
    | some i => (locate raw rest).map ((i, p) :: ·)

/-- The pieces of a text from position `cursor` on, cut at the given places. -/
def cut (raw : List Char) (cursor : Nat) : List (Nat × Placeholder) → List Segment
  | [] => if cursor < raw.length then [.literal (raw.drop cursor)] else []
  | (i, p) :: rest =>
    (if cursor < i then [.literal ((raw.take i).drop cursor)] else []) ++
      .placeholder p :: cut raw (i + p.token.length) rest

/-- Reads a template in which each of `required` has to occur, or names the first that does not. -/
def parse (required : List Placeholder) (raw : List Char) : Except Placeholder Template :=
  (locate raw required).map fun found => ⟨cut raw 0 (found.mergeSort fun a b => a.1 ≤ b.1)⟩

def order (t : Template) : List Placeholder :=
  t.segments.filterMap Segment.placeholder?

def flatten (t : Template) : List Char :=
  t.segments.flatMap Segment.flatten

def render (t : Template) (url payload : List Char) : List Char :=
  t.segments.flatMap (Segment.render url payload)

end Template

end Courier
