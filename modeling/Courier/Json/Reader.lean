import Courier.Json.Skip
import Courier.Json.Text
import Courier.Json.Number

/-!
# Reading JSON values of a known type

A reader takes the text from where a value may start, with blanks before it, and comes to the value and the
text that follows. `readObject` and `readElement` read the two containers without building them: a member is
handed to a reader as soon as its name is known, so the first complaint from the left wins.
-/

namespace Courier.Json

abbrev Reader (α : Type) := Bytes → Except Complaint (α × Bytes)

/-- The complaint about a value that is not what was asked for: it is malformed if it is no value at all, or one that
cannot be read to where its type is known. -/
def mismatch : Bytes → Complaint
  | [] => .cutShort
  | b :: rest =>
    let known {α : Type} : Except Complaint α → Complaint
      | .ok _ => .mismatch
      | .error c => c
    match latin b with
    | 'n' => known (word ['u', 'l', 'l'] rest)
    | 't' => known (word ['r', 'u', 'e'] rest)
    | 'f' => known (word ['a', 'l', 's', 'e'] rest)
    | '-' => known (Number.read true rest)
    | '"' => known (readText rest)
    | '[' | '{' => .mismatch
    | _ => if isDigit b then known (Number.read false (b :: rest)) else .malformed

def string? : Reader String := fun bs =>
  match skipBlank bs with
  | [] => .error .cutShort
  | b :: rest => if b = ascii '"' then readText rest else .error (mismatch (b :: rest))

/-- Reads `null`. -/
def null? : Reader Unit := fun bs =>
  match skipBlank bs with
  | [] => .error .cutShort
  | b :: rest =>
    if b = ascii 'n' then (word ['u', 'l', 'l'] rest).map ((), ·) else .error (mismatch (b :: rest))

/-- Reads a whole number below `2 ^ 64`. -/
def natural? : Reader Nat := fun bs =>
  match skipBlank bs with
  | [] => .error .cutShort
  | b :: rest =>
    if b = ascii '-' ∨ isDigit b then
      match Number.read (b = ascii '-') (if b = ascii '-' then rest else b :: rest) with
      | .ok (.natural n, rest) => .ok (n, rest)
      | .ok _ => .error .mismatch
      | .error c => .error c
    else .error (mismatch (b :: rest))

/-- Reads a value that may be `null`. -/
def optional? {α : Type} (read : Reader α) : Reader (Option α) := fun bs =>
  match skipBlank bs with
  | [] => .error .cutShort
  | b :: rest =>
    if b = ascii 'n' then (word ['u', 'l', 'l'] rest).map (none, ·)
    else (read (b :: rest)).map fun r => (some r.1, r.2)

/-- Reads a name in an object. What is no string there is malformed, whatever else it may be. -/
def name? : Reader String := fun bs =>
  match skipBlank bs with
  | [] => .error .cutShort
  | b :: rest => if b = ascii '"' then readText rest else .error .malformed

def colon (bs : Bytes) : Except Complaint Bytes :=
  match skipBlank bs with
  | [] => .error .cutShort
  | b :: rest => if b = ascii ':' then .ok rest else .error .malformed

/-- Finds the name of the next member, if there is one; at the end of the object it leaves the brace. -/
def nextName (first : Bool) (bs : Bytes) : Except Complaint (Option (String × Bytes)) :=
  match skipBlank bs with
  | [] => .error .cutShort
  | b :: rest =>
    if b = ascii '}' then .ok none
    else if first then (name? (b :: rest)).map some
    else if b = ascii ',' then (name? rest).map some
    else .error .malformed

/-- Reads the members of an object after its brace, or after a member, and comes to what follows the closing
brace. The reader `member` is given the name of a member and what was read before it, and starts at the colon.
-/
def readMembers {α : Type} (member : String → α → Reader α) (first : Bool) (acc : α) (bs : Bytes) :
    Except Complaint (α × Bytes) :=
  match nextName first bs with
  | .error c => .error c
  | .ok none => .ok (acc, (skipBlank bs).drop 1)
  | .ok (some (name, rest)) =>
    match member name acc rest with
    | .error c => .error c
    | .ok (acc, rest) =>
      if rest.length < bs.length then readMembers member false acc rest else .error .malformed
termination_by bs.length

/-- Finds the next element of an array, if there is one; at the end of the array it leaves the bracket. -/
def nextElement (first : Bool) (bs : Bytes) : Except Complaint (Option Bytes) :=
  match skipBlank bs with
  | [] => .error .cutShort
  | b :: rest =>
    if b = ascii ']' then .ok none
    else if first then .ok (some (b :: rest))
    else if b = ascii ',' then
      match skipBlank rest with
      | [] => .error .cutShort
      | b :: rest => if b = ascii ']' then .error .malformed else .ok (some (b :: rest))
    else .error .malformed

/-- Reads the next element of an array; where there is none, `missing` says what to do. -/
def readElement {α : Type} (read : Reader α) (missing : Except Complaint α) (first : Bool) : Reader α := fun bs =>
  match nextElement first bs with
  | .error c => .error c
  | .ok none => missing.map (·, bs)
  | .ok (some rest) => read rest

def endArray (bs : Bytes) : Except Complaint Bytes :=
  match skipBlank bs with
  | [] => .error .cutShort
  | b :: rest => if b = ascii ']' then .ok rest else .error .malformed

/-- Reads a record, written as an object or as an array of its fields. -/
def record {α : Type} (array object : Reader α) : Reader α := fun bs =>
  match skipBlank bs with
  | [] => .error .cutShort
  | b :: rest =>
    if b = ascii '[' then array rest
    else if b = ascii '{' then object rest
    else .error (mismatch (b :: rest))

def whole {α : Type} (read : Reader α) (bs : Bytes) : Except Complaint α :=
  match read bs with
  | .error c => .error c
  | .ok (a, rest) => if (skipBlank rest).isEmpty then .ok a else .error .malformed

/-- Reads a field of a record, which must not have been read before. -/
def readField {α : Type} (read : Reader α) (old : Option α) : Reader (Option α) := fun bs =>
  if old.isSome then .error .mismatch
  else match colon bs with
    | .error c => .error c
    | .ok rest => (read rest).map fun r => (some r.1, r.2)

/-- Passes over a member that is no field. -/
def skipMember (bs : Bytes) : Except Complaint Bytes :=
  match colon bs with
  | .error c => .error c
  | .ok rest => skip rest

end Courier.Json
