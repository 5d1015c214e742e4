import Courier.Wire.Target

/-!
# Header fields

Which names and values a header field can have, and how the value is read as text or as a number.
-/

namespace Courier.Wire

def isTokenByte (b : UInt8) : Bool :=
  isAlphanumeric b || isOneOf "!#$%&'*+-.^_\x60|~" b

def isToken (bs : Bytes) : Bool :=
  !bs.isEmpty && bs.all isTokenByte

def isValueByte (b : UInt8) : Bool :=
  b == ascii '\t' || (b ≥ 0x20 && b != 0x7F)

def maxNameLength : Nat := 65535

def isField (name value : Bytes) : Bool :=
  isToken name && name.length ≤ maxNameLength && value.all isValueByte

/-- The fields of a message in order, their names in lower case. -/
abbrev Fields := List (Bytes × Bytes)

namespace Fields

/-- The first value of a field, by its name in lower case. -/
def value? (fs : Fields) (name : String) : Option Bytes :=
  fs.lookup (Utf8.encode name.toList)

end Fields

/-- The text of a value, if all of it is visible or blank. -/
def valueText? (value : Bytes) : Option String :=
  if value.all fun b => b == ascii '\t' || (b ≥ 0x20 && b < 0x7F) then some (String.ofList (Bytes.toLatin value))
  else none

/-- A whole number below `limit`: digits after at most one plus sign. -/
def natural? (limit : Nat) (cs : List Char) : Option Nat :=
  let ds := match cs with
    | '+' :: rest => rest
    | rest => rest
  if ds.isEmpty || !ds.all Char.isDigit then none
  else
    let n := ds.foldl (fun n c => n * 10 + (c.toNat - 48)) 0
    if n < limit then some n else none

end Courier.Wire
