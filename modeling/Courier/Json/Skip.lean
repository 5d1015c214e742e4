import Courier.Json.Blank

/-!
# Passing over a JSON value

`skip` passes over one value of any depth, byte by byte. The containers that are still open are a list, so no
depth is too great. Only the form counts: a string may hold bytes that are no text and escapes of half a
character, and a number may have any size.
-/

namespace Courier.Json

/-- A container that is open. -/
inductive Frame where
  | array
  | object
  deriving DecidableEq, Repr

/-- Where in a value the reader stands. -/
inductive Spot where
  /-- Before a value; the end of the array may come instead when `orEnd` is set. -/
  | value (orEnd : Bool)
  /-- Before the name of a member; the end of the object may come instead when `orEnd` is set. -/
  | name (orEnd : Bool)
  /-- Between a name and its value. -/
  | colon
  /-- Inside a string, which is a name when `isName` is set. -/
  | text (isName : Bool)
  /-- After a backslash in a string. -/
  | escape (isName : Bool)
  /-- Before `left + 1` hexadecimal digits of an escape; `good` is unset once one was none. -/
  | hex (isName : Bool) (left : Nat) (good : Bool)
  /-- Before the rest of a word. -/
  | word (rest : List Char)
  /-- After the sign of a number. -/
  | minus
  /-- After a leading zero. -/
  | zero
  | integer
  /-- After the point of a number. -/
  | point
  | fraction
  /-- After the `e` of a number. -/
  | mark
  /-- After the sign of an exponent. -/
  | sign
  | exponent
  /-- After a value. -/
  | after
  deriving DecidableEq, Repr

/-- What a byte does to the reader. -/
inductive Move where
  | fail
  /-- Goes on at a spot, with these containers open. -/
  | go (spot : Spot) (stack : List Frame)
  /-- The byte ends the value. -/
  | finish
  /-- The value ended before the byte. -/
  | finishBefore
  deriving DecidableEq, Repr

namespace Move

/-- The reader after a value that ends with a byte. -/
def ended : List Frame → Move
  | [] => finish
  | stack => go .after stack

/-- A byte after a value. -/
def afterValue (b : UInt8) : List Frame → Move
  | [] => finishBefore
  | frame :: stack =>
    if isBlank b then go .after (frame :: stack)
    else match frame, latin b with
      | .array, ',' => go (.value false) (frame :: stack)
      | .object, ',' => go (.name false) (frame :: stack)
      | .array, ']' => ended stack
      | .object, '}' => ended stack
      | _, _ => fail

/-- A byte before a value. -/
def beforeValue (orEnd : Bool) (b : UInt8) (stack : List Frame) : Move :=
  if isBlank b then go (.value orEnd) stack
  else match latin b with
    | 'n' => go (.word ['u', 'l', 'l']) stack
    | 't' => go (.word ['r', 'u', 'e']) stack
    | 'f' => go (.word ['a', 'l', 's', 'e']) stack
    | '"' => go (.text false) stack
    | '[' => go (.value true) (.array :: stack)
    | '{' => go (.name true) (.object :: stack)
    | '-' => go .minus stack
    | '0' => go .zero stack
    | ']' => if orEnd then ended stack.tail else fail
    | _ => if isDigit b then go .integer stack else fail

/-- A byte before the name of a member. -/
def beforeName (orEnd : Bool) (b : UInt8) (stack : List Frame) : Move :=
  if isBlank b then go (.name orEnd) stack
  else match latin b with
    | '"' => go (.text true) stack
    | '}' => if orEnd then ended stack.tail else fail
    | _ => fail

/-- A byte where a number may end. -/
def numberEnd (b : UInt8) (stack : List Frame) : Move :=
  match latin b with
  | '.' => go .point stack
  | 'e' | 'E' => go .mark stack
  | _ => afterValue b stack

/-- A byte where a number may end, and can have no more than an exponent. -/
def fractionEnd (b : UInt8) (stack : List Frame) : Move :=
  match latin b with
  | 'e' | 'E' => go .mark stack
  | _ => afterValue b stack

def textEnd (isName : Bool) (stack : List Frame) : Move :=
  if isName then go .colon stack else ended stack

/-- A byte after a backslash. -/
def escaped (isName : Bool) (b : UInt8) (stack : List Frame) : Move :=
  match latin b with
  | '"' | '\\' | '/' | 'b' | 'f' | 'n' | 'r' | 't' => go (.text isName) stack
  | 'u' => go (.hex isName 3 true) stack
  | _ => fail

/-- What a byte does at a spot. -/
def of (b : UInt8) (stack : List Frame) : Spot → Move
  | .value orEnd => beforeValue orEnd b stack
  | .name orEnd => beforeName orEnd b stack
  | .colon => if isBlank b then go .colon stack else if b = ascii ':' then go (.value false) stack else fail
  | .text isName =>
    if b = ascii '"' then textEnd isName stack
    else if b = ascii '\\' then go (.escape isName) stack
    else if b < 0x20 then fail
    else go (.text isName) stack
  | .escape isName => escaped isName b stack
  | .hex isName left good =>
    let good := good && (hexValue? b).isSome
    match left with
    | 0 => if good then go (.text isName) stack else fail
    | left + 1 => go (.hex isName left good) stack
  | .word [] => afterValue b stack
  | .word [c] => if b = ascii c then ended stack else fail
  | .word (c :: cs) => if b = ascii c then go (.word cs) stack else fail
  | .minus => if b = ascii '0' then go .zero stack else if isDigit b then go .integer stack else fail
  | .zero => if isDigit b then fail else numberEnd b stack
  | .integer => if isDigit b then go .integer stack else numberEnd b stack
  | .point => if isDigit b then go .fraction stack else fail
  | .fraction => if isDigit b then go .fraction stack else fractionEnd b stack
  | .mark =>
    if b = ascii '+' ∨ b = ascii '-' then go .sign stack else if isDigit b then go .exponent stack else fail
  | .sign => if isDigit b then go .exponent stack else fail
  | .exponent => if isDigit b then go .exponent stack else afterValue b stack
  | .after => afterValue b stack

end Move

/-- What the end of the text comes to at a spot. A number can end there; the rest of one cannot be missing. -/
def Spot.atEnd (stack : List Frame) : Spot → Except Complaint Bytes
  | .minus | .point | .mark | .sign => .error .malformed
  | .zero | .integer | .fraction | .exponent => if stack.isEmpty then .ok [] else .error .cutShort
  | _ => .error .cutShort

/-- Passes over the rest of a value from a spot on, and comes to what follows it. -/
def skipFrom (spot : Spot) (stack : List Frame) : Bytes → Except Complaint Bytes
  | [] => spot.atEnd stack
  | b :: rest =>
    match Move.of b stack spot with
    | .fail => .error .malformed
    | .go spot stack => skipFrom spot stack rest
    | .finish => .ok rest
    | .finishBefore => .ok (b :: rest)

def skip (bs : Bytes) : Except Complaint Bytes :=
  skipFrom (.value false) [] bs

end Courier.Json
