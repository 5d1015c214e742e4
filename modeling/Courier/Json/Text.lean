import Courier.Json.Blank
import Courier.Text.Utf8

/-!
# Reading JSON strings

`readText` reads a string after its opening quote. Its bytes have to be text, and an escape of half a
character has to be followed by the other half.
-/

namespace Courier.Json

/-- Where in a string the reader stands. -/
inductive TextSpot where
  | plain
  /-- After a backslash. -/
  | escape
  /-- Before `left + 1` hexadecimal digits; `lead` is the first half of a character whose second half this has
  to be. -/
  | hex (lead : Option Nat) (left value : Nat) (good : Bool)
  /-- After the first half of a character, before the backslash of the second. -/
  | second (lead : Nat)
  /-- After the backslash of the second half. -/
  | secondMark (lead : Nat)
  deriving DecidableEq, Repr

/-- What a byte does to the reader of a string. -/
inductive TextMove where
  | fail
  /-- Goes on at a spot, with these bytes more. -/
  | go (spot : TextSpot) (more : Bytes)
  | finish
  deriving DecidableEq, Repr

namespace TextMove

def bytesOf (n : Nat) : Bytes :=
  String.utf8EncodeChar (Char.ofNat n)

/-- The first half of a character beyond `U+FFFF`. -/
def isLead (n : Nat) : Bool := 0xD800 ≤ n && n ≤ 0xDBFF

/-- The second half of a character beyond `U+FFFF`. -/
def isTrail (n : Nat) : Bool := 0xDC00 ≤ n && n ≤ 0xDFFF

def join (lead trail : Nat) : Nat :=
  (lead - 0xD800) * 1024 + (trail - 0xDC00) + 0x10000

/-- What an escape of a given number does. -/
def unit (lead : Option Nat) (n : Nat) : TextMove :=
  match lead with
  | some l => if isTrail n then go .plain (bytesOf (join l n)) else fail
  | none => if isTrail n then fail else if isLead n then go (.second n) [] else go .plain (bytesOf n)

/-- A byte after a backslash. -/
def escaped (b : UInt8) : TextMove :=
  match latin b with
  | '"' => go .plain [0x22]
  | '\\' => go .plain [0x5C]
  | '/' => go .plain [0x2F]
  | 'b' => go .plain [0x08]
  | 'f' => go .plain [0x0C]
  | 'n' => go .plain [0x0A]
  | 'r' => go .plain [0x0D]
  | 't' => go .plain [0x09]
  | 'u' => go (.hex none 3 0 true) []
  | _ => fail

/-- What a byte does at a spot. -/
def of (b : UInt8) : TextSpot → TextMove
  | .plain =>
    if b = ascii '"' then finish
    else if b = ascii '\\' then go .escape []
    else if b < 0x20 then fail
    else go .plain [b]
  | .escape => escaped b
  | .hex lead left value good =>
    let good := good && (hexValue? b).isSome
    let value := value * 16 + (hexValue? b).getD 0
    match left with
    | 0 => if good then unit lead value else fail
    | left + 1 => go (.hex lead left value good) []
  | .second lead => if b = ascii '\\' then go (.secondMark lead) [] else fail
  | .secondMark lead => if b = ascii 'u' then go (.hex (some lead) 3 0 true) [] else fail

end TextMove

/-- Reads the rest of a string from a spot on, onto the bytes read so far (the last one first). -/
def readTextFrom (spot : TextSpot) (done : Bytes) : Bytes → Except Complaint (Bytes × Bytes)
  | [] => .error .cutShort
  | b :: rest =>
    match TextMove.of b spot with
    | .fail => .error .malformed
    | .go spot more => readTextFrom spot (more.reverse ++ done) rest
    | .finish => .ok (done.reverse, rest)

/-- Reads a string after its opening quote, and comes to the text and what follows. -/
def readText (bs : Bytes) : Except Complaint (String × Bytes) :=
  match readTextFrom .plain [] bs with
  | .error c => .error c
  | .ok (text, rest) =>
    match Utf8.decode? text with
    | some cs => .ok (String.ofList cs, rest)
    | none => .error .malformed

end Courier.Json
