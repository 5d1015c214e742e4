import Courier.Bytes

/-!
# Reading JSON: faults and blanks

A reader goes from left to right and stops at its first complaint: the text is not JSON, or it is and does not
fit what was asked for, or it ends too early.
-/

namespace Courier.Json

/-- Why a text was not read. -/
inductive Complaint where
  /-- This cannot be JSON. -/
  | malformed
  /-- This is not what was asked for. -/
  | mismatch
  /-- The text ends too early. -/
  | cutShort
  deriving DecidableEq, Repr

def isBlank (b : UInt8) : Bool :=
  b == 0x20 || b == 0x09 || b == 0x0A || b == 0x0D

def skipBlank (bs : Bytes) : Bytes :=
  bs.dropWhile isBlank

def isDigit (b : UInt8) : Bool :=
  0x30 ≤ b && b ≤ 0x39

/-- Reads the rest of a word such as `null`. -/
def word : List Char → Bytes → Except Complaint Bytes
  | [], bs => .ok bs
  | _ :: _, [] => .error .cutShort
  | c :: cs, b :: bs => if b = ascii c then word cs bs else .error .malformed

end Courier.Json
