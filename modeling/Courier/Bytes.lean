/-!
# Bytes

A string of bytes is a list. A byte is also seen as the character with its number, which is how the ASCII syntaxes
(the wire format, the shell, JSON) name the bytes they look for.
-/

namespace Courier

abbrev Bytes := List UInt8

abbrev ascii (c : Char) : UInt8 := c.toNat.toUInt8

/-- The character with a byte's number. -/
abbrev latin (b : UInt8) : Char := Char.ofNat b.toNat

namespace Bytes

/-- The byte with a character's number, for the characters up to `U+00FF`. -/
def ofLatin (cs : List Char) : Bytes :=
  cs.map ascii

def toLatin (bs : Bytes) : List Char :=
  bs.map latin

end Bytes

/-- The value of a hexadecimal digit. -/
def hexValue? (b : UInt8) : Option Nat :=
  if 0x30 ≤ b ∧ b ≤ 0x39 then some (b.toNat - 0x30)
  else if 0x41 ≤ b ∧ b ≤ 0x46 then some (b.toNat - 0x37)
  else if 0x61 ≤ b ∧ b ≤ 0x66 then some (b.toNat - 0x57)
  else none

/-- The lower-case form of an ASCII letter; any other byte stays as it is. -/
def lowerByte (b : UInt8) : UInt8 :=
  if 65 ≤ b ∧ b ≤ 90 then b + 32 else b

def lowerAscii (c : Char) : Char :=
  if 'A' ≤ c ∧ c ≤ 'Z' then Char.ofNat (c.toNat + 32) else c

/-- Equality that ignores the case of ASCII letters. -/
def sameLetters (s t : List Char) : Bool :=
  s.map lowerAscii == t.map lowerAscii

end Courier
