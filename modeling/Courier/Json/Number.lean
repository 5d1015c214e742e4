import Courier.Json.Blank
import Courier.Limits

/-!
# Reading JSON numbers

A number without fraction and exponent that fits 64 bits is read exactly. Any other is read as a double, which
fails where the double would be infinite: its leading digits, as many as fit 64 bits, times a power of ten.
-/

namespace Courier.Json

/-- A number as it was read. -/
inductive Number where
  /-- A whole number that fits 64 bits. -/
  | natural (n : Nat)
  /-- A negative whole number of 64 bits. -/
  | negative
  /-- Any other number. -/
  | double
  deriving DecidableEq, Repr

namespace Number

/-- A number rounded to 53 binary digits, a half to the even neighbour. -/
def round53 (n : Nat) : Nat :=
  if n < 1 <<< 53 then n
  else
    let shift := n.log2 - 52
    let q := n >>> shift
    let r := 2 * (n % 1 <<< shift)
    let q := if r > 1 <<< shift || (r == 1 <<< shift && q % 2 == 1) then q + 1 else q
    q <<< shift

/-- Whether `significand * 10 ^ exponent` is too large for a double. -/
def overflows (significand : Nat) (exponent : Int) : Bool :=
  if significand = 0 ∨ exponent < 0 then false
  else if exponent > 308 then true
  else round53 significand * round53 (Nat.pow 10 exponent.toNat) ≥ 1 <<< 1024 - 1 <<< 970

/-- Takes digits onto a number as long as it fits 64 bits; comes to the number and the digits left. -/
def absorb (n : Nat) : Bytes → Nat × Bytes
  | [] => (n, [])
  | d :: ds =>
    let m := n * 10 + (d.toNat - 0x30)
    if m ≥ limit64 then (n, d :: ds) else absorb m ds

def ofParts (significand : Nat) (exponent : Int) (rest : Bytes) : Except Complaint (Number × Bytes) :=
  if overflows significand exponent then .error .malformed else .ok (double, rest)

/-- The exponent that digits say, unless it is too large to be told apart. -/
def exponentOf (ds : Bytes) : Option Nat :=
  let n := ds.foldl (fun n d => min limit31 (n * 10 + (d.toNat - 0x30))) 0
  if n < limit31 then some n else none

/-- Reads an exponent after its mark. -/
def readExponent (significand : Nat) (start : Int) (bs : Bytes) : Except Complaint (Number × Bytes) :=
  let negative := bs.head? == some (ascii '-')
  let bs := if negative || bs.head? == some (ascii '+') then bs.drop 1 else bs
  match bs.takeWhile isDigit, bs.dropWhile isDigit with
  | [], [] => .error .cutShort
  | [], _ :: _ => .error .malformed
  | digits, rest =>
    match exponentOf digits with
    | some e => ofParts significand (if negative then start - e else start + e) rest
    | none => if significand ≠ 0 ∧ negative = false then .error .malformed else .ok (double, rest)

/-- Reads what may follow the digits of a fraction. -/
def readMark (significand : Nat) (exponent : Int) : Bytes → Except Complaint (Number × Bytes)
  | [] => ofParts significand exponent []
  | b :: rest =>
    if b = ascii 'e' ∨ b = ascii 'E' then readExponent significand exponent rest
    else ofParts significand exponent (b :: rest)

/-- Reads a fraction after its point. -/
def readFraction (significand : Nat) (exponent : Int) (bs : Bytes) : Except Complaint (Number × Bytes) :=
  match bs.takeWhile isDigit, bs.dropWhile isDigit with
  | [], [] => .error .cutShort
  | [], _ :: _ => .error .malformed
  | digits, rest =>
    let (significand, left) := absorb significand digits
    readMark significand (exponent - (digits.length - left.length : Nat)) rest

/-- Reads what follows the digits of a number. -/
def readTail (negative : Bool) (significand : Nat) (dropped : Nat) (rest : Bytes) :
    Except Complaint (Number × Bytes) :=
  let plain : Except Complaint (Number × Bytes) :=
    if dropped ≠ 0 then ofParts significand dropped rest
    else if negative then .ok (if significand = 0 ∨ significand > limit63 then double else Number.negative, rest)
    else .ok (natural significand, rest)
  match rest with
  | [] => plain
  | b :: more =>
    if b = ascii '.' then readFraction significand dropped more
    else if b = ascii 'e' ∨ b = ascii 'E' then readExponent significand dropped more
    else plain

/-- Reads a number after its sign. -/
def read (negative : Bool) (bs : Bytes) : Except Complaint (Number × Bytes) :=
  match bs.takeWhile isDigit, bs.dropWhile isDigit with
  | [], [] => .error .cutShort
  | [], _ :: _ => .error .malformed
  | 0x30 :: _ :: _, _ => .error .malformed
  | digits, rest =>
    let (significand, left) := absorb 0 digits
    readTail negative significand left.length rest

end Number

end Courier.Json
