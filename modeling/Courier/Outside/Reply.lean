import Courier.Limits
import Courier.Transport.Library
import Courier.Wire.Field

/-!
# Reading a reply from a connection

`Reply.read?` reads the first response from all the bytes that a peer sends before it closes. The head has to
be whole and well formed; a body that breaks off or is badly coded is found only by whoever reads it, after
the bytes that were good.
-/

namespace Courier.Wire

namespace Reply

/-- The head of a response. -/
structure Head where
  /-- Whether the version allows a coded body. -/
  isModern : Bool
  status : Nat
  fields : Fields
  deriving DecidableEq, Repr

def line? (bs : Bytes) : Option (Bytes × Bytes) :=
  let line := bs.takeWhile (· != ascii '\n')
  match bs.drop line.length with
  | [] => none
  | _ :: rest => some (if line.getLast? == some (ascii '\r') then line.dropLast else line, rest)

def statusLine? (line : Bytes) : Option (Bool × Nat) :=
  match Bytes.toLatin line with
  | 'H' :: 'T' :: 'T' :: 'P' :: '/' :: '1' :: '.' :: v :: ' ' :: a :: b :: c :: rest =>
    let ds := [a, b, c]
    let status := ds.foldl (fun n d => n * 10 + (d.toNat - 48)) 0
    let reasonIsGood := rest.isEmpty || (rest.head? == some ' ' && line.all isValueByte)
    if (v == '0' || v == '1') && ds.all Char.isDigit && reasonIsGood && 100 ≤ status then some (v == '1', status)
    else none
  | _ => none

def trimmed (bs : Bytes) : Bytes :=
  let isBlank (b : UInt8) : Bool := b == ascii ' ' || b == ascii '\t'
  ((bs.dropWhile isBlank).reverse.dropWhile isBlank).reverse

def field? (line : Bytes) : Option (Bytes × Bytes) :=
  let name := line.takeWhile (· != ascii ':')
  let value := trimmed ((line.drop name.length).drop 1)
  if name.length < line.length && isField name value then some (name.map lowerByte, value) else none

def fields? (fuel : Nat) (done : Fields) (bs : Bytes) : Option (Fields × Bytes) :=
  match fuel with
  | 0 => none
  | fuel + 1 => do
    let (line, rest) ← line? bs
    if line.isEmpty then return (done.reverse, rest)
    else fields? fuel ((← field? line) :: done) rest

def maxFields : Nat := 128

def head? (bs : Bytes) : Option (Head × Bytes) := do
  let (line, rest) ← line? bs
  let (isModern, status) ← statusLine? line
  let (fields, rest) ← fields? (maxFields + 1) [] rest
  return (⟨isModern, status, fields⟩, rest)

def brokenOff : Delivery := .failed (.described .unexpectedEof "Peer disconnected")

def badCoding : Delivery := .failed (.described .invalidData "Invalid chunk")

def hexadecimal? (ds : Bytes) : Option Nat :=
  if ds.isEmpty then none
  else ds.foldlM (fun n d => (hexValue? d).map fun x => n * 16 + x) 0

/-- The body in chunks, each after a line with its length, up to one of length zero. `fuel` bounds the chunks. -/
def chunks (fuel : Nat) (bs : Bytes) : Source :=
  match fuel with
  | 0 => [badCoding]
  | fuel + 1 =>
    match line? bs with
    | none => [brokenOff]
    | some (line, rest) =>
      match hexadecimal? (trimmed (line.takeWhile (· != ascii ';'))) with
      | none => [badCoding]
      | some 0 => if (fields? (rest.length + 1) [] rest).isSome then [] else [brokenOff]
      | some n =>
        if rest.length < n then [.data rest, brokenOff]
        else match rest.drop n with
          | a :: b :: after =>
            if a == ascii '\r' && b == ascii '\n' then .data (rest.take n) :: chunks fuel after
            else [.data (rest.take n), badCoding]
          | _ => [.data (rest.take n), brokenOff]

def body? (h : Head) (rest : Bytes) : Option Source :=
  let isChunked := h.isModern && h.fields.any fun f =>
    f.1 == Utf8.encode "transfer-encoding".toList && (f.2.splitOn (ascii ',')).any fun c =>
      (trimmed c).map lowerByte == Utf8.encode "chunked".toList
  if h.status = 204 ∨ h.status = 304 then some []
  else if isChunked then some (chunks (rest.length + 1) rest)
  else match h.fields.value? "content-length" with
    | none => some [.data rest]
    | some value => do
      let n ← natural? limit64 (Bytes.toLatin value)
      return if rest.length < n then [.data rest, brokenOff] else [.data (rest.take n)]

def read? (bs : Bytes) : Option Response := do
  let (h, rest) ← head? bs
  let body ← body? h rest
  return ⟨h.status, h.fields.map fun f =>
    (String.ofList (Bytes.toLatin f.1), String.ofList (Bytes.toLatin f.2)), body⟩

end Reply

end Courier.Wire
