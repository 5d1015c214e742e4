import Courier.Boundary.Envelope

/-!
# Memory handed to C

A reply crosses the boundary as blocks of memory: a record, and the block of its message or of its data.
`Heap` keeps the blocks that were handed out and not yet released. Releasing a block needs its address and its
size, and is a fault if no such block is there. `freeReply` computes the sizes anew, from the length in the
record and from the zero that ends the message.
-/

namespace Courier.Boundary

/-- The address of a block; zero is null. -/
abbrev Address := Nat

/-- The record of a reply in memory. -/
structure Record where
  code : Code
  message : Address
  data : Address
  length : Nat
  deriving DecidableEq, Repr

/-- What a block holds. -/
inductive Block where
  | record (r : Record)
  | bytes (bs : Bytes)
  deriving DecidableEq, Repr

/-- The size of a record: a code, two addresses and a length, eight bytes each. -/
def recordSize : Nat := 32

def Block.size : Block → Nat
  | record _ => recordSize
  | bytes bs => bs.length

/-- The blocks handed out and not yet released, and the next free address. -/
structure Heap where
  next : Address
  blocks : List (Address × Block)
  deriving Repr

/-- Why memory could not be released. -/
inductive HeapFault where
  /-- There is no block at the address: it was never handed out, or released before. -/
  | noBlock
  /-- The block has another size. -/
  | wrongSize
  /-- The block is not what it was taken for. -/
  | wrongKind
  deriving DecidableEq, Repr

namespace Heap

def empty : Heap := ⟨1, []⟩

def allocate (b : Block) (h : Heap) : Address × Heap :=
  (h.next, ⟨h.next + 1, (h.next, b) :: h.blocks⟩)

/-- Hands out a block for bytes that may be missing. -/
def allocate? (bs : Option Bytes) (h : Heap) : Address × Heap :=
  match bs with
  | none => (0, h)
  | some bs => h.allocate (.bytes bs)

/-- Hands out the blocks of an envelope, and comes to the address of its record. -/
def hand (e : Envelope) (h : Heap) : Address × Heap :=
  let (message, h) := h.allocate? e.message
  let (data, h) := h.allocate? e.data
  h.allocate (.record ⟨e.code, message, data, e.length⟩)

/-- The bytes at an address. -/
def bytesAt (h : Heap) (a : Address) : Except HeapFault Bytes :=
  match h.blocks.lookup a with
  | some (.bytes bs) => .ok bs
  | some (.record _) => .error .wrongKind
  | none => .error .noBlock

/-- The record at an address. -/
def recordAt (h : Heap) (a : Address) : Except HeapFault Record :=
  match h.blocks.lookup a with
  | some (.record r) => .ok r
  | some (.bytes _) => .error .wrongKind
  | none => .error .noBlock

def bytesAt? (h : Heap) (a : Address) : Except HeapFault (Option Bytes) :=
  if a = 0 then .ok none else (h.bytesAt a).map some

/-- The envelope at an address, as a C program sees it. -/
def view (h : Heap) (a : Address) : Except HeapFault Envelope := do
  let r ← h.recordAt a
  pure ⟨r.code, ← h.bytesAt? r.message, ← h.bytesAt? r.data, r.length⟩

/-- Releases the block of a given size at an address. -/
def release (a : Address) (size : Nat) (h : Heap) : Except HeapFault Heap :=
  match h.blocks.lookup a with
  | none => .error .noBlock
  | some b => if b.size = size then .ok { h with blocks := h.blocks.filter fun e => e.1 != a } else .error .wrongSize

/-- The size of the C string at an address: its contents and the zero after them. -/
def stringSize (h : Heap) (a : Address) : Except HeapFault Nat := do
  pure ((cContents (← h.bytesAt a)).length + 1)

def freeMessage (r : Record) (h : Heap) : Except HeapFault Heap :=
  if r.message = 0 then .ok h else do h.release r.message (← h.stringSize r.message)

def freeData (r : Record) (h : Heap) : Except HeapFault Heap :=
  if r.data = 0 then .ok h else h.release r.data (r.length + 1)

/-- Releases a reply with all that belongs to it. Null is left alone. -/
def freeReply (a : Address) (h : Heap) : Except HeapFault Heap :=
  if a = 0 then .ok h
  else do
    let r ← h.recordAt a
    (← (← h.freeMessage r).freeData r).release a recordSize

end Heap

end Courier.Boundary
