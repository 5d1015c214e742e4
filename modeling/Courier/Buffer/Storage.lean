/-!
# Growable memory

`Storage` is a run of bytes with some room set aside for more. `reserve` asks for room and reports why there is
none. The other operations grow the room silently when it is too small; that growth cannot report a failure, so
`overruns` counts it, and a user of `Storage` keeps the count at zero by reserving first.
-/

namespace Courier

/-- Why there is no more room. -/
inductive ReserveFault where
  /-- No storage can be as large as that. -/
  | tooLarge
  /-- The allocator has no such block to give. -/
  | outOfMemory
  deriving DecidableEq, Repr

def ReserveFault.message : ReserveFault → String
  | tooLarge => "memory allocation failed because the computed capacity exceeded the collection's maximum"
  | outOfMemory => "memory allocation failed because the memory allocator returned an error"

/-- The answer to a request for more room. -/
inductive Grant where
  | refused (fault : ReserveFault)
  /-- The room asked for, and `slack` bytes more. -/
  | granted (slack : Nat)
  deriving DecidableEq, Repr

/-- Bytes, the room set aside for them, and how often they outgrew it. -/
structure Storage where
  bytes : Array UInt8
  capacity : Nat
  overruns : Nat

namespace Storage

def ofArray (bytes : Array UInt8) : Storage :=
  ⟨bytes, bytes.size, 0⟩

/-- Asks for room for `extra` more bytes. -/
def reserve (g : Grant) (extra : Nat) (s : Storage) : Except ReserveFault Storage :=
  match g with
  | .refused x => .error x
  | .granted slack => .ok { s with capacity := max s.capacity (s.bytes.size + extra) + slack }

/-- Makes the room `size` bytes large if it is smaller, and counts that. -/
def ensure (size : Nat) (s : Storage) : Storage :=
  if size ≤ s.capacity then s else { s with capacity := size, overruns := s.overruns + 1 }

def pop (s : Storage) : Storage :=
  { s with bytes := s.bytes.pop }

def push (b : UInt8) (s : Storage) : Storage :=
  let s := s.ensure (s.bytes.size + 1)
  { s with bytes := s.bytes.push b }

def extend (chunk : List UInt8) (s : Storage) : Storage :=
  let s := s.ensure (s.bytes.size + chunk.length)
  { s with bytes := s.bytes ++ chunk }

@[simp] theorem bytes_ensure (n : Nat) (s : Storage) : (s.ensure n).bytes = s.bytes := by
  unfold ensure; split <;> rfl

@[simp] theorem bytes_push (b : UInt8) (s : Storage) : (s.push b).bytes = s.bytes.push b := by
  simp [push]

@[simp] theorem bytes_extend (chunk : List UInt8) (s : Storage) : (s.extend chunk).bytes = s.bytes ++ chunk := by
  simp [extend]

@[simp] theorem bytes_pop (s : Storage) : s.pop.bytes = s.bytes.pop := rfl

end Storage

end Courier
