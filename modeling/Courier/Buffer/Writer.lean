import Courier.Buffer.Stream

/-!
# Writing onto a buffer

A `Writer` is a buffer that is written to, with the number of requests for room the allocator has answered. Besides
single writes there are those that go on until all of something is written: a chunk, the pieces of a formatted text,
or what a reader hands out. Each of them is a loop over `Writer.write`, and stops at the first fault.
-/

namespace Courier

/-- A buffer that is written to, and how many requests for room the allocator has answered. -/
structure Writer where
  buffer : Buffer
  requests : Nat

namespace Writer

/-- The fault of a write that takes nothing. -/
def nothingTaken : IoFault :=
  .described .writeZero "failed to write whole buffer"

/-- How many bytes one read of a reader that is copied asks for. -/
def copySize : Nat := 8192

def append (grants : Nat → Grant) (chunk : Bytes) (w : Writer) : Except Failure Unit × Writer :=
  let (result, buffer) := w.buffer.append (grants w.requests) chunk
  (result, ⟨buffer, w.requests + 1⟩)

def write (grants : Nat → Grant) (chunk : Bytes) (w : Writer) : Except IoFault Nat × Writer :=
  let (result, buffer) := w.buffer.write (grants w.requests) chunk
  (result, ⟨buffer, w.requests + 1⟩)

/-- Writes until nothing is left of a chunk. A write onto a buffer is never interrupted, so none is tried again. -/
def writeAll (grants : Nat → Grant) (chunk : Bytes) (w : Writer) : Except IoFault Unit × Writer :=
  if h : chunk = [] then (.ok (), w)
  else
    match w.write grants chunk with
    | (.error e, w) => (.error e, w)
    | (.ok 0, w) => (.error nothingTaken, w)
    | (.ok (k + 1), w) =>
      have : (chunk.drop (k + 1)).length < chunk.length := by
        have := List.length_pos_iff.2 h
        rw [List.length_drop]
        omega
      writeAll grants (chunk.drop (k + 1)) w
termination_by chunk.length

/-- Writes the pieces of a formatted text. -/
def writeFormatted (grants : Nat → Grant) : List (List Char) → Writer → Except IoFault Unit × Writer
  | [], w => (.ok (), w)
  | piece :: pieces, w =>
    match w.writeAll grants (Utf8.encode piece) with
    | (.error e, w) => (.error e, w)
    | (.ok _, w) => writeFormatted grants pieces w

/-- Writes what a reader hands out until its end, onto `total` bytes already copied. Interrupted reads are made
again. -/
def copyOnto (grants : Nat → Grant) (total : Nat) (r : Reader) (w : Writer) : Except IoFault Nat × Writer :=
  match hr : r.read copySize with
  | (.bytes [], _) => (.ok total, w)
  | (.bytes (b :: bs), r') =>
    have := Reader.weight_read_lt (by decide) hr (by simp)
    match w.writeAll grants (b :: bs) with
    | (.error e, w) => (.error e, w)
    | (.ok _, w) => copyOnto grants (total + (b :: bs).length) r' w
  | (.fault e, r') =>
    have := Reader.weight_read_lt (by decide) hr (by simp)
    if e.kind = .interrupted then copyOnto grants total r' w else (.error e, w)
termination_by r.source.weight

/-- Writes what a source hands out, and tells how many bytes that was. -/
def copy (grants : Nat → Grant) (s : Source) (w : Writer) : Except IoFault Nat × Writer :=
  copyOnto grants 0 ⟨s, []⟩ w

/-- Nothing is held back, so there is nothing to flush. -/
def flush (w : Writer) : Except IoFault Unit × Writer :=
  (.ok (), w)

end Writer

end Courier
