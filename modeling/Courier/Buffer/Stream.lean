import Courier.Buffer.Basic

/-!
# Reading a stream into a buffer

A `Source` is what a reader will hand out: data, ends of file and faults, in order. A `Reader` hands it out read by
read and keeps the reads made. `readAll` reads a source to its end in chunks of `chunkSize`, passing over
interruptions; it also tells which reads it made and what of the source it left unread. The program notes each piece
below the debug level; the events of `Courier.Event` start at that level, and the reads made stand for these notes.
-/

namespace Courier

/-- Something a reader hands out. -/
inductive Delivery where
  | data (bytes : Bytes)
  | ended
  | failed (fault : IoFault)
  deriving DecidableEq, Repr

/-- What a reader hands out, in order; after it, end of file. -/
abbrev Source := List Delivery

/-- The result of one read. No bytes means the end of the file. -/
inductive ReadResult where
  | bytes (bs : Bytes)
  | fault (fault : IoFault)
  deriving DecidableEq, Repr

/-- How many bytes one read of a reply asks for. -/
def chunkSize : Nat := 1024

namespace Delivery

/-- A bound on the reads a delivery can take part in. -/
def weight : Delivery → Nat
  | data bs => bs.length + 1
  | _ => 1

end Delivery

namespace Source

/-- One read of at most `space` bytes. Data that does not fit stays for the next read. -/
def read (space : Nat) : Source → ReadResult × Source
  | [] => (.bytes [], [])
  | .ended :: rest => (.bytes [], rest)
  | .failed e :: rest => (.fault e, rest)
  | .data bs :: rest =>
    match bs.drop space with
    | [] => (.bytes bs, rest)
    | more => (.bytes (bs.take space), .data more :: rest)

/-- A bound on the reads until a source is used up. -/
def weight : Source → Nat
  | [] => 0
  | d :: rest => d.weight + weight rest

/-- A read that hands something out, or fails, uses up some of the source. -/
theorem weight_read_lt {space : Nat} (hs : 0 < space) : ∀ {s : Source}, (read space s).1 ≠ .bytes [] →
    weight (read space s).2 < weight s
  | [], h => absurd rfl h
  | .ended :: rest, h => absurd rfl h
  | .failed e :: rest, _ => by simp [read, weight, Delivery.weight]
  | .data bs :: rest, _ => by
    rw [read]
    split
    · simp [weight, Delivery.weight]
    · rename_i h
      have hb : bs.drop space ≠ [] := fun h' => by simp_all
      have : space < bs.length := by simpa using hb
      simp only [weight, Delivery.weight, List.length_drop]
      omega

end Source

/-- A reader: what it will hand out, and the reads made of it so far, the last one first. A read is the space
offered and the result. -/
@[ext] structure Reader where
  source : Source
  log : List (Nat × ReadResult)

namespace Reader

/-- One read of at most `space` bytes. -/
def read (space : Nat) (r : Reader) : ReadResult × Reader :=
  let (result, rest) := r.source.read space
  (result, ⟨rest, (space, result) :: r.log⟩)

theorem weight_read_lt {space : Nat} (hs : 0 < space) {r r' : Reader} {result : ReadResult}
    (h : r.read space = (result, r')) (hr : result ≠ .bytes []) : r'.source.weight < r.source.weight := by
  obtain ⟨rfl, rfl⟩ := Prod.mk.inj h
  exact Source.weight_read_lt hs hr

end Reader

/-- The memory that the reads of a reply are made into, one after the other. -/
structure Chunk where
  bytes : Bytes
  length_eq : bytes.length = chunkSize

namespace Chunk

def blank : Chunk := ⟨List.replicate chunkSize 0, List.length_replicate⟩

/-- The chunk after a read. What earlier reads left stands behind what this one brought. -/
def fill (bs : Bytes) (c : Chunk) : Chunk :=
  ⟨bs.take chunkSize ++ c.bytes.drop bs.length, by simp [c.length_eq]; omega⟩

theorem length_pos (c : Chunk) : 0 < c.bytes.length := by
  rw [c.length_eq]
  decide

end Chunk

/-- Reads onto a buffer until the end of the file or a fault that is no interruption. Each read is made into the
same chunk, and as many bytes of it are appended as the read brought. `grants` are the allocator's answers to the
appends from number `n` on. -/
def readOnto (grants : Nat → Grant) (classify : IoFault → Failure) (n : Nat) (buffer : Buffer) (chunk : Chunk)
    (r : Reader) : Reply × Reader :=
  match hr : r.read chunk.bytes.length with
  | (.bytes [], r') => (.ok buffer, r')
  | (.bytes (b :: bs), r') =>
    have := Reader.weight_read_lt chunk.length_pos hr (by simp)
    match buffer.append (grants n) ((chunk.fill (b :: bs)).bytes.take (b :: bs).length) with
    | (.ok _, buffer) => readOnto grants classify (n + 1) buffer (chunk.fill (b :: bs)) r'
    | (.error f, _) => (.error f, r')
  | (.fault e, r') =>
    have := Reader.weight_read_lt chunk.length_pos hr (by simp)
    if e.kind = .interrupted then readOnto grants classify n buffer chunk r' else (.error (classify e), r')
termination_by r.source.weight

/-- What reading a source to its end came to. -/
structure Drained where
  reply : Reply
  /-- Each read made: the space offered and the result. -/
  reads : List (Nat × ReadResult)
  /-- What was left unread. -/
  rest : Source

def readAll (grants : Nat → Grant) (classify : IoFault → Failure) (s : Source) : Drained :=
  let (reply, r) := readOnto grants classify 0 .empty .blank ⟨s, []⟩
  ⟨reply, r.log.reverse, r.source⟩

def plenty : Nat → Grant := fun _ => .granted 0

end Courier
