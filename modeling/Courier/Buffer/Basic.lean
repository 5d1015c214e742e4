import Courier.Failure
import Courier.Buffer.Storage

/-!
# The reply buffer

A buffer only grows. Its storage always ends with one zero byte that is not part of the contents, so the
contents can be handed to C as a string without being copied. `append` reserves room for a chunk before it
touches the storage, so that a refusal leaves the buffer as it was.
-/

namespace Courier

/-- Bytes of a reply, followed in storage by a zero. -/
structure Buffer where
  storage : Storage
  terminated : storage.bytes.back? = some 0

/-- What a request comes to: the bytes of the reply, or why there are none. -/
abbrev Reply := Except Failure Buffer

namespace Buffer

def ofList (bs : Bytes) : Buffer :=
  ⟨.ofArray (bs.toArray.push 0), by simp [Storage.ofArray]⟩

def ofText (s : String) : Buffer :=
  ofList (Utf8.encode s.toList)

def empty : Buffer :=
  ⟨.ofArray #[0], rfl⟩

instance : Inhabited Buffer := ⟨empty⟩

def toList (b : Buffer) : Bytes :=
  b.storage.bytes.pop.toList

def length (b : Buffer) : Nat :=
  b.storage.bytes.size - 1

def isEmpty (b : Buffer) : Bool :=
  b.length == 0

/-- The contents and the zero after them. -/
def toListWithZero (b : Buffer) : Bytes :=
  b.storage.bytes.toList

/-- The contents read in place: the storage up to the length. -/
def view (b : Buffer) : Bytes :=
  b.storage.bytes.toList.take b.length

/-- The contents as text, with `U+FFFD` for each broken piece. -/
def toText (b : Buffer) : List Char :=
  Utf8.decodeLossy b.view

/-- A buffer of its own with the same contents, and no more room than they need. -/
def clone (b : Buffer) : Buffer :=
  ⟨.ofArray b.storage.bytes, b.terminated⟩

/-- Adds a chunk to the contents. An empty chunk changes nothing and asks for no room; any other is added
whole, or not at all when there is no room for it. -/
def append (g : Grant) (chunk : Bytes) (b : Buffer) : Except Failure Unit × Buffer :=
  if chunk.isEmpty then (.ok (), b)
  else match b.storage.reserve g chunk.length with
    | .error x => (.error (.allocation x), b)
    | .ok s => (.ok (), ⟨((s.pop).extend chunk).push 0, by simp⟩)

/-- Adds a chunk as a writer does: the number of bytes taken, or an out-of-memory fault. -/
def write (g : Grant) (chunk : Bytes) (b : Buffer) : Except IoFault Nat × Buffer :=
  match b.append g chunk with
  | (.ok _, b') => (.ok chunk.length, b')
  | (.error f, b') => (.error (.described .outOfMemory f.message), b')

/-! ## The view of each operation -/

@[simp] theorem toList_ofList (bs : Bytes) : (ofList bs).toList = bs := by
  simp [ofList, toList, Storage.ofArray]

@[simp] theorem toList_empty : empty.toList = [] := rfl

/-- In storage the contents are followed by one zero. -/
theorem toListWithZero_eq (b : Buffer) : b.toListWithZero = b.toList ++ [0] := by
  obtain ⟨s, h⟩ := b
  obtain ⟨h', e⟩ := Array.back?_eq_some_iff.1 h
  simp [toListWithZero, toList, e]

@[simp] theorem view_eq (b : Buffer) : b.view = b.toList := by
  simp [view, length, toList, List.dropLast_eq_take]

@[simp] theorem toList_clone (b : Buffer) : b.clone.toList = b.toList := rfl

theorem length_toList (b : Buffer) : b.toList.length = b.length := by
  simp [toList, length]

theorem toList_append {g : Grant} {chunk : Bytes} {b : Buffer} (h : (b.append g chunk).1 = .ok ()) :
    (b.append g chunk).2.toList = b.toList ++ chunk := by
  unfold append at h ⊢
  split
  · next hc => simp [List.isEmpty_iff.1 hc]
  · next hc =>
    cases g with
    | refused => simp [hc, Storage.reserve] at h
    | granted slack => simp [Storage.reserve, toList]

end Buffer

end Courier
