import Courier.Buffer.Writer

/-!
# Buffers in use

A `Desk` holds buffers side by side, each known by its place. A `Command` makes a buffer, clones one, or does an
`Action` on one; `Desk.run` follows a list of commands and keeps what each came to.
-/

namespace Courier

/-- The buffers in use, and how many requests for room the allocator has answered. -/
structure Desk where
  buffers : List Buffer
  requests : Nat

namespace Desk

/-- The ways a buffer comes to be. -/
inductive Start where
  | new
  | default
  | bytes (bs : Bytes)
  | text (s : String)
  deriving Repr

/-- The ways a buffer is added to. -/
inductive Action where
  | append (chunk : Bytes)
  | write (chunk : Bytes)
  | writeAll (chunk : Bytes)
  | format (pieces : List (List Char))
  | copy (s : Source)
  | flush
  deriving Repr

/-- What a command came to. -/
inductive Answer where
  /-- A buffer was put on the desk. -/
  | made
  /-- There is no buffer at the place. -/
  | absent
  | appended (result : Except Failure Unit)
  | written (result : Except IoFault Unit)
  | taken (result : Except IoFault Nat)

/-- What is done with the buffers of a desk. -/
inductive Command where
  | make (start : Start)
  | clone (place : Nat)
  | act (place : Nat) (action : Action)
  deriving Repr

/-- The buffer that is made. -/
def Start.buffer : Start → Buffer
  | new => .empty
  | default => Inhabited.default
  | bytes bs => .ofList bs
  | text s => .ofText s

/-- Does an action. -/
def Action.perform (grants : Nat → Grant) (w : Writer) : Action → Answer × Writer
  | append chunk => (w.append grants chunk).map .appended id
  | write chunk => (w.write grants chunk).map .taken id
  | writeAll chunk => (w.writeAll grants chunk).map .written id
  | format pieces => (w.writeFormatted grants pieces).map .written id
  | copy s => (w.copy grants s).map .taken id
  | flush => w.flush.map .written id

def empty : Desk := ⟨[], 0⟩

/-- Puts a buffer on the desk, in the next place. -/
def put (b : Buffer) (d : Desk) : Desk :=
  { d with buffers := d.buffers ++ [b] }

/-- Follows a command. -/
def step (grants : Nat → Grant) (d : Desk) : Command → Answer × Desk
  | .make start => (.made, d.put start.buffer)
  | .clone place =>
    match d.buffers[place]? with
    | none => (.absent, d)
    | some b => (.made, d.put b.clone)
  | .act place action =>
    match d.buffers[place]? with
    | none => (.absent, d)
    | some b =>
      let (answer, w) := action.perform grants ⟨b, d.requests⟩
      (answer, ⟨d.buffers.set place w.buffer, w.requests⟩)

/-- Follows commands one after the other. -/
def run (grants : Nat → Grant) (d : Desk) : List Command → List Answer × Desk
  | [] => ([], d)
  | c :: commands =>
    let (answer, d) := d.step grants c
    let (answers, d) := d.run grants commands
    (answer :: answers, d)

end Desk

end Courier
