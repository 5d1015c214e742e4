import Courier.Outside.Shell.Tree

/-!
# What commands read

A `Feed` is a text that is read from its front. It may go on without end, which is how an endless output is
handed to a command that takes only some of it.
-/

namespace Courier.Shell

/-- A text, and what follows it over and over again, if anything does. -/
structure Feed where
  front : Text
  cycle : Text
  deriving Inhabited

namespace Feed

def ofText (cs : Text) : Feed := ⟨cs, []⟩

def empty : Feed := ofText []

def isEndless (f : Feed) : Bool := !f.cycle.isEmpty

def unrolled (n : Nat) (f : Feed) : Feed :=
  if f.cycle.isEmpty then f
  else
    let times := (n - f.front.length + f.cycle.length - 1) / f.cycle.length
    { f with front := f.front ++ (List.replicate times f.cycle).flatten }

def take (n : Nat) (f : Feed) : Text := (f.unrolled n).front.take n

def drop (n : Nat) (f : Feed) : Feed :=
  let f := f.unrolled n
  { f with front := f.front.drop n }

def append (f g : Feed) : Feed :=
  if f.isEndless then f else ⟨f.front ++ g.front, g.cycle⟩

instance : Append Feed := ⟨append⟩

def splitLines (n : Nat) (fuel : Nat) (done : Text) (cs : Text) : Text × Text :=
  match fuel, n with
  | 0, _ | _, 0 => (done.reverse, cs)
  | fuel + 1, n + 1 =>
    match cs with
    | [] => (done.reverse, [])
    | c :: cs => splitLines (if c == '\n' then n else n + 1) fuel (c :: done) cs

def enoughFor (n : Nat) (f : Feed) : Nat :=
  f.front.length + if f.cycle.contains '\n' then n * f.cycle.length else f.cycle.length

def lines (n : Nat) (f : Feed) : Text :=
  let cs := (f.unrolled (f.enoughFor n)).front
  (splitLines n (cs.length + 1) [] cs).1

def dropLines (n : Nat) (f : Feed) : Feed :=
  let f := f.unrolled (f.enoughFor n)
  { f with front := (splitLines n (f.front.length + 1) [] f.front).2 }

def flatMap (g : Char → Text) (f : Feed) : Feed :=
  ⟨f.front.flatMap g, f.cycle.flatMap g⟩

end Feed

def textLines (cs : Text) : List Text :=
  match (cs.splitOn '\n').reverse with
  | [] :: rest => rest.reverse
  | ls => ls.reverse

def unlines (ls : List Text) : Text :=
  ls.flatMap (· ++ ['\n'])

def before : Text → Text → Bool
  | [], _ => true
  | _ :: _, [] => false
  | a :: as, b :: bs => if a == b then before as bs else a.toNat < b.toNat

end Courier.Shell
