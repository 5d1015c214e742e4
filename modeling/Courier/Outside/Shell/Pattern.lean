import Courier.Outside.Shell.Tree

/-!
# Patterns

Shell patterns: `*`, `?` and bracket expressions, where they are not quoted. `matches?` says whether a pattern
matches a whole text.
-/

namespace Courier.Shell

abbrev Mark := Char × Bool

/-- A piece of a pattern. -/
inductive PatternItem where
  | char (c : Char)
  | any
  | star
  /-- One of some ranges, or a character in none of them. -/
  | oneOf (negated : Bool) (ranges : List (Char × Char))
  deriving DecidableEq, Repr

namespace Pattern

/-- The characters of the classes of a bracket expression. -/
def classRanges (name : Text) : List (Char × Char) :=
  match String.ofList name with
  | "alpha" => [('a', 'z'), ('A', 'Z')]
  | "digit" => [('0', '9')]
  | "alnum" => [('a', 'z'), ('A', 'Z'), ('0', '9')]
  | "upper" => [('A', 'Z')]
  | "lower" => [('a', 'z')]
  | "space" => [(' ', ' '), ('\t', '\r')]
  | "blank" => [(' ', ' '), ('\t', '\t')]
  | "punct" => [('!', '/'), (':', '@'), ('[', '\x60'), ('{', '~')]
  | "print" => [(' ', '~')]
  | "graph" => [('!', '~')]
  | "cntrl" => [('\x00', '\x1f'), ('\x7f', '\x7f')]
  | "xdigit" => [('0', '9'), ('a', 'f'), ('A', 'F')]
  | _ => []

def className (cs : List Mark) : Option (Text × List Mark) :=
  let name := (cs.takeWhile fun c => c.1.isAlpha).map Prod.fst
  match cs.dropWhile (fun c => c.1.isAlpha) with
  | (':', _) :: (']', _) :: rest => some (name, rest)
  | _ => none

/-- Reads the ranges of a bracket expression up to its end. `fuel` bounds the characters read. -/
def bracket (fuel : Nat) (first : Bool) (ranges : List (Char × Char)) (cs : List Mark) :
    Option (List (Char × Char) × List Mark) :=
  match fuel with
  | 0 => none
  | fuel + 1 =>
    match cs with
    | [] => none
    | (']', false) :: rest => if first then bracket fuel false (ranges ++ [(']', ']')]) rest else some (ranges, rest)
    | ('[', false) :: (':', false) :: rest =>
      match className rest with
      | some (name, rest) => bracket fuel false (ranges ++ classRanges name) rest
      | none => bracket fuel false (ranges ++ [('[', '[')]) ((':', false) :: rest)
    | (a, _) :: ('-', false) :: (b, q) :: rest =>
      if b == ']' && !q then bracket fuel false (ranges ++ [(a, a), ('-', '-')]) ((b, q) :: rest)
      else bracket fuel false (ranges ++ [(a, b)]) rest
    | (a, _) :: rest => bracket fuel false (ranges ++ [(a, a)]) rest

/-- Reads a pattern. A bracket that is never closed stands for itself. `fuel` bounds the pieces read. -/
def itemsFrom (fuel : Nat) (done : List PatternItem) (cs : List Mark) : List PatternItem :=
  match fuel with
  | 0 => done.reverse
  | fuel + 1 =>
    match cs with
    | [] => done.reverse
    | ('*', false) :: rest => itemsFrom fuel (.star :: done) rest
    | ('?', false) :: rest => itemsFrom fuel (.any :: done) rest
    | ('[', false) :: rest =>
      let (negated, inner) := match rest with
        | ('!', false) :: r => (true, r)
        | ('^', false) :: r => (true, r)
        | r => (false, r)
      match bracket (inner.length + 1) true [] inner with
      | some (ranges, rest) => itemsFrom fuel (.oneOf negated ranges :: done) rest
      | none => itemsFrom fuel (.char '[' :: done) rest
    | (c, _) :: rest => itemsFrom fuel (.char c :: done) rest

def items (cs : List Mark) : List PatternItem :=
  itemsFrom (cs.length + 1) [] cs

def inRanges (c : Char) (ranges : List (Char × Char)) : Bool :=
  ranges.any fun r => r.1 ≤ c && c ≤ r.2

/-- Whether a test holds of a text or of one of the texts that are left when it is cut at the front. -/
def anySuffix (p : Text → Bool) : Text → Bool
  | [] => p []
  | c :: cs => p (c :: cs) || anySuffix p cs

def matches? : List PatternItem → Text → Bool
  | [], cs => cs.isEmpty
  | .star :: ps, cs => anySuffix (matches? ps) cs
  | .char a :: ps, c :: cs => a == c && matches? ps cs
  | .any :: ps, _ :: cs => matches? ps cs
  | .oneOf negated ranges :: ps, c :: cs => (inRanges c ranges != negated) && matches? ps cs
  | _ :: _, [] => false

def isActive (cs : List Mark) : Bool :=
  (items cs).any fun
    | .char _ => false
    | _ => true

def dropPrefix (longest : Bool) (ps : List PatternItem) (cs : Text) : Text :=
  let cuts := List.range (cs.length + 1)
  match (if longest then cuts.reverse else cuts).find? fun n => matches? ps (cs.take n) with
  | some n => cs.drop n
  | none => cs

def dropSuffix (longest : Bool) (ps : List PatternItem) (cs : Text) : Text :=
  let cuts := List.range (cs.length + 1)
  match (if longest then cuts else cuts.reverse).find? fun n => matches? ps (cs.drop n) with
  | some n => cs.take n
  | none => cs

end Pattern

end Courier.Shell
