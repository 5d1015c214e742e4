/-!
# Shell commands

The tree of a shell command. The shell works on bytes; a byte is held as the character with its number. A word
is a list of parts, each of them quoted or not: only what is not quoted can be split into fields or matched
against file names.
-/

namespace Courier.Shell

abbrev Text := List Char

/-- What is done to the value of a parameter. -/
inductive ParamOp where
  | value
  /-- The word where the parameter is not set. -/
  | default
  /-- The word, which also becomes the value, where the parameter is not set. -/
  | assign
  /-- A fault where the parameter is not set. -/
  | require
  /-- The word where the parameter is set. -/
  | instead
  | dropSuffix (longest : Bool)
  | dropPrefix (longest : Bool)
  /-- No operation; a fault where it is reached. -/
  | invalid
  deriving DecidableEq, Repr

/-- How a file is opened. -/
inductive OpenMode where
  | read
  | write
  | append
  | readWrite
  deriving DecidableEq, Repr

mutual

/-- A part of a word. -/
inductive Part where
  | text (quoted : Bool) (cs : Text)
  /-- A parameter; with `orEmpty` an empty value counts as none. -/
  | param (quoted : Bool) (name : Text) (op : ParamOp) (orEmpty : Bool) (word : List Part)
  /-- The length of a parameter. -/
  | size (quoted : Bool) (name : Text)
  /-- The output of a command. -/
  | output (quoted : Bool) (body : Cmd)
  | arithmetic (quoted : Bool) (body : List Part)

/-- A redirection of a descriptor. -/
inductive Redirect where
  | file (fd : Nat) (mode : OpenMode) (target : List Part)
  /-- The descriptor becomes a copy of another, or is closed for a dash. -/
  | copy (fd : Nat) (source : List Part)
  /-- The text with a number among those that stand after the line. -/
  | here (fd : Nat) (index : Nat)

/-- A command. -/
inductive Cmd where
  | nothing
  | simple (assigns : List (Text × List Part)) (words : List (List Part)) (redirects : List Redirect)
  | pipeline (stages : List Cmd)
  | negate (body : Cmd)
  | both (first second : Cmd)
  | either (first second : Cmd)
  | sequence (first second : Cmd)
  | background (body : Cmd)
  | subshell (body : Cmd)
  | redirected (body : Cmd) (redirects : List Redirect)
  | choose (condition yes no : Cmd)
  /-- Repeats the body while the condition succeeds, or until it does. -/
  | loop (untilTrue : Bool) (condition body : Cmd)
  /-- Runs the body for each of some words, or for each positional parameter. -/
  | each (name : Text) (words : Option (List (List Part))) (body : Cmd)
  | select (subject : List Part) (clauses : List (List (List Part) × Cmd))
  | define (name : Text) (body : Cmd)

end

instance : Inhabited Cmd := ⟨.nothing⟩

abbrev Word := List Part

def isNameStart (c : Char) : Bool :=
  c.isAlpha || c == '_'

def isNameChar (c : Char) : Bool :=
  isNameStart c || c.isDigit

def isName : Text → Bool
  | [] => false
  | c :: cs => isNameStart c && cs.all isNameChar

end Courier.Shell
