import Courier.Outside.Shell.Format
import Courier.Outside.Shell.Program.Basic

/-!
# Conditions

The expressions of `test` and `[`: tests of one text, comparisons of two, and how they are joined.
-/

namespace Courier.Shell.Condition

/-- Why a condition has no value. -/
inductive Fault where
  | missingArgument (op : Text)
  | unexpected (word : Text)
  | unclosed
  | badNumber (word : Text)

def Fault.text : Fault → String
  | missingArgument op => shown op ++ ": argument expected"
  | unexpected w => shown w ++ ": unexpected operator"
  | unclosed => "closing paren expected"
  | badNumber w => "Illegal number: " ++ shown w

def unaryOps : List Text :=
  ["-r", "-w", "-x", "-e", "-f", "-d", "-c", "-b", "-p", "-u", "-g", "-k", "-s", "-t", "-z", "-n", "-h", "-L", "-O",
   "-G", "-S"].map String.toList

def binaryOps : List Text :=
  ["=", "!=", "<", ">", "-eq", "-ne", "-ge", "-gt", "-le", "-lt", "-nt", "-ot", "-ef"].map String.toList

def joiners : List Text :=
  ["-a", "-o"].map String.toList

def isBinary (w : Text) : Bool := binaryOps.contains w || joiners.contains w

def number (cs : Text) : Except Fault Int :=
  let (negative, rest) := match cs.dropWhile Char.isWhitespace with
    | '-' :: rest => (true, rest)
    | '+' :: rest => (false, rest)
    | rest => (false, rest)
  let ds := rest.takeWhile Char.isDigit
  if ds.isEmpty || !((rest.drop ds.length).all Char.isWhitespace) then .error (.badNumber cs)
  else
    let n : Nat := (Arithmetic.digits? 10 ds).getD 0
    .ok (if negative then -(n : Int) else n)

/-- The value of a test of one text. -/
def unary (d : Disk) (op operand : Text) : Bool :=
  let node := (d.resolve (pathOf operand)).toOption.map Prod.snd
  match String.ofList op with
  | "-z" => operand.isEmpty
  | "-n" => !operand.isEmpty
  | "-e" | "-r" | "-w" | "-O" | "-G" => node.isSome
  | "-x" => match node with
    | some .folder | some (.program _) => true
    | _ => false
  | "-f" => match node with
    | some (.file _) | some (.program _) => true
    | _ => false
  | "-d" => node == some .folder
  | "-c" => node == some .null || node == some .zero
  | "-s" => match node with
    | some (.file contents) => !contents.isEmpty
    | some .folder | some (.program _) => true
    | _ => false
  | _ => false

def less (a b : Text) : Bool := !before b a

/-- The value of a comparison. -/
def binary (d : Disk) (l op r : Text) : Except Fault Bool :=
  let compare (f : Int → Int → Bool) : Except Fault Bool := do return f (← number l) (← number r)
  match String.ofList op with
  | "=" => .ok (l == r)
  | "!=" => .ok (l != r)
  | "<" => .ok (less l r)
  | ">" => .ok (less r l)
  | "-eq" => compare (· == ·)
  | "-ne" => compare (· != ·)
  | "-lt" => compare fun a b => decide (a < b)
  | "-le" => compare fun a b => decide (a ≤ b)
  | "-gt" => compare fun a b => decide (a > b)
  | "-ge" => compare fun a b => decide (a ≥ b)
  | "-ef" =>
    .ok (match d.resolve (pathOf l), d.resolve (pathOf r) with
      | .ok a, .ok b => a.1 == b.1
      | _, _ => false)
  | _ => .ok false

/-- Whether a test of one text at the front is an operand itself: nothing follows, or a comparison does. -/
def isOperand : List Text → Bool
  | [_] => true
  | [_, _] => false
  | _ :: w :: _ => isBinary w
  | [] => true

abbrev Value := Except Fault (Bool × List Text)

/-- Reads a condition without joiners, given a reader of whole conditions. -/
def primary (d : Disk) (condition : List Text → Value) : List Text → Value
  | [] => .ok (false, [])
  | w :: rest =>
    if w == ['('] && !rest.isEmpty then
      match rest with
      | [')'] :: rest => .ok (false, rest)
      | _ => do
        match ← condition rest with
        | (v, [')'] :: rest) => .ok (v, rest)
        | _ => .error .unclosed
    else if unaryOps.contains w && !isOperand (w :: rest) then
      match rest with
      | x :: rest => .ok (unary d w x, rest)
      | [] => .error (.missingArgument w)
    else
      match rest with
      | op :: rest' =>
        if binaryOps.contains op then
          match rest' with
          | r :: rest => do return (← binary d w op r, rest)
          | [] => .error (.missingArgument op)
        else .ok (!w.isEmpty, rest)
      | [] => .ok (!w.isEmpty, [])

def negation (d : Disk) (condition : List Text → Value) : List Text → Value
  | ['!'] :: w :: rest =>
    if isBinary w && !rest.isEmpty then primary d condition (['!'] :: w :: rest)
    else do
      let (v, rest) ← negation d condition (w :: rest)
      .ok (!v, rest)
  | words => primary d condition words

def conjunction (d : Disk) (condition : List Text → Value) (fuel : Nat) (words : List Text) : Value :=
  match fuel with
  | 0 => .error .unclosed
  | fuel + 1 => do
    match ← negation d condition words with
    | (v, ['-', 'a'] :: rest) => do
      let (u, rest) ← conjunction d condition fuel rest
      .ok (v && u, rest)
    | r => .ok r

def condition (d : Disk) (fuel : Nat) (words : List Text) : Value :=
  match fuel with
  | 0 => .error .unclosed
  | fuel + 1 => do
    match ← conjunction d (condition d fuel) words.length.succ words with
    | (v, ['-', 'o'] :: rest) => do
      let (u, rest) ← condition d fuel rest
      .ok (v || u, rest)
    | r => .ok r

/-- The value of the words of a condition. Nothing may follow the condition. -/
def evaluate (d : Disk) (words : List Text) : Except Fault Bool := do
  let whole (words : List Text) : Except Fault Bool := do
    let (v, rest) ← condition d (words.length + 1) words
    if rest.isEmpty then .ok v
    else .error (.unexpected ((words[words.length - rest.length - 1]?).getD []))
  match words with
  | [a, op, b] =>
    if binaryOps.contains op then binary d a op b
    else if a == ['('] && b == [')'] then whole [op]
    else if a == ['!'] then do return !(← whole [op, b])
    else whole words
  | [['!'], b, c, e] => do return !(← whole [b, c, e])
  | [['('], b, c, [')']] => whole [b, c]
  | _ => whole words

end Courier.Shell.Condition
