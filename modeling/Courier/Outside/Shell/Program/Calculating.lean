import Courier.Outside.Shell.Condition
import Courier.Outside.Shell.Program.Making

/-!
# Calculating

The program `expr`: whole numbers and comparisons, joined by the operators of four levels, all from left to right.
-/

namespace Courier.Shell.Program

def exprLevels : List (List Text) :=
  [["|"], ["&"], ["<", "<=", "=", "==", "!=", ">=", ">"], ["+", "-"], ["*", "/", "%"]].map fun l =>
    l.map String.toList

def isNull (cs : Text) : Bool := cs.isEmpty || integer? cs == some 0

/-- The value of an operator. -/
def exprValue (l op r : Text) : Except String Text :=
  let truth (b : Bool) : Except String Text := .ok (if b then ['1'] else ['0'])
  let order (f : Int → Int → Bool) (g : Text → Text → Bool) : Except String Text :=
    match integer? l, integer? r with
    | some a, some b => truth (f a b)
    | _, _ => truth (g l r)
  let number (f : Int → Int → Except String Int) : Except String Text :=
    match integer? l, integer? r with
    | some a, some b => do return (toString (← f a b)).toList
    | _, _ => .error "non-integer argument"
  let less := Condition.less
  match String.ofList op with
  | "|" => .ok (if isNull l then (if isNull r then ['0'] else r) else l)
  | "&" => .ok (if isNull l || isNull r then ['0'] else l)
  | "<" => order (fun a b => decide (a < b)) less
  | "<=" => order (fun a b => decide (a ≤ b)) fun a b => !less b a
  | ">" => order (fun a b => decide (a > b)) fun a b => less b a
  | ">=" => order (fun a b => decide (a ≥ b)) fun a b => !less a b
  | "=" | "==" => order (· == ·) (· == ·)
  | "!=" => order (· != ·) (· != ·)
  | "+" => number fun a b => .ok (a + b)
  | "-" => number fun a b => .ok (a - b)
  | "*" => number fun a b => .ok (a * b)
  | "/" => number fun a b => if b = 0 then .error "division by zero" else .ok (a.tdiv b)
  | "%" => number fun a b => if b = 0 then .error "division by zero" else .ok (a.tmod b)
  | _ => .error "syntax error"

def exprJoin (operand : List Text → Except String (Text × List Text)) (ops : List Text) (fuel : Nat) (l : Text)
    (words : List Text) : Except String (Text × List Text) :=
  match fuel, words with
  | fuel + 1, op :: rest =>
    if ops.contains op then do
      let (r, rest) ← operand rest
      exprJoin operand ops fuel (← exprValue l op r) rest
    else .ok (l, op :: rest)
  | _, words => .ok (l, words)

def exprLevel (operand : List Text → Except String (Text × List Text)) (fuel : Nat) :
    List (List Text) → List Text → Except String (Text × List Text)
  | [], words => operand words
  | ops :: tighter, words => do
    let (l, rest) ← exprLevel operand fuel tighter words
    exprJoin (exprLevel operand fuel tighter) ops fuel l rest

def exprRead (fuel : Nat) (words : List Text) : Except String (Text × List Text) :=
  match fuel with
  | 0 => .error "syntax error"
  | fuel + 1 =>
    exprLevel (fun
      | ['('] :: rest => do
        match ← exprRead fuel rest with
        | (v, [')'] :: rest) => .ok (v, rest)
        | _ => .error "syntax error: expecting ')'"
      | w :: rest => .ok (w, rest)
      | [] => .error "syntax error: missing argument") words.length exprLevels words

def expr (t : Task) : Finish :=
  match exprRead (t.args.length + 1) t.args with
  | .ok (v, []) => t.finish [.out (.ofText (v ++ ['\n']))] (if isNull v then 1 else 0)
  | .ok (_, w :: _) => t.giveUp ("syntax error: unexpected argument " ++ quoted w) 2
  | .error why => t.giveUp (if t.args.isEmpty then "missing operand" else why) 2

/-- Copies blocks. -/
def dd (t : Task) : Finish :=
  let value (key : String) : Option Text :=
    (t.args.filterMap fun a =>
      if (key ++ "=").toList.isPrefixOf a then some (a.drop (key.length + 1)) else none).getLast?
  let size := ((value "bs").bind scaledNumber).getD 512
  let source := (value "if").elim t.source fun path => readPath t.disk path
  match source with
  | .error e => t.giveUp ("failed to open " ++ quoted ((value "if").getD []) ++ ": " ++ e.words) 1
  | .ok f =>
    let f := f.drop (size * ((value "skip").bind scaledNumber).getD 0)
    let f := match (value "count").bind scaledNumber with
      | some n => .ofText (f.take (size * n))
      | none => f
    match value "of" with
    | none => t.finish [.out f] 0
    | some path =>
      match t.disk.write (pathOf path) false (Bytes.ofLatin f.front) with
      | .ok d => { t.finish [] 0 with disk := d }
      | .error e => t.giveUp ("failed to open " ++ quoted path ++ ": " ++ e.words) 1

end Courier.Shell.Program
