import Courier.Limits
import Courier.Outside.Shell.Tree

/-!
# Arithmetic

The expressions of `$((…))`: whole numbers of 64 bits with the operators of C. `evaluate` reads an expression
and computes its value and the variables it assigns. A division by zero and an expression that cannot be read
are faults.
-/

namespace Courier.Shell.Arithmetic

/-- An expression. -/
inductive Expr where
  | number (n : Int)
  | name (name : Text)
  | unary (op : Char) (e : Expr)
  | binary (op : Text) (l r : Expr)
  | choose (c a b : Expr)
  /-- An assignment, with an operator that is done first unless it is empty. -/
  | assign (name : Text) (op : Text) (e : Expr)

/-- A token of an expression. -/
inductive Token where
  | number (n : Int)
  | name (name : Text)
  | op (op : Text)
  deriving DecidableEq

def wrap (n : Int) : Int :=
  Int.bmod n limit64

def digit? (base : Nat) (c : Char) : Option Nat :=
  let v :=
    if c.isDigit then c.toNat - 48
    else if 'a' ≤ c ∧ c ≤ 'f' then c.toNat - 87
    else if 'A' ≤ c ∧ c ≤ 'F' then c.toNat - 55
    else 99
  if v < base then some v else none

def digits? (base : Nat) (cs : Text) : Option Nat :=
  cs.foldlM (fun n c => (digit? base c).map (n * base + ·)) 0

def largest : Nat := limit63 - 1

/-- The value of a constant: decimal, octal after a zero, hexadecimal after `0x`. Too large a number is the
largest. -/
def constant? (cs : Text) : Option Int :=
  let n := match cs with
    | '0' :: 'x' :: ds => if ds.isEmpty then none else digits? 16 ds
    | '0' :: 'X' :: ds => if ds.isEmpty then none else digits? 16 ds
    | '0' :: ds => digits? 8 ds
    | ds => if ds.isEmpty then none else digits? 10 ds
  n.map fun n => (min n largest : Nat)

/-- The value a variable has in an expression: empty is zero, and blanks and a sign may come first. -/
def variableValue (cs : Text) : Option Int :=
  let cs := cs.dropWhile Char.isWhitespace
  let cs := (cs.reverse.dropWhile Char.isWhitespace).reverse
  match cs with
  | [] => some 0
  | '-' :: ds => (constant? ds).map (-·)
  | '+' :: ds => constant? ds
  | ds => constant? ds

def operators : List Text :=
  ["<<=", ">>=", "<=", ">=", "==", "!=", "&&", "||", "<<", ">>", "+=", "-=", "*=", "/=", "%=", "&=", "^=", "|=",
   "+", "-", "*", "/", "%", "<", ">", "=", "!", "~", "&", "|", "^", "?", ":", "(", ")"].map String.toList

/-- The tokens of an expression. `fuel` bounds their number. -/
def tokens (fuel : Nat) (cs : Text) : Option (List Token) :=
  match fuel with
  | 0 => none
  | fuel + 1 =>
    match cs.dropWhile Char.isWhitespace with
    | [] => some []
    | c :: cs =>
      if c.isDigit then do
        let n ← constant? ((c :: cs).takeWhile isNameChar)
        return .number n :: (← tokens fuel ((c :: cs).dropWhile isNameChar))
      else if isNameStart c then do
        return .name ((c :: cs).takeWhile isNameChar) :: (← tokens fuel ((c :: cs).dropWhile isNameChar))
      else
        match operators.find? fun o => o.isPrefixOf (c :: cs) with
        | some o => do return .op o :: (← tokens fuel ((c :: cs).drop o.length))
        | none => none

def levels : List (List Text) :=
  [["||"], ["&&"], ["|"], ["^"], ["&"], ["==", "!="], ["<=", ">=", "<", ">"], ["<<", ">>"], ["+", "-"],
   ["*", "/", "%"]].map fun l => l.map String.toList

def assignments : List Text :=
  ["=", "+=", "-=", "*=", "/=", "%=", "<<=", ">>=", "&=", "^=", "|="].map String.toList

def joinLevel (operand : List Token → Option (Expr × List Token)) (ops : List Text) (fuel : Nat) (l : Expr)
    (ts : List Token) : Option (Expr × List Token) :=
  match fuel with
  | 0 => none
  | fuel + 1 =>
    match ts with
    | .op o :: rest =>
      if ops.contains o then do
        let (r, rest) ← operand rest
        joinLevel operand ops fuel (.binary o l r) rest
      else some (l, ts)
    | _ => some (l, ts)

def readLevels (operand : List Token → Option (Expr × List Token)) (fuel : Nat) :
    List (List Text) → List Token → Option (Expr × List Token)
  | [], ts => operand ts
  | ops :: tighter, ts => do
    let (l, rest) ← readLevels operand fuel tighter ts
    joinLevel (readLevels operand fuel tighter) ops fuel l rest

/-- Reads an operand: a number, a name, an expression in brackets, or an operator before an operand. -/
def readOperand (expr : List Token → Option (Expr × List Token)) (fuel : Nat) :
    List Token → Option (Expr × List Token) :=
  match fuel with
  | 0 => fun _ => none
  | fuel + 1 => fun
    | .number n :: rest => some (.number n, rest)
    | .name x :: rest => some (.name x, rest)
    | .op ['('] :: rest => do
      match ← expr rest with
      | (e, .op [')'] :: rest) => some (e, rest)
      | _ => none
    | .op [c] :: rest =>
      if c == '-' || c == '+' || c == '!' || c == '~' then do
        let (e, rest) ← readOperand expr fuel rest
        some (.unary c e, rest)
      else none
    | _ => none

/-- Reads an expression. `fuel` bounds its depth. -/
def readExpr (fuel : Nat) (ts : List Token) : Option (Expr × List Token) :=
  match fuel with
  | 0 => none
  | fuel + 1 =>
    let conditional : Option (Expr × List Token) := do
      let (c, rest) ← readLevels (readOperand (readExpr fuel) ts.length.succ) ts.length.succ levels ts
      match rest with
      | .op ['?'] :: rest =>
        match ← readExpr fuel rest with
        | (a, .op [':'] :: rest) => do
          let (b, rest) ← readExpr fuel rest
          some (.choose c a b, rest)
        | _ => none
      | _ => some (c, rest)
    match ts with
    | .name x :: .op o :: rest =>
      if assignments.contains o then do
        let (e, rest) ← readExpr fuel rest
        some (.assign x o.dropLast e, rest)
      else conditional
    | _ => conditional

abbrev Variables := List (Text × Text)

def ofBool (b : Bool) : Int := if b then 1 else 0

def shiftLeft (a b : Int) : Int :=
  wrap (a * (1 <<< (b % 64).toNat : Nat))

def shiftRight (a b : Int) : Int :=
  a.fdiv (1 <<< (b % 64).toNat : Nat)

def bitwise (f : Nat → Nat → Nat) (a b : Int) : Int :=
  wrap (f (a % limit64).toNat (b % limit64).toNat : Nat)

/-- The value of a binary operator, none for a division by zero. -/
def binary? (op : Text) (a b : Int) : Option Int :=
  match String.ofList op with
  | "+" => some (wrap (a + b))
  | "-" => some (wrap (a - b))
  | "*" => some (wrap (a * b))
  | "/" => if b = 0 then none else some (wrap (a.tdiv b))
  | "%" => if b = 0 then none else some (wrap (a.tmod b))
  | "<<" => some (shiftLeft a b)
  | ">>" => some (shiftRight a b)
  | "<" => some (ofBool (a < b))
  | ">" => some (ofBool (a > b))
  | "<=" => some (ofBool (a ≤ b))
  | ">=" => some (ofBool (a ≥ b))
  | "==" => some (ofBool (a == b))
  | "!=" => some (ofBool (a != b))
  | "&" => some (bitwise Nat.land a b)
  | "|" => some (bitwise Nat.lor a b)
  | "^" => some (bitwise Nat.xor a b)
  | "" => some b
  | _ => none

/-- The value of an expression and the variables after it. -/
def Expr.value (vs : Variables) : Expr → Option (Int × Variables)
  | number n => some (n, vs)
  | name x => (variableValue ((vs.lookup x).getD [])).map (·, vs)
  | unary op e => do
    let (a, vs) ← e.value vs
    match op with
    | '-' => some (wrap (-a), vs)
    | '!' => some (ofBool (a == 0), vs)
    | '~' => some (wrap (-a - 1), vs)
    | _ => some (a, vs)
  | binary op l r => do
    let (a, vs) ← l.value vs
    if op == ['&', '&'] then
      if a == 0 then some (0, vs) else (r.value vs).map fun v => (ofBool (v.1 != 0), v.2)
    else if op == ['|', '|'] then
      if a != 0 then some (1, vs) else (r.value vs).map fun v => (ofBool (v.1 != 0), v.2)
    else do
      let (b, vs) ← r.value vs
      some (← binary? op a b, vs)
  | choose c a b => do
    let (t, vs) ← c.value vs
    if t != 0 then a.value vs else b.value vs
  | assign x op e => do
    let (b, vs) ← e.value vs
    let a ← if op.isEmpty then some 0 else variableValue ((vs.lookup x).getD [])
    let v ← binary? op a b
    some (v, (x, (toString v).toList) :: vs)

def evaluate (vs : Variables) (cs : Text) : Option (Int × Variables) := do
  let ts ← tokens (cs.length + 1) cs
  if ts.isEmpty then some (0, vs)
  else
    match ← readExpr (ts.length + 1) ts with
    | (e, []) => e.value vs
    | _ => none

end Courier.Shell.Arithmetic
