import Courier.Outside.Shell.Format
import Courier.Outside.Shell.Pattern
import Courier.Outside.Shell.Program.Basic

/-!
# Replacing characters

The program `tr`: each character of a first set becomes the character at the same place of a second one, or is
deleted, and repeats may be squeezed.
-/

namespace Courier.Shell.Program

def charRange (a b : Char) : Text :=
  (List.range (b.toNat + 1 - a.toNat)).map fun i => Char.ofNat (a.toNat + i)

/-- A member of a set: a character, or a class of characters. -/
inductive SetItem where
  | char (c : Char)
  | many (cs : Text)
  /-- A character so many times; none for as often as needed. -/
  | times (c : Char) (n : Nat)

/-- Reads a set. `fuel` bounds its members. -/
def setItems (fuel : Nat) (done : List SetItem) (cs : Text) : List SetItem :=
  match fuel with
  | 0 => done.reverse
  | fuel + 1 =>
    match cs with
    | [] => done.reverse
    | '[' :: ':' :: rest =>
      let name := rest.takeWhile Char.isAlpha
      match rest.drop name.length with
      | ':' :: ']' :: rest =>
        setItems fuel (.many ((Pattern.classRanges name).mergeSort (fun a b => a.1 ≤ b.1) |>.flatMap fun r =>
          charRange r.1 r.2) :: done) rest
      | _ => setItems fuel (.char '[' :: done) (':' :: rest)
    | '\\' :: rest =>
      match rest with
      | [] => (.char '\\' :: done).reverse
      | _ =>
        match Format.escape .shell rest with
        | ([c], rest) => setItems fuel (.char c :: done) rest
        | _ => setItems fuel (.char (rest.headD '\\') :: done) (rest.drop 1)
    | c :: rest => setItems fuel (.char c :: done) rest

def plainChars (items : List SetItem) : Text :=
  (items.takeWhile fun | .char _ => true | _ => false).filterMap fun
    | .char c => some c
    | _ => none

/-- Joins the ends of ranges, and reads repeats such as `[x*3]`. `fuel` bounds the members. -/
def joinRanges (fuel : Nat) (items : List SetItem) : List SetItem :=
  match fuel with
  | 0 => items
  | fuel + 1 =>
    match items with
    | .char '[' :: .char c :: .char '*' :: rest =>
      let digits := (plainChars rest).takeWhile Char.isDigit
      match rest.drop digits.length with
      | .char ']' :: after => .times c ((scaledNumber digits).getD 0) :: joinRanges fuel after
      | _ => .char '[' :: joinRanges fuel (.char c :: .char '*' :: rest)
    | .char a :: .char '-' :: .char b :: rest => .many (charRange a b) :: joinRanges fuel rest
    | x :: rest => x :: joinRanges fuel rest
    | [] => []

def setOf (size : Nat) (cs : Text) : Text :=
  let items := joinRanges (cs.length + 1) (setItems (cs.length + 1) [] cs)
  let fixed := (items.map fun
    | .char _ => 1
    | .many cs => cs.length
    | .times _ n => n).foldl (· + ·) 0
  items.flatMap fun
    | .char c => [c]
    | .many cs => cs
    | .times c n => List.replicate (if n = 0 then size - fixed else n) c

/-- What becomes of a character: the one at the same place of the second set, whose last member is repeated. -/
def replacement (set₁ set₂ : Text) (c : Char) : Char :=
  match set₁.reverse.idxOf? c with
  | none => c
  | some i => (set₂[set₁.length - 1 - i]?).getD (set₂.getLast?.getD c)

def squeeze (set : Char → Bool) (cs : Text) : Text :=
  (cs.foldl (fun (done : Text) c => if set c && done.head? == some c then done else c :: done) []).reverse

/-- Replaces, deletes or squeezes characters. -/
def tr (t : Task) : Finish :=
  t.withOptions "cCdst" "" 1 fun o =>
    let complement := o.has 'c' || o.has 'C'
    let set₁ := setOf 0 (o.operands.headD [])
    let set₁ := if complement then (charRange '\x00' 'ÿ').filter fun c => !set₁.contains c else set₁
    let set₂ := setOf set₁.length ((o.operands[1]?).getD [])
    let table : Array Char := ((charRange '\x00' 'ÿ').map (replacement set₁ set₂)).toArray
    let replace (c : Char) : Text := [(table[c.toNat]?).getD c]
    let inFirst : Array Bool := ((charRange '\x00' 'ÿ').map fun c => set₁.contains c).toArray
    let delete (c : Char) : Text := if (inFirst[c.toNat]?).getD false then [] else [c]
    let squeezed (set : Text) (f : Feed) : Feed :=
      if o.has 's' then ⟨squeeze set.contains f.front, squeeze set.contains f.cycle⟩ else f
    let done (f : Feed) : Finish := ⟨[.out f], 0, .empty, t.disk, 0⟩
    match o.operands.length, o.has 'd' with
    | 0, _ => t.giveUp "missing operand" 1
    | 1, true => done (squeezed [] (t.input.flatMap delete))
    | 1, false =>
      if o.has 's' then done (squeezed set₁ t.input)
      else t.giveUp ("missing operand after " ++ quoted (o.operands.headD [])) 1
    | 2, d =>
      if d then
        if o.has 's' then done (squeezed set₂ (t.input.flatMap delete))
        else t.giveUp ("extra operand " ++ quoted ((o.operands[1]?).getD [])) 1
      else if set₂.isEmpty then t.giveUp "when not truncating set1, string2 must be non-empty" 1
      else done (squeezed set₂ (t.input.flatMap replace))
    | _, _ => t.giveUp ("extra operand " ++ quoted ((o.operands[2]?).getD [])) 1

end Courier.Shell.Program
