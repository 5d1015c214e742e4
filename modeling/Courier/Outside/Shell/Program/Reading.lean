import Courier.Outside.Shell.Program.Basic

/-!
# Programs that read

`cat`, `head`, `tail`, `wc` and the programs that rearrange lines or characters.
-/

namespace Courier.Shell.Program

/-! ## Whole files and their ends -/

def numbered (cs : Text) : Text :=
  let ls := (textLines cs).zipIdx.map fun l =>
    let n := decimal (l.2 + 1)
    List.replicate (6 - n.length) ' ' ++ n ++ '\t' :: l.1
  let whole := ['\n'].intercalate ls
  if cs.getLast? == some '\n' then whole ++ ['\n'] else whole

def cat (t : Task) : Finish :=
  t.withOptions "nu" "" 1 fun o =>
    t.eachSource o.operands "" fun f => if o.has 'n' then Feed.ofText (numbered f.front) else f

/-- How much of a text is wanted. -/
structure Amount where
  count : Nat
  /-- Characters, not lines. -/
  bytes : Bool
  /-- For the front, all but so much; for the end, all from there on. -/
  other : Bool

/-- The amount that the options of `head` or `tail` ask for; `sign` stands before the other way of counting. -/
def amountOf (o : Options) (sign : Char) : Except Text Amount :=
  let read (bytes : Bool) (cs : Text) : Except Text Amount :=
    let (other, ds) := match cs with
      | c :: ds => if c == sign then (true, ds) else if c == '+' || c == '-' then (false, ds) else (false, c :: ds)
      | [] => (false, [])
    match scaledNumber ds with
    | some n => .ok ⟨n, bytes, other⟩
    | none => .error cs
  match o.given.reverse.find? fun g => g.1 == 'n' || g.1 == 'c' with
  | some (c, value) => read (c == 'c') value
  | none => .ok ⟨10, false, false⟩

def oldStyle (args : List Text) : List Text :=
  match args with
  | ('-' :: c :: cs) :: rest => if c.isDigit then ('-' :: 'n' :: c :: cs) :: rest else args
  | _ => args

def headOf (a : Amount) (f : Feed) : Feed :=
  match a.bytes, a.other with
  | true, false => .ofText (f.take a.count)
  | false, false => .ofText (f.lines a.count)
  | true, true => ⟨f.front.take (f.front.length - a.count), f.cycle⟩
  | false, true =>
    let ls := (textLines f.front).length
    ⟨(f.lines (ls - a.count)), f.cycle⟩

def tailOf (a : Amount) (f : Feed) : Feed :=
  match a.bytes, a.other with
  | true, true => f.drop (a.count - 1)
  | false, true => f.dropLines (a.count - 1)
  | true, false => .ofText (f.front.drop (f.front.length - a.count))
  | false, false => f.dropLines ((textLines f.front).length - a.count)

/-- Writes the fronts or ends of files, each after its name if there are several. -/
def part (t : Task) (sign : Char) (of : Amount → Feed → Feed) : Finish :=
  let t := { t with args := oldStyle t.args }
  t.withOptions "qv" "nc" 1 fun o =>
    match amountOf o sign with
    | .error cs =>
      let unit := if o.has 'c' then "bytes" else "lines"
      t.giveUp ("invalid number of " ++ unit ++ ": " ++ quoted cs) 1
    | .ok a =>
      let (sources, left) := t.sources o.operands
      let heading := (sources.length > 1 && !o.has 'q') || o.has 'v'
      let title (n : Text) : Text := if n == ['-'] then "standard input".toList else n
      let (writes, _) := sources.foldl (fun (acc : List Written × Bool) s =>
        match s.2 with
        | .ok f =>
          let line := if heading then
              (if acc.2 then ['\n'] else []) ++ "==> ".toList ++ title s.1 ++ " <==\n".toList
            else []
          (acc.1 ++ [.out (.ofText line), .out (of a f)], true)
        | .error e =>
          let trouble := if e = .isDirectory then "error reading " ++ quoted s.1
            else "cannot open " ++ quoted s.1 ++ " for reading"
          (acc.1 ++ [t.complaint (trouble ++ ": " ++ e.words)], acc.2)) ([], false)
      ⟨writes, if sources.any (fun s => s.2.toOption.isNone) then 1 else 0, left, t.disk, 0⟩

def head (t : Task) : Finish :=
  let r := part t '-' headOf
  match Options.read ['q', 'v'] ['n', 'c'] ⟨[], []⟩ (oldStyle t.args) with
  | .ok o =>
    match o.operands, amountOf o '-' with
    | [], .ok ⟨n, true, false⟩ => { r with input := t.input.drop n }
    | [], .ok ⟨n, false, false⟩ => if t.inputIsFile then { r with input := t.input.dropLines n } else r
    | _, _ => r
  | .error _ => r

def tail (t : Task) : Finish := part t '+' tailOf

def countWords (cs : Text) : Nat :=
  (cs.foldl (fun (acc : Nat × Bool) c =>
    if c.isWhitespace || c == '\x0b' || c == '\x0c' then (acc.1, false)
    else (if acc.2 then acc.1 else acc.1 + 1, true)) (0, false)).1

/-- Counts lines, words and characters. -/
def wc (t : Task) : Finish :=
  t.withOptions "lwcm" "" 1 fun o =>
    let all := o.given.isEmpty
    let (sources, left) := t.sources o.operands
    let counts (cs : Text) : List Nat :=
      (if all || o.has 'l' then [cs.count '\n'] else []) ++
      (if all || o.has 'w' then [countWords cs] else []) ++
      (if all || o.has 'c' || o.has 'm' then [cs.length] else [])
    let texts := sources.map fun s => (s.1, s.2.map fun f => f.front)
    let total := (texts.map fun s => match s.2 with | .ok cs => cs.length | .error _ => 0).foldl (· + ·) 0
    let odd := texts.any fun s =>
      match s.2 with
      | .ok _ => s.1 == ['-'] && !t.inputIsFile
      | .error _ => false
    let width := if (counts []).length = 1 && texts.length = 1 then 1
      else max (decimal total).length (if odd then 7 else 1)
    let line (ns : List Nat) (name : Text) : Text :=
      let cells := ns.map fun n => List.replicate (width - (decimal n).length) ' ' ++ decimal n
      [' '].intercalate cells ++ (if name.isEmpty then [] else ' ' :: name) ++ ['\n']
    let writes := texts.map fun s =>
      match s.2 with
      | .ok cs => Written.out (.ofText (line (counts cs) (if o.operands.isEmpty then [] else s.1)))
      | .error e => t.complaint (nameShown s.1 ++ ": " ++ e.words)
    let sums := texts.foldl (fun acc s =>
      match s.2 with
      | .ok cs => List.zipWith (· + ·) acc (counts cs)
      | .error _ => acc) (counts [])
    let last := if texts.length > 1 then [Written.out (.ofText (line sums "total".toList))] else []
    ⟨writes ++ last, if texts.any (fun s => s.2.toOption.isNone) then 1 else 0, left, t.disk, 0⟩

/-! ## Lines -/

def whole (t : Task) (o : Options) (status : Nat) (write : Text → Text) : Finish :=
  match t.gathered o.operands with
  | .ok (f, left) => ⟨[.out (.ofText (write f.front))], 0, left, t.disk, 0⟩
  | .error (name, e) => t.giveUp (nameShown name ++ ": " ++ e.words) status

def lineNumber (cs : Text) : Int :=
  let cs := cs.dropWhile fun c => c == ' ' || c == '\t'
  let value (ds : Text) : Int := ((scaledNumber (ds.takeWhile Char.isDigit)).getD 0 : Nat)
  match cs with
  | '-' :: ds => -value ds
  | ds => value ds

def dropRepeats (same : Text → Text → Bool) : List Text → List Text
  | a :: rest =>
    match dropRepeats same rest with
    | b :: more => if same a b then a :: more else a :: b :: more
    | [] => [a]
  | [] => []

def sort (t : Task) : Finish :=
  t.withOptions "nru" "" 2 fun o =>
    whole t o 2 fun cs =>
      let le (a b : Text) : Bool :=
        if o.has 'n' then
          lineNumber a < lineNumber b || (lineNumber a == lineNumber b && (o.has 'u' || before a b))
        else before a b
      let same (a b : Text) : Bool := if o.has 'n' then lineNumber a == lineNumber b else a == b
      let ls := (textLines cs).mergeSort fun a b => if o.has 'r' then le b a else le a b
      unlines (if o.has 'u' then dropRepeats same ls else ls)

def runs : List Text → List (Text × Nat)
  | a :: rest =>
    match runs rest with
    | (b, n) :: more => if a == b then (a, n + 1) :: more else (a, 1) :: (b, n) :: more
    | [] => [(a, 1)]
  | [] => []

def uniq (t : Task) : Finish :=
  t.withOptions "cdu" "" 1 fun o =>
    whole t o 1 fun cs =>
      let rs := (runs (textLines cs)).filter fun r =>
        (!o.has 'd' || r.2 > 1) && (!o.has 'u' || r.2 == 1)
      unlines (rs.map fun r =>
        if o.has 'c' then List.replicate (7 - (decimal r.2).length) ' ' ++ decimal r.2 ++ ' ' :: r.1 else r.1)

def tac (t : Task) : Finish :=
  t.withOptions "" "" 1 fun o =>
    t.eachSource o.operands "" fun f =>
      let ls := (textLines f.front).reverse
      .ofText (if f.front.getLast? == some '\n' then unlines ls
        else match ls with
          | l :: rest => l ++ unlines rest
          | [] => [])

def rev (t : Task) : Finish :=
  t.withOptions "" "" 1 fun o =>
    t.eachSource o.operands "" fun f =>
      let whole := ['\n'].intercalate ((textLines f.front).map List.reverse)
      .ofText (if f.front.getLast? == some '\n' then whole ++ ['\n'] else whole)

def ranges? (cs : Text) : Option (List (Nat × Option Nat)) :=
  (cs.splitOn ',').mapM fun r =>
    match r.splitOn '-' with
    | [a] => (scaledNumber a).map fun n => (n, some n)
    | [[], b] => (scaledNumber b).map fun n => (1, some n)
    | [a, []] => (scaledNumber a).map fun n => (n, none)
    | [a, b] => do return (← scaledNumber a, some (← scaledNumber b))
    | _ => none

def pick {α : Type} (rs : List (Nat × Option Nat)) (xs : List α) : List α :=
  (xs.zipIdx.filter fun x => rs.any fun r => r.1 ≤ x.2 + 1 && (r.2.elim true fun e => x.2 + 1 ≤ e)).map Prod.fst

/-- Writes parts of each line. -/
def cut (t : Task) : Finish :=
  t.withOptions "s" "dfcb" 1 fun o =>
    match o.value? 'f', (o.value? 'c').orElse fun _ => o.value? 'b' with
    | some fs, _ =>
      match ranges? fs with
      | none => t.giveUp "invalid field range" 1
      | some rs =>
        let d := ((o.value? 'd').bind List.head?).getD '\t'
        whole t o 1 fun cs => unlines ((textLines cs).filterMap fun l =>
          if l.contains d then some ([d].intercalate (pick rs (l.splitOn d)))
          else if o.has 's' then none else some l)
    | none, some cs =>
      match ranges? cs with
      | none => t.giveUp "invalid byte or character range" 1
      | some rs => whole t o 1 fun cs => unlines ((textLines cs).map (pick rs))
    | none, none => t.giveUp "you must specify a list of bytes, characters, or fields" 1

end Courier.Shell.Program
