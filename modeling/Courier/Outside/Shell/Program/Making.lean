import Courier.Outside.Shell.Format
import Courier.Outside.Shell.Program.Basic

/-!
# Programs that make something

`seq`, `yes`, `sleep`, the printing programs, and those that change files.
-/

namespace Courier.Shell.Program

/-! ## Output -/

def integer? (cs : Text) : Option Int :=
  let value (ds : Text) : Option Nat := if ds.isEmpty then none else Arithmetic.digits? 10 ds
  match cs with
  | '-' :: ds => (value ds).map fun n => -(n : Int)
  | '+' :: ds => (value ds).map fun n => (n : Int)
  | ds => (value ds).map fun n => (n : Int)

def countTo (first step last : Int) : List Int :=
  if step = 0 then []
  else (List.range ((last - first).tdiv step + 1).toNat).map fun (i : Nat) => first + step * (i : Int)

/-- Writes numbers. -/
def seq (t : Task) : Finish :=
  let rec options (separator : Text) (wide : Bool) : List Text → Text × Bool × List Text
    | ['-', 's'] :: cs :: rest => options cs wide rest
    | ('-' :: 's' :: cs) :: rest => options cs wide rest
    | ['-', 'w'] :: rest => options separator true rest
    | ['-', '-'] :: rest => (separator, wide, rest)
    | rest => (separator, wide, rest)
  let (separator, wide, args) := options ['\n'] false t.args
  let bad := args.find? fun a => (integer? a).isNone
  match bad, args.filterMap integer? with
  | some a, _ => t.giveUp ("invalid floating point argument: " ++ quoted a) 1
  | none, numbers =>
    let write (first step last : Int) : Finish :=
      if step = 0 then t.giveUp "invalid Zero increment value: '0'" 1
      else
        let inRange := if step > 0 then first ≤ last else last ≤ first
        let ns := if inRange then (countTo first step last).map fun n => (toString n).toList else []
        let width := (ns.map List.length).foldl max 0
        let padded := ns.map fun cs =>
          let zeros := List.replicate (width - cs.length) '0'
          match wide, cs with
          | true, '-' :: ds => '-' :: zeros ++ ds
          | true, ds => zeros ++ ds
          | false, cs => cs
        t.finish [.out (.ofText (if ns.isEmpty then [] else separator.intercalate padded ++ ['\n']))] 0
    match numbers with
    | [] => t.giveUp "missing operand" 1
    | [last] => write 1 1 last
    | [first, last] => write first 1 last
    | [first, step, last] => write first step last
    | _ => t.giveUp ("extra operand " ++ quoted ((args[3]?).getD [])) 1

def yes (t : Task) : Finish :=
  let args := match t.args with
    | ['-', '-'] :: rest => rest
    | args => args
  t.finish [.out ⟨[], if args.isEmpty then ['y', '\n'] else Format.joined args ++ ['\n']⟩] 0

/-- A time in millionths of a second: a decimal number with an optional unit. -/
def duration? (cs : Text) : Option Nat :=
  let whole := cs.takeWhile Char.isDigit
  let rest := cs.drop whole.length
  let (tenths, rest) := match rest with
    | '.' :: rest => (rest.takeWhile Char.isDigit, rest.dropWhile Char.isDigit)
    | rest => ([], rest)
  let unit : Option Nat := match rest with
    | [] | ['s'] => some 1
    | ['m'] => some 60
    | ['h'] => some 3600
    | ['d'] => some 86400
    | _ => none
  if whole.isEmpty && tenths.isEmpty then none
  else unit.map fun u =>
    let ds := whole ++ (tenths ++ List.replicate 6 '0').take 6
    (Arithmetic.digits? 10 ds).getD 0 * u

def sleep (t : Task) : Finish :=
  let args := match t.args with
    | ['-', '-'] :: rest => rest
    | args => args
  if args.isEmpty then t.giveUp "missing operand" 1
  else
    match args.mapM duration? with
    | some times => { t.finish [] 0 with pause := times.foldl (· + ·) 0 }
    | none => t.giveUp ("invalid time interval " ++ quoted ((args.find? fun a => (duration? a).isNone).getD [])) 1

def printed (t : Task) (p : Format.Printed) : Finish :=
  t.finish (p.complaints.map (fun c => t.complaint (shown c)) ++ [.out (.ofText p.out)]) p.status

def printf (t : Task) : Finish := printed t (Format.hostPrintf t.args)

def echo (t : Task) : Finish := t.finish [.out (.ofText (Format.hostEcho t.args))] 0

def basename (t : Task) : Finish :=
  let base (cs ending : Text) : Text :=
    let trimmed := (cs.reverse.dropWhile (· == '/')).reverse
    if trimmed.isEmpty then if cs.isEmpty then [] else ['/']
    else
      let name := (trimmed.reverse.takeWhile (· != '/')).reverse
      if name != ending && ending.isSuffixOf name then name.take (name.length - ending.length) else name
  match t.args with
  | [cs] => t.finish [.out (.ofText (base cs [] ++ ['\n']))] 0
  | [cs, ending] => t.finish [.out (.ofText (base cs ending ++ ['\n']))] 0
  | [] => t.giveUp "missing operand" 1
  | _ => t.giveUp ("extra operand " ++ quoted ((t.args[2]?).getD [])) 1

def dirname (t : Task) : Finish :=
  let parent (cs : Text) : Text :=
    let trimmed := cs.reverse.dropWhile (· == '/')
    if trimmed.isEmpty then if cs.isEmpty then ['.'] else ['/']
    else
      let rest := trimmed.dropWhile (· != '/')
      if rest.isEmpty then ['.']
      else
        let rest := rest.dropWhile (· == '/')
        if rest.isEmpty then ['/'] else rest.reverse
  if t.args.isEmpty then t.giveUp "missing operand" 1
  else t.finish (t.args.map fun cs => .out (.ofText (parent cs ++ ['\n']))) 0

/-! ## Files -/

def change (t : Task) (operands : List Text) (trouble : Text → String)
    (act : Disk → Text → Except IoFault Disk) : Finish :=
  let (disk, complaints) := operands.foldl (fun (acc : Disk × List Written) n =>
    match act acc.1 n with
    | .ok disk => (disk, acc.2)
    | .error e => (acc.1, acc.2 ++ [t.complaint (trouble n ++ ": " ++ e.words)])) (t.disk, [])
  { t.finish complaints (if complaints.isEmpty then 0 else 1) with disk := disk }

def touch (t : Task) : Finish :=
  t.withOptions "acm" "" 1 fun o =>
    if o.operands.isEmpty then t.giveUp "missing file operand" 1
    else change t o.operands (fun n => "cannot touch " ++ quoted n) fun d n =>
      match d.resolve (pathOf n) with
      | .ok _ => .ok d
      | .error e => if e = .noEntry then d.write (pathOf n) true [] else .error e

def rm (t : Task) : Finish :=
  t.withOptions "rRfiv" "" 1 fun o =>
    if o.operands.isEmpty then if o.has 'f' then t.finish [] 0 else t.giveUp "missing operand" 1
    else change t o.operands (fun n => "cannot remove " ++ quoted n) fun d n =>
      match d.resolve (pathOf n) with
      | .ok (place, node) =>
        if node = .folder && !(o.has 'r' || o.has 'R') then .error .isDirectory
        else .ok { d with entries := d.entries.filter fun e => !place.isPrefixOf e.1 }
      | .error e => if o.has 'f' then .ok d else .error e

/-- Makes folders. -/
def mkdir (t : Task) : Finish :=
  t.withOptions "p" "m" 1 fun o =>
    if o.operands.isEmpty then t.giveUp "missing operand" 1
    else change t o.operands (fun n => "cannot create directory " ++ quoted n) fun d n =>
      let trimmed := (n.reverse.dropWhile (· == '/')).reverse
      let make (d : Disk) (n : Text) : Except IoFault Disk :=
        match d.resolve (pathOf n) with
        | .ok (_, .folder) => if o.has 'p' then .ok d else .error (.os 17)
        | .ok _ => .error (.os 17)
        | .error _ => do .ok (d.put (← d.newPlace (pathOf n)) .folder)
      if o.has 'p' then
        let names := trimmed.splitOn '/'
        (List.range names.length).foldlM (fun d i =>
          let p := ['/'].intercalate (names.take (i + 1))
          if p.isEmpty then .ok d else make d p) d
      else make d trimmed

def rmdir (t : Task) : Finish :=
  t.withOptions "p" "" 1 fun o =>
    if o.operands.isEmpty then t.giveUp "missing operand" 1
    else change t o.operands (fun n => "failed to remove " ++ quoted n) fun d n => do
      match ← d.resolve (pathOf n) with
      | (place, .folder) =>
        if (d.children place).isEmpty then
          .ok { d with entries := d.entries.filter fun e => e.1 != place }
        else .error (.os 39)
      | _ => .error .notDirectory

def target (d : Disk) (source dest : Text) : Text :=
  match d.resolve (pathOf dest) with
  | .ok (_, .folder) => dest ++ '/' :: (source.reverse.takeWhile (· != '/')).reverse
  | _ => dest

/-- Copies files to a last operand, and removes them if they move. -/
def transfer (moves : Bool) (t : Task) : Finish :=
  t.withOptions "fpirRnT" "" 1 fun o =>
    match o.operands.reverse with
    | [] => t.giveUp "missing file operand" 1
    | [only] => t.giveUp ("missing destination file operand after " ++ quoted only) 1
    | dest :: sources =>
      change t sources.reverse (fun n => "cannot stat " ++ quoted n) fun d n => do
        let (place, node) ← d.resolve (pathOf n)
        match node with
        | .file contents => do
          let d ← d.write (pathOf (target d n dest)) false contents
          .ok (if moves then { d with entries := d.entries.filter fun e => e.1 != place } else d)
        | _ => .error .isDirectory

def tee (t : Task) : Finish :=
  t.withOptions "ai" "" 1 fun o =>
    let r := change t o.operands nameShown fun d n =>
      d.write (pathOf n) (o.has 'a') (Bytes.ofLatin t.input.front)
    { r with writes := r.writes ++ [.out t.input], input := .empty }

/-- Lists folders. -/
def ls (t : Task) : Finish :=
  t.withOptions "1aAd" "" 2 fun o =>
    let names := if o.operands.isEmpty then [['.']] else o.operands
    let order (ns : List Text) : List Text := ns.mergeSort before
    let inside (place : List Bytes) : List Text :=
      let ns := (t.disk.children place).map Bytes.toLatin
      let ns := if o.has 'a' then ["."].map String.toList ++ [['.', '.']] ++ ns else ns
      order (if o.has 'a' || o.has 'A' then ns else ns.filter fun n => n.head? != some '.')
    let found := (order names).map fun n => (n, t.disk.resolve (pathOf n))
    let complaints := found.filterMap fun f => match f.2 with
      | .ok _ => none
      | .error e => some (t.complaint ("cannot access " ++ quoted f.1 ++ ": " ++ e.words))
    let files := found.filterMap fun f => match f.2 with
      | .ok (_, .folder) => if o.has 'd' then some f.1 else none
      | .ok _ => some f.1
      | .error _ => none
    let folders := found.filterMap fun f => match f.2 with
      | .ok (place, .folder) => if o.has 'd' then none else some (f.1, place)
      | _ => none
    let blocks := (if files.isEmpty then [] else [unlines files]) ++ folders.map fun f =>
      (if names.length > 1 then f.1 ++ [':', '\n'] else []) ++ unlines (inside f.2)
    t.finish (complaints ++ [.out (.ofText (['\n'].intercalate blocks))]) (if complaints.isEmpty then 0 else 2)

end Courier.Shell.Program
