import Courier.Outside.Disk
import Courier.Outside.Shell.Feed

/-!
# Programs of the host

What a program is started with and what comes of it, and the parts that most programs share: reading options, reading
files, complaining.
-/

namespace Courier.Shell

/-- What a program is started with. -/
structure Task where
  /-- The name it was started by, for its complaints. -/
  name : Text
  args : List Text
  source : Except IoFault Feed
  /-- Whether the input is a file, not the output of another command. -/
  inputIsFile : Bool
  disk : Disk

/-- Something a program writes. -/
inductive Written where
  | out (text : Feed)
  | err (text : Text)

/-- What came of a program. -/
structure Finish where
  writes : List Written
  status : Nat
  /-- What it left of its input. -/
  input : Feed
  disk : Disk
  /-- How long it took, in millionths of a second. -/
  pause : Nat

namespace Task

def input (t : Task) : Feed := t.source.toOption.getD Feed.empty

def finish (t : Task) (writes : List Written) (status : Nat) : Finish :=
  ⟨writes, status, t.input, t.disk, 0⟩

def complaint (t : Task) (text : String) : Written :=
  .err (t.name ++ ": ".toList ++ text.toList ++ ['\n'])

def giveUp (t : Task) (text : String) (status : Nat) : Finish :=
  t.finish [t.complaint text] status

end Task

def shown (cs : Text) : String := String.ofList cs

def quoted (cs : Text) : String := "'" ++ shown cs ++ "'"

/-- A name in a complaint: in quotes only if it is empty or holds a character that means something to a shell. -/
def nameShown (cs : Text) : String :=
  if cs.isEmpty || cs.any fun c => " \t\n*?[]\"'\\$&|;<>(){}!#\x60~=".contains c then quoted cs else shown cs

def pathOf (cs : Text) : Bytes := Bytes.ofLatin cs

def readPath (d : Disk) (path : Text) : Except IoFault Feed := do
  match (← d.resolve (pathOf path)).2 with
  | .file contents => .ok (.ofText (Bytes.toLatin contents))
  | .folder => .error .isDirectory
  | .zero => .ok ⟨[], ['\x00']⟩
  | _ => .ok .empty

/-- Why the options of a program cannot be read. -/
inductive BadOption where
  | unknown (c : Char)
  | unknownLong (name : Text)
  | missingValue (c : Char)

def BadOption.text : BadOption → String
  | unknown c => "invalid option -- '" ++ c.toString ++ "'"
  | unknownLong name => "unrecognized option " ++ quoted name
  | missingValue c => "option requires an argument -- '" ++ c.toString ++ "'"

/-- The options of a program and its other arguments. -/
structure Options where
  given : List (Char × Text)
  operands : List Text

namespace Options

def has (o : Options) (c : Char) : Bool := o.given.any fun g => g.1 == c

def value? (o : Options) (c : Char) : Option Text := o.given.reverse.lookup c

/-- Reads the letters of one argument. The result also tells whether the last letter still needs its value. -/
def letters (plain valued : Text) (done : List (Char × Text)) :
    Text → Except BadOption (List (Char × Text) × Option Char)
  | [] => .ok (done, none)
  | c :: cs =>
    if valued.contains c then
      if cs.isEmpty then .ok (done, some c) else .ok (done ++ [(c, cs)], none)
    else if plain.contains c then letters plain valued (done ++ [(c, [])]) cs
    else .error (.unknown c)

/-- Reads options, which may stand after other arguments, up to a double dash. -/
def read (plain valued : Text) (done : Options) : List Text → Except BadOption Options
  | [] => .ok done
  | ['-', '-'] :: rest => .ok { done with operands := done.operands ++ rest }
  | ('-' :: '-' :: name) :: _ => .error (.unknownLong ('-' :: '-' :: name))
  | ('-' :: c :: cs) :: rest =>
    match letters plain valued done.given (c :: cs) with
    | .error e => .error e
    | .ok (given, none) => read plain valued { done with given := given } rest
    | .ok (given, some c) =>
      match rest with
      | value :: rest => read plain valued { done with given := given ++ [(c, value)] } rest
      | [] => .error (.missingValue c)
  | arg :: rest => read plain valued { done with operands := done.operands ++ [arg] } rest

end Options

namespace Task

def withOptions (t : Task) (plain valued : String) (status : Nat) (run : Options → Finish) : Finish :=
  match Options.read plain.toList valued.toList ⟨[], []⟩ t.args with
  | .ok o => run o
  | .error e =>
    t.finish [t.complaint e.text,
      .err ("Try '".toList ++ t.name ++ " --help' for more information.\n".toList)] status

/-- The texts that are named by operands, a dash or no operand at all meaning the input; and what is left of
the input. -/
def sources (t : Task) (operands : List Text) : List (Text × Except IoFault Feed) × Feed :=
  let names := if operands.isEmpty then [['-']] else operands
  (names.map fun n => (n, if n == ['-'] || n == "/dev/stdin".toList then t.source else readPath t.disk n),
    if names.contains ['-'] || names.contains "/dev/stdin".toList then .empty else t.input)

def eachSource (t : Task) (operands : List Text) (trouble : String) (write : Feed → Feed) : Finish :=
  let (sources, left) := t.sources operands
  let writes := sources.map fun s =>
    match s.2 with
    | .ok f => Written.out (write f)
    | .error e => t.complaint (trouble ++ nameShown s.1 ++ ": " ++ e.words)
  ⟨writes, if sources.any (fun s => s.2.toOption.isNone) then 1 else 0, left, t.disk, 0⟩

def gathered (t : Task) (operands : List Text) : Except (Text × IoFault) (Feed × Feed) :=
  let (sources, left) := t.sources operands
  match sources.mapM (fun s => s.2.mapError fun e => (s.1, e)) with
  | .ok fs => .ok (fs.foldl (· ++ ·) Feed.empty, left)
  | .error e => .error e

end Task

/-- The number that digits with an optional unit name: `b` is 512, `K` 1024, `kB` 1000, and so on. -/
def scaledNumber (cs : Text) : Option Nat :=
  let ds := cs.takeWhile Char.isDigit
  let unit : Option Nat := match String.ofList (cs.drop ds.length) with
    | "" => some 1
    | "b" => some 512
    | "k" | "K" | "KiB" => some 1024
    | "kB" | "KB" => some 1000
    | "m" | "M" | "MiB" => some 1048576
    | "MB" => some 1000000
    | "G" | "GiB" => some 1073741824
    | _ => none
  if ds.isEmpty then none
  else unit.map fun u => u * ds.foldl (fun n c => n * 10 + (c.toNat - 48)) 0

def decimal (n : Nat) : Text := (toString n).toList

end Courier.Shell
