import Courier.Outside.Shell.Arithmetic

/-!
# Formatted printing

The two printing commands, `echo` and `printf`, in the two dialects they come in: the shell's own and the
programs of the host. `Format.print` goes over the format as often as there are arguments left.
-/

namespace Courier.Shell

/-- The shell's own printing commands, or the programs of that name. -/
inductive Dialect where
  | shell
  | host
  deriving DecidableEq, Repr

namespace Format

/-! ## Escapes -/

/-- The character that a letter after a backslash stands for. -/
def escapeLetter (d : Dialect) (c : Char) : Option Char :=
  match c with
  | '\\' => some '\\'
  | 'a' => some '\x07'
  | 'b' => some '\x08'
  | 'e' => some '\x1b'
  | 'f' => some '\x0c'
  | 'n' => some '\n'
  | 'r' => some '\r'
  | 't' => some '\t'
  | 'v' => some '\x0b'
  | '"' => if d = .host then some '"' else none
  | _ => none

def isOctal (c : Char) : Bool :=
  '0' ≤ c && c ≤ '7'

def byteOf (base limit : Nat) (cs : Text) : Char × Text :=
  let ds := (cs.take limit).takeWhile fun c => (Arithmetic.digit? base c).isSome
  (Char.ofNat ((Arithmetic.digits? base ds).getD 0 % 256), cs.drop ds.length)

/-- What a backslash before a text stands for, and the rest of the text. Unknown escapes stand for themselves. -/
def escape (d : Dialect) : Text → Text × Text
  | [] => (['\\'], [])
  | c :: cs =>
    if isOctal c then
      let (b, rest) := byteOf 8 3 (c :: cs)
      ([b], rest)
    else
      match escapeLetter d c with
      | some x => ([x], cs)
      | none =>
        if d = .host && c == 'x' && (cs.head?.bind (Arithmetic.digit? 16)).isSome then
          let (b, rest) := byteOf 16 2 cs
          ([b], rest)
        else (['\\'], c :: cs)

/-- The text that an argument with escapes stands for, and whether it ends all output (`\c`). An octal escape
may start with a zero that does not count as a digit. -/
def unescape (d : Dialect) (fuel : Nat) (done : Text) (cs : Text) : Text × Bool :=
  match fuel with
  | 0 => (done.reverse, false)
  | fuel + 1 =>
    match cs with
    | [] => (done.reverse, false)
    | '\\' :: 'c' :: _ => (done.reverse, true)
    | '\\' :: '0' :: rest =>
      let (b, rest) := byteOf 8 3 rest
      unescape d fuel (b :: done) rest
    | '\\' :: rest =>
      let (x, rest) := escape d rest
      unescape d fuel (x.reverse ++ done) rest
    | c :: rest => unescape d fuel (c :: done) rest

/-! ## Numbers -/

/-- A number read from the front of a text. -/
structure Numeral where
  value : Int
  /-- What follows the number. -/
  rest : Text
  /-- Whether there was a digit. -/
  found : Bool

def baseOf : Text → Nat × Text
  | '0' :: x :: d :: rest =>
    if (x == 'x' || x == 'X') && (Arithmetic.digit? 16 d).isSome then (16, d :: rest) else (8, '0' :: x :: d :: rest)
  | '0' :: rest => (8, '0' :: rest)
  | cs => (10, cs)

def numeral (cs : Text) : Numeral :=
  let cs := cs.dropWhile Char.isWhitespace
  let (negative, cs) := match cs with
    | '-' :: rest => (true, rest)
    | '+' :: rest => (false, rest)
    | rest => (false, rest)
  let (base, cs) := baseOf cs
  let ds := cs.takeWhile fun c => (Arithmetic.digit? base c).isSome
  let n : Nat := (Arithmetic.digits? base ds).getD 0
  ⟨if negative then -(n : Int) else n, cs.drop ds.length, !ds.isEmpty⟩

def clamp (signed : Bool) (n : Int) : Int × Bool :=
  if signed then
    if n ≥ limit63 then ((limit63 : Int) - 1, true)
    else if n < -(limit63 : Int) then (-(limit63 : Int), true)
    else (n, false)
  else if n ≥ limit64 || n ≤ -(limit64 : Int) then ((limit64 : Int) - 1, true)
  else (n % limit64, false)

def digits (base : Nat) (n : Nat) : Text :=
  if n = 0 then ['0'] else Nat.toDigits base n

/-! ## Directives -/

/-- How an argument is printed. -/
structure Directive where
  left : Bool
  plus : Bool
  blank : Bool
  zeros : Bool
  alternative : Bool
  width : Nat
  precision : Option Nat

namespace Directive

def pad (d : Directive) (cs : Text) : Text :=
  let fill := List.replicate (d.width - cs.length) ' '
  if d.left then cs ++ fill else fill ++ cs

def string (d : Directive) (cs : Text) : Text :=
  d.pad (match d.precision with
    | some n => cs.take n
    | none => cs)

def number (d : Directive) (mark ds : Text) : Text :=
  let ds := match d.precision with
    | some n => if n = 0 && ds == ['0'] then [] else List.replicate (n - ds.length) '0' ++ ds
    | none =>
      if d.zeros && !d.left then List.replicate (d.width - mark.length - ds.length) '0' ++ ds else ds
  d.pad (mark ++ ds)

def signed (d : Directive) (n : Int) : Text :=
  let mark := if n < 0 then ['-'] else if d.plus then ['+'] else if d.blank then [' '] else []
  d.number mark (digits 10 n.natAbs)

def unsigned (d : Directive) (letter : Char) (n : Nat) : Text :=
  match letter with
  | 'o' =>
    let ds := digits 8 n
    d.number [] (if d.alternative && ds.head? != some '0' then '0' :: ds else ds)
  | 'x' => d.number (if d.alternative && n != 0 then ['0', 'x'] else []) (digits 16 n)
  | 'X' => d.number (if d.alternative && n != 0 then ['0', 'X'] else []) ((digits 16 n).map Char.toUpper)
  | _ => d.number [] (digits 10 n)

end Directive

/-! ## Printing -/

/-- How far printing has come. -/
structure Progress where
  args : List Text
  /-- What was printed, the last character first. -/
  out : Text
  complaints : List Text
  status : Nat

/-- Why printing ends. -/
inductive Ending where
  | stopped
  | failed (why : Text)

abbrev Print := ExceptT Ending (StateM Progress)

def put (cs : Text) : Print Unit :=
  modify fun p => { p with out := cs.reverse ++ p.out }

def next? : Print (Option Text) := do
  let p ← get
  match p.args with
  | [] => return none
  | a :: rest =>
    set { p with args := rest }
    return some a

def complain (d : Dialect) (arg : Text) (shell host : String) : Print Unit :=
  let cs := match d with
    | .shell => arg ++ (": " ++ shell).toList
    | .host => '\'' :: arg ++ ("': " ++ host).toList
  modify fun p => { p with complaints := p.complaints ++ [cs], status := 1 }

/-- The next argument as a number, zero if there is none. A quote stands before the character whose number is
meant. -/
def nextNumber (d : Dialect) (isSigned : Bool) : Print Int := do
  match ← next? with
  | none => return 0
  | some arg =>
    match arg with
    | '"' :: rest | '\'' :: rest => return ((rest.head?.map Char.toNat).getD 0 : Nat)
    | arg =>
      let n := numeral arg
      let (value, tooLarge) := clamp isSigned n.value
      if !n.rest.isEmpty || (d == .host && !n.found && !arg.isEmpty) then
        if n.found then complain d arg "not completely converted" "value not completely converted"
        else complain d arg "expected numeric value" "expected a numeric value"
      else if tooLarge then
        complain d arg "Numerical result out of range" "Numerical result out of range"
      return value

def measure (d : Dialect) : Text → Print (Option Int × Text)
  | '*' :: rest => do return (some (← nextNumber d true), rest)
  | cs =>
    let ds := cs.takeWhile Char.isDigit
    return (if ds.isEmpty then none else (Arithmetic.digits? 10 ds).map Int.ofNat, cs.drop ds.length)

def directive (d : Dialect) (cs : Text) : Print (Directive × Text) := do
  let flags := cs.takeWhile fun c => "#-+ 0".contains c
  let (width, cs) ← measure d (cs.drop flags.length)
  let (precision, cs) ← match cs with
    | '.' :: rest => do
      let (n, rest) ← measure d rest
      pure (some (n.getD 0), rest)
    | cs => pure (none, cs)
  let w := width.getD 0
  return (⟨flags.contains '-' || w < 0, flags.contains '+', flags.contains ' ', flags.contains '0',
    flags.contains '#', w.natAbs, precision.bind fun n => if n < 0 then none else some n.toNat⟩, cs)

/-- Prints the next argument by a directive and its letter; `no` is what to say of another letter. -/
def convert (d : Dialect) (dir : Directive) (letter : Char) (no : Text) : Print Unit := do
  match letter with
  | 's' => put (dir.string ((← next?).getD []))
  | 'b' =>
    let arg := (← next?).getD []
    let (cs, stop) := unescape d (arg.length + 1) [] arg
    put (dir.string cs)
    if stop then throw .stopped
  | 'c' =>
    let arg := (← next?).getD []
    put (dir.pad (if arg.isEmpty && d == .shell then ['\x00'] else arg.take 1))
  | 'd' | 'i' => put (dir.signed (← nextNumber d true))
  | 'o' | 'u' | 'x' | 'X' => put (dir.unsigned letter (← nextNumber d false).toNat)
  | _ => throw (.failed no)

def invalid (d : Dialect) (directive : Text) : Text :=
  directive ++ (match d with
    | .shell => ": invalid directive"
    | .host => ": invalid conversion specification").toList

def unfinished (d : Dialect) (directive : Text) : Text :=
  match d with
  | .shell => "missing format character".toList
  | .host => invalid d directive

/-- Goes over the format once. `fuel` bounds its length. -/
def pass (d : Dialect) (fuel : Nat) (cs : Text) : Print Unit :=
  match fuel with
  | 0 => pure ()
  | fuel + 1 => do
    match cs with
    | [] => pure ()
    | '\\' :: 'c' :: rest =>
      if d == .host then throw .stopped
      else
        put ['\\', 'c']
        pass d fuel rest
    | '\\' :: rest =>
      let (x, rest) := escape d rest
      put x
      pass d fuel rest
    | '%' :: '%' :: rest =>
      put ['%']
      pass d fuel rest
    | '%' :: rest =>
      let (dir, after) ← directive d rest
      let start := '%' :: rest.take (rest.length - after.length)
      match after with
      | [] => throw (.failed (unfinished d start))
      | letter :: after =>
        convert d dir letter (invalid d (start ++ [letter]))
        pass d fuel after
    | c :: rest =>
      put [c]
      pass d fuel rest

def passes (d : Dialect) (fuel : Nat) (format : Text) : Print Unit :=
  match fuel with
  | 0 => pure ()
  | fuel + 1 => do
    let before := (← get).args.length
    pass d (format.length + 1) format
    let left := (← get).args.length
    if left = 0 || left = before then pure () else passes d fuel format

/-- What came of a printing command: its output, its complaints and its status. -/
structure Printed where
  out : Text
  complaints : List Text
  status : Nat

def print (d : Dialect) (format : Text) (args : List Text) : Printed :=
  let (r, p) := (passes d (args.length + 1) format).run ⟨args, [], [], 0⟩
  match r with
  | .error (.failed why) => ⟨p.out.reverse, p.complaints ++ [why], if d == .shell then 2 else 1⟩
  | _ => ⟨p.out.reverse, p.complaints, p.status⟩

def printf (args : List Text) : Printed :=
  let run : List Text → Printed
    | [] => ⟨[], ["usage: printf format [arg ...]".toList], 2⟩
    | format :: args => print .shell format args
  match args with
  | ['-', '-'] :: rest => run rest
  | ('-' :: c :: _) :: _ => ⟨[], ["Illegal option -".toList ++ [c]], 2⟩
  | args => run args

def hostPrintf (args : List Text) : Printed :=
  let run : List Text → Printed
    | [] => ⟨[], ["missing operand".toList], 1⟩
    | format :: args => print .host format args
  match args with
  | ['-', '-'] :: rest => run rest
  | args => run args

def joined (args : List Text) : Text :=
  [' '].intercalate args

/-- The text of some arguments, with escapes; the flag says whether the output was stopped in the middle. -/
def unescapeAll (d : Dialect) : List Text → Text × Bool
  | [] => ([], false)
  | [a] => unescape d (a.length + 1) [] a
  | a :: rest =>
    let (cs, stop) := unescape d (a.length + 1) [] a
    if stop then (cs, true)
    else
      let (ds, stop) := unescapeAll d rest
      (cs ++ ' ' :: ds, stop)

def echo (args : List Text) : Text :=
  let (line, args) := match args with
    | ['-', 'n'] :: rest => ([], rest)
    | args => (['\n'], args)
  let (cs, stop) := unescapeAll .shell args
  cs ++ if stop then [] else line

def isEchoOption : Text → Bool
  | '-' :: c :: cs => (c :: cs).all fun c => "neE".contains c
  | _ => false

def hostEcho (args : List Text) : Text :=
  let options := (args.takeWhile isEchoOption).flatMap (List.drop 1)
  let args := args.dropWhile isEchoOption
  let escapes := (options.reverse.find? fun c => c == 'e' || c == 'E') == some 'e'
  let (cs, stop) := if escapes then unescapeAll .host args else (joined args, false)
  cs ++ if stop || options.contains 'n' then [] else ['\n']

end Format

end Courier.Shell
