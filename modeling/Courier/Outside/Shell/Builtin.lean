import Courier.ExitStatus
import Courier.Limits
import Courier.Outside.Shell.Condition
import Courier.Outside.Shell.Expand

/-!
# The shell's own commands

The commands that a shell does itself and that run no other command. Those in `specials` end the shell when they fail.
-/

namespace Courier.Shell

namespace Builtin

open Run

def specials : List String :=
  [":", ".", "break", "continue", "eval", "exec", "exit", "export", "readonly", "return", "set", "shift", "times",
   "trap", "unset"]

def fail (text : String) : Run Unit := do
  complain text
  setStatus 2

def number? (cs : Text) : Option Nat :=
  if cs.isEmpty || !cs.all Char.isDigit then none
  else (Arithmetic.digits? 10 cs).bind fun n => if n < limit31 then some n else none

def number (command : String) (cs : Text) : Run Nat := do
  match number? cs with
  | some n => return n
  | none => die (command ++ ": Illegal number: " ++ shown cs)

def emit (command : String) (text : Text) (status : Nat) : Run Unit := do
  if text.isEmpty then setStatus status
  else if ← write 1 (.ofText text) then setStatus status
  else
    complain (command ++ ": " ++ command ++ ": I/O error")
    setStatus 1

/-! ## Printing and testing -/

def echo (args : List Text) : Run Unit := emit "echo" (Format.echo args) 0

def printf (args : List Text) : Run Unit := do
  let p := Format.printf args
  p.complaints.forM fun c => complain ("printf: " ++ shown c)
  emit "printf" p.out p.status

def test (command : String) (args : List Text) : Run Unit := do
  let words : Option (List Text) :=
    if command == "[" then if args.getLast? == some [']'] then some args.dropLast else none else some args
  match words with
  | none => fail "[: missing ]"
  | some words =>
    match Condition.evaluate (← disk) words with
    | .ok v => setStatus (if v then 0 else 1)
    | .error e => fail (command ++ ": " ++ e.text)

/-! ## Folders -/

def pathText (place : List Bytes) : Text :=
  if place.isEmpty then ['/'] else place.flatMap fun n => '/' :: Bytes.toLatin n

/-- Goes to another folder. -/
def cd (args : List Text) : Run Unit := do
  let old := pathText (← ask (·.here))
  let args := args.filter fun a => a != ['-', 'L'] && a != ['-', 'P'] && a != ['-', '-']
  let path ← match args with
    | [] => do pure ((← var? "HOME".toList).getD old)
    | ['-'] :: _ => do pure ((← var? "OLDPWD".toList).getD old)
    | path :: _ => pure path
  match (← disk).resolve (Bytes.ofLatin path) with
  | .ok (place, .folder) =>
    alter fun p => { p with here := place }
    setVar "OLDPWD".toList old
    setVar "PWD".toList (pathText place)
    if args == [['-']] then emit "cd" (pathText place ++ ['\n']) 0 else setStatus 0
  | _ => fail ("cd: can't cd to " ++ shown path)

def pwd : Run Unit := do emit "pwd" (pathText (← ask (·.here)) ++ ['\n']) 0

/-! ## Reading -/

/-- A line at the front of a text: its characters, whether each was quoted, what follows, and whether the line
ended. -/
def readLine (raw : Bool) (fuel : Nat) (done : List Mark) (cs : Text) : List Mark × Text × Bool :=
  match fuel with
  | 0 => (done.reverse, cs, false)
  | fuel + 1 =>
    match cs with
    | [] => (done.reverse, [], false)
    | '\n' :: rest => (done.reverse, rest, true)
    | '\\' :: c :: rest =>
      if raw then readLine raw fuel (('\\', false) :: done) (c :: rest)
      else if c == '\n' then readLine raw fuel done rest
      else readLine raw fuel ((c, true) :: done) rest
    | '\\' :: [] => if raw then ((('\\', false) :: done).reverse, [], false) else (done.reverse, [], false)
    | c :: rest => readLine raw fuel (if c == '\x00' then done else (c, false) :: done) rest

/-- A line shared out to some variables: a field for each, and all that is left for the last. -/
def share (separators : Text) (names : List Text) (line : List Mark) : List (Text × Text) :=
  let isSeparator (m : Mark) : Bool := !m.2 && separators.contains m.1
  let isBlank (m : Mark) : Bool := isSeparator m && (m.1 == ' ' || m.1 == '\t' || m.1 == '\n')
  let text (ms : List Mark) : Text := ms.map Prod.fst
  match names with
  | [] => []
  | [name] =>
    let rest := ((line.dropWhile isBlank).reverse.dropWhile isBlank).reverse
    let field := rest.takeWhile fun m => !isSeparator m
    let after := rest.drop field.length
    [(name, if after.length = 1 then text field else text rest)]
  | name :: names =>
    let line := line.dropWhile isBlank
    let field := line.takeWhile fun m => !isSeparator m
    let rest := (line.drop field.length).dropWhile isBlank
    let rest := match rest with
      | m :: more => if isSeparator m then more.dropWhile isBlank else rest
      | [] => []
    (name, text field) :: share separators names rest

/-- Reads a line into variables. -/
def read (args : List Text) : Run Unit := do
  let raw := args.head? == some ['-', 'r']
  let names := (if raw then args.drop 1 else args).dropWhile (· == ['-', '-'])
  if names.isEmpty then fail "read: arg count"
  else match names.find? fun n => !isName n with
    | some n => fail ("read: " ++ shown n ++ ": bad variable name")
    | none => do
      let all := ((← feedOf 0).toOption).getD Feed.empty
      let all := all.unrolled (all.front.length + all.cycle.length)
      let (line, rest, ended) := readLine raw (all.front.length + 1) [] all.front
      setRest 0 all { all with front := rest }
      (share (← separators) names line).forM fun v => assign v.1 v.2
      setStatus (if ended then 0 else 1)

/-! ## The way of a shell -/

def exit (args : List Text) : Run Unit := do
  let n ← match args with
    | [] => ask (·.status)
    | cs :: _ => number "exit" cs
  throw (.exit (n % 256))

def back (args : List Text) : Run Unit := do
  let n ← match args with
    | [] => ask (·.status)
    | cs :: _ => number "return" cs
  setStatus n
  throw .back

def leave (command : String) (again : Bool) (args : List Text) : Run Unit := do
  let n ← match args with
    | [] => pure 1
    | cs :: _ => number command cs
  if n = 0 then die (command ++ ": Illegal number: 0")
  else
    setStatus 0
    let n := min n (← ask (·.loops))
    if n = 0 then return ()
    else throw (if again then .next n else .leave n)

/-! ## Parameters and variables -/

def shift (args : List Text) : Run Unit := do
  let n ← match args with
    | [] => pure 1
    | cs :: _ => number "shift" cs
  if n > (← ask (·.params)).length then die "shift: can't shift that many"
  else
    alter fun p => { p with params := p.params.drop n }
    setStatus 0

def switch? (s : Switches) (on : Bool) (c : Char) : Option Switches :=
  match c with
  | 'e' => some { s with errexit := on }
  | 'u' => some { s with nounset := on }
  | 'f' => some { s with noglob := on }
  | 'n' => some { s with noexec := on }
  | c => if "IimsxvVEabpC".contains c then some s else none

def switchNamed (name : Text) : Option Char :=
  [("errexit", 'e'), ("noglob", 'f'), ("ignoreeof", 'I'), ("interactive", 'i'), ("monitor", 'm'), ("noexec", 'n'),
   ("stdin", 's'), ("xtrace", 'x'), ("verbose", 'v'), ("vi", 'V'), ("emacs", 'E'), ("noclobber", 'C'),
   ("allexport", 'a'), ("notify", 'b'), ("nounset", 'u'), ("privileged", 'p')].lookup (String.ofList name)

/-- What switches at the front of arguments come to: the switches, and the arguments after them, which are
none if there was nothing but switches; or the switch that is none. -/
def readSwitches (s : Switches) : List Text → Except String (Switches × Option (List Text))
  | [] => .ok (s, none)
  | ['-', '-'] :: rest => .ok (s, some rest)
  | ['-'] :: rest => .ok (s, if rest.isEmpty then none else some rest)
  | [sign, 'o'] :: rest =>
    if sign == '-' || sign == '+' then
      match rest with
      | [] => .ok (s, none)
      | name :: rest =>
        match (switchNamed name).bind (switch? s (sign == '-')) with
        | some s => readSwitches s rest
        | none => .error ("Illegal option -o " ++ shown name)
    else .ok (s, some ([sign, 'o'] :: rest))
  | (sign :: c :: cs) :: rest =>
    if sign == '-' || sign == '+' then
      match (c :: cs).foldlM (fun s c => match switch? s (sign == '-') c with
        | some s => Except.ok s
        | none => Except.error ("Illegal option " ++ shown [sign, c])) s with
      | .ok s => readSwitches s rest
      | .error e => .error e
    else .ok (s, some ((sign :: c :: cs) :: rest))
  | rest => .ok (s, some rest)

def set (args : List Text) : Run Unit := do
  match readSwitches (← ask (·.switches)) args with
  | .error e => die ("set: " ++ e)
  | .ok (s, params) =>
    alter fun p => { p with switches := s, params := params.getD p.params }
    setStatus 0

def definition (cs : Text) : Text × Option Text :=
  (cs.takeWhile (· != '='), if cs.contains '=' then some ((cs.dropWhile (· != '=')).drop 1) else none)

def eachName (command : String) (args : List Text) (mark : Text → Run Unit) : Run Unit := do
  setStatus 0
  args.forM fun a => do
    let (name, value) := definition a
    if a == ['-', 'p'] || a == ['-', '-'] then return ()
    else if !isName name then die (command ++ ": " ++ shown name ++ ": bad variable name")
    else
      mark name
      value.forM (assign name)

def exportVars (args : List Text) : Run Unit :=
  eachName "export" args fun name => alter fun p => { p with exported := name :: p.exported }

def readonly (args : List Text) : Run Unit := do
  setStatus 0
  args.forM fun a => do
    let (name, value) := definition a
    if a == ['-', 'p'] || a == ['-', '-'] then return ()
    else if !isName name then die ("readonly: " ++ shown name ++ ": bad variable name")
    else
      value.forM (assign name)
      alter fun p => { p with constant := name :: p.constant }

def localVars (args : List Text) : Run Unit := do
  if (← ask (·.calls)) = 0 then die "local: not in a function"
  else eachName "local" args fun name => do
    let old ← var? name
    alter fun p => { p with locals := (name, old) :: p.locals }

def unset (args : List Text) : Run Unit := do
  setStatus 0
  let functions := args.head? == some ['-', 'f']
  args.forM fun a => do
    if a == ['-', 'f'] || a == ['-', 'v'] || a == ['-', '-'] then return ()
    else if functions then alter fun p => { p with functions := p.functions.filter fun f => f.1 != a }
    else if !isName a then die ("unset: " ++ shown a ++ ": bad variable name")
    else if (← ask (·.constant)).contains a then die ("unset: " ++ shown a ++ ": is read only")
    else alter fun p => { p with vars := p.vars.filter fun v => v.1 != a }

/-! ## Signals and jobs -/

def signal? (cs : Text) : Option Nat :=
  match number? cs with
  | some n => if n < 65 then some n else none
  | none =>
    if sameLetters cs "EXIT".toList then some 0
    else (signalNames.findIdx? fun n => sameLetters cs n.toList).map (· + 1)

/-- Sets the command for signals. -/
def trap (args : List Text) : Run Unit := do
  let args := args.dropWhile (· == ['-', '-'])
  let clear (n : Nat) : Run Unit := alter fun p => { p with traps := p.traps.filter fun t => t.1 != n }
  let each (names : List Text) (act : Nat → Run Unit) : Run Unit := do
    setStatus 0
    names.forM fun name => do
      match signal? name with
      | some n => act n
      | none =>
        say 2 ("trap: ".toList ++ name ++ ": bad trap\n".toList)
        setStatus 1
  match args with
  | [] => setStatus 0
  | ['-'] :: names => each names clear
  | action :: names =>
    if names.isEmpty || (number? action).isSome then each args clear
    else each names fun n => alter fun p => { p with traps := replaced n action p.traps }

def killUsage : String :=
  "kill: Usage: kill [-s sigspec | -signum | -sigspec] [pid | job]... or\nkill -l [exitstatus]"

/-- Sends a signal to a process. A job that still runs ends, and what it would have written later is not written. -/
def send (signal pid : Nat) : Run Unit := do
  let jobs ← ask (·.jobs)
  let now ← ask (·.time)
  let p ← ask fun p => p
  if pid = p.shell || p.parents.contains pid then
    if signal = 0 then return () else change fun m => { m with signals := m.signals ++ [(pid, signal)] }
  else if jobs.any fun j => j.number == pid && j.ends > now then
    if signal = 0 then return ()
    else
      alter fun p => { p with jobs := p.jobs.map fun j =>
        if j.number == pid then { j with status := 128 + signal, ends := now } else j }
      change fun m => { m with chunks := m.chunks.filter fun c => !(c.writer == pid && c.time > now) }
  else if jobs.any fun j => j.number == pid then return ()
  else
    complain "kill: No such process\n"
    setStatus 1

/-- Sends signals. -/
def kill (args : List Text) : Run Unit := do
  let run (signal : Nat) (targets : List Text) : Run Unit := do
    if targets.isEmpty then fail killUsage
    else
      setStatus 0
      for t in targets do
        match number? t with
        | some pid => send signal pid
        | none =>
          if t.head? == some '%' then
            match (← ask (·.jobs)).reverse[(number? (t.drop 1)).getD 1 - 1]? with
            | some j => send signal j.number
            | none =>
              fail ("kill: No such job: " ++ shown t)
              return ()
          else
            fail ("kill: Illegal number: " ++ shown t)
            return ()
  match args with
  | ['-', 'l'] :: rest =>
    match rest with
    | [] => emit "kill" (unlines (signalNames.map String.toList)) 0
    | n :: _ =>
      let name := (number? n).bind fun n => signalNames[n % 128 - 1]?
      match name with
      | some s => emit "kill" (s.toList ++ ['\n']) 0
      | none => fail ("kill: invalid signal number or name: " ++ shown n)
  | ['-', 's'] :: name :: rest =>
    match signal? name with
    | some n => run n rest
    | none => fail ("kill: invalid signal number or name: " ++ shown name)
  | ['-', '-'] :: rest => run 15 rest
  | ('-' :: c :: cs) :: rest =>
    match signal? (c :: cs) with
    | some n => run n rest
    | none => fail ("kill: Illegal option -" ++ c.toString)
  | rest => run 15 rest

/-- Waits for jobs. -/
def wait (args : List Text) : Run Unit := do
  let jobs ← ask (·.jobs)
  match args with
  | [] =>
    waitUntil ((jobs.map (·.ends)).foldl max 0)
    alter fun p => { p with jobs := [] }
    setStatus 0
  | args =>
    args.forM fun a => do
      let job := match a with
        | '%' :: n => jobs.reverse[(number? n).getD 1 - 1]?
        | a => jobs.find? fun j => some j.number == number? a
      match job with
      | some j =>
        waitUntil j.ends
        setStatus j.status
      | none => setStatus 127

/-- The command of a name, if the shell does it without running another. -/
def find? (name : String) : Option (List Text → Run Unit) :=
  match name with
  | ":" | "true" | "times" | "hash" | "ulimit" | "alias" | "unalias" | "jobs" => some fun _ => setStatus 0
  | "false" => some fun _ => setStatus 1
  | "echo" => some echo
  | "printf" => some printf
  | "test" => some (test "test")
  | "[" => some (test "[")
  | "cd" | "chdir" => some cd
  | "pwd" => some fun _ => pwd
  | "read" => some read
  | "exit" => some exit
  | "return" => some back
  | "break" => some (leave "break" false)
  | "continue" => some (leave "continue" true)
  | "shift" => some shift
  | "set" => some set
  | "export" => some exportVars
  | "readonly" => some readonly
  | "local" => some localVars
  | "unset" => some unset
  | "trap" => some trap
  | "kill" => some kill
  | "wait" => some wait
  | "umask" => some fun _ => emit "umask" "0022\n".toList 0
  | _ => none

end Builtin

end Courier.Shell
