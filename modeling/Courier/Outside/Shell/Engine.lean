import Courier.Outside.Shell.Builtin
import Courier.Outside.Shell.Program.Table
import Courier.Outside.Shell.Reader
import Courier.Outside.Shell.Redirection

/-!
# Running commands

An `Engine` runs commands and texts of commands. Each kind of command is run by a function that is given the
engine for what is inside it, and `Engine.ofFuel` ties them together; the fuel bounds how deep commands can be
nested, loops and calls included.
-/

namespace Courier.Shell

open Run

/-- What runs commands. The flag says that someone looks at the status, so that a failure does not end the shell. -/
structure Engine where
  fuel : Nat
  run : Bool → Cmd → Run Unit
  /-- Runs the commands of a text. -/
  text : Bool → Text → Run Unit

namespace Engine

/-! ## Processes -/

/-- The signals that do nothing to a process that does not ask for them: those for a child, for going on, for
urgent data and for the size of a window, and those that would only stop it for a while. -/
def harmless : List Nat := [17, 18, 19, 20, 21, 22, 23, 28]

def checkSignal (e : Engine) : Run Unit := do
  let p ← ask fun p => p
  let signals ← share (·.signals)
  match if p.number = p.shell then signals.lookup p.shell else none with
  | none => return ()
  | some n =>
    change fun m => { m with signals := m.signals.erase (p.shell, n) }
    match if n = 9 then none else p.traps.lookup n with
    | some action =>
      e.text false action
      setStatus p.status
    | none => if harmless.contains n then return () else throw (.killed n)

/-- The end of a process that stopped for some reason: its status, or the signal that killed it. -/
def finish (e : Engine) (r : Except Flow Unit) : Run ExitStatus := do
  let status ← match r with
    | .ok () | .error .back | .error (.leave _) | .error (.next _) => do
      pure (ExitStatus.exited ((← ask (·.status)) % 256))
    | .error (.exit n) => pure (.exited n)
    | .error (.killed n) => pure (.killed n)
    | .error .spent => pure (.killed 9)
  match status with
  | .killed n => return .killed n
  | .exited n =>
    match (← ask (·.traps)).lookup 0 with
    | none => return .exited n
    | some action =>
      alter fun p => { p with traps := p.traps.filter (fun t => t.1 != 0), status := n }
      match ← attempt (e.text false action) with
      | .error (.exit m) => return .exited m
      | .error (.killed m) => return .killed m
      | _ => return .exited n

def statusOf : ExitStatus → Nat
  | .exited n => n
  | .killed n => 128 + n

/-- Does something in a process of its own, which ends with it. What it changes of itself is gone after that;
it comes to the way it ended and the time. -/
def subprocess (e : Engine) (prepare : Process → Process) (body : Run Unit) : Run (ExitStatus × Nat) := do
  let saved ← ask fun p => p
  let number ← freshNumber
  alter fun p => prepare { p with
    number := number, jobs := [], loops := 0
    traps := p.traps.filter fun t => t.2.isEmpty }
  let ending ← e.finish (← attempt body)
  let ended ← ask (·.time)
  alter fun _ => saved
  return (ending, ended)

def waitFor (e : Engine) (prepare : Process → Process) (body : Run Unit) : Run Unit := do
  let (ending, ended) ← e.subprocess prepare body
  waitUntil ended
  setStatus (statusOf ending)
  e.checkSignal

def take (e : Engine) : Taking := fun cmd => do
  let (sink, channel) ← openSink
  let (ending, ended) ← e.subprocess (fun p => { p with fds := replaced 1 channel p.fds }) (e.run false cmd)
  let (output, last) ← collect sink
  waitUntil (max ended last)
  alter fun p => { p with substituted := some (statusOf ending) }
  e.checkSignal
  return ((output.front.filter (· != '\x00')).reverse.dropWhile (· == '\n')).reverse

/-! ## Programs -/

/-- What a name leads to. -/
inductive Found where
  | program (name : String)
  | missing (status : Nat) (why : String)

def searchPath : Run (List Text) := do
  let path := (← var? "PATH".toList).getD "/usr/local/sbin:/usr/local/bin:/usr/sbin:/usr/bin:/sbin:/bin".toList
  return (path.splitOn ':').map fun d => if d.isEmpty then ['.'] else d

def programAt (d : Disk) (path : Text) : Found :=
  match d.resolve (Bytes.ofLatin path) with
  | .ok (_, .program name) => .program name
  | .ok _ => .missing 126 "Permission denied"
  | .error e =>
    if e = .noEntry ∨ e = .notDirectory ∨ e = .nameTooLong then .missing 127 "not found" else .missing 126 e.words

def pathTo? (name : Text) : Run (Option Text) := do
  let d ← disk
  if name.contains '/' then
    return match programAt d name with
      | .program _ => some name
      | .missing .. => none
  else
    return ((← searchPath).map fun folder => folder ++ '/' :: name).find? fun path =>
      match programAt d path with
      | .program _ => true
      | .missing .. => false

/-- What a name leads to. -/
def lookUp (name : Text) : Run Found := do
  let d ← disk
  if name.isEmpty then return .missing 127 "Permission denied"
  else if name.contains '/' then return programAt d name
  else
    match ← pathTo? name with
    | some path => return programAt d path
    | none =>
      let denied := (← searchPath).any fun folder =>
        match d.resolve (Bytes.ofLatin (folder ++ '/' :: name)) with
        | .ok (_, .file _) => true
        | _ => false
      return if denied then .missing 126 "Permission denied" else .missing 127 "not found"

def deliver : List Written → Run Bool
  | [] => return true
  | .err cs :: rest => do
    say 2 cs
    deliver rest
  | .out f :: rest => do
    if f.front.isEmpty && f.cycle.isEmpty then deliver rest
    else
      let written ← write 1 f
      let others ← deliver rest
      return written && others

def work (name : Text) (args : List Text) (program : Task → Finish) : Run Unit := do
  let source ← feedOf 0
  let input := source.toOption.getD Feed.empty
  let r := program ⟨name, args, source, ← leadsToFile 0, ← disk⟩
  setRest 0 input r.input
  setDisk r.disk
  alter fun p => { p with time := p.time + r.pause }
  if ← deliver r.writes then setStatus r.status
  else
    say 2 (name ++ ": write error: Bad file descriptor\n".toList)
    setStatus 1

/-! ## Starting a shell -/

/-- What a shell is asked to run. -/
inductive Script where
  | command (cs : Text)
  | file (path : Text)
  | input

/-- A shell as its arguments ask for it. -/
structure Plan where
  switches : Switches
  script : Script
  /-- The name and the parameters, if they are given. -/
  name : Option Text
  params : List Text

/-- Reads the letters of one option argument of a shell: the switches, and whether a command or the input is
asked for. -/
def shellLetters (on : Bool) (s : Switches × Bool × Bool) (c : Char) : Except String (Switches × Bool × Bool) :=
  match c with
  | 'c' => .ok (s.1, true, s.2.2)
  | 's' => .ok (s.1, s.2.1, true)
  | 'l' | 'i' => .ok s
  | c =>
    match Builtin.switch? s.1 on c with
    | some w => .ok (w, s.2.1, s.2.2)
    | none => .error ("Illegal option " ++ shown [if on then '-' else '+', c])

/-- Reads the arguments of a shell. -/
def plan (s : Switches × Bool × Bool) : List Text → Except String Plan
  | [sign, 'o'] :: name :: rest =>
    let named := if sign == '-' || sign == '+' then Builtin.switchNamed name else none
    match named.bind (Builtin.switch? s.1 (sign == '-')) with
    | some w => plan (w, s.2.1, s.2.2) rest
    | none => .error ("Illegal option -o " ++ shown name)
  | ['-'] :: rest => settle s rest
  | ['+'] :: rest => plan s rest
  | ['-', '-'] :: rest => settle s rest
  | (sign :: c :: cs) :: rest =>
    if sign == '-' || sign == '+' then do
      let s ← (c :: cs).foldlM (shellLetters (sign == '-')) s
      plan s rest
    else settle s ((sign :: c :: cs) :: rest)
  | rest => settle s rest
where
  /-- What is asked for after the options. -/
  settle (s : Switches × Bool × Bool) (rest : List Text) : Except String Plan :=
    match s.2.1, s.2.2, rest with
    | true, _, [] => .error "-c requires an argument"
    | true, _, cs :: rest => .ok ⟨s.1, .command cs, rest.head?, rest.drop 1⟩
    | false, true, rest => .ok ⟨s.1, .input, none, rest⟩
    | false, false, [] => .ok ⟨s.1, .input, none, []⟩
    | false, false, path :: rest => .ok ⟨s.1, .file path, some path, rest⟩

def noSwitches : Switches := ⟨false, false, false, false⟩

/-- Runs a shell with the name it was started by and its arguments, in the present process. -/
def shell (e : Engine) (name : Text) (args : List Text) : Run Unit := do
  alter fun p => { p with
    shell := p.number, parents := if p.shell = p.number then p.parents else p.shell :: p.parents
    name := name, params := [], switches := noSwitches, functions := [], constant := [], line := 0
    vars := p.vars.filter fun v => p.exported.contains v.1 }
  match plan (noSwitches, false, false) args with
  | .error why =>
    complain why
    throw (.exit 2)
  | .ok plan =>
    let text ← match plan.script with
      | .command cs => pure cs
      | .input => do
        let cs := (← feedOf 0).toOption.getD Feed.empty
        setRest 0 cs Feed.empty
        pure cs.front
      | .file path =>
        match readPath (← disk) path with
        | .ok f => pure f.front
        | .error er => die (openTrouble .read path er)
    alter fun p => { p with
      name := plan.name.getD name, params := plan.params, switches := plan.switches,
      status := 0, calls := 0, loops := 0 }
    e.text false text

def shells : List String := ["sh", "dash", "bash"]

/-- Runs a program by its name. -/
def program (e : Engine) (name : Text) (args : List Text) : Run Unit := do
  match ← lookUp name with
  | .missing status why =>
    complain (shown name ++ ": " ++ why)
    setStatus status
  | .program found =>
    if shells.contains found then e.waitFor id (e.shell name args)
    else if found == "env" then
      let settings := args.takeWhile fun a => isName (Builtin.definition a).1 && a.contains '='
      match args.drop settings.length with
      | [] => setStatus 0
      | command :: rest =>
        match ← lookUp command with
        | .missing status why =>
          let why := if status = 127 then "No such file or directory" else why
          say 2 (name ++ (": " ++ quoted command ++ ": " ++ why ++ "\n").toList)
          setStatus status
        | .program found =>
          match Program.table.lookup found with
          | some run => work command rest run
          | none =>
            e.waitFor (fun p => settings.foldl (fun p a =>
              let (n, v) := Builtin.definition a
              { p with vars := replaced n (v.getD []) p.vars, exported := n :: p.exported }) p) (e.shell command rest)
    else
      match Program.table.lookup found with
      | some run => work name args run
      | none => setStatus 0

/-! ## Simple commands -/

/-- Calls a function. -/
def call (e : Engine) (checked : Bool) (body : Cmd) (args : List Text) : Run Unit := do
  let before ← ask fun p => p
  alter fun p => { p with params := args, loops := 0, calls := p.calls + 1, locals := [] }
  let r ← attempt (e.run checked body)
  let names ← ask (·.locals)
  alter fun p => { p with
    params := before.params, loops := before.loops, calls := before.calls, locals := before.locals
    vars := names.foldl (fun vs n =>
      match n.2 with
      | some v => replaced n.1 v vs
      | none => vs.filter fun x => x.1 != n.1) p.vars }
  match r with
  | .ok () | .error .back => return ()
  | .error flow => throw flow

def describe (functions : List (Text × Cmd)) (name : Text) : Run (Option String) := do
  if isReserved name then return some "a shell keyword"
  else if (functions.lookup name).isSome then return some "a shell function"
  else if (Builtin.find? (shown name)).isSome || Builtin.specials.contains (shown name) ||
      ["command", "type", "eval", "exec", "."].contains (shown name) then
    return some (if Builtin.specials.contains (shown name) then "a special shell builtin" else "a shell builtin")
  else return (← pathTo? name).map shown

def type (names : List Text) : Run Unit := do
  setStatus 0
  names.forM fun n => do
    match ← describe (← ask (·.functions)) n with
    | some what => say 1 (n ++ (" is " ++ what ++ "\n").toList)
    | none =>
      say 1 (n ++ ": not found\n".toList)
      setStatus 127

def which (names : List Text) : Run Unit := do
  match names with
  | [] => setStatus 0
  | n :: _ =>
    match ← describe (← ask (·.functions)) n with
    | none => setStatus 127
    | some what =>
      say 1 ((if what.startsWith "/" || n.contains '/' then what.toList else n) ++ ['\n'])
      setStatus 0

def source (e : Engine) (checked : Bool) (args : List Text) : Run Unit := do
  match args with
  | [] => setStatus 0
  | path :: _ =>
    if !path.contains '/' then die (".: " ++ shown path ++ ": not found")
    else match readPath (← disk) path with
      | .ok f =>
        setStatus 0
        match ← attempt (e.text checked f.front) with
        | .ok () | .error .back => return ()
        | .error flow => throw flow
      | .error er => die (".: " ++ openTrouble .read path er)

/-- Runs a program in the place of the shell. -/
def replace (e : Engine) (name : Text) (args : List Text) : Run Unit := do
  match ← lookUp name with
  | .missing status why =>
    complain ("exec: " ++ shown name ++ ": " ++ why)
    throw (.exit status)
  | .program found =>
    alter fun p => { p with traps := [] }
    if shells.contains found then
      match ← attempt (e.shell name args) with
      | .ok () => throw (.exit ((← ask (·.status)) % 256))
      | .error flow => throw flow
    else
      e.program name args
      throw (.exit (← ask (·.status)))

/-- Runs a command that is no function. -/
def dispatch (e : Engine) (checked : Bool) (fuel : Nat) (name : Text) (args : List Text) : Run Unit :=
  match fuel with
  | 0 => throw .spent
  | fuel + 1 => do
    match String.ofList name with
    | "eval" =>
      let cs := Format.joined args
      if cs.all fun c => c == ' ' then setStatus 0 else e.text checked cs
    | "." => source e checked args
    | "exec" =>
      match args with
      | [] => setStatus 0
      | name :: args => replace e name args
    | "command" =>
      match args with
      | [] => setStatus 0
      | ['-', 'v'] :: names => which names
      | ['-', 'V'] :: names => type names
      | ['-', 'p'] :: rest | ['-', '-'] :: rest => dispatch e checked fuel name rest
      | name :: args => dispatch e checked fuel name args
    | "type" => type args
    | command =>
      match Builtin.find? command with
      | some run => run args
      | none => e.program name args

/-- Runs a simple command: its words are expanded, its redirections done, its assignments made, in this order.
Assignments last only without a command or before a special one. -/
def simple (e : Engine) (checked : Bool) (assigns : List (Text × Word)) (words : List Word)
    (redirects : List Redirect) : Run Unit := do
  alter fun p => { p with substituted := none }
  let names ← words.mapM (fields e.take e.fuel)
  let fds ← ask (·.fds)
  let assignAll : Run Unit := assigns.forM fun a => do assign a.1 (← single e.take e.fuel a.2)
  match names.flatten with
  | [] =>
    if ← redirectAll e.take e.fuel redirects then
      undo redirects fds
      assignAll
      setStatus ((← ask (·.substituted)).getD 0)
    else
      undo redirects fds
      setStatus 2
  | name :: args =>
    let isSpecial := Builtin.specials.contains (String.ofList name)
    if ← redirectAll e.take e.fuel redirects then
      let before ← ask fun p => p
      assignAll
      if isSpecial then
        if String.ofList name == "exec" && args.isEmpty then setStatus 0
        else
          let r ← attempt (dispatch e checked (args.length + 1) name args)
          undo redirects fds
          match r with
          | .ok () => return ()
          | .error flow => throw flow
      else
        alter fun p => { p with exported := assigns.map Prod.fst ++ p.exported }
        let r ← attempt (match before.functions.lookup name with
          | some body => call e checked body args
          | none => dispatch e checked (args.length + 1) name args)
        let overwritten := assigns.map fun a => (a.1, before.vars.lookup a.1)
        undo redirects fds
        alter fun p => { p with
          exported := if assigns.isEmpty then p.exported else before.exported
          vars := overwritten.foldl (fun vs n =>
            match n.2 with
            | some v => replaced n.1 v vs
            | none => vs.filter fun x => x.1 != n.1) p.vars }
        match r with
        | .ok () => return ()
        | .error flow => throw flow
    else
      undo redirects fds
      setStatus 2
      if isSpecial then throw (.exit 2)

/-! ## Pipelines and jobs -/

/-- Runs the stages of a pipeline, each in a process of its own with the output of the one before as its
input. All start at the same time, and the pipeline ends with the last of them to end. -/
def stages (e : Engine) (checked : Bool) (start : Nat) : List Cmd → Option Nat → Run Unit
  | [], _ => return ()
  | cmd :: rest, input => do
    let feed (p : Process) : Process := match input with
      | some channel => { p with fds := replaced 0 channel p.fds }
      | none => p
    let timed (p : Process) : Process := { p with time := start }
    match rest with
    | [] =>
      let (ending, ended) ← e.subprocess (fun p => timed (feed p)) (e.run checked cmd)
      waitUntil ended
      setStatus (statusOf ending)
    | _ =>
      let (sink, channel) ← openSink
      let (_, ended) ← e.subprocess (fun p => timed (feed { p with fds := replaced 1 channel p.fds }))
        (e.run checked cmd)
      let (output, last) ← collect sink
      waitUntil ended
      let next ← openChannel (.feed output (max start last))
      stages e checked start rest (some next)

/-- Starts a command beside the others. It starts a moment after what the shell itself does at this time. -/
def background (e : Engine) (cmd : Cmd) : Run Unit := do
  let now ← ask (·.time)
  let null ← openChannel .null
  let number ← share (·.fresh)
  let (ending, ended) ← e.subprocess
    (fun p => { p with time := now + 1, fds := replaced 0 null p.fds }) (e.run false cmd)
  alter fun p => { p with
    lastJob := number, status := 0
    jobs := p.jobs ++ [⟨number, statusOf ending, ended⟩] }
  e.checkSignal

/-! ## Loops and choices -/

def maxRounds : Nat := 200000

def round (e : Engine) (checked : Bool) (body : Cmd) : Run Bool := do
  match ← attempt (e.run checked body) with
  | .ok () => return true
  | .error (.leave n) => if n ≤ 1 then return false else throw (.leave (n - 1))
  | .error (.next n) => if n ≤ 1 then return true else throw (.next (n - 1))
  | .error flow => throw flow

def rounds (e : Engine) (checked untilTrue : Bool) (condition body : Cmd) (status : Nat) (n : Nat) : Run Unit :=
  match n with
  | 0 => throw .spent
  | n + 1 => do
    if ← round e true condition then
      if ((← ask (·.status)) == 0) != untilTrue then
        if ← round e checked body then rounds e checked untilTrue condition body (← ask (·.status)) n
        else return ()
      else setStatus status
    else return ()

def eachRound (e : Engine) (checked : Bool) (name : Text) (body : Cmd) : List Text → Run Unit
  | [] => return ()
  | v :: vs => do
    assign name v
    if ← round e checked body then eachRound e checked name body vs else return ()

def inLoop (x : Run Unit) : Run Unit := do
  alter fun p => { p with loops := p.loops + 1 }
  let r ← attempt x
  alter fun p => { p with loops := p.loops - 1 }
  match r with
  | .ok () => return ()
  | .error flow => throw flow

def choose (e : Engine) (subject : Text) : List (List Word × Cmd) → Run (Option Cmd)
  | [] => return none
  | (patterns, body) :: rest => do
    let hit ← patterns.anyM fun w => do return Pattern.matches? (← patternOf e.take e.fuel w) subject
    if hit then return some body else choose e subject rest

def checkFailure (checked : Bool) : Run Unit := do
  let p ← ask fun p => p
  if p.status != 0 && p.switches.errexit && !checked then throw (.exit (p.status % 256))

/-- Runs a command. -/
def step (e : Engine) (checked : Bool) (cmd : Cmd) : Run Unit := do
  match cmd with
  | .nothing => setStatus 0
  | .simple assigns words redirects =>
    simple e checked assigns words redirects
    e.checkSignal
    checkFailure checked
  | .pipeline cmds =>
    stages e checked (← ask (·.time)) cmds none
    e.checkSignal
    checkFailure checked
  | .negate body =>
    e.run true body
    setStatus (if (← ask (·.status)) = 0 then 1 else 0)
  | .both first second =>
    e.run true first
    if (← ask (·.status)) = 0 then e.run checked second
  | .either first second =>
    e.run true first
    if (← ask (·.status)) != 0 then e.run checked second
  | .sequence first second =>
    e.run checked first
    e.run checked second
  | .background body => background e body
  | .subshell body =>
    e.waitFor id (e.run checked body)
    checkFailure checked
  | .redirected body redirects =>
    let fds ← ask (·.fds)
    if ← redirectAll e.take e.fuel redirects then
      let r ← attempt (e.run checked body)
      undo redirects fds
      match r with
      | .ok () => return ()
      | .error flow => throw flow
    else
      undo redirects fds
      setStatus 2
      checkFailure checked
  | .choose condition yes no =>
    e.run true condition
    if (← ask (·.status)) = 0 then e.run checked yes
    else e.run checked no
  | .loop untilTrue condition body => inLoop (rounds e checked untilTrue condition body 0 maxRounds)
  | .each name words body =>
    let values ← match words with
      | some ws => do pure (← ws.mapM (fields e.take e.fuel)).flatten
      | none => ask (·.params)
    setStatus 0
    inLoop (eachRound e checked name body values)
  | .select subject clauses =>
    let cs ← single e.take e.fuel subject
    match ← choose e cs clauses with
    | some body => e.run checked body
    | none => setStatus 0
  | .define name body =>
    alter fun p => { p with functions := replaced name body p.functions }
    setStatus 0

/-! ## Texts -/

/-- Runs the commands of a text, line by line. `fuel` bounds the lines. -/
def lines (e : Engine) (checked : Bool) (fuel : Nat) (scan : Scan) : Run Unit :=
  match fuel with
  | 0 => return ()
  | fuel + 1 => do
    if scan.isDone then return ()
    else
      alter fun p => { p with line := p.line + 1 }
      match readLine.run { scan with texts := [], count := ← share (·.fresh) } with
      | none => die "Syntax error"
      | some (cmd, next) =>
        change fun m => { m with fresh := next.count }
        alter fun p => { p with texts := next.texts ++ p.texts }
        match cmd with
        | .nothing => pure ()
        | cmd => unless (← ask (·.switches)).noexec do e.run checked cmd
        lines e checked fuel next

def texts (e : Engine) (checked : Bool) (cs : Text) : Run Unit := do
  lines e checked (cs.length + 2) (Scan.start cs 0)

def ofFuel : Nat → Engine
  | 0 => ⟨0, fun _ _ => throw .spent, fun _ _ => throw .spent⟩
  | fuel + 1 =>
    ⟨fuel, fun checked cmd => step (ofFuel fuel) checked cmd, fun checked cs => texts (ofFuel fuel) checked cs⟩

end Engine

end Courier.Shell
