import Courier.Outside.Disk
import Courier.Outside.Shell.Feed

/-!
# What a running shell keeps

A `Machine` is what all processes of a command share: the disk, the open files and pipes, and all that was
written so far. A `Process` is what each has for itself: variables, descriptors, its place on the disk, and
how late it is. Time passes only where a command waits, which is enough to put the output of commands that run
side by side in order.

`Run` is a step of a process: it changes both, and may end the process or leave a loop or function.
-/

namespace Courier.Shell

/-- What a descriptor leads to. -/
inductive Channel where
  /-- Collects what is written. -/
  | sink (id : Nat)
  | null
  | zero
  /-- A folder, which cannot be read. -/
  | folder
  /-- A text to be read, all of which is there at some time. -/
  | feed (text : Feed) (ready : Nat)
  /-- A file, from some place on. -/
  | file (place : List Bytes) (offset : Nat) (mode : OpenMode)

/-- Something written to a sink. -/
structure Chunk where
  sink : Nat
  time : Nat
  /-- The process that wrote it. -/
  writer : Nat
  text : Feed

/-- What all processes share. -/
structure Machine where
  disk : Disk
  channels : List (Nat × Channel)
  /-- What was written, the last chunk first. -/
  chunks : List Chunk
  /-- The next number for a channel, sink or process. -/
  fresh : Nat
  /-- The signals that shells have not seen yet, with the number of the shell each is for. -/
  signals : List (Nat × Nat)

/-- A command that runs beside the others. -/
structure Job where
  number : Nat
  status : Nat
  /-- The time it ends. -/
  ends : Nat

/-- The switches of a shell. -/
structure Switches where
  /-- Ends the shell when a command fails. -/
  errexit : Bool
  /-- Takes a parameter that is not set for a fault. -/
  nounset : Bool
  /-- Leaves patterns alone. -/
  noglob : Bool
  /-- Reads commands without running them. -/
  noexec : Bool

/-- What a process has for itself. -/
structure Process where
  number : Nat
  /-- The number of the shell, which its subshells have too. -/
  shell : Nat
  /-- The numbers of the shells that wait for this one. -/
  parents : List Nat
  vars : List (Text × Text)
  exported : List Text
  constant : List Text
  functions : List (Text × Cmd)
  name : Text
  params : List Text
  fds : List (Nat × Nat)
  switches : Switches
  /-- The commands for signals and, under zero, for the end. -/
  traps : List (Nat × Text)
  here : List Bytes
  status : Nat
  time : Nat
  jobs : List Job
  lastJob : Nat
  /-- The texts that stood after lines. -/
  texts : List (Nat × Word)
  line : Nat
  /-- How many loops and functions are being run. -/
  loops : Nat
  calls : Nat
  /-- The variables of the function that is being run, as they were before. -/
  locals : List (Text × Option Text)
  /-- The status of the last command whose output was taken, if there was one. -/
  substituted : Option Nat

/-- A process and what it shares. -/
structure State where
  machine : Machine
  process : Process

/-- Why a process does not go on to its next command. -/
inductive Flow where
  | exit (status : Nat)
  | killed (signal : Nat)
  | leave (loops : Nat)
  | next (loops : Nat)
  | back
  /-- A bound on the steps of the shell was reached. -/
  | spent

abbrev Run := ExceptT Flow (StateM State)

namespace Run

def ask {α : Type} (f : Process → α) : Run α := do return f (← get).process

def alter (f : Process → Process) : Run Unit := modify fun s => { s with process := f s.process }

def share {α : Type} (f : Machine → α) : Run α := do return f (← get).machine

def change (f : Machine → Machine) : Run Unit := modify fun s => { s with machine := f s.machine }

def attempt {α : Type} (x : Run α) : Run (Except Flow α) := fun s =>
  let (r, s) := x s
  (.ok r, s)

def setStatus (n : Nat) : Run Unit := alter fun p => { p with status := n }

def freshNumber : Run Nat := do
  let n ← share (·.fresh)
  change fun m => { m with fresh := n + 1 }
  return n

/-! ## Variables -/

def var? (name : Text) : Run (Option Text) := ask fun p => p.vars.lookup name

def replaced {α β : Type} [BEq α] (a : α) (b : β) (xs : List (α × β)) : List (α × β) :=
  (a, b) :: xs.filter fun x => !(x.1 == a)

def setVar (name value : Text) : Run Unit :=
  alter fun p => { p with vars := replaced name value p.vars }

/-! ## Channels -/

def waitUntil (time : Nat) : Run Unit :=
  alter fun p => { p with time := max p.time time }

def openChannel (c : Channel) : Run Nat := do
  let n ← freshNumber
  change fun m => { m with channels := (n, c) :: m.channels }
  return n

def setFd (fd : Nat) (channel : Nat) : Run Unit :=
  alter fun p => { p with fds := replaced fd channel p.fds }

def closeFd (fd : Nat) : Run Unit :=
  alter fun p => { p with fds := p.fds.filter fun x => x.1 != fd }

def channel? (fd : Nat) : Run (Option (Nat × Channel)) := do
  let s ← get
  return (s.process.fds.lookup fd).bind fun n => (s.machine.channels.lookup n).map (n, ·)

def contents (place : List Bytes) : Run Text := do
  match (← share (·.disk)).node? place with
  | some (.file bs) => return Bytes.toLatin bs
  | _ => return []

def overwrite (old : Text) (offset : Nat) (text : Text) : Text :=
  old.take offset ++ List.replicate (offset - old.length) '\x00' ++ text ++ old.drop (offset + text.length)

/-- Writes to a descriptor; false if nothing can be written there. -/
def write (fd : Nat) (text : Feed) : Run Bool := do
  match ← channel? fd with
  | none => return false
  | some (n, c) =>
    match c with
    | .sink sink =>
      let p ← ask fun p => p
      unless text.front.isEmpty && text.cycle.isEmpty do
        change fun m => { m with chunks := ⟨sink, p.time, p.number, text⟩ :: m.chunks }
      return true
    | .null | .zero => return true
    | .feed .. | .folder | .file _ _ .read => return false
    | .file place offset mode =>
      let old ← contents place
      let start := if mode = .append then old.length else offset
      let new := Bytes.ofLatin (overwrite old start text.front)
      change fun m => { m with
        disk := m.disk.put place (.file new)
        channels := replaced n (.file place (start + text.front.length) mode) m.channels }
      return true

def say (fd : Nat) (cs : Text) : Run Unit := do
  let _ ← write fd (.ofText cs)

def badDescriptor : IoFault := .os 9

/-- All that can still be read from a descriptor. -/
def feedOf (fd : Nat) : Run (Except IoFault Feed) := do
  match ← channel? fd with
  | none => return .error badDescriptor
  | some (_, c) =>
    match c with
    | .feed f ready =>
      waitUntil ready
      return .ok f
    | .zero => return .ok ⟨[], ['\x00']⟩
    | .file place offset mode =>
      if mode = .read || mode = .readWrite then return .ok (.ofText ((← contents place).drop offset))
      else return .error badDescriptor
    | .null => return .ok .empty
    | .folder => return .error .isDirectory
    | .sink _ => return .error badDescriptor

def setRest (fd : Nat) (all rest : Feed) : Run Unit := do
  match ← channel? fd with
  | some (n, .feed _ ready) => change fun m => { m with channels := replaced n (.feed rest ready) m.channels }
  | some (n, .file place offset mode) =>
    let used := all.front.length - rest.front.length
    change fun m => { m with channels := replaced n (.file place (offset + used) mode) m.channels }
  | _ => return ()

def leadsToFile (fd : Nat) : Run Bool := do
  match ← channel? fd with
  | some (_, .file ..) | some (_, .null) | some (_, .zero) => return true
  | _ => return false

def disk : Run Disk := do return { (← share (·.disk)) with here := ← ask (·.here) }

def setDisk (d : Disk) : Run Unit := change fun m => { m with disk := { d with here := m.disk.here } }

def openSink : Run (Nat × Nat) := do
  let sink ← freshNumber
  return (sink, ← openChannel (.sink sink))

/-- All that was written to a sink, in the order of time, and when the last of it was written. The sink is
then empty. -/
def collect (sink : Nat) : Run (Feed × Nat) := do
  let chunks ← share (·.chunks)
  change fun m => { m with chunks := m.chunks.filter fun c => c.sink != sink }
  let mine := ((chunks.filter fun c => c.sink == sink).reverse).mergeSort fun a b => decide (a.time ≤ b.time)
  let texts := (mine.takeWhile fun c => !c.text.isEndless).map fun c => c.text.front
  let last := (mine.find? fun c => c.text.isEndless).elim Feed.empty fun c => c.text
  return (Feed.ofText texts.flatten ++ last, (mine.map (·.time)).foldl max 0)

/-! ## Faults -/

def complain (text : String) : Run Unit := do
  let p ← ask fun p => p
  say 2 (p.name ++ (": " ++ toString p.line ++ ": " ++ text ++ "\n").toList)

def die {α : Type} (text : String) : Run α := do
  complain text
  throw (.exit 2)

end Run

end Courier.Shell
