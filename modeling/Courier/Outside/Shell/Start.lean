import Courier.Interpreter
import Courier.Outside.Shell.Engine

/-!
# Starting a program of the host

`start` runs a program to its end and comes to all that it wrote and how it ended, or to the fault that kept
it from being started. Its input is empty and its complaints are thrown away. It is what
`World.spawn` starts.
-/

namespace Courier.Shell

def hostDisk : Disk := Disk.standard Program.names

def longestArgument : Nat := 131071

def longestName : Nat := 255

def maxNesting : Nat := 2000

/-- A process as it starts: it reads nothing, its output is collected and its complaints are dropped. -/
def firstProcess (here : List Bytes) : Process where
  number := 1
  shell := 1
  parents := []
  vars := [("PWD".toList, Builtin.pathText here), ("LC_ALL".toList, ['C'])]
  exported := ["PWD".toList, "LC_ALL".toList]
  constant := []
  functions := []
  name := []
  params := []
  fds := [(0, 2), (1, 3), (2, 2)]
  switches := Engine.noSwitches
  traps := []
  here := here
  status := 0
  time := 0
  jobs := []
  lastJob := 0
  texts := []
  line := 0
  loops := 0
  calls := 0
  substituted := none
  locals := []

def outputSink : Nat := 4

def firstState (d : Disk) : State where
  machine := ⟨d, [(2, .null), (3, .sink outputSink)], [], 1000, []⟩
  process := firstProcess d.here

def runFirst (name : Text) (args : List Text) : Run (ExitStatus × Text) := do
  let e := Engine.ofFuel maxNesting
  let r ← Run.attempt (do
    match ← Engine.lookUp name with
    | .program found =>
      if Engine.shells.contains found then Engine.shell e name args else e.program name args
    | .missing .. => e.program name args)
  let status ← e.finish r
  let (output, _) ← Run.collect outputSink
  return (status, output.front)

/-- The fault that keeps a program from being started, if there is one. -/
def startFault (d : Disk) (program : Text) (args : List Text) : Option IoFault :=
  if program.contains '\x00' || args.any fun a => a.contains '\x00' then
    some (.described .invalidInput "nul byte found in provided data")
  else
    let found : Except IoFault Unit :=
      if program.isEmpty then .error .noEntry
      else if program.contains '/' then
        match d.resolve (Bytes.ofLatin program) with
        | .ok (_, .program _) => .ok ()
        | .ok _ => .error .denied
        | .error e => .error e
      else if program.length > longestName then .error .nameTooLong
      else if Program.names.contains (String.ofList program) then .ok ()
      else .error .noEntry
    match found with
    | .error e => some e
    | .ok () => if args.any fun a => a.length > longestArgument then some .argumentsTooLong else none

def start (d : Disk) (program : String) (args : List String) : Except IoFault Child × Disk :=
  let bytesOf (s : String) : Text := Bytes.toLatin (Utf8.encode s.toList)
  let name := bytesOf program
  let args := args.map bytesOf
  match startFault d name args with
  | some e => (.error e, d)
  | none =>
    match runFirst name args (firstState d) with
    | (.ok (status, output), s) =>
      (.ok ⟨[.data (Bytes.ofLatin output)], .ok status⟩, { s.machine.disk with here := d.here })
    | (.error _, s) => (.ok ⟨[], .ok (.killed 9)⟩, { s.machine.disk with here := d.here })

end Courier.Shell
