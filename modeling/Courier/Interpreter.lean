import Courier.Transport.Command

/-!
# Running a command through an interpreter

An interpreter is a program and the flag after which it takes a command. A command that was started is read to
the end of its output and then waited for, whatever the reading came to; how it ended is only reported.

`Interpreter.run` does this and keeps each step it makes on the host's processes; a runner forgets them.
-/

namespace Courier

/-- A command that was started: what it writes, and how it ends (or that waiting for it fails). -/
structure Child where
  output : Source
  ending : Except IoFault ExitStatus

/-- A step made on the host's processes. -/
inductive ProcessStep where
  | started
  | read (space : Nat) (result : ReadResult)
  | released
  | waited
  deriving DecidableEq, Repr

abbrev Spawn (σ : Type) := String → List String → Act σ (Except IoFault Child)

/-- The same way to start programs, in a world that also keeps what it was asked to start, the last one at the end. -/
def Spawn.recording {σ : Type} (spawn : Spawn σ) : Spawn (σ × List (String × List String)) := fun program args => do
  Act.step fun w => ((), (w.1, w.2 ++ [(program, args)]))
  (spawn program args).focus Prod.fst fun s w => (s, w.2)

/-- A program that takes a command after a flag. -/
structure Interpreter where
  program : String
  flag : String
  deriving DecidableEq, Repr

/-- A world with the steps made on its processes, the last one at the end. -/
abbrev Attended (σ : Type) := σ × List ProcessStep

namespace Interpreter

def standard : Interpreter := ⟨"sh", "-c"⟩

def readFailure (e : IoFault) : Failure :=
  .subprocess ("reading command output: " ++ e.message)

variable {σ : Type}

def note (steps : List ProcessStep) : Act (Attended σ) Unit :=
  Act.step fun w => ((), (w.1, w.2 ++ steps))

/-- Starts a command. -/
def start (i : Interpreter) (spawn : Spawn σ) (command : String) : Act (Attended σ) (Except IoFault Child) := do
  match ← (spawn i.program [i.flag, command]).focus Prod.fst fun s w => (s, w.2) with
  | .ok child => do
    note [.started]
    pure (.ok child)
  | .error e => pure (.error e)

/-- Reads the output of a child and releases the pipe it came through. -/
def drain (grants : Nat → Grant) (child : Child) : Act (Attended σ) Reply := do
  let drained := readAll grants readFailure child.output
  note (drained.reads.map fun r => .read r.1 r.2)
  note [.released]
  pure drained.reply

def wait (child : Child) : Act (Attended σ) (Except IoFault ExitStatus) := do
  note [.waited]
  pure child.ending

/-- Reports how a command ended, where there is something to report. -/
def reportEnding : Except IoFault ExitStatus → Act (Attended σ) Unit
  | .ok status => if status.success then pure () else Act.report (.commandFailed status)
  | .error e => Act.report (.waitFailed e)

/-- Runs a command. -/
def run (i : Interpreter) (grants : Nat → Grant) (spawn : Spawn σ) (command : String) : Act (Attended σ) Reply := do
  Act.report (.executing command)
  match ← i.start spawn command with
  | .error e => pure (.error (.subprocess (i.program ++ ": " ++ e.message)))
  | .ok child => do
    let output ← drain grants child
    -- What was read is looked at only after the wait, so that no way out leads past it.
    reportEnding (← wait child)
    match output with
    | .error f => pure (.error f)
    | .ok b => do
      Act.report (.commandOutput b.length)
      pure (.ok b)

def runner (i : Interpreter) (spawn : Spawn σ) : Runner σ := fun command =>
  (i.run plenty spawn command).focus (·, []) fun w _ => w.1

end Interpreter

end Courier
