/-!
# Exit statuses

How a command ended, and the words a log uses for it.
-/

namespace Courier

/-- The end of a command. -/
inductive ExitStatus where
  | exited (code : Nat)
  | killed (signal : Nat)
  deriving DecidableEq, Repr

/-- The signals, numbered from 1. -/
def signalNames : List String :=
  ["HUP", "INT", "QUIT", "ILL", "TRAP", "ABRT", "BUS", "FPE", "KILL", "USR1", "SEGV", "USR2", "PIPE", "ALRM", "TERM",
   "STKFLT", "CHLD", "CONT", "STOP", "TSTP", "TTIN", "TTOU", "URG", "XCPU", "XFSZ", "VTALRM", "PROF", "WINCH", "IO",
   "PWR", "SYS"]

namespace ExitStatus

def success (s : ExitStatus) : Bool :=
  s == exited 0

/-- The words for an exit status. -/
def text : ExitStatus → String
  | exited code => s!"exit status: {code}"
  | killed signal =>
    match if signal = 0 then none else signalNames[signal - 1]? with
    | some name => s!"signal: {signal} (SIG{name})"
    | none => s!"signal: {signal}"

end ExitStatus

end Courier
