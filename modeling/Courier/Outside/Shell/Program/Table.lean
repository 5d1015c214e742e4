import Courier.Outside.Shell.Program.Calculating
import Courier.Outside.Shell.Program.Reading
import Courier.Outside.Shell.Program.Replacing

/-!
# The programs of the host by name

The programs that do all their work themselves. Those that run other programs, `env` and the shells, are the
shell's to run.
-/

namespace Courier.Shell.Program

def test (bracket : Bool) (t : Task) : Finish :=
  let words := if bracket then if t.args.getLast? == some [']'] then some t.args.dropLast else none else some t.args
  match words.map (Condition.evaluate t.disk) with
  | some (.ok v) => t.finish [] (if v then 0 else 1)
  | some (.error e) => t.giveUp e.text 2
  | none => t.giveUp "missing ']'" 2

def pwd (t : Task) : Finish :=
  let path : Text := if t.disk.here.isEmpty then ['/'] else t.disk.here.flatMap fun n => '/' :: Bytes.toLatin n
  t.finish [.out (.ofText (path ++ ['\n']))] 0

def table : List (String × (Task → Finish)) :=
  [("[", test true), ("basename", basename), ("cat", cat), ("cp", transfer false), ("cut", cut), ("dd", dd),
   ("dirname", dirname), ("echo", echo), ("expr", expr), ("false", fun t => t.finish [] 1), ("head", head),
   ("ls", ls), ("mkdir", mkdir), ("mv", transfer true), ("printf", printf), ("pwd", pwd), ("rev", rev), ("rm", rm),
   ("rmdir", rmdir), ("seq", seq), ("sleep", sleep), ("sort", sort), ("tac", tac), ("tail", tail), ("tee", tee),
   ("test", test false), ("touch", touch), ("tr", tr), ("true", fun t => t.finish [] 0), ("uniq", uniq),
   ("wc", wc), ("yes", yes)]

def names : List String := table.map Prod.fst ++ ["bash", "dash", "env", "sh"]

end Courier.Shell.Program
