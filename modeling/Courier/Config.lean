import Courier.Act
import Courier.Setting
import Courier.Text.Blank

/-!
# Configuration

Which backend performs requests, and the command templates of the command backend. The configuration is read from the
environment in one place (`Config.load`); templates are not checked before they are used.
-/

namespace Courier

/-- The ways to perform a request. -/
inductive Backend where
  /-- In this process. -/
  | library
  /-- By an external command, run through the shell. -/
  | command
  deriving DecidableEq, Repr

namespace Backend

def name : Backend → String
  | library => "library"
  | command => "command"

def words : List (String × Backend) :=
  [("library", library), ("lib", library), ("ureq", library), ("command", command), ("cmd", command),
   ("shell", command)]

/-- The backend a setting asks for: one of the words in any case, with blanks around it. -/
def parse? (value : String) : Option Backend :=
  let word := (Text.trim value.toList).map lowerAscii
  (words.find? fun w => w.1.toList == word).map Prod.snd

end Backend

/-- A configuration. -/
structure Config where
  backend : Backend
  getCommand : String
  postCommand : String
  deriving DecidableEq, Repr

namespace Config

def standard : Config :=
  ⟨.library, Setting.defaultGetCommand, Setting.defaultPostCommand⟩

instance : Inhabited Config := ⟨standard⟩

variable {σ : Type}

/-- The backend a setting chooses. One that is unknown is reported, and the standard one used. -/
def chooseBackend : Option String → Act σ Backend
  | none => pure standard.backend
  | some value =>
    match Backend.parse? value with
    | some b => pure b
    | none => do
      Act.report (.unknownBackend Setting.backend value)
      pure standard.backend

/-- Reads the three settings, the backend first. -/
def load (lookup : String → Act σ (Option String)) : Act σ Config := do
  let backend ← chooseBackend (← lookup Setting.backend)
  let get ← lookup Setting.getCommand
  let post ← lookup Setting.postCommand
  pure ⟨backend, get.getD standard.getCommand, post.getD standard.postCommand⟩

/-- The configuration of an environment. A variable that is not text counts as unset. -/
def ofEnvironment (environment : String → Option Bytes) : Act σ Config :=
  load fun name => pure ((environment name).bind Utf8.decode? |>.map String.ofList)

def withBackend (c : Config) (b : Backend) : Config :=
  { c with backend := b }

end Config

end Courier
