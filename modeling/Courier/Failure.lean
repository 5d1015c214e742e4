import Courier.IoFault
import Courier.Buffer.Storage
import Courier.Text.Utf8
import Courier.Text.Quoted

/-!
# Failures

Why a request has no reply, one constructor per cause a caller can act on. A broken command template is told
apart from a broken connection because it is found before anything is sent or started.
-/

namespace Courier

/-- The cause of a failed request. -/
inductive Failure where
  /-- A command template lacks a placeholder it needs; `setting` names the environment variable it came from. -/
  | badTemplate (setting template : String)
  /-- The exchange with the peer failed. -/
  | transport (reason : String)
  /-- The command interpreter could not be started or read. -/
  | subprocess (reason : String)
  /-- The file to be sent cannot be inspected, opened or is too short. -/
  | unreadableFile (path : Bytes) (cause : IoFault)
  /-- The backend in use cannot do what was asked. -/
  | unsupported (reason : String)
  /-- A reply buffer could not grow. -/
  | allocation (cause : ReserveFault)
  deriving DecidableEq, Repr

namespace Failure

def pathText (path : Bytes) : String :=
  String.ofList (Utf8.decodeLossy path)

def badTemplateText (setting template : List Char) : List Char :=
  "invalid HTTP command template ".toList ++ Text.quote template ++ ": set the '".toList ++ setting ++
    "' environment variable".toList

def message : Failure → String
  | badTemplate setting template => String.ofList (badTemplateText setting.toList template.toList)
  | transport reason => "transport failure: " ++ reason
  | subprocess reason => "failed to spawn HTTP command: " ++ reason
  | unreadableFile path cause => "cannot read " ++ pathText path ++ ": " ++ cause.message
  | unsupported reason => "unsupported operation: " ++ reason
  | allocation cause => "reply buffer allocation failed: " ++ cause.message

/-- The text of the failure behind this one, if there is one. -/
def cause? : Failure → Option String
  | unreadableFile _ cause => some cause.message
  | allocation cause => some cause.message
  | _ => none

/-- The refusal to send a file by any other backend than the in-process one. -/
def noUpload : Failure :=
  unsupported "file upload requires the library backend"

end Failure

end Courier
