import Courier.Failure
import Courier.Request
import Courier.ExitStatus
import Courier.Template
import Courier.Wire.Status

/-!
# Log events

What the program reports while it works, one constructor per report. An event has a level, a message that is
the same for all events of its kind, and named fields. The note of each piece of a reply as it comes in, which is below
the debug level, is no event here.
-/

namespace Courier

/-- How serious an event is. -/
inductive Level where
  | debug
  | warn
  | error
  deriving DecidableEq, Repr

/-- A report of something the program did or met. -/
inductive Event where
  | clientConfigured (backend : String)
  | executing (command : String)
  | commandFailed (status : ExitStatus)
  | waitFailed (fault : IoFault)
  | commandOutput (length : Nat)
  | invalidTemplate (setting : String) (missing : Placeholder)
  | uploadRefused (backend : String)
  | unknownBackend (setting value : String)
  | sending (method : Method) (url : String)
  | unsuccessfulStatus (code : Nat) (url : String)
  | uploadTooShort (path : Bytes) (available length : Nat)
  | panicCaught (function : String)
  deriving DecidableEq, Repr

namespace Event

def level : Event → Level
  | clientConfigured _ | executing _ | commandOutput _ | sending .. | unsuccessfulStatus .. => .debug
  | commandFailed _ | waitFailed _ | invalidTemplate .. | uploadRefused _ | unknownBackend ..
  | uploadTooShort .. => .warn
  | panicCaught _ => .error

def message : Event → String
  | clientConfigured _ => "http client configured"
  | executing _ => "executing"
  | commandFailed _ => "HTTP command exited unsuccessfully"
  | waitFailed _ => "failed to reap HTTP command"
  | commandOutput _ => "read command output"
  | invalidTemplate .. => "invalid HTTP command template"
  | uploadRefused _ => "post_file requires the library backend"
  | unknownBackend .. => "unknown backend, using the default"
  | sending .. => "sending request"
  | unsuccessfulStatus .. => "non-success status"
  | uploadTooShort .. => "upload file too short"
  | panicCaught _ => "panic caught at FFI boundary"

def fields : Event → List (String × String)
  | clientConfigured backend => [("backend", backend)]
  | executing command => [("command", command)]
  | commandFailed status => [("status", status.text)]
  | waitFailed fault => [("error", fault.message)]
  | commandOutput length => [("bytes", toString length)]
  | invalidTemplate setting missing => [("variable", setting), ("missing", String.ofList missing.token)]
  | uploadRefused backend => [("backend", backend)]
  | unknownBackend setting value => [("variable", setting), ("value", value)]
  | sending method url => [("method", match method with | .get => "Get" | .post => "Post"), ("url", url)]
  | unsuccessfulStatus code url => [("status", Wire.statusText code), ("url", url)]
  | uploadTooShort path available length =>
    [("path", Failure.pathText path), ("available", toString available), ("length", toString length)]
  | panicCaught function => [("function", function)]

end Event

end Courier
