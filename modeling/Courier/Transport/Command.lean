import Courier.Transport.Basic
import Courier.Setting

/-!
# The command transport

Fills a command template in for each request and hands the command to a runner. The template is read anew for each
request, so a broken one is found by the request that needs it, and nothing is run for that request.
-/

namespace Courier

/-- Something that runs a command and comes to its output. -/
abbrev Runner (σ : Type) := String → Act σ Reply

/-- The runner that also keeps each command it is handed, the last one at the end. -/
def Runner.recording {σ : Type} (run : Runner σ) : Runner (σ × List String) := fun command => do
  Act.step fun w => ((), (w.1, w.2 ++ [command]))
  (run command).focus Prod.fst fun s w => (s, w.2)

namespace Template

variable {σ : Type}

/-- Reads the template of a setting. A missing placeholder is reported and is a failure of that setting. -/
def load (setting : String) (required : List Placeholder) (raw : String) : Act σ (Except Failure Template) :=
  match parse required raw.toList with
  | .ok t => pure (.ok t)
  | .error missing => do
    Act.report (.invalidTemplate setting missing)
    pure (.error (.badTemplate setting raw))

end Template

/-- The templates of the commands for a GET and a POST. -/
structure Commands where
  get : String
  post : String
  deriving DecidableEq, Repr

namespace Commands

variable {σ : Type}

/-- The text a command sends: that of the request, or none. -/
def payload : Body → String
  | .text text => text
  | _ => ""

/-- The command for a request. No command can send a file. -/
def render (c : Commands) (r : Request) : Act σ (Except Failure String) :=
  match r.method, r.body with
  | _, .file .. => pure (.error .noUpload)
  | .get, _ => do
    let t ← Template.load Setting.getCommand Template.forGet c.get
    pure (t.map fun t => String.ofList (t.render r.url.toList []))
  | .post, body => do
    let t ← Template.load Setting.postCommand Template.forPost c.post
    pure (t.map fun t => String.ofList (t.render r.url.toList (payload body).toList))

/-- The transport that runs the command for each request. -/
def transport (c : Commands) (run : Runner σ) : Transport σ where
  name := "command"
  uploads := false
  execute r := do
    match ← c.render r with
    | .ok command => run command
    | .error f => pure (.error f)

end Commands

end Courier
