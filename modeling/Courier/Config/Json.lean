import Courier.Config
import Courier.Json.Printer
import Courier.Json.Reader

/-!
# Configurations as JSON

`toJson` writes the three fields of a configuration as an object. `ofJson` reads an object in which any of them may be
missing and other members are passed over, or an array of the fields by position. A field that is missing has its
standard value; one that stands twice is a mismatch.
-/

namespace Courier

namespace Backend

def ofName (name : String) : Except Json.Complaint Backend :=
  if name = library.name then .ok library
  else if name = command.name then .ok command
  else .error .mismatch

/-- Reads a backend written as an object, after its brace: its name, with `null` for a value. -/
def readTagged (bs : Bytes) : Except Json.Complaint (Backend × Bytes) := do
  let (name, rest) ← Json.name? bs
  let backend ← ofName name
  let rest ← Json.colon rest
  let (_, rest) ← Json.null? rest
  match Json.skipBlank rest with
  | [] => .error .cutShort
  | b :: rest => if b = ascii '}' then .ok (backend, rest) else .error .malformed

/-- Reads a backend: its name, or an object of its name. -/
def read : Json.Reader Backend := fun bs =>
  match Json.skipBlank bs with
  | [] => .error .cutShort
  | b :: rest =>
    if b = ascii '"' then do
      let (name, rest) ← Json.readText rest
      .ok (← ofName name, rest)
    else if b = ascii '{' then readTagged rest
    else .error .malformed

end Backend

namespace Config

/-- A configuration as an object of its three fields. -/
def toJson (c : Config) : List Char :=
  Json.object
    [Json.member "backend" (Json.string c.backend.name.toList),
     Json.member "get_command" (Json.string c.getCommand.toList),
     Json.member "post_command" (Json.string c.postCommand.toList)]

/-- The fields of a configuration that have been read. -/
structure Fields where
  backend : Option Backend
  getCommand : Option String
  postCommand : Option String
  deriving DecidableEq, Repr

def Fields.config (f : Fields) : Config :=
  ⟨f.backend.getD standard.backend, f.getCommand.getD standard.getCommand,
    f.postCommand.getD standard.postCommand⟩

/-- Reads a member of a configuration. -/
def readMember (name : String) (f : Fields) : Json.Reader Fields := fun bs =>
  if name = "backend" then
    (Json.readField Backend.read f.backend bs).map fun r => ({ f with backend := r.1 }, r.2)
  else if name = "get_command" then
    (Json.readField Json.string? f.getCommand bs).map fun r => ({ f with getCommand := r.1 }, r.2)
  else if name = "post_command" then
    (Json.readField Json.string? f.postCommand bs).map fun r => ({ f with postCommand := r.1 }, r.2)
  else (Json.skipMember bs).map (f, ·)

def readObject : Json.Reader Config := fun bs =>
  (Json.readMembers readMember true ⟨none, none, none⟩ bs).map fun r => (r.1.config, r.2)

/-- Reads the fields of a configuration by position. -/
def readArray : Json.Reader Config := fun bs => do
  let (backend, bs) ← Json.readElement Backend.read (.ok standard.backend) true bs
  let (get, bs) ← Json.readElement Json.string? (.ok standard.getCommand) false bs
  let (post, bs) ← Json.readElement Json.string? (.ok standard.postCommand) false bs
  .ok (⟨backend, get, post⟩, ← Json.endArray bs)

def ofJson (bs : Bytes) : Except Json.Complaint Config :=
  Json.whole (Json.record readArray readObject) bs

end Config

end Courier
