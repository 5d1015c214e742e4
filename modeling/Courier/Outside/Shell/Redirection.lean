import Courier.Outside.Shell.Expand

/-!
# Redirections

Opening files for descriptors. A redirection that cannot be done is complained of, and its command is not run.
-/

namespace Courier.Shell

open Run

def openTrouble (mode : OpenMode) (path : Text) (e : IoFault) : String :=
  let (verb, missing) := if mode = .read then ("open", "No such file") else ("create", "Directory nonexistent")
  let why := if e = .noEntry ∨ e = .notDirectory then missing else e.words
  "cannot " ++ verb ++ " " ++ String.ofList path ++ ": " ++ why

def deviceFd (path : Text) : Option Nat :=
  match String.ofList path with
  | "/dev/stdin" | "/dev/fd/0" => some 0
  | "/dev/stdout" | "/dev/fd/1" => some 1
  | "/dev/stderr" | "/dev/fd/2" => some 2
  | _ => none

/-- Opens a file: its channel, and the disk after that. -/
def openChannelAt (d : Disk) (mode : OpenMode) (path : Text) : Except IoFault (Channel × Disk) :=
  let bytes := Bytes.ofLatin path
  match d.resolve bytes with
  | .ok (place, .file _) => .ok (.file place 0 mode, if mode = .write then d.put place (.file []) else d)
  | .ok (_, .null) => .ok (.null, d)
  | .ok (_, .zero) => .ok (.zero, d)
  | .ok (_, .folder) => if mode = .read then .ok (.folder, d) else .error .isDirectory
  | .ok (_, .program _) => if mode = .read then .ok (.null, d) else .error .denied
  | .error e =>
    if mode = .read then .error e
    else if e = .noEntry then do
      let place ← d.newPlace bytes
      .ok (.file place 0 mode, d.put place (.file []))
    else .error e

/-- Lets a descriptor lead to a file. -/
def redirectFile (fd : Nat) (mode : OpenMode) (path : Text) : Run Bool := do
  match deviceFd path with
  | some source =>
    match (← ask (·.fds)).lookup source with
    | some channel =>
      setFd fd channel
      return true
    | none =>
      complain (openTrouble mode path .noEntry)
      return false
  | none =>
    match openChannelAt (← disk) mode path with
    | .ok (channel, d) =>
      setDisk d
      setFd fd (← openChannel channel)
      return true
    | .error e =>
      complain (openTrouble mode path e)
      return false

/-- Does one redirection; false if it cannot be done. -/
def redirect (take : Taking) (fuel : Nat) : Redirect → Run Bool
  | .file fd mode target => do redirectFile fd mode (← single take fuel target)
  | .copy fd source => do
    let cs ← single take fuel source
    match cs with
    | ['-'] =>
      closeFd fd
      return true
    | cs =>
      let number := if cs.all Char.isDigit then Arithmetic.digits? 10 cs else none
      match number with
      | none => die "Bad fd number"
      | some n =>
        match (← ask (·.fds)).lookup n with
        | some channel =>
          setFd fd channel
          return true
        | none =>
          complain (toString n ++ ": Bad file descriptor")
          return false
  | .here fd index => do
    let word := ((← ask (·.texts)).lookup index).getD []
    let cs ← single take fuel word
    let ready ← ask (·.time)
    setFd fd (← openChannel (.feed (.ofText cs) ready))
    return true

def redirectAll (take : Taking) (fuel : Nat) : List Redirect → Run Bool
  | [] => return true
  | r :: rs => do if ← redirect take fuel r then redirectAll take fuel rs else return false

def Redirect.fd : Redirect → Nat
  | .file fd .. | .copy fd _ | .here fd _ => fd

def undo (rs : List Redirect) (before : List (Nat × Nat)) : Run Unit := do
  let isTouched (x : Nat × Nat) : Bool := rs.any fun r => r.fd == x.1
  alter fun p => { p with fds := before.filter isTouched ++ p.fds.filter fun x => !isTouched x }

end Courier.Shell
