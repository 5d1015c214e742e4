import Courier.Transport.Library

/-!
# Files

The files a program sees: folders, files and two devices, each at a path of names from the root.
`Disk.resolve` follows a path as the host does, with its faults; the other operations are built on it.
-/

namespace Courier

/-- What stands at a path. -/
inductive Node where
  | file (contents : Bytes)
  /-- A program of the host, by its name. -/
  | program (name : String)
  | folder
  /-- Reads as empty and swallows what is written. -/
  | null
  /-- Reads as zeros without end. -/
  | zero
  deriving DecidableEq, Repr

/-- The files of the host, by the names on the way from the root, and the folder that relative paths start from. -/
structure Disk where
  entries : List (List Bytes × Node)
  here : List Bytes
  deriving Repr

namespace Disk

def name (s : String) : Bytes := Utf8.encode s.toList

def standard (programs : List String) : Disk where
  here := [name "work"]
  entries :=
    ["bin", "dev", "etc", "tmp", "usr", "work"].map (fun s => ([name s], .folder)) ++
    [([name "usr", name "bin"], .folder), ([name "dev", name "null"], .null), ([name "dev", name "zero"], .zero)] ++
    programs.flatMap fun p =>
      [([name "bin", name p], .program p), ([name "usr", name "bin", name p], .program p)]

def names (path : Bytes) : List Bytes :=
  path.splitOn (ascii '/')

def node? (d : Disk) (place : List Bytes) : Option Node :=
  if place.isEmpty then some .folder else d.entries.lookup place

/-- Follows names from a place. -/
def walk (d : Disk) (place : List Bytes) : List Bytes → Except IoFault (List Bytes)
  | [] => .ok place
  | name :: rest =>
    match d.node? place with
    | some .folder =>
      if name.isEmpty || name == [ascii '.'] then walk d place rest
      else if name == [ascii '.', ascii '.'] then walk d place.dropLast rest
      else if name.length > 255 then .error .nameTooLong
      else match d.node? (place ++ [name]) with
        | none => .error .noEntry
        | some _ => walk d (place ++ [name]) rest
    | some _ => .error .notDirectory
    | none => .error .noEntry

def zeroInPath : IoFault :=
  .described .invalidInput "file name contained an unexpected NUL byte"

def checkPath (path : Bytes) : Except IoFault Unit :=
  if path.contains 0 then .error zeroInPath
  else if path.isEmpty then .error .noEntry
  else if path.length ≥ 4096 then .error .nameTooLong
  else .ok ()

def start (d : Disk) (path : Bytes) : List Bytes :=
  if path.head? == some (ascii '/') then [] else d.here

def resolve (d : Disk) (path : Bytes) : Except IoFault (List Bytes × Node) := do
  checkPath path
  let place ← d.walk (d.start path) (names path)
  match d.node? place with
  | some node => .ok (place, node)
  | none => .error .noEntry

def folderSize : Nat := 4096

def size (d : Disk) (path : Bytes) : Except IoFault Nat := do
  match (← d.resolve path).2 with
  | .file contents => .ok contents.length
  | .folder => .ok folderSize
  | _ => .ok 0

def openFile (d : Disk) (path : Bytes) : Except IoFault OpenFile := do
  match (← d.resolve path).2 with
  | .file contents => .ok ⟨contents.length, [.data contents]⟩
  | .folder => .ok ⟨folderSize, [.failed .isDirectory]⟩
  | _ => .ok ⟨0, []⟩

def put (d : Disk) (place : List Bytes) (node : Node) : Disk :=
  { d with entries := d.entries.filter (fun e => e.1 != place) ++ [(place, node)] }

def newPlace (d : Disk) (path : Bytes) : Except IoFault (List Bytes) := do
  checkPath path
  let ns := names path
  let last := ns.getLast?.getD []
  if last.isEmpty || last == [ascii '.'] || last == [ascii '.', ascii '.'] then .error .isDirectory
  else if last.length > 255 then .error .nameTooLong
  else
    let parent ← d.walk (d.start path) ns.dropLast
    match d.node? parent with
    | some .folder => .ok (parent ++ [last])
    | some _ => .error .notDirectory
    | none => .error .noEntry

/-- Writes to a path: the contents become those given, after the present ones when `keep` is set. A file that
is not there is created. -/
def write (d : Disk) (path : Bytes) (keep : Bool) (contents : Bytes) : Except IoFault Disk :=
  match d.resolve path with
  | .ok (place, .file old) => .ok (d.put place (.file (if keep then old ++ contents else contents)))
  | .ok (_, .folder) => .error .isDirectory
  | .ok (_, .program _) => .error .denied
  | .ok (_, _) => .ok d
  | .error e => if e = .noEntry then do .ok (d.put (← d.newPlace path) (.file contents)) else .error e

def addFolder (d : Disk) (path : Bytes) : Disk :=
  match d.newPlace path with
  | .ok place => d.put place .folder
  | .error _ => d

def addFile (d : Disk) (path contents : Bytes) : Disk :=
  (d.write path false contents).toOption.getD d

def children (d : Disk) (place : List Bytes) : List Bytes :=
  d.entries.filterMap fun e => if e.1.dropLast == place then e.1.getLast? else none

end Disk

end Courier
