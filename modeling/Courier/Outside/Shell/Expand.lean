import Courier.Outside.Shell.Arithmetic
import Courier.Outside.Shell.Machine
import Courier.Outside.Shell.Pattern

/-!
# Expanding words

A word becomes pieces: characters that know whether they were quoted and whether they may end a field, ends of
fields, and marks of quoted parts. `fieldsOf` cuts the pieces into fields, and `Glob.expand` replaces a field
that is a pattern by the names it matches.
-/

namespace Courier.Shell

/-- A piece of an expanded word. -/
inductive Piece where
  /-- A character; one that came from an expansion may end a field. -/
  | char (c : Char) (quoted expanded : Bool)
  /-- A quoted part, which makes a field of its own even if it is empty. -/
  | present
  /-- The end of a field. -/
  | cut
  /-- A list of parameters that is empty. -/
  | nothing

namespace Piece

def marks (ps : List Piece) : List Mark :=
  ps.filterMap fun
    | char c q _ => some (c, q)
    | cut => some (' ', true)
    | _ => none

def text (ps : List Piece) : Text :=
  (marks ps).map Prod.fst

def ofValue (quoted : Bool) (cs : Text) : List Piece :=
  if quoted then .present :: cs.map fun c => .char c true false
  else cs.map fun c => .char c false true

def ofValues (quoted : Bool) (vs : List Text) : List Piece :=
  match vs with
  | [] => if quoted then [.nothing] else []
  | v :: vs => vs.foldl (fun done v => done ++ .cut :: ofValue quoted v) (ofValue quoted v)

end Piece

/-! ## Fields -/

/-- How far pieces have been cut into fields. -/
structure Cutting where
  /-- The finished fields, the last one first. -/
  fields : List (List Mark)
  /-- The characters of the present field, the last one first. -/
  field : List Mark
  /-- Whether there is a present field. -/
  present : Bool
  /-- Whether the last field was ended by blanks alone. -/
  blank : Bool

namespace Cutting

def finish (s : Cutting) : Cutting :=
  if s.present then { s with fields := s.field.reverse :: s.fields, field := [], present := false } else s

def step (separators : Text) (s : Cutting) : Piece → Cutting
  | .present => { s with present := true, blank := false }
  | .nothing => s
  | .cut => { s.finish with blank := false }
  | .char c quoted expanded =>
    if expanded && !quoted && separators.contains c then
      if c == ' ' || c == '\t' || c == '\n' then
        if s.present then { s.finish with blank := true } else s
      else if s.present then { s.finish with blank := false }
      else if s.blank then { s with blank := false }
      else { s with fields := [] :: s.fields }
    else { s with field := (c, quoted) :: s.field, present := true, blank := false }

end Cutting

/-- The fields of some pieces. A word that is only an empty list of parameters in quotes has none. -/
def fieldsOf (separators : Text) (ps : List Piece) : List (List Mark) :=
  let isNothing := ps.any fun
    | .nothing => true
    | _ => false
  let isEmpty := ps.all fun
    | .nothing | .present => true
    | _ => false
  if isNothing && isEmpty then []
  else (ps.foldl (Cutting.step separators) ⟨[], [], false, false⟩).finish.fields.reverse

/-! ## Names that match -/

namespace Glob

def components (ms : List Mark) : List (List Mark) :=
  ms.foldr (fun m acc =>
    if m.1 == '/' then [] :: acc
    else match acc with
      | c :: cs => (m :: c) :: cs
      | [] => [[m]]) [[]]

def matchesName (pattern : List Mark) (name : Text) : Bool :=
  Pattern.matches? (Pattern.items pattern) name &&
    (name.head? != some '.' || (pattern.head?.map Prod.fst) == some '.')

/-- The paths that match the components of a pattern, from a place on; `path` is what leads there. -/
def walk (d : Disk) (place : List Bytes) (path : Text) : List (List Mark) → List Text
  | [] => [path]
  | c :: cs =>
    let text := c.map Prod.fst
    let ending : Text := if cs.isEmpty then [] else ['/']
    if Pattern.isActive c then
      let names := (d.children place).map Bytes.toLatin
      let names := (names ++ [['.'], ['.', '.']]).filter (matchesName c)
      names.flatMap fun n =>
        let next := if n == ['.'] then place else if n == ['.', '.'] then place.dropLast
          else place ++ [Bytes.ofLatin n]
        if cs.isEmpty then [path ++ n]
        else if d.node? next == some .folder then walk d next (path ++ n ++ ['/']) cs
        else []
    else
      match d.walk place [Bytes.ofLatin text] with
      | .ok next => if cs.isEmpty then [path ++ text] else walk d next (path ++ text ++ ending) cs
      | .error _ => if text.isEmpty then walk d place (path ++ ending) cs else []

def expand (d : Disk) (field : List Mark) : List Text :=
  let plain := field.map Prod.fst
  if Pattern.isActive field then
    let start := if (field.head?.map Prod.fst) == some '/' then [] else d.here
    let found := walk d start [] (components field)
    if found.isEmpty then [plain]
    else found.mergeSort before
  else [plain]

end Glob

/-! ## Parameters -/

namespace Run

def switchLetters (s : Switches) : Text :=
  (if s.nounset then ['u'] else []) ++ (if s.noexec then ['n'] else []) ++ (if s.noglob then ['f'] else []) ++
    if s.errexit then ['e'] else []

def separators : Run Text := do return (← var? "IFS".toList).getD [' ', '\t', '\n']

def parameter? (name : Text) : Run (Option Text) := do
  let p ← ask fun p => p
  match name with
  | ['#'] => return some (toString p.params.length).toList
  | ['?'] => return some (toString p.status).toList
  | ['$'] => return some (toString p.shell).toList
  | ['!'] => return if p.lastJob = 0 then none else some (toString p.lastJob).toList
  | ['-'] => return some (switchLetters p.switches)
  | ['0'] => return some p.name
  | name =>
    if name.all Char.isDigit then return p.params[(Arithmetic.digits? 10 name).getD 0 - 1]?
    else var? name

def isList (name : Text) : Bool := name == ['@'] || name == ['*']

def allParameters (name : Text) (quoted : Bool) : Run (List Piece) := do
  let params ← ask (·.params)
  if name == ['*'] && quoted then
    let between := match ← var? "IFS".toList with
      | none => [' ']
      | some cs => cs.take 1
    return Piece.ofValue true (between.intercalate params)
  else return Piece.ofValues quoted params

def assign (name value : Text) : Run Unit := do
  if (← ask (·.constant)).contains name then die (String.ofList name ++ ": is read only")
  else setVar name value

def arithmetic (cs : Text) : Run Text := do
  let vars ← ask (·.vars)
  match Arithmetic.evaluate vars cs with
  | none => die ("arithmetic expression: \"" ++ String.ofList cs ++ "\"")
  | some (n, after) =>
    ((after.take (after.length - vars.length)).reverse).forM fun v => assign v.1 v.2
    return (toString n).toList

end Run

/-! ## Words -/

abbrev Taking := Cmd → Run Text

open Run

/-- The pieces of a word. `soft` says that text that was not quoted may end fields. `fuel` bounds the depth of
words. -/
def piecesOf (take : Taking) (fuel : Nat) (soft : Bool) (word : Word) : Run (List Piece) :=
  match fuel with
  | 0 => throw .spent
  | fuel + 1 => do
    let mut done : List (List Piece) := []
    for part in word do
      let pieces ← match part with
        | .text true cs => pure (.present :: cs.map fun c => .char c true false)
        | .text false cs => pure (cs.map fun c => .char c false soft)
        | .output quoted body => do
          let cs ← take body
          pure (Piece.ofValue quoted cs)
        | .arithmetic quoted body => do
          let cs ← arithmetic (Piece.text (← piecesOf take fuel false body))
          pure (Piece.ofValue quoted cs)
        | .size quoted name => do
          let cs ← if isList name then ask fun p => [' '].intercalate p.params
            else match ← parameter? name with
              | some v => pure v
              | none =>
                if (← ask (·.switches)).nounset then die (String.ofList name ++ ": parameter not set")
                else pure []
          pure (Piece.ofValue quoted (toString cs.length).toList)
        | .param quoted name op orEmpty inner => do
          let value ← if isList name then some <$> ask fun p => p.params.flatten else parameter? name
          let given := match value with
            | some v => !(orEmpty && v.isEmpty)
            | none => false
          let pieces (v : Option Text) : Run (List Piece) := do
            if isList name then allParameters name quoted
            else match v with
              | some v => return Piece.ofValue quoted v
              | none =>
                if (← ask (·.switches)).nounset then die (String.ofList name ++ ": parameter not set")
                else return Piece.ofValue quoted []
          let word : Run (List Piece) := do
            let ps ← piecesOf take fuel true inner
            return if quoted then .present :: ps else ps
          let pattern : Run (List PatternItem) := do
            return Pattern.items (Piece.marks (← piecesOf take fuel false inner))
          match op with
          | .value => pieces value
          | .default => if given then pieces value else word
          | .instead => if given then word else pure (if quoted then [.present] else [])
          | .assign =>
            if given then pieces value
            else if isName name then do
              let v := Piece.text (← piecesOf take fuel false inner)
              assign name v
              pieces (some v)
            else die (String.ofList name ++ ": bad variable name")
          | .require =>
            if given then pieces value
            else do
              let why := Piece.text (← piecesOf take fuel false inner)
              let why := if why.isEmpty then
                  "parameter not set" ++ if orEmpty then " or null" else ""
                else String.ofList why
              die (String.ofList name ++ ": " ++ why)
          | .dropPrefix longest => do
            let ps ← pattern
            pieces (value.map (Pattern.dropPrefix longest ps))
          | .dropSuffix longest => do
            let ps ← pattern
            pieces (value.map (Pattern.dropSuffix longest ps))
          | .invalid => die "Bad substitution"
      done := pieces :: done
    return done.reverse.flatten

def fields (take : Taking) (fuel : Nat) (word : Word) : Run (List Text) := do
  let pieces ← piecesOf take fuel false word
  let fs := fieldsOf (← separators) pieces
  if (← ask (·.switches)).noglob then return fs.map fun f => f.map Prod.fst
  else return fs.flatMap (Glob.expand (← disk))

def single (take : Taking) (fuel : Nat) (word : Word) : Run Text := do
  return Piece.text (← piecesOf take fuel false word)

def patternOf (take : Taking) (fuel : Nat) (word : Word) : Run (List PatternItem) := do
  return Pattern.items (Piece.marks (← piecesOf take fuel false word))

end Courier.Shell
