import Courier.Outside.Shell.Tree

/-!
# Reading commands

`readLine` reads the commands of one line, which is how much the shell reads before it runs anything: a fault
in a line keeps all of that line from running, and what stands before it has run already.

Words hold commands and commands hold words. The reader of words is given the reader of commands (`Blocks`),
and `blocks` ties the two with a bound on the depth that is taken from the length of the text.
-/

namespace Courier.Shell

/-- A token of a command line. -/
inductive Token where
  | newline
  | ending
  | op (op : Text)
  | redirect (fd : Option Nat) (op : Text)
  | word (w : Word)

/-- A text that stands after the line and is still to be read. -/
structure Waiting where
  index : Nat
  delimiter : Text
  quoted : Bool
  dropTabs : Bool

/-- What is being read. -/
structure Scan where
  input : Text
  /-- A token that was read and put back. -/
  pushed : Option Token
  waiting : List Waiting
  /-- The texts that stood after lines, by their numbers. -/
  texts : List (Nat × Word)
  count : Nat

abbrev Read := StateT Scan Option

/-- The readers of commands that the reader of words needs. -/
structure Blocks where
  /-- Commands up to a closing bracket, which is read too. -/
  bracketed : Read Cmd
  /-- Commands up to the end of the text. -/
  whole : Read Cmd

/-! ## Words -/

/-- Where in a word the reader stands. -/
inductive Context where
  | bare
  | quoted
  /-- In the word of a parameter, up to its closing brace. -/
  | brace (isQuoted : Bool)
  /-- In an arithmetic expression, inside some brackets. -/
  | arithmetic (depth : Nat)
  /-- In a text that stands after the line. -/
  | here
  deriving DecidableEq

namespace Context

def isQuoted : Context → Bool
  | bare => false
  | brace q => q
  | _ => true

def isSpecial (ctx : Context) (c : Char) : Bool :=
  c == '\\' || c == '$' || c == '\x60' ||
  match ctx with
  | bare => "\n \t;&|<>()'\"".contains c
  | quoted => c == '"'
  | brace q => c == '}' || c == '"' || (c == '\'' && !q)
  | arithmetic _ => c == '(' || c == ')'
  | here => false

def isEscapable (ctx : Context) (c : Char) : Bool :=
  match ctx with
  | bare | brace false => true
  | brace true => "$\x60\"\\\x7d".contains c
  | here => "$\x60\\".contains c
  | _ => "$\x60\"\\".contains c

end Context

namespace Read

def input : Read Text := do return (← get).input

def setInput (cs : Text) : Read Unit := modify fun s => { s with input := cs }

def within {α : Type} (cs : Text) (r : Read α) : Read α := do
  let rest ← input
  setInput cs
  let a ← r
  setInput rest
  return a

end Read

def addText (quoted : Bool) (run : Text) (done : List Part) : List Part :=
  if run.isEmpty then done else .text quoted run :: done

/-- The text of a command in backquotes, up to the closing one, with the backslashes that have a meaning there
taken away; and what follows. -/
def backquoted (quoted : Bool) (done : Text) : Text → Option (Text × Text)
  | [] => none
  | '\x60' :: rest => some (done.reverse, rest)
  | '\\' :: c :: rest =>
    if c == '$' || c == '\x60' || c == '\\' || (quoted && c == '"') then backquoted quoted (c :: done) rest
    else if c == '\n' then backquoted quoted done rest
    else backquoted quoted (c :: '\\' :: done) rest
  | c :: rest => backquoted quoted (c :: done) rest

def parameterName (manyDigits : Bool) : Text → Option (Text × Text)
  | [] => none
  | c :: rest =>
    if isNameStart c then some ((c :: rest).takeWhile isNameChar, (c :: rest).dropWhile isNameChar)
    else if c.isDigit then
      if manyDigits then some ((c :: rest).takeWhile Char.isDigit, (c :: rest).dropWhile Char.isDigit)
      else some ([c], rest)
    else if "@*#?-$!".contains c then some ([c], rest)
    else none

/-- What is done to a parameter in braces, at the front of a text; whether an empty value counts as none. -/
def parameterOp : Text → Option (ParamOp × Bool × Text)
  | ':' :: '-' :: rest => some (.default, true, rest)
  | ':' :: '=' :: rest => some (.assign, true, rest)
  | ':' :: '?' :: rest => some (.require, true, rest)
  | ':' :: '+' :: rest => some (.instead, true, rest)
  | '-' :: rest => some (.default, false, rest)
  | '=' :: rest => some (.assign, false, rest)
  | '?' :: rest => some (.require, false, rest)
  | '+' :: rest => some (.instead, false, rest)
  | '%' :: '%' :: rest => some (.dropSuffix true, false, rest)
  | '%' :: rest => some (.dropSuffix false, false, rest)
  | '#' :: '#' :: rest => some (.dropPrefix true, false, rest)
  | '#' :: rest => some (.dropPrefix false, false, rest)
  | _ => none

def ParamOp.isPattern : ParamOp → Bool
  | dropSuffix _ | dropPrefix _ => true
  | _ => false

/-- Reads a parameter after its opening brace. The word of a pattern is not quoted by quotes around the
parameter. What is no parameter is read up to the closing brace all the same. -/
def readBraced (word : Context → Read Word) (quoted : Bool) : Read Part := do
  let cs ← Read.input
  let finish (name : Text) (rest : Text) : Read Part := do
    match rest with
    | '}' :: rest =>
      Read.setInput rest
      return .param quoted name .value false []
    | rest =>
      let (op, orEmpty, rest) := (parameterOp rest).getD (.invalid, false, rest)
      Read.setInput rest
      return .param quoted name op orEmpty (← word (.brace (quoted && !op.isPattern)))
  match cs with
  | '#' :: '}' :: rest => finish ['#'] ('}' :: rest)
  | '#' :: c :: rest =>
    match parameterName true (c :: rest) with
    | some (name, '}' :: rest) =>
      Read.setInput rest
      return .size quoted name
    | _ => finish ['#'] (c :: rest)
  | cs =>
    let (name, rest) := (parameterName true cs).getD ([], '!' :: cs)
    finish name rest

/-- Reads what a dollar sign stands for; alone it stands for itself. -/
def readDollar (b : Blocks) (word : Context → Read Word) (quoted : Bool) : Read Part := do
  match ← Read.input with
  | '(' :: '(' :: rest =>
    Read.setInput rest
    return .arithmetic quoted (← word (.arithmetic 0))
  | '(' :: rest =>
    Read.setInput rest
    return .output quoted (← b.bracketed)
  | '{' :: rest =>
    Read.setInput rest
    readBraced word quoted
  | cs =>
    match parameterName false cs with
    | some (name, rest) =>
      Read.setInput rest
      return .param quoted name .value false []
    | none => return .text quoted ['$']

/-- Reads the parts of a word from some place on, onto those read so far (the last one first). -/
def readParts (b : Blocks) (fuel : Nat) (ctx : Context) (done : List Part) : Read Word :=
  match fuel with
  | 0 => failure
  | fuel + 1 => do
    let cs ← Read.input
    let done := addText ctx.isQuoted (cs.takeWhile fun c => !ctx.isSpecial c) done
    let word (ctx : Context) : Read Word := readParts b fuel ctx []
    match cs.dropWhile fun c => !ctx.isSpecial c with
    | [] =>
      Read.setInput []
      match ctx with
      | .bare | .here => return done.reverse
      | _ => failure
    | '\\' :: rest =>
      match rest with
      | [] =>
        Read.setInput []
        readParts b fuel ctx (.text true ['\\'] :: done)
      | '\n' :: rest =>
        Read.setInput rest
        readParts b fuel ctx done
      | c :: rest =>
        Read.setInput rest
        readParts b fuel ctx (.text true (if ctx.isEscapable c then [c] else ['\\', c]) :: done)
    | '$' :: rest =>
      Read.setInput rest
      let part ← readDollar b word ctx.isQuoted
      readParts b fuel ctx (part :: done)
    | '\x60' :: rest =>
      let (body, rest) ← backquoted ctx.isQuoted [] rest
      Read.setInput rest
      let cmd ← Read.within body b.whole
      readParts b fuel ctx (.output ctx.isQuoted cmd :: done)
    | c :: rest =>
      match ctx, c with
      | .bare, '\'' | .brace _, '\'' =>
        match rest.dropWhile (· != '\'') with
        | [] => failure
        | _ :: after =>
          Read.setInput after
          readParts b fuel ctx (.text true (rest.takeWhile (· != '\'')) :: done)
      | .bare, '"' | .brace _, '"' =>
        Read.setInput rest
        let inner ← word .quoted
        readParts b fuel ctx (inner.reverse ++ .text true [] :: done)
      | .bare, _ =>
        Read.setInput (c :: rest)
        return done.reverse
      | .quoted, _ | .brace _, _ | .here, _ =>
        Read.setInput rest
        return done.reverse
      | .arithmetic depth, '(' =>
        Read.setInput rest
        readParts b fuel (.arithmetic (depth + 1)) (.text true ['('] :: done)
      | .arithmetic (depth + 1), _ =>
        Read.setInput rest
        readParts b fuel (.arithmetic depth) (.text true [')'] :: done)
      | .arithmetic 0, _ =>
        match rest with
        | ')' :: rest =>
          Read.setInput rest
          return done.reverse
        | rest =>
          Read.setInput rest
          readParts b fuel (.arithmetic 0) (.text true [')'] :: done)

def readWord (b : Blocks) (ctx : Context) : Read Word := do
  readParts b ((← Read.input).length + 1) ctx []

/-! ## Texts after the line -/

def linesUntil (fuel : Nat) (w : Waiting) (done : Text) (cs : Text) : Text × Text :=
  match fuel with
  | 0 => (done.reverse, cs)
  | fuel + 1 =>
    let line := cs.takeWhile (· != '\n')
    let line := if w.dropTabs then line.dropWhile (· == '\t') else line
    match cs.dropWhile (· != '\n') with
    | [] => if line == w.delimiter then (done.reverse, []) else (line.reverse ++ done |>.reverse, [])
    | _ :: rest =>
      if line == w.delimiter then (done.reverse, rest)
      else linesUntil fuel w ('\n' :: line.reverse ++ done) rest

def readTexts (b : Blocks) : List Waiting → Read Unit
  | [] => modify fun s => { s with waiting := [] }
  | w :: ws => do
    let cs ← Read.input
    let (body, rest) := linesUntil (cs.length + 1) w [] cs
    Read.setInput rest
    let word ← if w.quoted then pure [Part.text true body] else Read.within body (readWord b .here)
    modify fun s => { s with texts := (w.index, word) :: s.texts }
    readTexts b ws

/-! ## Tokens -/

/-- A text without the blanks, joined lines and comments at its front. `fuel` bounds the joined lines. -/
def skipSpace (fuel : Nat) (cs : Text) : Text :=
  match fuel with
  | 0 => cs
  | fuel + 1 =>
    match cs.dropWhile fun c => c == ' ' || c == '\t' with
    | '\\' :: '\n' :: rest => skipSpace fuel rest
    | '#' :: rest => rest.dropWhile (· != '\n')
    | cs => cs

def lineOperators : List Text :=
  ["&&", "||", ";;", "&", "|", ";", "(", ")"].map String.toList

def redirectOperators : List Text :=
  ["<<-", "<<", "<&", "<>", "<", ">>", ">&", ">|", ">"].map String.toList

def operatorOf (ops : List Text) (cs : Text) : Option (Text × Text) :=
  (ops.find? fun o => o.isPrefixOf cs).map fun o => (o, cs.drop o.length)

/-- Reads the next token. After the end of a line the texts that belong to it are read. -/
def nextToken (b : Blocks) : Read Token := do
  let s ← get
  match s.pushed with
  | some t =>
    set { s with pushed := none }
    return t
  | none =>
    let cs := skipSpace s.input.length.succ s.input
    match cs with
    | [] =>
      Read.setInput []
      readTexts b s.waiting
      return .ending
    | '\n' :: rest =>
      Read.setInput rest
      readTexts b s.waiting
      return .newline
    | c :: rest =>
      match operatorOf lineOperators (c :: rest) with
      | some (o, rest) =>
        Read.setInput rest
        return .op o
      | none =>
        match operatorOf redirectOperators (c :: rest) with
        | some (o, rest) =>
          Read.setInput rest
          return .redirect none o
        | none =>
          match if c.isDigit then operatorOf redirectOperators rest else none with
          | some (o, rest) =>
            Read.setInput rest
            return .redirect (some (c.toNat - 48)) o
          | none =>
            Read.setInput (c :: rest)
            return .word (← readWord b .bare)

def putBack (t : Token) : Read Unit := modify fun s => { s with pushed := some t }

def nextPastLines (b : Blocks) (fuel : Nat) : Read Token :=
  match fuel with
  | 0 => failure
  | fuel + 1 => do
    match ← nextToken b with
    | .newline => nextPastLines b fuel
    | t => return t

def Token.plain? : Token → Option Text
  | .word [.text false cs] => some cs
  | _ => none

def Token.isKeyword (t : Token) (k : String) : Bool :=
  t.plain? == some k.toList

def listEnds : List String :=
  ["do", "done", "elif", "else", "esac", "fi", "then", "\x7d"]

def Token.endsList : Token → Bool
  | .op o => o == [')'] || o == [';', ';']
  | .ending => true
  | t => listEnds.any t.isKeyword

def isReserved (cs : Text) : Bool :=
  (listEnds ++ ["if", "while", "until", "for", "case", "\x7b", "!", "in"]).any fun k => k.toList == cs

def assignment? : Word → Option (Text × Word)
  | .text false cs :: rest =>
    let name := cs.takeWhile (· != '=')
    match cs.dropWhile (· != '=') with
    | '=' :: value => if isName name then some (name, addText false value [] ++ rest) else none
    | _ => none
  | _ => none

def delimiterOf (w : Word) : Text × Bool :=
  w.foldl (fun acc p =>
    match p with
    | .text q cs => (acc.1 ++ cs, acc.2 || q)
    | .param _ name _ _ _ => (acc.1 ++ '$' :: name, acc.2)
    | _ => acc) ([], false)

/-- Whether the target of a copied descriptor can be read: a dash, a digit, or a word to be expanded. -/
def isDescriptor : Word → Bool
  | [.text _ [c]] => c == '-' || c.isDigit
  | [.text ..] => false
  | [] => false
  | _ => true

/-- Reads a redirection after its operator. -/
def readRedirect (b : Blocks) (fd : Option Nat) (op : Text) : Read Redirect := do
  let target ← match ← nextToken b with
    | .word w => pure w
    | _ => failure
  match String.ofList op with
  | ">" | ">|" => return .file (fd.getD 1) .write target
  | ">>" => return .file (fd.getD 1) .append target
  | "<" => return .file (fd.getD 0) .read target
  | "<>" => return .file (fd.getD 0) .readWrite target
  | ">&" => if isDescriptor target then return .copy (fd.getD 1) target else failure
  | "<&" => if isDescriptor target then return .copy (fd.getD 0) target else failure
  | o =>
    let (delimiter, quoted) := delimiterOf target
    let s ← get
    set { s with count := s.count + 1, waiting := s.waiting ++ [Waiting.mk s.count delimiter quoted (o == "<<-")] }
    return .here (fd.getD 0) s.count

/-! ## Commands -/

/-- What a simple command is read from. -/
structure Simple where
  assigns : List (Text × Word)
  words : List Word
  redirects : List Redirect

/-- Reads a simple command onto what is read of it (in reverse), or the body of a function after its name and
brackets. -/
def readSimple (b : Blocks) (body : Read Cmd) (fuel : Nat) (s : Simple) : Read Cmd :=
  match fuel with
  | 0 => failure
  | fuel + 1 => do
    match ← nextToken b with
    | .word w =>
      match if s.words.isEmpty then assignment? w else none with
      | some a => readSimple b body fuel { s with assigns := a :: s.assigns }
      | none => readSimple b body fuel { s with words := w :: s.words }
    | .redirect fd op =>
      let r ← readRedirect b fd op
      readSimple b body fuel { s with redirects := r :: s.redirects }
    | .op ['('] =>
      match s.words, s.assigns, s.redirects with
      | [[.text false name]], [], [] =>
        match ← nextToken b with
        | .op [')'] => if isName name then return .define name (← body) else failure
        | _ => failure
      | _, _, _ => failure
    | t =>
      putBack t
      if s.words.isEmpty && s.assigns.isEmpty && s.redirects.isEmpty then failure
      else return .simple s.assigns.reverse s.words.reverse s.redirects.reverse

def readRedirects (b : Blocks) (fuel : Nat) (cmd : Cmd) (done : List Redirect) : Read Cmd :=
  match fuel with
  | 0 => failure
  | fuel + 1 => do
    match ← nextToken b with
    | .redirect fd op => readRedirects b fuel cmd ((← readRedirect b fd op) :: done)
    | t =>
      putBack t
      return if done.isEmpty then cmd else .redirected cmd done.reverse

def expectKeyword (b : Blocks) (fuel : Nat) (k : String) : Read Unit := do
  let t ← nextPastLines b fuel
  if t.isKeyword k then return () else failure

def readWords (b : Blocks) (fuel : Nat) (done : List Word) : Read (List Word × Token) :=
  match fuel with
  | 0 => failure
  | fuel + 1 => do
    match ← nextToken b with
    | .word w => readWords b fuel (w :: done)
    | t => return (done.reverse, t)

def readPatterns (b : Blocks) (fuel : Nat) (first : Token) (done : List Word) : Read (List Word) :=
  match fuel, first with
  | fuel + 1, .word w => do
    match ← nextToken b with
    | .op ['|'] => readPatterns b fuel (← nextToken b) (w :: done)
    | .op [')'] => return (w :: done).reverse
    | _ => failure
  | _, _ => failure

def Cmd.followedBy : Cmd → Cmd → Cmd
  | .nothing, c => c
  | c, d => .sequence c d

/-- The readers of lists and of single commands, which need each other. -/
structure Lists where
  /-- A list of commands up to a token that ends it, which is left; it may be empty if `true` is given. -/
  list : Bool → Read Cmd
  command : Read Cmd

/-- Reads the clauses of a `case`. -/
def readClauses (b : Blocks) (l : Lists) (fuel : Nat) (done : List (List Word × Cmd)) :
    Read (List (List Word × Cmd)) :=
  match fuel with
  | 0 => failure
  | fuel + 1 => do
    let t ← nextPastLines b fuel
    if t.isKeyword "esac" then return done.reverse
    let t ← match t with
      | .op ['('] => nextToken b
      | t => pure t
    let patterns ← readPatterns b fuel t []
    let body ← l.list true
    let t ← nextPastLines b fuel
    match t with
    | .op [';', ';'] => readClauses b l fuel ((patterns, body) :: done)
    | t => if t.isKeyword "esac" then return ((patterns, body) :: done).reverse else failure

/-- Reads what follows the condition of an `if`. -/
def readChoice (b : Blocks) (l : Lists) (fuel : Nat) : Read Cmd :=
  match fuel with
  | 0 => failure
  | fuel + 1 => do
    let condition ← l.list false
    expectKeyword b fuel "then"
    let yes ← l.list false
    let t ← nextPastLines b fuel
    if t.isKeyword "elif" then return .choose condition yes (← readChoice b l fuel)
    else if t.isKeyword "else" then
      let no ← l.list false
      expectKeyword b fuel "fi"
      return .choose condition yes no
    else if t.isKeyword "fi" then return .choose condition yes .nothing
    else failure

def readForWords (b : Blocks) (fuel : Nat) : Read (Option (List Word)) := do
  let t ← nextPastLines b fuel
  if t.isKeyword "in" then
    match ← readWords b fuel [] with
    | (ws, .newline) | (ws, .op [';']) => return some ws
    | _ => failure
  else
    match t with
    | .op [';'] => return none
    | t =>
      putBack t
      return none

/-- Reads one command that is not a pipeline. -/
def readCommand (b : Blocks) (l : Lists) (fuel : Nat) : Read Cmd := do
  let t ← nextPastLines b fuel
  let closing (k : String) (cmd : Cmd) : Read Cmd := do
    expectKeyword b fuel k
    readRedirects b fuel cmd []
  match t.plain?.map String.ofList with
  | some "if" =>
    let cmd ← readChoice b l fuel
    readRedirects b fuel cmd []
  | some "while" | some "until" =>
    let condition ← l.list false
    expectKeyword b fuel "do"
    closing "done" (.loop (t.isKeyword "until") condition (← l.list false))
  | some "for" =>
    match (← nextToken b).plain? with
    | some name =>
      if isName name then
        let ws ← readForWords b fuel
        expectKeyword b fuel "do"
        closing "done" (.each name ws (← l.list false))
      else failure
    | none => failure
  | some "case" =>
    match ← nextToken b with
    | .word w =>
      expectKeyword b fuel "in"
      let clauses ← readClauses b l fuel []
      readRedirects b fuel (.select w clauses) []
    | _ => failure
  | some "\x7b" => closing "\x7d" (← l.list false)
  | some k =>
    if isReserved k.toList then failure
    else
      putBack t
      readSimple b l.command fuel ⟨[], [], []⟩
  | none =>
    match t with
    | .op ['('] =>
      let body ← l.list false
      match ← nextPastLines b fuel with
      | .op [')'] => readRedirects b fuel (.subshell body) []
      | _ => failure
    | .word _ | .redirect .. =>
      putBack t
      readSimple b l.command fuel ⟨[], [], []⟩
    | _ => failure

def readStages (b : Blocks) (l : Lists) (fuel : Nat) (done : List Cmd) : Read (List Cmd) :=
  match fuel with
  | 0 => failure
  | fuel + 1 => do
    match ← nextToken b with
    | .op ['|'] => readStages b l fuel ((← readCommand b l fuel) :: done)
    | t =>
      putBack t
      return done.reverse

/-- Reads a pipeline, with a negation before it if there is one. -/
def readPipeline (b : Blocks) (l : Lists) (fuel : Nat) : Read Cmd := do
  let t ← nextPastLines b fuel
  let negated := t.isKeyword "!"
  if negated then
    -- a negated command stands on the same line
    let next ← nextToken b
    match next with
    | .newline => failure
    | next => putBack next
  else putBack t
  let first ← readCommand b l fuel
  let stages ← readStages b l fuel [first]
  let cmd := match stages with
    | [c] => c
    | cs => .pipeline cs
  return if negated then .negate cmd else cmd

def readAndOr (b : Blocks) (l : Lists) (fuel : Nat) (left : Cmd) : Read Cmd :=
  match fuel with
  | 0 => failure
  | fuel + 1 => do
    match ← nextToken b with
    | .op ['&', '&'] => readAndOr b l fuel (.both left (← readPipeline b l fuel))
    | .op ['|', '|'] => readAndOr b l fuel (.either left (← readPipeline b l fuel))
    | t =>
      putBack t
      return left

def readItem (b : Blocks) (l : Lists) (fuel : Nat) : Read (Cmd × Token) := do
  let cmd ← readAndOr b l fuel (← readPipeline b l fuel)
  match ← nextToken b with
  | .op ['&'] => return (.background cmd, .op ['&'])
  | t => return (cmd, t)

/-- Reads a list of commands up to a token that ends it, which is left. -/
def readList (b : Blocks) (l : Lists) (fuel : Nat) (mayEnd : Bool) (done : Cmd) : Read Cmd :=
  match fuel with
  | 0 => failure
  | fuel + 1 => do
    let t ← nextPastLines b fuel
    putBack t
    match t with
    | .ending => return done
    | t =>
      if mayEnd && t.endsList then return done
      let (cmd, t) ← readItem b l fuel
      let done := done.followedBy cmd
      match t with
      | .newline | .op ['&'] | .op [';'] => readList b l fuel true done
      | t =>
        putBack t
        return done

/-- The readers of a given depth, tied together. -/
def tie : Nat → Blocks × Lists
  | 0 => (⟨failure, failure⟩, ⟨fun _ => failure, failure⟩)
  | depth + 1 =>
    let (b, l) := tie depth
    let fuel : Read Nat := do return (← Read.input).length + 2
    let list (mayEnd : Bool) : Read Cmd := do readList b l (← fuel) mayEnd .nothing
    (⟨do
        let cmd ← list true
        match ← nextToken b with
        | .op [')'] => return cmd
        | _ => failure,
      do
        let cmd ← list true
        match ← nextToken b with
        | .ending => return cmd
        | _ => failure⟩,
     ⟨list, do readCommand b l (← fuel)⟩)

def maxDepth : Nat := 200

/-- Reads the commands of a line onto those read so far. -/
def readItems (b : Blocks) (l : Lists) (fuel : Nat) (done : Cmd) : Read Cmd :=
  match fuel with
  | 0 => failure
  | fuel + 1 => do
    match ← nextToken b with
    | .newline => return done
    | .ending =>
      putBack .ending
      return done
    | t =>
      putBack t
      let (cmd, t) ← readItem b l fuel
      let done := done.followedBy cmd
      match t with
      | .newline | .ending =>
        putBack t
        readItems b l fuel done
      | .op ['&'] | .op [';'] => readItems b l fuel done
      | _ => failure

def readLine : Read Cmd := do
  let (b, l) := tie maxDepth
  readItems b l ((← Read.input).length + 3) .nothing

def Scan.start (cs : Text) (count : Nat) : Scan :=
  ⟨cs, none, [], [], count⟩

def Scan.isDone (s : Scan) : Bool :=
  s.input.isEmpty && match s.pushed with
    | none | some .ending => true
    | _ => false

end Courier.Shell
