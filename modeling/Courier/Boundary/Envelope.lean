import Courier.Buffer.Basic

/-!
# Reply envelopes

What a caller in C is handed for every request: an error code, a message, and the bytes of the reply with a zero after
them. An envelope is one of two shapes, a reply or a failure, and so an empty reply cannot be taken for a failure.
-/

namespace Courier.Boundary

/-- The error codes. -/
inductive Code where
  | ok | configuration | transport | subprocess | fileNotFound | unsupported | allocation | panic | nullArg
  | invalidUtf8
  deriving DecidableEq, Repr

namespace Code

def table : List (Code × Nat × String) :=
  [(ok, 0, "Ok"), (configuration, 1, "Configuration"), (transport, 2, "Transport"), (subprocess, 3, "Subprocess"),
   (fileNotFound, 4, "FileNotFound"), (unsupported, 5, "Unsupported"), (allocation, 6, "Allocation"),
   (panic, 7, "Panic"), (nullArg, 8, "NullArg"), (invalidUtf8, 9, "InvalidUtf8")]

def number (c : Code) : Nat :=
  (table.lookup c).elim 0 Prod.fst

def name (c : Code) : String :=
  (table.lookup c).elim "" Prod.snd

def ofFailure : Failure → Code
  | .badTemplate .. => configuration
  | .transport _ => transport
  | .subprocess _ => subprocess
  | .unreadableFile .. => fileNotFound
  | .unsupported _ => unsupported
  | .allocation _ => allocation

end Code

/-- The contents of a C string: the bytes before its first zero. -/
def cContents (bs : Bytes) : Bytes :=
  bs.takeWhile (· != 0)

/-- A C string of the given contents. There is none if the contents hold a zero. -/
def cString? (bs : Bytes) : Option Bytes :=
  if bs.contains 0 then none else some (bs ++ [0])

/-- What a request hands to C. -/
structure Envelope where
  code : Code
  /-- The message as a C string, with the zero at its end. -/
  message : Option Bytes
  /-- The bytes of the reply, with a zero after them. -/
  data : Option Bytes
  /-- The number of bytes of the reply. -/
  length : Nat
  deriving DecidableEq, Repr

namespace Envelope

def ofBuffer (b : Buffer) : Envelope :=
  ⟨.ok, none, some b.toListWithZero, b.length⟩

/-- The text of a message in C: a zero in it becomes a space, since it would end the string. -/
def messageBytes (text : String) : Bytes :=
  (Utf8.encode text.toList).map fun b => if b = 0 then ascii ' ' else b

def failed (code : Code) (text : String) : Envelope :=
  ⟨code, some ((cString? (messageBytes text)).getD [0]), none, 0⟩

def ofFailure (f : Failure) : Envelope :=
  failed (.ofFailure f) f.message

def nullArgument (name : String) : Envelope :=
  failed .nullArg ("null argument: " ++ name)

def invalidText (name : String) : Envelope :=
  failed .invalidUtf8 ("argument is not UTF-8: " ++ name)

def panicked (text : String) : Envelope :=
  failed .panic text

def ofReply : Reply → Envelope
  | .ok b => ofBuffer b
  | .error f => ofFailure f

end Envelope

end Courier.Boundary
