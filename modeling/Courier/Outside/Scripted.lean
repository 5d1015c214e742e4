import Courier.Transport.Command

/-!
# Scripted transports

Transports and runners that answer from a list of replies and keep what they were handed, for trying out what
stands in front of them. The last reply of the list repeats; an empty list answers `reply`.
-/

namespace Courier

/-- An answer of a script. -/
inductive ScriptedReply where
  | bytes (bs : Bytes)
  | failure (f : Failure)
  | panic
  deriving DecidableEq, Repr

/-- A list of answers, how many were given, and what was handed in. -/
structure Script where
  replies : List ScriptedReply
  played : Nat
  requests : List Request
  commands : List String
  deriving Repr

namespace Script

def ofReplies (replies : List ScriptedReply) : Script :=
  ⟨replies, 0, [], []⟩

def defaultReply : ScriptedReply :=
  .bytes (Utf8.encode "reply".toList)

def replyAt (s : Script) (n : Nat) : ScriptedReply :=
  (s.replies[n]?).getD (s.replies.getLast?.getD defaultReply)

def play : Act Script Reply := do
  match ← Act.step fun s => (s.replyAt s.played, { s with played := s.played + 1 }) with
  | .bytes bs => pure (.ok (.ofList bs))
  | .failure f => pure (.error f)
  | .panic => Act.panic

def transport (name : String) (uploads : Bool) : Transport Script where
  name := name
  uploads := uploads
  execute r := do
    Act.step fun s => ((), { s with requests := s.requests ++ [r] })
    play

def runner : Runner Script := fun command => do
  Act.step fun s => ((), { s with commands := s.commands ++ [command] })
  play

end Script

end Courier
