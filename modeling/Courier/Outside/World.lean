import Courier.Client
import Courier.Outside.Disk
import Courier.Outside.Shell.Start
import Courier.TestServer.Basic
import Courier.Outside.Scripted
import Courier.Outside.Dispatch
import Courier.Outside.Reply

/-!
# A world to run in

The outside world as a value: the files, the scripts that stand in for transports, and the peer at the other
end of the network. `World.host` is what it offers to a client.

This folder is the outermost layer: what a client is run against. Nothing in the library depends on it, and no result is
about it; a result about a client holds for every host.
-/

namespace Courier

/-- What listens at the other end of the network. -/
inductive Peer where
  | absent
  /-- Reads one request, sends some bytes, and closes. -/
  | canned (reply : Bytes)
  | testServer
  deriving DecidableEq, Repr

/-- An outside world. -/
structure World where
  disk : Disk
  scripts : List Script
  peer : Peer
  /-- The requests that have reached the peer, the last one at the end. -/
  arrivals : List Wire.Dispatch

namespace World

def peerAddress : String := "127.0.0.1:40000"

def onScript {α : Type} (i : Nat) (x : Act Script α) : Act World α := fun w =>
  match w.scripts[i]? with
  | none => Act.panic w
  | some s =>
    let r := x s
    ⟨{ w with scripts := w.scripts.set i r.world }, r.events, r.value⟩

def files : FileAccess World where
  size path := Act.step fun w => (w.disk.size path, w)
  openFile path := Act.step fun w => (w.disk.openFile path, w)

def scripted (i : Nat) (name : String) (uploads : Bool) : Transport World where
  name := name
  uploads := uploads
  execute r := onScript i ((Script.transport name uploads).execute r)

def scriptedRunner (i : Nat) : Runner World := fun command => onScript i (Script.runner command)

def spawn : Spawn World := fun program args =>
  Act.step fun w =>
    let (child, disk) := Shell.start w.disk program args
    (child, { w with disk := disk })

def inquiry (d : Wire.Dispatch) : TestServer.Inquiry where
  method := Utf8.encode (match d.method with | .get => "GET" | .post => "POST").toList
  target := d.target
  fields := d.fields
  body := d.body

def serve (d : Wire.Dispatch) : Response :=
  let a := TestServer.answer (inquiry d)
  ⟨a.status, a.headers, if a.status = 204 ∨ a.status = 304 then [] else [.data a.body]⟩

def reply (d : Wire.Dispatch) : Peer → Except String Response
  | .absent => .error "connection refused"
  | .canned bytes =>
    match Wire.Reply.read? bytes with
    | some r => .ok r
    | none => .error "bad reply"
  | .testServer => .ok (serve d)

def send : Agent World := fun e => Act.step fun w =>
  match Wire.Dispatch.ofErrand e with
  | .error r => (.error r.message, w)
  | .ok d =>
    if d.target.authority == Utf8.encode peerAddress.toList && w.peer ≠ .absent then
      (reply d w.peer, { w with arrivals := w.arrivals ++ [d] })
    else (.error "connection refused", w)

def host : Host World := ⟨files, spawn, send⟩

end World

end Courier
