import Courier.Boundary.Calls
import Courier.Boundary.Heap

/-!
# Sessions of a C program

A `ForeignCall` is one call of a request function, with its arguments as the C program passes them, and `deliver`
hands the answer over in memory. `session` answers calls one after the other, each in the world the one before left.
`serve` makes a client and has it answer orders. `Deed.run` is a program that makes requests and releases their answers.
-/

namespace Courier.Boundary

variable {σ : Type}

/-- A call of one of the request functions. -/
inductive ForeignCall (σ : Type) where
  | get (client : Option (Client σ)) (url query : Pointer)
  | post (client : Option (Client σ)) (url body : Pointer)
  | postFile (client : Option (Client σ)) (url path : Pointer) (length : Nat) (contentType : Pointer)

def ForeignCall.answer : ForeignCall σ → Act σ Envelope
  | get client url query => Boundary.get client url query
  | post client url body => Boundary.post client url body
  | postFile client url path length contentType => Boundary.postFile client url path length contentType

/-- The call as the C program makes it: it gets the address of the record of the answer. -/
def ForeignCall.deliver (f : ForeignCall σ) : Act (σ × Heap) Address := do
  let e ← f.answer.focus Prod.fst fun s w => (s, w.2)
  Act.step fun w => ((w.2.hand e).1, (w.1, (w.2.hand e).2))

def session : List (ForeignCall σ) → Act σ (List Envelope)
  | [] => pure []
  | f :: calls => do pure ((← f.answer) :: (← session calls))

/-- What a C program asks of a client, whichever it has. -/
inductive Order where
  | get (url query : Pointer)
  | post (url body : Pointer)
  | postFile (url path : Pointer) (length : Nat) (contentType : Pointer)

def Order.call (client : Option (Client σ)) : Order → ForeignCall σ
  | get url query => .get client url query
  | post url body => .post client url body
  | postFile url path length contentType => .postFile client url path length contentType

/-- Makes a client and gives it orders, one after the other. -/
def serve (make : Act σ (Option (Client σ))) (orders : List Order) : Act σ (List Envelope) := do
  let client ← make
  session (orders.map (·.call client))

/-- Releases the reply at an address. -/
def releaseAt (a : Address) : Act (σ × Heap) (Except HeapFault Unit) :=
  Act.step fun w =>
    match w.2.freeReply a with
    | .ok h => (.ok (), (w.1, h))
    | .error e => (.error e, w)

/-- What a C program does: it makes a request, releases one of the answers it got, by its number, or releases null. -/
inductive Deed (σ : Type) where
  | request (f : ForeignCall σ)
  | release (number : Nat)
  | releaseNull

namespace Deed

/-- Does a deed; `answers` are the addresses that the requests so far came to, the first one first. -/
def perform (answers : List Address) : Deed σ → Act (σ × Heap) (Except HeapFault (List Address))
  | request f => do pure (.ok (answers ++ [← f.deliver]))
  | release number =>
    match answers[number]? with
    | none => pure (.error .noBlock)
    | some a => do pure ((← releaseAt a).map fun _ => answers)
  | releaseNull => do pure ((← releaseAt 0).map fun _ => answers)

/-- Does deeds one after the other, up to the first fault. -/
def run (answers : List Address) : List (Deed σ) → Act (σ × Heap) (Except HeapFault (List Address))
  | [] => pure (.ok answers)
  | d :: deeds => do
    match ← d.perform answers with
    | .ok answers => run answers deeds
    | .error e => pure (.error e)

end Deed

end Courier.Boundary
