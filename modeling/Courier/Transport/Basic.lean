import Courier.Act
import Courier.Buffer.Stream

/-!
# Transports

A transport performs one request at a time and comes to a whole reply; `Transport.executeAll` has it perform
several. `Transport.recording` is the same transport in a world that also keeps the requests it was handed.
-/

namespace Courier

/-- A way to perform requests against a world of type `σ`. -/
structure Transport (σ : Type) where
  name : String
  /-- Whether requests that carry a file can be performed. -/
  uploads : Bool
  execute : Request → Act σ Reply

namespace Transport

variable {σ : Type}

/-- Performs requests one after the other, each in the world the one before left. -/
def executeAll (t : Transport σ) : List Request → Act σ (List Reply)
  | [] => pure []
  | r :: requests => do pure ((← t.execute r) :: (← executeAll t requests))

/-- The transport that also keeps each request it is handed, the last one at the end. -/
def recording (t : Transport σ) : Transport (σ × List Request) where
  name := t.name
  uploads := t.uploads
  execute r := do
    Act.step fun w => ((), (w.1, w.2 ++ [r]))
    (t.execute r).focus Prod.fst fun s w => (s, w.2)

end Transport

end Courier
