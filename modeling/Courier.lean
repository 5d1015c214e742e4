import Courier.Boundary.Calls
import Courier.Boundary.Heap
import Courier.Boundary.Session
import Courier.Buffer.Desk
import Courier.Config.Json
import Courier.Outside.World
import Courier.Proofs.Boundary.Constructing
import Courier.Proofs.Boundary.Diagnosing
import Courier.Proofs.Boundary.Releasing
import Courier.Proofs.Boundary.Shapes
import Courier.Proofs.Boundary.Simulation
import Courier.Proofs.Buffer.Allocating
import Courier.Proofs.Buffer.Refinement
import Courier.Proofs.Client.Blaming
import Courier.Proofs.Client.Dispatching
import Courier.Proofs.Config.Choosing
import Courier.Proofs.Config.RoundTrip
import Courier.Proofs.Json.Grammar
import Courier.Proofs.Json.Members
import Courier.Proofs.Json.Skipping
import Courier.Proofs.Json.Spelling
import Courier.Proofs.Json.Values
import Courier.Proofs.Template.Rendering
import Courier.Proofs.Template.Repeating
import Courier.Proofs.Template.Segmentation
import Courier.Proofs.TestServer.Echoing
import Courier.Proofs.TestServer.Numbering
import Courier.Proofs.Transport.Attending
import Courier.Proofs.Transport.Exchanging
import Courier.Proofs.Transport.Labelling
import Courier.Proofs.Transport.Running
import Courier.Proofs.Transport.Uploading
