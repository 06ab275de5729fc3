import ChatClient.Gateway.Message
/-!
# The outbox of a session

Messages on their way to the socket of the current session.  They are written in the order in which they were
accepted, and a bounded number of them may wait.  Without a session there is no outbox, and nothing can be sent.
-/
namespace ChatClient

inductive GatewayError where
  | alreadyOpen
  | closed
  | noRuntime
  | notConnected
  | backpressure
deriving DecidableEq, Repr

namespace GatewayError

def name : GatewayError → String
  | .alreadyOpen => "AlreadyOpen"
  | .closed => "Closed"
  | .noRuntime => "NoRuntime"
  | .notConnected => "NotConnected"
  | .backpressure => "Backpressure"

def message : GatewayError → String
  | .alreadyOpen => "Gateway is already open"
  | .closed => "Gateway is closed"
  | .noRuntime => "Gateway requires a Tokio runtime"
  | .notConnected => "Gateway is not connected"
  | .backpressure => "Gateway outbound queue is full"

end GatewayError

/-- The messages accepted in a session, oldest first, how many of them are written, and how many may wait. -/
structure Outbox where
  capacity : Nat
  accepted : List ClientMessage
  written : Nat
deriving DecidableEq, Repr

namespace Outbox

/-- An empty outbox; it has room for one message at least. -/
def ofCapacity (capacity : Nat) : Outbox :=
  ⟨max capacity 1, [], 0⟩

def waiting (o : Outbox) : List ClientMessage :=
  o.accepted.drop o.written

/-- An outbox with one message more, if there is an outbox and room in it. -/
def offer (outbox? : Option Outbox) (m : ClientMessage) : Except GatewayError Outbox :=
  match outbox? with
  | none => .error .notConnected
  | some o =>
    if o.waiting.length < o.capacity then .ok { o with accepted := o.accepted ++ [m] } else .error .backpressure

/-- The outbox after messages were offered to it one after the other; those that are refused are lost. -/
def offerAll (outbox? : Option Outbox) (ms : List ClientMessage) : Option Outbox :=
  ms.foldl (fun o m => match offer o m with | .ok o => some o | .error _ => o) outbox?

def write? (o : Outbox) : Option (ClientMessage × Outbox) :=
  o.waiting.head?.map fun m => (m, { o with written := o.written + 1 })

end Outbox

end ChatClient
