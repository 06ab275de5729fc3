import ChatClient.Gateway.Step
/-!
# A gateway among its callers

Anyone may send messages over a gateway while it runs.  The outbox of a session is found in a slot, where it is put
when the session begins and from where it is taken when the session ends.  A call takes more than a moment: the caller
takes hold of the outbox in the slot, and puts the message in later, at once or when there is room; sessions may end
and begin in between.  An outbox that is out of the slot is still written from until its writer stops, and takes
messages in from those who have hold of it.  `SharedGateway.step` puts these moments between those of the gateway
itself, in any order.
-/
namespace ChatClient

/-- What callers and sockets get to see of a gateway.  Sessions and calls are numbered in the order in which they
begin. -/
inductive Traffic where
  /-- The outbox of a session comes into the slot. -/
  | attached (session : Nat)
  /-- The slot is emptied. -/
  | detached
  /-- A call begins; it finds the outbox of a session in the slot, or none. -/
  | called (call : Nat) (message : ClientMessage) (found : Option Nat)
  /-- A call is answered: its message is in the outbox of a session. -/
  | accepted (call session : Nat) (message : ClientMessage)
  /-- A call is answered: its message is not taken. -/
  | refused (call : Nat) (message : ClientMessage) (error : GatewayError)
  /-- The heartbeat of a session hands out a ping. -/
  | drew (session : Nat) (ping : ClientMessage)
  /-- A ping is in the outbox of a session. -/
  | pinged (session : Nat) (ping : ClientMessage)
  /-- A message is written to the socket of a session. -/
  | wrote (session : Nat) (message : ClientMessage)
deriving DecidableEq, Repr

/-- A call that has hold of the outbox of a session and is not answered yet. -/
structure HeldCall where
  call : Nat
  session : Nat
  message : ClientMessage
  /-- Whether the caller waits for room. -/
  waits : Bool
deriving DecidableEq, Repr

/-- The outbox of a session that is over, and the ping that waits for room in it. -/
structure Leftover where
  outbox : Outbox
  blocked : Option ClientMessage
deriving DecidableEq, Repr

/-- A gateway with those who call it: how many sessions there were, the outbox of the last one if it is over and its
writer has not stopped, how many calls there were, and those that are not answered yet. -/
structure SharedGateway (ρ : Type) where
  gateway : Gateway ρ
  session : Nat
  leftover : Option Leftover
  calls : Nat
  held : List HeldCall

inductive SharedInput where
  /-- Something happens to the gateway itself. -/
  | own (input : GatewayInput)
  /-- A call begins. -/
  | call (message : ClientMessage) (waits : Bool)
  /-- One of the calls that have hold of an outbox goes on. -/
  | put (place : Nat)
  /-- One of them is given up. -/
  | abandon (place : Nat)
  /-- The oldest message that waits is written, and the room it leaves is anyone's. -/
  | write
  /-- The ping that waits for room gets it. -/
  | ping
  /-- The heartbeat ticks once more before it knows that the session is over. -/
  | lateTick
  /-- The writer of a session that is over stops. -/
  | stop
deriving DecidableEq, Repr

def ClientMessage.pingOf (data : Nat) : ClientMessage :=
  .ping (UInt64.ofNat data)

def Outbox.gained (before after : Option Outbox) : List ClientMessage :=
  match before, after with
  | some o, some o' => o'.accepted.drop o.accepted.length
  | _, _ => []

def Link.blocked? : Link → Option ClientMessage
  | .online (some ⟨_, some data⟩) => some (.pingOf data)
  | _ => none

def Link.unblocked : Link → Link
  | .online (some beat) => .online (some { beat with blocked := none })
  | link => link

/-- The ping that the heartbeat hands out when the clock is read, if it does. -/
def Gateway.drawn? {ρ : Type} (g : Gateway ρ) (now : Instant) : Option ClientMessage :=
  match g.link with
  | .online (some ⟨ticker, none⟩) =>
    if ticker.isDue now && !g.heartbeat.isOverdue now then some (.pingOf (g.heartbeat.nextPing now).2) else none
  | _ => none

namespace Traffic

/-- The calls by which messages come into the outbox in the slot at once, one after the other. -/
def passed (session call : Nat) : List ClientMessage → List Traffic
  | [] => []
  | m :: ms => .called call m (some session) :: .accepted call session m :: passed session (call + 1) ms

def answer? (call session : Nat) : Notice → Option Traffic
  | .accepted m => some (.accepted call session m)
  | .refused m e => some (.refused call m e)
  | _ => none

def writing? (session : Nat) : Notice → Option Traffic
  | .wrote m => some (.wrote session m)
  | _ => none

end Traffic

namespace SharedGateway

variable {ρ : Type}

def ofGateway (g : Gateway ρ) : SharedGateway ρ :=
  ⟨g, 0, none, 0, []⟩

def slot? (s : SharedGateway ρ) : Option Nat :=
  if s.gateway.isAttached then some s.session else none

def queue? (s : SharedGateway ρ) : Option Outbox :=
  match s.gateway.dispatcher.outbox with
  | some o => some o
  | none => s.leftover.map (·.outbox)

def blocked? (s : SharedGateway ρ) : Option ClientMessage :=
  if s.gateway.isAttached then s.gateway.link.blocked? else s.leftover.bind (·.blocked)

def withQueue (s : SharedGateway ρ) (o : Outbox) : SharedGateway ρ :=
  if s.gateway.isAttached then { s with gateway := s.gateway.withOutbox (some o) }
  else { s with leftover := s.leftover.map fun l => { l with outbox := o } }

def unblocked (s : SharedGateway ρ) : SharedGateway ρ :=
  if s.gateway.isAttached then { s with gateway := { s.gateway with link := s.gateway.link.unblocked } }
  else { s with leftover := s.leftover.map fun l => { l with blocked := none } }

/-- Begins a call, which is turned away at once if the slot is empty. -/
def call (s : SharedGateway ρ) (message : ClientMessage) (waits : Bool) : SharedGateway ρ × List Traffic :=
  let called := .called s.calls message s.slot?
  if s.gateway.isAttached then
    ({ s with calls := s.calls + 1, held := s.held ++ [⟨s.calls, s.session, message, waits⟩] }, [called])
  else ({ s with calls := s.calls + 1 }, [called, .refused s.calls message .notConnected])

/-- Goes on with a call: its message goes into the outbox that it has hold of, unless there is no room or no one
writes from that outbox any more. -/
def put (s : SharedGateway ρ) (place : Nat) : SharedGateway ρ × List Traffic :=
  match s.held[place]? with
  | none => (s, [])
  | some c =>
    let outbox := if c.session = s.session then s.queue? else none
    match Outbox.offer outbox c.message with
    | .ok o => ({ s.withQueue o with held := s.held.eraseIdx place }, [.accepted c.call c.session c.message])
    | .error e =>
      if c.waits ∧ e = .backpressure then (s, [])
      else ({ s with held := s.held.eraseIdx place }, [.refused c.call c.message e])

def write (s : SharedGateway ρ) : SharedGateway ρ × List Traffic :=
  match s.queue?.bind Outbox.write? with
  | some (m, o) => (s.withQueue o, [.wrote s.session m])
  | none => (s, [])

/-- Puts the ping that waits into the outbox, if there is room. -/
def ping (s : SharedGateway ρ) : SharedGateway ρ × List Traffic :=
  match s.blocked? with
  | none => (s, [])
  | some m =>
    match Outbox.offer s.queue? m with
    | .ok o => ((s.withQueue o).unblocked, [.pinged s.session m])
    | .error _ => (s, [])

def lateTick (s : SharedGateway ρ) (now : Instant) : SharedGateway ρ × List Traffic :=
  match s.gateway.dispatcher.outbox, s.leftover with
  | none, some ⟨o, none⟩ =>
    if s.gateway.heartbeat.isOverdue now then (s, [])
    else
      let (heartbeat, data) := s.gateway.heartbeat.nextPing now
      ({ s with gateway := { s.gateway with heartbeat }, leftover := some ⟨o, some (.pingOf data)⟩ },
        [.drew s.session (.pingOf data)])
  | _, _ => (s, [])

/-- What happens to the gateway itself, told by what comes into its outbox and out of it.  An outbox that appears is
that of a new session, and the writer of the session before it has stopped by then; one that disappears is out of the
slot from then on. -/
def own (s : SharedGateway ρ) (now : Instant) (input : GatewayInput) : SharedGateway ρ × List Traffic :=
  let (gateway, notices) := s.gateway.step now input
  let gained := Outbox.gained s.gateway.dispatcher.outbox gateway.dispatcher.outbox
  match s.gateway.dispatcher.outbox, gateway.dispatcher.outbox, input with
  | none, some _, _ =>
    ({ s with gateway, session := s.session + 1, leftover := none },
      notices.filterMap (Traffic.writing? (s.session + 1)) ++ [.attached (s.session + 1)])
  | some o, none, _ => ({ s with gateway, leftover := some ⟨o, s.gateway.link.blocked?⟩ }, [.detached])
  | _, _, .send m =>
    ({ s with gateway, calls := s.calls + 1 },
      .called s.calls m s.slot? :: notices.filterMap (Traffic.answer? s.calls s.session))
  | _, _, .frame _ =>
    ({ s with gateway, calls := s.calls + gained.length }, Traffic.passed s.session s.calls gained)
  | _, _, .clock =>
    ({ s with gateway }, (s.gateway.drawn? now).toList.map (.drew s.session) ++ gained.map (.pinged s.session))
  | _, _, _ =>
    ({ s with gateway }, notices.filterMap (Traffic.writing? s.session) ++ gained.map (.pinged s.session))

def step (s : SharedGateway ρ) (now : Instant) : SharedInput → SharedGateway ρ × List Traffic
  | .own input => s.own now input
  | .call message waits => s.call message waits
  | .put place => s.put place
  | .abandon place => ({ s with held := s.held.eraseIdx place }, [])
  | .write => s.write
  | .ping => s.ping
  | .lateTick => s.lateTick now
  | .stop => ({ s with leftover := none }, [])

def run (s : SharedGateway ρ) : List (Instant × SharedInput) → SharedGateway ρ × List Traffic
  | [] => (s, [])
  | (now, input) :: inputs =>
    let (s, traffic) := s.step now input
    let (s, later) := run s inputs
    (s, traffic ++ later)

end SharedGateway

end ChatClient
