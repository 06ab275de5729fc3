import ChatClient.Event.Classify
import ChatClient.Gateway.Basic
/-!
# The gateway step by step

Everything that can happen to a gateway is an input with a point of time: what its owner asks, what the network does,
the writing of a message that waits, and the clock, by which timers go off.  `Gateway.step` says what follows: the
gateway after it and what can be noticed from outside.  Nothing else changes a gateway, so a run is a list of inputs.
-/
namespace ChatClient

inductive Frame where
  | text (bytes : List UInt8)
  | binary (bytes : List UInt8)
  | control
  | close
deriving DecidableEq, Repr

inductive GatewayInput where
  /-- The owner opens the gateway, with something to run it on or without. -/
  | launch (hasRuntime : Bool)
  /-- The owner closes the gateway. -/
  | close
  /-- The owner sends a message. -/
  | send (message : ClientMessage)
  /-- No socket comes of dialling. -/
  | dialFailed
  /-- The handshake on a new socket is complete. -/
  | handshake
  /-- A frame comes over the socket. -/
  | frame (frame : Frame)
  /-- The socket fails or ends. -/
  | lost
  /-- The oldest message that waits is written to the socket. -/
  | write
  /-- Timers that are due go off. -/
  | clock
deriving DecidableEq, Repr

inductive Notice where
  | opened
  | notOpened (error : GatewayError)
  | accepted (message : ClientMessage)
  | refused (message : ClientMessage) (error : GatewayError)
  | entered (state : ConnectionState)
  | wrote (message : ClientMessage)
deriving DecidableEq, Repr

namespace Gateway

variable {ρ : Type}

def withOutbox (g : Gateway ρ) (outbox : Option Outbox) : Gateway ρ :=
  { g with dispatcher := { g.dispatcher with outbox } }

def withReports (g : Gateway ρ) (reports : List Diagnostic) : Gateway ρ :=
  { g with dispatcher := { g.dispatcher with reports := g.dispatcher.reports ++ reports } }

/-- Moves the link; another state is noticed. -/
def move (g : Gateway ρ) (link : Link) : Gateway ρ × List Notice :=
  ({ g with link }, if link.state = g.state then [] else [.entered link.state])

def refusal? (g : Gateway ρ) (hasRuntime : Bool) : Option GatewayError :=
  if g.isClosed then some .closed
  else if !hasRuntime then some .noRuntime
  else if g.isOpened then some .alreadyOpen
  else none

def launch (g : Gateway ρ) (hasRuntime : Bool) : Gateway ρ × List Notice :=
  match g.refusal? hasRuntime with
  | some e => (g, [.notOpened e])
  | none =>
    let (g, notices) := { g with isOpened := true }.move .dialing
    (g, .opened :: notices)

def close (g : Gateway ρ) : Gateway ρ × List Notice :=
  ({ g with isClosed := true }.withOutbox none).move .idle

/-- Leaves the socket or the attempt to get one; the gateway is dialled again after a while. -/
def rest (g : Gateway ρ) (now : Instant) : Gateway ρ × List Notice :=
  (g.withOutbox none).move (.resting (now.plus g.config.reconnectInterval))

def send (g : Gateway ρ) (message : ClientMessage) : Gateway ρ × List Notice :=
  match Outbox.offer g.dispatcher.outbox message with
  | .ok outbox => (g.withOutbox (some outbox), [.accepted message])
  | .error e => (g, [.refused message e])

/-- Starts a session on a new socket: its heartbeat is fresh, its outbox empty, and its first message the token. -/
def handshake (g : Gateway ρ) : Gateway ρ × List Notice :=
  let (g, notices) := { g with heartbeat := g.heartbeat.reset }.move (.online none)
  (g.withOutbox (some (.ofCapacity g.config.outboxCapacity)), notices ++ [.wrote (.authenticate g.token)])

/-- Takes an event in: first the connection, then the cache and the observers. -/
def take (g : Gateway ρ) (now : Instant) (beat : Option Beat) (e : Event) : Gateway ρ × List Notice :=
  let (pulse, reports) := Pulse.route now ⟨g.heartbeat, beat⟩ e
  let (g, notices) := ({ g with heartbeat := pulse.heartbeat }.withReports reports).move (.online pulse.beat)
  ({ g with dispatcher := g.dispatcher.dispatch g.state e }, notices)

/-- Takes in what a frame spells; what cannot be read is reported and passed over. -/
def read (g : Gateway ρ) (now : Instant) (beat : Option Beat) (bytes : List UInt8) : Gateway ρ × List Notice :=
  let (reports, e?) := (Event.ofBytes bytes).leniently
  let g := g.withReports reports
  match e? with
  | some e => g.take now beat e
  | none => (g, [])

/-- Takes a frame in; a text that is none ends the session. -/
def receive (g : Gateway ρ) (now : Instant) (beat : Option Beat) : Frame → Gateway ρ × List Notice
  | .text bytes => if (Text.Utf8.decode? bytes).isSome then g.read now beat bytes else g.rest now
  | .binary bytes => g.read now beat bytes
  | .control => (g, [])
  | .close => g.rest now

/-- Puts a ping into the outbox, or lets it wait for room there. -/
def ping (g : Gateway ρ) (ticker : Ticker) (data : Nat) : Gateway ρ :=
  match Outbox.offer g.dispatcher.outbox (.ping (UInt64.ofNat data)) with
  | .ok outbox => { g.withOutbox (some outbox) with link := .online (some ⟨ticker, none⟩) }
  | .error _ => { g with link := .online (some ⟨ticker, some data⟩) }

/-- A tick of the heartbeat: a ping, or the end of a session whose pings are not answered. -/
def tick (g : Gateway ρ) (now : Instant) (ticker : Ticker) : Gateway ρ × List Notice :=
  if g.heartbeat.isOverdue now then g.rest now
  else
    let (heartbeat, data) := g.heartbeat.nextPing now
    ({ g with heartbeat }.ping (ticker.tick now) data, [])

/-- Writes the oldest message that waits, which may make room for a ping. -/
def write (g : Gateway ρ) (beat : Option Beat) : Gateway ρ × List Notice :=
  match g.dispatcher.outbox.bind Outbox.write? with
  | none => (g, [])
  | some (message, outbox) =>
    let g := g.withOutbox (some outbox)
    (match beat with
      | some ⟨ticker, some data⟩ => g.ping ticker data
      | _ => g,
      [.wrote message])

def step (g : Gateway ρ) (now : Instant) (input : GatewayInput) : Gateway ρ × List Notice :=
  match input, g.link with
  | .launch hasRuntime, _ => g.launch hasRuntime
  | .close, _ => g.close
  | .send message, _ => g.send message
  | .dialFailed, .dialing => g.rest now
  | .handshake, .dialing => g.handshake
  | .frame frame, .online beat => g.receive now beat frame
  | .lost, .online _ => g.rest now
  | .write, .online beat => g.write beat
  | .clock, .online (some ⟨ticker, none⟩) => if ticker.isDue now then g.tick now ticker else (g, [])
  | .clock, .resting deadline => if deadline.hasCome now then g.move .dialing else (g, [])
  | _, _ => (g, [])

def run (g : Gateway ρ) : List (Instant × GatewayInput) → Gateway ρ × List (Instant × Notice)
  | [] => (g, [])
  | (now, input) :: inputs =>
    let (g, notices) := g.step now input
    let (g, later) := run g inputs
    (g, notices.map (now, ·) ++ later)

end Gateway

end ChatClient
