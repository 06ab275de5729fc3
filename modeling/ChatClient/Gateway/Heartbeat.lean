import ChatClient.Time.Duration
/-!
# Heartbeats

The client pings with the number of pongs it has acknowledged, and the server echoes the number.  A pong counts only
when it carries the present number.  `pendingSince` is the time of the oldest ping that no pong has answered yet; the
connection is overdue once that ping is as old as the timeout.
-/
namespace ChatClient

structure Heartbeat where
  interval : Duration
  timeout : Duration
  count : Nat
  lastSent : Option Instant
  lastAck : Option Instant
  pendingSince : Option Instant
  latency : Option Duration
deriving DecidableEq, Repr

inductive PongOutcome where
  | acked (latency : Duration)
  | mismatch (expected received : Nat)
deriving DecidableEq, Repr

namespace Heartbeat

def fresh (interval timeout : Duration) : Heartbeat :=
  ⟨interval, timeout, 0, none, none, none, none⟩

def reset (h : Heartbeat) : Heartbeat :=
  fresh h.interval h.timeout

/-- Sends a ping: the heartbeat after it and the number that it carries. -/
def nextPing (h : Heartbeat) (now : Instant) : Heartbeat × Nat :=
  ({ h with lastSent := some now, pendingSince := some (h.pendingSince.getD now) }, h.count)

def sinceSent (h : Heartbeat) (now : Instant) : Duration :=
  match h.lastSent with
  | some sent => now.since sent
  | none => .zero

/-- Takes a pong in: the heartbeat after it and what it comes to. -/
def onPong (h : Heartbeat) (received : Nat) (now : Instant) : Heartbeat × PongOutcome :=
  if received = h.count then
    let latency := h.sinceSent now
    ({ h with count := h.count + 1, lastAck := some now, pendingSince := none, latency := some latency },
      .acked latency)
  else (h, .mismatch h.count received)

def isOverdue (h : Heartbeat) (now : Instant) : Bool :=
  h.pendingSince.any fun since => h.timeout.nanos ≤ (now.since since).nanos

/-- How long the session has lasted by its heartbeats: an interval for each acknowledged pong, and the time since the
last ping.  `none` when the sum is longer than any span. -/
def uptime? (h : Heartbeat) (now : Instant) : Option Duration :=
  if h.count = 0 then some .zero
  else (h.interval.saturatingMul (min h.count 0xffffffff)).add? (h.sinceSent now)

def overflowMessage : String := "overflow when adding durations"

end Heartbeat

end ChatClient
