import ChatClient.Diagnostic
import ChatClient.Event.Basic
import ChatClient.Gateway.Heartbeat
import ChatClient.Time.Ticker
/-!
# The pulse of a session

What a session makes of events before the cache and the observers see them.  The first `Authenticated` of a session
starts its pings, any further one changes nothing; a pong is held against the number that the next ping would carry.
Events inside a bulk count as if they had come alone.
-/
namespace ChatClient

/-- The pings of a session: when the next one is due, and the number of one that waits for room in the outbox. -/
structure Beat where
  ticker : Ticker
  blocked : Option Nat
deriving DecidableEq, Repr

/-- The heartbeat and, once the session is authenticated, its pings. -/
structure Pulse where
  heartbeat : Heartbeat
  beat : Option Beat
deriving DecidableEq, Repr

namespace Pulse

/-- Starts the pings, the first one an interval from now, unless they have started. -/
def start (p : Pulse) (now : Instant) : Pulse :=
  match p.beat with
  | some _ => p
  | none => { p with beat := some ⟨.start now p.heartbeat.interval, none⟩ }

/-- Takes a pong in; one with another number is reported. -/
def pong (p : Pulse) (now : Instant) (received : Nat) : Pulse × List Diagnostic :=
  let (heartbeat, outcome) := p.heartbeat.onPong received now
  ({ p with heartbeat }, match outcome with
    | .acked _ => []
    | .mismatch expected received => [.heartbeatMismatch expected received])

mutual
def route (now : Instant) (p : Pulse) : Event → Pulse × List Diagnostic
  | .authenticated => (p.start now, [])
  | .pong pong => p.pong now pong.data.toNat
  | .bulk events => routeAll now p events
  | _ => (p, [])

def routeAll (now : Instant) (p : Pulse) : List Event → Pulse × List Diagnostic
  | [] => (p, [])
  | e :: es =>
    let (p, reports) := route now p e
    let (p, more) := routeAll now p es
    (p, reports ++ more)
end

end Pulse

end ChatClient
