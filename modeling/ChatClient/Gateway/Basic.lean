import ChatClient.Config.Basic
import ChatClient.Dispatch.Basic
import ChatClient.Gateway.Pulse
/-!
# The gateway

One connection that is dialled, lost and dialled again until it is closed for good.  It is opened at most once.  The
outbox belongs to the session at hand: it comes with the socket and goes with it.
-/
namespace ChatClient

/-- Where the connection stands: not dialled, being dialled, on a socket, whose pings have started once the server has
authenticated the client, or waiting to be dialled again. -/
inductive Link where
  | idle
  | dialing
  | online (beat : Option Beat)
  | resting (deadline : Instant)
deriving DecidableEq, Repr

def Link.state : Link → ConnectionState
  | .idle => .disconnected
  | .dialing => .connecting
  | .online none => .authenticating
  | .online (some _) => .connected
  | .resting _ => .reconnecting

structure Gateway (ρ : Type) where
  token : String
  config : GatewayConfig
  isOpened : Bool
  isClosed : Bool
  link : Link
  heartbeat : Heartbeat
  dispatcher : Dispatcher ρ

namespace Gateway

variable {ρ : Type}

def ofConfig (token : String) (config : GatewayConfig) (dispatcher : Dispatcher ρ) : Gateway ρ where
  token
  config
  isOpened := false
  isClosed := false
  link := .idle
  heartbeat := .fresh config.heartbeatInterval config.heartbeatTimeout
  dispatcher

def state (g : Gateway ρ) : ConnectionState :=
  g.link.state

def latency? (g : Gateway ρ) : Option Duration :=
  g.heartbeat.latency

def isAttached (g : Gateway ρ) : Bool :=
  g.dispatcher.outbox.isSome

def withRegistry (g : Gateway ρ) (registry : Registry ρ) : Gateway ρ :=
  { g with dispatcher := { g.dispatcher with registry } }

def summary (g : Gateway ρ) : String :=
  "Gateway \x7b url: " ++ Text.quote g.config.url ++ ", state: " ++ g.state.title ++ ", closed: " ++
    (if g.isClosed then "true" else "false") ++ " \x7d"

end Gateway

end ChatClient
