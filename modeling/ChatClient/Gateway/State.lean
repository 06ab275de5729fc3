/-!
# States of the connection

What a client publishes about its connection to the gateway.
-/
namespace ChatClient

inductive ConnectionState where
  | disconnected
  | connecting
  | authenticating
  | connected
  | reconnecting
deriving DecidableEq, Repr, Inhabited

namespace ConnectionState

def all : List ConnectionState :=
  [.disconnected, .connecting, .authenticating, .connected, .reconnecting]

def name : ConnectionState → String
  | .disconnected => "disconnected"
  | .connecting => "connecting"
  | .authenticating => "authenticating"
  | .connected => "connected"
  | .reconnecting => "reconnecting"

def title : ConnectionState → String
  | .disconnected => "Disconnected"
  | .connecting => "Connecting"
  | .authenticating => "Authenticating"
  | .connected => "Connected"
  | .reconnecting => "Reconnecting"

def isConnected (s : ConnectionState) : Bool :=
  s == .connected

def hasSocket : ConnectionState → Bool
  | .authenticating | .connected => true
  | _ => false

end ConnectionState

end ChatClient
