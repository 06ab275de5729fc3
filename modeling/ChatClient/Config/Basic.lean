import ChatClient.Cache.Basic
import ChatClient.Http.Credentials
import ChatClient.Time.Duration
/-!
# Configuration

What a client can be told about itself.  Only the token has to be given; everything else has a standard value.
-/
namespace ChatClient

structure HttpConfig where
  apiUrl : String := "https://api.revolt.chat"
  cdnUrl : String := "https://cdn.revoltusercontent.com"
  userAgent : String := "revolt-rs/0.1.0"
  requestTimeout : Duration := .ofSecs 10
  sweepInterval : Duration := .ofSecs 60
deriving DecidableEq, Repr

structure GatewayConfig where
  url : String := "wss://ws.revolt.chat?version=1&format=json"
  heartbeatInterval : Duration := .ofSecs 30
  heartbeatTimeout : Duration := .ofSecs 60
  reconnectInterval : Duration := .ofSecs 5
  outboxCapacity : Nat := 64
deriving DecidableEq, Repr

structure ClientConfig where
  token : String
  selfbot : Bool := false
  http : HttpConfig := {}
  gateway : GatewayConfig := {}
  tracking : Tracking := .standard
deriving DecidableEq, Repr

namespace ClientConfig

def credentials (c : ClientConfig) : Credentials :=
  .ofToken c.token c.selfbot

def summaryHead (c : ClientConfig) : String :=
  "ClientConfig \x7b token: " ++ Text.quote Credentials.redacted ++ ", selfbot: " ++
    (if c.selfbot then "true" else "false")

end ClientConfig

end ChatClient
