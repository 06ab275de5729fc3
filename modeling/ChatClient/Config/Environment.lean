import ChatClient.Config.Basic
import ChatClient.Table
import ChatClient.Text.Blank
import ChatClient.Text.Decimal
import ChatClient.Text.Utf8
/-!
# Configuration from the environment

A configuration read from named variables.  A variable whose bytes are no text counts as unset.  The variables are
looked at in a fixed order, and the first one that cannot be used is the error.
-/
namespace ChatClient

abbrev Environment : Type :=
  Table (List UInt8)

inductive ConfigError where
  | missingVariable (name : String)
  | invalidValue (name value : String)
deriving DecidableEq, Repr

namespace ConfigError

def name : ConfigError → String
  | .missingVariable _ => "MissingVar"
  | .invalidValue .. => "InvalidValue"

def message : ConfigError → String
  | .missingVariable name => "Missing required environment variable: " ++ name
  | .invalidValue name value => "Invalid value for " ++ name ++ ": " ++ value

end ConfigError

namespace Environment

def text? (env : Environment) (name : String) : Option String :=
  (env[name]? : Option (List UInt8)).bind Text.Utf8.decode?

def millis? (cs : List Char) : Option Duration :=
  (Text.Decimal.parseNat? cs).bind fun n => if n < UInt64.size then some (.ofMillis n) else none

def flag? (cs : List Char) : Option Bool :=
  let word := String.ofList (cs.map Char.toLower)
  if ["1", "true", "yes", "on"].contains word then some true
  else if ["0", "false", "no", "off"].contains word then some false
  else none

/-- A variable read without the blanks around it; the standard value if it is not set. -/
def read {α : Type} (env : Environment) (read? : List Char → Option α) (name : String) (standard : α) :
    Except ConfigError α :=
  match env.text? name with
  | none => .ok standard
  | some value =>
    match read? (Text.trimChars value.toList) with
    | some a => .ok a
    | none => .error (.invalidValue name value)

/-- The token, which must not be blank. -/
def token (env : Environment) : Except ConfigError String :=
  match env.text? "REVOLT_TOKEN" with
  | none => .error (.missingVariable "REVOLT_TOKEN")
  | some token =>
    if Text.trimChars token.toList = [] then .error (.invalidValue "REVOLT_TOKEN" "empty token") else .ok token

end Environment

def ClientConfig.ofEnvironment (env : Environment) : Except ConfigError ClientConfig := do
  let http : HttpConfig := {}
  let gateway : GatewayConfig := {}
  let tracking := Tracking.standard
  let token ← env.token
  let heartbeatInterval ← env.read Environment.millis? "REVOLT_HEARTBEAT_INTERVAL_MS" gateway.heartbeatInterval
  let selfbot ← env.read Environment.flag? "REVOLT_SELFBOT" false
  let requestTimeout ← env.read Environment.millis? "REVOLT_REQUEST_TIMEOUT_MS" http.requestTimeout
  let sweepInterval ← env.read Environment.millis? "REVOLT_RATELIMIT_SWEEP_MS" http.sweepInterval
  let heartbeatTimeout ←
    env.read Environment.millis? "REVOLT_HEARTBEAT_TIMEOUT_MS" ⟨heartbeatInterval.nanos * 2⟩
  let reconnectInterval ← env.read Environment.millis? "REVOLT_RECONNECT_INTERVAL_MS" gateway.reconnectInterval
  let users ← env.read Environment.flag? "REVOLT_TRACK_USERS" tracking.users
  let servers ← env.read Environment.flag? "REVOLT_TRACK_SERVERS" tracking.servers
  let channels ← env.read Environment.flag? "REVOLT_TRACK_CHANNELS" tracking.channels
  let members ← env.read Environment.flag? "REVOLT_TRACK_MEMBERS" tracking.members
  let emojis ← env.read Environment.flag? "REVOLT_TRACK_EMOJIS" tracking.emojis
  let webhooks ← env.read Environment.flag? "REVOLT_TRACK_WEBHOOKS" tracking.webhooks
  return {
    token, selfbot
    http := {
      apiUrl := (env.text? "REVOLT_API_URL").getD http.apiUrl
      cdnUrl := (env.text? "REVOLT_CDN_URL").getD http.cdnUrl
      userAgent := (env.text? "REVOLT_USER_AGENT").getD http.userAgent
      requestTimeout, sweepInterval }
    gateway := {
      url := (env.text? "REVOLT_WS_URL").getD gateway.url
      heartbeatInterval, heartbeatTimeout, reconnectInterval
      outboxCapacity := gateway.outboxCapacity }
    tracking := ⟨users, servers, channels, members, emojis, webhooks⟩ }

end ChatClient
