import ChatClient.Text.Quoted
/-!
# Credentials

What a client signs its requests with.  Bots and people sign in different headers; neither token is ever shown.
-/
namespace ChatClient

inductive Credentials where
  | bot (token : String)
  | session (token : String)
deriving DecidableEq, Repr

namespace Credentials

def ofToken (token : String) (selfbot : Bool) : Credentials :=
  if selfbot then .session token else .bot token

def headerName : Credentials → String
  | .bot _ => "X-Bot-Token"
  | .session _ => "X-Session-Token"

def token : Credentials → String
  | .bot token | .session token => token

def isBot : Credentials → Bool
  | .bot _ => true
  | .session _ => false

def redacted : String := "<redacted>"

def summary (c : Credentials) : String :=
  (if c.isBot then "Bot" else "Session") ++ "(" ++ Text.quote redacted ++ ")"

end Credentials

end ChatClient
