import ChatClient.Config.Environment
import ChatClient.Gateway.Step
import ChatClient.Rest.Call
/-!
# The client

One account's connection to the service: the transport of its requests and its gateway, which keeps the cache.
-/
namespace ChatClient

inductive ClientError where
  | config (error : ConfigError)
  | request (error : RequestError)
  | gateway (error : GatewayError)
  | validation (issues : List ValidationIssue)
deriving DecidableEq, Repr

namespace ClientError

def ofRest : RestError → ClientError
  | .request e => .request e
  | .validation issues => .validation issues

def statusCode? : ClientError → Option Nat
  | .request e => e.statusCode?
  | _ => none

def isNotFound (e : ClientError) : Bool :=
  e.statusCode? == some 404

end ClientError

structure Client (ρ : Type) where
  http : HttpClient
  gateway : Gateway ρ

namespace Client

variable {ρ : Type}

def ofConfig (config : ClientConfig) (registry : Registry ρ) (now : Instant) : Except ClientError (Client ρ) :=
  match HttpClient.ofConfig config.credentials config.http now with
  | .ok http => .ok ⟨http, .ofConfig config.token config.gateway (.ofCache (.empty config.tracking) registry)⟩
  | .error e => .error (.request e)

def ofEnvironment (env : Environment) (now : Instant) : Except ClientError (Client ρ) :=
  match ClientConfig.ofEnvironment env with
  | .ok config => ofConfig config .empty now
  | .error e => .error (.config e)

def close (c : Client ρ) : Client ρ :=
  ⟨c.http.close, c.gateway.close.1⟩

def summary (c : Client ρ) : String :=
  "Client \x7b http: " ++ c.http.summary ++ ", gateway: " ++ c.gateway.summary ++ " \x7d"

end Client

end ChatClient
