import ChatClient.Text.Quoted
import ChatClient.Text.Unexplained
import ChatClient.Time.Duration
/-!
# Errors of requests

Why a request is not made, or does not bring what was asked for.
-/
namespace ChatClient

/-- What is wrong with a URL: it cannot be read, or it names no host. -/
inductive UrlFault where
  | unreadable
  | missingHost
deriving DecidableEq, Repr

def UrlFault.message : UrlFault → String
  | .unreadable => Text.unexplained
  | .missingHost => "missing host"

inductive RequestError where
  | emptyDestination
  | invalidUrl (url : String) (fault : UrlFault)
  | externalUrl (host : String)
  | invalidTimeout (timeout : Duration)
  | headerExists (name : String)
  | invalidHeader (name : String)
  | status (code : Nat) (body : String)
  | transport
  | json
deriving DecidableEq, Repr

namespace RequestError

def name : RequestError → String
  | .emptyDestination => "EmptyDestination"
  | .invalidUrl .. => "InvalidUrl"
  | .externalUrl _ => "ExternalUrl"
  | .invalidTimeout _ => "InvalidTimeout"
  | .headerExists _ => "HeaderExists"
  | .invalidHeader _ => "InvalidHeader"
  | .status .. => "Status"
  | .transport => "Transport"
  | .json => "Json"

def message : RequestError → String
  | .emptyDestination => "Request destination is empty"
  | .invalidUrl url fault => "Invalid URL " ++ Text.quote url ++ ": " ++ fault.message
  | .externalUrl host => "Refusing external URL host " ++ Text.quote host
  | .invalidTimeout timeout => "Timeout " ++ timeout.brief ++ " outside the allowed range of 1s to 300s"
  | .headerExists name => "Header " ++ Text.quote name ++ " already exists"
  | .invalidHeader name => "Invalid header " ++ Text.quote name
  | .status code body => "HTTP " ++ String.ofList (Text.Decimal.ofNat code) ++ ": " ++ body
  | .transport => "Transport error: " ++ Text.unexplained
  | .json => "JSON error: " ++ Text.unexplained

def statusCode? : RequestError → Option Nat
  | .status code _ => some code
  | _ => none

def isNotFound (e : RequestError) : Bool :=
  e.statusCode? == some 404

end RequestError

end ChatClient
