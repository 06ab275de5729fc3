import ChatClient.Http.Exchange
import ChatClient.Rest.Endpoint
import ChatClient.Rest.Message
/-!
# Calls

The calls to the API with typed results.  A call whose request is wrong in itself goes nowhere: nothing is sent and no
bucket is touched.
-/
namespace ChatClient

inductive RestCall where
  | fetchSelf
  | fetchUser (userId : String)
  | fetchServer (serverId : String)
  | fetchChannel (channelId : String)
  | fetchMember (serverId userId : String)
  | sendMessage (channelId : String) (message : SendMessage)
  | editMessage (channelId messageId : String) (edit : EditMessage)
  | deleteMessage (channelId messageId : String)

inductive RestValue where
  | user (user : User)
  | server (server : Server)
  | channel (channel : Channel)
  | member (member : Member)
  | message (message : Message)
  | nothing

def RestValue.toJson : RestValue → Json
  | .user a => Wire.write a
  | .server a => Wire.write a
  | .channel a => Wire.write a
  | .member a => Wire.write a
  | .message a => Wire.write a
  | .nothing => .null

inductive RestError where
  | request (error : RequestError)
  | validation (issues : List ValidationIssue)
deriving DecidableEq, Repr

/-- A call with the exchange that it led to, if it led to one. -/
structure RestOutcome where
  exchange : Option Exchange
  result : Except RestError RestValue

namespace RestCall

def method : RestCall → String
  | .fetchSelf | .fetchUser _ | .fetchServer _ | .fetchChannel _ | .fetchMember .. => "GET"
  | .sendMessage .. => "POST"
  | .editMessage .. => "PATCH"
  | .deleteMessage .. => "DELETE"

def endpoint : RestCall → Endpoint
  | .fetchSelf => .self
  | .fetchUser userId => .user userId
  | .fetchServer serverId => .server serverId
  | .fetchChannel channelId => .channel channelId
  | .fetchMember serverId userId => .serverMember serverId userId
  | .sendMessage channelId _ => .channelMessages channelId
  | .editMessage channelId messageId _ => .channelMessage channelId messageId
  | .deleteMessage channelId messageId => .channelMessage channelId messageId

def issues : RestCall → List ValidationIssue
  | .sendMessage _ message => message.issues
  | .editMessage _ _ edit => edit.issues
  | _ => []

/-- The body of a call's request; a message without a nonce is sent with the given one. -/
def body? (nonce : String) : RestCall → Option Json
  | .sendMessage _ message => some (Wire.write (message.withNonce nonce))
  | .editMessage _ _ edit => some (Wire.write edit)
  | _ => none

def readBody {α : Type} [Wire α] (make : α → RestValue) (bytes : List UInt8) : Except RequestError RestValue :=
  match (Wire.ofBytes? bytes : Option α) with
  | some a => .ok (make a)
  | none => .error .json

def value (bytes : List UInt8) : RestCall → Except RequestError RestValue
  | .fetchSelf | .fetchUser _ => readBody .user bytes
  | .fetchServer _ => readBody .server bytes
  | .fetchChannel _ => readBody .channel bytes
  | .fetchMember .. => readBody .member bytes
  | .sendMessage .. | .editMessage .. => readBody .message bytes
  | .deleteMessage .. => .ok .nothing

def result (call : RestCall) : Except RequestError (List UInt8) → Except RestError RestValue
  | .error e => .error (.request e)
  | .ok bytes =>
    match call.value bytes with
    | .ok v => .ok v
    | .error e => .error (.request e)

def run (call : RestCall) (c : HttpClient) (network : Network) (now : Instant) (nonce : String) : RestOutcome :=
  match call.issues with
  | [] =>
    let x := c.execute network now call.method call.endpoint.path (call.body? nonce)
    ⟨some x, call.result x.result⟩
  | issues => ⟨none, .error (.validation issues)⟩

end RestCall

end ChatClient
