import ChatClient.Json.Printer
import ChatClient.Wire.Variant
/-!
# Messages to the gateway

What a client sends over its connection.  A message is written with its tag in front of its one field.
-/
namespace ChatClient

inductive ClientMessage where
  | authenticate (token : String)
  | ping (data : UInt64)
  | beginTyping (channel : String)
  | endTyping (channel : String)
deriving DecidableEq, Repr

namespace ClientMessage

def kind : ClientMessage → String
  | .authenticate _ => "Authenticate"
  | .ping _ => "Ping"
  | .beginTyping _ => "BeginTyping"
  | .endTyping _ => "EndTyping"

def authenticateRecord : Record String ClientMessage :=
  (Record.make ClientMessage.authenticate : Record String _)
    |>.required "token" id

def pingRecord : Record UInt64 ClientMessage :=
  (Record.make ClientMessage.ping : Record UInt64 _)
    |>.required "data" id

def beginTypingRecord : Record String ClientMessage :=
  (Record.make ClientMessage.beginTyping : Record String _)
    |>.required "channel" id

def endTypingRecord : Record String ClientMessage :=
  (Record.make ClientMessage.endTyping : Record String _)
    |>.required "channel" id

def members : ClientMessage → List (String × Json)
  | .authenticate token => authenticateRecord.members token
  | .ping data => pingRecord.members data
  | .beginTyping channel => beginTypingRecord.members channel
  | .endTyping channel => endTypingRecord.members channel

instance : Wire ClientMessage where
  write m := Wire.writeTagged m.kind m.members
  read? v := match Wire.readTag? v with
    | some ("Authenticate", content) => content.record? authenticateRecord
    | some ("Ping", content) => content.record? pingRecord
    | some ("BeginTyping", content) => content.record? beginTypingRecord
    | some ("EndTyping", content) => content.record? endTypingRecord
    | _ => none

def text (m : ClientMessage) : String :=
  (Wire.write m).text

end ClientMessage

end ChatClient
