import ChatClient.Entity.Message
/-!
# Requests about messages

What a message to be sent or an edit carries, and what is checked before it goes anywhere: contents are counted in
characters.
-/
namespace ChatClient

structure MessageReply where
  id : String
  mention : Bool
deriving DecidableEq, Repr

structure SendMessage where
  nonce : Option String
  content : String
  replies : List MessageReply
  masquerade : Option Masquerade
deriving DecidableEq, Repr

structure EditMessage where
  content : Option String
deriving DecidableEq, Repr

structure ValidationIssue where
  field : String
  code : String
  message : String
deriving DecidableEq, Repr

namespace Message

def maxLength : Nat := 2000

def maxReplies : Nat := 5

def contentIssues (content : String) : List ValidationIssue :=
  if 1 ≤ content.length ∧ content.length ≤ maxLength then []
  else [⟨"content", "length", "Message must be 1-2000 characters"⟩]

end Message

def MessageReply.record : Record MessageReply MessageReply :=
  (Record.make MessageReply.mk : Record MessageReply _)
    |>.required "id" (·.id)
    |>.required "mention" (·.mention)

instance : Wire MessageReply := .ofRecord MessageReply.record

namespace SendMessage

def record : Record SendMessage SendMessage :=
  (Record.make SendMessage.mk : Record SendMessage _)
    |>.omittable "nonce" (·.nonce) Option.isNone
    |>.required "content" (·.content)
    |>.omittable "replies" (·.replies) List.isEmpty
    |>.omittable "masquerade" (·.masquerade) Option.isNone

instance : Wire SendMessage := .ofRecord record

def issues (m : SendMessage) : List ValidationIssue :=
  Message.contentIssues m.content ++
    if m.replies.length ≤ Message.maxReplies then [] else [⟨"replies", "length", "At most 5 replies"⟩]

/-- The message with a nonce, its own if it has one. -/
def withNonce (m : SendMessage) (nonce : String) : SendMessage :=
  { m with nonce := some (m.nonce.getD nonce) }

end SendMessage

namespace EditMessage

def record : Record EditMessage EditMessage :=
  (Record.make EditMessage.mk : Record EditMessage _)
    |>.omittable "content" (·.content) Option.isNone

instance : Wire EditMessage := .ofRecord record

def issues (e : EditMessage) : List ValidationIssue :=
  match e.content with
  | some content => Message.contentIssues content
  | none => []

end EditMessage

end ChatClient
