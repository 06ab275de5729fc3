import ChatClient.Entity.Attachment
import ChatClient.Time.Timestamp
import ChatClient.Update.Change
import ChatClient.Update.ClearName
import ChatClient.Entity.Member
/-!
# Messages

Messages and their reactions.  Reactions are kept by emoji, the users of one emoji in the order in which they reacted;
an emoji whose last user takes the reaction back is no longer kept.
-/
namespace ChatClient

/-- The face under which a message is shown instead of its author's. -/
structure Masquerade where
  name : Option String
  avatar : Option String
  colour : Option String
deriving DecidableEq, Repr, Inhabited

def Masquerade.record : Record Masquerade Masquerade :=
  (Record.make Masquerade.mk : Record Masquerade _)
    |>.optional "name" (·.name)
    |>.optional "avatar" (·.avatar)
    |>.optional "colour" (·.colour)

instance : Wire Masquerade := .ofRecord Masquerade.record

structure Message where
  id : String
  nonce : Option String
  channel : String
  author : String
  content : Option String
  attachments : List Attachment
  edited : Option Timestamp
  embeds : List Json
  mentions : List String
  replies : List String
  reactions : Table (List String)
  pinned : Bool
  flags : UInt32
  masquerade : Option Masquerade
deriving DecidableEq, Inhabited

structure MessagePatch where
  content : Option String
  edited : Option Timestamp
  embeds : Option (List Json)
  pinned : Option Bool
  reactions : Option (Table (List String))
deriving DecidableEq, Inhabited

inductive MessageField where
  | pinned
deriving DecidableEq, Repr

instance : Clearable MessageField where
  entity := "message"
  fields := [.pinned]
  name
    | .pinned => "Pinned"

def MessagePatch.record : Record MessagePatch MessagePatch :=
  (Record.make MessagePatch.mk : Record MessagePatch _)
    |>.optional "content" (·.content)
    |>.optional "edited" (·.edited)
    |>.optional "embeds" (·.embeds)
    |>.optional "pinned" (·.pinned)
    |>.optional "reactions" (·.reactions)

instance : Wire MessagePatch := .ofRecord MessagePatch.record

namespace Message

def record : Record Message Message :=
  (Record.make Message.mk : Record Message _)
    |>.optional "_id" (·.id)
    |>.optional "nonce" (·.nonce)
    |>.optional "channel" (·.channel)
    |>.optional "author" (·.author)
    |>.optional "content" (·.content)
    |>.optional "attachments" (·.attachments)
    |>.optional "edited" (·.edited)
    |>.optional "embeds" (·.embeds)
    |>.optional "mentions" (·.mentions)
    |>.optional "replies" (·.replies)
    |>.optional "reactions" (·.reactions)
    |>.optional "pinned" (·.pinned)
    |>.optional "flags" (·.flags)
    |>.optional "masquerade" (·.masquerade)

instance : Wire Message := .ofRecord record

def update (m : Message) (data : MessagePatch) (clear : List (ClearName MessageField)) : Message :=
  { m with
    content := (Change.ofOptional data.content false).apply m.content
    edited := (Change.ofOptional data.edited false).apply m.edited
    embeds := (Change.ofOption data.embeds).apply m.embeds
    pinned := (Change.ofParts data.pinned (ClearName.clears clear .pinned)).apply m.pinned
    reactions := (Change.ofOption data.reactions).apply m.reactions }

/-- The message with a user's reaction; a user reacts with an emoji at most once. -/
def addReaction (m : Message) (emojiId userId : String) : Message :=
  let users := m.reactions.getD emojiId []
  { m with reactions := m.reactions.insert emojiId (if userId ∈ users then users else users ++ [userId]) }

/-- The message without a user's reaction, or without all reactions with an emoji. -/
def removeReaction (m : Message) (emojiId : String) : Option String → Message
  | some userId =>
    match m.reactions[emojiId]? with
    | none => m
    | some users =>
      match users.filter (· != userId) with
      | [] => { m with reactions := m.reactions.erase emojiId }
      | users => { m with reactions := m.reactions.insert emojiId users }
  | none => { m with reactions := m.reactions.erase emojiId }

end Message

end ChatClient
