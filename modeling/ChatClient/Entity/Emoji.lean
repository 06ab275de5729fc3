import ChatClient.Wire.Variant
/-!
# Emojis

Pictures made by users, inside a server or on their own.
-/
namespace ChatClient

inductive EmojiParent where
  | detached
  | server (id : String)
deriving DecidableEq, Repr, Inhabited

namespace EmojiParent

def serverRecord : Record String EmojiParent :=
  (Record.make EmojiParent.server : Record String _)
    |>.required "id" id

instance : Wire EmojiParent where
  write
    | .detached => Wire.writeTagged "Detached" []
    | .server id => Wire.writeTagged "Server" (serverRecord.members id)
  read? v := match Wire.readTag? v with
    | some ("Detached", content) => content.bare? .detached
    | some ("Server", content) => content.record? serverRecord
    | _ => none

end EmojiParent

structure Emoji where
  id : String
  parent : EmojiParent
  creatorId : String
  name : String
  animated : Bool
  nsfw : Bool
deriving DecidableEq, Repr, Inhabited

namespace Emoji

def record : Record Emoji Emoji :=
  (Record.make Emoji.mk : Record Emoji _)
    |>.optional "_id" (·.id)
    |>.optional "parent" (·.parent)
    |>.optional "creator_id" (·.creatorId)
    |>.optional "name" (·.name)
    |>.optional "animated" (·.animated)
    |>.optional "nsfw" (·.nsfw)

instance : Wire Emoji := .ofRecord record

def serverId? (e : Emoji) : Option String :=
  match e.parent with
  | .server id => some id
  | .detached => none

end Emoji

end ChatClient
