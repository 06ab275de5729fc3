import ChatClient.Entity.Channel
import ChatClient.Entity.Emoji
import ChatClient.Entity.Member
import ChatClient.Entity.Server
import ChatClient.Entity.User
/-!
# Snapshots

All that a session starts with.
-/
namespace ChatClient

/-- What the current user can see when a session starts; the current user is the last of the users. -/
structure Snapshot where
  users : List User
  servers : List Server
  channels : List Channel
  members : List Member
  emojis : List Emoji
deriving DecidableEq, Inhabited

namespace Snapshot

def currentUser? (s : Snapshot) : Option User :=
  s.users.getLast?

def record : Record Snapshot Snapshot :=
  (Record.make Snapshot.mk : Record Snapshot _)
    |>.optional "users" (·.users)
    |>.optional "servers" (·.servers)
    |>.optional "channels" (·.channels)
    |>.optional "members" (·.members)
    |>.optional "emojis" (·.emojis)

instance : Wire Snapshot := .ofRecord record

end Snapshot

end ChatClient
