import ChatClient.Entity.Snapshot
import ChatClient.Entity.Webhook
/-!
# The cache

The entities that the client knows, each under its identity, and the current user.  Which kinds of entities are kept is
settled when a cache is made; a kind that is not tracked has an empty table, while the current user is always known.
-/
namespace ChatClient

structure Tracking where
  users : Bool
  servers : Bool
  channels : Bool
  members : Bool
  emojis : Bool
  webhooks : Bool
deriving DecidableEq, Repr

namespace Tracking

/-- All kinds but webhooks, of which few clients hear. -/
def standard : Tracking :=
  ⟨true, true, true, true, true, false⟩

def all : Tracking :=
  ⟨true, true, true, true, true, true⟩

instance : Inhabited Tracking := ⟨standard⟩

def toList (t : Tracking) : List Bool :=
  [t.users, t.servers, t.channels, t.members, t.emojis, t.webhooks]

end Tracking

abbrev MemberTable : Type :=
  Std.ExtTreeMap MemberId Member compare

structure Cache where
  tracking : Tracking
  currentUser : Option User
  users : Table User
  servers : Table Server
  channels : Table Channel
  members : MemberTable
  emojis : Table Emoji
  webhooks : Table Webhook
deriving DecidableEq

structure CacheStats where
  users : Nat
  servers : Nat
  channels : Nat
  members : Nat
  emojis : Nat
  webhooks : Nat
deriving DecidableEq, Repr

def CacheStats.toList (s : CacheStats) : List Nat :=
  [s.users, s.servers, s.channels, s.members, s.emojis, s.webhooks]

namespace Cache

def empty (tracking : Tracking) : Cache where
  tracking
  currentUser := none
  users := ∅
  servers := ∅
  channels := ∅
  members := ∅
  emojis := ∅
  webhooks := ∅

instance : Inhabited Cache := ⟨empty .standard⟩

def user? (c : Cache) (id : String) : Option User :=
  c.users[id]?

def server? (c : Cache) (id : String) : Option Server :=
  c.servers[id]?

def channel? (c : Cache) (id : String) : Option Channel :=
  c.channels[id]?

def member? (c : Cache) (serverId userId : String) : Option Member :=
  c.members[(⟨serverId, userId⟩ : MemberId)]?

def emoji? (c : Cache) (id : String) : Option Emoji :=
  c.emojis[id]?

def webhook? (c : Cache) (id : String) : Option Webhook :=
  c.webhooks[id]?

def role? (c : Cache) (serverId roleId : String) : Option Role :=
  (c.server? serverId).bind fun s => s.role? roleId

/-- The known members of a server, in the order of their identities. -/
def membersOf (c : Cache) (serverId : String) : List Member :=
  c.members.toList.map Prod.snd |>.filter fun m => m.id.server == serverId

/-- The channels of a server in the order in which it lists them, without those that are not known. -/
def serverChannels (c : Cache) (serverId : String) : List Channel :=
  match c.server? serverId with
  | some s => s.channels.filterMap fun id => c.channel? id
  | none => []

def stats (c : Cache) : CacheStats :=
  ⟨c.users.size, c.servers.size, c.channels.size, c.members.size, c.emojis.size, c.webhooks.size⟩

def isCurrentUser (c : Cache) (userId : String) : Bool :=
  c.currentUser.any fun u => u.id == userId

end Cache

end ChatClient
