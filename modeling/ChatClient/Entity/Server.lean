import ChatClient.Entity.Attachment
import ChatClient.Entity.Role
/-!
# Servers

Communities with their channels and roles.  A server lists the channels it shows, in order; `addChannel` keeps that
list free of repetitions.  `setRoleRanks` ranks roles by their place in a list, the last place of a role that is
listed twice.
-/
namespace ChatClient

structure Category where
  id : String
  title : String
  channels : List String
deriving DecidableEq, Repr, Inhabited

def Category.record : Record Category Category :=
  (Record.make Category.mk : Record Category _)
    |>.optional "id" (·.id)
    |>.optional "title" (·.title)
    |>.optional "channels" (·.channels)

instance : Wire Category := .ofRecord Category.record

structure SystemMessages where
  userJoined : Option String
  userLeft : Option String
  userKicked : Option String
  userBanned : Option String
deriving DecidableEq, Repr, Inhabited

def SystemMessages.record : Record SystemMessages SystemMessages :=
  (Record.make SystemMessages.mk : Record SystemMessages _)
    |>.optional "user_joined" (·.userJoined)
    |>.optional "user_left" (·.userLeft)
    |>.optional "user_kicked" (·.userKicked)
    |>.optional "user_banned" (·.userBanned)

instance : Wire SystemMessages := .ofRecord SystemMessages.record

structure Server where
  id : String
  owner : String
  name : String
  description : Option String
  channels : List String
  categories : List Category
  systemMessages : Option SystemMessages
  roles : Table Role
  defaultPermissions : UInt64
  icon : Option Attachment
  banner : Option Attachment
  flags : UInt32
  nsfw : Bool
  analytics : Bool
  discoverable : Bool
deriving DecidableEq, Inhabited

structure ServerPatch where
  owner : Option String
  name : Option String
  description : Option String
  channels : Option (List String)
  categories : Option (List Category)
  systemMessages : Option SystemMessages
  defaultPermissions : Option UInt64
  icon : Option Attachment
  banner : Option Attachment
  flags : Option UInt32
  nsfw : Option Bool
  analytics : Option Bool
  discoverable : Option Bool
deriving DecidableEq, Repr, Inhabited

inductive ServerField where
  | description
  | categories
  | systemMessages
  | icon
  | banner
deriving DecidableEq, Repr

instance : Clearable ServerField where
  entity := "server"
  fields := [.description, .categories, .systemMessages, .icon, .banner]
  name
    | .description => "Description"
    | .categories => "Categories"
    | .systemMessages => "SystemMessages"
    | .icon => "Icon"
    | .banner => "Banner"

def ServerPatch.record : Record ServerPatch ServerPatch :=
  (Record.make ServerPatch.mk : Record ServerPatch _)
    |>.optional "owner" (·.owner)
    |>.optional "name" (·.name)
    |>.optional "description" (·.description)
    |>.optional "channels" (·.channels)
    |>.optional "categories" (·.categories)
    |>.optional "system_messages" (·.systemMessages)
    |>.optional "default_permissions" (·.defaultPermissions)
    |>.optional "icon" (·.icon)
    |>.optional "banner" (·.banner)
    |>.optional "flags" (·.flags)
    |>.optional "nsfw" (·.nsfw)
    |>.optional "analytics" (·.analytics)
    |>.optional "discoverable" (·.discoverable)

instance : Wire ServerPatch := .ofRecord ServerPatch.record

namespace Server

def record : Record Server Server :=
  (Record.make Server.mk : Record Server _)
    |>.optional "_id" (·.id)
    |>.optional "owner" (·.owner)
    |>.optional "name" (·.name)
    |>.optional "description" (·.description)
    |>.optional "channels" (·.channels)
    |>.optional "categories" (·.categories)
    |>.optional "system_messages" (·.systemMessages)
    |>.optional "roles" (·.roles)
    |>.optional "default_permissions" (·.defaultPermissions)
    |>.optional "icon" (·.icon)
    |>.optional "banner" (·.banner)
    |>.optional "flags" (·.flags)
    |>.optional "nsfw" (·.nsfw)
    |>.optional "analytics" (·.analytics)
    |>.optional "discoverable" (·.discoverable)

instance : Wire Server := .ofRecord record

def role? (s : Server) (roleId : String) : Option Role :=
  s.roles[roleId]?

def isOwner (s : Server) (userId : String) : Bool :=
  s.owner == userId

def update (s : Server) (data : ServerPatch) (clear : List (ClearName ServerField)) : Server :=
  { s with
    owner := (Change.ofOption data.owner).apply s.owner
    name := (Change.ofOption data.name).apply s.name
    description := (Change.ofOptional data.description (ClearName.clears clear .description)).apply s.description
    channels := (Change.ofOption data.channels).apply s.channels
    categories := (Change.ofParts data.categories (ClearName.clears clear .categories)).apply s.categories
    systemMessages :=
      (Change.ofOptional data.systemMessages (ClearName.clears clear .systemMessages)).apply s.systemMessages
    defaultPermissions := (Change.ofOption data.defaultPermissions).apply s.defaultPermissions
    icon := (Change.ofOptional data.icon (ClearName.clears clear .icon)).apply s.icon
    banner := (Change.ofOptional data.banner (ClearName.clears clear .banner)).apply s.banner
    flags := (Change.ofOption data.flags).apply s.flags
    nsfw := (Change.ofOption data.nsfw).apply s.nsfw
    analytics := (Change.ofOption data.analytics).apply s.analytics
    discoverable := (Change.ofOption data.discoverable).apply s.discoverable }

/-- Roles after each listed one has been given its place in the list, counted from `next`, as its rank. -/
def rankRoles (roles : Table Role) : Nat → List String → Table Role
  | _, [] => roles
  | next, roleId :: ranks =>
    rankRoles (roles.modify roleId fun r => { r with rank := Int64.ofNat next }) (next + 1) ranks

/-- The server with its roles ranked by their place in a list. -/
def setRoleRanks (s : Server) (ranks : List String) : Server :=
  { s with roles := rankRoles s.roles 0 ranks }

/-- The server with a channel at the end of its list, unless it is listed already. -/
def addChannel (s : Server) (channelId : String) : Server :=
  if channelId ∈ s.channels then s else { s with channels := s.channels ++ [channelId] }

def removeChannel (s : Server) (channelId : String) : Server :=
  { s with channels := s.channels.filter (· != channelId) }

end Server

end ChatClient
