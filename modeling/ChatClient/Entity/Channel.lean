import ChatClient.Entity.Attachment
import ChatClient.Entity.Role
import ChatClient.Wire.Variant
/-!
# Channels

Where messages are written: saved notes, direct messages, groups, and the channels of servers.
-/
namespace ChatClient

inductive ChannelType where
  | textChannel
  | savedMessages
  | directMessage
  | group
  | voiceChannel
  | unknown
deriving DecidableEq, Repr, Inhabited

namespace ChannelType

def name : ChannelType → String
  | .textChannel => "TextChannel"
  | .savedMessages => "SavedMessages"
  | .directMessage => "DirectMessage"
  | .group => "Group"
  | .voiceChannel => "VoiceChannel"
  | .unknown => "Unknown"

def ofName : String → ChannelType
  | "TextChannel" => .textChannel
  | "SavedMessages" => .savedMessages
  | "DirectMessage" => .directMessage
  | "Group" => .group
  | "VoiceChannel" => .voiceChannel
  | _ => .unknown

def isServerChannel : ChannelType → Bool
  | .textChannel | .voiceChannel => true
  | _ => false

instance : Wire ChannelType where
  write t := .string t.name
  read? v := Wire.readName? (fun s => some (ofName s)) v

end ChannelType

structure Channel where
  id : String
  channelType : ChannelType
  name : String
  description : Option String
  icon : Option Attachment
  nsfw : Bool
  active : Bool
  server : Option String
  owner : Option String
  recipients : List String
  permissions : Option UInt64
  rolePermissions : Table PermissionOverride
  defaultPermissions : Option PermissionOverride
  lastMessageId : Option String
deriving DecidableEq, Inhabited

structure ChannelPatch where
  name : Option String
  owner : Option String
  description : Option String
  icon : Option Attachment
  nsfw : Option Bool
  active : Option Bool
  permissions : Option UInt64
  rolePermissions : Option (Table PermissionOverride)
  defaultPermissions : Option PermissionOverride
  lastMessageId : Option String
deriving DecidableEq, Inhabited

inductive ChannelField where
  | description
  | icon
  | defaultPermissions
deriving DecidableEq, Repr

instance : Clearable ChannelField where
  entity := "channel"
  fields := [.description, .icon, .defaultPermissions]
  name
    | .description => "Description"
    | .icon => "Icon"
    | .defaultPermissions => "DefaultPermissions"

def ChannelPatch.record : Record ChannelPatch ChannelPatch :=
  (Record.make ChannelPatch.mk : Record ChannelPatch _)
    |>.optional "name" (·.name)
    |>.optional "owner" (·.owner)
    |>.optional "description" (·.description)
    |>.optional "icon" (·.icon)
    |>.optional "nsfw" (·.nsfw)
    |>.optional "active" (·.active)
    |>.optional "permissions" (·.permissions)
    |>.optional "role_permissions" (·.rolePermissions)
    |>.optional "default_permissions" (·.defaultPermissions)
    |>.optional "last_message_id" (·.lastMessageId)

instance : Wire ChannelPatch := .ofRecord ChannelPatch.record

namespace Channel

def record : Record Channel Channel :=
  (Record.make Channel.mk : Record Channel _)
    |>.optional "_id" (·.id)
    |>.optional "channel_type" (·.channelType)
    |>.optional "name" (·.name)
    |>.optional "description" (·.description)
    |>.optional "icon" (·.icon)
    |>.optional "nsfw" (·.nsfw)
    |>.optional "active" (·.active)
    |>.optional "server" (·.server)
    |>.optional "owner" (·.owner)
    |>.optional "recipients" (·.recipients)
    |>.optional "permissions" (·.permissions)
    |>.optional "role_permissions" (·.rolePermissions)
    |>.optional "default_permissions" (·.defaultPermissions)
    |>.optional "last_message_id" (·.lastMessageId)

instance : Wire Channel := .ofRecord record

def update (c : Channel) (data : ChannelPatch) (clear : List (ClearName ChannelField)) : Channel :=
  { c with
    name := (Change.ofOption data.name).apply c.name
    owner := (Change.ofOptional data.owner false).apply c.owner
    description := (Change.ofOptional data.description (ClearName.clears clear .description)).apply c.description
    icon := (Change.ofOptional data.icon (ClearName.clears clear .icon)).apply c.icon
    nsfw := (Change.ofOption data.nsfw).apply c.nsfw
    active := (Change.ofOption data.active).apply c.active
    permissions := (Change.ofOptional data.permissions false).apply c.permissions
    rolePermissions := (Change.ofOption data.rolePermissions).apply c.rolePermissions
    defaultPermissions :=
      (Change.ofOptional data.defaultPermissions
        (ClearName.clears clear .defaultPermissions)).apply c.defaultPermissions
    lastMessageId := (Change.ofOptional data.lastMessageId false).apply c.lastMessageId }

/-- The channel with a user at the end of its recipients, unless the user is one already. -/
def addRecipient (c : Channel) (userId : String) : Channel :=
  if userId ∈ c.recipients then c else { c with recipients := c.recipients ++ [userId] }

def removeRecipient (c : Channel) (userId : String) : Channel :=
  { c with recipients := c.recipients.filter (· != userId) }

end Channel

end ChatClient
