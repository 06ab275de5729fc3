import ChatClient.Entity.Attachment
import ChatClient.Update.Change
import ChatClient.Update.ClearName
/-!
# Webhooks

Addresses through which other programs write into a channel.  A webhook's identity comes under either of two names.
-/
namespace ChatClient

structure Webhook where
  id : String
  name : String
  avatar : Option Attachment
  creatorId : String
  channelId : String
  permissions : UInt64
  token : Option String
deriving DecidableEq, Repr, Inhabited

structure WebhookPatch where
  name : Option String
  avatar : Option Attachment
  creatorId : Option String
  channelId : Option String
  permissions : Option UInt64
  token : Option String
deriving DecidableEq, Repr, Inhabited

inductive WebhookField where
  | avatar
deriving DecidableEq, Repr

instance : Clearable WebhookField where
  entity := "webhook"
  fields := [.avatar]
  name
    | .avatar => "Avatar"

def WebhookPatch.record : Record WebhookPatch WebhookPatch :=
  (Record.make WebhookPatch.mk : Record WebhookPatch _)
    |>.optional "name" (·.name)
    |>.optional "avatar" (·.avatar)
    |>.optional "creator_id" (·.creatorId)
    |>.optional "channel_id" (·.channelId)
    |>.optional "permissions" (·.permissions)
    |>.optional "token" (·.token)

instance : Wire WebhookPatch := .ofRecord WebhookPatch.record

namespace Webhook

def record : Record Webhook Webhook :=
  (Record.make Webhook.mk : Record Webhook _)
    |>.field { name := "_id", others := ["id"], get := fun w => w.id, absent := some default } inferInstance
    |>.optional "name" (·.name)
    |>.optional "avatar" (·.avatar)
    |>.optional "creator_id" (·.creatorId)
    |>.optional "channel_id" (·.channelId)
    |>.optional "permissions" (·.permissions)
    |>.optional "token" (·.token)

instance : Wire Webhook := .ofRecord record

def update (w : Webhook) (data : WebhookPatch) (clear : List (ClearName WebhookField)) : Webhook :=
  { w with
    name := (Change.ofOption data.name).apply w.name
    avatar := (Change.ofOptional data.avatar (ClearName.clears clear .avatar)).apply w.avatar
    creatorId := (Change.ofOption data.creatorId).apply w.creatorId
    channelId := (Change.ofOption data.channelId).apply w.channelId
    permissions := (Change.ofOption data.permissions).apply w.permissions
    token := (Change.ofOptional data.token false).apply w.token }

end Webhook

end ChatClient
