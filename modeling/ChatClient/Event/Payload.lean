import ChatClient.Entity.Message
import ChatClient.Entity.Snapshot
/-!
# Payloads of events

What the frames of the simple kinds carry.  Where one shape serves several kinds it has one type: `Deletion` names an
entity, `Participation` a user in a channel or a server.
-/
namespace ChatClient

structure ErrorReport where
  error : String
deriving DecidableEq, Repr

/-- The answer to a ping: the number that came with it. -/
structure Pong where
  data : UInt64
deriving DecidableEq, Repr

structure AppendedContent where
  embeds : List Json
deriving DecidableEq, Repr, Inhabited

structure MessageAppend where
  id : String
  channel : String
  append : AppendedContent
deriving DecidableEq, Repr

structure MessageDelete where
  id : String
  channel : String
deriving DecidableEq, Repr

structure BulkMessageDelete where
  channel : String
  ids : List String
deriving DecidableEq, Repr

structure MessageReaction where
  id : String
  channelId : String
  userId : String
  emojiId : String
deriving DecidableEq, Repr

structure ReactionRemoval where
  id : String
  channelId : String
  emojiId : String
deriving DecidableEq, Repr

structure Deletion where
  id : String
deriving DecidableEq, Repr

structure Participation where
  id : String
  user : String
deriving DecidableEq, Repr

structure ChannelAck where
  id : String
  user : String
  messageId : String
deriving DecidableEq, Repr

structure ServerCreate where
  id : String
  server : Server
  channels : List Channel
  emojis : List Emoji
deriving DecidableEq

structure RoleDelete where
  id : String
  roleId : String
deriving DecidableEq, Repr

structure RoleRanks where
  id : String
  ranks : List String
deriving DecidableEq, Repr

structure UserRelationship where
  id : String
  user : User
  status : Option RelationshipStatus
deriving DecidableEq, Repr

structure UserSettingsUpdate where
  id : String
  update : Json
deriving DecidableEq, Repr

structure UserPlatformWipe where
  userId : String
  flags : UInt32
deriving DecidableEq, Repr

instance : Wire ErrorReport := .ofRecord <|
  (Record.make ErrorReport.mk : Record ErrorReport _)
    |>.required "error" (·.error)

instance : Wire Pong := .ofRecord <|
  (Record.make Pong.mk : Record Pong _)
    |>.required "data" (·.data)

instance : Wire AppendedContent := .ofRecord <|
  (Record.make AppendedContent.mk : Record AppendedContent _)
    |>.optional "embeds" (·.embeds)

instance : Wire MessageAppend := .ofRecord <|
  (Record.make MessageAppend.mk : Record MessageAppend _)
    |>.required "id" (·.id)
    |>.required "channel" (·.channel)
    |>.optional "append" (·.append)

instance : Wire MessageDelete := .ofRecord <|
  (Record.make MessageDelete.mk : Record MessageDelete _)
    |>.required "id" (·.id)
    |>.required "channel" (·.channel)

instance : Wire BulkMessageDelete := .ofRecord <|
  (Record.make BulkMessageDelete.mk : Record BulkMessageDelete _)
    |>.required "channel" (·.channel)
    |>.required "ids" (·.ids)

instance : Wire MessageReaction := .ofRecord <|
  (Record.make MessageReaction.mk : Record MessageReaction _)
    |>.required "id" (·.id)
    |>.required "channel_id" (·.channelId)
    |>.required "user_id" (·.userId)
    |>.required "emoji_id" (·.emojiId)

instance : Wire ReactionRemoval := .ofRecord <|
  (Record.make ReactionRemoval.mk : Record ReactionRemoval _)
    |>.required "id" (·.id)
    |>.required "channel_id" (·.channelId)
    |>.required "emoji_id" (·.emojiId)

instance : Wire Deletion := .ofRecord <|
  (Record.make Deletion.mk : Record Deletion _)
    |>.required "id" (·.id)

instance : Wire Participation := .ofRecord <|
  (Record.make Participation.mk : Record Participation _)
    |>.required "id" (·.id)
    |>.required "user" (·.user)

instance : Wire ChannelAck := .ofRecord <|
  (Record.make ChannelAck.mk : Record ChannelAck _)
    |>.required "id" (·.id)
    |>.required "user" (·.user)
    |>.required "message_id" (·.messageId)

instance : Wire ServerCreate := .ofRecord <|
  (Record.make ServerCreate.mk : Record ServerCreate _)
    |>.required "id" (·.id)
    |>.required "server" (·.server)
    |>.optional "channels" (·.channels)
    |>.optional "emojis" (·.emojis)

instance : Wire RoleDelete := .ofRecord <|
  (Record.make RoleDelete.mk : Record RoleDelete _)
    |>.required "id" (·.id)
    |>.required "role_id" (·.roleId)

instance : Wire RoleRanks := .ofRecord <|
  (Record.make RoleRanks.mk : Record RoleRanks _)
    |>.required "id" (·.id)
    |>.required "ranks" (·.ranks)

instance : Wire UserRelationship := .ofRecord <|
  (Record.make UserRelationship.mk : Record UserRelationship _)
    |>.required "id" (·.id)
    |>.required "user" (·.user)
    |>.optional "status" (·.status)

instance : Wire UserSettingsUpdate := .ofRecord <|
  (Record.make UserSettingsUpdate.mk : Record UserSettingsUpdate _)
    |>.required "id" (·.id)
    |>.optional "update" (·.update)

instance : Wire UserPlatformWipe := .ofRecord <|
  (Record.make UserPlatformWipe.mk : Record UserPlatformWipe _)
    |>.required "user_id" (·.userId)
    |>.optional "flags" (·.flags)

end ChatClient
