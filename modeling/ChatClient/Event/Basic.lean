import ChatClient.Event.Payload
import ChatClient.Event.Update
/-!
# Events

What a gateway tells its client.  A bulk holds events in order, bulks among them; `leaves` are the events that remain
when all bulks are opened.
-/
namespace ChatClient

inductive Event where
  | error (report : ErrorReport)
  | bulk (events : List Event)
  | authenticated
  | ready (snapshot : Snapshot)
  | pong (pong : Pong)
  | message (message : Message)
  | messageUpdate (update : MessageUpdate)
  | messageAppend (append : MessageAppend)
  | messageDelete (deletion : MessageDelete)
  | bulkMessageDelete (deletion : BulkMessageDelete)
  | messageReact (reaction : MessageReaction)
  | messageUnreact (reaction : MessageReaction)
  | messageRemoveReaction (removal : ReactionRemoval)
  | channelCreate (channel : Channel)
  | channelUpdate (update : ChannelUpdate)
  | channelDelete (deletion : Deletion)
  | channelGroupJoin (who : Participation)
  | channelGroupLeave (who : Participation)
  | channelStartTyping (who : Participation)
  | channelStopTyping (who : Participation)
  | channelAck (ack : ChannelAck)
  | serverCreate (creation : ServerCreate)
  | serverUpdate (update : ServerUpdate)
  | serverDelete (deletion : Deletion)
  | serverMemberUpdate (update : MemberUpdate)
  | serverMemberJoin (who : Participation)
  | serverMemberLeave (who : Participation)
  | serverRoleUpdate (update : RoleUpdate)
  | serverRoleDelete (deletion : RoleDelete)
  | serverRoleRanksUpdate (ranks : RoleRanks)
  | userUpdate (update : UserUpdate)
  | userRelationship (relationship : UserRelationship)
  | userSettingsUpdate (settings : UserSettingsUpdate)
  | userPlatformWipe (wipe : UserPlatformWipe)
  | emojiCreate (emoji : Emoji)
  | emojiDelete (deletion : Deletion)
  | webhookCreate (webhook : Webhook)
  | webhookUpdate (update : WebhookUpdate)
  | webhookDelete (deletion : Deletion)
  | unknown (typeName : String) (raw : Json)

namespace Event

def kind : Event → EventKind
  | .error _ => .error
  | .bulk _ => .bulk
  | .authenticated => .authenticated
  | .ready _ => .ready
  | .pong _ => .pong
  | .message _ => .message
  | .messageUpdate _ => .messageUpdate
  | .messageAppend _ => .messageAppend
  | .messageDelete _ => .messageDelete
  | .bulkMessageDelete _ => .bulkMessageDelete
  | .messageReact _ => .messageReact
  | .messageUnreact _ => .messageUnreact
  | .messageRemoveReaction _ => .messageRemoveReaction
  | .channelCreate _ => .channelCreate
  | .channelUpdate _ => .channelUpdate
  | .channelDelete _ => .channelDelete
  | .channelGroupJoin _ => .channelGroupJoin
  | .channelGroupLeave _ => .channelGroupLeave
  | .channelStartTyping _ => .channelStartTyping
  | .channelStopTyping _ => .channelStopTyping
  | .channelAck _ => .channelAck
  | .serverCreate _ => .serverCreate
  | .serverUpdate _ => .serverUpdate
  | .serverDelete _ => .serverDelete
  | .serverMemberUpdate _ => .serverMemberUpdate
  | .serverMemberJoin _ => .serverMemberJoin
  | .serverMemberLeave _ => .serverMemberLeave
  | .serverRoleUpdate _ => .serverRoleUpdate
  | .serverRoleDelete _ => .serverRoleDelete
  | .serverRoleRanksUpdate _ => .serverRoleRanksUpdate
  | .userUpdate _ => .userUpdate
  | .userRelationship _ => .userRelationship
  | .userSettingsUpdate _ => .userSettingsUpdate
  | .userPlatformWipe _ => .userPlatformWipe
  | .emojiCreate _ => .emojiCreate
  | .emojiDelete _ => .emojiDelete
  | .webhookCreate _ => .webhookCreate
  | .webhookUpdate _ => .webhookUpdate
  | .webhookDelete _ => .webhookDelete
  | .unknown .. => .unknown

def typeName : Event → String
  | .unknown typeName _ => typeName
  | e => e.kind.name

def isUnknown : Event → Bool
  | .unknown .. => true
  | _ => false

mutual
/-- The events that are no bulks, from left to right. -/
def leaves : Event → List Event
  | .bulk events => leavesOf events
  | e => [e]

def leavesOf : List Event → List Event
  | [] => []
  | e :: es => leaves e ++ leavesOf es
end

end Event

end ChatClient
