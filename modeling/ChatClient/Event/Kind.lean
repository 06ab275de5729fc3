/-!
# Kinds of events

The names that the `type` of a frame may have.  `unknown` is the kind of every other frame and no name of its own.
-/
namespace ChatClient

inductive EventKind where
  | error
  | bulk
  | authenticated
  | ready
  | pong
  | message
  | messageUpdate
  | messageAppend
  | messageDelete
  | bulkMessageDelete
  | messageReact
  | messageUnreact
  | messageRemoveReaction
  | channelCreate
  | channelUpdate
  | channelDelete
  | channelGroupJoin
  | channelGroupLeave
  | channelStartTyping
  | channelStopTyping
  | channelAck
  | serverCreate
  | serverUpdate
  | serverDelete
  | serverMemberUpdate
  | serverMemberJoin
  | serverMemberLeave
  | serverRoleUpdate
  | serverRoleDelete
  | serverRoleRanksUpdate
  | userUpdate
  | userRelationship
  | userSettingsUpdate
  | userPlatformWipe
  | emojiCreate
  | emojiDelete
  | webhookCreate
  | webhookUpdate
  | webhookDelete
  | unknown
deriving DecidableEq, Repr, Inhabited, Ord

namespace EventKind

def all : List EventKind :=
  [.error, .bulk, .authenticated, .ready, .pong, .message, .messageUpdate, .messageAppend, .messageDelete,
    .bulkMessageDelete, .messageReact, .messageUnreact, .messageRemoveReaction, .channelCreate, .channelUpdate,
    .channelDelete, .channelGroupJoin, .channelGroupLeave, .channelStartTyping, .channelStopTyping, .channelAck,
    .serverCreate, .serverUpdate, .serverDelete, .serverMemberUpdate, .serverMemberJoin, .serverMemberLeave,
    .serverRoleUpdate, .serverRoleDelete, .serverRoleRanksUpdate, .userUpdate, .userRelationship, .userSettingsUpdate,
    .userPlatformWipe, .emojiCreate, .emojiDelete, .webhookCreate, .webhookUpdate, .webhookDelete]

def name : EventKind → String
  | .error => "Error"
  | .bulk => "Bulk"
  | .authenticated => "Authenticated"
  | .ready => "Ready"
  | .pong => "Pong"
  | .message => "Message"
  | .messageUpdate => "MessageUpdate"
  | .messageAppend => "MessageAppend"
  | .messageDelete => "MessageDelete"
  | .bulkMessageDelete => "BulkMessageDelete"
  | .messageReact => "MessageReact"
  | .messageUnreact => "MessageUnreact"
  | .messageRemoveReaction => "MessageRemoveReaction"
  | .channelCreate => "ChannelCreate"
  | .channelUpdate => "ChannelUpdate"
  | .channelDelete => "ChannelDelete"
  | .channelGroupJoin => "ChannelGroupJoin"
  | .channelGroupLeave => "ChannelGroupLeave"
  | .channelStartTyping => "ChannelStartTyping"
  | .channelStopTyping => "ChannelStopTyping"
  | .channelAck => "ChannelAck"
  | .serverCreate => "ServerCreate"
  | .serverUpdate => "ServerUpdate"
  | .serverDelete => "ServerDelete"
  | .serverMemberUpdate => "ServerMemberUpdate"
  | .serverMemberJoin => "ServerMemberJoin"
  | .serverMemberLeave => "ServerMemberLeave"
  | .serverRoleUpdate => "ServerRoleUpdate"
  | .serverRoleDelete => "ServerRoleDelete"
  | .serverRoleRanksUpdate => "ServerRoleRanksUpdate"
  | .userUpdate => "UserUpdate"
  | .userRelationship => "UserRelationship"
  | .userSettingsUpdate => "UserSettingsUpdate"
  | .userPlatformWipe => "UserPlatformWipe"
  | .emojiCreate => "EmojiCreate"
  | .emojiDelete => "EmojiDelete"
  | .webhookCreate => "WebhookCreate"
  | .webhookUpdate => "WebhookUpdate"
  | .webhookDelete => "WebhookDelete"
  | .unknown => "Unknown"

def ofName? (name : String) : Option EventKind :=
  all.find? fun kind => kind.name == name

def mutatesCache : EventKind → Bool
  | .ready | .channelCreate | .channelUpdate | .channelDelete | .channelGroupJoin | .channelGroupLeave
  | .serverCreate | .serverUpdate | .serverDelete | .serverMemberUpdate | .serverMemberJoin | .serverMemberLeave
  | .serverRoleUpdate | .serverRoleDelete | .serverRoleRanksUpdate | .userUpdate | .userPlatformWipe
  | .emojiCreate | .emojiDelete | .webhookCreate | .webhookUpdate | .webhookDelete => true
  | .error | .bulk | .authenticated | .pong | .message | .messageUpdate | .messageAppend | .messageDelete
  | .bulkMessageDelete | .messageReact | .messageUnreact | .messageRemoveReaction | .channelStartTyping
  | .channelStopTyping | .channelAck | .userRelationship | .userSettingsUpdate | .unknown => false

end EventKind

end ChatClient
