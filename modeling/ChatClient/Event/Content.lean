import ChatClient.Event.Basic
/-!
# What events carry

The content of an event as JSON.  An update shows its target, all of its new values, with null for those that it leaves
alone, and the names of what it clears.
-/
namespace ChatClient

def Update.toJson {ι π φ : Type} [Wire π] [Clearable φ] (u : Update ι π φ)
    (target : List (String × Json)) : Json :=
  .object (target ++ [("data", Wire.write u.data), ("clear", .array (u.clear.map fun f => .string f.name))])

namespace Event

/-- The content of an event; a bulk has none of its own. -/
def content : Event → Json
  | .bulk _ | .authenticated => .null
  | .unknown _ raw => raw
  | .error p => Wire.write p
  | .ready p => Wire.write p
  | .pong p => Wire.write p
  | .message p => Wire.write p
  | .messageUpdate u => u.toJson [("id", .string u.id.id), ("channel", .string u.id.channel)]
  | .messageAppend p => Wire.write p
  | .messageDelete p => Wire.write p
  | .bulkMessageDelete p => Wire.write p
  | .messageReact p => Wire.write p
  | .messageUnreact p => Wire.write p
  | .messageRemoveReaction p => Wire.write p
  | .channelCreate p => Wire.write p
  | .channelUpdate u => u.toJson [("id", .string u.id)]
  | .channelDelete p => Wire.write p
  | .channelGroupJoin p => Wire.write p
  | .channelGroupLeave p => Wire.write p
  | .channelStartTyping p => Wire.write p
  | .channelStopTyping p => Wire.write p
  | .channelAck p => Wire.write p
  | .serverCreate p => Wire.write p
  | .serverUpdate u => u.toJson [("id", .string u.id)]
  | .serverDelete p => Wire.write p
  | .serverMemberUpdate u => u.toJson [("id", Wire.write u.id)]
  | .serverMemberJoin p => Wire.write p
  | .serverMemberLeave p => Wire.write p
  | .serverRoleUpdate u => u.toJson [("id", .string u.id.server), ("role_id", .string u.id.role)]
  | .serverRoleDelete p => Wire.write p
  | .serverRoleRanksUpdate p => Wire.write p
  | .userUpdate u => u.toJson [("id", .string u.id)]
  | .userRelationship p => Wire.write p
  | .userSettingsUpdate p => Wire.write p
  | .userPlatformWipe p => Wire.write p
  | .emojiCreate p => Wire.write p
  | .emojiDelete p => Wire.write p
  | .webhookCreate p => Wire.write p
  | .webhookUpdate u => u.toJson [("id", .string u.id)]
  | .webhookDelete p => Wire.write p

end Event

end ChatClient
