import ChatClient.Event.Basic
/-!
# From frames to events

A frame is a JSON object whose member `type` names the kind of its event; the other members are read as that kind's
payload.  A name that is no kind makes an unknown event, which is reported and kept raw.  Inside a bulk nothing fails:
an item that cannot be read becomes an unknown event too, after the report of what was wrong with it.
-/
namespace ChatClient.Event

def typeName? (v : Json) : Option String :=
  (v.get? "type").bind Json.string?

def payload {α : Type} [Wire α] (kind : EventKind) (v : Json) : Decoding α :=
  Decoding.ofOption (Wire.read? v) (.payload kind)

def rawUpdate (kind : EventKind) (v : Json) : Decoding RawUpdate := do
  let u ← payload kind v
  let (u, reports) := RawUpdate.normalize kind u
  .report reports
  return u

def ofKind (kind : EventKind) (v : Json) : Decoding Event :=
  match kind with
  | .error => .error <$> payload kind v
  | .authenticated => return .authenticated
  | .ready => .ready <$> payload kind v
  | .pong => .pong <$> payload kind v
  | .message => .message <$> payload kind v
  | .messageUpdate => do return .messageUpdate (← Update.ofMessage kind (← rawUpdate kind v))
  | .messageAppend => .messageAppend <$> payload kind v
  | .messageDelete => .messageDelete <$> payload kind v
  | .bulkMessageDelete => .bulkMessageDelete <$> payload kind v
  | .messageReact => .messageReact <$> payload kind v
  | .messageUnreact => .messageUnreact <$> payload kind v
  | .messageRemoveReaction => .messageRemoveReaction <$> payload kind v
  | .channelCreate => .channelCreate <$> payload kind v
  | .channelUpdate => do return .channelUpdate (← Update.ofPlain kind (← rawUpdate kind v))
  | .channelDelete => .channelDelete <$> payload kind v
  | .channelGroupJoin => .channelGroupJoin <$> payload kind v
  | .channelGroupLeave => .channelGroupLeave <$> payload kind v
  | .channelStartTyping => .channelStartTyping <$> payload kind v
  | .channelStopTyping => .channelStopTyping <$> payload kind v
  | .channelAck => .channelAck <$> payload kind v
  | .serverCreate => .serverCreate <$> payload kind v
  | .serverUpdate => do return .serverUpdate (← Update.ofPlain kind (← rawUpdate kind v))
  | .serverDelete => .serverDelete <$> payload kind v
  | .serverMemberUpdate => do return .serverMemberUpdate (← Update.ofMember kind (← rawUpdate kind v))
  | .serverMemberJoin => .serverMemberJoin <$> payload kind v
  | .serverMemberLeave => .serverMemberLeave <$> payload kind v
  | .serverRoleUpdate => do return .serverRoleUpdate (← Update.ofRole kind (← rawUpdate kind v))
  | .serverRoleDelete => .serverRoleDelete <$> payload kind v
  | .serverRoleRanksUpdate => .serverRoleRanksUpdate <$> payload kind v
  | .userUpdate => do return .userUpdate (← Update.ofPlain kind (← rawUpdate kind v))
  | .userRelationship => .userRelationship <$> payload kind v
  | .userSettingsUpdate => .userSettingsUpdate <$> payload kind v
  | .userPlatformWipe => .userPlatformWipe <$> payload kind v
  | .emojiCreate => .emojiCreate <$> payload kind v
  | .emojiDelete => .emojiDelete <$> payload kind v
  | .webhookCreate => .webhookCreate <$> payload kind v
  | .webhookUpdate => do return .webhookUpdate (← Update.ofPlain kind (← rawUpdate kind v))
  | .webhookDelete => .webhookDelete <$> payload kind v
  | .bulk | .unknown => .fail (.payload kind)

/-- An item of a bulk: its event, or the item itself as an unknown event after the report of its fault. -/
def itemOf (v : Json) (d : Decoding Event) : Decoding Event :=
  match d.result with
  | .ok e => ⟨d.reports, .ok e⟩
  | .error err => ⟨d.reports ++ [err.diagnostic], .ok (.unknown ((typeName? v).getD "") v)⟩

mutual
def classify : Json → Decoding Event
  | .object members =>
    match typeName? (.object members) with
    | none => .fail .missingType
    | some name =>
      match EventKind.ofName? name with
      | none => ⟨[.unknownEvent name], .ok (.unknown name (.object members))⟩
      | some .bulk =>
        match classifyBulk members with
        | some d => .bulk <$> d
        | none => .fail (.missingField .bulk "v")
      | some kind => ofKind kind (.object members)
  | _ => .fail .missingType

/-- The events of a bulk with these members; its items stand in the member `v`. -/
def classifyBulk : List (String × Json) → Option (Decoding (List Event))
  | [] => none
  | (key, v) :: members =>
    if key = "v" then
      match v with
      | .array items => some (classifyItems items)
      | _ => none
    else classifyBulk members

def classifyItems : List Json → Decoding (List Event)
  | [] => return []
  | v :: items => do
    let e ← itemOf v (classify v)
    let es ← classifyItems items
    return e :: es
end

def ofBytes (frame : List UInt8) : Decoding Event := do
  classify (← Decoding.ofOption (Json.ofBytes? frame) .json)

end ChatClient.Event
