import ChatClient.Proofs.Event.Bulk
import ChatClient.Proofs.Event.Update
/-!
# Members that are skipped

A record is read from the members that name its fields, and from nothing else of its object (`Record.readsOnly`).  So
each kind of event has a list of names, those of its payload, outside of which nothing in its frame matters: frames
that agree on them and on their type come to the same event or fault, with the same reports (`Event.skips_others`).
-/
namespace ChatClient

/-! ## Records -/

class Wire.ReadsOnly (α : Type) [Wire α] (names : outParam (List String)) : Prop where
  read?_only (v : Json) : (read? (v.only names) : Option α) = read? v

namespace Record

variable {σ β : Type} {names : List String} (members : List (String × Json))

theorem ofMembers?_only (r : Record σ β) (h : r.names ⊆ names) :
    r.ofMembers? (members.filter (names.contains ·.1)) = r.ofMembers? members := by
  induction r with
  | make b => rfl
  | field r f w ih =>
    obtain ⟨hrest, hfield⟩ := List.append_subset.1 h
    have hown : f.ofMembers? (members.filter (names.contains ·.1)) = f.ofMembers? members := by
      unfold Field.ofMembers?
      rw [Json.filter_only (p := f.named) fun key hkey => hfield ((f.named_iff key).1 hkey)]
    rw [ofMembers?, ofMembers?, ih hrest, hown]

/-- **A record is read from its fields**, by whatever names it has for them; an array has no members to skip. -/
theorem readsOnly {r : Record σ σ} (h : r.names = names) : @Wire.ReadsOnly σ (.ofRecord r) names :=
  @Wire.ReadsOnly.mk σ (.ofRecord r) names fun v => by
    cases v with
    | object members => exact r.ofMembers?_only members (h ▸ List.Subset.refl _)
    | _ => rfl

end Record

/-! ## Payloads -/

instance : Wire.ReadsOnly ErrorReport ["error"] := Record.readsOnly rfl

instance : Wire.ReadsOnly Pong ["data"] := Record.readsOnly rfl

instance : Wire.ReadsOnly Snapshot ["users", "servers", "channels", "members", "emojis"] := Record.readsOnly rfl

instance : Wire.ReadsOnly Message
    ["_id", "nonce", "channel", "author", "content", "attachments", "edited", "embeds", "mentions",
      "replies", "reactions", "pinned", "flags", "masquerade"] :=
  Record.readsOnly rfl

instance : Wire.ReadsOnly MessageAppend ["id", "channel", "append"] := Record.readsOnly rfl

instance : Wire.ReadsOnly MessageDelete ["id", "channel"] := Record.readsOnly rfl

instance : Wire.ReadsOnly BulkMessageDelete ["channel", "ids"] := Record.readsOnly rfl

instance : Wire.ReadsOnly MessageReaction ["id", "channel_id", "user_id", "emoji_id"] := Record.readsOnly rfl

instance : Wire.ReadsOnly ReactionRemoval ["id", "channel_id", "emoji_id"] := Record.readsOnly rfl

instance : Wire.ReadsOnly Channel
    ["_id", "channel_type", "name", "description", "icon", "nsfw", "active", "server", "owner",
      "recipients", "permissions", "role_permissions", "default_permissions", "last_message_id"] :=
  Record.readsOnly rfl

instance : Wire.ReadsOnly Deletion ["id"] := Record.readsOnly rfl

instance : Wire.ReadsOnly Participation ["id", "user"] := Record.readsOnly rfl

instance : Wire.ReadsOnly ChannelAck ["id", "user", "message_id"] := Record.readsOnly rfl

instance : Wire.ReadsOnly ServerCreate ["id", "server", "channels", "emojis"] := Record.readsOnly rfl

instance : Wire.ReadsOnly RoleDelete ["id", "role_id"] := Record.readsOnly rfl

instance : Wire.ReadsOnly RoleRanks ["id", "ranks"] := Record.readsOnly rfl

instance : Wire.ReadsOnly UserRelationship ["id", "user", "status"] := Record.readsOnly rfl

instance : Wire.ReadsOnly UserSettingsUpdate ["id", "update"] := Record.readsOnly rfl

instance : Wire.ReadsOnly UserPlatformWipe ["user_id", "flags"] := Record.readsOnly rfl

instance : Wire.ReadsOnly Emoji ["_id", "parent", "creator_id", "name", "animated", "nsfw"] := Record.readsOnly rfl

/-- A webhook names itself under either of two names. -/
instance : Wire.ReadsOnly Webhook ["_id", "id", "name", "avatar", "creator_id", "channel_id", "permissions", "token"] :=
  Record.readsOnly rfl

instance : Wire.ReadsOnly RawUpdate ["id", "role_id", "channel", "data", "clear", "remove"] := Record.readsOnly rfl

def EventKind.payloadNames : EventKind → List String
  | .error => ["error"]
  | .bulk => ["v"]
  | .pong => ["data"]
  | .ready => ["users", "servers", "channels", "members", "emojis"]
  | .message =>
    ["_id", "nonce", "channel", "author", "content", "attachments", "edited", "embeds", "mentions",
      "replies", "reactions", "pinned", "flags", "masquerade"]
  | .messageAppend => ["id", "channel", "append"]
  | .messageDelete => ["id", "channel"]
  | .bulkMessageDelete => ["channel", "ids"]
  | .messageReact | .messageUnreact => ["id", "channel_id", "user_id", "emoji_id"]
  | .messageRemoveReaction => ["id", "channel_id", "emoji_id"]
  | .channelCreate =>
    ["_id", "channel_type", "name", "description", "icon", "nsfw", "active", "server", "owner",
      "recipients", "permissions", "role_permissions", "default_permissions", "last_message_id"]
  | .channelDelete | .serverDelete | .emojiDelete | .webhookDelete => ["id"]
  | .channelGroupJoin | .channelGroupLeave | .channelStartTyping | .channelStopTyping | .serverMemberJoin
  | .serverMemberLeave => ["id", "user"]
  | .channelAck => ["id", "user", "message_id"]
  | .serverCreate => ["id", "server", "channels", "emojis"]
  | .serverRoleDelete => ["id", "role_id"]
  | .serverRoleRanksUpdate => ["id", "ranks"]
  | .userRelationship => ["id", "user", "status"]
  | .userSettingsUpdate => ["id", "update"]
  | .userPlatformWipe => ["user_id", "flags"]
  | .emojiCreate => ["_id", "parent", "creator_id", "name", "animated", "nsfw"]
  | .webhookCreate => ["_id", "id", "name", "avatar", "creator_id", "channel_id", "permissions", "token"]
  | .messageUpdate | .channelUpdate | .serverUpdate | .serverMemberUpdate | .serverRoleUpdate | .userUpdate
  | .webhookUpdate => ["id", "role_id", "channel", "data", "clear", "remove"]
  | .authenticated | .unknown => []

/-! ## Frames -/

namespace Event

theorem payload_only {α : Type} [Wire α] {names names' : List String} [Wire.ReadsOnly α names]
    (kind : EventKind) (v : Json)
    (h : names ⊆ names') : (payload kind (v.only names') : Decoding α) = payload kind v := by
  unfold payload
  rw [← Wire.ReadsOnly.read?_only (v.only names'), Json.only_only v h, Wire.ReadsOnly.read?_only]

theorem rawUpdate_only {names : List String} (kind : EventKind) (v : Json)
    (h : ["id", "role_id", "channel", "data", "clear", "remove"] ⊆ names) :
    rawUpdate kind (v.only names) = rawUpdate kind v := by
  unfold rawUpdate
  rw [payload_only kind v h]

theorem ofKind_only (kind : EventKind) (v : Json) :
    ofKind kind (v.only ("type" :: kind.payloadNames)) = ofKind kind v := by
  have hnames : kind.payloadNames ⊆ "type" :: kind.payloadNames := List.subset_cons_self ..
  cases kind with
  | bulk | authenticated | unknown => rfl
  | messageUpdate | channelUpdate | serverUpdate | serverMemberUpdate | serverRoleUpdate | userUpdate | webhookUpdate =>
    dsimp only [ofKind]
    rw [rawUpdate_only _ v hnames]
  | _ =>
    dsimp only [ofKind]
    rw [payload_only _ v]
    exact hnames

theorem classify_eq_bulk {v : Json} (htype : v.get? "type" = some (.string EventKind.bulk.name)) :
    classify v =
      match (v.get? "v").bind Json.array? with
      | some items => .bulk <$> classifyItems items
      | none => .fail (.missingField .bulk "v") := by
  have hkind : EventKind.ofName? EventKind.bulk.name = some .bulk := EventKind.ofName?_name .bulk (by decide)
  cases v with
  | object members =>
    rw [classify, typeName?_eq_some_iff.2 htype]
    simp only [hkind, classifyBulk_eq_map]
    change _ = match (Json.lookup? "v" members).bind Json.array? with | some items => _ | none => _
    cases (Json.lookup? "v" members).bind Json.array? <;> rfl
  | _ => cases htype

variable {kind : EventKind} {v : Json}

/-- **Nothing but its type and its payload is read of a frame.** -/
theorem classify_only (hkind : kind ∈ EventKind.all) (htype : v.get? "type" = some (.string kind.name)) :
    classify (v.only ("type" :: kind.payloadNames)) = classify v := by
  have htype' : (v.only ("type" :: kind.payloadNames)).get? "type" = some (.string kind.name) := by
    rw [Json.get?_only v List.mem_cons_self]
    exact htype
  by_cases hbulk : kind = .bulk
  · subst hbulk
    rw [classify_eq_bulk htype', classify_eq_bulk htype, Json.get?_only v (by decide)]
  · rw [classify_eq_ofKind htype' hkind hbulk, classify_eq_ofKind htype hkind hbulk, ofKind_only]

/-- **Other members never matter.**

A frame of a kind comes to the same as any other that has the same members under `type` and the names of the kind's
payload, be it an event or a fault, and with the same reports.  So a member under any other name can be put in, bound
anew or taken away. -/
structure SkipsOthers (kind : EventKind) (v : Json) : Prop where
  agreeing : ∀ w : Json, w.only ("type" :: kind.payloadNames) = v.only ("type" :: kind.payloadNames) →
    classify w = classify v
  set : ∀ key value, key ≠ "type" → key ∉ kind.payloadNames → classify (Json.set key value v) = classify v
  erase : ∀ key, key ≠ "type" → key ∉ kind.payloadNames → classify (v.erase key) = classify v

theorem classify_eq_of_only_eq (hkind : kind ∈ EventKind.all)
    (htype : v.get? "type" = some (.string kind.name)) {w : Json}
    (h : w.only ("type" :: kind.payloadNames) = v.only ("type" :: kind.payloadNames)) : classify w = classify v := by
  have hw : w.get? "type" = some (.string kind.name) := by
    rw [← Json.get?_only w List.mem_cons_self, h, Json.get?_only v List.mem_cons_self]
    exact htype
  rw [← classify_only hkind hw, h, classify_only hkind htype]

theorem skips_others (hkind : kind ∈ EventKind.all) (htype : v.get? "type" = some (.string kind.name)) :
    SkipsOthers kind v where
  agreeing _ h := classify_eq_of_only_eq hkind htype h
  set _ _ hne hkey := classify_eq_of_only_eq hkind htype (Json.only_set v (List.not_mem_cons_of_ne_of_not_mem hne hkey))
  erase _ hne hkey := classify_eq_of_only_eq hkind htype
    (Json.only_erase v (List.not_mem_cons_of_ne_of_not_mem hne hkey))

/-- The conflict of an update is told no differently for a member that the client does not know. -/
theorem skips_others_conflict :
    let v := Json.object [("type", .string "ServerUpdate"), ("id", .string "S"), ("clear", .array [.string "Icon"]),
      ("remove", .array [.string "Banner"])]
    EventKind.serverUpdate ∈ EventKind.all ∧ v.get? "type" = some (.string EventKind.serverUpdate.name) ∧
      (classify (Json.set "seq" (.int 7) v)).reports = [.conflictingClearAndRemove "ServerUpdate" "S"] := by
  intro v
  have hkind : EventKind.serverUpdate ∈ EventKind.all := by decide
  have htype : v.get? "type" = some (.string EventKind.serverUpdate.name) := by decide
  refine ⟨hkind, htype, ?_⟩
  rw [(skips_others hkind htype).set "seq" (.int 7) (by decide) (by decide), classify_eq_ofKind htype hkind (by decide)]
  rfl

end Event
end ChatClient
