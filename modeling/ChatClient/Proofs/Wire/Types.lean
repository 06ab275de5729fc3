import ChatClient.Event.Update
import ChatClient.Event.Payload
import ChatClient.Proofs.Time.Timestamp
import ChatClient.Proofs.Wire.Faithful
/-!
# The types of the wire

Every entity, every set of new values, every payload of an event and every part of these is faithful on the wire
(`WireForm.read?_written`).
-/
namespace ChatClient

open Wire (Faithful Solid)

/-! ## Names -/

theorem RelationshipStatus.ofName_name (s : RelationshipStatus) : ofName s.name = s := by
  cases s <;> rfl

theorem Presence.ofName_name (p : Presence) : ofName p.name = p := by
  cases p <;> rfl

theorem ChannelType.ofName_name (t : ChannelType) : ofName t.name = t := by
  cases t <;> rfl

instance : Solid RelationshipStatus where
  read?_write s := congrArg some s.ofName_name
  write_ne_null _ := nofun

instance : Solid Presence where
  read?_write p := congrArg some p.ofName_name
  write_ne_null _ := nofun

instance : Solid ChannelType where
  read?_write t := congrArg some t.ofName_name
  write_ne_null _ := nofun

instance : Solid Timestamp where
  read?_write t := by
    change Timestamp.parse? t.text.toList = some t
    rw [Timestamp.text, String.toList_ofList, Timestamp.parse?_chars]
  write_ne_null _ := nofun

/-! ## Entities -/

instance : Solid AttachmentMetadata :=
  Record.solid (by decide +kernel) (fun _ => rfl) (by unfold AttachmentMetadata.record; infer_instance)

instance : Solid Attachment :=
  Record.solid (by decide +kernel) (fun _ => rfl) (by unfold Attachment.record; infer_instance)

instance : Solid UserStatus :=
  Record.solid (by decide +kernel) (fun _ => rfl) (by unfold UserStatus.record; infer_instance)

instance : Solid UserProfile :=
  Record.solid (by decide +kernel) (fun _ => rfl) (by unfold UserProfile.record; infer_instance)

instance : Solid UserRelation :=
  Record.solid (by decide +kernel) (fun _ => rfl) (by unfold UserRelation.record; infer_instance)

instance : Solid BotInformation :=
  Record.solid (by decide +kernel) (fun _ => rfl) (by unfold BotInformation.record; infer_instance)

instance : Solid User :=
  Record.solid (by decide +kernel) (fun _ => rfl) (by unfold User.record; infer_instance)

instance : Solid UserPatch :=
  Record.solid (by decide +kernel) (fun _ => rfl) (by unfold UserPatch.record; infer_instance)

instance : Solid PermissionOverride :=
  Record.solid (by decide +kernel) (fun _ => rfl) (by unfold PermissionOverride.record; infer_instance)

instance : Solid Role :=
  Record.solid (by decide +kernel) (fun _ => rfl) (by unfold Role.record; infer_instance)

instance : Solid RolePatch :=
  Record.solid (by decide +kernel) (fun _ => rfl) (by unfold RolePatch.record; infer_instance)

instance : Solid Category :=
  Record.solid (by decide +kernel) (fun _ => rfl) (by unfold Category.record; infer_instance)

instance : Solid SystemMessages :=
  Record.solid (by decide +kernel) (fun _ => rfl) (by unfold SystemMessages.record; infer_instance)

instance : Solid Server :=
  Record.solid (by decide +kernel) (fun _ => rfl) (by unfold Server.record; infer_instance)

instance : Solid ServerPatch :=
  Record.solid (by decide +kernel) (fun _ => rfl) (by unfold ServerPatch.record; infer_instance)

instance : Solid Channel :=
  Record.solid (by decide +kernel) (fun _ => rfl) (by unfold Channel.record; infer_instance)

instance : Solid ChannelPatch :=
  Record.solid (by decide +kernel) (fun _ => rfl) (by unfold ChannelPatch.record; infer_instance)

instance : Solid MemberId :=
  Record.solid (by decide +kernel) (fun _ => rfl) (by unfold MemberId.record; infer_instance)

instance : Solid Member :=
  Record.solid (by decide +kernel) (fun _ => rfl) (by unfold Member.record; infer_instance)

instance : Solid MemberPatch :=
  Record.solid (by decide +kernel) (fun _ => rfl) (by unfold MemberPatch.record; infer_instance)

instance : Solid Masquerade :=
  Record.solid (by decide +kernel) (fun _ => rfl) (by unfold Masquerade.record; infer_instance)

instance : Solid Message :=
  Record.solid (by decide +kernel) (fun _ => rfl) (by unfold Message.record; infer_instance)

instance : Solid MessagePatch :=
  Record.solid (by decide +kernel) (fun _ => rfl) (by unfold MessagePatch.record; infer_instance)

instance : Solid Webhook :=
  Record.solid (by decide +kernel) (fun _ => rfl) (by unfold Webhook.record; infer_instance)

instance : Solid WebhookPatch :=
  Record.solid (by decide +kernel) (fun _ => rfl) (by unfold WebhookPatch.record; infer_instance)

/-! ## Choices -/

instance : Solid EmojiParent where
  read?_write p := by
    cases p with
    | detached => rfl
    | server id => rfl
  write_ne_null p := by cases p <;> nofun

instance : Solid Emoji :=
  Record.solid (by decide +kernel) (fun _ => rfl) (by unfold Emoji.record; infer_instance)

instance : Solid Snapshot :=
  Record.solid (by decide +kernel) (fun _ => rfl) (by unfold Snapshot.record; infer_instance)

/-- A text and a membership are told apart by their form. -/
instance : Solid EntityId where
  read?_write id := by
    cases id with
    | plain id => rfl
    | member id =>
      change (Wire.read? (Wire.write id) : Option MemberId).map EntityId.member = _
      rw [Faithful.read?_write, Option.map_some]
  write_ne_null id := by cases id <;> nofun

/-! ## Payloads of events -/

instance : Solid RawUpdate :=
  Record.solid (by decide +kernel) (fun _ => rfl) (by unfold RawUpdate.record; infer_instance)

instance : Solid ErrorReport :=
  Record.solid (by decide +kernel) (fun _ => rfl) inferInstance

instance : Solid Pong :=
  Record.solid (by decide +kernel) (fun _ => rfl) inferInstance

instance : Solid AppendedContent :=
  Record.solid (by decide +kernel) (fun _ => rfl) inferInstance

instance : Solid MessageAppend :=
  Record.solid (by decide +kernel) (fun _ => rfl) inferInstance

instance : Solid MessageDelete :=
  Record.solid (by decide +kernel) (fun _ => rfl) inferInstance

instance : Solid BulkMessageDelete :=
  Record.solid (by decide +kernel) (fun _ => rfl) inferInstance

instance : Solid MessageReaction :=
  Record.solid (by decide +kernel) (fun _ => rfl) inferInstance

instance : Solid ReactionRemoval :=
  Record.solid (by decide +kernel) (fun _ => rfl) inferInstance

instance : Solid Deletion :=
  Record.solid (by decide +kernel) (fun _ => rfl) inferInstance

instance : Solid Participation :=
  Record.solid (by decide +kernel) (fun _ => rfl) inferInstance

instance : Solid ChannelAck :=
  Record.solid (by decide +kernel) (fun _ => rfl) inferInstance

instance : Solid ServerCreate :=
  Record.solid (by decide +kernel) (fun _ => rfl) inferInstance

instance : Solid RoleDelete :=
  Record.solid (by decide +kernel) (fun _ => rfl) inferInstance

instance : Solid RoleRanks :=
  Record.solid (by decide +kernel) (fun _ => rfl) inferInstance

instance : Solid UserRelationship :=
  Record.solid (by decide +kernel) (fun _ => rfl) inferInstance

instance : Solid UserSettingsUpdate :=
  Record.solid (by decide +kernel) (fun _ => rfl) inferInstance

instance : Solid UserPlatformWipe :=
  Record.solid (by decide +kernel) (fun _ => rfl) inferInstance

/-! ## All types -/

structure WireForm where
  carrier : Type
  [wire : Wire carrier]

namespace WireForm

/-- The types of the wire: entities, new values for their fields, the parts of both, identities and updates, and the
payloads of events. -/
def all : List WireForm :=
  [⟨User⟩, ⟨Server⟩, ⟨Channel⟩, ⟨Member⟩, ⟨Role⟩, ⟨Message⟩, ⟨Webhook⟩, ⟨Emoji⟩, ⟨Attachment⟩, ⟨Snapshot⟩,
    ⟨UserPatch⟩, ⟨ServerPatch⟩, ⟨ChannelPatch⟩, ⟨MemberPatch⟩, ⟨RolePatch⟩, ⟨MessagePatch⟩, ⟨WebhookPatch⟩,
    ⟨UserStatus⟩, ⟨UserProfile⟩, ⟨UserRelation⟩, ⟨BotInformation⟩, ⟨RelationshipStatus⟩, ⟨Presence⟩,
    ⟨Category⟩, ⟨SystemMessages⟩, ⟨PermissionOverride⟩, ⟨ChannelType⟩, ⟨Masquerade⟩, ⟨EmojiParent⟩,
    ⟨AttachmentMetadata⟩, ⟨Timestamp⟩, ⟨MemberId⟩, ⟨EntityId⟩, ⟨RawUpdate⟩,
    ⟨ErrorReport⟩, ⟨Pong⟩, ⟨AppendedContent⟩, ⟨MessageAppend⟩, ⟨MessageDelete⟩, ⟨BulkMessageDelete⟩,
    ⟨MessageReaction⟩, ⟨ReactionRemoval⟩, ⟨Deletion⟩, ⟨Participation⟩, ⟨ChannelAck⟩, ⟨ServerCreate⟩,
    ⟨RoleDelete⟩, ⟨RoleRanks⟩, ⟨UserRelationship⟩, ⟨UserSettingsUpdate⟩, ⟨UserPlatformWipe⟩]

theorem faithful_of_mem_all : ∀ T ∈ all, @Faithful T.carrier T.wire := by
  unfold all
  simp only [List.forall_mem_cons]
  repeat' apply And.intro
  all_goals first
    | infer_instance
    | exact fun _ hT => nomatch hT

/-- **What is written of a value of any type is read as that value.** -/
theorem read?_written : ∀ T ∈ all, ∀ a : T.carrier, T.wire.read? (T.wire.write a) = some a :=
  fun T hT => (faithful_of_mem_all T hT).read?_write

def leapMember : Member :=
  { (default : Member) with
    id := ⟨"s", "u"⟩
    joinedAt := some ⟨⟨2016, 12, 31, by decide⟩, ⟨23, 59, 59, 1250000000, by decide⟩⟩
    roles := ["r"] }

theorem read?_written_leapMember :
    ⟨Member⟩ ∈ all ∧ Wire.read? (Wire.write leapMember) = some leapMember ∧
      leapMember.joinedAt.map (·.text) = some "2016-12-31T23:59:60.250Z" := by
  have hmem : ⟨Member⟩ ∈ all := by simp [all]
  exact ⟨hmem, read?_written ⟨Member⟩ hmem leapMember, by decide +kernel⟩

end WireForm

end ChatClient
