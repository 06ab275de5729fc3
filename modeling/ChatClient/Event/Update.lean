import ChatClient.Entity.Message
import ChatClient.Entity.Snapshot
import ChatClient.Entity.Webhook
import ChatClient.Event.Decoding
import ChatClient.Update.Envelope
/-!
# Update events

All updates come in one shape (`RawUpdate`).  Reading one has two steps.  `normalize` settles the two lists that name
what to clear: the older list, `remove`, counts only where there is no `clear`.  The second step picks the entity by
the kind of the event: the new values are read as that entity's, names that it does not know are reported and dropped,
and the identity must be of the entity's sort.
-/
namespace ChatClient

structure RawUpdate where
  id : EntityId
  roleId : Option String
  channel : Option String
  data : Json
  clear : List String
  remove : List String
deriving DecidableEq, Repr

namespace RawUpdate

def record : Record RawUpdate RawUpdate :=
  (Record.make RawUpdate.mk : Record RawUpdate _)
    |>.required "id" (·.id)
    |>.omittable "role_id" (·.roleId) Option.isNone
    |>.omittable "channel" (·.channel) Option.isNone
    |>.optional "data" (·.data)
    |>.optional "clear" (·.clear)
    |>.omittable "remove" (·.remove) List.isEmpty

instance : Wire RawUpdate := .ofRecord record

/-- The update with one list of names to clear, and the report of a second one. -/
def normalize (kind : EventKind) (u : RawUpdate) : RawUpdate × List Diagnostic :=
  if u.remove = [] then (u, [])
  else if u.clear = [] then ({ u with clear := u.remove, remove := [] }, [])
  else ({ u with remove := [] }, [.conflictingClearAndRemove kind.name u.id.text])

def envelope (u : RawUpdate) : UpdateEnvelope :=
  ⟨u.id, u.data, u.clear⟩

end RawUpdate

structure RoleTarget where
  server : String
  role : String
deriving DecidableEq, Repr

structure MessageTarget where
  id : String
  channel : String
deriving DecidableEq, Repr

structure Update (ι π φ : Type) where
  id : ι
  data : π
  clear : List (ClearName φ)
deriving DecidableEq

abbrev UserUpdate := Update String UserPatch UserField
abbrev ServerUpdate := Update String ServerPatch ServerField
abbrev RoleUpdate := Update RoleTarget RolePatch RoleField
abbrev ChannelUpdate := Update String ChannelPatch ChannelField
abbrev MemberUpdate := Update MemberId MemberPatch MemberField
abbrev MessageUpdate := Update MessageTarget MessagePatch MessageField
abbrev WebhookUpdate := Update String WebhookPatch WebhookField

namespace Update

variable {π φ : Type}

def unknownNames [Clearable φ] (clear : List (ClearName φ)) : List Diagnostic :=
  (clear.filter (·.isUnknown)).map fun f => .unknownClearField (Clearable.entity φ) f.name

def content [Wire π] [Clearable φ] (kind : EventKind) (e : UpdateEnvelope) : Decoding (π × List (ClearName φ)) := do
  let data ← Decoding.ofOption (e.data? : Option π) (.payload kind)
  let clear : List (ClearName φ) := e.clearNames
  .report (unknownNames clear)
  return (data, clear.filter (!·.isUnknown))

def plainId (kind : EventKind) (id : EntityId) : Decoding String :=
  Decoding.ofOption id.plain? (.invalidId kind id.text)

def memberId (kind : EventKind) (id : EntityId) : Decoding MemberId :=
  Decoding.ofOption id.member? (.invalidId kind id.text)

def ofPlain [Wire π] [Clearable φ] (kind : EventKind) (u : RawUpdate) : Decoding (Update String π φ) := do
  let (data, clear) ← content kind u.envelope
  return ⟨← plainId kind u.id, data, clear⟩

def ofMember (kind : EventKind) (u : RawUpdate) : Decoding MemberUpdate := do
  let (data, clear) ← content kind u.envelope
  return ⟨← memberId kind u.id, data, clear⟩

def ofRole (kind : EventKind) (u : RawUpdate) : Decoding RoleUpdate := do
  let role ← Decoding.ofOption u.roleId (.missingField kind "role_id")
  let (data, clear) ← content kind u.envelope
  return ⟨⟨← plainId kind u.id, role⟩, data, clear⟩

def ofMessage (kind : EventKind) (u : RawUpdate) : Decoding MessageUpdate := do
  let channel ← Decoding.ofOption u.channel (.missingField kind "channel")
  let (data, clear) ← content kind u.envelope
  return ⟨⟨← plainId kind u.id, channel⟩, data, clear⟩

end Update

end ChatClient
