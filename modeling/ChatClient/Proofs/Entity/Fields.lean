import ChatClient.Proofs.Entity.Slot
import ChatClient.Proofs.Wire.Types
/-!
# The fields of the seven entities

For each entity that updates change, its slots in the order and under the names that its fields have on the wire.  An
update follows each of them as soon as it makes one `Change` of the field, of the value that is given and the name
that clears it; so all seven obey the one law of `Updatable.updates_byField`.
-/
namespace ChatClient

/-! ## Changes of one field -/

theorem Change.apply_ofParts {α : Type} [Inhabited α] (value : Option α) (cleared : Bool) (a : α) :
    (ofParts value cleared).apply a = if cleared then default else value.getD a := by
  cases cleared <;> cases value <;> rfl

theorem Change.apply_ofOption {α : Type} [Inhabited α] (value : Option α) (a : α) :
    (ofOption value).apply a = value.getD a := by
  cases value <;> rfl

theorem Record.members_optional {σ α β : Type} [Wire α] [Inhabited α] (r : Record σ (α → β))
    (name : String) (get : σ → α)
    (s : σ) : (r.optional name get).members s = r.members s ++ [(name, Wire.write (get s))] := rfl

namespace Slot.Follows

variable {ε π φ α : Type} [Wire α] [DecidableEq φ] {update : ε → π → List (ClearName φ) → ε}
    {name : String} {field : φ}

theorem fixed {get : ε → α} (h : ∀ {e d clear}, get (update e d clear) = get e) :
    (Slot.fixed name get).Follows update :=
  fun _ _ _ => h

theorem settable [Inhabited α] {get : ε → α} {given : π → Option α}
    (h : ∀ {e d clear}, get (update e d clear) = (Change.ofOption (given d)).apply (get e)) :
    (Slot.settable name get given).Follows update :=
  fun e d _ => h.trans (Change.apply_ofOption (given d) (get e))

theorem clearable [Inhabited α] {get : ε → α} {given : π → Option α}
    (h : ∀ {e d clear}, get (update e d clear) =
      (Change.ofParts (given d) (ClearName.clears clear field)).apply (get e)) :
    (Slot.clearable name get given field default).Follows update :=
  fun e d clear => h.trans (Change.apply_ofParts (given d) (ClearName.clears clear field) (get e))

theorem optional {get : ε → Option α} {given : π → Option α}
    (h : ∀ {e d clear}, get (update e d clear) = (Change.ofOptional (given d) false).apply (get e)) :
    (Slot.optional name get given).Follows update :=
  settable h

theorem erasable {get : ε → Option α} {given : π → Option α}
    (h : ∀ {e d clear}, get (update e d clear) =
      (Change.ofOptional (given d) (ClearName.clears clear field)).apply (get e)) :
    (Slot.erasable name get given field).Follows update :=
  clearable h

theorem divisible {get : ε → Option α} {given : π → Option α} {fields : List φ}
    {left : (φ → Bool) → α → α} {hcongr hleft}
    (h : ∀ {e d clear},
      get (update e d clear) =
        ((Change.ofOptional (given d) false).apply (get e)).map (left (ClearName.clears clear))) :
    (Slot.divisible name get given fields left hcongr hleft).Follows update :=
  fun e d _ => h.trans (congrArg (Option.map (left _)) (Change.apply_ofOption ((given d).map some) (get e)))

end Slot.Follows

/-! ## Users -/

def UserStatus.left (named : UserField → Bool) (s : UserStatus) : UserStatus where
  text := if named .statusText then none else s.text
  presence := if named .statusPresence then none else s.presence

def UserProfile.left (named : UserField → Bool) (p : UserProfile) : UserProfile where
  content := if named .profileContent then none else p.content
  background := if named .profileBackground then none else p.background

theorem UserStatus.left_congr {named named' : UserField → Bool}
    (h : ∀ f ∈ [UserField.statusText, .statusPresence], named f = named' f) (s : UserStatus) :
    s.left named = s.left named' := by
  simp only [List.forall_mem_cons] at h
  simp only [left, h]

theorem UserStatus.left_left (named named' : UserField → Bool) (s : UserStatus) :
    (s.left named).left named' = s.left fun f => named' f || named f := by
  simp only [left, Bool.or_eq_true, ite_or]

theorem UserProfile.left_congr {named named' : UserField → Bool}
    (h : ∀ f ∈ [UserField.profileContent, .profileBackground], named f = named' f) (p : UserProfile) :
    p.left named = p.left named' := by
  simp only [List.forall_mem_cons] at h
  simp only [left, h]

theorem UserProfile.left_left (named named' : UserField → Bool) (p : UserProfile) :
    (p.left named).left named' = p.left fun f => named' f || named f := by
  simp only [left, Bool.or_eq_true, ite_or]

namespace User

def slots : List (Slot User UserPatch UserField) :=
  [.fixed "_id" (·.id),
    .settable "username" (·.username) (·.username),
    .settable "discriminator" (·.discriminator) (·.discriminator),
    .erasable "display_name" (·.displayName) (·.displayName) .displayName,
    .erasable "avatar" (·.avatar) (·.avatar) .avatar,
    .fixed "relations" (·.relations),
    .settable "badges" (·.badges) (·.badges),
    .divisible "status" (·.status) (·.status) [.statusText, .statusPresence] UserStatus.left UserStatus.left_congr
      UserStatus.left_left,
    .divisible "profile" (·.profile) (·.profile)
      [.profileContent, .profileBackground] UserProfile.left UserProfile.left_congr
      UserProfile.left_left,
    .settable "flags" (·.flags) (·.flags),
    .fixed "privileged" (·.privileged),
    .fixed "bot" (·.bot),
    .fixed "relationship" (·.relationship),
    .settable "online" (·.online) (·.online)]

def form : UpdateForm := ⟨User, UserPatch, UserField, update, slots⟩

theorem members_eq (u : User) : record.members u = slots.map fun slot => (slot.name, Wire.write (slot.get u)) := by
  simp only [slots, record, Record.members_optional, Record.members, List.nil_append, List.cons_append, List.map_cons,
    List.map_nil]
  rfl

theorem members_perm (d : UserPatch) : (UserPatch.record.members d).Perm (slots.filterMap (·.member? d)) := by
  simp only [slots, List.filterMap_cons, Slot.member?_fixed, Slot.member?_settable, Slot.member?_erasable,
    Slot.member?_divisible]
  exact .rfl

theorem described : form.Described where
  distinct := by decide
  written u := congrArg Json.object (members_eq u)
  given d := ⟨_, rfl, members_perm d⟩
  named := UpdateForm.existsUnique_slot slots (by intro f; cases f <;> decide) (by decide)
  spelled := by decide

theorem updated : ∀ s ∈ slots, s.Follows update := by
  simp only [slots, List.forall_mem_cons]
  exact ⟨.fixed rfl, .settable rfl, .settable rfl, .erasable rfl, .erasable rfl, .fixed rfl,
    .settable rfl, .divisible rfl,
    .divisible rfl, .settable rfl, .fixed rfl, .fixed rfl, .fixed rfl, .settable rfl, List.forall_mem_nil _⟩

theorem byField : form.ByField :=
  described.byField updated

end User

/-! ## Servers -/

namespace Server

def slots : List (Slot Server ServerPatch ServerField) :=
  [.fixed "_id" (·.id),
    .settable "owner" (·.owner) (·.owner),
    .settable "name" (·.name) (·.name),
    .erasable "description" (·.description) (·.description) .description,
    .settable "channels" (·.channels) (·.channels),
    .clearable "categories" (·.categories) (·.categories) .categories [],
    .erasable "system_messages" (·.systemMessages) (·.systemMessages) .systemMessages,
    .fixed "roles" (·.roles),
    .settable "default_permissions" (·.defaultPermissions) (·.defaultPermissions),
    .erasable "icon" (·.icon) (·.icon) .icon,
    .erasable "banner" (·.banner) (·.banner) .banner,
    .settable "flags" (·.flags) (·.flags),
    .settable "nsfw" (·.nsfw) (·.nsfw),
    .settable "analytics" (·.analytics) (·.analytics),
    .settable "discoverable" (·.discoverable) (·.discoverable)]

def form : UpdateForm := ⟨Server, ServerPatch, ServerField, update, slots⟩

theorem members_eq (s : Server) : record.members s = slots.map fun slot => (slot.name, Wire.write (slot.get s)) := by
  simp only [slots, record, Record.members_optional, Record.members, List.nil_append, List.cons_append, List.map_cons,
    List.map_nil]
  rfl

theorem members_perm (d : ServerPatch) : (ServerPatch.record.members d).Perm (slots.filterMap (·.member? d)) := by
  simp only [slots, List.filterMap_cons, Slot.member?_fixed, Slot.member?_settable, Slot.member?_clearable,
    Slot.member?_erasable]
  exact .rfl

theorem described : form.Described where
  distinct := by decide
  written s := congrArg Json.object (members_eq s)
  given d := ⟨_, rfl, members_perm d⟩
  named := UpdateForm.existsUnique_slot slots (by intro f; cases f <;> decide) (by decide)
  spelled := by decide

theorem updated : ∀ s ∈ slots, s.Follows update := by
  simp only [slots, List.forall_mem_cons]
  exact ⟨.fixed rfl, .settable rfl, .settable rfl, .erasable rfl, .settable rfl, .clearable rfl,
    .erasable rfl, .fixed rfl,
    .settable rfl, .erasable rfl, .erasable rfl, .settable rfl, .settable rfl, .settable rfl, .settable rfl,
    List.forall_mem_nil _⟩

theorem byField : form.ByField :=
  described.byField updated

end Server

/-! ## Roles -/

namespace Role

def slots : List (Slot Role RolePatch RoleField) :=
  [.settable "name" (·.name) (·.name),
    .settable "permissions" (·.permissions) (·.permissions),
    .erasable "colour" (·.colour) (·.colour) .colour,
    .settable "hoist" (·.hoist) (·.hoist),
    .settable "rank" (·.rank) (·.rank)]

def form : UpdateForm := ⟨Role, RolePatch, RoleField, update, slots⟩

theorem members_eq (r : Role) : record.members r = slots.map fun slot => (slot.name, Wire.write (slot.get r)) := by
  simp only [slots, record, Record.members_optional, Record.members, List.nil_append, List.cons_append, List.map_cons,
    List.map_nil]
  rfl

theorem members_perm (d : RolePatch) : (RolePatch.record.members d).Perm (slots.filterMap (·.member? d)) := by
  simp only [slots, List.filterMap_cons, Slot.member?_settable, Slot.member?_erasable]
  exact .rfl

theorem described : form.Described where
  distinct := by decide
  written r := congrArg Json.object (members_eq r)
  given d := ⟨_, rfl, members_perm d⟩
  named := UpdateForm.existsUnique_slot slots (by intro f; cases f; decide) (by decide)
  spelled := by decide

theorem updated : ∀ s ∈ slots, s.Follows update := by
  simp only [slots, List.forall_mem_cons]
  exact ⟨.settable rfl, .settable rfl, .erasable rfl, .settable rfl, .settable rfl, List.forall_mem_nil _⟩

theorem byField : form.ByField :=
  described.byField updated

end Role

/-! ## Channels -/

namespace Channel

def slots : List (Slot Channel ChannelPatch ChannelField) :=
  [.fixed "_id" (·.id),
    .fixed "channel_type" (·.channelType),
    .settable "name" (·.name) (·.name),
    .erasable "description" (·.description) (·.description) .description,
    .erasable "icon" (·.icon) (·.icon) .icon,
    .settable "nsfw" (·.nsfw) (·.nsfw),
    .settable "active" (·.active) (·.active),
    .fixed "server" (·.server),
    .optional "owner" (·.owner) (·.owner),
    .fixed "recipients" (·.recipients),
    .optional "permissions" (·.permissions) (·.permissions),
    .settable "role_permissions" (·.rolePermissions) (·.rolePermissions),
    .erasable "default_permissions" (·.defaultPermissions) (·.defaultPermissions) .defaultPermissions,
    .optional "last_message_id" (·.lastMessageId) (·.lastMessageId)]

def form : UpdateForm := ⟨Channel, ChannelPatch, ChannelField, update, slots⟩

theorem members_eq (c : Channel) : record.members c = slots.map fun slot => (slot.name, Wire.write (slot.get c)) := by
  simp only [slots, record, Record.members_optional, Record.members, List.nil_append, List.cons_append, List.map_cons,
    List.map_nil]
  rfl

theorem members_perm (d : ChannelPatch) : (ChannelPatch.record.members d).Perm (slots.filterMap (·.member? d)) := by
  simp only [slots, List.filterMap_cons, Slot.member?_fixed, Slot.member?_settable, Slot.member?_optional,
    Slot.member?_erasable]
  -- patches have the owner before four fields that it comes after
  exact .cons _ (@List.perm_middle _ _ [_, _, _, _] _).symm

theorem described : form.Described where
  distinct := by decide
  written c := congrArg Json.object (members_eq c)
  given d := ⟨_, rfl, members_perm d⟩
  named := UpdateForm.existsUnique_slot slots (by intro f; cases f <;> decide) (by decide)
  spelled := by decide

theorem updated : ∀ s ∈ slots, s.Follows update := by
  simp only [slots, List.forall_mem_cons]
  exact ⟨.fixed rfl, .fixed rfl, .settable rfl, .erasable rfl, .erasable rfl, .settable rfl, .settable rfl, .fixed rfl,
    .optional rfl, .fixed rfl, .optional rfl, .settable rfl, .erasable rfl, .optional rfl, List.forall_mem_nil _⟩

theorem byField : form.ByField :=
  described.byField updated

end Channel

/-! ## Members -/

namespace Member

def slots : List (Slot Member MemberPatch MemberField) :=
  [.fixed "_id" (·.id),
    .optional "joined_at" (·.joinedAt) (·.joinedAt),
    .erasable "nickname" (·.nickname) (·.nickname) .nickname,
    .erasable "avatar" (·.avatar) (·.avatar) .avatar,
    .clearable "roles" (·.roles) (·.roles) .roles [],
    .erasable "timeout" (·.timeout) (·.timeout) .timeout]

def form : UpdateForm := ⟨Member, MemberPatch, MemberField, update, slots⟩

theorem members_eq (m : Member) : record.members m = slots.map fun slot => (slot.name, Wire.write (slot.get m)) := by
  simp only [slots, record, Record.members_optional, Record.members, List.nil_append, List.cons_append, List.map_cons,
    List.map_nil]
  rfl

theorem members_perm (d : MemberPatch) : (MemberPatch.record.members d).Perm (slots.filterMap (·.member? d)) := by
  simp only [slots, List.filterMap_cons, Slot.member?_fixed, Slot.member?_clearable, Slot.member?_optional,
    Slot.member?_erasable]
  exact .rfl

theorem described : form.Described where
  distinct := by decide
  written m := congrArg Json.object (members_eq m)
  given d := ⟨_, rfl, members_perm d⟩
  named := UpdateForm.existsUnique_slot slots (by intro f; cases f <;> decide) (by decide)
  spelled := by decide

theorem updated : ∀ s ∈ slots, s.Follows update := by
  simp only [slots, List.forall_mem_cons]
  exact ⟨.fixed rfl, .optional rfl, .erasable rfl, .erasable rfl, .clearable rfl, .erasable rfl, List.forall_mem_nil _⟩

theorem byField : form.ByField :=
  described.byField updated

end Member

/-! ## Webhooks -/

namespace Webhook

def slots : List (Slot Webhook WebhookPatch WebhookField) :=
  [.fixed "_id" (·.id),
    .settable "name" (·.name) (·.name),
    .erasable "avatar" (·.avatar) (·.avatar) .avatar,
    .settable "creator_id" (·.creatorId) (·.creatorId),
    .settable "channel_id" (·.channelId) (·.channelId),
    .settable "permissions" (·.permissions) (·.permissions),
    .optional "token" (·.token) (·.token)]

def form : UpdateForm := ⟨Webhook, WebhookPatch, WebhookField, update, slots⟩

theorem members_eq (w : Webhook) : record.members w = slots.map fun slot => (slot.name, Wire.write (slot.get w)) := by
  simp only [slots, record, Record.members_optional, Record.members, Bool.false_eq_true, if_false, List.nil_append,
    List.cons_append, List.map_cons, List.map_nil]
  rfl

theorem members_perm (d : WebhookPatch) : (WebhookPatch.record.members d).Perm (slots.filterMap (·.member? d)) := by
  simp only [slots, List.filterMap_cons, Slot.member?_fixed, Slot.member?_settable, Slot.member?_optional,
    Slot.member?_erasable]
  exact .rfl

theorem described : form.Described where
  distinct := by decide
  written w := congrArg Json.object (members_eq w)
  given d := ⟨_, rfl, members_perm d⟩
  named := UpdateForm.existsUnique_slot slots (by intro f; cases f; decide) (by decide)
  spelled := by decide

theorem updated : ∀ s ∈ slots, s.Follows update := by
  simp only [slots, List.forall_mem_cons]
  exact ⟨.fixed rfl, .settable rfl, .erasable rfl, .settable rfl, .settable rfl, .settable rfl, .optional rfl,
    List.forall_mem_nil _⟩

theorem byField : form.ByField :=
  described.byField updated

end Webhook

/-! ## Messages -/

namespace Message

def slots : List (Slot Message MessagePatch MessageField) :=
  [.fixed "_id" (·.id),
    .fixed "nonce" (·.nonce),
    .fixed "channel" (·.channel),
    .fixed "author" (·.author),
    .optional "content" (·.content) (·.content),
    .fixed "attachments" (·.attachments),
    .optional "edited" (·.edited) (·.edited),
    .settable "embeds" (·.embeds) (·.embeds),
    .fixed "mentions" (·.mentions),
    .fixed "replies" (·.replies),
    .settable "reactions" (·.reactions) (·.reactions),
    .clearable "pinned" (·.pinned) (·.pinned) .pinned false,
    .fixed "flags" (·.flags),
    .fixed "masquerade" (·.masquerade)]

def form : UpdateForm := ⟨Message, MessagePatch, MessageField, update, slots⟩

theorem members_eq (m : Message) : record.members m = slots.map fun slot => (slot.name, Wire.write (slot.get m)) := by
  simp only [slots, record, Record.members_optional, Record.members, List.nil_append, List.cons_append, List.map_cons,
    List.map_nil]
  rfl

theorem members_perm (d : MessagePatch) : (MessagePatch.record.members d).Perm (slots.filterMap (·.member? d)) := by
  simp only [slots, List.filterMap_cons, Slot.member?_fixed, Slot.member?_settable, Slot.member?_clearable,
    Slot.member?_optional]
  -- patches have the pin before the reactions
  exact .cons _ (.cons _ (.cons _ (.swap _ _ _)))

theorem described : form.Described where
  distinct := by decide
  written m := congrArg Json.object (members_eq m)
  given d := ⟨_, rfl, members_perm d⟩
  named := UpdateForm.existsUnique_slot slots (by intro f; cases f; decide) (by decide)
  spelled := by decide

theorem updated : ∀ s ∈ slots, s.Follows update := by
  simp only [slots, List.forall_mem_cons]
  exact ⟨.fixed rfl, .fixed rfl, .fixed rfl, .fixed rfl, .optional rfl, .fixed rfl, .optional rfl,
    .settable rfl, .fixed rfl, .fixed rfl, .settable rfl, .clearable rfl, .fixed rfl, .fixed rfl, List.forall_mem_nil _⟩

theorem byField : form.ByField :=
  described.byField updated

end Message

/-! ## All of them -/

inductive Updatable where
  | user
  | server
  | role
  | channel
  | member
  | webhook
  | message
deriving DecidableEq, Repr

def Updatable.form : Updatable → UpdateForm
  | user => User.form
  | server => Server.form
  | role => Role.form
  | channel => Channel.form
  | member => Member.form
  | webhook => Webhook.form
  | message => Message.form

/-- **Updates of all seven entities go field by field.** -/
theorem Updatable.updates_byField (k : Updatable) : k.form.ByField := by
  cases k with
  | user => exact User.byField
  | server => exact Server.byField
  | role => exact Role.byField
  | channel => exact Channel.byField
  | member => exact Member.byField
  | webhook => exact Webhook.byField
  | message => exact Message.byField

end ChatClient
