import ChatClient.Proofs.Entity.Fields
/-!
# Updates in a row

A patch and one that comes after it make a single patch, which gives what the later gives and otherwise what the
earlier gives (`followedBy`).  Since updates go field by field, this patch, with what remains of both clear lists,
does at once what the two updates do (`Updatable.updates_compose`).
-/
namespace ChatClient

def UserPatch.followedBy (d d' : UserPatch) : UserPatch where
  username := d'.username.or d.username
  discriminator := d'.discriminator.or d.discriminator
  displayName := d'.displayName.or d.displayName
  avatar := d'.avatar.or d.avatar
  badges := d'.badges.or d.badges
  status := d'.status.or d.status
  profile := d'.profile.or d.profile
  flags := d'.flags.or d.flags
  online := d'.online.or d.online

theorem User.given_followedBy (d d' : UserPatch) :
    ∀ s ∈ slots, s.given (d.followedBy d') = (s.given d').or (s.given d) := by
  simp only [slots, List.forall_mem_cons]
  exact ⟨rfl, rfl, rfl, Option.map_or, Option.map_or, rfl, rfl, Option.map_or, Option.map_or, rfl, rfl, rfl, rfl, rfl,
    List.forall_mem_nil _⟩

def ServerPatch.followedBy (d d' : ServerPatch) : ServerPatch where
  owner := d'.owner.or d.owner
  name := d'.name.or d.name
  description := d'.description.or d.description
  channels := d'.channels.or d.channels
  categories := d'.categories.or d.categories
  systemMessages := d'.systemMessages.or d.systemMessages
  defaultPermissions := d'.defaultPermissions.or d.defaultPermissions
  icon := d'.icon.or d.icon
  banner := d'.banner.or d.banner
  flags := d'.flags.or d.flags
  nsfw := d'.nsfw.or d.nsfw
  analytics := d'.analytics.or d.analytics
  discoverable := d'.discoverable.or d.discoverable

theorem Server.given_followedBy (d d' : ServerPatch) :
    ∀ s ∈ slots, s.given (d.followedBy d') = (s.given d').or (s.given d) := by
  simp only [slots, List.forall_mem_cons]
  exact ⟨rfl, rfl, rfl, Option.map_or, rfl, rfl, Option.map_or, rfl, rfl, Option.map_or, Option.map_or,
    rfl, rfl, rfl, rfl, List.forall_mem_nil _⟩

def RolePatch.followedBy (d d' : RolePatch) : RolePatch where
  name := d'.name.or d.name
  permissions := d'.permissions.or d.permissions
  colour := d'.colour.or d.colour
  hoist := d'.hoist.or d.hoist
  rank := d'.rank.or d.rank

theorem Role.given_followedBy (d d' : RolePatch) :
    ∀ s ∈ slots, s.given (d.followedBy d') = (s.given d').or (s.given d) := by
  simp only [slots, List.forall_mem_cons]
  exact ⟨rfl, rfl, Option.map_or, rfl, rfl, List.forall_mem_nil _⟩

def ChannelPatch.followedBy (d d' : ChannelPatch) : ChannelPatch where
  name := d'.name.or d.name
  owner := d'.owner.or d.owner
  description := d'.description.or d.description
  icon := d'.icon.or d.icon
  nsfw := d'.nsfw.or d.nsfw
  active := d'.active.or d.active
  permissions := d'.permissions.or d.permissions
  rolePermissions := d'.rolePermissions.or d.rolePermissions
  defaultPermissions := d'.defaultPermissions.or d.defaultPermissions
  lastMessageId := d'.lastMessageId.or d.lastMessageId

theorem Channel.given_followedBy (d d' : ChannelPatch) :
    ∀ s ∈ slots, s.given (d.followedBy d') = (s.given d').or (s.given d) := by
  simp only [slots, List.forall_mem_cons]
  exact ⟨rfl, rfl, rfl, Option.map_or, Option.map_or, rfl, rfl, rfl, Option.map_or, rfl, Option.map_or,
    rfl, Option.map_or, Option.map_or, List.forall_mem_nil _⟩

def MemberPatch.followedBy (d d' : MemberPatch) : MemberPatch where
  joinedAt := d'.joinedAt.or d.joinedAt
  nickname := d'.nickname.or d.nickname
  avatar := d'.avatar.or d.avatar
  roles := d'.roles.or d.roles
  timeout := d'.timeout.or d.timeout

theorem Member.given_followedBy (d d' : MemberPatch) :
    ∀ s ∈ slots, s.given (d.followedBy d') = (s.given d').or (s.given d) := by
  simp only [slots, List.forall_mem_cons]
  exact ⟨rfl, Option.map_or, Option.map_or, Option.map_or, rfl, Option.map_or, List.forall_mem_nil _⟩

def WebhookPatch.followedBy (d d' : WebhookPatch) : WebhookPatch where
  name := d'.name.or d.name
  avatar := d'.avatar.or d.avatar
  creatorId := d'.creatorId.or d.creatorId
  channelId := d'.channelId.or d.channelId
  permissions := d'.permissions.or d.permissions
  token := d'.token.or d.token

theorem Webhook.given_followedBy (d d' : WebhookPatch) :
    ∀ s ∈ slots, s.given (d.followedBy d') = (s.given d').or (s.given d) := by
  simp only [slots, List.forall_mem_cons]
  exact ⟨rfl, rfl, Option.map_or, rfl, rfl, rfl, Option.map_or, List.forall_mem_nil _⟩

def MessagePatch.followedBy (d d' : MessagePatch) : MessagePatch where
  content := d'.content.or d.content
  edited := d'.edited.or d.edited
  embeds := d'.embeds.or d.embeds
  pinned := d'.pinned.or d.pinned
  reactions := d'.reactions.or d.reactions

theorem Message.given_followedBy (d d' : MessagePatch) :
    ∀ s ∈ slots, s.given (d.followedBy d') = (s.given d').or (s.given d) := by
  simp only [slots, List.forall_mem_cons]
  exact ⟨rfl, rfl, rfl, rfl, Option.map_or, rfl, Option.map_or, rfl, rfl, rfl, rfl, rfl, rfl, rfl,
    List.forall_mem_nil _⟩

/-- A patch in place of two is enough for a single update in place of two. -/
theorem UpdateForm.ByField.composes {F : UpdateForm} (h : F.ByField) {d d' both : F.Patch}
    (hboth : ∀ s ∈ F.slots, s.given both = (s.given d').or (s.given d)) (clear clear' : List (ClearName F.Field)) :
    (∃ both cleared, F.Composite d clear d' clear' both cleared) ∧
      ∀ e, F.update (F.update e d clear) d clear = F.update e d clear :=
  ⟨⟨both, F.clearedBy clear d' clear', h.composite hboth clear clear'⟩, fun e => h.update_update e d clear⟩

/-- **Two updates in a row are a single one**, the same for every entity; and an update that is made again changes
nothing. -/
theorem Updatable.updates_compose (k : Updatable) (d d' : k.form.Patch) (clear clear' : List (ClearName k.form.Field)) :
    (∃ both cleared, k.form.Composite d clear d' clear' both cleared) ∧
      ∀ e, k.form.update (k.form.update e d clear) d clear = k.form.update e d clear := by
  cases k with
  | user => exact User.byField.composes (User.given_followedBy d d') clear clear'
  | server => exact Server.byField.composes (Server.given_followedBy d d') clear clear'
  | role => exact Role.byField.composes (Role.given_followedBy d d') clear clear'
  | channel => exact Channel.byField.composes (Channel.given_followedBy d d') clear clear'
  | member => exact Member.byField.composes (Member.given_followedBy d d') clear clear'
  | webhook => exact Webhook.byField.composes (Webhook.given_followedBy d d') clear clear'
  | message => exact Message.byField.composes (Message.given_followedBy d d') clear clear'

end ChatClient
