import ChatClient.Dispatch.Effect
import ChatClient.Proofs.Cache.Keys
import ChatClient.Proofs.Cache.Outcome
import ChatClient.Proofs.Entity.Twice
/-!
# Events delivered twice

An event that comes again right after it has been taken in leaves the cache as it is, in every state of the cache and
with every payload (`absorb_absorb_iff`).  The one exception is the removal of a channel that more than one list
shows: a removal takes the channel off one list, and the next one off another.
-/
namespace ChatClient
namespace Cache

/-! ## Operations performed twice -/

/-- **An operation finds nothing more to do right after it has been performed.** -/
def Settles (c : Cache) (op : Operation) : Prop :=
  ((c.perform op).1.perform op).1 = (c.perform op).1

namespace Settles

variable (c : Cache)

theorem populate (s : Snapshot) : c.Settles (.populate s) := by
  have htwice : (c.populate s).populate s = c.populate s := by
    unfold Cache.populate
    congr 1 <;> (dsimp only; split <;> rfl)
  exact htwice

theorem isCurrentUser_updateUser (id : String) (data : UserPatch) (clear : List (ClearName UserField)) :
    (c.updateUser id data clear).1.isCurrentUser id = c.isCurrentUser id := by
  rw [updateUser_fst]
  unfold isCurrentUser
  cases c.currentUser with
  | none => simp
  | some u => by_cases h : u.id = id <;> simp [h, User.update_id]

theorem updateUser (id : String) (data : UserPatch) (clear : List (ClearName UserField)) :
    c.Settles (.updateUser id data clear) := by
  have hself := isCurrentUser_updateUser c id data clear
  unfold Settles perform
  rw [updateUser_fst (c.updateUser id data clear).1, hself, updateUser_fst]
  cases c.tracking.users <;> cases c.isCurrentUser id <;>
    simp [modify_modify, User.update_update, Function.comp_def]

theorem changeServer (id : String) {f : Server → Server} (hf : ∀ s, f (f s) = f s) :
    ((c.changeServer id f).1.changeServer id f).1 = (c.changeServer id f).1 := by
  cases ht : c.tracking.servers with
  | false => simp [changeServer_fst, ht]
  | true => simp [changeServer_fst, ht, modify_modify, hf]

theorem changeChannel (id : String) {f : Channel → Channel} (hf : ∀ ch, f (f ch) = f ch) :
    ((c.changeChannel id f).1.changeChannel id f).1 = (c.changeChannel id f).1 := by
  cases ht : c.tracking.channels with
  | false => simp [changeChannel_fst, ht]
  | true => simp [changeChannel_fst, ht, modify_modify, hf]

theorem updateRole (serverId roleId : String) (data : RolePatch) (clear : List (ClearName RoleField)) :
    c.Settles (.updateRole serverId roleId data clear) := by
  unfold Settles perform
  cases ht : c.tracking.servers with
  | false => simp [updateRole_fst, ht]
  | true => simp [updateRole_fst, ht, modify_modify, Role.update_update]

theorem updateMember (id : MemberId) (data : MemberPatch) (clear : List (ClearName MemberField)) :
    c.Settles (.updateMember id data clear) := by
  unfold Settles perform
  cases ht : c.tracking.members with
  | false => simp [updateMember_fst, ht]
  | true => simp [updateMember_fst, ht, modify_modify, Member.update_update]

theorem updateWebhook (id : String) (data : WebhookPatch) (clear : List (ClearName WebhookField)) :
    c.Settles (.updateWebhook id data clear) := by
  unfold Settles perform
  cases ht : c.tracking.webhooks with
  | false => simp [updateWebhook_fst, ht]
  | true => simp [updateWebhook_fst, ht, modify_modify, Webhook.update_update]

theorem insertServer (server : Server) (channels : List Channel) (emojis : List Emoji) :
    c.Settles (.insertServer server channels emojis) := by
  unfold Settles perform
  cases ht : c.tracking.servers with
  | false => simp [insertServer_fst, ht]
  | true =>
    cases hch : c.tracking.channels <;> cases he : c.tracking.emojis <;>
      simp [insertServer_fst, ht, hch, he, insert_insert, insertMany_insertMany]

theorem insertChannel (channel : Channel) : c.Settles (.insertChannel channel) := by
  unfold Settles perform
  cases ht : c.tracking.channels with
  | false => simp [insertChannel_fst, ht]
  | true =>
    cases hs : channel.server with
    | none => simp [insertChannel_fst, serversListing, hs, ht, insert_insert]
    | some serverId =>
      simp [insertChannel_fst, serversListing, hs, ht, insert_insert, modify_modify, Server.addChannel_addChannel]

theorem insertMember (id : MemberId) : c.Settles (.insertMember id) := by
  unfold Settles perform
  cases ht : c.tracking.members with
  | false => simp [insertMember_fst, ht]
  | true => simp [insertMember_fst, ht, insertIfNew_insertIfNew]

theorem insertEmoji (emoji : Emoji) : c.Settles (.insertEmoji emoji) := by
  unfold Settles perform
  cases ht : c.tracking.emojis with
  | false => simp [insertEmoji_fst, ht]
  | true => simp [insertEmoji_fst, ht, insert_insert]

theorem insertWebhook (webhook : Webhook) : c.Settles (.insertWebhook webhook) := by
  unfold Settles perform
  cases ht : c.tracking.webhooks with
  | false => simp [insertWebhook_fst, ht]
  | true => simp [insertWebhook_fst, ht, insert_insert]

theorem withoutServer_withoutServer (id : String) : (c.withoutServer id).withoutServer id = c.withoutServer id :=
  withoutServer_of_none (c.server?_withoutServer id)

theorem removeServer (id : String) : c.Settles (.removeServer id) := by
  unfold Settles perform
  cases ht : c.tracking.servers with
  | false => simp [removeServer_fst, ht]
  | true => simp [removeServer_fst, withoutServer_tracking, ht, withoutServer_withoutServer]

/-- Who has left takes nothing more along: the server is gone if it was the current user. -/
theorem afterLeaving_removeMember (id : MemberId) :
    (c.removeMember id).1.afterLeaving id = (c.removeMember id).1 := by
  have hself : (c.removeMember id).1.isCurrentUser id.user = c.isCurrentUser id.user := by
    rw [removeMember_fst]
    unfold afterLeaving withoutServer
    split
    · split <;> rfl
    · rfl
  rw [afterLeaving, hself]
  cases hc : c.isCurrentUser id.user with
  | false => rfl
  | true =>
    have hgone : (c.removeMember id).1.server? id.server = none := by
      rw [removeMember_fst, afterLeaving, hc]
      exact c.server?_withoutServer id.server
    rw [if_pos rfl, withoutServer_of_none hgone]

theorem removeMember (id : MemberId) : c.Settles (.removeMember id) := by
  unfold Settles perform
  rw [removeMember_fst (c.removeMember id).1, afterLeaving_removeMember, removeMember_fst]
  cases (c.afterLeaving id).tracking.members with
  | false => simp
  | true => simp [erase_erase]

theorem removeRecipient (channelId userId : String) : c.Settles (.removeRecipient channelId userId) := by
  have hself (channels : Table Channel) : isCurrentUser { c with channels } userId = c.isCurrentUser userId := rfl
  unfold Settles perform
  cases ht : c.tracking.channels with
  | false => simp [removeRecipient_fst, ht]
  | true =>
    cases hc : c.isCurrentUser userId with
    | true => simp [removeRecipient_fst, ht, hself, hc, erase_erase]
    | false => simp [removeRecipient_fst, ht, hself, hc, modify_modify, Channel.removeRecipient_removeRecipient]

theorem removeRole (serverId roleId : String) : c.Settles (.removeRole serverId roleId) := by
  unfold Settles perform
  cases ht : c.tracking.servers with
  | false => simp [removeRole_fst, ht]
  | true => simp [removeRole_fst, ht, modify_modify, erase_erase]

theorem removeEmoji (id : String) : c.Settles (.removeEmoji id) := by
  unfold Settles perform
  cases ht : c.tracking.emojis with
  | false => simp [removeEmoji_fst, ht]
  | true => simp [removeEmoji_fst, ht, erase_erase]

theorem removeWebhook (id : String) : c.Settles (.removeWebhook id) := by
  unfold Settles perform
  cases ht : c.tracking.webhooks with
  | false => simp [removeWebhook_fst, ht]
  | true => simp [removeWebhook_fst, ht, erase_erase]

theorem removeUser (id : String) : c.Settles (.removeUser id) := by
  unfold Settles perform
  cases ht : c.tracking.users with
  | false => simp [removeUser_fst, ht]
  | true => simp [removeUser_fst, ht, erase_erase]

end Settles

/-! ## Removals of a channel -/

/-- A channel is on no list but the one that its removal takes it off: that of the server which it names, or else the
only list that shows it. -/
def ListedOnce (c : Cache) (channelId : String) : Prop :=
  match (c.channel? channelId).bind (·.server) with
  | some owner => ∀ serverId, c.Lists serverId channelId → serverId = owner
  | none => ∀ serverId other, c.Lists serverId channelId → c.Lists other channelId → serverId = other

/-- A removal takes a channel off the list of its owner and no other. -/
theorem lists_removeChannel {c : Cache} {id : String} (ht : c.tracking.channels = true) (serverId : String) :
    (c.removeChannel id).1.Lists serverId id ↔ c.Lists serverId id ∧ c.ownerOf? id ≠ some serverId := by
  rw [removeChannel_fst, if_pos ht, if_pos ht]
  unfold Lists serversUnlisting
  cases ho : c.ownerOf? id with
  | none => simp
  | some owner =>
    dsimp only
    rw [Std.ExtTreeMap.getElem?_modify]
    by_cases h : owner = serverId
    · subst h
      simp [Server.removeChannel]
    · simp [h]

/-- A removal leaves no list with the channel exactly if no list but the owner's showed it. -/
theorem not_lists_removeChannel_iff {c : Cache} {id : String} (ht : c.tracking.channels = true) :
    (∀ serverId, ¬ (c.removeChannel id).1.Lists serverId id) ↔ c.ListedOnce id := by
  simp only [lists_removeChannel ht, not_and, ne_eq, Decidable.not_not]
  unfold ListedOnce ownerOf?
  cases (c.channel? id).bind (·.server) with
  | some owner =>
    simp only [Option.some.injEq]
    exact ⟨fun h serverId hs => (h serverId hs).symm, fun h serverId hs => (h serverId hs).symm⟩
  | none =>
    dsimp only
    cases hl : c.serverListing? id with
    | none =>
      have hnone := not_lists_of_serverListing? hl
      exact ⟨fun _ serverId _ hs => absurd hs (hnone serverId), fun _ serverId hs => absurd hs (hnone serverId)⟩
    | some first =>
      have hfirst := lists_of_serverListing? hl
      simp only [Option.some.injEq]
      exact ⟨fun h serverId other hs ho => (h serverId hs).symm.trans (h other ho),
        fun h serverId hs => h first serverId hfirst hs⟩

/-- The second removal is one of a channel that is not known: it does nothing exactly if no list shows the channel. -/
theorem settles_removeChannel_iff (c : Cache) (id : String) :
    c.Settles (.removeChannel id) ↔ (c.tracking.channels = true → c.ListedOnce id) := by
  cases ht : c.tracking.channels with
  | false =>
    refine iff_of_true ?_ fun h => nomatch h
    unfold Settles perform
    simp [removeChannel_fst, ht]
  | true =>
    have htracked : (c.removeChannel id).1.tracking.channels = true := by
      rw [removeChannel_fst]
      exact ht
    have hgone : id ∉ (c.removeChannel id).1.channels := by simp [removeChannel_fst, ht]
    have hunknown : ((c.removeChannel id).1.removeChannel id).2 ≠ .applied := by
      simp [removeChannel_snd, htracked, hgone, Outcome.ofFound]
    have htruthful := Truthful.removeChannel_iff (c.removeChannel id).1 id
    rw [← not_lists_removeChannel_iff ht, ← not_exists]
    constructor
    · intro hsettles _ hlisted
      exact htruthful.1 (fun _ => hsettles) ⟨htracked, hgone, hlisted⟩
    · intro hnone
      exact htruthful.2 (fun htidies => hnone rfl htidies.2.2) hunknown

/-! ## Events -/

/-- **What an event asks of a cache that is to take it twice**: nothing, but for a channel that is removed to be
listed once. -/
def TakesTwice (c : Cache) : Event → Prop
  | .channelDelete d => c.tracking.channels = true → c.ListedOnce d.id
  | _ => True

theorem absorb_cache (c : Cache) (e : Event) :
    (c.absorb e).cache = match e.effect? with
      | some effect => (c.perform effect.operation).1
      | none => c := by
  unfold absorb
  split <;> simp_all

/-- **Redelivery is harmless**: an event that comes again right after it has been taken in leaves the cache as it is,
whatever the cache and whatever the event, exactly if it does not remove a channel that more than one list shows. -/
theorem absorb_absorb_iff (c : Cache) (e : Event) :
    ((c.absorb e).cache.absorb e).cache = (c.absorb e).cache ↔ c.TakesTwice e := by
  simp only [absorb_cache]
  cases e with
  | channelDelete d => exact settles_removeChannel_iff c d.id
  | ready s => exact iff_of_true (Settles.populate c s) trivial
  | channelCreate ch => exact iff_of_true (Settles.insertChannel c ch) trivial
  | channelUpdate u => exact iff_of_true (Settles.changeChannel c u.id (Channel.update_update · u.data u.clear)) trivial
  | channelGroupJoin p =>
    exact iff_of_true (Settles.changeChannel c p.id (Channel.addRecipient_addRecipient · p.user)) trivial
  | channelGroupLeave p => exact iff_of_true (Settles.removeRecipient c p.id p.user) trivial
  | serverCreate s => exact iff_of_true (Settles.insertServer c s.server s.channels s.emojis) trivial
  | serverUpdate u => exact iff_of_true (Settles.changeServer c u.id (Server.update_update · u.data u.clear)) trivial
  | serverDelete d => exact iff_of_true (Settles.removeServer c d.id) trivial
  | serverMemberUpdate u => exact iff_of_true (Settles.updateMember c u.id u.data u.clear) trivial
  | serverMemberJoin p => exact iff_of_true (Settles.insertMember c ⟨p.id, p.user⟩) trivial
  | serverMemberLeave p => exact iff_of_true (Settles.removeMember c ⟨p.id, p.user⟩) trivial
  | serverRoleUpdate u => exact iff_of_true (Settles.updateRole c u.id.server u.id.role u.data u.clear) trivial
  | serverRoleDelete d => exact iff_of_true (Settles.removeRole c d.id d.roleId) trivial
  | serverRoleRanksUpdate r =>
    exact iff_of_true (Settles.changeServer c r.id (Server.setRoleRanks_setRoleRanks · r.ranks)) trivial
  | userUpdate u => exact iff_of_true (Settles.updateUser c u.id u.data u.clear) trivial
  | userPlatformWipe w => exact iff_of_true (Settles.removeUser c w.userId) trivial
  | emojiCreate e => exact iff_of_true (Settles.insertEmoji c e) trivial
  | emojiDelete d => exact iff_of_true (Settles.removeEmoji c d.id) trivial
  | webhookCreate w => exact iff_of_true (Settles.insertWebhook c w) trivial
  | webhookUpdate u => exact iff_of_true (Settles.updateWebhook c u.id u.data u.clear) trivial
  | webhookDelete d => exact iff_of_true (Settles.removeWebhook c d.id) trivial
  | _ => exact iff_of_true rfl trivial

end Cache
end ChatClient
