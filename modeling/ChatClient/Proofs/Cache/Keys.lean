import ChatClient.Proofs.Cache.Effect
/-!
# Entities under their keys

A cache is kept well when each of its tables is (`WellKept`): every entity stands under its own identity, and a kind
that is not tracked has an empty table.  Every operation keeps it so, whatever its arguments, and hence every run from
the empty cache does.  A look-up then finds nothing but the entity asked for, and the lists that are read off the
cache are those that the keys spell.
-/
namespace ChatClient

/-! ## Changes that keep identities -/

theorem User.update_id (u : User) (data : UserPatch) (clear : List (ClearName UserField)) :
    (u.update data clear).id = u.id := rfl

theorem Server.update_id (s : Server) (data : ServerPatch) (clear : List (ClearName ServerField)) :
    (s.update data clear).id = s.id := rfl

theorem Server.setRoleRanks_id (s : Server) (ranks : List String) : (s.setRoleRanks ranks).id = s.id := rfl

theorem Server.addChannel_id (s : Server) (channelId : String) : (s.addChannel channelId).id = s.id := by
  unfold Server.addChannel
  split <;> rfl

theorem Server.removeChannel_id (s : Server) (channelId : String) : (s.removeChannel channelId).id = s.id := rfl

theorem Channel.update_id (c : Channel) (data : ChannelPatch) (clear : List (ClearName ChannelField)) :
    (c.update data clear).id = c.id := rfl

theorem Channel.addRecipient_id (c : Channel) (userId : String) : (c.addRecipient userId).id = c.id := by
  unfold Channel.addRecipient
  split <;> rfl

theorem Channel.removeRecipient_id (c : Channel) (userId : String) : (c.removeRecipient userId).id = c.id := rfl

theorem Member.update_id (m : Member) (data : MemberPatch) (clear : List (ClearName MemberField)) :
    (m.update data clear).id = m.id := rfl

theorem Webhook.update_id (w : Webhook) (data : WebhookPatch) (clear : List (ClearName WebhookField)) :
    (w.update data clear).id = w.id := rfl

namespace Cache

/-! ## What is tracked stays settled -/

theorem withoutServer_tracking (c : Cache) (id : String) : (c.withoutServer id).tracking = c.tracking := by
  unfold withoutServer
  split <;> rfl

theorem afterLeaving_tracking (c : Cache) (id : MemberId) : (c.afterLeaving id).tracking = c.tracking :=
  afterLeaving_cases (P := fun rest => rest.tracking = c.tracking) rfl (c.withoutServer_tracking id.server)

theorem perform_tracking (c : Cache) (op : Operation) : (c.perform op).1.tracking = c.tracking := by
  cases op with
  | populate s => rfl
  | updateUser id data clear => rw [perform, updateUser_fst]
  | updateServer id data clear => rw [perform, updateServer, changeServer_fst]
  | updateRole serverId roleId data clear => rw [perform, updateRole_fst]
  | setRoleRanks serverId ranks => rw [perform, setRoleRanks, changeServer_fst]
  | updateChannel id data clear => rw [perform, updateChannel, changeChannel_fst]
  | updateMember id data clear => rw [perform, updateMember_fst]
  | updateWebhook id data clear => rw [perform, updateWebhook_fst]
  | insertServer server channels emojis => rw [perform, insertServer_fst]
  | insertChannel channel => rw [perform, insertChannel_fst]
  | insertMember id => rw [perform, insertMember_fst]
  | insertEmoji emoji => rw [perform, insertEmoji_fst]
  | insertWebhook webhook => rw [perform, insertWebhook_fst]
  | addRecipient channelId userId => rw [perform, addRecipient, changeChannel_fst]
  | removeServer id =>
    rw [perform, removeServer_fst]
    split
    · exact c.withoutServer_tracking id
    · rfl
  | removeChannel id => rw [perform, removeChannel_fst]
  | removeMember id =>
    rw [perform, removeMember_fst]
    exact c.afterLeaving_tracking id
  | removeRecipient channelId userId => rw [perform, removeRecipient_fst]
  | removeRole serverId roleId => rw [perform, removeRole_fst]
  | removeEmoji id => rw [perform, removeEmoji_fst]
  | removeWebhook id => rw [perform, removeWebhook_fst]
  | removeUser id => rw [perform, removeUser_fst]

theorem run_tracking : ∀ (ops : List Operation) (c : Cache), (c.run ops).tracking = c.tracking
  | [], _ => rfl
  | op :: ops, c => by
    have ih := run_tracking ops (c.perform op).1
    rw [perform_tracking] at ih
    exact ih

/-! ## Well kept caches -/

/-- **All tables of a cache are kept well.** -/
structure WellKept (c : Cache) : Prop where
  users : Kept c.tracking.users User.id c.users
  servers : Kept c.tracking.servers Server.id c.servers
  channels : Kept c.tracking.channels Channel.id c.channels
  members : Kept c.tracking.members Member.id c.members
  emojis : Kept c.tracking.emojis Emoji.id c.emojis
  webhooks : Kept c.tracking.webhooks Webhook.id c.webhooks

namespace WellKept

theorem empty (tracking : Tracking) : (Cache.empty tracking).WellKept :=
  ⟨.empty, .empty, .empty, .empty, .empty, .empty⟩

variable {c : Cache}

theorem populate (h : c.WellKept) (s : Snapshot) : (c.populate s).WellKept where
  users := h.users.ite fun ht => .ofList ht s.users
  servers := h.servers.ite fun ht => .ofList ht s.servers
  channels := h.channels.ite fun ht => .ofList ht s.channels
  members := h.members.ite fun ht => .ofList ht s.members
  emojis := h.emojis.ite fun ht => .ofList ht s.emojis
  webhooks := h.webhooks

theorem updateUser (h : c.WellKept) (id : String) (data : UserPatch) (clear : List (ClearName UserField)) :
    (c.updateUser id data clear).1.WellKept := by
  rw [updateUser_fst]
  exact { h with users := h.users.ite fun _ => h.users.modify id (User.update_id · data clear) }

theorem changeServer (h : c.WellKept) (id : String) {f : Server → Server} (hf : ∀ s, (f s).id = s.id) :
    (c.changeServer id f).1.WellKept := by
  rw [changeServer_fst]
  exact { h with servers := h.servers.ite fun _ => h.servers.modify id hf }

theorem changeChannel (h : c.WellKept) (id : String) {f : Channel → Channel} (hf : ∀ ch, (f ch).id = ch.id) :
    (c.changeChannel id f).1.WellKept := by
  rw [changeChannel_fst]
  exact { h with channels := h.channels.ite fun _ => h.channels.modify id hf }

theorem updateRole (h : c.WellKept) (serverId roleId : String) (data : RolePatch)
    (clear : List (ClearName RoleField)) : (c.updateRole serverId roleId data clear).1.WellKept := by
  rw [updateRole_fst]
  exact { h with servers := h.servers.ite fun _ => h.servers.modify serverId fun _ => rfl }

theorem updateMember (h : c.WellKept) (id : MemberId) (data : MemberPatch) (clear : List (ClearName MemberField)) :
    (c.updateMember id data clear).1.WellKept := by
  rw [updateMember_fst]
  exact { h with members := h.members.ite fun _ => h.members.modify id (Member.update_id · data clear) }

theorem updateWebhook (h : c.WellKept) (id : String) (data : WebhookPatch)
    (clear : List (ClearName WebhookField)) : (c.updateWebhook id data clear).1.WellKept := by
  rw [updateWebhook_fst]
  exact { h with webhooks := h.webhooks.ite fun _ => h.webhooks.modify id (Webhook.update_id · data clear) }

theorem insertServer (h : c.WellKept) (server : Server) (channels : List Channel) (emojis : List Emoji) :
    (c.insertServer server channels emojis).1.WellKept := by
  rw [insertServer_fst]
  exact { h with
    servers := h.servers.ite fun ht => h.servers.insert ht server
    channels := h.channels.ite fun ht => .insertMany ht.2 channels h.channels
    emojis := h.emojis.ite fun ht => .insertMany ht.2 emojis h.emojis }

theorem insertChannel (h : c.WellKept) (channel : Channel) : (c.insertChannel channel).1.WellKept := by
  have hlist : Kept c.tracking.servers Server.id (c.serversListing channel) :=
    serversListing_cases h.servers fun serverId => h.servers.modify serverId (Server.addChannel_id · channel.id)
  rw [insertChannel_fst]
  exact { h with
    servers := h.servers.ite fun _ => hlist
    channels := h.channels.ite fun ht => h.channels.insert ht channel }

theorem insertMember (h : c.WellKept) (id : MemberId) : (c.insertMember id).1.WellKept := by
  rw [insertMember_fst]
  exact { h with members := h.members.ite fun ht => h.members.insertIfNew ht (.ofId id) }

theorem insertEmoji (h : c.WellKept) (emoji : Emoji) : (c.insertEmoji emoji).1.WellKept := by
  rw [insertEmoji_fst]
  exact { h with emojis := h.emojis.ite fun ht => h.emojis.insert ht emoji }

theorem insertWebhook (h : c.WellKept) (webhook : Webhook) : (c.insertWebhook webhook).1.WellKept := by
  rw [insertWebhook_fst]
  exact { h with webhooks := h.webhooks.ite fun ht => h.webhooks.insert ht webhook }

theorem withoutServer (h : c.WellKept) (id : String) : (c.withoutServer id).WellKept := by
  unfold Cache.withoutServer
  split
  · exact h
  · rename_i s _
    exact { h with
      servers := h.servers.erase id
      channels := h.channels.eraseMany s.channels
      members := h.members.filter fun m _ => m.server != id }

theorem removeServer (h : c.WellKept) (id : String) : (c.removeServer id).1.WellKept := by
  rw [removeServer_fst]
  split
  · exact h.withoutServer id
  · exact h

theorem removeChannel (h : c.WellKept) (id : String) : (c.removeChannel id).1.WellKept := by
  have hlist : Kept c.tracking.servers Server.id (c.serversUnlisting id) :=
    serversUnlisting_cases h.servers fun serverId => h.servers.modify serverId (Server.removeChannel_id · id)
  rw [removeChannel_fst]
  exact { h with
    servers := h.servers.ite fun _ => hlist
    channels := h.channels.ite fun _ => h.channels.erase id }

theorem removeMember (h : c.WellKept) (id : MemberId) : (c.removeMember id).1.WellKept := by
  have hleft : (c.afterLeaving id).WellKept := afterLeaving_cases h (h.withoutServer id.server)
  rw [removeMember_fst]
  exact { hleft with members := hleft.members.ite fun _ => hleft.members.erase id }

theorem removeRecipient (h : c.WellKept) (channelId userId : String) :
    (c.removeRecipient channelId userId).1.WellKept := by
  rw [removeRecipient_fst]
  refine { h with channels := h.channels.ite fun _ => ?_ }
  split
  · exact h.channels.erase channelId
  · exact h.channels.modify channelId (Channel.removeRecipient_id · userId)

theorem removeRole (h : c.WellKept) (serverId roleId : String) : (c.removeRole serverId roleId).1.WellKept := by
  rw [removeRole_fst]
  exact { h with servers := h.servers.ite fun _ => h.servers.modify serverId fun _ => rfl }

theorem removeEmoji (h : c.WellKept) (id : String) : (c.removeEmoji id).1.WellKept := by
  rw [removeEmoji_fst]
  exact { h with emojis := h.emojis.ite fun _ => h.emojis.erase id }

theorem removeWebhook (h : c.WellKept) (id : String) : (c.removeWebhook id).1.WellKept := by
  rw [removeWebhook_fst]
  exact { h with webhooks := h.webhooks.ite fun _ => h.webhooks.erase id }

theorem removeUser (h : c.WellKept) (id : String) : (c.removeUser id).1.WellKept := by
  rw [removeUser_fst]
  exact { h with users := h.users.ite fun _ => h.users.erase id }

/-- **Every operation keeps a cache well**, whatever its arguments. -/
theorem perform (h : c.WellKept) (op : Operation) : (c.perform op).1.WellKept := by
  cases op with
  | populate s => exact h.populate s
  | updateUser id data clear => exact h.updateUser id data clear
  | updateServer id data clear => exact h.changeServer id (Server.update_id · data clear)
  | updateRole serverId roleId data clear => exact h.updateRole serverId roleId data clear
  | setRoleRanks serverId ranks => exact h.changeServer serverId (Server.setRoleRanks_id · ranks)
  | updateChannel id data clear => exact h.changeChannel id (Channel.update_id · data clear)
  | updateMember id data clear => exact h.updateMember id data clear
  | updateWebhook id data clear => exact h.updateWebhook id data clear
  | insertServer server channels emojis => exact h.insertServer server channels emojis
  | insertChannel channel => exact h.insertChannel channel
  | insertMember id => exact h.insertMember id
  | insertEmoji emoji => exact h.insertEmoji emoji
  | insertWebhook webhook => exact h.insertWebhook webhook
  | addRecipient channelId userId => exact h.changeChannel channelId (Channel.addRecipient_id · userId)
  | removeServer id => exact h.removeServer id
  | removeChannel id => exact h.removeChannel id
  | removeMember id => exact h.removeMember id
  | removeRecipient channelId userId => exact h.removeRecipient channelId userId
  | removeRole serverId roleId => exact h.removeRole serverId roleId
  | removeEmoji id => exact h.removeEmoji id
  | removeWebhook id => exact h.removeWebhook id
  | removeUser id => exact h.removeUser id

theorem run (h : c.WellKept) (ops : List Operation) : (c.run ops).WellKept := by
  induction ops generalizing c with
  | nil => exact h
  | cons op ops ih => exact ih (h.perform op)

/-! ## What is read off a well kept cache -/

theorem membersOf_eq (h : c.WellKept) (serverId : String) :
    c.membersOf serverId = (c.members.toList.filter fun e => e.1.server == serverId).map Prod.snd := by
  unfold membersOf
  rw [List.filter_map]
  congr 1
  apply List.filter_congr
  rintro ⟨k, m⟩ hm
  have hk := h.members.key_eq k m (Std.ExtTreeMap.mem_toList_iff_getElem?_eq_some.1 hm)
  simp only [Function.comp_apply, hk]

/-- Looking a list of channels up leaves the known ones of them, in order. -/
theorem filterMap_channel? (h : c.WellKept) : ∀ ids : List String,
    (ids.filterMap fun id => c.channel? id).map Channel.id = ids.filter fun id => decide (id ∈ c.channels)
  | [] => rfl
  | id :: ids => by
    have ih := h.filterMap_channel? ids
    rw [List.filterMap_cons, List.filter_cons]
    cases hc : c.channel? id with
    | none =>
      have hm : id ∉ c.channels := by
        rw [Std.ExtTreeMap.mem_iff_isSome_getElem?]
        simp only [channel?] at hc
        simp [hc]
      simp only [hm, decide_false, Bool.false_eq_true, if_false]
      exact ih
    | some ch =>
      have hm : id ∈ c.channels := by
        rw [Std.ExtTreeMap.mem_iff_isSome_getElem?]
        simp only [channel?] at hc
        rw [hc]
        rfl
      simp only [hm, decide_true, if_true, List.map_cons]
      rw [ih, h.channels.key_eq id ch hc]

theorem serverChannels_map_id (h : c.WellKept) (serverId : String) :
    (c.serverChannels serverId).map Channel.id =
      (((c.server? serverId).map Server.channels).getD []).filter fun id => decide (id ∈ c.channels) := by
  unfold serverChannels
  cases c.server? serverId with
  | none => rfl
  | some s => exact h.filterMap_channel? s.channels

end WellKept

/-- **What is read off a cache is what its keys spell**: a look-up finds only the entity that was asked for, the
members of a server are the entries under its keys, and its channels are those of its list that are known, in the
order of the list. -/
structure ReadsByKey (c : Cache) : Prop where
  user : ∀ id u, c.user? id = some u → u.id = id
  server : ∀ id s, c.server? id = some s → s.id = id
  channel : ∀ id ch, c.channel? id = some ch → ch.id = id
  member : ∀ serverId userId m, c.member? serverId userId = some m → m.id = ⟨serverId, userId⟩
  emoji : ∀ id e, c.emoji? id = some e → e.id = id
  webhook : ∀ id w, c.webhook? id = some w → w.id = id
  members : ∀ serverId,
    c.membersOf serverId = (c.members.toList.filter fun e => e.1.server == serverId).map Prod.snd
  channels : ∀ serverId, (c.serverChannels serverId).map Channel.id =
    ((c.servers[serverId]?.map Server.channels).getD []).filter fun id => decide (id ∈ c.channels)

theorem WellKept.readsByKey {c : Cache} (h : c.WellKept) : c.ReadsByKey where
  user := h.users.key_eq
  server := h.servers.key_eq
  channel := h.channels.key_eq
  member serverId userId := h.members.key_eq ⟨serverId, userId⟩
  emoji := h.emojis.key_eq
  webhook := h.webhooks.key_eq
  members := h.membersOf_eq
  channels := h.serverChannels_map_id

/-- **Whatever operations a cache has been through since it was empty**, it tracks what it was made to track, holds
every entity under its own identity and nothing of an untracked kind, and is read by its keys. -/
theorem run_empty_wellKept (tracking : Tracking) (ops : List Operation) :
    ((Cache.empty tracking).run ops).tracking = tracking ∧ ((Cache.empty tracking).run ops).WellKept ∧
      ((Cache.empty tracking).run ops).ReadsByKey := by
  have hkept : ((Cache.empty tracking).run ops).WellKept := (WellKept.empty tracking).run ops
  exact ⟨run_tracking ops (Cache.empty tracking), hkept, hkept.readsByKey⟩

end Cache
end ChatClient
