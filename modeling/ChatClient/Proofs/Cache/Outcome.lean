import ChatClient.Proofs.Cache.Effect
/-!
# What an outcome says of the cache

An operation that reports an unknown target or an untracked kind leaves the whole cache as it was, with one exception:
the removal of a channel that is not known takes it off the list of a server that still shows it, and reports an
unknown target all the same (`tidiesList`).
-/
namespace ChatClient
namespace Cache

/-! ## The list that an unknown channel is taken off -/

def Lists (c : Cache) (serverId channelId : String) : Prop :=
  ∃ s, c.servers[serverId]? = some s ∧ channelId ∈ s.channels

/-- An operation removes a channel that is not known but still on the list of a server. -/
def TidiesList (c : Cache) : Operation → Prop
  | .removeChannel id => c.tracking.channels = true ∧ id ∉ c.channels ∧ ∃ serverId, c.Lists serverId id
  | _ => False

theorem lists_of_serverListing? {c : Cache} {id serverId : String} (h : c.serverListing? id = some serverId) :
    c.Lists serverId id := by
  obtain ⟨⟨k, s⟩, hf, rfl⟩ := Option.map_eq_some_iff.1 h
  refine ⟨s, Std.ExtTreeMap.mem_toList_iff_getElem?_eq_some.1 (List.mem_of_find?_eq_some hf), ?_⟩
  simpa using List.find?_some hf

theorem not_lists_of_serverListing? {c : Cache} {id : String} (h : c.serverListing? id = none) (serverId : String) :
    ¬ c.Lists serverId id := by
  rintro ⟨s, hs, hid⟩
  have hnone := List.find?_eq_none.1 (Option.map_eq_none_iff.1 h) (serverId, s)
    (Std.ExtTreeMap.mem_toList_iff_getElem?_eq_some.2 hs)
  exact hnone (by simpa using hid)

theorem serversUnlisting_of_not_mem {c : Cache} {id : String} (h : id ∉ c.channels) :
    c.serversUnlisting id = match c.serverListing? id with
      | some serverId => c.servers.modify serverId (·.removeChannel id)
      | none => c.servers := by
  have hnone : c.channel? id = none := Std.ExtTreeMap.getElem?_eq_none h
  unfold serversUnlisting ownerOf?
  rw [hnone]
  rfl

theorem removeChannel_snd (c : Cache) (id : String) :
    (c.removeChannel id).2 = if c.tracking.channels then .ofFound (decide (id ∈ c.channels)) else .untracked := by
  unfold removeChannel
  cases c.tracking.channels with
  | false => rfl
  | true => by_cases hm : id ∈ c.channels <;> simp [channel?, hm]

/-- Removing a channel that is not known reports that, and leaves one server with a shorter list if any lists it. -/
theorem removeChannel_of_tidiesList {c : Cache} {id : String} (h : c.TidiesList (.removeChannel id)) :
    (c.removeChannel id).2 = .unknownTarget ∧ ∃ serverId, c.Lists serverId id ∧
      (c.removeChannel id).1 = { c with servers := c.servers.modify serverId (·.removeChannel id) } := by
  obtain ⟨ht, hm, serverId, hlists⟩ := h
  refine ⟨by simp [removeChannel_snd, ht, hm, Outcome.ofFound], ?_⟩
  cases hl : c.serverListing? id with
  | none => exact absurd hlists (not_lists_of_serverListing? hl serverId)
  | some first =>
    refine ⟨first, lists_of_serverListing? hl, ?_⟩
    rw [removeChannel_fst, if_pos ht, if_pos ht, erase_of_not_mem hm, serversUnlisting_of_not_mem hm, hl]

theorem modify_removeChannel_ne {c : Cache} {serverId id : String} (h : c.Lists serverId id) :
    c.servers.modify serverId (·.removeChannel id) ≠ c.servers := by
  obtain ⟨s, hs, hid⟩ := h
  intro hsame
  have hat := Std.ExtTreeMap.getElem?_modify_self (t := c.servers) (k := serverId) (f := (·.removeChannel id))
  rw [hsame, hs, Option.map_some, Option.some.injEq] at hat
  have hlist : s.channels = s.channels.filter (· != id) := congrArg Server.channels hat
  rw [hlist] at hid
  simp at hid

/-! ## Truthful outcomes -/

/-- **An outcome that says the operation was not applied is true of the whole cache.** -/
def Truthful (c : Cache) (r : Cache × Outcome) : Prop :=
  r.2 ≠ .applied → r.1 = c

namespace Truthful

variable {c c' : Cache} {r r' : Cache × Outcome}

theorem applied : c.Truthful (c', .applied) := fun h => absurd rfl h

theorem same (o : Outcome) : c.Truthful (c, o) := fun _ => rfl

theorem ite {p : Prop} [Decidable p] (h : p → c.Truthful r) (h' : ¬ p → c.Truthful r') :
    c.Truthful (if p then r else r') := by
  split
  · rename_i hp
    exact h hp
  · rename_i hp
    exact h' hp

theorem guard {tracked : Bool} (h : c.Truthful r) : c.Truthful (if !tracked then (c, .untracked) else r) :=
  .ite (fun _ => .same .untracked) fun _ => h

theorem ofFound {found : Bool} (h : found = false → c' = c) : c.Truthful (c', .ofFound found) := by
  cases found with
  | false => exact fun _ => h rfl
  | true => exact .applied

variable (c)

theorem updateUser (id : String) (data : UserPatch) (clear : List (ClearName UserField)) :
    c.Truthful (c.updateUser id data clear) := by
  unfold Cache.updateUser
  cases c.isCurrentUser id with
  | false => exact .guard (.ite (fun _ => .applied) fun _ => .same _)
  | true => exact .ite (fun _ => .applied) fun _ => .ite (fun _ => .applied) fun _ => .applied

theorem changeServer (id : String) (f : Server → Server) : c.Truthful (c.changeServer id f) :=
  .guard (.ite (fun _ => .applied) fun _ => .same _)

theorem changeChannel (id : String) (f : Channel → Channel) : c.Truthful (c.changeChannel id f) :=
  .guard (.ite (fun _ => .applied) fun _ => .same _)

theorem updateRole (serverId roleId : String) (data : RolePatch) (clear : List (ClearName RoleField)) :
    c.Truthful (c.updateRole serverId roleId data clear) :=
  .guard (.ite (fun _ => .applied) fun _ => .same _)

theorem updateMember (id : MemberId) (data : MemberPatch) (clear : List (ClearName MemberField)) :
    c.Truthful (c.updateMember id data clear) :=
  .guard (.ite (fun _ => .applied) fun _ => .same _)

theorem updateWebhook (id : String) (data : WebhookPatch) (clear : List (ClearName WebhookField)) :
    c.Truthful (c.updateWebhook id data clear) :=
  .guard (.ite (fun _ => .applied) fun _ => .same _)

theorem removeServer (id : String) : c.Truthful (c.removeServer id) := by
  refine .guard (.ofFound fun hm => ?_)
  have hnone : c.server? id = none := Std.ExtTreeMap.getElem?_eq_none (of_decide_eq_false hm)
  exact withoutServer_of_none hnone

theorem removeMember (id : MemberId) : c.Truthful (c.removeMember id) := by
  unfold Cache.removeMember
  cases c.isCurrentUser id.user with
  | false =>
    refine .guard (.ofFound fun hm => ?_)
    rw [Bool.or_false] at hm
    exact congrArg (fun members => { c with members }) (erase_of_not_mem (of_decide_eq_false hm))
  | true => exact .ite (fun _ => .applied) fun _ => .ofFound fun hm => by simp at hm

theorem removeRecipient (channelId userId : String) : c.Truthful (c.removeRecipient channelId userId) := by
  refine .guard (.ite (fun _ => .ofFound fun hm => ?_) fun _ => changeChannel c channelId _)
  exact congrArg (fun channels => { c with channels }) (erase_of_not_mem (of_decide_eq_false hm))

/-- Taking a role that is not there out of a server leaves the server as it is. -/
theorem removeRole (serverId roleId : String) : c.Truthful (c.removeRole serverId roleId) := by
  refine .guard (.ofFound fun hr => ?_)
  have hnone : c.role? serverId roleId = none := by
    cases h : c.role? serverId roleId with
    | none => rfl
    | some r => rw [h] at hr; cases hr
  refine congrArg (fun servers => { c with servers }) (modify_eq_self fun s hs => ?_)
  rw [erase_of_not_mem (role?_eq_none hnone s hs)]

theorem removeEmoji (id : String) : c.Truthful (c.removeEmoji id) :=
  .guard (.ofFound fun hm => congrArg (fun emojis => { c with emojis }) (erase_of_not_mem (of_decide_eq_false hm)))

theorem removeWebhook (id : String) : c.Truthful (c.removeWebhook id) :=
  .guard (.ofFound fun hm => congrArg (fun webhooks => { c with webhooks }) (erase_of_not_mem (of_decide_eq_false hm)))

theorem removeUser (id : String) : c.Truthful (c.removeUser id) :=
  .guard (.ofFound fun hm => congrArg (fun users => { c with users }) (erase_of_not_mem (of_decide_eq_false hm)))

/-- A removal is true to its outcome exactly where no list shows the channel that it does not know. -/
theorem removeChannel_iff (id : String) : c.Truthful (c.removeChannel id) ↔ ¬ c.TidiesList (.removeChannel id) := by
  constructor
  · intro h htidies
    obtain ⟨ho, serverId, hlists, hc⟩ := removeChannel_of_tidiesList htidies
    have hsame := h (by rw [ho]; simp)
    rw [hc] at hsame
    exact modify_removeChannel_ne hlists (congrArg Cache.servers hsame)
  · intro h ho
    rw [removeChannel_snd] at ho
    rw [removeChannel_fst]
    cases ht : c.tracking.channels with
    | false => rfl
    | true =>
      have hm : id ∉ c.channels := by
        intro hm
        rw [if_pos ht, decide_eq_true hm] at ho
        exact ho rfl
      have hl : c.serverListing? id = none := by
        cases hl : c.serverListing? id with
        | none => rfl
        | some serverId => exact absurd ⟨ht, hm, serverId, lists_of_serverListing? hl⟩ h
      simp [erase_of_not_mem hm, serversUnlisting_of_not_mem hm, hl]

end Truthful

/-- **An operation that was not applied leaves the cache as it was, unless it takes an unknown channel off a list.** -/
theorem truthful_perform_iff (c : Cache) (op : Operation) : c.Truthful (c.perform op) ↔ ¬ c.TidiesList op := by
  cases op with
  | removeChannel id => exact Truthful.removeChannel_iff c id
  | populate s => exact iff_of_true .applied id
  | updateUser id data clear => exact iff_of_true (.updateUser c id data clear) fun h => h
  | updateServer id data clear => exact iff_of_true (.changeServer c id _) fun h => h
  | updateRole serverId roleId data clear => exact iff_of_true (.updateRole c serverId roleId data clear) fun h => h
  | setRoleRanks serverId ranks => exact iff_of_true (.changeServer c serverId _) fun h => h
  | updateChannel id data clear => exact iff_of_true (.changeChannel c id _) fun h => h
  | updateMember id data clear => exact iff_of_true (.updateMember c id data clear) fun h => h
  | updateWebhook id data clear => exact iff_of_true (.updateWebhook c id data clear) fun h => h
  | insertServer server channels emojis => exact iff_of_true (.guard .applied) fun h => h
  | insertChannel channel => exact iff_of_true (.guard .applied) fun h => h
  | insertMember id => exact iff_of_true (.guard .applied) fun h => h
  | insertEmoji emoji => exact iff_of_true (.guard .applied) fun h => h
  | insertWebhook webhook => exact iff_of_true (.guard .applied) fun h => h
  | addRecipient channelId userId => exact iff_of_true (.changeChannel c channelId _) fun h => h
  | removeServer id => exact iff_of_true (.removeServer c id) fun h => h
  | removeMember id => exact iff_of_true (.removeMember c id) fun h => h
  | removeRecipient channelId userId => exact iff_of_true (.removeRecipient c channelId userId) fun h => h
  | removeRole serverId roleId => exact iff_of_true (.removeRole c serverId roleId) fun h => h
  | removeEmoji id => exact iff_of_true (.removeEmoji c id) fun h => h
  | removeWebhook id => exact iff_of_true (.removeWebhook c id) fun h => h
  | removeUser id => exact iff_of_true (.removeUser c id) fun h => h

/-- A server came with a list of one channel, and the channel itself did not come: its removal is reported as one of an
unknown target, and the list is empty afterwards. -/
theorem not_truthful_of_listed_channel :
    ¬ ∀ (tracking : Tracking) (ops : List Operation) (op : Operation),
      ((Cache.empty tracking).run ops).Truthful (((Cache.empty tracking).run ops).perform op) := by
  intro h
  let server : Server := { (default : Server) with id := "s", channels := ["c"] }
  have htruthful := h .standard [.insertServer server [] []] (.removeChannel "c")
  refine (Truthful.removeChannel_iff _ "c").1 htruthful ⟨rfl, ?_, "s", server, ?_, ?_⟩
  · simp [run, perform, insertServer, empty, Tracking.standard]
  · simp [run, perform, insertServer, empty, Tracking.standard, server]
  · simp [server]

end Cache
end ChatClient
