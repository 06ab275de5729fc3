import ChatClient.Proofs.Entity.Fields
/-!
# Changes made twice

Every change of an entity is made by what it says and not by what it finds: a field is set, cleared or left, a name is
put on a list that does not have it or taken off, a role gets its place in a list of ranks.  So a change that is made
again right away finds its work done.
-/
namespace ChatClient

/-! ## Updates -/

theorem User.update_update (u : User) (data : UserPatch) (clear : List (ClearName UserField)) :
    (u.update data clear).update data clear = u.update data clear :=
  byField.update_update u data clear

theorem Role.update_update (r : Role) (data : RolePatch) (clear : List (ClearName RoleField)) :
    (r.update data clear).update data clear = r.update data clear :=
  byField.update_update r data clear

theorem Member.update_update (m : Member) (data : MemberPatch) (clear : List (ClearName MemberField)) :
    (m.update data clear).update data clear = m.update data clear :=
  byField.update_update m data clear

theorem Webhook.update_update (w : Webhook) (data : WebhookPatch) (clear : List (ClearName WebhookField)) :
    (w.update data clear).update data clear = w.update data clear :=
  byField.update_update w data clear

namespace Channel

theorem update_update (c : Channel) (data : ChannelPatch) (clear : List (ClearName ChannelField)) :
    (c.update data clear).update data clear = c.update data clear :=
  byField.update_update c data clear

theorem addRecipient_addRecipient (c : Channel) (userId : String) :
    (c.addRecipient userId).addRecipient userId = c.addRecipient userId := by
  by_cases h : userId ∈ c.recipients <;> simp [addRecipient, h]

theorem removeRecipient_removeRecipient (c : Channel) (userId : String) :
    (c.removeRecipient userId).removeRecipient userId = c.removeRecipient userId := by
  simp [removeRecipient]

end Channel

/-! ## Servers -/

namespace Server

theorem update_update (s : Server) (data : ServerPatch) (clear : List (ClearName ServerField)) :
    (s.update data clear).update data clear = s.update data clear :=
  byField.update_update s data clear

theorem addChannel_addChannel (s : Server) (channelId : String) :
    (s.addChannel channelId).addChannel channelId = s.addChannel channelId := by
  by_cases h : channelId ∈ s.channels <;> simp [addChannel, h]

/-- The rank that a list gives a role: its last place there, counted from `next`. -/
def rankIn? (roleId : String) : Nat → List String → Option Int64
  | _, [] => none
  | next, id :: ranks => (rankIn? roleId (next + 1) ranks).or (if id = roleId then some (Int64.ofNat next) else none)

/-- **A ranking gives each listed role the rank of its last place**, and touches nothing else. -/
theorem getElem?_rankRoles (roleId : String) : ∀ (ranks : List String) (next : Nat) (roles : Table Role),
    (rankRoles roles next ranks)[roleId]? =
      roles[roleId]?.map fun r => { r with rank := (rankIn? roleId next ranks).getD r.rank }
  | [], _, _ => by simp [rankRoles, rankIn?]
  | id :: ranks, next, roles => by
    rw [rankRoles, getElem?_rankRoles roleId ranks, Std.ExtTreeMap.getElem?_modify, rankIn?]
    by_cases h : id = roleId
    · subst h
      cases rankIn? id (next + 1) ranks <;> simp [Function.comp_def]
    · simp [h]

theorem setRoleRanks_setRoleRanks (s : Server) (ranks : List String) :
    (s.setRoleRanks ranks).setRoleRanks ranks = s.setRoleRanks ranks := by
  unfold setRoleRanks
  refine congrArg (fun roles => { s with roles }) (Std.ExtTreeMap.ext_getElem? fun roleId => ?_)
  rw [getElem?_rankRoles, getElem?_rankRoles, Option.map_map]
  cases rankIn? roleId 0 ranks <;> rfl

end Server

end ChatClient
