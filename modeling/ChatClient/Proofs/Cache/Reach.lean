import ChatClient.Proofs.Cache.Independence
/-!
# How far an update reaches

An update is aimed at one target.  If the cache knows the target, what becomes of it is told by the update of the
entity alone (`Amendment.Becomes`); all else stays as it is, and nothing comes or goes (`Reaches`).
-/
namespace ChatClient

open Std (ExtTreeMap TransOrd LawfulEqOrd)

theorem getElem?_amend {κ α : Type} [Ord κ] [TransOrd κ] [LawfulEqOrd κ] [DecidableEq κ] {tracked : Bool}
    {t : ExtTreeMap κ α compare} (h : tracked = false → t = ∅) (k k' : κ) (f : α → α) :
    (amend tracked k f t)[k']? = if k = k' then t[k']?.map f else t[k']? := by
  cases tracked with
  | false => simp [amend, h rfl]
  | true =>
    by_cases hk : k = k' <;> simp [amend, ExtTreeMap.getElem?_modify, hk]

namespace Cache

/-- **A cache knows the target of an update**: the kind is tracked and the target is there, or it is the current
user. -/
def Knows (c : Cache) : Target → Prop
  | .user id => c.tracking.users = true ∧ id ∈ c.users ∨ c.isCurrentUser id = true
  | .server id => c.tracking.servers = true ∧ id ∈ c.servers
  | .role id => c.tracking.servers = true ∧ (c.role? id.server id.role).isSome = true
  | .channel id => c.tracking.channels = true ∧ id ∈ c.channels
  | .member id => c.tracking.members = true ∧ id ∈ c.members
  | .webhook id => c.tracking.webhooks = true ∧ id ∈ c.webhooks

/-- **Two caches know the same of everything but a target.** -/
structure AgreeOff (t : Target) (c c' : Cache) : Prop where
  tracking : c'.tracking = c.tracking
  currentUser : (∀ u, c.currentUser = some u → t ≠ .user u.id) → c'.currentUser = c.currentUser
  users : ∀ id, t ≠ .user id → c'.user? id = c.user? id
  servers : ∀ id, t ≠ .server id → (∀ roleId, t ≠ .role ⟨id, roleId⟩) → c'.server? id = c.server? id
  channels : ∀ id, t ≠ .channel id → c'.channel? id = c.channel? id
  members : ∀ id, t ≠ .member id → c'.members[id]? = c.members[id]?
  emojis : c'.emojis = c.emojis
  webhooks : ∀ id, t ≠ .webhook id → c'.webhook? id = c.webhook? id

/-- **What an update makes of its target**, wherever the cache has it: a user also where it is the current one, and of
a server with the role nothing but this role. -/
def Amendment.Becomes (c c' : Cache) : Amendment → Prop
  | .user u =>
    c'.user? u.id = (c.user? u.id).map (·.update u.data u.clear) ∧
      (c.isCurrentUser u.id = true → c'.currentUser = c.currentUser.map (·.update u.data u.clear))
  | .server u => c'.server? u.id = (c.server? u.id).map (·.update u.data u.clear)
  | .role u => ∀ s, c.server? u.id.server = some s → ∃ roles, c'.server? u.id.server = some { s with roles } ∧
      ∀ roleId, roles[roleId]? =
        if roleId = u.id.role then (s.role? roleId).map (·.update u.data u.clear) else s.role? roleId
  | .channel u => c'.channel? u.id = (c.channel? u.id).map (·.update u.data u.clear)
  | .member u => c'.members[u.id]? = c.members[u.id]?.map (·.update u.data u.clear)
  | .webhook u => c'.webhook? u.id = (c.webhook? u.id).map (·.update u.data u.clear)

/-- **An update reaches its target and nothing else**, and is applied if the target is known. -/
structure Reaches (c : Cache) (a : Amendment) (r : Cache × Outcome) : Prop where
  keys : SameTargets c r.1
  others : AgreeOff a.target c r.1
  becomes : a.Becomes c r.1
  applied_iff : r.2 = .applied ↔ c.Knows a.target

theorem ofFound_eq_applied {found : Bool} : Outcome.ofFound found = .applied ↔ found = true := by
  cases found <;> simp [Outcome.ofFound]

theorem applied_iff_knows (c : Cache) (a : Amendment) : (c.perform a.operation).2 = .applied ↔ c.Knows a.target := by
  cases a with
  | user u =>
    change (c.updateUser _ _ _).2 = _ ↔ _
    rw [updateUser_snd]
    cases ht : c.tracking.users <;> cases hs : c.isCurrentUser u.id <;>
      simp [Knows, Amendment.target, ht, hs, ofFound_eq_applied]
  | server u =>
    change (c.changeServer _ _).2 = _ ↔ _
    rw [changeServer_snd]
    cases ht : c.tracking.servers <;> simp [Knows, Amendment.target, ht, ofFound_eq_applied]
  | role u =>
    change (c.updateRole _ _ _ _).2 = _ ↔ _
    rw [updateRole_snd]
    cases ht : c.tracking.servers <;> simp [Knows, Amendment.target, ht, ofFound_eq_applied]
  | channel u =>
    change (c.changeChannel _ _).2 = _ ↔ _
    rw [changeChannel_snd]
    cases ht : c.tracking.channels <;> simp [Knows, Amendment.target, ht, ofFound_eq_applied]
  | member u =>
    change (c.updateMember _ _ _).2 = _ ↔ _
    rw [updateMember_snd]
    cases ht : c.tracking.members <;> simp [Knows, Amendment.target, ht, ofFound_eq_applied]
  | webhook u =>
    change (c.updateWebhook _ _ _).2 = _ ↔ _
    rw [updateWebhook_snd]
    cases ht : c.tracking.webhooks <;> simp [Knows, Amendment.target, ht, ofFound_eq_applied]

namespace WellKept

variable {c : Cache}

theorem agreeOff (h : c.WellKept) (a : Amendment) : AgreeOff a.target c (c.perform a.operation).1 := by
  rw [perform_amendment]
  have hself : c.currentUser.map id = c.currentUser := Option.map_id_apply
  -- an update of a user changes two parts of the cache and any other update one; what it does not change is left by
  -- `rfl`
  cases a with
  | user u =>
    refine ⟨rfl, fun hother => ?_, fun id hne => ?_, fun _ _ _ => rfl, fun _ _ => rfl, fun _ _ => rfl, rfl,
      fun _ _ => rfl⟩
    · change c.currentUser.map (fun v => if v.id = u.id then v.update u.data u.clear else v) = c.currentUser
      cases hc : c.currentUser with
      | none => rfl
      | some v =>
        have hne : v.id ≠ u.id := fun heq => hother v hc (congrArg Target.user heq.symm)
        rw [Option.map_some, if_neg hne]
    · refine (getElem?_amend h.users.eq_empty u.id id _).trans (if_neg fun heq => hne (congrArg Target.user heq))
  | server u =>
    refine ⟨rfl, fun _ => hself, fun _ _ => rfl, fun id hne _ => ?_, fun _ _ => rfl, fun _ _ => rfl, rfl,
      fun _ _ => rfl⟩
    exact (getElem?_amend h.servers.eq_empty u.id id _).trans (if_neg fun heq => hne (congrArg Target.server heq))
  | role u =>
    refine ⟨rfl, fun _ => hself, fun _ _ => rfl, fun id _ hne => ?_, fun _ _ => rfl, fun _ _ => rfl, rfl,
      fun _ _ => rfl⟩
    refine (getElem?_amend h.servers.eq_empty u.id.server id _).trans (if_neg fun heq => hne u.id.role ?_)
    exact congrArg (fun server => Target.role ⟨server, u.id.role⟩) heq
  | channel u =>
    refine ⟨rfl, fun _ => hself, fun _ _ => rfl, fun _ _ _ => rfl, fun id hne => ?_, fun _ _ => rfl, rfl,
      fun _ _ => rfl⟩
    exact (getElem?_amend h.channels.eq_empty u.id id _).trans (if_neg fun heq => hne (congrArg Target.channel heq))
  | member u =>
    refine ⟨rfl, fun _ => hself, fun _ _ => rfl, fun _ _ _ => rfl, fun _ _ => rfl, fun id hne => ?_, rfl,
      fun _ _ => rfl⟩
    exact (getElem?_amend h.members.eq_empty u.id id _).trans (if_neg fun heq => hne (congrArg Target.member heq))
  | webhook u =>
    refine ⟨rfl, fun _ => hself, fun _ _ => rfl, fun _ _ _ => rfl, fun _ _ => rfl, fun _ _ => rfl, rfl,
      fun id hne => ?_⟩
    exact (getElem?_amend h.webhooks.eq_empty u.id id _).trans (if_neg fun heq => hne (congrArg Target.webhook heq))

theorem becomes (h : c.WellKept) (a : Amendment) : a.Becomes c (c.perform a.operation).1 := by
  rw [perform_amendment]
  cases a with
  | user u =>
    refine ⟨(getElem?_amend h.users.eq_empty u.id u.id _).trans (if_pos rfl), fun hs => ?_⟩
    change c.currentUser.map (fun v => if v.id = u.id then v.update u.data u.clear else v) = _
    unfold isCurrentUser at hs
    cases hc : c.currentUser with
    | none => rfl
    | some v =>
      have hid : v.id = u.id := by simpa [hc] using hs
      rw [Option.map_some, if_pos hid, Option.map_some]
  | server u => exact (getElem?_amend h.servers.eq_empty u.id u.id _).trans (if_pos rfl)
  | role u =>
    -- a table of roles is known by its entries, so that nothing is said of how it is edited
    intro s hs
    refine ⟨(roleUpdated u s).roles, ?_, fun roleId => ?_⟩
    · refine (getElem?_amend h.servers.eq_empty u.id.server u.id.server _).trans ?_
      rw [server?] at hs
      rw [if_pos rfl, hs]
      rfl
    · by_cases hr : u.id.role = roleId
      · simp [roleUpdated, Server.role?, hr]
      · simp [roleUpdated, Server.role?, ExtTreeMap.getElem?_modify, hr, Ne.symm hr]
  | channel u => exact (getElem?_amend h.channels.eq_empty u.id u.id _).trans (if_pos rfl)
  | member u => exact (getElem?_amend h.members.eq_empty u.id u.id _).trans (if_pos rfl)
  | webhook u => exact (getElem?_amend h.webhooks.eq_empty u.id u.id _).trans (if_pos rfl)

end WellKept

/-- **An update changes its target and nothing else**, at any time in the life of a cache and whatever it sets and
clears. -/
theorem update_reaches (tracking : Tracking) (ops : List Operation) (a : Amendment) :
    ((Cache.empty tracking).run ops).Reaches a (((Cache.empty tracking).run ops).perform a.operation) := by
  have h : ((Cache.empty tracking).run ops).WellKept := (WellKept.empty tracking).run ops
  exact ⟨sameTargets_perform _ a, h.agreeOff a, h.becomes a, applied_iff_knows _ a⟩

end Cache
end ChatClient
