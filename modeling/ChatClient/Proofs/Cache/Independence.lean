import ChatClient.Event.Update
import ChatClient.Proofs.Cache.Keys
import Mathlib.Logic.Function.Conjugate
/-!
# Updates in either order

What an update makes of a part of the cache hangs on this part alone (`Cache.Edit`), and no update adds or removes
anything, so that it goes the same way before and after any other (`SameTargets`).  Two updates therefore come to the
same in either order as soon as they are aimed at different targets, and only then (`updates_commute_iff`): a server
and one of its roles are two targets, although they are kept in one place.
-/
namespace ChatClient

open Std (ExtTreeMap TransOrd LawfulEqOrd)

section

variable {κ α : Type} [Ord κ] [TransOrd κ]

def amend (tracked : Bool) (k : κ) (f : α → α) (t : ExtTreeMap κ α compare) : ExtTreeMap κ α compare :=
  if tracked then t.modify k f else t

theorem mem_amend {tracked : Bool} {k k' : κ} {f : α → α} {t : ExtTreeMap κ α compare} :
    k' ∈ amend tracked k f t ↔ k' ∈ t := by
  cases tracked with
  | false => rfl
  | true => exact ExtTreeMap.mem_modify

variable [LawfulEqOrd κ]

/-- Changes under two keys come to the same in either order; so do two changes under one key that do so themselves. -/
theorem modify_comm {k k' : κ} {f g : α → α} (h : k = k' → Function.Commute f g) (t : ExtTreeMap κ α compare) :
    (t.modify k' g).modify k f = (t.modify k f).modify k' g := by
  apply ExtTreeMap.ext_getElem?
  intro x
  simp only [ExtTreeMap.getElem?_modify, Std.LawfulEqCmp.compare_eq_iff_eq]
  by_cases hk : k = x
  · by_cases hk' : k' = x
    · have hmap : f ∘ g = g ∘ f := funext (h (hk.trans hk'.symm)).eq
      simp [hk, hk', Option.map_map, hmap]
    · simp [hk, hk']
  · by_cases hk' : k' = x
    · simp [hk, hk']
    · simp [hk, hk']

theorem amend_commute (tracked : Bool) {k k' : κ} {f g : α → α} (h : k = k' → Function.Commute f g) :
    Function.Commute (amend tracked k f) (amend tracked k' g) := by
  intro t
  cases tracked with
  | false => rfl
  | true => exact modify_comm h t

end

namespace Cache

/-! ## Updates and their targets -/

inductive Amendment where
  | user (u : UserUpdate)
  | server (u : ServerUpdate)
  | role (u : RoleUpdate)
  | channel (u : ChannelUpdate)
  | member (u : MemberUpdate)
  | webhook (u : WebhookUpdate)

inductive Target where
  | user (id : String)
  | server (id : String)
  | role (id : RoleTarget)
  | channel (id : String)
  | member (id : MemberId)
  | webhook (id : String)
deriving DecidableEq

namespace Amendment

def operation : Amendment → Operation
  | .user u => .updateUser u.id u.data u.clear
  | .server u => .updateServer u.id u.data u.clear
  | .role u => .updateRole u.id.server u.id.role u.data u.clear
  | .channel u => .updateChannel u.id u.data u.clear
  | .member u => .updateMember u.id u.data u.clear
  | .webhook u => .updateWebhook u.id u.data u.clear

def target : Amendment → Target
  | .user u => .user u.id
  | .server u => .server u.id
  | .role u => .role u.id
  | .channel u => .channel u.id
  | .member u => .member u.id
  | .webhook u => .webhook u.id

end Amendment

/-! ## Edits -/

structure Edit where
  self : User → User := id
  users : Table User → Table User := id
  servers : Table Server → Table Server := id
  channels : Table Channel → Table Channel := id
  members : MemberTable → MemberTable := id
  webhooks : Table Webhook → Table Webhook := id

namespace Edit

def apply (e : Edit) (c : Cache) : Cache :=
  { c with
    currentUser := c.currentUser.map e.self
    users := e.users c.users
    servers := e.servers c.servers
    channels := e.channels c.channels
    members := e.members c.members
    webhooks := e.webhooks c.webhooks }

/-- Two edits come to the same in either order, part by part. -/
structure Commute (e e' : Edit) : Prop where
  self : Function.Commute e.self e'.self
  users : Function.Commute e.users e'.users
  servers : Function.Commute e.servers e'.servers
  channels : Function.Commute e.channels e'.channels
  members : Function.Commute e.members e'.members
  webhooks : Function.Commute e.webhooks e'.webhooks

theorem Commute.apply_apply {e e' : Edit} (h : Commute e e') (c : Cache) :
    e.apply (e'.apply c) = e'.apply (e.apply c) := by
  have hself : e.self ∘ e'.self = e'.self ∘ e.self := funext h.self.eq
  simp only [apply, Option.map_map, hself, h.users.eq, h.servers.eq, h.channels.eq, h.members.eq, h.webhooks.eq]

end Edit

def roleUpdated (u : RoleUpdate) (s : Server) : Server :=
  { s with roles := s.roles.modify u.id.role (·.update u.data u.clear) }

def Amendment.edit (tracking : Tracking) : Amendment → Edit
  | .user u =>
    { self := fun v => if v.id = u.id then v.update u.data u.clear else v
      users := amend tracking.users u.id (·.update u.data u.clear) }
  | .server u => { servers := amend tracking.servers u.id (·.update u.data u.clear) }
  | .role u => { servers := amend tracking.servers u.id.server (roleUpdated u) }
  | .channel u => { channels := amend tracking.channels u.id (·.update u.data u.clear) }
  | .member u => { members := amend tracking.members u.id (·.update u.data u.clear) }
  | .webhook u => { webhooks := amend tracking.webhooks u.id (·.update u.data u.clear) }

/-- **An update is an edit**: what becomes of a part of the cache hangs on this part and on what is tracked. -/
theorem perform_amendment (c : Cache) (a : Amendment) : (c.perform a.operation).1 = (a.edit c.tracking).apply c := by
  cases a with
  | user u =>
    have hself : (if c.isCurrentUser u.id then c.currentUser.map (·.update u.data u.clear) else c.currentUser) =
        c.currentUser.map fun v => if v.id = u.id then v.update u.data u.clear else v := by
      unfold isCurrentUser
      cases c.currentUser with
      | none => rfl
      | some v => by_cases hv : v.id = u.id <;> simp [hv]
    exact (updateUser_fst c _ _ _).trans (by rw [hself]; rfl)
  | server u => exact (changeServer_fst c _ _).trans (by simp [Edit.apply, Amendment.edit, amend])
  | role u => exact (updateRole_fst c _ _ _ _).trans (by simp [Edit.apply, Amendment.edit, amend]; rfl)
  | channel u => exact (changeChannel_fst c _ _).trans (by simp [Edit.apply, Amendment.edit, amend])
  | member u => exact (updateMember_fst c _ _ _).trans (by simp [Edit.apply, Amendment.edit, amend])
  | webhook u => exact (updateWebhook_fst c _ _ _).trans (by simp [Edit.apply, Amendment.edit, amend])

/-! ## Either order -/

theorem serverUpdate_commute_roleUpdated (u : ServerUpdate) (v : RoleUpdate) :
    Function.Commute (fun s : Server => s.update u.data u.clear) (roleUpdated v) :=
  fun _ => rfl

theorem roleUpdated_commute {u v : RoleUpdate} (h : u.id.role ≠ v.id.role) :
    Function.Commute (roleUpdated u) (roleUpdated v) := by
  intro s
  have hroles := modify_comm (f := (·.update u.data u.clear)) (g := (·.update v.data v.clear))
    (fun heq => absurd heq h) s.roles
  simp only [roleUpdated, hroles]

/-- The current user is one user: of two updates of different users at most one is of the current one. -/
theorem self_commute {u v : UserUpdate} (h : u.id ≠ v.id) :
    Function.Commute (fun w : User => if w.id = u.id then w.update u.data u.clear else w)
      (fun w : User => if w.id = v.id then w.update v.data v.clear else w) := by
  intro w
  by_cases hu : w.id = u.id
  · simp [hu, h, User.update_id]
  · by_cases hv : w.id = v.id
    · simp [hv, h.symm, User.update_id]
    · simp [hu, hv]

/-- **Updates of different targets are edits that come to the same in either order.** -/
theorem edit_commute (tracking : Tracking) {a b : Amendment} (h : a.target ≠ b.target) :
    (a.edit tracking).Commute (b.edit tracking) := by
  cases a <;> cases b
  case user.user u v =>
    have hid : u.id ≠ v.id := fun heq => h (congrArg Target.user heq)
    exact ⟨self_commute hid, amend_commute _ fun heq => absurd heq hid, .id_left, .id_left, .id_left, .id_left⟩
  case server.server u v =>
    have hid : u.id ≠ v.id := fun heq => h (congrArg Target.server heq)
    exact ⟨.id_left, .id_left, amend_commute _ fun heq => absurd heq hid, .id_left, .id_left, .id_left⟩
  case server.role u v =>
    have hrole := serverUpdate_commute_roleUpdated u v
    exact ⟨.id_left, .id_left, amend_commute _ fun _ => hrole, .id_left, .id_left, .id_left⟩
  case role.server u v =>
    have hserver := (serverUpdate_commute_roleUpdated v u).symm
    exact ⟨.id_left, .id_left, amend_commute _ fun _ => hserver, .id_left, .id_left, .id_left⟩
  case role.role u v =>
    have hid : u.id.server = v.id.server → u.id.role ≠ v.id.role := by
      intro hserver hrole
      exact h (congrArg Target.role (by cases hu : u.id; cases hv : v.id; simp_all))
    exact ⟨.id_left, .id_left, amend_commute _ fun heq => roleUpdated_commute (hid heq), .id_left, .id_left, .id_left⟩
  case channel.channel u v =>
    have hid : u.id ≠ v.id := fun heq => h (congrArg Target.channel heq)
    exact ⟨.id_left, .id_left, .id_left, amend_commute _ fun heq => absurd heq hid, .id_left, .id_left⟩
  case member.member u v =>
    have hid : u.id ≠ v.id := fun heq => h (congrArg Target.member heq)
    exact ⟨.id_left, .id_left, .id_left, .id_left, amend_commute _ fun heq => absurd heq hid, .id_left⟩
  case webhook.webhook u v =>
    have hid : u.id ≠ v.id := fun heq => h (congrArg Target.webhook heq)
    exact ⟨.id_left, .id_left, .id_left, .id_left, .id_left, amend_commute _ fun heq => absurd heq hid⟩
  -- any other two are changes of different parts
  all_goals exact ⟨.id_left, .id_left, .id_left, .id_left, .id_left, .id_left⟩

/-! ## Outcomes -/

theorem updateUser_snd (c : Cache) (id : String) (data : UserPatch) (clear : List (ClearName UserField)) :
    (c.updateUser id data clear).2 =
      if c.tracking.users then .ofFound (decide (id ∈ c.users) || c.isCurrentUser id)
      else if c.isCurrentUser id then .applied else .untracked := by
  unfold updateUser
  cases ht : c.tracking.users <;> cases hs : c.isCurrentUser id <;> by_cases hm : id ∈ c.users <;>
    simp [ht, hm, Outcome.ofFound]

theorem changeServer_snd (c : Cache) (id : String) (f : Server → Server) :
    (c.changeServer id f).2 = if c.tracking.servers then .ofFound (decide (id ∈ c.servers)) else .untracked := by
  unfold changeServer
  cases c.tracking.servers <;> by_cases hm : id ∈ c.servers <;> simp [hm, Outcome.ofFound]

theorem changeChannel_snd (c : Cache) (id : String) (f : Channel → Channel) :
    (c.changeChannel id f).2 = if c.tracking.channels then .ofFound (decide (id ∈ c.channels)) else .untracked := by
  unfold changeChannel
  cases c.tracking.channels <;> by_cases hm : id ∈ c.channels <;> simp [hm, Outcome.ofFound]

theorem updateRole_snd (c : Cache) (serverId roleId : String) (data : RolePatch) (clear : List (ClearName RoleField)) :
    (c.updateRole serverId roleId data clear).2 =
      if c.tracking.servers then .ofFound (c.role? serverId roleId).isSome else .untracked := by
  unfold updateRole
  cases c.tracking.servers <;> cases hr : (c.role? serverId roleId).isSome <;> simp [Outcome.ofFound]

theorem updateMember_snd (c : Cache) (id : MemberId) (data : MemberPatch) (clear : List (ClearName MemberField)) :
    (c.updateMember id data clear).2 =
      if c.tracking.members then .ofFound (decide (id ∈ c.members)) else .untracked := by
  unfold updateMember
  cases c.tracking.members <;> by_cases hm : id ∈ c.members <;> simp [hm, Outcome.ofFound]

theorem updateWebhook_snd (c : Cache) (id : String) (data : WebhookPatch) (clear : List (ClearName WebhookField)) :
    (c.updateWebhook id data clear).2 =
      if c.tracking.webhooks then .ofFound (decide (id ∈ c.webhooks)) else .untracked := by
  unfold updateWebhook
  cases c.tracking.webhooks <;> by_cases hm : id ∈ c.webhooks <;> simp [hm, Outcome.ofFound]

structure SameTargets (c c' : Cache) : Prop where
  tracking : c'.tracking = c.tracking
  self (id : String) : c'.isCurrentUser id = c.isCurrentUser id
  users (id : String) : id ∈ c'.users ↔ id ∈ c.users
  servers (id : String) : id ∈ c'.servers ↔ id ∈ c.servers
  roles (serverId roleId : String) : (c'.role? serverId roleId).isSome = (c.role? serverId roleId).isSome
  channels (id : String) : id ∈ c'.channels ↔ id ∈ c.channels
  members (id : MemberId) : id ∈ c'.members ↔ id ∈ c.members
  webhooks (id : String) : id ∈ c'.webhooks ↔ id ∈ c.webhooks

theorem SameTargets.outcome {c c' : Cache} (h : SameTargets c c') (a : Amendment) :
    (c'.perform a.operation).2 = (c.perform a.operation).2 := by
  cases a with
  | user u =>
    change (c'.updateUser _ _ _).2 = (c.updateUser _ _ _).2
    simp only [updateUser_snd, h.tracking, h.self, h.users]
  | server u =>
    change (c'.changeServer _ _).2 = (c.changeServer _ _).2
    simp only [changeServer_snd, h.tracking, h.servers]
  | role u =>
    change (c'.updateRole _ _ _ _).2 = (c.updateRole _ _ _ _).2
    simp only [updateRole_snd, h.tracking, h.roles]
  | channel u =>
    change (c'.changeChannel _ _).2 = (c.changeChannel _ _).2
    simp only [changeChannel_snd, h.tracking, h.channels]
  | member u =>
    change (c'.updateMember _ _ _).2 = (c.updateMember _ _ _).2
    simp only [updateMember_snd, h.tracking, h.members]
  | webhook u =>
    change (c'.updateWebhook _ _ _).2 = (c.updateWebhook _ _ _).2
    simp only [updateWebhook_snd, h.tracking, h.webhooks]

theorem isCurrentUser_apply {e : Edit} (h : ∀ v, (e.self v).id = v.id) (c : Cache) (id : String) :
    (e.apply c).isCurrentUser id = c.isCurrentUser id := by
  unfold isCurrentUser Edit.apply
  cases c.currentUser with
  | none => rfl
  | some v => simp [h]

/-- A server whose change leaves it the roles that it has keeps them in the cache. -/
theorem roles_apply {tracked : Bool} {id : String} {f : Server → Server}
    (hf : ∀ s roleId, ((f s).role? roleId).isSome = (s.role? roleId).isSome) (c : Cache) (serverId roleId : String) :
    ((Edit.apply { servers := amend tracked id f } c).role? serverId roleId).isSome =
      (c.role? serverId roleId).isSome := by
  change ((amend tracked id f c.servers)[serverId]?.bind (·.role? roleId)).isSome =
    (c.servers[serverId]?.bind (·.role? roleId)).isSome
  cases tracked with
  | false => rfl
  | true =>
    change ((c.servers.modify id f)[serverId]?.bind (·.role? roleId)).isSome = _
    simp only [ExtTreeMap.getElem?_modify, Std.LawfulEqCmp.compare_eq_iff_eq]
    by_cases hid : id = serverId
    · subst hid
      cases c.servers[id]? with
      | none => simp
      | some s => simpa using hf s roleId
    · rw [if_neg hid]

/-- **An update adds and removes nothing.** -/
theorem sameTargets_perform (c : Cache) (a : Amendment) : SameTargets c (c.perform a.operation).1 := by
  rw [perform_amendment]
  have hself (v : User) : (id v).id = v.id := rfl
  cases a with
  | user u =>
    refine ⟨rfl, isCurrentUser_apply (fun v => ?_) c, fun _ => mem_amend, fun _ => .rfl, fun _ _ => rfl, fun _ => .rfl,
      fun _ => .rfl, fun _ => .rfl⟩
    dsimp only [Amendment.edit]
    split
    · rw [User.update_id]
    · rfl
  | server u =>
    have hroles (s : Server) (roleId : String) :
        ((s.update u.data u.clear).role? roleId).isSome = (s.role? roleId).isSome := rfl
    exact ⟨rfl, isCurrentUser_apply hself c, fun _ => .rfl, fun _ => mem_amend, roles_apply hroles c, fun _ => .rfl,
      fun _ => .rfl, fun _ => .rfl⟩
  | role u =>
    have hroles (s : Server) (roleId : String) : ((roleUpdated u s).role? roleId).isSome = (s.role? roleId).isSome := by
      rw [Bool.eq_iff_iff]
      simp only [Server.role?, ← ExtTreeMap.mem_iff_isSome_getElem?]
      exact ExtTreeMap.mem_modify
    exact ⟨rfl, isCurrentUser_apply hself c, fun _ => .rfl, fun _ => mem_amend, roles_apply hroles c, fun _ => .rfl,
      fun _ => .rfl, fun _ => .rfl⟩
  | channel u =>
    exact ⟨rfl, isCurrentUser_apply hself c, fun _ => .rfl, fun _ => .rfl, fun _ _ => rfl, fun _ => mem_amend,
      fun _ => .rfl, fun _ => .rfl⟩
  | member u =>
    exact ⟨rfl, isCurrentUser_apply hself c, fun _ => .rfl, fun _ => .rfl, fun _ _ => rfl, fun _ => .rfl,
      fun _ => mem_amend, fun _ => .rfl⟩
  | webhook u =>
    exact ⟨rfl, isCurrentUser_apply hself c, fun _ => .rfl, fun _ => .rfl, fun _ _ => rfl, fun _ => .rfl,
      fun _ => .rfl, fun _ => mem_amend⟩

/-! ## The law -/

/-- Two operations come to the same cache in either order, and each goes as it goes without the other before it. -/
structure Commute (c : Cache) (a b : Operation) : Prop where
  cache : ((c.perform a).1.perform b).1 = ((c.perform b).1.perform a).1
  first : ((c.perform b).1.perform a).2 = (c.perform a).2
  second : ((c.perform a).1.perform b).2 = (c.perform b).2

theorem Commute.of_ne (c : Cache) {a b : Amendment} (h : a.target ≠ b.target) : c.Commute a.operation b.operation := by
  refine ⟨?_, (sameTargets_perform c b).outcome a, (sameTargets_perform c a).outcome b⟩
  have hcommute := (edit_commute c.tracking h.symm).apply_apply c
  rw [perform_amendment, perform_tracking, perform_amendment c a]
  rw [perform_amendment _ a, perform_tracking, perform_amendment c b]
  exact hcommute

/-! ## One target -/

namespace Target

def naming (name : String) : Target → Amendment
  | .user id => .user ⟨id, { (default : UserPatch) with username := some name }, []⟩
  | .server id => .server ⟨id, { (default : ServerPatch) with name := some name }, []⟩
  | .role id => .role ⟨id, { (default : RolePatch) with name := some name }, []⟩
  | .channel id => .channel ⟨id, { (default : ChannelPatch) with name := some name }, []⟩
  | .member id => .member ⟨id, { (default : MemberPatch) with nickname := some name }, []⟩
  | .webhook id => .webhook ⟨id, { (default : WebhookPatch) with name := some name }, []⟩

def making : Target → Operation
  | .user id => .populate ⟨[{ (default : User) with id }], [], [], [], []⟩
  | .server id => .insertServer { (default : Server) with id } [] []
  | .role id =>
    .insertServer { (default : Server) with id := id.server, roles := (∅ : Table Role).insert id.role default } [] []
  | .channel id => .insertChannel { (default : Channel) with id }
  | .member id => .insertMember id
  | .webhook id => .insertWebhook { (default : Webhook) with id }

def nameIn? (t : Target) (c : Cache) : Option String :=
  match t with
  | .user id => (c.user? id).map (·.username)
  | .server id => (c.server? id).map (·.name)
  | .role id => (c.role? id.server id.role).map (·.name)
  | .channel id => (c.channel? id).map (·.name)
  | .member id => c.members[id]?.bind (·.nickname)
  | .webhook id => (c.webhook? id).map (·.name)

theorem target_naming (name : String) (t : Target) : (t.naming name).target = t := by
  cases t <;> rfl

theorem nameIn?_naming (name other : String) (t : Target) :
    t.nameIn? ((((Cache.empty .all).perform t.making).1.perform (t.naming other).operation).1.perform
      (t.naming name).operation).1 = some name := by
  simp only [perform_amendment]
  cases t with
  | user id =>
    simp [nameIn?, naming, making, Amendment.edit, Edit.apply, amend, perform, populate, tableOf,
      Cache.empty, Tracking.all, user?, User.update, Change.ofOption, Change.ofParts, Change.apply]
  | server id =>
    simp [nameIn?, naming, making, Amendment.edit, Edit.apply, amend, perform, insertServer, Cache.empty,
      Tracking.all, server?, Server.update, Change.ofOption, Change.ofParts, Change.apply]
  | role id =>
    simp [nameIn?, naming, making, Amendment.edit, Edit.apply, amend, perform, insertServer, Cache.empty,
      Tracking.all, server?,
      role?, Server.role?, roleUpdated, Role.update, Change.ofOption, Change.ofParts, Change.apply]
  | channel id =>
    simp [nameIn?, naming, making, Amendment.edit, Edit.apply, amend, perform, insertChannel, Cache.empty,
      Tracking.all, channel?, Channel.update, Change.ofOption, Change.ofParts, Change.apply]
  | member id =>
    simp [nameIn?, naming, making, Amendment.edit, Edit.apply, amend, perform, insertMember, Cache.empty, Tracking.all,
      Member.update, ClearName.clears, Change.ofOptional, Change.ofParts, Change.apply]
  | webhook id =>
    simp [nameIn?, naming, making, Amendment.edit, Edit.apply, amend, perform, insertWebhook, Cache.empty,
      Tracking.all, webhook?, Webhook.update, Change.ofOption, Change.ofParts, Change.apply]

end Target

/-- **Updates commute exactly if they are aimed at different targets**, at any time in the life of a cache and
whatever they set and clear.  Each of the two goes the same way in both orders, found, not found or not tracked. -/
theorem updates_commute_iff (t t' : Target) :
    (∀ (tracking : Tracking) (ops : List Operation) (a b : Amendment), a.target = t → b.target = t' →
      ((Cache.empty tracking).run ops).Commute a.operation b.operation) ↔ t ≠ t' := by
  constructor
  · rintro h rfl
    have hsame := (h .all [t.making] (t.naming "a") (t.naming "b") (t.target_naming "a") (t.target_naming "b")).cache
    have hnames : some "b" = some "a" := calc some "b"
      _ = _ := (t.nameIn?_naming "b" "a").symm
      _ = _ := congrArg t.nameIn? hsame
      _ = some "a" := t.nameIn?_naming "a" "b"
    simp at hnames
  · rintro h tracking ops a b rfl rfl
    exact .of_ne _ h

end Cache
end ChatClient
