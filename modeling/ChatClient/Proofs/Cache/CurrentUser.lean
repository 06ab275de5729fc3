import ChatClient.Proofs.Cache.Resync
/-!
# Two records of one user

The current user is kept beside the table of users, and may be in that table as well.  Only snapshots, updates and
wipes of users touch either (`perform_eq_of_not_concernsUsers`), and they treat the two alike, so that the table never
has another record of the current user than the one beside it (`knowsSelf_run_empty`).  It has none at all exactly if
users are not tracked or the current user was wiped and no snapshot has come since.
-/
namespace ChatClient
namespace Cache

/-! ## Operations that concern users -/

def Operation.concernsUsers : Operation → Bool
  | .populate _ | .updateUser .. | .removeUser _ => true
  | _ => false

theorem withoutServer_eq (c : Cache) (id : String) :
    c.withoutServer id = { c with
      servers := (c.withoutServer id).servers
      channels := (c.withoutServer id).channels
      members := (c.withoutServer id).members } := by
  unfold withoutServer
  split <;> rfl

theorem afterLeaving_eq (c : Cache) (id : MemberId) :
    c.afterLeaving id = { c with
      servers := (c.afterLeaving id).servers
      channels := (c.afterLeaving id).channels
      members := (c.afterLeaving id).members } :=
  afterLeaving_cases
    (P := fun rest => rest = { c with servers := rest.servers, channels := rest.channels, members := rest.members })
    rfl (c.withoutServer_eq id.server)

/-- **All other operations leave the users as they are**, in the table and beside it. -/
theorem perform_eq_of_not_concernsUsers (c : Cache) {op : Operation} (h : op.concernsUsers = false) :
    (c.perform op).1.users = c.users ∧ (c.perform op).1.currentUser = c.currentUser := by
  cases op with
  | populate s => cases h
  | updateUser id data clear => cases h
  | removeUser id => cases h
  | updateServer id data clear => simp [perform, updateServer, changeServer_fst]
  | updateRole serverId roleId data clear => simp [perform, updateRole_fst]
  | setRoleRanks serverId ranks => simp [perform, setRoleRanks, changeServer_fst]
  | updateChannel id data clear => simp [perform, updateChannel, changeChannel_fst]
  | updateMember id data clear => simp [perform, updateMember_fst]
  | updateWebhook id data clear => simp [perform, updateWebhook_fst]
  | insertServer server channels emojis => simp [perform, insertServer_fst]
  | insertChannel channel => simp [perform, insertChannel_fst]
  | insertMember id => simp [perform, insertMember_fst]
  | insertEmoji emoji => simp [perform, insertEmoji_fst]
  | insertWebhook webhook => simp [perform, insertWebhook_fst]
  | addRecipient channelId userId => simp [perform, addRecipient, changeChannel_fst]
  | removeServer id =>
    rw [perform, removeServer_fst, withoutServer_eq]
    split <;> exact ⟨rfl, rfl⟩
  | removeChannel id => simp [perform, removeChannel_fst]
  | removeMember id =>
    rw [perform, removeMember_fst, afterLeaving_eq]
    exact ⟨rfl, rfl⟩
  | removeRecipient channelId userId => simp [perform, removeRecipient_fst]
  | removeRole serverId roleId => simp [perform, removeRole_fst]
  | removeEmoji id => simp [perform, removeEmoji_fst]
  | removeWebhook id => simp [perform, removeWebhook_fst]

/-! ## Wipes -/

def Operation.wipes (userId : String) (before : Bool) : Operation → Bool
  | .populate _ => false
  | .removeUser id => before || id == userId
  | _ => before

/-- Whether a user was wiped and no snapshot has come since. -/
def wiped (userId : String) (ops : List Operation) : Bool :=
  ops.foldl (Operation.wipes userId) false

theorem Operation.wipes_of_not_concernsUsers {op : Operation} (h : op.concernsUsers = false) (userId : String)
    (before : Bool) : op.wipes userId before = before := by
  cases op with
  | populate s => cases h
  | removeUser id => cases h
  | _ => rfl

/-! ## The two records -/

/-- **The table of users has the record of the current user that is kept beside it**, or, for an untracked kind or a
user who is gone, none. -/
def Mirrors (c : Cache) (gone : String → Bool) : Prop :=
  ∀ u, c.currentUser = some u → c.users[u.id]? = if c.tracking.users && !gone u.id then some u else none

namespace Mirrors

variable {c : Cache} {gone : String → Bool}

theorem empty (tracking : Tracking) : (Cache.empty tracking).Mirrors gone :=
  fun _ h => nomatch h

/-- Of two users with one identity in a snapshot the later stays in the table, and the current user is the last of
all. -/
theorem lastWith_of_getLast? {us : List User} {u : User} (h : us.getLast? = some u) :
    lastWith User.id u.id us = some u := by
  obtain ⟨front, rfl⟩ := List.getLast?_eq_some_iff.1 h
  unfold lastWith
  rw [List.filter_append, List.filter_cons_of_pos (by simp), List.filter_nil, List.getLast?_concat]

theorem populate (h : c.WellKept) (s : Snapshot) : (c.populate s).Mirrors fun _ => false := by
  intro u hu
  have hlast : lastWith User.id u.id s.users = some u := lastWith_of_getLast? hu
  have htells := (h.resynced s).users
  cases ht : c.tracking.users with
  | true =>
    have hat := htells.last ht u.id
    rw [hlast] at hat
    simpa [Cache.populate, ht] using hat
  | false =>
    have hnone : (c.populate s).users = ∅ := htells.untracked ht
    simpa [Cache.populate, ht] using congrArg (fun t : Table User => t[u.id]?) hnone

/-- An update reaches both records of the current user, or neither. -/
theorem updateUser (h : c.Mirrors gone) (id : String) (data : UserPatch) (clear : List (ClearName UserField)) :
    (c.updateUser id data clear).1.Mirrors gone := by
  rw [updateUser_fst]
  intro u hu
  obtain ⟨v, hv⟩ : ∃ v, c.currentUser = some v := by
    cases hc : c.currentUser with
    | some v => exact ⟨v, rfl⟩
    | none => simp [hc] at hu
  have hbefore := h v hv
  by_cases hid : v.id = id
  · have hself : c.isCurrentUser id = true := by simp [isCurrentUser, hv, hid]
    have hupdated : v.update data clear = u := by simpa [hself, hv] using hu
    subst hid hupdated
    cases ht : c.tracking.users with
    | false => simpa [ht, User.update_id] using hbefore
    | true =>
      have hmodified := Std.ExtTreeMap.getElem?_modify_self (t := c.users) (k := v.id) (f := (·.update data clear))
      rw [hbefore] at hmodified
      cases hgone : gone v.id <;> simpa [ht, hgone, User.update_id] using hmodified
  · have hself : c.isCurrentUser id = false := by simp [isCurrentUser, hv, hid]
    have hsame : v = u := by simpa [hself, hv] using hu
    subst hsame
    cases ht : c.tracking.users with
    | false => simpa [ht] using hbefore
    | true =>
      have hother : (c.users.modify id (·.update data clear))[v.id]? = c.users[v.id]? := by
        rw [Std.ExtTreeMap.getElem?_modify, if_neg (by simpa using Ne.symm hid)]
      rw [hbefore] at hother
      simpa [ht] using hother

theorem removeUser (h : c.Mirrors gone) (id : String) :
    (c.removeUser id).1.Mirrors fun userId => (Operation.removeUser id).wipes userId (gone userId) := by
  rw [removeUser_fst]
  intro u hu
  have hbefore := h u hu
  cases ht : c.tracking.users with
  | false => simpa [ht] using hbefore
  | true =>
    rw [ht] at hbefore
    by_cases hid : id = u.id
    · simp [Operation.wipes, hid]
    · simpa [Operation.wipes, hid, Std.ExtTreeMap.getElem?_erase] using hbefore

/-- **Every operation keeps the two records together.** -/
theorem perform (h : c.Mirrors gone) (hkept : c.WellKept) (op : Operation) :
    (c.perform op).1.Mirrors fun userId => op.wipes userId (gone userId) := by
  cases hconcerns : op.concernsUsers with
  | false =>
    obtain ⟨husers, hcurrent⟩ := c.perform_eq_of_not_concernsUsers hconcerns
    intro u hu
    rw [hcurrent] at hu
    simp only [husers, perform_tracking, Operation.wipes_of_not_concernsUsers hconcerns]
    exact h u hu
  | true =>
    cases op with
    | populate s => exact .populate hkept s
    | updateUser id data clear => exact h.updateUser id data clear
    | removeUser id => exact h.removeUser id
    | _ => cases hconcerns

theorem run (h : c.Mirrors gone) (hkept : c.WellKept) (ops : List Operation) :
    (c.run ops).Mirrors fun userId => ops.foldl (Operation.wipes userId) (gone userId) := by
  induction ops generalizing c gone with
  | nil => exact h
  | cons op ops ih => exact ih (h.perform hkept op) (hkept.perform op)

end Mirrors

/-- **What a cache knows of the current user after some operations.**  The table of users has no other record of the
current user than the one beside it, and it has this one exactly if users are tracked and the current user has not
been wiped since the last snapshot. -/
structure KnowsSelf (c : Cache) (ops : List Operation) : Prop where
  agree : ∀ u, c.currentUser = some u → c.user? u.id = none ∨ c.user? u.id = some u
  known : ∀ u, c.currentUser = some u → (c.user? u.id = some u ↔ c.tracking.users = true ∧ wiped u.id ops = false)

/-- **The two records of the current user never disagree**, whatever a cache has been through since it was empty:
duplicate identities in snapshots, updates of any user, wipes and further snapshots in any order. -/
theorem knowsSelf_run_empty (tracking : Tracking) (ops : List Operation) :
    ((Cache.empty tracking).run ops).KnowsSelf ops := by
  have hmirrors : ((Cache.empty tracking).run ops).Mirrors fun userId => wiped userId ops :=
    (Mirrors.empty tracking).run (.empty tracking) ops
  refine ⟨fun u hu => ?_, fun u hu => ?_⟩
  · rw [user?, hmirrors u hu]
    split
    · exact .inr rfl
    · exact .inl rfl
  · rw [user?, hmirrors u hu]
    simp

/-- A wipe takes the record out of the table, and the next snapshot brings it back. -/
example :
    let self : User := { (default : User) with id := "u", username := "me" }
    let s : Snapshot := ⟨[{ self with username := "old" }, self], [], [], [], []⟩
    let after := fun ops => ((Cache.empty .standard).run ops).user? "u"
    after [.populate s] = some self ∧ after [.populate s, .removeUser "u"] = none ∧
      after [.populate s, .removeUser "u", .populate s] = some self := by
  decide +kernel

end Cache
end ChatClient
