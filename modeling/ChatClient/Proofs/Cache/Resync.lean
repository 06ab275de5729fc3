import ChatClient.Proofs.Cache.Keys
import Mathlib.Data.List.Dedup
/-!
# Caches at the start of a session

A snapshot leaves nothing of what a cache knew before, webhooks apart: whatever two caches of one kind have been
through, they are the same after the same snapshot exactly if they knew the same webhooks (`populate_run_eq_iff`).
What they know then is told by the snapshot alone (`Resynced`), of two entities with one identity by the later.
-/
namespace ChatClient

open Std (ExtTreeMap TransOrd LawfulEqOrd)

/-! ## One kind of entities -/

section

variable {κ α : Type} [DecidableEq κ]

def lastWith (key : α → κ) (k : κ) (xs : List α) : Option α :=
  (xs.filter fun x => key x = k).getLast?

theorem lastWith_cons (key : α → κ) (k : κ) (x : α) (xs : List α) :
    lastWith key k (x :: xs) = (lastWith key k xs).or (if key x = k then some x else none) := by
  unfold lastWith
  by_cases h : key x = k
  · rw [List.filter_cons_of_pos (by simpa using h), List.getLast?_cons, if_pos h]
    cases (xs.filter fun x => key x = k).getLast? <;> rfl
  · rw [List.filter_cons_of_neg (by simpa using h), if_neg h, Option.or_none]

theorem mem_of_lastWith {key : α → κ} {k : κ} {xs : List α} {a : α} (h : lastWith key k xs = some a) : a ∈ xs :=
  (List.mem_filter.1 (List.mem_of_getLast? h)).1

variable [Ord κ] [TransOrd κ] [LawfulEqOrd κ]

/-- Of all that comes into a table under one key the last stays, and else what was there. -/
theorem getElem?_insertMany_map (key : α → κ) (k : κ) : ∀ (xs : List α) (t : ExtTreeMap κ α compare),
    (t.insertMany (xs.map fun x => (key x, x)))[k]? = (lastWith key k xs).or t[k]?
  | [], t => by simp [lastWith]
  | x :: xs, t => by
    rw [List.map_cons, ExtTreeMap.insertMany_cons, getElem?_insertMany_map key k xs, ExtTreeMap.getElem?_insert,
      lastWith_cons, Option.or_assoc]
    by_cases h : key x = k <;> simp [h]

/-- **A table knows what a list of entities tells**: the last entity with each identity, one for each identity that
occurs, and nothing else; and nothing at all of a kind that is not tracked. -/
structure Tells (tracked : Bool) (key : α → κ) (xs : List α) (t : ExtTreeMap κ α compare) : Prop where
  last : tracked = true → ∀ k : κ, t[k]? = lastWith key k xs
  keys : tracked = true → t.keys.Perm (xs.map key).dedup
  mem : ∀ (k : κ) (a : α), t[k]? = some a → a ∈ xs
  untracked : tracked = false → t = ∅

namespace Tells

variable {tracked : Bool} {key : α → κ} {xs : List α} {t t' : ExtTreeMap κ α compare}

/-- A tracked kind is told anew, and of an untracked kind nothing was known. -/
theorem ite (h : Kept tracked key t) (xs : List α) :
    Tells tracked key xs (if tracked then ExtTreeMap.ofList (xs.map fun x => (key x, x)) compare else t) := by
  cases tracked with
  | false =>
    have hempty := h.eq_empty rfl
    refine ⟨fun hf => (nomatch hf), fun hf => (nomatch hf), fun k a ha => ?_, fun _ => hempty⟩
    simp [hempty] at ha
  | true =>
    have hlast (k : κ) : (ExtTreeMap.ofList (xs.map fun x => (key x, x)) compare)[k]? = lastWith key k xs := by
      rw [ExtTreeMap.ofList_eq_insertMany_empty, getElem?_insertMany_map]
      simp
    refine ⟨fun _ => hlast, fun _ => ?_, fun k a ha => mem_of_lastWith ((hlast k).symm.trans ha), fun hf => nomatch hf⟩
    refine (List.perm_ext_iff_of_nodup ExtTreeMap.nodup_keys (List.nodup_dedup _)).2 fun k => ?_
    simp

theorem eq (h : Tells tracked key xs t) (h' : Tells tracked key xs t') : t = t' := by
  cases tracked with
  | false => exact (h.untracked rfl).trans (h'.untracked rfl).symm
  | true => exact ExtTreeMap.ext_getElem? fun k => (h.last rfl k).trans (h'.last rfl k).symm

end Tells

end

/-! ## The whole cache -/

namespace Cache

/-- **A cache knows what a snapshot tells it**, and the webhooks that it knew. -/
structure Resynced (tracking : Tracking) (s : Snapshot) (webhooks : Table Webhook) (c : Cache) : Prop where
  tracked : c.tracking = tracking
  currentUser : c.currentUser = s.users.getLast?
  users : Tells tracking.users User.id s.users c.users
  servers : Tells tracking.servers Server.id s.servers c.servers
  channels : Tells tracking.channels Channel.id s.channels c.channels
  members : Tells tracking.members Member.id s.members c.members
  emojis : Tells tracking.emojis Emoji.id s.emojis c.emojis
  webhooks : c.webhooks = webhooks

theorem WellKept.resynced {c : Cache} (h : c.WellKept) (s : Snapshot) :
    (c.populate s).Resynced c.tracking s c.webhooks where
  tracked := rfl
  currentUser := rfl
  users := .ite h.users s.users
  servers := .ite h.servers s.servers
  channels := .ite h.channels s.channels
  members := .ite h.members s.members
  emojis := .ite h.emojis s.emojis
  webhooks := rfl

theorem Resynced.eq {tracking : Tracking} {s : Snapshot} {webhooks : Table Webhook} {c c' : Cache}
    (h : c.Resynced tracking s webhooks) (h' : c'.Resynced tracking s webhooks) : c = c' := by
  cases c
  cases c'
  congr 1
  · exact h.tracked.trans h'.tracked.symm
  · exact h.currentUser.trans h'.currentUser.symm
  · exact h.users.eq h'.users
  · exact h.servers.eq h'.servers
  · exact h.channels.eq h'.channels
  · exact h.members.eq h'.members
  · exact h.emojis.eq h'.emojis
  · exact h.webhooks.trans h'.webhooks.symm

/-- **Nothing of an earlier session survives a snapshot.**  Whatever operations a cache has been through since it was
empty, after a snapshot it knows what the snapshot tells and the webhooks from before; two caches that track the same
kinds are then the same exactly if they knew the same webhooks. -/
theorem populate_run_eq_iff (tracking : Tracking) (ops ops' : List Operation) (s : Snapshot) :
    (((empty tracking).run ops).populate s).Resynced tracking s ((empty tracking).run ops).webhooks ∧
      (((empty tracking).run ops).populate s = ((empty tracking).run ops').populate s ↔
        ((empty tracking).run ops).webhooks = ((empty tracking).run ops').webhooks) := by
  have hresynced (ops : List Operation) :
      (((empty tracking).run ops).populate s).Resynced tracking s ((empty tracking).run ops).webhooks := by
    have h := ((WellKept.empty tracking).run ops).resynced s
    rw [run_tracking] at h
    exact h
  refine ⟨hresynced ops, congrArg Cache.webhooks, fun hwebhooks => ?_⟩
  have hother := hresynced ops'
  rw [← hwebhooks] at hother
  exact (hresynced ops).eq hother

end Cache
end ChatClient
