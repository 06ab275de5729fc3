import ChatClient.Entity.Message
import Mathlib.Data.List.Induction
import Mathlib.Data.Set.Insert
import Mathlib.Tactic.Tauto
/-!
# Reactions as pairs

The reactions to a message are a set of pairs of an emoji and a user, kept as a list of users for each emoji that has
any.  As long as no list is empty and none names a user twice (`Message.Tidy`), adding and removing do to the message
what they say of the pairs, and a list has its users in the order in which they came: of two users, that one stands
first who has been there for longer (`Message.Reacts`).
-/
namespace ChatClient

open Std (ExtTreeMap)

inductive ReactionCall where
  | add (emojiId userId : String)
  | remove (emojiId : String) (userId : Option String)
deriving DecidableEq, Repr

namespace ReactionCall

@[simp]
def emojiId : ReactionCall → String
  | add emojiId _ | remove emojiId _ => emojiId

def run (m : Message) : ReactionCall → Message
  | add emojiId userId => m.addReaction emojiId userId
  | remove emojiId userId => m.removeReaction emojiId userId

@[simp]
def act (pairs : Set (String × String)) : ReactionCall → Set (String × String)
  | add emojiId userId => insert (emojiId, userId) pairs
  | remove emojiId (some userId) => pairs \ {(emojiId, userId)}
  | remove emojiId none => {p ∈ pairs | p.1 ≠ emojiId}

def actAll (pairs : Set (String × String)) (calls : List ReactionCall) : Set (String × String) :=
  calls.foldl act pairs

/-- **A user has been there for longer than another**: without a break since a time when the other was not there. -/
def Longer (pairs : Set (String × String)) (calls : List ReactionCall) (emojiId u v : String) : Prop :=
  ∃ before after, calls = before ++ after ∧ (emojiId, v) ∉ actAll pairs before ∧
    ∀ part, part <+: after → (emojiId, u) ∈ actAll pairs (before ++ part)

def Always (pairs : Set (String × String)) (calls : List ReactionCall) (emojiId u : String) : Prop :=
  ∀ part, part <+: calls → (emojiId, u) ∈ actAll pairs part

@[simp]
def usersAfter (users : List String) : ReactionCall → List String
  | add _ userId => if userId ∈ users then users else users ++ [userId]
  | remove _ (some userId) => users.filter (· != userId)
  | remove _ none => []

/-! ## Who has been there for how long -/

variable {pairs : Set (String × String)} {calls : List ReactionCall} {emojiId u v : String}

theorem longer_concat (c : ReactionCall) : Longer pairs (calls ++ [c]) emojiId u v ↔
    (emojiId, u) ∈ actAll pairs (calls ++ [c]) ∧
      (Longer pairs calls emojiId u v ∨ (emojiId, v) ∉ actAll pairs (calls ++ [c])) := by
  constructor
  · rintro ⟨before, after, hcalls, hv, hu⟩
    rcases List.eq_nil_or_concat after with rfl | ⟨after, last, rfl⟩
    · rw [List.append_nil] at hcalls
      have hnow := hu [] List.nil_prefix
      rw [List.append_nil, ← hcalls] at hnow
      rw [hcalls]
      exact ⟨hcalls ▸ hnow, .inr hv⟩
    · rw [List.concat_eq_append] at hcalls hu
      have hnow := hu (after ++ [last]) (List.prefix_refl _)
      rw [← hcalls] at hnow
      rw [← List.append_assoc] at hcalls
      obtain ⟨rfl, -⟩ := List.append_inj' hcalls rfl
      exact ⟨hnow, .inl ⟨before, after, rfl, hv, fun part hpart => hu part (hpart.trans (List.prefix_append _ _))⟩⟩
  · rintro ⟨hnow, ⟨before, after, rfl, hv, hu⟩ | hv⟩
    · refine ⟨before, after ++ [c], List.append_assoc .., hv, fun part hpart => ?_⟩
      rcases List.prefix_concat_iff.1 hpart with rfl | hpart
      · rw [← List.append_assoc]
        exact hnow
      · exact hu part hpart
    · refine ⟨calls ++ [c], [], (List.append_nil _).symm, hv, fun part hpart => ?_⟩
      rw [List.prefix_nil.1 hpart, List.append_nil]
      exact hnow

theorem always_concat (c : ReactionCall) : Always pairs (calls ++ [c]) emojiId u ↔
    Always pairs calls emojiId u ∧ (emojiId, u) ∈ actAll pairs (calls ++ [c]) := by
  constructor
  · intro h
    exact ⟨fun part hpart => h part (hpart.trans (List.prefix_append _ _)), h _ (List.prefix_refl _)⟩
  · rintro ⟨hbefore, hnow⟩ part hpart
    rcases List.prefix_concat_iff.1 hpart with rfl | hpart
    · exact hnow
    · exact hbefore part hpart

theorem Longer.there (h : Longer pairs calls emojiId u v) : (emojiId, u) ∈ actAll pairs calls := by
  obtain ⟨before, after, rfl, -, hu⟩ := h
  exact hu after (List.prefix_refl _)

theorem longer_of_there (hu : (emojiId, u) ∈ actAll pairs calls) (hv : (emojiId, v) ∉ actAll pairs calls) :
    Longer pairs calls emojiId u v := by
  refine ⟨calls, [], (List.append_nil _).symm, hv, fun part hpart => ?_⟩
  rw [List.prefix_nil.1 hpart, List.append_nil]
  exact hu

end ReactionCall

namespace Message

open ReactionCall (actAll Longer Always)

variable {m : Message} {calls : List ReactionCall} {emojiId u v : String}

def usersOf (m : Message) (emojiId : String) : List String :=
  m.reactions.getD emojiId []

def pairs (m : Message) : Set (String × String) :=
  {p | p.2 ∈ m.usersOf p.1}

def Before (m : Message) (emojiId u v : String) : Prop :=
  [u, v].Sublist (m.usersOf emojiId)

/-- **No emoji is kept without users, and none has a user twice.** -/
def Tidy (m : Message) : Prop :=
  ∀ (emojiId : String) users, m.reactions[emojiId]? = some users → users ≠ [] ∧ users.Nodup

def reactAll (m : Message) (calls : List ReactionCall) : Message :=
  calls.foldl ReactionCall.run m

/-! ## Lists -/

theorem usersOf_eq (m : Message) (emojiId : String) : m.usersOf emojiId = m.reactions[emojiId]?.getD [] :=
  ExtTreeMap.getD_eq_getD_getElem?

def kept (users : List String) : Option (List String) :=
  if users = [] then none else some users

theorem kept_nil : kept [] = none :=
  if_pos rfl

theorem kept_of_ne_nil {users : List String} (h : users ≠ []) : kept users = some users :=
  if_neg h

theorem getD_kept (users : List String) : (kept users).getD [] = users := by
  by_cases h : users = []
  · rw [h, kept_nil, Option.getD_none]
  · rw [kept_of_ne_nil h, Option.getD_some]

theorem ne_nil_of_kept {users others : List String} (h : kept users = some others) : others ≠ [] := by
  rintro rfl
  by_cases hnil : users = []
  · rw [hnil, kept_nil] at h
    cases h
  · rw [kept_of_ne_nil hnil, Option.some.injEq] at h
    exact hnil h

theorem exists_addReaction_eq (m : Message) (emojiId u : String) : ∃ reactions : Table (List String),
    m.addReaction emojiId u = { m with reactions } ∧ ∀ e : String, reactions[e]? =
      if emojiId = e then kept (ReactionCall.usersAfter (m.usersOf e) (.add emojiId u)) else m.reactions[e]? := by
  refine ⟨_, rfl, fun e => ?_⟩
  rw [ExtTreeMap.getElem?_insert]
  by_cases he : emojiId = e
  · subst he
    have hsome : ReactionCall.usersAfter (m.usersOf emojiId) (.add emojiId u) ≠ [] := by
      by_cases hu : u ∈ m.usersOf emojiId
      · simp [hu, List.ne_nil_of_mem hu]
      · simp [hu]
    simp only [Std.ReflCmp.compare_self, if_true, kept_of_ne_nil hsome]
    rfl
  · simp [he]

theorem exists_removeReaction_eq (m : Message) (emojiId : String) (user : Option String) :
    ∃ reactions : Table (List String),
    m.removeReaction emojiId user = { m with reactions } ∧ ∀ e : String, reactions[e]? =
      if emojiId = e then kept (ReactionCall.usersAfter (m.usersOf e) (.remove emojiId user)) else m.reactions[e]? := by
  have herase (e : String) : (m.reactions.erase emojiId)[e]? = if emojiId = e then none else m.reactions[e]? := by
    rw [ExtTreeMap.getElem?_erase]
    by_cases he : emojiId = e <;> simp [he]
  cases user with
  | none => exact ⟨_, rfl, herase⟩
  | some u =>
    unfold removeReaction ReactionCall.usersAfter
    cases hentry : m.reactions[emojiId]? with
    | none =>
      refine ⟨m.reactions, rfl, fun e => ?_⟩
      by_cases he : emojiId = e
      · subst he
        simp [usersOf_eq, hentry, kept_nil]
      · simp [he]
    | some users =>
      cases hleft : users.filter (· != u) with
      | nil =>
        refine ⟨m.reactions.erase emojiId, by simp [hleft], fun e => ?_⟩
        rw [herase]
        by_cases he : emojiId = e
        · subst he
          simp [usersOf_eq, hentry, hleft, kept_nil]
        · simp [he]
      | cons first others =>
        refine ⟨m.reactions.insert emojiId (first :: others), by simp [hleft], fun e => ?_⟩
        rw [ExtTreeMap.getElem?_insert]
        by_cases he : emojiId = e
        · subst he
          simp [usersOf_eq, hentry, hleft, kept]
        · simp [he]

/-- **One call**: it changes what is kept of its own emoji. -/
theorem exists_run_eq (m : Message) (c : ReactionCall) :
    ∃ reactions : Table (List String), c.run m = { m with reactions } ∧
    ∀ e : String, reactions[e]? = if c.emojiId = e then kept (c.usersAfter (m.usersOf e)) else m.reactions[e]? := by
  cases c with
  | add emojiId u => exact m.exists_addReaction_eq emojiId u
  | remove emojiId user => exact m.exists_removeReaction_eq emojiId user

theorem getElem?_run (m : Message) (c : ReactionCall) (emojiId : String) : (c.run m).reactions[emojiId]? =
    if c.emojiId = emojiId then kept (c.usersAfter (m.usersOf emojiId)) else m.reactions[emojiId]? := by
  obtain ⟨reactions, hrun, hreactions⟩ := m.exists_run_eq c
  rw [hrun]
  exact hreactions emojiId

theorem usersOf_run (m : Message) (c : ReactionCall) (emojiId : String) : (c.run m).usersOf emojiId =
    if c.emojiId = emojiId then c.usersAfter (m.usersOf emojiId) else m.usersOf emojiId := by
  rw [usersOf_eq, getElem?_run]
  by_cases he : c.emojiId = emojiId
  · rw [if_pos he, if_pos he, getD_kept]
  · rw [if_neg he, if_neg he, usersOf_eq]

theorem Tidy.nodup (h : m.Tidy) (emojiId : String) : (m.usersOf emojiId).Nodup := by
  rw [usersOf_eq]
  cases hlist : m.reactions[emojiId]? with
  | none => exact List.nodup_nil
  | some users => exact (h emojiId users hlist).2

/-- The reactions of a tidy message are told by the users of each emoji. -/
theorem Tidy.getElem?_eq (h : m.Tidy) (emojiId : String) : m.reactions[emojiId]? = kept (m.usersOf emojiId) := by
  rw [usersOf_eq]
  cases hlist : m.reactions[emojiId]? with
  | none => exact kept_nil.symm
  | some users => exact (kept_of_ne_nil (h emojiId users hlist).1).symm

/-! ## One call -/

/-- **A call leaves the users of an emoji, puts a new one behind them, or takes some away.** -/
theorem usersOf_run_cases (m : Message) (c : ReactionCall) (emojiId : String) :
    (c.run m).usersOf emojiId = m.usersOf emojiId ∨
      (∃ w, w ∉ m.usersOf emojiId ∧ (c.run m).usersOf emojiId = m.usersOf emojiId ++ [w]) ∨
      ∃ p : String → Bool, (c.run m).usersOf emojiId = (m.usersOf emojiId).filter p := by
  rw [usersOf_run]
  by_cases he : c.emojiId = emojiId
  · rw [if_pos he]
    match c with
    | .add _ w =>
      by_cases hw : w ∈ m.usersOf emojiId
      · exact .inl (if_pos hw)
      · exact .inr (.inl ⟨w, hw, if_neg hw⟩)
    | .remove _ none => exact .inr (.inr ⟨fun _ => false, by simp⟩)
    | .remove _ (some w) => exact .inr (.inr ⟨(· != w), rfl⟩)
  · exact .inl (if_neg he)

theorem nodup_usersOf_run (h : (m.usersOf emojiId).Nodup) (c : ReactionCall) : ((c.run m).usersOf emojiId).Nodup := by
  rcases m.usersOf_run_cases c emojiId with hsame | ⟨w, hnew, hsame⟩ | ⟨p, hsame⟩
  · rw [hsame]
    exact h
  · rw [hsame, List.nodup_append]
    refine ⟨h, List.pairwise_singleton _ w, fun u hu w' hw' => ?_⟩
    rw [List.mem_singleton.1 hw']
    rintro rfl
    exact hnew hu
  · rw [hsame]
    exact h.filter p

theorem Tidy.run (h : m.Tidy) (c : ReactionCall) : (c.run m).Tidy := by
  intro emojiId users hlist
  have husers : (c.run m).usersOf emojiId = users := by rw [usersOf_eq, hlist, Option.getD_some]
  have hdistinct := nodup_usersOf_run (h.nodup emojiId) c
  rw [husers] at hdistinct
  rw [getElem?_run] at hlist
  by_cases he : c.emojiId = emojiId
  · rw [if_pos he] at hlist
    exact ⟨ne_nil_of_kept hlist, hdistinct⟩
  · rw [if_neg he] at hlist
    exact h emojiId users hlist

/-- **A call does to the pairs what it says of them.** -/
theorem pairs_run (m : Message) (c : ReactionCall) : (c.run m).pairs = c.act m.pairs := by
  ext ⟨emojiId, u⟩
  change u ∈ (c.run m).usersOf emojiId ↔ _
  have hpair (e w : String) : (e, w) ∈ m.pairs ↔ w ∈ m.usersOf e := Iff.rfl
  rw [usersOf_run]
  by_cases he : c.emojiId = emojiId
  · subst he
    rw [if_pos rfl]
    match c with
    | .add e w =>
      by_cases hw : w ∈ m.usersOf e
      · simp [hw, hpair]
      · simp [hw, hpair, or_comm]
    | .remove e (some w) => simp [hpair]
    | .remove e none => simp
  · rw [if_neg he]
    have hother : emojiId ≠ c.emojiId := Ne.symm he
    match c with
    | .add e w => simp [hpair, show emojiId ≠ e from hother]
    | .remove e (some w) => simp [hpair, show emojiId ≠ e from hother]
    | .remove e none => simp [hpair, show emojiId ≠ e from hother]

theorem before_mem (h : [u, v].Sublist (m.usersOf emojiId)) : u ∈ m.usersOf emojiId ∧ v ∈ m.usersOf emojiId :=
  ⟨h.subset List.mem_cons_self, h.subset (List.mem_cons_of_mem u List.mem_cons_self)⟩

theorem pair_sublist_concat {α : Type} {l : List α} {u v w : α} :
    [u, v].Sublist (l ++ [w]) ↔ [u, v].Sublist l ∨ u ∈ l ∧ v = w := by
  constructor
  · intro h
    obtain ⟨front, back, hsplit, hfront, hback⟩ := List.sublist_append_iff.1 h
    match front, hsplit with
    | [], hsplit =>
      rw [List.nil_append] at hsplit
      rw [← hsplit] at hback
      simpa using hback.length_le
    | [_], hsplit =>
      simp only [List.cons_append, List.nil_append, List.cons.injEq] at hsplit
      obtain ⟨rfl, rfl⟩ := hsplit
      exact .inr ⟨List.singleton_sublist.1 hfront, by simpa using hback⟩
    | [_, _], hsplit =>
      simp only [List.cons_append, List.nil_append, List.cons.injEq] at hsplit
      obtain ⟨rfl, rfl, -⟩ := hsplit
      exact .inl hfront
  · rintro (h | ⟨hu, rfl⟩)
    · exact h.trans (List.sublist_append_left l [w])
    · exact (List.singleton_sublist.2 hu).append (List.Sublist.refl [v])

theorem pair_sublist_filter {α : Type} {l : List α} {p : α → Bool} {u v : α} :
    [u, v].Sublist (l.filter p) ↔ p u = true ∧ p v = true ∧ [u, v].Sublist l := by
  constructor
  · intro h
    have hu := h.subset (List.mem_cons_self)
    have hv := h.subset (List.mem_cons_of_mem u List.mem_cons_self)
    exact ⟨(List.mem_filter.1 hu).2, (List.mem_filter.1 hv).2, h.trans List.filter_sublist⟩
  · rintro ⟨hu, hv, h⟩
    have hfilter := h.filter p
    rwa [List.filter_cons_of_pos hu, List.filter_cons_of_pos hv, List.filter_nil] at hfilter

/-- **Of two users who are there after a call**, one stands before the other if that was so already or if only the one
was there. -/
theorem before_run (m : Message) (c : ReactionCall) (emojiId u v : String) :
    (c.run m).Before emojiId u v ↔ (emojiId, u) ∈ (c.run m).pairs ∧ (emojiId, v) ∈ (c.run m).pairs ∧
      (m.Before emojiId u v ∨ (emojiId, u) ∈ m.pairs ∧ (emojiId, v) ∉ m.pairs) := by
  change [u, v].Sublist ((c.run m).usersOf emojiId) ↔
    u ∈ (c.run m).usersOf emojiId ∧ v ∈ (c.run m).usersOf emojiId ∧
    ([u, v].Sublist (m.usersOf emojiId) ∨ u ∈ m.usersOf emojiId ∧ v ∉ m.usersOf emojiId)
  have hmem := @before_mem m emojiId u v
  rcases m.usersOf_run_cases c emojiId with hsame | ⟨w, hnew, hsame⟩ | ⟨p, hsame⟩
  · rw [hsame]
    tauto
  -- a user who comes anew stands behind all others, and before none
  · rw [hsame, pair_sublist_concat, List.mem_append, List.mem_append, List.mem_singleton, List.mem_singleton]
    by_cases hv : v = w
    · subst hv
      tauto
    · tauto
  · rw [hsame, pair_sublist_filter, List.mem_filter, List.mem_filter]
    tauto

/-! ## All calls -/

theorem reactAll_concat (m : Message) (calls : List ReactionCall) (c : ReactionCall) :
    m.reactAll (calls ++ [c]) = c.run (m.reactAll calls) :=
  List.foldl_append

theorem Tidy.reactAll (h : m.Tidy) (calls : List ReactionCall) : (m.reactAll calls).Tidy := by
  induction calls generalizing m with
  | nil => exact h
  | cons c calls ih => exact ih (h.run c)

theorem pairs_reactAll (m : Message) (calls : List ReactionCall) : (m.reactAll calls).pairs = actAll m.pairs calls := by
  induction calls generalizing m with
  | nil => rfl
  | cons c calls ih =>
    have hrest := ih (c.run m)
    rw [pairs_run] at hrest
    exact hrest

/-- **The order in a list is the order of coming.** -/
theorem before_reactAll (m : Message) (calls : List ReactionCall) (emojiId u v : String) :
    (m.reactAll calls).Before emojiId u v ↔ (emojiId, v) ∈ actAll m.pairs calls ∧
      (Longer m.pairs calls emojiId u v ∨
        Always m.pairs calls emojiId u ∧ Always m.pairs calls emojiId v ∧ m.Before emojiId u v) := by
  induction calls using List.reverseRecOn with
  | nil =>
    have hmem : m.Before emojiId u v → (emojiId, u) ∈ m.pairs ∧ (emojiId, v) ∈ m.pairs := before_mem
    have halways (w : String) : Always m.pairs [] emojiId w ↔ (emojiId, w) ∈ m.pairs := by
      simp [Always, actAll]
    have hlonger : Longer m.pairs [] emojiId u v → (emojiId, v) ∉ m.pairs := by
      rintro ⟨before, after, hnil, hv, -⟩
      rw [(List.append_eq_nil_iff.1 hnil.symm).1] at hv
      exact hv
    rw [halways, halways]
    change m.Before emojiId u v ↔ (emojiId, v) ∈ m.pairs ∧ _
    tauto
  | append_singleton calls c ih =>
    have hthere := @ReactionCall.Longer.there m.pairs calls emojiId u v
    have hnew := @ReactionCall.longer_of_there m.pairs calls emojiId u v
    have hstayed : Always m.pairs calls emojiId u → (emojiId, u) ∈ actAll m.pairs calls :=
      fun h => h calls (List.prefix_refl _)
    rw [reactAll_concat, before_run, ih, ← reactAll_concat, pairs_reactAll, pairs_reactAll, ReactionCall.longer_concat,
      ReactionCall.always_concat, ReactionCall.always_concat]
    tauto

theorem getElem?_reactAll_of_ne (m : Message) (h : ∀ c ∈ calls, c.emojiId ≠ emojiId) :
    (m.reactAll calls).reactions[emojiId]? = m.reactions[emojiId]? := by
  induction calls generalizing m with
  | nil => rfl
  | cons c calls ih =>
    obtain ⟨hc, hcalls⟩ := List.forall_mem_cons.1 h
    exact (ih (c.run m) hcalls).trans ((getElem?_run m c emojiId).trans (if_neg hc))

theorem rest_reactAll (m : Message) (calls : List ReactionCall) :
    { m.reactAll calls with reactions := m.reactions } = m := by
  induction calls generalizing m with
  | nil => rfl
  | cons c calls ih =>
    obtain ⟨reactions, hrun, -⟩ := m.exists_run_eq c
    have hrest := ih (c.run m)
    rw [hrun] at hrest
    have hall : m.reactAll (c :: calls) = { m with reactions }.reactAll calls := by
      rw [← hrun]
      rfl
    rw [hall]
    exact congrArg (fun n : Message => { n with reactions := m.reactions }) hrest

theorem Tidy.reactions_eq {n : Message} (h : m.Tidy) (hn : n.Tidy)
    (hsame : ∀ emojiId, m.usersOf emojiId = n.usersOf emojiId) :
    m.reactions = n.reactions := by
  refine ExtTreeMap.ext_getElem? fun emojiId => ?_
  rw [h.getElem?_eq, hn.getElem?_eq, hsame]

theorem Tidy.reactAll_undone (h : m.Tidy) (hnew : (emojiId, u) ∉ m.pairs) :
    m.reactAll [.add emojiId u, .remove emojiId (some u)] = m := by
  have hfree : u ∉ m.usersOf emojiId := hnew
  have hrest := m.rest_reactAll [.add emojiId u, .remove emojiId (some u)]
  have hsame : (m.reactAll [.add emojiId u, .remove emojiId (some u)]).reactions = m.reactions := by
    refine (h.reactAll _).reactions_eq h fun e => ?_
    have hkept : (m.usersOf emojiId).filter (· != u) = m.usersOf emojiId := by
      refine List.filter_eq_self.2 fun w hw => bne_iff_ne.2 ?_
      rintro rfl
      exact hfree hw
    rw [Message.reactAll, List.foldl_cons, List.foldl_cons, List.foldl_nil, usersOf_run, usersOf_run]
    by_cases he : emojiId = e
    · subst he
      simp [hfree, hkept]
    · simp [he]
  rw [← hsame] at hrest
  exact hrest

/-- **What calls one after the other do to a message.**

Its reactions stay tidy, and there is a pair in the end exactly if it outlasts the calls.  In the list of an emoji
that user stands first who has been there for longer, or who stood first to begin with if both have been there all the
time.  The list of an emoji that no call names stays, and so do all the other fields.  A new reaction that is taken
back leaves no trace. -/
structure Reacts (m : Message) (calls : List ReactionCall) : Prop where
  tidy : (m.reactAll calls).Tidy
  there : ∀ emojiId u, u ∈ (m.reactAll calls).usersOf emojiId ↔ (emojiId, u) ∈ actAll m.pairs calls
  order : ∀ emojiId u v, (m.reactAll calls).Before emojiId u v ↔ (emojiId, v) ∈ actAll m.pairs calls ∧
    (Longer m.pairs calls emojiId u v ∨ Always m.pairs calls emojiId u ∧ Always m.pairs calls emojiId v ∧
      m.Before emojiId u v)
  unnamed : ∀ emojiId, (∀ c ∈ calls, c.emojiId ≠ emojiId) →
    (m.reactAll calls).reactions[emojiId]? = m.reactions[emojiId]?
  rest : { m.reactAll calls with reactions := m.reactions } = m
  undone : ∀ emojiId u, (emojiId, u) ∉ (m.reactAll calls).pairs →
    ((m.reactAll calls).addReaction emojiId u).removeReaction emojiId (some u) = m.reactAll calls

theorem Tidy.reacts (h : m.Tidy) (calls : List ReactionCall) : m.Reacts calls where
  tidy := h.reactAll calls
  there emojiId u := by
    rw [← pairs_reactAll]
    exact Iff.rfl
  order := m.before_reactAll calls
  unnamed _ := m.getElem?_reactAll_of_ne
  rest := m.rest_reactAll calls
  undone _ _ := (h.reactAll calls).reactAll_undone

/-- The first of two who reacted takes it back and does it again, and stands behind the other then. -/
theorem reacts_again :
    let m : Message := { (default : Message) with reactions := (∅ : Table (List String)).insert "E" ["U1", "U2"] }
    let calls : List ReactionCall := [.remove "E" (some "U1"), .add "F" "U1", .add "E" "U1", .remove "F" none]
    m.Tidy ∧ m.Reacts calls ∧ (m.reactAll calls).usersOf "E" = ["U2", "U1"] := by
  intro m calls
  have hm : m.Tidy := by
    intro emojiId users h
    rw [ExtTreeMap.getElem?_insert, ExtTreeMap.getElem?_empty] at h
    split at h
    · cases h
      decide
    · cases h
  have husers : (m.reactAll calls).usersOf "E" = ["U2", "U1"] := by decide +kernel
  exact ⟨hm, hm.reacts calls, husers⟩

end Message
end ChatClient
