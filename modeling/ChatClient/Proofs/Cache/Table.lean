import ChatClient.Cache.Operation
/-!
# Tables, one edit at a time

What each edit of a table leaves under a key, and the two things a table of the cache keeps through all of them: every
value stands under its own key, and a kind that is not tracked has no values (`Kept`).  An edit that puts values in
asks that the kind is tracked; one that only changes values or takes them out does not.
-/
namespace ChatClient

open Std (ExtTreeMap ExtDTreeMap TransOrd LawfulEqOrd)

/-! ## Edits the library says little about -/

/-- A loop that only steps leaves a fold of its steps, seen through a view. -/
theorem view_forIn {κ σ τ : Type} (view : σ → τ) (e : τ → κ → τ) (step : κ → σ → σ)
    (h : ∀ k s, view (step k s) = e (view s) k) :
    ∀ (ks : List κ) (s : σ), view (Id.run (forIn ks s fun k r => pure (.yield (step k r)))) = ks.foldl e (view s)
  | [], _ => rfl
  | k :: ks, s => by
    rw [List.foldl_cons, ← h, List.forIn_cons]
    exact view_forIn view e step h ks (step k s)

section

variable {κ α : Type} [Ord κ] [TransOrd κ]

theorem eraseMany_eq_foldl (t : ExtTreeMap κ α compare) (ks : List κ) : t.eraseMany ks = ks.foldl ExtTreeMap.erase t :=
  view_forIn (fun s => ExtTreeMap.mk s.val) ExtTreeMap.erase _ (fun _ _ => rfl) ks
    (⟨t.inner, fun _ h _ => h⟩ : { a // ∀ P : _ → Prop, P t.inner → (∀ t a, P t → P (t.erase a)) → P a })

variable [LawfulEqOrd κ]

theorem getElem?_eraseMany [DecidableEq κ] (k : κ) : ∀ (ks : List κ) (t : ExtTreeMap κ α compare),
    (t.eraseMany ks)[k]? = if k ∈ ks then none else t[k]?
  | [], t => by rw [eraseMany_eq_foldl, List.foldl_nil, if_neg List.not_mem_nil]
  | a :: ks, t => by
    have ih := getElem?_eraseMany k ks (t.erase a)
    rw [eraseMany_eq_foldl] at ih ⊢
    rw [List.foldl_cons, ih, ExtTreeMap.getElem?_erase]
    by_cases hk : k ∈ ks
    · simp [hk]
    · by_cases ha : a = k
      · simp [ha]
      · simp [hk, ha, Ne.symm ha]

/-- Changing a value into itself, or one that is not there, changes nothing. -/
theorem modify_eq_self {t : ExtTreeMap κ α compare} {k : κ} {f : α → α} (h : ∀ a, t[k]? = some a → f a = a) :
    t.modify k f = t := by
  apply ExtTreeMap.ext_getElem?
  intro k'
  rw [ExtTreeMap.getElem?_modify]
  split
  · rename_i hk
    rw [Std.LawfulEqCmp.compare_eq_iff_eq] at hk
    subst hk
    cases ha : t[k]? with
    | none => rfl
    | some a => rw [Option.map_some, h a ha]
  · rfl

theorem modify_of_not_mem {t : ExtTreeMap κ α compare} {k : κ} (h : k ∉ t) (f : α → α) : t.modify k f = t :=
  modify_eq_self fun a ha => by rw [ExtTreeMap.getElem?_eq_none h] at ha; cases ha

theorem erase_of_not_mem {t : ExtTreeMap κ α compare} {k : κ} (h : k ∉ t) : t.erase k = t := by
  apply ExtTreeMap.ext_getElem?
  intro k'
  rw [ExtTreeMap.getElem?_erase]
  split
  · rename_i hk
    rw [Std.LawfulEqCmp.compare_eq_iff_eq] at hk
    subst hk
    exact (ExtTreeMap.getElem?_eq_none h).symm
  · rfl

/-! ## Edits made twice -/

theorem insert_insert (t : ExtTreeMap κ α compare) (k : κ) (a : α) : (t.insert k a).insert k a = t.insert k a := by
  apply ExtTreeMap.ext_getElem?
  intro k'
  rw [ExtTreeMap.getElem?_insert, ExtTreeMap.getElem?_insert]
  split <;> rfl

theorem insertIfNew_insertIfNew (t : ExtTreeMap κ α compare) (k : κ) (a : α) :
    (t.insertIfNew k a).insertIfNew k a = t.insertIfNew k a := by
  apply ExtTreeMap.ext_getElem?
  intro k'
  rw [ExtTreeMap.getElem?_insertIfNew, if_neg]
  exact fun h => h.2 ExtTreeMap.mem_insertIfNew_self

theorem insertMany_insertMany [DecidableEq κ] (t : ExtTreeMap κ α compare) (l : List (κ × α)) :
    (t.insertMany l).insertMany l = t.insertMany l := by
  apply ExtTreeMap.ext_getElem?
  intro k
  rw [ExtTreeMap.getElem?_insertMany_list, ExtTreeMap.getElem?_insertMany_list, ← Option.or_assoc, Option.or_self]

theorem modify_modify (t : ExtTreeMap κ α compare) (k : κ) {f : α → α} (hf : ∀ a, f (f a) = f a) :
    (t.modify k f).modify k f = t.modify k f := by
  refine modify_eq_self fun a ha => ?_
  rw [ExtTreeMap.getElem?_modify_self] at ha
  obtain ⟨b, -, rfl⟩ := Option.map_eq_some_iff.1 ha
  exact hf b

theorem erase_erase (t : ExtTreeMap κ α compare) (k : κ) : (t.erase k).erase k = t.erase k :=
  erase_of_not_mem (by simp)

end

/-! ## What a table of the cache keeps -/

/-- **Every value stands under its own key, and an untracked kind has no values.** -/
structure Kept {κ α : Type} [Ord κ] [TransOrd κ] (tracked : Bool) (key : α → κ)
    (t : ExtTreeMap κ α compare) : Prop where
  key_eq : ∀ k a, t[k]? = some a → key a = k
  eq_empty : tracked = false → t = ∅

namespace Kept

variable {κ α : Type} [Ord κ] [TransOrd κ] {tracked : Bool} {key : α → κ} {t : ExtTreeMap κ α compare}

theorem empty : Kept tracked key (∅ : ExtTreeMap κ α compare) where
  key_eq k a h := by rw [ExtTreeMap.getElem?_empty] at h; cases h
  eq_empty _ := rfl

theorem ite {p : Prop} [Decidable p] {t' : ExtTreeMap κ α compare} (h : Kept tracked key t)
    (h' : p → Kept tracked key t') : Kept tracked key (if p then t' else t) := by
  split
  · rename_i hp
    exact h' hp
  · exact h

variable [LawfulEqOrd κ]

theorem insert (h : Kept tracked key t) (ht : tracked = true) (a : α) : Kept tracked key (t.insert (key a) a) where
  key_eq k b hb := by
    rw [ExtTreeMap.getElem?_insert] at hb
    split at hb
    · rename_i hk
      cases hb
      exact Std.LawfulEqCmp.eq_of_compare hk
    · exact h.key_eq k b hb
  eq_empty hf := by rw [ht] at hf; cases hf

theorem insertIfNew (h : Kept tracked key t) (ht : tracked = true) (a : α) :
    Kept tracked key (t.insertIfNew (key a) a) where
  key_eq k b hb := by
    rw [ExtTreeMap.getElem?_insertIfNew] at hb
    split at hb
    · rename_i hk
      cases hb
      exact Std.LawfulEqCmp.eq_of_compare hk.1
    · exact h.key_eq k b hb
  eq_empty hf := by rw [ht] at hf; cases hf

theorem insertMany (ht : tracked = true) : ∀ (l : List α) {t : ExtTreeMap κ α compare}, Kept tracked key t →
    Kept tracked key (t.insertMany (l.map fun a => (key a, a)))
  | [], _, h => h
  | a :: l, _, h => by
    rw [List.map_cons, ExtTreeMap.insertMany_cons]
    exact insertMany ht l (h.insert ht a)

theorem ofList (ht : tracked = true) (l : List α) :
    Kept tracked key (ExtTreeMap.ofList (l.map fun a => (key a, a)) compare) := by
  rw [ExtTreeMap.ofList_eq_insertMany_empty]
  exact insertMany ht l empty

theorem modify (h : Kept tracked key t) (k : κ) {f : α → α} (hf : ∀ a, key (f a) = key a) :
    Kept tracked key (t.modify k f) where
  key_eq k' b hb := by
    rw [ExtTreeMap.getElem?_modify] at hb
    split at hb
    · rename_i hk
      obtain ⟨a, ha, rfl⟩ := Option.map_eq_some_iff.1 hb
      rw [hf, h.key_eq k a ha]
      exact Std.LawfulEqCmp.eq_of_compare hk
    · exact h.key_eq k' b hb
  eq_empty ht := by rw [h.eq_empty ht, ExtTreeMap.modify_eq_empty_iff]

theorem of_le {t' : ExtTreeMap κ α compare} (h : Kept tracked key t)
    (hle : ∀ (k : κ) (a : α), t'[k]? = some a → t[k]? = some a) : Kept tracked key t' where
  key_eq k a ha := h.key_eq k a (hle k a ha)
  eq_empty ht := by
    apply ExtTreeMap.ext_getElem?
    intro k
    rw [ExtTreeMap.getElem?_empty, Option.eq_none_iff_forall_ne_some]
    intro a ha
    have := hle k a ha
    rw [h.eq_empty ht, ExtTreeMap.getElem?_empty] at this
    cases this

theorem erase (h : Kept tracked key t) (k : κ) : Kept tracked key (t.erase k) := by
  refine h.of_le fun k' a ha => ?_
  rw [ExtTreeMap.getElem?_erase] at ha
  split at ha
  · cases ha
  · exact ha

theorem eraseMany [DecidableEq κ] (h : Kept tracked key t) (ks : List κ) : Kept tracked key (t.eraseMany ks) := by
  refine h.of_le fun k a ha => ?_
  rw [getElem?_eraseMany] at ha
  split at ha
  · cases ha
  · exact ha

theorem filter (h : Kept tracked key t) (p : κ → α → Bool) : Kept tracked key (t.filter p) := by
  refine h.of_le fun k a ha => ?_
  rw [ExtTreeMap.getElem?_filter'] at ha
  exact (Option.filter_eq_some_iff.1 ha).1

end Kept

end ChatClient
