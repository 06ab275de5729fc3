import ChatClient.Proofs.Wire.Faithful
import ChatClient.Update.Change
import ChatClient.Update.ClearName
import Mathlib.Data.Set.Defs
import Mathlib.Logic.Function.Basic
/-!
# Fields as updates see them

An update knows a field of an entity in three ways: by its value, by the new value that a patch gives it, and by the
names that clear it or parts of it.  A `Slot` puts the three together, under the name that the field has on the wire.
Where the slots of an entity are all its fields (`UpdateForm.Described`), what becomes of them (`Slot.after`) is all
there is to know of an update (`UpdateForm.ByField`), and two updates in a row are a single one
(`UpdateForm.Composite`).
-/
namespace ChatClient

/-- A field of an entity `ε`: its name on the wire, its value, whether patches `π` have the field, the new value
that a patch may give it, the names out of `φ` that clear it or a part of it, and what is left of a value when some
names are cleared. -/
structure Slot (ε π φ : Type) where
  name : String
  Value : Type
  [wire : Wire Value]
  get : ε → Value
  patched : Bool
  given : π → Option Value
  fields : List φ
  left : (φ → Bool) → Value → Value
  left_congr : ∀ {named named' : φ → Bool}, (∀ f ∈ fields, named f = named' f) →
    ∀ v, left named v = left named' v
  left_left : ∀ (named named' : φ → Bool) (v : Value), left named' (left named v) =
    left (fun f => named' f || named f) v

attribute [instance] Slot.wire

namespace Slot

variable {ε π φ α : Type} [Wire α]

def fixed (name : String) (get : ε → α) : Slot ε π φ where
  name
  Value := α
  get
  patched := false
  given _ := none
  fields := []
  left _ v := v
  left_congr _ _ := rfl
  left_left _ _ _ := rfl

def settable (name : String) (get : ε → α) (given : π → Option α) : Slot ε π φ where
  name
  Value := α
  get
  patched := true
  given
  fields := []
  left _ v := v
  left_congr _ _ := rfl
  left_left _ _ _ := rfl

/-- A field that may be given and that a name sets to zero. -/
def clearable (name : String) (get : ε → α) (given : π → Option α) (field : φ) (zero : α) : Slot ε π φ where
  name
  Value := α
  get
  patched := true
  given
  fields := [field]
  left named v := if named field then zero else v
  left_congr h v := by rw [h field List.mem_cons_self]
  left_left named named' v := by simp only [Bool.or_eq_true, ite_or]

def optional (name : String) (get : ε → Option α) (given : π → Option α) : Slot ε π φ :=
  settable name get fun d => (given d).map some

/-- A field that may be missing and that a name takes away. -/
def erasable (name : String) (get : ε → Option α) (given : π → Option α) (field : φ) : Slot ε π φ :=
  clearable name get (fun d => (given d).map some) field none

/-- A field that may be missing and is given as a whole, while names clear parts of it where it is there. -/
def divisible (name : String) (get : ε → Option α) (given : π → Option α) (fields : List φ)
    (left : (φ → Bool) → α → α)
    (left_congr : ∀ {named named' : φ → Bool}, (∀ f ∈ fields, named f = named' f) →
      ∀ a, left named a = left named' a)
    (left_left : ∀ (named named' : φ → Bool) (a : α), left named' (left named a) =
      left (fun f => named' f || named f) a) :
    Slot ε π φ where
  name
  Value := Option α
  get
  patched := true
  given d := (given d).map some
  fields
  left named a? := a?.map (left named)
  left_congr h a? := by cases a? <;> simp [left_congr h]
  left_left named named' a? := by cases a? <;> simp [left_left]

def member? (s : Slot ε π φ) (d : π) : Option (String × Json) :=
  if s.patched then some (s.name, Wire.write (s.given d)) else none

section Wire

variable (name : String) (d : π)

theorem write_map_some (a? : Option α) : (Wire.write (a?.map some) : Json) = Wire.write a? := by
  cases a? <;> rfl

@[simp]
theorem member?_fixed (get : ε → α) : (fixed name get : Slot ε π φ).member? d = none := rfl

@[simp]
theorem member?_settable (get : ε → α) (given : π → Option α) :
    (settable name get given : Slot ε π φ).member? d = some (name, Wire.write (given d)) := rfl

@[simp]
theorem member?_clearable (get : ε → α) (given : π → Option α) (field : φ) (zero : α) :
    (clearable name get given field zero).member? d = some (name, Wire.write (given d)) := rfl

@[simp]
theorem member?_optional (get : ε → Option α) (given : π → Option α) :
    (optional name get given : Slot ε π φ).member? d = some (name, Wire.write (given d)) :=
  congrArg (fun v => some (name, v)) (write_map_some (given d))

@[simp]
theorem member?_erasable (get : ε → Option α) (given : π → Option α) (field : φ) :
    (erasable name get given field).member? d = some (name, Wire.write (given d)) :=
  congrArg (fun v => some (name, v)) (write_map_some (given d))

@[simp]
theorem member?_divisible (get : ε → Option α) (given : π → Option α) (fields : List φ)
    (left : (φ → Bool) → α → α)
    {hcongr hleft} : (divisible name get given fields left hcongr hleft).member? d =
      some (name, Wire.write (given d)) :=
  congrArg (fun v => some (name, v)) (write_map_some (given d))

end Wire

/-- **The field after an update**: the value that is given, or else the old one, without what is cleared. -/
def after [DecidableEq φ] (s : Slot ε π φ) (e : ε) (d : π) (clear : List (ClearName φ)) : s.Value :=
  s.left (ClearName.clears clear) ((s.given d).getD (s.get e))

def Follows [DecidableEq φ] (s : Slot ε π φ) (update : ε → π → List (ClearName φ) → ε) : Prop :=
  ∀ e d clear, s.get (update e d clear) = s.after e d clear

end Slot

/-! ## Entities -/

/-- An entity that is read as it was written, with its patches and the names of its fields. -/
structure UpdateForm where
  Entity : Type
  Patch : Type
  Field : Type
  [entityWire : Wire Entity]
  [faithful : Wire.Faithful Entity]
  [patchWire : Wire Patch]
  [clearable : Clearable Field]
  [decEq : DecidableEq Field]
  update : Entity → Patch → List (ClearName Field) → Entity
  slots : List (Slot Entity Patch Field)

namespace UpdateForm

attribute [instance] entityWire faithful patchWire clearable decEq

/-- A name of several words in one, each with a capital: how clear lists spell what is `display_name` on the wire. -/
def joined : Bool → List Char → List Char
  | _, [] => []
  | _, '_' :: cs => joined true cs
  | capital, c :: cs => (if capital then c.toUpper else c) :: joined false cs

/-- **The slots of an entity are its fields**: what is written of it are the slots, each under a name of its own; what
is written of a patch is, in some order, what it gives to those that patches have; and each name that clear lists know
is of one slot, with the name of which it begins. -/
structure Described (F : UpdateForm) : Prop where
  distinct : (F.slots.map Slot.name).Nodup
  written : ∀ e : F.Entity, Wire.write e = .object (F.slots.map fun s => (s.name, Wire.write (s.get e)))
  given : ∀ d : F.Patch, ∃ members, Wire.write d = .object members ∧
    members.Perm (F.slots.filterMap (·.member? d))
  named : ∀ f : F.Field, ∃! s, s ∈ F.slots ∧ f ∈ s.fields
  spelled : ∀ s ∈ F.slots, ∀ f ∈ s.fields, joined true s.name.toList <+: (Clearable.name f).toList

/-- **Updates go field by field.**  An update makes of each slot what `Slot.after` says, and no other entity has these
slots; of the clear list only the known names matter, and not their order or number. -/
structure ByField (F : UpdateForm) : Prop extends Described F where
  updated : ∀ s ∈ F.slots, s.Follows F.update
  only : ∀ e d clear e', (∀ s ∈ F.slots, s.get e' = s.after e d clear) → e' = F.update e d clear
  known : ∀ e d, (F.update e d).FactorsThrough fun clear => {f | ClearName.known f ∈ clear}

variable {F : UpdateForm}

theorem eq_of_mem_fields {ε π φ : Type} {s s' : Slot ε π φ} {f : φ} (hf : f ∈ s.fields) (hf' : f ∈ s'.fields) :
    ∀ {slots : List (Slot ε π φ)}, (slots.flatMap Slot.fields).Nodup → s ∈ slots → s' ∈ slots → s = s'
  | [], _, hs, _ => nomatch hs
  | t :: slots, h, hs, hs' => by
    obtain ⟨-, hrest, hapart⟩ := List.nodup_append.1 h
    rcases List.mem_cons.1 hs with rfl | hlater
    · rcases List.mem_cons.1 hs' with rfl | hlater'
      · rfl
      · exact absurd rfl (hapart f hf f (List.mem_flatMap.2 ⟨s', hlater', hf'⟩))
    · rcases List.mem_cons.1 hs' with rfl | hlater'
      · exact absurd rfl (hapart f hf' f (List.mem_flatMap.2 ⟨s, hlater, hf⟩))
      · exact eq_of_mem_fields hf hf' hrest hlater hlater'

theorem existsUnique_slot {ε π φ : Type} (slots : List (Slot ε π φ)) (hall : ∀ f, f ∈ slots.flatMap Slot.fields)
    (halone : (slots.flatMap Slot.fields).Nodup) (f : φ) : ∃! s, s ∈ slots ∧ f ∈ s.fields := by
  obtain ⟨s, hs, hf⟩ := List.mem_flatMap.1 (hall f)
  exact ⟨s, ⟨hs, hf⟩, fun s' h => eq_of_mem_fields h.2 hf halone h.1 hs⟩

theorem Described.ext (h : F.Described) {e e' : F.Entity} (hslots : ∀ s ∈ F.slots, s.get e = s.get e') :
    e = e' := by
  have hwritten : (Wire.write e : Json) = Wire.write e' := by
    rw [h.written, h.written]
    refine congrArg Json.object (List.map_congr_left fun s hs => ?_)
    rw [hslots s hs]
  have hread := Wire.Faithful.read?_write e
  rw [hwritten, Wire.Faithful.read?_write] at hread
  exact (Option.some.inj hread).symm

theorem after_congr (s : Slot F.Entity F.Patch F.Field) (e : F.Entity) (d : F.Patch)
    {clear clear' : List (ClearName F.Field)}
    (hknown : ∀ f ∈ s.fields, ClearName.known f ∈ clear ↔ ClearName.known f ∈ clear') :
    s.after e d clear = s.after e d clear' := by
  refine s.left_congr (fun f hf => ?_) _
  rw [Bool.eq_iff_iff]
  simpa [ClearName.clears] using hknown f hf

/-- **What the slots tell is all there is to an update.** -/
theorem Described.byField (h : F.Described)
    (hupdated : ∀ s ∈ F.slots, s.Follows F.update) : F.ByField where
  toDescribed := h
  updated := hupdated
  only e d clear e' he' := h.ext fun s hs => (he' s hs).trans (hupdated s hs e d clear).symm
  known e d clear clear' hknown := by
    have hsame (f : F.Field) : ClearName.known f ∈ clear ↔ ClearName.known f ∈ clear' := Set.ext_iff.1 hknown f
    refine h.ext fun s hs => ?_
    rw [hupdated s hs e d clear, hupdated s hs e d clear']
    exact after_congr s e d fun f _ => hsame f

/-! ## Two updates in a row -/

/-- **A single update in place of two**: it gives what the second gives, or else what the first gives, and clears what
the second clears, and of what the first clears all that the second does not give anew. -/
structure Composite (F : UpdateForm) (d : F.Patch) (clear : List (ClearName F.Field)) (d' : F.Patch)
    (clear' : List (ClearName F.Field)) (both : F.Patch) (cleared : List (ClearName F.Field)) : Prop where
  given : ∀ s ∈ F.slots, s.given both = (s.given d').or (s.given d)
  known : ∀ f, .known f ∈ cleared ↔ .known f ∈ clear' ∨ .known f ∈ clear ∧
    ∀ s ∈ F.slots, f ∈ s.fields → s.given d' = none
  update : ∀ e, F.update (F.update e d clear) d' clear' = F.update e both cleared

/-- A name that is still cleared after a second patch, which does not give its field. -/
def outlives (F : UpdateForm) (d' : F.Patch) : ClearName F.Field → Bool
  | .known f => F.slots.all fun s => !(s.fields.contains f && (s.given d').isSome)
  | .unknown _ => true

/-- What a clear list and a second update's clear list clear in the end. -/
def clearedBy (F : UpdateForm) (clear : List (ClearName F.Field)) (d' : F.Patch) (clear' : List (ClearName F.Field)) :
    List (ClearName F.Field) :=
  clear' ++ clear.filter (F.outlives d')

theorem known_mem_clearedBy {clear clear' : List (ClearName F.Field)} {d' : F.Patch} {f : F.Field} :
    .known f ∈ F.clearedBy clear d' clear' ↔
      .known f ∈ clear' ∨ .known f ∈ clear ∧ ∀ s ∈ F.slots, f ∈ s.fields → s.given d' = none := by
  unfold clearedBy outlives
  simp [List.mem_append, List.mem_filter, List.all_eq_true, imp_iff_not_or]

/-- **A second update of a slot overrides the first where it gives a value, and clears after it where it does not.** -/
theorem ByField.composite (h : F.ByField) {d d' both : F.Patch}
    (hboth : ∀ s ∈ F.slots, s.given both = (s.given d').or (s.given d)) (clear clear' : List (ClearName F.Field)) :
    F.Composite d clear d' clear' both (F.clearedBy clear d' clear') := by
  refine ⟨hboth, fun f => known_mem_clearedBy, fun e => h.only e both _ _ fun s hs => ?_⟩
  rw [h.updated s hs _ d' clear']
  unfold Slot.after
  rw [h.updated s hs e d clear, hboth s hs]
  have hcleared (f : F.Field) (hf : f ∈ s.fields) :
      ClearName.clears (F.clearedBy clear d' clear') f =
        (ClearName.clears clear' f || ClearName.clears clear f && (s.given d').isNone) := by
    -- no slot but `s` has the name, so what the second patch gives elsewhere does not matter
    have hcarrier : (∀ s ∈ F.slots, f ∈ s.fields → s.given d' = none) ↔ s.given d' = none := by
      refine ⟨fun hnone => hnone s hs hf, fun hnone s' hs' hf' => ?_⟩
      rw [(h.named f).unique ⟨hs', hf'⟩ ⟨hs, hf⟩]
      exact hnone
    rw [Bool.eq_iff_iff]
    simp [ClearName.clears, known_mem_clearedBy, hcarrier]
  cases hgiven : s.given d' with
  | some v =>
    -- the value that the first update left is gone, and with it all that was cleared there
    refine s.left_congr (fun f hf => ?_) v
    rw [hcleared f hf, hgiven]
    simp
  | none =>
    -- both lists clear, one after the other, what the first update left
    unfold Slot.after
    rw [Option.getD_none, s.left_left, Option.none_or]
    refine s.left_congr (fun f hf => ?_) _
    rw [hcleared f hf, hgiven]
    simp

/-- **An update that is made again finds nothing to do.** -/
theorem ByField.update_update (h : F.ByField) (e : F.Entity) (d : F.Patch) (clear : List (ClearName F.Field)) :
    F.update (F.update e d clear) d clear = F.update e d clear := by
  refine h.only e d clear _ fun s hs => ?_
  rw [h.updated s hs _ d clear]
  unfold Slot.after
  cases hgiven : s.given d with
  | some v => rfl
  | none =>
    have hget := h.updated s hs e d clear
    unfold Slot.after at hget
    rw [Option.getD_none, hget, hgiven, Option.getD_none, s.left_left]
    simp only [Bool.or_self]

end UpdateForm

end ChatClient
