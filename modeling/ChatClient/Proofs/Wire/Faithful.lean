import ChatClient.Wire.Record
import Mathlib.Data.List.Basic
/-!
# What is written is read

A type is faithful on the wire if the JSON value that is written of a value is read as that value (`Wire.Faithful`).
Where null stands for a missing value a type has to be solid besides: none of its values is written as null
(`Wire.Solid`).  Options, lists and tables are as faithful as what is in them, and records as their fields, if these
are told apart by their names and a value that is not written is the one that stands for a missing field
(`Record.Kept`).
-/
namespace ChatClient

namespace Wire

class Faithful (α : Type) [Wire α] : Prop where
  read?_write (a : α) : read? (write a) = some a

class Solid (α : Type) [Wire α] : Prop extends Faithful α where
  write_ne_null (a : α) : write a ≠ .null

variable {α : Type} [Wire α]

/-! ## Plain values -/

instance : Faithful Json where
  read?_write _ := rfl

instance : Solid Bool where
  read?_write _ := rfl
  write_ne_null _ := nofun

instance : Solid String where
  read?_write _ := rfl
  write_ne_null _ := nofun

theorem readInt?_int {low high n : Int} (hlow : low ≤ n) (hhigh : n ≤ high) : readInt? low high (Json.int n) = some n :=
  if_pos ⟨hlow, hhigh⟩

instance : Solid UInt32 where
  read?_write n := by
    have hread : readInt? 0 0xffffffff (Json.int n.toNat) = some (n.toNat : Int) := readInt?_int (by omega) (by
      have hlt := n.toNat_lt
      omega)
    change (readInt? 0 0xffffffff (Json.int n.toNat)).map _ = _
    rw [hread]
    exact congrArg some n.ofNat_toNat
  write_ne_null _ := nofun

instance : Solid UInt64 where
  read?_write n := by
    have hread : readInt? 0 0xffffffffffffffff (Json.int n.toNat) = some (n.toNat : Int) := readInt?_int (by omega) (by
      have hlt := n.toNat_lt
      omega)
    change (readInt? 0 0xffffffffffffffff (Json.int n.toNat)).map _ = _
    rw [hread]
    exact congrArg some n.ofNat_toNat
  write_ne_null _ := nofun

instance : Solid Int64 where
  read?_write n := by
    have hread : readInt? (-0x8000000000000000) 0x7fffffffffffffff (Json.int n.toInt) = some n.toInt :=
      readInt?_int n.le_toInt (by
        have hlt := n.toInt_lt
        omega)
    change (readInt? (-0x8000000000000000) 0x7fffffffffffffff (Json.int n.toInt)).map _ = _
    rw [hread]
    exact congrArg some n.ofInt_toInt
  write_ne_null _ := nofun

/-! ## Containers -/

theorem read?_of_ne_null {v : Json} (h : v ≠ .null) :
    (read? v : Option (Option α)) = (read? v : Option α).map some := by
  cases v with
  | null => exact absurd rfl h
  | _ => rfl

instance [Solid α] : Faithful (Option α) where
  read?_write a? := by
    cases a? with
    | none => rfl
    | some a => exact (read?_of_ne_null (Solid.write_ne_null a)).trans (by rw [Faithful.read?_write, Option.map_some])

theorem mapM_read?_write [Faithful α] (xs : List α) : (xs.map write).mapM (read? : Json → Option α) = some xs := by
  induction xs with
  | nil => rfl
  | cons x xs ih =>
    rw [List.map_cons, List.mapM_cons, Faithful.read?_write, ih]
    rfl

instance [Faithful α] : Solid (List α) where
  read?_write xs := mapM_read?_write xs
  write_ne_null _ := nofun

theorem mapM_entries [Faithful α] (es : List (String × α)) :
    ((es.map fun e => (e.1, write e.2)).mapM fun m => (read? m.2).map fun a => (m.1, a)) = some es := by
  induction es with
  | nil => rfl
  | cons e es ih =>
    rw [List.map_cons, List.mapM_cons, Faithful.read?_write, ih]
    rfl

omit [Wire α] in
theorem ofList_toList (t : Table α) : Std.ExtTreeMap.ofList t.toList compare = t := by
  refine Std.ExtTreeMap.ext_getElem? fun key => ?_
  cases hkey : t[key]? with
  | some a =>
    have hmem : (key, a) ∈ t.toList := Std.ExtTreeMap.mem_toList_iff_getElem?_eq_some.2 hkey
    exact Std.ExtTreeMap.getElem?_ofList_of_mem Std.ReflCmp.compare_self Std.ExtTreeMap.distinct_keys_toList hmem
  | none =>
    refine Std.ExtTreeMap.getElem?_ofList_of_contains_eq_false ?_
    rw [← Bool.not_eq_true, List.contains_iff_mem, List.mem_map]
    rintro ⟨⟨k, a⟩, hmem, rfl⟩
    rw [Std.ExtTreeMap.mem_toList_iff_getElem?_eq_some.1 hmem] at hkey
    cases hkey

instance [Faithful α] : Solid (Table α) where
  read?_write t := by
    change ((t.toList.map fun e => (e.1, write e.2)).mapM fun m => (read? m.2).map fun a => (m.1, a)).map _ = _
    rw [mapM_entries]
    exact congrArg some (ofList_toList t)
  write_ne_null _ := nofun

end Wire

/-! ## Records -/

namespace Field

variable {σ α : Type} (f : Field σ α)

theorem named_iff (key : String) : f.named key = true ↔ key ∈ f.name :: f.others := by
  simp [named]

def members [w : Wire α] (s : σ) : List (String × Json) :=
  if f.omitted (f.get s) then [] else [(f.name, w.write (f.get s))]

theorem eq_of_mem_members [Wire α] {s : σ} {m : String × Json} (h : m ∈ f.members s) : m.1 = f.name := by
  unfold members at h
  split at h
  · cases h
  · rw [List.mem_singleton.1 h]

theorem ofMembers?_members [Wire α] [Wire.Faithful α]
    (homitted : ∀ a, f.omitted a = true → f.absent = some a) (s : σ)
    {members : List (String × Json)} (hmembers : (members.filter fun m => f.named m.1) = f.members s) :
    f.ofMembers? members = some (f.get s) := by
  unfold ofMembers?
  rw [hmembers]
  unfold Field.members
  by_cases h : f.omitted (f.get s) = true
  · rw [if_pos h]
    exact homitted _ h
  · rw [if_neg h]
    exact Wire.Faithful.read?_write (f.get s)

end Field

namespace Record

variable {σ α β : Type}

def names {β : Type} : Record σ β → List String
  | .make _ => []
  | .field r f _ => r.names ++ f.name :: f.others

/-- **A record loses nothing**: each field is of a faithful type, and a value that is not written stands for the
missing field. -/
class inductive Kept {σ : Type} : {β : Type} → Record σ β → Prop where
  | make {β : Type} (b : β) : Kept (.make b)
  | field {α β : Type} {r : Record σ (α → β)} {f : Field σ α} {w : Wire α} : Kept r → @Wire.Faithful α w →
      (∀ a, f.omitted a = true → f.absent = some a) → Kept (.field r f w)

instance (b : β) : (make b : Record σ β).Kept := .make b

section

variable [Wire α] (r : Record σ (α → β)) [h : r.Kept] (name : String) (get : σ → α)

instance [Wire.Faithful α] : (r.required name get).Kept := .field h inferInstance nofun

instance [Wire.Faithful α] [Inhabited α] : (r.optional name get).Kept := .field h inferInstance nofun

/-- A field that is always written, under whatever names it is read. -/
instance [Wire.Faithful α] (others : List String) (absent : Option α) :
    (r.field ⟨name, others, get, absent, fun _ => false⟩ inferInstance).Kept := .field h inferInstance nofun

end

instance [Wire α] [Wire.Solid α] (r : Record σ (Option α → β)) [h : r.Kept] (name : String)
    (get : σ → Option α) : (r.omittable name get Option.isNone).Kept :=
  .field h inferInstance fun _ hnone => congrArg some (Option.isNone_iff_eq_none.1 hnone).symm

instance [Wire α] [Wire.Faithful α] (r : Record σ (List α → β)) [h : r.Kept] (name : String) (get : σ → List α) :
    (r.omittable name get List.isEmpty).Kept :=
  .field h inferInstance fun _ hempty => congrArg some (List.isEmpty_iff.1 hempty).symm

theorem members_field (r : Record σ (α → β)) (f : Field σ α) (w : Wire α) (s : σ) :
    (r.field f w).members s = r.members s ++ f.members s := rfl

theorem mem_names_of_mem_members (r : Record σ β) (s : σ) : ∀ m ∈ r.members s, m.1 ∈ r.names := by
  induction r with
  | make b => exact fun _ hm => nomatch hm
  | field r f w ih =>
    intro m hm
    rw [members_field] at hm
    unfold names
    rcases List.mem_append.1 hm with hm | hm
    · exact List.mem_append_left _ (ih m hm)
    · rw [f.eq_of_mem_members hm]
      exact List.mem_append_right _ List.mem_cons_self

/-- A record is read from what was written of it, with members behind it that name none of its fields. -/
theorem ofMembers?_members {r : Record σ β} (h : r.Kept) (s : σ) (later : List (String × Json)) (hnames : r.names.Nodup)
    (hlater : ∀ m ∈ later, m.1 ∉ r.names) : r.ofMembers? (r.members s ++ later) = some (r.rebuild s) := by
  induction h generalizing later with
  | make b => rfl
  | @field α β r f w hr hfaithful homitted ih =>
    obtain ⟨hrest, -, hapart⟩ := List.nodup_append.1 hnames
    have hbefore : (r.members s).filter (fun m => f.named m.1) = [] := by
      refine List.filter_eq_nil_iff.2 fun m hm => ?_
      rw [f.named_iff]
      exact fun hmem => hapart _ (r.mem_names_of_mem_members s m hm) _ hmem rfl
    have hown : (f.members s).filter (fun m => f.named m.1) = f.members s := by
      refine List.filter_eq_self.2 fun m hm => ?_
      rw [f.eq_of_mem_members hm, f.named_iff]
      exact List.mem_cons_self
    have hafter : later.filter (fun m => f.named m.1) = [] := by
      refine List.filter_eq_nil_iff.2 fun m hm => ?_
      rw [f.named_iff]
      exact fun hmem => hlater m hm (List.mem_append_right _ hmem)
    have hothers : ∀ m ∈ f.members s ++ later, m.1 ∉ r.names := by
      intro m hm hmem
      rcases List.mem_append.1 hm with hm | hm
      · rw [f.eq_of_mem_members hm] at hmem
        exact hapart _ hmem _ List.mem_cons_self rfl
      · exact hlater m hm (List.mem_append_left _ hmem)
    have hrecord : r.ofMembers? ((r.field f w).members s ++ later) = some (r.rebuild s) := by
      rw [members_field, List.append_assoc]
      exact ih _ hrest hothers
    have hfield : f.ofMembers? ((r.field f w).members s ++ later) = some (f.get s) := by
      refine f.ofMembers?_members homitted s ?_
      rw [members_field, List.filter_append, List.filter_append, hbefore, hown, hafter, List.nil_append,
        List.append_nil]
    rw [ofMembers?, hrecord, hfield]
    rfl

theorem read?_members {r : Record σ σ} (h : r.Kept) (hnames : r.names.Nodup) (s : σ) :
    r.read? (Json.object (r.members s)) = some (r.rebuild s) := by
  have hread := ofMembers?_members h s [] hnames fun _ hm => nomatch hm
  rw [List.append_nil] at hread
  exact hread

/-- **A record that loses nothing is faithful** if its fields are told apart by their names and are all that there
is. -/
theorem solid {r : Record σ σ} (hnames : r.names.Nodup) (hrebuild : ∀ s, r.rebuild s = s) (h : r.Kept) :
    @Wire.Solid σ (.ofRecord r) :=
  @Wire.Solid.mk σ (.ofRecord r) (@Wire.Faithful.mk σ (.ofRecord r) fun s =>
    (read?_members h hnames s).trans (congrArg some (hrebuild s)))
    fun _ => nofun

end Record

end ChatClient
