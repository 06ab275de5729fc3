import ChatClient.Json.Basic
import Mathlib.Data.List.Basic
/-!
# Members of objects

What a look-up finds under a key is the first member with the key; taking members away or binding one key anew leaves
all that stands under other keys as it was, and so does picking out some members what stands under theirs.
-/
namespace ChatClient.Json

variable {key key' : String} {value : Json} {members : List (String × Json)}

def erase (key : String) : Json → Json
  | .object members => .object (members.filter (·.1 != key))
  | v => v

theorem lookup?_eq_head? : lookup? key members = ((members.filter (·.1 == key)).head?).map Prod.snd := by
  induction members with
  | nil => rfl
  | cons m members ih =>
    obtain ⟨k, v⟩ := m
    rw [lookup?, List.filter_cons]
    by_cases hk : k = key
    · simp [hk]
    · simp [hk, ih]

/-! ## Members taken away -/

theorem filter_erase : (members.filter (·.1 != key)).filter (·.1 == key) = [] := by
  rw [List.filter_filter]
  exact List.filter_eq_nil_iff.2 fun m _ => by simp

theorem filter_erase_of_not {p : String → Bool} (h : ¬p key = true) :
    (members.filter (·.1 != key)).filter (p ·.1) = members.filter (p ·.1) := by
  rw [List.filter_filter]
  refine List.filter_congr fun m _ => ?_
  by_cases hm : m.1 = key
  · simp [hm, h]
  · simp [hm]

theorem filter_erase_of_ne (h : key ≠ key') :
    (members.filter (·.1 != key')).filter (·.1 == key) = members.filter (·.1 == key) :=
  filter_erase_of_not (p := (· == key)) (by simpa using h.symm)

theorem get?_erase_of_ne (v : Json) (h : key ≠ key') : (v.erase key').get? key = v.get? key := by
  cases v with
  | object members =>
    change lookup? key (members.filter (·.1 != key')) = lookup? key members
    rw [lookup?_eq_head?, lookup?_eq_head?, filter_erase_of_ne h]
  | _ => rfl

/-! ## A key bound anew -/

theorem filter_insertMember_of_not {p : String → Bool} (h : ¬p key = true) :
    (insertMember key value members).filter (p ·.1) = members.filter (p ·.1) := by
  induction members with
  | nil => simp [insertMember, h]
  | cons m members ih =>
    obtain ⟨k, v⟩ := m
    unfold insertMember
    by_cases hk : k = key
    · simp [hk, h]
    · rw [if_neg hk, List.filter_cons, List.filter_cons, ih]

theorem filter_insertMember_of_ne (h : key ≠ key') :
    (insertMember key' value members).filter (·.1 == key) = members.filter (·.1 == key) :=
  filter_insertMember_of_not (p := (· == key)) (by simpa using h.symm)

theorem filter_insertMember (h : (members.filter (·.1 == key)).length ≤ 1) :
    (insertMember key value members).filter (·.1 == key) = [(key, value)] := by
  induction members with
  | nil => simp [insertMember]
  | cons m members ih =>
    obtain ⟨k, v⟩ := m
    unfold insertMember
    by_cases hk : k = key
    · rw [List.filter_cons_of_pos (by simpa using hk), List.length_cons] at h
      have hrest : members.filter (·.1 == key) = [] := List.length_eq_zero_iff.1 (by omega)
      rw [if_pos hk, List.filter_cons_of_pos (by simpa using hk), hrest, hk]
    · rw [List.filter_cons_of_neg (by simpa using hk)] at h
      rw [if_neg hk, List.filter_cons_of_neg (by simpa using hk), ih h]

theorem get?_set_of_ne (v : Json) (h : key ≠ key') : (set key' value v).get? key = v.get? key := by
  cases v with
  | object members =>
    change lookup? key (insertMember key' value members) = lookup? key members
    rw [lookup?_eq_head?, lookup?_eq_head?, filter_insertMember_of_ne h]
  | _ => rfl

theorem lookup?_insertMember : lookup? key (insertMember key value members) = some value := by
  induction members with
  | nil => simp [insertMember, lookup?]
  | cons m members ih =>
    obtain ⟨k, v⟩ := m
    unfold insertMember
    by_cases hk : k = key
    · rw [if_pos hk, lookup?, if_pos hk]
    · rw [if_neg hk, lookup?, if_neg hk, ih]

/-! ## Members picked out -/

def only (keys : List String) : Json → Json
  | .object members => .object (members.filter (keys.contains ·.1))
  | v => v

variable {keys keys' : List String}

/-- Of what is under some keys a test sees all, if it is for these keys. -/
theorem filter_only {p : String → Bool} (h : ∀ key, p key = true → key ∈ keys) :
    (members.filter (keys.contains ·.1)).filter (p ·.1) = members.filter (p ·.1) := by
  rw [List.filter_filter]
  refine List.filter_congr fun m _ => ?_
  by_cases hm : p m.1 = true
  · simp [hm, h _ hm]
  · simp [hm]

theorem only_only (v : Json) (h : keys ⊆ keys') : (v.only keys').only keys = v.only keys := by
  cases v with
  | object members =>
    exact congrArg Json.object (filter_only (p := keys.contains) fun key hkey => h (by simpa using hkey))
  | _ => rfl

theorem get?_only (v : Json) (h : key ∈ keys) : (v.only keys).get? key = v.get? key := by
  cases v with
  | object members =>
    change lookup? key (members.filter (keys.contains ·.1)) = lookup? key members
    rw [lookup?_eq_head?, lookup?_eq_head?, filter_only (p := (· == key)) fun k hk => by simpa [eq_of_beq hk] using h]
  | _ => rfl

theorem only_set (v : Json) (h : key ∉ keys) : (set key value v).only keys = v.only keys := by
  cases v with
  | object members => exact congrArg Json.object (filter_insertMember_of_not (p := keys.contains) (by simpa using h))
  | _ => rfl

theorem only_erase (v : Json) (h : key ∉ keys) : (v.erase key).only keys = v.only keys := by
  cases v with
  | object members => exact congrArg Json.object (filter_erase_of_not (p := keys.contains) (by simpa using h))
  | _ => rfl

end ChatClient.Json
