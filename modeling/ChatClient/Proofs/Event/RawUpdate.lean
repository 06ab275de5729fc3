import ChatClient.Event.Update
import ChatClient.Proofs.Json.Members
import ChatClient.Proofs.Wire.Faithful
/-!
# Raw updates and their frames

A raw update holds what stands in its frame under six names, each of which may come once
(`RawUpdate.read?_eq_some_iff`); the rest of the frame does not matter.  So a frame can be changed member by member,
and the update changes with it.  `normalize` leaves one list of names (`RawUpdate.named`) and everything else as it
was.
-/
namespace ChatClient

/-! ## Single members -/

namespace Json

variable {key key' : String} {value : Json} {members : List (String × Json)} {α : Type} [Wire α] {absent : Option α}

/-- What the members of an object hold under a key, where one member may have it. -/
def memberAs? (absent : Option α) (key : String) (members : List (String × Json)) : Option α :=
  match members.filter (·.1 == key) with
  | [] => absent
  | [m] => Wire.read? m.2
  | _ => none

theorem memberAs?_congr {members' : List (String × Json)}
    (h : members'.filter (·.1 == key) = members.filter (·.1 == key)) :
    memberAs? absent key members' = memberAs? absent key members := by
  unfold memberAs?
  rw [h]

theorem memberAs?_eq_some {a : α} (h : memberAs? absent key members = some a) :
    lookup? key members = none ∧ absent = some a ∨ ∃ v, lookup? key members = some v ∧ Wire.read? v = some a := by
  unfold memberAs? at h
  rw [lookup?_eq_head?]
  split at h
  · rename_i hnone
    exact .inl ⟨by rw [hnone]; rfl, h⟩
  · rename_i m hm
    exact .inr ⟨m.2, by rw [hm]; rfl, h⟩
  · cases h

theorem memberAs?_erase_of_ne (h : key ≠ key') :
    memberAs? absent key (members.filter (·.1 != key')) = memberAs? absent key members :=
  memberAs?_congr (filter_erase_of_ne h)

theorem memberAs?_erase : memberAs? absent key (members.filter (·.1 != key)) = absent := by
  unfold memberAs?
  rw [filter_erase]

theorem memberAs?_insertMember_of_ne (h : key ≠ key') :
    memberAs? absent key (insertMember key' value members) = memberAs? absent key members :=
  memberAs?_congr (filter_insertMember_of_ne h)

theorem memberAs?_insertMember {a : α} (h : memberAs? absent key members = some a) :
    memberAs? absent key (insertMember key value members) = Wire.read? value := by
  have honce : (members.filter (·.1 == key)).length ≤ 1 := by
    unfold memberAs? at h
    split at h
    · rename_i hnone
      rw [hnone, List.length_nil]
      exact Nat.zero_le 1
    · rename_i hone
      exact hone ▸ Nat.le_refl 1
    · cases h
  unfold memberAs?
  rw [filter_insertMember honce]

end Json

/-! ## Reading a raw update -/

theorem Field.ofMembers?_eq_memberAs? {σ α : Type} [Wire α] (f : Field σ α) (h : f.others = [])
    (members : List (String × Json)) : f.ofMembers? members = Json.memberAs? f.absent f.name members := by
  have hnamed : (fun m : String × Json => f.named m.1) = fun m => m.1 == f.name := by
    funext m
    simp [Field.named, h]
  unfold Field.ofMembers? Json.memberAs?
  rw [hnamed]
  cases members.filter fun m => m.1 == f.name with
  | nil => rfl
  | cons m rest => cases rest <;> rfl

theorem Record.ofMembers?_field {σ α β : Type} (r : Record σ (α → β)) (f : Field σ α) (w : Wire α)
    (h : f.others = []) (members : List (String × Json)) (b : β) :
    (r.field f w).ofMembers? members = some b ↔
      ∃ g a, r.ofMembers? members = some g ∧ Json.memberAs? f.absent f.name members = some a ∧ g a = b := by
  rw [Record.ofMembers?, f.ofMembers?_eq_memberAs? h]
  simp [Option.bind_eq_some_iff]

namespace RawUpdate

variable {members : List (String × Json)} {u : RawUpdate}

/-- **A raw update is what stands under its six names.** -/
theorem read?_eq_some_iff :
    Wire.read? (Json.object members) = some u ↔
      Json.memberAs? none "id" members = some u.id ∧ Json.memberAs? (some none) "role_id" members = some u.roleId ∧
        Json.memberAs? (some none) "channel" members = some u.channel ∧
        Json.memberAs? (some .null) "data" members = some u.data ∧
        Json.memberAs? (some []) "clear" members = some u.clear ∧
        Json.memberAs? (some []) "remove" members = some u.remove := by
  change record.ofMembers? members = some u ↔ _
  unfold record Record.omittable Record.optional Record.required
  simp only [Record.ofMembers?_field]
  constructor
  · rintro ⟨_, remove,
      ⟨_, clear, ⟨_, data, ⟨_, channel, ⟨_, roleId, ⟨_, id, hmake, hid, rfl⟩, hroleId, rfl⟩, hchannel, rfl⟩,
      hdata, rfl⟩, hclear, rfl⟩, hremove, rfl⟩
    cases hmake
    exact ⟨hid, hroleId, hchannel, hdata, hclear, hremove⟩
  · rintro ⟨hid, hroleId, hchannel, hdata, hclear, hremove⟩
    exact ⟨_, _, ⟨_, _, ⟨_, _, ⟨_, _, ⟨_, _, ⟨_, _, rfl, hid, rfl⟩, hroleId, rfl⟩, hchannel, rfl⟩, hdata,
      rfl⟩, hclear, rfl⟩, hremove, rfl⟩

/-- **What a frame says of its update**: a missing member stands for nothing, and so does null, which a list may not
be. -/
structure SpelledBy (u : RawUpdate) (v : Json) : Prop where
  id : ∃ w, v.get? "id" = some w ∧ Wire.read? w = some u.id
  roleId : u.roleId = (v.get? "role_id").bind Json.string?
  channel : u.channel = (v.get? "channel").bind Json.string?
  data : u.data = (v.get? "data").getD .null
  clear : u.clear.map Json.string = ((v.get? "clear").bind Json.array?).getD []
  remove : u.remove.map Json.string = ((v.get? "remove").bind Json.array?).getD []

theorem eq_string?_of_memberAs? {key : String} {s? : Option String}
    (h : Json.memberAs? (some none) key members = some s?) :
    s? = (Json.lookup? key members).bind Json.string? := by
  rcases Json.memberAs?_eq_some h with ⟨hnone, habsent⟩ | ⟨w, hw, hread⟩
  · rw [hnone]
    exact (Option.some.inj habsent).symm
  · rw [hw]
    cases w with
    | null | string s => exact (Option.some.inj hread).symm
    | _ => cases hread

theorem map_string_of_mapM {items : List Json} {names : List String} (h : items.mapM Wire.read? = some names) :
    names.map Json.string = items := by
  induction items generalizing names with
  | nil =>
    cases h
    rfl
  | cons v items ih =>
    rw [List.mapM_cons] at h
    obtain ⟨s, hs, rest, hrest, hnames⟩ : ∃ s, Wire.read? v = some s ∧
      ∃ rest, items.mapM Wire.read? = some rest ∧
        s :: rest = names := by
      simpa [Option.bind_eq_some_iff] using h
    subst hnames
    rw [List.map_cons, ih hrest]
    cases v with
    | string t =>
      cases hs
      rfl
    | _ => cases hs

theorem map_string_of_memberAs? {key : String} {names : List String}
    (h : Json.memberAs? (some []) key members = some names) :
    names.map Json.string = ((Json.lookup? key members).bind Json.array?).getD [] := by
  rcases Json.memberAs?_eq_some h with ⟨hnone, habsent⟩ | ⟨w, hw, hread⟩
  · rw [hnone, ← Option.some.inj habsent]
    rfl
  · rw [hw]
    cases w with
    | array items => exact map_string_of_mapM hread
    | _ => cases hread

theorem spelledBy_of_read? (h : Wire.read? (Json.object members) = some u) : u.SpelledBy (.object members) := by
  obtain ⟨hid, hroleId, hchannel, hdata, hclear, hremove⟩ := read?_eq_some_iff.1 h
  refine ⟨?_, eq_string?_of_memberAs? hroleId, eq_string?_of_memberAs? hchannel, ?_, map_string_of_memberAs? hclear,
    map_string_of_memberAs? hremove⟩
  · rcases Json.memberAs?_eq_some hid with ⟨-, habsent⟩ | hmember
    · cases habsent
    · exact hmember
  · rcases Json.memberAs?_eq_some hdata with ⟨hnone, habsent⟩ | ⟨w, hw, hread⟩
    · change u.data = (Json.lookup? "data" members).getD .null
      rw [hnone, ← Option.some.inj habsent]
      rfl
    · change u.data = (Json.lookup? "data" members).getD .null
      rw [hw]
      exact (Option.some.inj hread).symm

/-! ## One list of names -/

def named (u : RawUpdate) : List String :=
  if u.clear = [] then u.remove else u.clear

variable (kind : EventKind) (u : RawUpdate)

theorem normalize_fst : (normalize kind u).1 = { u with clear := u.named, remove := [] } := by
  unfold normalize named
  by_cases hremove : u.remove = []
  · obtain ⟨id, roleId, channel, data, clear, remove⟩ := u
    subst hremove
    by_cases hclear : clear = [] <;> simp [hclear]
  · by_cases hclear : u.clear = [] <;> simp [hremove, hclear]

theorem normalize_snd :
    (normalize kind u).2 =
      if u.remove ≠ [] ∧ u.clear ≠ [] then [.conflictingClearAndRemove kind.name u.id.text] else [] := by
  unfold normalize
  by_cases hremove : u.remove = []
  · simp [hremove]
  · by_cases hclear : u.clear = [] <;> simp [hremove, hclear]

theorem normalize_of_remove (h : u.remove = []) : normalize kind u = (u, []) := by
  unfold normalize
  rw [if_pos h]

/-! ## Changed frames -/

variable {u}

theorem read?_erase_remove (h : Wire.read? (Json.object members) = some u) :
    Wire.read? ((Json.object members).erase "remove") = some { u with remove := [] } := by
  obtain ⟨hid, hroleId, hchannel, hdata, hclear, -⟩ := read?_eq_some_iff.1 h
  refine read?_eq_some_iff.2 ⟨?_, ?_, ?_, ?_, ?_, Json.memberAs?_erase⟩ <;>
    rw [Json.memberAs?_erase_of_ne (by decide)] <;> assumption

theorem read?_set_clear (h : Wire.read? (Json.object members) = some u) (names : List String) :
    Wire.read? (Json.set "clear" (Wire.write names) (.object members)) = some { u with clear := names } := by
  obtain ⟨hid, hroleId, hchannel, hdata, hclear, hremove⟩ := read?_eq_some_iff.1 h
  refine read?_eq_some_iff.2 ⟨?_, ?_, ?_, ?_, ?_, ?_⟩
  case refine_5 =>
    rw [Json.memberAs?_insertMember hclear]
    exact Wire.Faithful.read?_write names
  all_goals
    rw [Json.memberAs?_insertMember_of_ne (by decide)]
    assumption

end RawUpdate

end ChatClient
