import ChatClient.Proofs.Event.Update
/-!
# What update events clear

A frame may name what it clears in two lists.  The older one, `remove`, stands for `clear` where that is empty and
counts for nothing beside it (`Updatable.FoldsOlder`).  Of the names that count, the event has those that its entity
knows, each of the others is reported, and the entity is updated as if it had them all (`Updatable.Clears`).
-/
namespace ChatClient

/-! ## Two lists -/

namespace RawUpdate

/-- **Settling the lists** empties the second and leaves everything but the lists alone; settled lists stay as they
are, and nothing is reported of them. -/
structure Settled (kind : EventKind) (u : RawUpdate) : Prop where
  remove : (normalize kind u).1.remove = []
  clear : (normalize kind u).1.clear = u.named
  again : normalize kind (normalize kind u).1 = ((normalize kind u).1, [])
  id : (normalize kind u).1.id = u.id
  roleId : (normalize kind u).1.roleId = u.roleId
  channel : (normalize kind u).1.channel = u.channel
  data : (normalize kind u).1.data = u.data

theorem settled (kind : EventKind) (u : RawUpdate) : Settled kind u := by
  have hfst := normalize_fst kind u
  refine ⟨?_, ?_, normalize_of_remove kind _ ?_, ?_, ?_, ?_, ?_⟩ <;> rw [hfst]

end RawUpdate

namespace Updatable

open Event (classify)

variable (k : Updatable) {v : Json} {u : RawUpdate}

theorem reports_project :
    ∀ r ∈ (k.project u).reports, ∃ s, r = .unknownClearField (Clearable.entity k.form.Field) s := by
  unfold project
  cases k.missing? u with
  | some err => exact nofun
  | none =>
    cases k.patch? u with
    | none => exact nofun
    | some data =>
      intro r hr
      obtain ⟨f, -, rfl⟩ := List.mem_map.1 hr
      exact ⟨f.name, rfl⟩

theorem classify_of_settled (htype : v.get? "type" = some (.string k.kind.name)) (hread : Wire.read? v = some u)
    (h : u.remove = []) : classify v = ⟨(k.project u).reports, (k.project u).result.map k.event⟩ := by
  rw [k.classify_of_read? htype hread, RawUpdate.normalize_of_remove k.kind u h]
  rfl

theorem classify_erase_remove (htype : v.get? "type" = some (.string k.kind.name)) (hread : Wire.read? v = some u) :
    classify (v.erase "remove") =
      ⟨(k.project { u with remove := [] }).reports, (k.project { u with remove := [] }).result.map k.event⟩ := by
  cases v with
  | object members =>
    refine k.classify_of_settled ?_ (RawUpdate.read?_erase_remove hread) rfl
    rw [Json.get?_erase_of_ne _ (by decide)]
    exact htype
  | _ => cases htype

theorem classify_set_clear (htype : v.get? "type" = some (.string k.kind.name)) (hread : Wire.read? v = some u)
    (names : List String) :
    classify ((Json.set "clear" (Wire.write names) v).erase "remove") =
      ⟨(k.project { u with clear := names, remove := [] }).reports,
        (k.project { u with clear := names, remove := [] }).result.map k.event⟩ := by
  cases v with
  | object members =>
    have hset := RawUpdate.read?_set_clear hread names
    refine k.classify_erase_remove ?_ hset
    rw [Json.get?_set_of_ne _ (by decide)]
    exact htype
  | _ => cases htype

/-- **The older list** stands for the newer one where that is empty.  Beside it, it is dropped, after one report of
the conflict. -/
structure FoldsOlder (v : Json) (u : RawUpdate) : Prop where
  alone : u.remove ≠ [] → u.clear = [] →
    classify v = classify ((Json.set "clear" (Wire.write u.remove) v).erase "remove")
  result : u.remove ≠ [] → u.clear ≠ [] → (classify v).result = (classify (v.erase "remove")).result
  reports : u.remove ≠ [] → u.clear ≠ [] →
    (classify v).reports = .conflictingClearAndRemove k.kind.name u.id.text :: (classify (v.erase "remove")).reports
  once : ∀ event id, .conflictingClearAndRemove event id ∉ (classify (v.erase "remove")).reports

/-- **Two lists are one**: frames with an older list are read as frames without. -/
theorem folds_older (htype : v.get? "type" = some (.string k.kind.name)) (hread : Wire.read? v = some u) :
    k.FoldsOlder v u ∧ ∀ kind u', RawUpdate.Settled kind u' := by
  have hclassify := k.classify_of_read? htype hread
  have hwithout := k.classify_erase_remove htype hread
  have hconflict (hremove : u.remove ≠ []) (hclear : u.clear ≠ []) :
      RawUpdate.normalize k.kind u = ({ u with remove := [] }, [.conflictingClearAndRemove k.kind.name u.id.text]) := by
    unfold RawUpdate.normalize
    rw [if_neg hremove, if_neg hclear]
  refine ⟨⟨fun hremove hclear => ?_, fun hremove hclear => ?_, fun hremove hclear => ?_, fun event id hmem => ?_⟩,
    RawUpdate.settled⟩
  · have hmoved : RawUpdate.normalize k.kind u = ({ u with clear := u.remove, remove := [] }, []) := by
      unfold RawUpdate.normalize
      rw [if_neg hremove, if_pos hclear]
    rw [hclassify, k.classify_set_clear htype hread, hmoved]
    rfl
  · rw [hclassify, hwithout, hconflict hremove hclear]
  · rw [hclassify, hwithout, hconflict hremove hclear]
    rfl
  · rw [hwithout] at hmem
    obtain ⟨s, hs⟩ := k.reports_project _ hmem
    cases hs

def twiceCleared : Json :=
  .object [("type", .string "ChannelUpdate"), ("id", .string "c"),
    ("clear", .array [.string "Sparkles", .string "Icon"]),
    ("remove", .array [.string "Description"])]

theorem folds_older_twiceCleared :
    ∃ u : RawUpdate, Wire.read? twiceCleared = some u ∧ u.remove = ["Description"] ∧
      channel.FoldsOlder twiceCleared u ∧
      (classify twiceCleared).reports =
        .conflictingClearAndRemove "ChannelUpdate" "c" :: (classify (twiceCleared.erase "remove")).reports := by
  have hread : Wire.read? twiceCleared =
      some (⟨.plain "c", none, none, .null, ["Sparkles", "Icon"], ["Description"]⟩ : RawUpdate) := by
    rfl
  have hfolds := (folds_older channel (v := twiceCleared) rfl hread).1
  exact ⟨_, hread, rfl, hfolds, hfolds.reports (by decide) (by decide)⟩

end Updatable

/-! ## Names -/

namespace ClearName

variable {φ : Type} [Clearable φ]

theorem name_ofName (s : String) : (ofName s : ClearName φ).name = s := by
  unfold ofName
  cases hfind : (Clearable.fields : List φ).find? fun f => Clearable.name f == s with
  | some f =>
    have hname := List.find?_some hfind
    exact eq_of_beq hname
  | none => rfl

theorem isUnknown_ofName (s : String) :
    (ofName s : ClearName φ).isUnknown = true ↔ s ∉ (Clearable.fields : List φ).map Clearable.name := by
  unfold ofName
  cases hfind : (Clearable.fields : List φ).find? fun f => Clearable.name f == s with
  | some f =>
    have hname := List.find?_some hfind
    have hmem : s ∈ (Clearable.fields : List φ).map Clearable.name :=
      List.mem_map.2 ⟨f, List.mem_of_find?_eq_some hfind, eq_of_beq hname⟩
    simp [isUnknown, hmem]
  | none =>
    have hnone := List.find?_eq_none.1 hfind
    simpa [isUnknown] using hnone

end ClearName

namespace Updatable

open Event (classify)

variable (k : Updatable) {v : Json} {u : RawUpdate}

def knownNames : List String :=
  (Clearable.fields : List k.form.Field).map Clearable.name

/-- **Names and fields.**  Every text is a name, and stays what it was; it is an unknown one exactly where no field
has it, and each field is found under its name. -/
structure NamesFields : Prop where
  name_ofName : ∀ s, (ClearName.ofName s : ClearName k.form.Field).name = s
  isUnknown_iff : ∀ s, (ClearName.ofName s : ClearName k.form.Field).isUnknown = true ↔ s ∉ k.knownNames
  ofName_name : ∀ f : k.form.Field, ClearName.ofName (Clearable.name f) = .known f

theorem namesFields : k.NamesFields where
  name_ofName := ClearName.name_ofName
  isUnknown_iff := ClearName.isUnknown_ofName
  ofName_name f := by
    cases k <;> cases f <;> decide +kernel

theorem isUnknown_ofName_eq (s : String) :
    (ClearName.ofName s : ClearName k.form.Field).isUnknown = !decide (s ∈ k.knownNames) := by
  rw [Bool.eq_iff_iff, ClearName.isUnknown_ofName]
  simp [knownNames]

theorem update_congr (e : k.form.Entity) (d : k.form.Patch) {clear clear' : List (ClearName k.form.Field)}
    (h : ∀ f, ClearName.known f ∈ clear ↔ ClearName.known f ∈ clear') :
    k.form.update e d clear = k.form.update e d clear' := by
  have hsame : {f | ClearName.known f ∈ clear} = {f | ClearName.known f ∈ clear'} := Set.ext h
  cases k with
  | user => exact User.byField.known e d hsame
  | server => exact Server.byField.known e d hsame
  | role => exact Role.byField.known e d hsame
  | channel => exact Channel.byField.known e d hsame
  | member => exact Member.byField.known e d hsame
  | webhook => exact Webhook.byField.known e d hsame
  | message => exact Message.byField.known e d hsame

/-- **What an event clears.**  It has the names that its entity knows, as they stand in the frame; each of the others
is reported in its place; and entities are updated as by all of them. -/
structure Clears (v : Json) (u : RawUpdate) (c : k.Content) : Prop where
  settled : (RawUpdate.normalize k.kind u).1.clear = u.named
  known : ∀ f ∈ c.clear, f.isUnknown = false
  names : c.clear.map ClearName.name = u.named.filter (· ∈ k.knownNames)
  reports : (classify v).reports =
    (if u.remove ≠ [] ∧ u.clear ≠ [] then [.conflictingClearAndRemove k.kind.name u.id.text] else []) ++
      (u.named.filter (· ∉ k.knownNames)).map (.unknownClearField (Clearable.entity k.form.Field))
  update : ∀ e, k.form.update e c.data c.clear = k.form.update e c.data (u.named.map ClearName.ofName)

theorem map_name_clearNames (names : List String) :
    (((names.map ClearName.ofName).filter (!·.isUnknown) : List (ClearName k.form.Field)).map ClearName.name) =
      names.filter (· ∈ k.knownNames) := by
  have hname : (ClearName.name ∘ ClearName.ofName (φ := k.form.Field)) = id := funext ClearName.name_ofName
  rw [List.filter_map, List.map_map, hname, List.map_id]
  refine List.filter_congr fun s _ => ?_
  simp [isUnknown_ofName_eq]

theorem unknownNames_clearNames (names : List String) :
    Update.unknownNames (names.map ClearName.ofName : List (ClearName k.form.Field)) =
      (names.filter (· ∉ k.knownNames)).map (.unknownClearField (Clearable.entity k.form.Field)) := by
  unfold Update.unknownNames
  rw [List.filter_map, List.map_map]
  have hfilter : names.filter ((·.isUnknown) ∘ ClearName.ofName (φ := k.form.Field)) =
      names.filter (· ∉ k.knownNames) := by
    refine List.filter_congr fun s _ => ?_
    simp [isUnknown_ofName_eq]
  rw [hfilter]
  refine List.map_congr_left fun s _ => ?_
  exact congrArg (Diagnostic.unknownClearField _) (ClearName.name_ofName s)

/-- **Events clear what their entity knows**, whatever else their frames name; and names stand for fields one to one. -/
theorem clears_known (htype : v.get? "type" = some (.string k.kind.name)) {e : Event}
    (hok : (classify v).result = .ok e) :
    (∃ u c, Wire.read? v = some u ∧ e = k.event c ∧ k.Clears v u c) ∧ ∀ k' : Updatable, k'.NamesFields := by
  refine ⟨?_, namesFields⟩
  obtain ⟨u, hread⟩ : ∃ u : RawUpdate, Wire.read? v = some u := by
    cases hread : (Wire.read? v : Option RawUpdate) with
    | some u => exact ⟨u, rfl⟩
    | none =>
      rw [k.classify_eq htype] at hok
      unfold Event.rawUpdate Event.payload at hok
      rw [hread] at hok
      cases hok
  have hclassify := k.classify_of_read? htype hread
  rcases k.project_cases (RawUpdate.normalize k.kind u).1 with ⟨err, -, hproject⟩ | ⟨-, c, -, hclear, hproject⟩
  · rw [hclassify, hproject] at hok
    cases hok
  · rw [hclassify, hproject] at hok
    have hsettled : k.clearNames (RawUpdate.normalize k.kind u).1 = u.named.map ClearName.ofName := by
      rw [RawUpdate.normalize_fst]
      rfl
    rw [hsettled] at hclear hproject
    refine ⟨u, c, hread, (Except.ok.inj hok).symm,
      ⟨(RawUpdate.settled k.kind u).clear, fun f hf => ?_, ?_, ?_, fun e => ?_⟩⟩
    · rw [hclear] at hf
      simpa using (List.mem_filter.1 hf).2
    · rw [hclear, k.map_name_clearNames]
    · rw [hclassify, hproject, RawUpdate.normalize_snd, k.unknownNames_clearNames]
    · refine k.update_congr e c.data fun f => ?_
      rw [hclear, List.mem_filter]
      exact and_iff_left rfl

theorem clears_known_twiceCleared :
    ∃ (u : RawUpdate) (c : channel.Content), Wire.read? twiceCleared = some u ∧
      (classify twiceCleared).result = .ok (channel.event c) ∧ channel.Clears twiceCleared u c ∧
      c.clear.map ClearName.name = ["Icon"] ∧
      (classify twiceCleared).reports =
        [.conflictingClearAndRemove "ChannelUpdate" "c", .unknownClearField "channel" "Sparkles"] := by
  have hok : (classify twiceCleared).result =
      .ok (channel.event ⟨"c", (default : ChannelPatch), [.known .icon]⟩) := by rfl
  obtain ⟨⟨u, c, hread, hevent, hclears⟩, -⟩ := clears_known channel (v := twiceCleared) rfl hok
  obtain rfl : c = ⟨"c", (default : ChannelPatch), [.known .icon]⟩ := by
    cases hevent
    rfl
  exact ⟨u, _, hread, hok, hclears, rfl, rfl⟩

end Updatable

end ChatClient
