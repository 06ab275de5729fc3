import ChatClient.Proofs.Event.Classify
import ChatClient.Proofs.Json.Members
/-!
# Items of bulks

A bulk that has its items is always read, and each item on its own: it becomes its event, or itself as an unknown
event after the report of its fault (`Event.ofItem`).  Nothing is lost, moved or told of an item because of its
neighbours, and the same holds of the items of bulks inside bulks (`Event.KeepsItems`).
-/
namespace ChatClient.Event

/-! ## One item -/

def ofItem (v : Json) : Event :=
  match (classify v).result with
  | .ok e => e
  | .error _ => .unknown (((v.get? "type").bind Json.string?).getD "") v

/-- What is reported of an item: what reading it reports, and its fault if it has one. -/
def reportsOf (v : Json) : List Diagnostic :=
  (classify v).reports ++
    match (classify v).result with
    | .ok _ => []
    | .error err => [.decodeFailure ((err.kind?.map EventKind.name).getD "frame") err.message]

theorem ofItem_of_ok {v : Json} {e : Event} (h : (classify v).result = .ok e) : ofItem v = e := by
  unfold ofItem
  rw [h]

theorem itemOf_eq (v : Json) : itemOf v (classify v) = ⟨reportsOf v, .ok (ofItem v)⟩ := by
  unfold itemOf reportsOf ofItem
  cases (classify v).result with
  | ok e => exact congrArg (Decoding.mk · _) (List.append_nil _).symm
  | error err => cases err <;> rfl

/-! ## All items -/

def items? (v : Json) : Option (List Json) :=
  if v.get? "type" = some (.string "Bulk") then (v.get? "v").bind Json.array? else none

theorem items?_eq_some_iff {v : Json} {items : List Json} :
    items? v = some items ↔ v.get? "type" = some (.string "Bulk") ∧ v.get? "v" = some (.array items) := by
  unfold items?
  have harray : (v.get? "v").bind Json.array? = some items ↔ v.get? "v" = some (.array items) := by
    cases v.get? "v" with
    | none => simp
    | some w => cases w <;> simp [Json.array?]
  by_cases htype : v.get? "type" = some (.string "Bulk") <;> simp [htype, harray]

theorem classifyItems_eq (items : List Json) :
    classifyItems items = ⟨items.flatMap reportsOf, .ok (items.map ofItem)⟩ := by
  induction items with
  | nil =>
    rw [classifyItems]
    rfl
  | cons v items ih =>
    rw [classifyItems, itemOf_eq, ih]
    change Decoding.mk (reportsOf v ++ (items.flatMap reportsOf ++ [])) _ = _
    rw [List.append_nil, List.flatMap_cons]
    rfl

theorem classifyBulk_eq_map (members : List (String × Json)) :
    classifyBulk members = ((Json.lookup? "v" members).bind Json.array?).map classifyItems := by
  induction members with
  | nil => rfl
  | cons m members ih =>
    obtain ⟨key, v⟩ := m
    rw [Json.lookup?]
    unfold classifyBulk
    by_cases hkey : key = "v"
    · rw [if_pos hkey, if_pos hkey]
      cases v <;> rfl
    · rw [if_neg hkey, if_neg hkey]
      exact ih

theorem classifyBulk_eq {members : List (String × Json)} {items : List Json}
    (h : Json.lookup? "v" members = some (.array items)) :
    classifyBulk members = some (classifyItems items) := by
  rw [classifyBulk_eq_map, h]
  rfl

/-- **A bulk with its items is read**, item by item. -/
theorem classify_of_items? {v : Json} {items : List Json} (h : items? v = some items) :
    classify v = ⟨items.flatMap reportsOf, .ok (.bulk (items.map ofItem))⟩ := by
  obtain ⟨htype, hitems⟩ := items?_eq_some_iff.1 h
  cases v with
  | object members =>
    have hkind : EventKind.ofName? "Bulk" = some .bulk := EventKind.ofName?_name .bulk (by decide)
    rw [classify, typeName?_eq_some_iff.2 htype]
    simp only [hkind, classifyBulk_eq hitems]
    rw [classifyItems_eq, Decoding.map_eq]
    rfl
  | _ => cases htype

/-! ## Places inside bulks -/

/-- The value at a place inside bulks, which is told by the numbers of the items on the way. -/
def itemAt? : List Nat → Json → Option Json
  | [], v => some v
  | i :: path, v => (items? v).bind fun items => items[i]?.bind (itemAt? path)

def withItem (w : Json) : List Nat → Json → Json
  | [], _ => w
  | i :: path, v =>
    match items? v with
    | some items => Json.set "v" (.array (items.modify i (withItem w path))) v
    | none => v

def at? : List Nat → Event → Option Event
  | [], e => some e
  | i :: path, .bulk events => events[i]?.bind (at? path)
  | _ :: _, _ => none

def withEvent (e' : Event) : List Nat → Event → Event
  | [], _ => e'
  | i :: path, .bulk events => .bulk (events.modify i (withEvent e' path))
  | _ :: _, e => e

theorem ofItem_of_items? {v : Json} {items : List Json} (h : items? v = some items) :
    ofItem v = .bulk (items.map ofItem) :=
  ofItem_of_ok (by rw [classify_of_items? h])

theorem reportsOf_of_items? {v : Json} {items : List Json} (h : items? v = some items) :
    reportsOf v = items.flatMap reportsOf := by
  unfold reportsOf
  rw [classify_of_items? h]
  exact List.append_nil _

theorem items?_set {v : Json} {items : List Json} (h : items? v = some items) (items' : List Json) :
    items? (Json.set "v" (.array items') v) = some items' := by
  obtain ⟨htype, hitems⟩ := items?_eq_some_iff.1 h
  refine items?_eq_some_iff.2 ⟨?_, ?_⟩
  · rw [Json.get?_set_of_ne _ (by decide)]
    exact htype
  · cases v with
    | object members => exact Json.lookup?_insertMember
    | _ => cases htype

theorem itemAt?_cons {i : Nat} {path : List Nat} {v w : Json} (h : itemAt? (i :: path) v = some w) :
    ∃ items item, items? v = some items ∧ items[i]? = some item ∧ itemAt? path item = some w := by
  obtain ⟨items, hitems, h⟩ := Option.bind_eq_some_iff.1 h
  obtain ⟨item, hitem, h⟩ := Option.bind_eq_some_iff.1 h
  exact ⟨items, item, hitems, hitem, h⟩

theorem items?_withItem {i : Nat} {path : List Nat} {v : Json} {items : List Json}
    (h : items? v = some items) (w : Json) :
    items? (withItem w (i :: path) v) = some (items.modify i (withItem w path)) := by
  unfold withItem
  rw [h]
  exact items?_set h _

/-- **A place holds the event of what it held.** -/
theorem at?_ofItem {path : List Nat} {v w : Json} (h : itemAt? path v = some w) :
    (ofItem v).at? path = some (ofItem w) := by
  induction path generalizing v with
  | nil =>
    cases h
    rfl
  | cons i path ih =>
    obtain ⟨items, item, hitems, hitem, h⟩ := itemAt?_cons h
    rw [ofItem_of_items? hitems]
    change ((items.map ofItem)[i]?.bind (at? path)) = _
    rw [List.getElem?_map, hitem]
    exact ih h

theorem map_modify_eq {α β : Type} {f : α → β} {g : α → α} {g' : β → β} {xs : List α} {i : Nat} {x : α}
    (hx : xs[i]? = some x) (h : f (g x) = g' (f x)) : (xs.modify i g).map f = (xs.map f).modify i g' := by
  refine List.ext_getElem? fun j => ?_
  rw [List.getElem?_map, List.getElem?_modify, List.getElem?_modify, List.getElem?_map]
  by_cases hj : i = j
  · rw [← hj, hx]
    simp [h]
  · simp [hj]

/-- **Another value at a place** changes the event there and nothing else. -/
theorem ofItem_withItem {path : List Nat} {v w : Json} (h : itemAt? path v = some w) (w' : Json) :
    ofItem (withItem w' path v) = withEvent (ofItem w') path (ofItem v) := by
  induction path generalizing v with
  | nil => rfl
  | cons i path ih =>
    obtain ⟨items, item, hitems, hitem, h⟩ := itemAt?_cons h
    rw [ofItem_of_items? (items?_withItem hitems w'), ofItem_of_items? hitems]
    exact congrArg Event.bulk (map_modify_eq hitem (ih h))

/-- And it changes what is reported of that place, between what is reported before and after it. -/
theorem reportsOf_withItem {path : List Nat} {v w : Json} (h : itemAt? path v = some w) :
    ∃ before after, reportsOf v = before ++ reportsOf w ++ after ∧
      ∀ w', reportsOf (withItem w' path v) = before ++ reportsOf w' ++ after := by
  induction path generalizing v with
  | nil =>
    cases h
    exact ⟨[], [], (List.append_nil _).symm, fun w' => (List.append_nil _).symm⟩
  | cons i path ih =>
    obtain ⟨items, item, hitems, hitem, h⟩ := itemAt?_cons h
    obtain ⟨before, after, hold, hnew⟩ := ih h
    obtain ⟨hi, hitem⟩ := List.getElem?_eq_some_iff.1 hitem
    have hself : items = items.take i ++ item :: items.drop (i + 1) := by
      rw [← hitem, ← List.drop_eq_getElem_cons, List.take_append_drop]
    have hsplit (g : Json → Json) : items.modify i g = items.take i ++ g item :: items.drop (i + 1) := by
      rw [List.modify_eq_take_cons_drop hi, hitem]
    refine ⟨(items.take i).flatMap reportsOf ++ before, after ++ (items.drop (i + 1)).flatMap reportsOf,
      ?_, fun w' => ?_⟩
    · rw [reportsOf_of_items? hitems]
      refine (congrArg (List.flatMap reportsOf) hself).trans ?_
      simp [hold]
    · rw [reportsOf_of_items? (items?_withItem hitems w'), hsplit]
      simp [hnew]

/-! ## Bulks -/

theorem classify_bulk {v : Json} {items : List Json} (h : items? v = some items) :
    classify v = ⟨reportsOf v, .ok (ofItem v)⟩ := by
  rw [reportsOf_of_items? h, ofItem_of_items? h, classify_of_items? h]

theorem classify_withItem {v w' : Json} {items : List Json} {path : List Nat} (h : items? v = some items)
    (hpath : path ≠ []) :
    classify (withItem w' path v) = ⟨reportsOf (withItem w' path v), .ok (ofItem (withItem w' path v))⟩ := by
  cases path with
  | nil => exact absurd rfl hpath
  | cons i path => exact classify_bulk (items?_withItem h w')

/-- **What becomes of a bulk.**  There is an event for each item, in order: the one that the item spells, or else the
item itself under its type.  What is reported of the items comes in order too.  A place deep inside holds the event of
what it held, and another value there changes that event and what is reported of it, and nothing else. -/
structure KeepsItems (v : Json) (items : List Json) (events : List Event) : Prop where
  result : (classify v).result = .ok (.bulk events)
  length : events.length = items.length
  read : ∀ (i : Nat) w e, items[i]? = some w → (classify w).result = .ok e → events[i]? = some e
  kept : ∀ (i : Nat) w err, items[i]? = some w → (classify w).result = .error err →
    events[i]? = some (.unknown (((w.get? "type").bind Json.string?).getD "") w)
  reports : (classify v).reports = items.flatMap reportsOf
  nested : ∀ path w, itemAt? path v = some w → at? path (.bulk events) = some (ofItem w)
  apart : ∀ path w, path ≠ [] → itemAt? path v = some w → ∀ w',
    (classify (withItem w' path v)).result = .ok (withEvent (ofItem w') path (.bulk events))
  reportsApart : ∀ path w, path ≠ [] → itemAt? path v = some w → ∃ before after,
    (classify v).reports = before ++ reportsOf w ++ after ∧
      ∀ w', (classify (withItem w' path v)).reports = before ++ reportsOf w' ++ after

/-- **A bulk with its items is always read, and keeps every item in its place.** -/
theorem bulk_keepsItems {v : Json} {items : List Json} (htype : v.get? "type" = some (.string "Bulk"))
    (hitems : v.get? "v" = some (.array items)) : ∃ events, KeepsItems v items events := by
  have hbulk : items? v = some items := items?_eq_some_iff.2 ⟨htype, hitems⟩
  have hclassify := classify_of_items? hbulk
  have hevent := ofItem_of_items? hbulk
  refine ⟨items.map ofItem, ?_, List.length_map _, fun i w e hw hok => ?_, fun i w err hw herr => ?_, ?_,
    fun path w hw => ?_, fun path w hpath hw w' => ?_, fun path w hpath hw => ?_⟩
  · rw [hclassify]
  · rw [List.getElem?_map, hw, Option.map_some, ofItem_of_ok hok]
  · rw [List.getElem?_map, hw, Option.map_some]
    unfold ofItem
    rw [herr]
  · rw [hclassify]
  · rw [← hevent]
    exact at?_ofItem hw
  · rw [classify_withItem hbulk hpath, ofItem_withItem hw, hevent]
  · obtain ⟨before, after, hold, hnew⟩ := reportsOf_withItem hw
    refine ⟨before, after, ?_, fun w' => ?_⟩
    · rw [classify_bulk hbulk]
      exact hold
    · rw [classify_withItem hbulk hpath]
      exact hnew w'

/-- A bulk with a pong that does not say which, and a bulk of a number and a kind that there is not. -/
def faultyBulk : Json :=
  .object [("type", .string "Bulk"), ("v", .array [.object [("type", .string "Pong")],
    .object [("type", .string "Bulk"), ("v", .array [.int 5, .object [("type", .string "Mystery")]])]])]

theorem bulk_keepsItems_faulty :
    ∃ items events, faultyBulk.get? "v" = some (.array items) ∧ KeepsItems faultyBulk items events ∧
      events.map kind = [.unknown, .bulk] ∧ at? [1, 0] (.bulk events) = some (.unknown "" (.int 5)) ∧
      (classify faultyBulk).reports.map Diagnostic.name = ["DecodeFailure", "DecodeFailure", "UnknownEvent"] := by
  obtain ⟨events, hkeeps⟩ := bulk_keepsItems (v := faultyBulk) rfl rfl
  have hevents : .ok (.bulk events) = (classify faultyBulk).result := hkeeps.result.symm
  refine ⟨_, events, rfl, hkeeps, ?_, hkeeps.nested [1, 0] (.int 5) rfl, by decide +kernel⟩
  cases hevents
  rfl

end ChatClient.Event
