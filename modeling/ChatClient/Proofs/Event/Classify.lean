import ChatClient.Event.Classify
/-!
# What a frame's type decides

The type that a frame gives decides what can come of it (`Event.FollowsType`): without one it is refused, under the
name of a kind it becomes an event of that kind or an error that names it, and under any other name it is kept as it
came.
-/
namespace ChatClient

/-! ## Names -/

namespace EventKind

theorem ofName?_name : ∀ kind ∈ all, ofName? kind.name = some kind := by
  decide +kernel

theorem ofName?_eq_some_iff {name : String} {kind : EventKind} :
    ofName? name = some kind ↔ kind ∈ all ∧ kind.name = name := by
  constructor
  · intro h
    exact ⟨List.mem_of_find?_eq_some h, by simpa using List.find?_some h⟩
  · rintro ⟨hkind, rfl⟩
    exact ofName?_name kind hkind

theorem unknown_not_mem_all : unknown ∉ all := by
  decide

theorem ofName?_unknown : ofName? unknown.name = none := by
  decide +kernel

end EventKind

/-! ## Outcomes of reading -/

namespace Decoding

variable {α β : Type} {kind : EventKind}

theorem map_eq (f : α → β) (d : Decoding α) : f <$> d = ⟨d.reports, d.result.map f⟩ := by
  change Decoding.bind d _ = _
  unfold Decoding.bind
  cases d.result with
  | ok a => exact congrArg (Decoding.mk · _) (List.append_nil _)
  | error err => rfl

/-- What was read fulfils a condition, or the fault is one of the kind. -/
def Settles (kind : EventKind) (P : α → Prop) (d : Decoding α) : Prop :=
  match d.result with
  | .ok a => P a
  | .error err => err.kind? = some kind

theorem settles_pure {P : α → Prop} {a : α} (h : P a) : Settles kind P (pure a) := h

theorem Settles.bind {P : α → Prop} {Q : β → Prop} {d : Decoding α} {f : α → Decoding β} (h : Settles kind P d)
    (hf : ∀ a, P a → Settles kind Q (f a)) : Settles kind Q (d >>= f) := by
  unfold Settles at h ⊢
  change match (Decoding.bind d f).result with | .ok b => Q b | .error err => err.kind? = some kind
  unfold Decoding.bind
  cases hd : d.result with
  | ok a =>
    rw [hd] at h
    exact hf a h
  | error err =>
    rw [hd] at h
    exact h

theorem Settles.map {P : α → Prop} {Q : β → Prop} {d : Decoding α} {f : α → β} (h : Settles kind P d)
    (hf : ∀ a, P a → Q (f a)) : Settles kind Q (f <$> d) :=
  h.bind fun a ha => settles_pure (hf a ha)

theorem settles_ofOption (a? : Option α) {err : DecodeError} (h : err.kind? = some kind) :
    Settles kind (fun _ => True) (ofOption a? err) := by
  cases a? with
  | some a => exact trivial
  | none => exact h

end Decoding

/-! ## Updates -/

namespace Update

open Decoding (Settles settles_pure settles_ofOption)

variable {π φ : Type} (kind : EventKind)

theorem settles_content [Wire π] [Clearable φ] (e : UpdateEnvelope) :
    Settles kind (fun _ => True) (content kind e : Decoding (π × List (ClearName φ))) :=
  (settles_ofOption _ rfl).bind fun _ _ => Settles.bind (P := fun _ => True) trivial fun _ _ => settles_pure trivial

theorem settles_plainId (id : EntityId) : Settles kind (fun _ => True) (plainId kind id) :=
  settles_ofOption _ rfl

theorem settles_memberId (id : EntityId) : Settles kind (fun _ => True) (memberId kind id) :=
  settles_ofOption _ rfl

theorem settles_ofPlain [Wire π] [Clearable φ] (u : RawUpdate) :
    Settles kind (fun _ => True) (ofPlain kind u : Decoding (Update String π φ)) :=
  (settles_content kind _).bind fun _ _ => (settles_plainId kind _).bind fun _ _ => settles_pure trivial

theorem settles_ofMember (u : RawUpdate) : Settles kind (fun _ => True) (ofMember kind u) :=
  (settles_content kind _).bind fun _ _ => (settles_memberId kind _).bind fun _ _ => settles_pure trivial

theorem settles_ofRole (u : RawUpdate) : Settles kind (fun _ => True) (ofRole kind u) :=
  (settles_ofOption _ rfl).bind fun _ _ => (settles_content kind _).bind fun _ _ =>
    (settles_plainId kind _).bind fun _ _ => settles_pure trivial

theorem settles_ofMessage (u : RawUpdate) : Settles kind (fun _ => True) (ofMessage kind u) :=
  (settles_ofOption _ rfl).bind fun _ _ => (settles_content kind _).bind fun _ _ =>
    (settles_plainId kind _).bind fun _ _ => settles_pure trivial

end Update

/-! ## Frames -/

namespace Event

open Decoding (Settles settles_pure settles_ofOption)

variable (kind : EventKind) (v : Json)

theorem settles_payload {α : Type} [Wire α] : Settles kind (fun _ => True) (payload kind v : Decoding α) :=
  settles_ofOption _ rfl

theorem settles_rawUpdate : Settles kind (fun _ => True) (rawUpdate kind v) :=
  (settles_payload kind v).bind fun _ _ => Settles.bind (P := fun _ => True) trivial fun _ _ => settles_pure trivial

/-- **What is read under a kind is of that kind**, and a fault names it. -/
theorem settles_ofKind : Settles kind (fun e => e.kind = kind) (ofKind kind v) := by
  cases kind with
  | authenticated => exact rfl
  | bulk | unknown => exact rfl
  | messageUpdate =>
    exact (settles_rawUpdate _ v).bind fun u _ => (Update.settles_ofMessage _ u).bind fun _ _ => settles_pure rfl
  | serverMemberUpdate =>
    exact (settles_rawUpdate _ v).bind fun u _ => (Update.settles_ofMember _ u).bind fun _ _ => settles_pure rfl
  | serverRoleUpdate =>
    exact (settles_rawUpdate _ v).bind fun u _ => (Update.settles_ofRole _ u).bind fun _ _ => settles_pure rfl
  | channelUpdate | serverUpdate | userUpdate | webhookUpdate =>
    exact (settles_rawUpdate _ v).bind fun u _ => (Update.settles_ofPlain _ u).bind fun _ _ => settles_pure rfl
  | _ => exact (settles_payload _ v).map fun _ _ => rfl

theorem settles_itemOf (d : Decoding Event) : Settles kind (fun _ => True) (itemOf v d) := by
  unfold itemOf
  cases d.result with
  | ok e => exact trivial
  | error err => exact trivial

theorem settles_classifyItems (items : List Json) : Settles kind (fun _ => True) (classifyItems items) := by
  induction items with
  | nil =>
    rw [classifyItems]
    exact settles_pure trivial
  | cons v items ih =>
    rw [classifyItems]
    exact (settles_itemOf kind v _).bind fun _ _ => ih.bind fun _ _ => settles_pure trivial

theorem settles_classifyBulk {members : List (String × Json)} {d : Decoding (List Event)}
    (h : classifyBulk members = some d) : Settles kind (fun _ => True) d := by
  induction members with
  | nil =>
    rw [classifyBulk] at h
    cases h
  | cons m members ih =>
    unfold classifyBulk at h
    split at h
    · split at h
      · rename_i items _
        cases h
        exact settles_classifyItems kind items
      · cases h
    · exact ih h

/-! ## The type of a frame -/

variable {kind v}

theorem typeName?_eq_some_iff {name : String} : typeName? v = some name ↔ v.get? "type" = some (.string name) := by
  unfold typeName?
  cases v.get? "type" with
  | none => simp
  | some t => cases t <;> simp [Json.string?]

theorem classify_untyped (h : typeName? v = none) : classify v = .fail .missingType := by
  cases v with
  | object members => rw [classify, h]
  | _ => rw [classify]; simp

theorem classify_other {name : String} (h : typeName? v = some name) (hname : EventKind.ofName? name = none) :
    classify v = ⟨[.unknownEvent name], .ok (.unknown name v)⟩ := by
  cases v with
  | object members =>
    rw [classify, h]
    simp only [hname]
  | _ => simp [typeName?, Json.get?] at h

/-- **A frame with the name of a kind becomes an event of that kind** or a fault that names it. -/
theorem settles_classify (h : typeName? v = some kind.name) (hkind : EventKind.ofName? kind.name = some kind) :
    Settles kind (fun e => e.kind = kind) (classify v) := by
  cases v with
  | object members =>
    rw [classify, h]
    simp only [hkind]
    split
    · rename_i hnone
      cases hnone
    · rename_i hbulk
      cases hbulk
      split
      · rename_i d hd
        exact (settles_classifyBulk .bulk hd).map fun _ _ => rfl
      · exact rfl
    · rename_i k _ hk
      cases hk
      exact settles_ofKind kind _
  | _ => simp [typeName?, Json.get?] at h

theorem typeName_of_ne {e : Event} (h : e.kind ≠ .unknown) : e.typeName = e.kind.name := by
  cases e with
  | unknown typeName raw => exact absurd rfl h
  | _ => rfl

/-- **The type of a value decides what it comes to.**

Only a value without a type is refused as such.  Under the name of a kind it becomes an event of that kind and name,
or a fault of that kind; under any other name it is kept as it came, after one report of the name.  So the event has
the kind of the name, or the unknown one where the name is none of a kind. -/
structure FollowsType (v : Json) : Prop where
  untyped : (classify v).result = .error .missingType ↔ ∀ name, v.get? "type" ≠ some (.string name)
  known : ∀ kind ∈ EventKind.all, v.get? "type" = some (.string kind.name) →
    (∃ e, (classify v).result = .ok e ∧ e.kind = kind ∧ e.typeName = kind.name) ∨
      ∃ err, (classify v).result = .error err ∧ err.kind? = some kind
  other : ∀ name, v.get? "type" = some (.string name) → (∀ kind ∈ EventKind.all, kind.name ≠ name) →
    classify v = ⟨[.unknownEvent name], .ok (.unknown name v)⟩
  agreed : ∀ name e, v.get? "type" = some (.string name) → (classify v).result = .ok e →
    e.kind = (EventKind.ofName? name).getD .unknown ∧ e.typeName = name

theorem classify_known (hkind : kind ∈ EventKind.all) (h : v.get? "type" = some (.string kind.name)) :
    (∃ e, (classify v).result = .ok e ∧ e.kind = kind ∧ e.typeName = kind.name) ∨
      ∃ err, (classify v).result = .error err ∧ err.kind? = some kind := by
  have hsettles := settles_classify (typeName?_eq_some_iff.2 h) (EventKind.ofName?_name kind hkind)
  unfold Settles at hsettles
  cases hresult : (classify v).result with
  | ok e =>
    rw [hresult] at hsettles
    have hname := typeName_of_ne (e := e) fun hunknown => by
      rw [← hsettles, hunknown] at hkind
      exact EventKind.unknown_not_mem_all hkind
    exact .inl ⟨e, rfl, hsettles, hname.trans (congrArg EventKind.name hsettles)⟩
  | error err =>
    rw [hresult] at hsettles
    exact .inr ⟨err, rfl, hsettles⟩

theorem ofName?_eq_none {name : String} (h : ∀ kind ∈ EventKind.all, kind.name ≠ name) :
    EventKind.ofName? name = none := by
  rw [Option.eq_none_iff_forall_ne_some]
  intro kind hkind
  obtain ⟨hmem, hname⟩ := EventKind.ofName?_eq_some_iff.1 hkind
  exact h kind hmem hname

theorem followsType (v : Json) : FollowsType v where
  untyped := by
    constructor
    · intro hmissing name htype
      cases hname : EventKind.ofName? name with
      | none =>
        rw [classify_other (typeName?_eq_some_iff.2 htype) hname] at hmissing
        cases hmissing
      | some kind =>
        obtain ⟨hmem, rfl⟩ := EventKind.ofName?_eq_some_iff.1 hname
        rcases classify_known hmem htype with ⟨e, hok, -⟩ | ⟨err, herr, hkind⟩
        · rw [hok] at hmissing
          cases hmissing
        · rw [herr] at hmissing
          cases hmissing
          cases hkind
    · intro huntyped
      have hnone : typeName? v = none :=
        Option.eq_none_iff_forall_ne_some.2 fun name hname => huntyped name (typeName?_eq_some_iff.1 hname)
      rw [classify_untyped hnone]
      rfl
  known kind hkind := classify_known hkind
  other name htype hname := classify_other (typeName?_eq_some_iff.2 htype) (ofName?_eq_none hname)
  agreed name e htype hok := by
    cases hname : EventKind.ofName? name with
    | none =>
      rw [classify_other (typeName?_eq_some_iff.2 htype) hname] at hok
      cases hok
      exact ⟨rfl, rfl⟩
    | some kind =>
      obtain ⟨hmem, rfl⟩ := EventKind.ofName?_eq_some_iff.1 hname
      rcases classify_known hmem htype with ⟨e', hok', hkind⟩ | ⟨err, herr, -⟩
      · rw [hok'] at hok
        cases hok
        exact hkind
      · rw [herr] at hok
        cases hok

/-- **Reading leniently** tells the same: what was read, or one more report in its place. -/
structure ReadsLeniently (d : Decoding Event) : Prop where
  read : ∀ e, d.leniently.2 = some e ↔ d.result = .ok e
  silent : ∀ e, d.result = .ok e → d.leniently.1 = d.reports
  failed : ∀ err, d.result = .error err →
    d.leniently.1 = d.reports ++ [.decodeFailure ((err.kind?.map EventKind.name).getD "frame") err.message]

theorem readsLeniently (d : Decoding Event) : ReadsLeniently d := by
  obtain ⟨reports, result⟩ := d
  cases result with
  | ok e =>
    refine ⟨fun e' => ?_, fun _ _ => rfl, fun _ h => (nomatch h)⟩
    simp [Decoding.leniently]
  | error err =>
    refine ⟨fun e' => ?_, fun _ h => (nomatch h), fun err' h => ?_⟩
    · simp [Decoding.leniently]
    · cases h
      cases err <;> rfl

/-- **Frames are decoded by their type**, values and bytes alike.  The names of types are those of the kinds, and the
unknown kind has none. -/
theorem decodes_by_type :
    (∀ v : Json, FollowsType v) ∧
      (∀ name kind, EventKind.ofName? name = some kind ↔ kind ∈ EventKind.all ∧ kind.name = name) ∧
      EventKind.ofName? EventKind.unknown.name = none ∧ ∀ frame : List UInt8, ReadsLeniently (ofBytes frame) :=
  ⟨followsType, fun _ _ => EventKind.ofName?_eq_some_iff, EventKind.ofName?_unknown,
    fun frame => readsLeniently (ofBytes frame)⟩

end Event
end ChatClient
