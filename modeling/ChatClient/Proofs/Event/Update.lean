import ChatClient.Proofs.Entity.Fields
import ChatClient.Proofs.Event.Classify
import ChatClient.Proofs.Event.RawUpdate
/-!
# Update events by entity

Each of the seven entities has update events of its own kind, and all of them are made of a raw update in the same
three steps (`Updatable.project`): what the entity's name needs besides the identity must be there, the new values
must be those of the entity, and the identity must be of its sort.  The first step that fails is the fault of the
frame (`Updatable.fault?`), and otherwise the event says what the frame says (`Updatable.Conveys`).
-/
namespace ChatClient

namespace Updatable

/-! ## Entities and their events -/

def kind : Updatable → EventKind
  | user => .userUpdate
  | server => .serverUpdate
  | role => .serverRoleUpdate
  | channel => .channelUpdate
  | member => .serverMemberUpdate
  | webhook => .webhookUpdate
  | message => .messageUpdate

def Target : Updatable → Type
  | role => RoleTarget
  | member => MemberId
  | message => MessageTarget
  | user | server | channel | webhook => String

abbrev Content (k : Updatable) : Type :=
  Update k.Target k.form.Patch k.form.Field

def event : (k : Updatable) → k.Content → Event
  | user => Event.userUpdate
  | server => Event.serverUpdate
  | role => Event.serverRoleUpdate
  | channel => Event.channelUpdate
  | member => Event.serverMemberUpdate
  | webhook => Event.webhookUpdate
  | message => Event.messageUpdate

/-- A raw update names a target: a member by the pair of texts, all others by a text, which a role and a message have
of the server and of themselves beside a second one. -/
def Names : (k : Updatable) → RawUpdate → k.Target → Prop
  | user, u, id | server, u, id | channel, u, id | webhook, u, id => u.id = .plain id
  | member, u, id => u.id = .member id
  | role, u, t => u.id = .plain t.server ∧ u.roleId = some t.role
  | message, u, t => u.id = .plain t.id ∧ u.channel = some t.channel

/-! ## Faults -/

variable (k : Updatable) (u : RawUpdate)

/-- A role's update needs the role, a message's the channel. -/
def missing? : Option DecodeError :=
  match k with
  | role => if u.roleId = none then some (.missingField .serverRoleUpdate "role_id") else none
  | message => if u.channel = none then some (.missingField .messageUpdate "channel") else none
  | user | server | channel | member | webhook => none

def patch? : Option k.form.Patch :=
  Wire.read? (if u.data = .null then Json.object [] else u.data)

def unreadable? : Option DecodeError :=
  if (k.patch? u).isNone then some (.payload k.kind) else none

/-- A member is named by a pair of texts, and nothing else is. -/
def misnamed? : Option DecodeError :=
  if k = member ↔ u.id.plain? = none then none else some (.invalidId k.kind u.id.text)

/-- **The fault of an update event**, the first of three that there may be. -/
def fault? : Option DecodeError :=
  (k.missing? u).or ((k.unreadable? u).or (k.misnamed? u))

theorem kind_of_fault {err : DecodeError} (h : k.fault? u = some err) : err.kind? = some k.kind := by
  rcases Option.or_eq_some_iff.1 h with hmissing | ⟨-, h⟩
  · cases k with
    | role | message =>
      obtain ⟨-, herr⟩ := Option.ite_none_right_eq_some.1 hmissing
      cases herr
      rfl
    | _ => cases hmissing
  · rcases Option.or_eq_some_iff.1 h with hunreadable | ⟨-, hmisnamed⟩
    · obtain ⟨-, herr⟩ := Option.ite_none_right_eq_some.1 hunreadable
      cases herr
      rfl
    · obtain ⟨-, herr⟩ := Option.ite_none_left_eq_some.1 hmisnamed
      cases herr
      rfl

/-! ## From raw updates to events -/

def target? : (k : Updatable) → RawUpdate → Option k.Target
  | user, u | server, u | channel, u | webhook, u => u.id.plain?
  | member, u => u.id.member?
  | role, u => u.id.plain?.bind fun server => u.roleId.map fun role => ⟨server, role⟩
  | message, u => u.id.plain?.bind fun id => u.channel.map fun channel => ⟨id, channel⟩

def clearNames : List (ClearName k.form.Field) :=
  u.clear.map ClearName.ofName

/-- **What becomes of a raw update**: it fails where something is missing or unreadable; then the names that the
entity does not know are reported, also where the identity is of the wrong sort. -/
def project : Decoding k.Content :=
  match k.missing? u, k.patch? u with
  | some err, _ => .fail err
  | none, none => .fail (.payload k.kind)
  | none, some data =>
    ⟨Update.unknownNames (k.clearNames u), match k.target? u with
      | some id => .ok ⟨id, data, (k.clearNames u).filter (!·.isUnknown)⟩
      | none => .error (.invalidId k.kind u.id.text)⟩

theorem data?_eq : (u.envelope.data? : Option k.form.Patch) = k.patch? u := by
  unfold UpdateEnvelope.data? patch? RawUpdate.envelope
  cases u.data <;> rfl

/-- Reading the content, and what is read after it. -/
theorem content_bind {α : Type} (f : k.form.Patch × List (ClearName k.form.Field) → Decoding α) :
    (Update.content k.kind u.envelope >>= f) =
      match k.patch? u with
      | none => .fail (.payload k.kind)
      | some data =>
        let d := f (data, (k.clearNames u).filter (!·.isUnknown))
        ⟨Update.unknownNames (k.clearNames u) ++ d.reports, d.result⟩ := by
  unfold Update.content
  rw [data?_eq]
  cases k.patch? u with
  | none => rfl
  | some data =>
    change Decoding.mk ([] ++ (Update.unknownNames (k.clearNames u) ++ []) ++ _) _ = _
    rw [List.nil_append, List.append_nil]
    rfl

/-- The second and the third step in the order in which they are taken. -/
theorem project_of_complete (h : k.missing? u = none) :
    k.project u = (do
      let c ← Update.content k.kind u.envelope
      return ⟨← Decoding.ofOption (k.target? u) (.invalidId k.kind u.id.text), c.1, c.2⟩) := by
  rw [content_bind]
  unfold project
  rw [h]
  cases k.patch? u with
  | none => rfl
  | some data => cases k.target? u <;> exact congrArg (Decoding.mk · _) (List.append_nil _).symm

theorem ofMember_eq_project : Update.ofMember .serverMemberUpdate u = member.project u :=
  (project_of_complete member u rfl).symm

theorem ofRole_eq_project : Update.ofRole .serverRoleUpdate u = role.project u := by
  obtain ⟨id, roleId, channel, data, clear, remove⟩ := u
  cases roleId with
  | none => rfl
  | some r =>
    rw [project_of_complete role _ rfl]
    cases id <;> rfl

theorem ofMessage_eq_project : Update.ofMessage .messageUpdate u = message.project u := by
  obtain ⟨id, roleId, channel, data, clear, remove⟩ := u
  cases channel with
  | none => rfl
  | some c =>
    rw [project_of_complete message _ rfl]
    cases id <;> rfl

/-- **What is read under an update kind** is what becomes of the raw update. -/
theorem ofKind_eq (v : Json) :
    Event.ofKind k.kind v = (do return k.event (← k.project (← Event.rawUpdate k.kind v))) := by
  cases k with
  | user => exact bind_congr fun u => congrArg (user.event <$> ·) (project_of_complete user u rfl).symm
  | server => exact bind_congr fun u => congrArg (server.event <$> ·) (project_of_complete server u rfl).symm
  | channel => exact bind_congr fun u => congrArg (channel.event <$> ·) (project_of_complete channel u rfl).symm
  | webhook => exact bind_congr fun u => congrArg (webhook.event <$> ·) (project_of_complete webhook u rfl).symm
  | member => exact bind_congr fun u => congrArg (member.event <$> ·) (ofMember_eq_project u)
  | role => exact bind_congr fun u => congrArg (role.event <$> ·) (ofRole_eq_project u)
  | message => exact bind_congr fun u => congrArg (message.event <$> ·) (ofMessage_eq_project u)

/-! ## Outcomes -/

/-- What an event says of its target and of the new values is what the raw update says. -/
structure Conveys (c : k.Content) : Prop where
  target : k.Names u c.id
  data : k.patch? u = some c.data

/-- An identity that comes with all that the entity's name needs names a target, unless it is of the wrong sort. -/
theorem target?_cases (h : k.missing? u = none) :
    (∃ t, k.target? u = some t ∧ k.Names u t ∧ k.misnamed? u = none) ∨
      k.target? u = none ∧ k.misnamed? u = some (.invalidId k.kind u.id.text) := by
  obtain ⟨id, roleId, channel, data, clear, remove⟩ := u
  cases k with
  | role =>
    cases roleId with
    | none => cases h
    | some r =>
      cases id with
      | plain server => exact .inl ⟨⟨server, r⟩, rfl, ⟨rfl, rfl⟩, rfl⟩
      | member id => exact .inr ⟨rfl, rfl⟩
  | message =>
    cases channel with
    | none => cases h
    | some c =>
      cases id with
      | plain id => exact .inl ⟨⟨id, c⟩, rfl, ⟨rfl, rfl⟩, rfl⟩
      | member id => exact .inr ⟨rfl, rfl⟩
  | member =>
    cases id with
    | plain id => exact .inr ⟨rfl, rfl⟩
    | member id => exact .inl ⟨id, rfl, rfl, rfl⟩
  | _ =>
    cases id with
    | plain id => exact .inl ⟨id, rfl, rfl, rfl⟩
    | member id => exact .inr ⟨rfl, rfl⟩

/-- **A raw update has a fault or becomes an event**, with the names that the entity knows and a report of each other
one. -/
theorem project_cases :
    (∃ err, k.fault? u = some err ∧ (k.project u).result = .error err) ∨
      k.fault? u = none ∧ ∃ c, k.Conveys u c ∧ c.clear = (k.clearNames u).filter (!·.isUnknown) ∧
        k.project u = ⟨Update.unknownNames (k.clearNames u), .ok c⟩ := by
  unfold fault? unreadable? project
  cases hmissing : k.missing? u with
  | some err => exact .inl ⟨err, rfl, rfl⟩
  | none =>
    cases hpatch : k.patch? u with
    | none => exact .inl ⟨.payload k.kind, rfl, rfl⟩
    | some data =>
      rcases k.target?_cases u hmissing with ⟨t, htarget, hnames, hmisnamed⟩ | ⟨htarget, hmisnamed⟩
      · rw [htarget, hmisnamed]
        exact .inr ⟨rfl, ⟨t, data, _⟩, ⟨hnames, hpatch⟩, rfl, rfl⟩
      · rw [htarget, hmisnamed]
        exact .inl ⟨_, rfl, rfl⟩

end Updatable

/-! ## Frames -/

namespace Event

variable {kind : EventKind} {v : Json} {u : RawUpdate}

theorem classify_eq_ofKind (htype : v.get? "type" = some (.string kind.name)) (hkind : kind ∈ EventKind.all)
    (hbulk : kind ≠ .bulk) : classify v = ofKind kind v := by
  cases v with
  | object members =>
    rw [classify, typeName?_eq_some_iff.2 htype]
    simp only [EventKind.ofName?_name kind hkind]
  | _ => cases htype

theorem rawUpdate_of_read? (h : Wire.read? v = some u) :
    rawUpdate kind v = ⟨(RawUpdate.normalize kind u).2, .ok (RawUpdate.normalize kind u).1⟩ := by
  unfold rawUpdate payload
  rw [h]
  change Decoding.mk ([] ++ ((RawUpdate.normalize kind u).2 ++ [])) _ = _
  rw [List.nil_append, List.append_nil]
  rfl

end Event

namespace Updatable

open Event (classify)

variable (k : Updatable) {v : Json} {u : RawUpdate}

theorem classify_eq (htype : v.get? "type" = some (.string k.kind.name)) :
    classify v = (do return k.event (← k.project (← Event.rawUpdate k.kind v))) := by
  rw [Event.classify_eq_ofKind htype (by cases k <;> decide) (by cases k <;> decide), ofKind_eq]

/-- **The event of a frame** is what becomes of its raw update when its lists are settled. -/
theorem classify_of_read? (htype : v.get? "type" = some (.string k.kind.name)) (hread : Wire.read? v = some u) :
    classify v =
      ⟨(RawUpdate.normalize k.kind u).2 ++ (k.project (RawUpdate.normalize k.kind u).1).reports,
        (k.project (RawUpdate.normalize k.kind u).1).result.map k.event⟩ := by
  rw [classify_eq k htype, Event.rawUpdate_of_read? hread]
  change Decoding.mk (_ ++ (k.event <$> k.project _).reports) (k.event <$> k.project _).result = _
  rw [Decoding.map_eq]

theorem fault?_normalize (kind : EventKind) (u : RawUpdate) : k.fault? (RawUpdate.normalize kind u).1 = k.fault? u := by
  rw [RawUpdate.normalize_fst]
  rfl

theorem conveys_normalize {kind : EventKind} {c : k.Content} (h : k.Conveys (RawUpdate.normalize kind u).1 c) :
    k.Conveys u c := by
  rw [RawUpdate.normalize_fst] at h
  refine ⟨?_, h.data⟩
  have htarget := h.target
  cases k <;> exact htarget

/-- **What comes of a frame of an update.**  It is refused for the first of its faults, which is of its kind, and for
nothing else; without a fault it becomes an event that says what the frame says. -/
structure Decided (v : Json) (u : RawUpdate) : Prop where
  spelled : u.SpelledBy v
  fails_iff : ∀ err, (classify v).result = .error err ↔ k.fault? u = some err
  kind_of_fault : ∀ err, k.fault? u = some err → err.kind? = some k.kind
  conveys : k.fault? u = none → ∃ c, (classify v).result = .ok (k.event c) ∧ k.Conveys u c

/-- **Frames of updates fail for their faults only.** -/
theorem update_decided (htype : v.get? "type" = some (.string k.kind.name)) (hread : Wire.read? v = some u) :
    k.Decided v u := by
  have hclassify := k.classify_of_read? htype hread
  have hspelled : u.SpelledBy v := by
    cases v with
    | object members => exact RawUpdate.spelledBy_of_read? hread
    | _ => cases htype
  have hcases := k.project_cases (RawUpdate.normalize k.kind u).1
  rw [fault?_normalize] at hcases
  refine ⟨hspelled, fun err => ?_, fun err => k.kind_of_fault u, fun hsound => ?_⟩
  · rcases hcases with ⟨err', hfault, hproject⟩ | ⟨hsound, c, -, -, hproject⟩
    · rw [hclassify, hfault, hproject]
      change Except.error err' = _ ↔ _
      rw [Except.error.injEq, Option.some.injEq]
    · rw [hclassify, hsound, hproject]
      exact ⟨nofun, nofun⟩
  · rcases hcases with ⟨err', hfault, -⟩ | ⟨-, c, hconveys, -, hproject⟩
    · rw [hsound] at hfault
      cases hfault
    · refine ⟨c, ?_, k.conveys_normalize hconveys⟩
      rw [hclassify, hproject]
      rfl

/-- A message's update with the pair of a member in place of the message's text, and with new values that are none: of
the two faults the frame is refused for the values. -/
def twiceFaulty : Json :=
  .object [("type", .string "MessageUpdate"), ("id", .object [("server", .string "s"), ("user", .string "u")]),
    ("channel", .string "c"), ("data", .int 5)]

theorem update_decided_twiceFaulty :
    ∃ u : RawUpdate, Wire.read? twiceFaulty = some u ∧ u.id = .member ⟨"s", "u"⟩ ∧
      message.Decided twiceFaulty u ∧ (classify twiceFaulty).result = .error (.payload .messageUpdate) := by
  have hread : Wire.read? twiceFaulty =
      some (⟨.member ⟨"s", "u"⟩, none, some "c", .int 5, [], []⟩ : RawUpdate) := by rfl
  have hdecided := update_decided message (v := twiceFaulty) rfl hread
  exact ⟨_, hread, rfl, hdecided, (hdecided.fails_iff _).2 rfl⟩

end Updatable

end ChatClient
