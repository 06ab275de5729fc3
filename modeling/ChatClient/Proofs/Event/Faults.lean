import ChatClient.Proofs.Event.Bulk
/-!
# What is reported of bytes that spell no event

Reading an update reports what is wrong with the names that it clears (`Diagnostic.isOfNames`), and reading any other
kind of event reports nothing, whether it fails or not.  Only the items of a bulk report more, and a bulk with items
does not fail.  So bytes that spell no event leave one report of that, and before it reports about names at most
(`Event.reportsOnly_of_error`).
-/
namespace ChatClient

/-- Whether it is about the names that an update clears. -/
def Diagnostic.isOfNames : Diagnostic → Bool
  | .conflictingClearAndRemove .. | .unknownClearField .. => true
  | _ => false

namespace Decoding

variable {α β : Type} {p : Diagnostic → Bool}

def ReportsOnly (p : Diagnostic → Bool) (d : Decoding α) : Prop :=
  ∀ r ∈ d.reports, p r = true

theorem ReportsOnly.mono {d : Decoding α} {q : Diagnostic → Bool} (h : d.ReportsOnly p)
    (hpq : ∀ r, p r = true → q r = true) : d.ReportsOnly q :=
  fun r hr => hpq r (h r hr)

theorem reportsOnly_pure (a : α) : (pure a : Decoding α).ReportsOnly p := fun _ hr => nomatch hr

theorem reportsOnly_fail (err : DecodeError) : (fail err : Decoding α).ReportsOnly p := fun _ hr => nomatch hr

theorem ReportsOnly.bind {d : Decoding α} {f : α → Decoding β} (h : d.ReportsOnly p)
    (hf : ∀ a, (f a).ReportsOnly p) : (d >>= f).ReportsOnly p := by
  change (Decoding.bind d f).ReportsOnly p
  unfold Decoding.bind ReportsOnly
  cases d.result with
  | error err => exact h
  | ok a => exact List.forall_mem_append.2 ⟨h, hf a⟩

theorem ReportsOnly.map {d : Decoding α} (h : d.ReportsOnly p) (f : α → β) : (f <$> d).ReportsOnly p :=
  h.bind fun a => reportsOnly_pure (f a)

theorem reportsOnly_ofOption (a? : Option α) (err : DecodeError) : (ofOption a? err).ReportsOnly p := by
  cases a? with
  | none => exact reportsOnly_fail err
  | some a => exact reportsOnly_pure a

theorem result_bind (d : Decoding α) (f : α → Decoding β) :
    (d >>= f).result = d.result.bind fun a => (f a).result := by
  change (Decoding.bind d f).result = _
  unfold Decoding.bind
  cases d.result <;> rfl

end Decoding

open Decoding (ReportsOnly reportsOnly_pure reportsOnly_fail reportsOnly_ofOption)

/-! ## Updates -/

namespace Update

variable {π φ : Type} (kind : EventKind)

theorem reportsOnly_content [Wire π] [Clearable φ] (u : UpdateEnvelope) :
    (content kind u : Decoding (π × List (ClearName φ))).ReportsOnly Diagnostic.isOfNames := by
  have hnames (clear : List (ClearName φ)) :
      (Decoding.report (unknownNames clear)).ReportsOnly Diagnostic.isOfNames := by
    intro r hr
    obtain ⟨f, -, rfl⟩ := List.mem_map.1 hr
    rfl
  exact (reportsOnly_ofOption _ _).bind fun data => (hnames _).bind fun _ => reportsOnly_pure _

theorem reportsOnly_ofPlain [Wire π] [Clearable φ] (u : RawUpdate) :
    (ofPlain kind u : Decoding (Update String π φ)).ReportsOnly Diagnostic.isOfNames :=
  (reportsOnly_content kind _).bind fun _ => (reportsOnly_ofOption _ _).bind fun _ => reportsOnly_pure _

theorem reportsOnly_ofMember (u : RawUpdate) : (ofMember kind u).ReportsOnly Diagnostic.isOfNames :=
  (reportsOnly_content kind _).bind fun _ => (reportsOnly_ofOption _ _).bind fun _ => reportsOnly_pure _

theorem reportsOnly_ofRole (u : RawUpdate) : (ofRole kind u).ReportsOnly Diagnostic.isOfNames :=
  (reportsOnly_ofOption _ _).bind fun _ => (reportsOnly_content kind _).bind fun _ =>
    (reportsOnly_ofOption _ _).bind fun _ => reportsOnly_pure _

theorem reportsOnly_ofMessage (u : RawUpdate) : (ofMessage kind u).ReportsOnly Diagnostic.isOfNames :=
  (reportsOnly_ofOption _ _).bind fun _ => (reportsOnly_content kind _).bind fun _ =>
    (reportsOnly_ofOption _ _).bind fun _ => reportsOnly_pure _

end Update

namespace Event

variable {v : Json} {err : DecodeError}

theorem reportsOnly_rawUpdate (kind : EventKind) (v : Json) : (rawUpdate kind v).ReportsOnly Diagnostic.isOfNames := by
  have hnormalize (u : RawUpdate) :
      (Decoding.report (RawUpdate.normalize kind u).2).ReportsOnly Diagnostic.isOfNames := by
    unfold RawUpdate.normalize
    split
    · exact fun _ hr => nomatch hr
    · split
      · exact fun _ hr => nomatch hr
      · exact List.forall_mem_singleton.2 rfl
  exact (reportsOnly_ofOption _ _).bind fun u => (hnormalize u).bind fun _ => reportsOnly_pure _

/-- **An event that is no bulk reports what is wrong with the names that it clears**, and nothing else. -/
theorem reportsOnly_ofKind (kind : EventKind) (v : Json) : (ofKind kind v).ReportsOnly Diagnostic.isOfNames := by
  have hraw := reportsOnly_rawUpdate kind v
  cases kind with
  | authenticated => exact reportsOnly_pure _
  | bulk | unknown => exact reportsOnly_fail _
  | messageUpdate => exact hraw.bind fun u => (Update.reportsOnly_ofMessage _ u).bind fun _ => reportsOnly_pure _
  | serverMemberUpdate => exact hraw.bind fun u => (Update.reportsOnly_ofMember _ u).bind fun _ => reportsOnly_pure _
  | serverRoleUpdate => exact hraw.bind fun u => (Update.reportsOnly_ofRole _ u).bind fun _ => reportsOnly_pure _
  | channelUpdate | serverUpdate | userUpdate | webhookUpdate =>
    exact hraw.bind fun u => (Update.reportsOnly_ofPlain _ u).bind fun _ => reportsOnly_pure _
  | _ => exact (reportsOnly_ofOption _ _).map _

/-! ## Failures -/

theorem classifyItems_ok (items : List Json) : ∃ es, (classifyItems items).result = .ok es :=
  ⟨items.map ofItem, by rw [classifyItems_eq]⟩

theorem classifyBulk_ok {members : List (String × Json)} {d : Decoding (List Event)}
    (h : classifyBulk members = some d) : ∃ es, d.result = .ok es := by
  induction members with
  | nil =>
    rw [classifyBulk] at h
    cases h
  | cons m members ih =>
    unfold classifyBulk at h
    split at h
    · split at h
      · cases h
        exact classifyItems_ok _
      · cases h
    · exact ih h

theorem reportsOnly_classify (h : (classify v).result = .error err) :
    (classify v).ReportsOnly Diagnostic.isOfNames := by
  cases v with
  | object members =>
    rw [classify] at h ⊢
    cases hname : typeName? (.object members) with
    | none => exact reportsOnly_fail _
    | some name =>
      simp only [hname] at h ⊢
      split at h
      · cases h
      · split at h
        · rename_i d hd
          -- a bulk with items does not fail
          obtain ⟨es, hes⟩ := classifyBulk_ok hd
          change (d >>= fun es => pure (bulk es)).result = _ at h
          rw [Decoding.result_bind, hes] at h
          cases h
        · exact reportsOnly_fail _
      · exact reportsOnly_ofKind _ _
  | _ =>
    rw [classify]
    · exact reportsOnly_fail _
    · simp

/-- **Bytes that spell no event** are reported as such, after reports about names at most. -/
theorem reportsOnly_of_error {bytes : List UInt8} (h : (ofBytes bytes).result = .error err) :
    (ofBytes bytes).ReportsOnly Diagnostic.isOfNames := by
  unfold ofBytes at h ⊢
  cases hjson : Json.ofBytes? bytes with
  | none => exact reportsOnly_fail _
  | some v =>
    rw [hjson, Decoding.result_bind] at h
    exact reportsOnly_classify h

end Event

end ChatClient
