import ChatClient.Dispatch.Basic
import ChatClient.Proofs.Dispatch.Leaves
import ChatClient.Proofs.Event.Faults
/-!
# Who reports what

Reading a frame reports what is wrong with the frame (`Diagnostic.isOfReading`), handling an event what is wrong with
its target or its observers (`Diagnostic.isOfHandling`), and neither of them reports anything else.  A mismatch of a
heartbeat is thus reported where pongs are taken in and nowhere else.
-/
namespace ChatClient

namespace Diagnostic

def isOfReading : Diagnostic → Bool
  | .conflictingClearAndRemove .. | .decodeFailure .. | .unknownEvent .. | .unknownClearField .. => true
  | _ => false

def isOfHandling : Diagnostic → Bool
  | .unknownTarget .. | .observerPanicked .. => true
  | _ => false

def isMismatch : Diagnostic → Bool
  | .heartbeatMismatch .. => true
  | _ => false

variable {rs : List Diagnostic}

theorem isOfReading_of_isOfNames {r : Diagnostic} (h : r.isOfNames = true) : r.isOfReading = true := by
  cases r <;> simp_all [isOfNames, isOfReading]

theorem isMismatch_of_isOfReading {r : Diagnostic} (h : r.isOfReading = true) : r.isMismatch = false := by
  cases r <;> simp_all [isOfReading, isMismatch]

theorem isMismatch_of_isOfHandling {r : Diagnostic} (h : r.isOfHandling = true) : r.isMismatch = false := by
  cases r <;> simp_all [isOfHandling, isMismatch]

theorem filter_isMismatch_of_reading (h : ∀ r ∈ rs, r.isOfReading = true) : rs.filter (·.isMismatch) = [] := by
  refine List.filter_eq_nil_iff.2 fun r hr => ?_
  simp [isMismatch_of_isOfReading (h r hr)]

theorem filter_isMismatch_of_handling (h : ∀ r ∈ rs, r.isOfHandling = true) : rs.filter (·.isMismatch) = [] := by
  refine List.filter_eq_nil_iff.2 fun r hr => ?_
  simp [isMismatch_of_isOfHandling (h r hr)]

end Diagnostic

/-! ## Reading -/

namespace Decoding

variable {α β : Type}

def Plain (d : Decoding α) : Prop :=
  ∀ r ∈ d.reports, r.isOfReading = true

theorem Plain.of_reportsOnly {d : Decoding α} (h : d.ReportsOnly Diagnostic.isOfNames) : d.Plain :=
  h.mono fun _ => Diagnostic.isOfReading_of_isOfNames

theorem isOfReading_diagnostic (err : DecodeError) : err.diagnostic.isOfReading = true := rfl

/-- So are those of reading leniently, also of what cannot be read. -/
theorem Plain.leniently {d : Decoding α} (h : d.Plain) : ∀ r ∈ d.leniently.1, r.isOfReading = true := by
  unfold Decoding.leniently
  cases d.result with
  | ok a => exact h
  | error err => exact List.forall_mem_append.2 ⟨h, by simp [isOfReading_diagnostic]⟩

end Decoding

namespace Event

open Decoding (Plain ReportsOnly reportsOnly_pure reportsOnly_fail reportsOnly_ofOption isOfReading_diagnostic)

theorem plain_itemOf (v : Json) {d : Decoding Event} (h : d.Plain) : (itemOf v d).Plain := by
  unfold itemOf
  cases d.result with
  | ok e => exact h
  | error err => exact List.forall_mem_append.2 ⟨h, by simp [isOfReading_diagnostic]⟩

mutual

/-- Reading a value reports what is wrong with the frame only, at any depth of bulks. -/
theorem plain_classify : ∀ v : Json, (classify v).Plain
  | .object members => by
    rw [classify]
    split
    · exact reportsOnly_fail _
    · split
      · exact List.forall_mem_singleton.2 rfl
      · split
        · rename_i d hd
          exact ReportsOnly.map (plain_classifyBulk members d hd) _
        · exact reportsOnly_fail _
      · exact .of_reportsOnly (reportsOnly_ofKind _ _)
  | .null | .bool _ | .int _ | .float _ | .string _ | .array _ => by
    rw [classify]
    · exact reportsOnly_fail _
    · simp

theorem plain_classifyBulk : ∀ (members : List (String × Json)) (d : Decoding (List Event)),
    classifyBulk members = some d → d.Plain
  | [], _, h => by
    rw [classifyBulk] at h
    cases h
  | (key, v) :: members, d, h => by
    unfold classifyBulk at h
    split at h
    · cases v with
      | array items =>
        cases h
        exact plain_classifyItems items
      | _ => cases h
    · exact plain_classifyBulk members d h

theorem plain_classifyItems : ∀ items : List Json, (classifyItems items).Plain
  | [] => by
    rw [classifyItems]
    exact reportsOnly_pure _
  | v :: items => by
    rw [classifyItems]
    exact ReportsOnly.bind (plain_itemOf v (plain_classify v)) fun _ =>
      ReportsOnly.bind (plain_classifyItems items) fun _ => reportsOnly_pure _

end

/-- **A frame that is read reports what is wrong with it**, and nothing else. -/
theorem reports_leniently (bytes : List UInt8) : ∀ r ∈ (ofBytes bytes).leniently.1, r.isOfReading = true :=
  Plain.leniently ((reportsOnly_ofOption _ _).bind plain_classify)

end Event

/-! ## Handling -/

namespace Dispatcher

variable {ρ : Type} (state : ConnectionState)

/-- What a dispatcher reports on the way to another is about targets and observers. -/
def Grumbles (d d' : Dispatcher ρ) : Prop :=
  ∃ more : List Diagnostic, d'.reports = d.reports ++ more ∧ ∀ r ∈ more, r.isOfHandling = true

theorem Grumbles.refl (d : Dispatcher ρ) : Grumbles d d :=
  ⟨[], (List.append_nil _).symm, fun _ hr => nomatch hr⟩

theorem Grumbles.trans {d d' d'' : Dispatcher ρ} (h : Grumbles d d') (h' : Grumbles d' d'') : Grumbles d d'' := by
  obtain ⟨more, hmore, hall⟩ := h
  obtain ⟨more', hmore', hall'⟩ := h'
  exact ⟨more ++ more', by rw [hmore', hmore, List.append_assoc], List.forall_mem_append.2 ⟨hall, hall'⟩⟩

theorem grumbles_apply (d : Dispatcher ρ) (e : Event) : Grumbles d (d.apply e).1 := by
  refine ⟨(d.cache.absorb e).reports, rfl, ?_⟩
  unfold Cache.absorb
  cases e.effect? with
  | none => exact fun _ hr => nomatch hr
  | some effect =>
    dsimp only [Effect.reports]
    split
    · exact List.forall_mem_singleton.2 rfl
    · exact fun _ hr => nomatch hr

theorem grumbles_call (e : Event) (d : Dispatcher ρ) (o : Observer ρ) : Grumbles d (call state e d o) := by
  refine ⟨_, rfl, ?_⟩
  cases (o.react (d.scene state) e).panic with
  | none => exact fun _ hr => nomatch hr
  | some p => exact List.forall_mem_singleton.2 rfl

theorem grumbles_notify (e : Event) (d : Dispatcher ρ) : Grumbles d (notify state d e) := by
  unfold notify
  generalize d.registry.observersOf e.kind = os
  induction os generalizing d with
  | nil => exact .refl d
  | cons o os ih => exact (grumbles_call state e d o).trans (ih _)

theorem grumbles_dispatchAll {ls : List Event} (hls : ∀ l ∈ ls, l.kind ≠ .bulk) (d : Dispatcher ρ) :
    Grumbles d (dispatchAll state d ls) := by
  induction ls generalizing d with
  | nil =>
    rw [dispatchAll]
    exact .refl d
  | cons l ls ih =>
    obtain ⟨hl, hls⟩ := List.forall_mem_cons.1 hls
    rw [dispatchAll, dispatch_of_ne state d hl]
    exact ((grumbles_apply d l).trans (grumbles_notify state l _)).trans (ih hls _)

/-- **An event that is handled reports what is wrong with its target or its observers**, and nothing else. -/
theorem grumbles_dispatch (d : Dispatcher ρ) (e : Event) : Grumbles d (dispatch state d e) := by
  rw [dispatch_eq_dispatchAll]
  exact grumbles_dispatchAll state e.kind_of_mem_leaves d

end Dispatcher

end ChatClient
