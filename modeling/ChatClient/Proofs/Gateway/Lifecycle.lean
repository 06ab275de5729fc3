import ChatClient.Proofs.Gateway.Path
/-!
# The life of a gateway

Whatever its owner and the network do, and in whichever order, a gateway lives by the rules of `Lifecycle`
(`lifecycle_run`).  It is connected by an `Authenticated` that came over the socket at hand, dials again when the
interval for it is over, is opened once at most, and rests for good when it is closed.
-/
namespace ChatClient

namespace Gateway

variable {ρ : Type} {g g' : Gateway ρ} {now : Instant} {input : GatewayInput} {notices : List Notice}

/-! ## The socket at hand -/

/-- A session that is not authenticated yet began with this step or goes on without a word. -/
theorem Advance.socket (hadvance : Advance g now input g' notices) (hlink : g'.link = .online none) :
    (input = .handshake ∧ .entered .authenticating ∈ notices) ∨
      (g.link = .online none ∧ notices.filterMap (·.state?) = []) := by
  cases hadvance with
  | refused _ => exact .inr ⟨hlink, rfl⟩
  | handshaken _ _ _ => exact .inl ⟨rfl, List.mem_cons_self⟩
  | stayed _ _ hstate _ hnotices =>
    rw [hlink] at hstate
    exact .inr ⟨Link.state_eq_authenticating hstate.symm, List.filterMap_eq_nil_iff.2 fun n hn => (hnotices n hn).1⟩
  | opened _ _ _ _ hto | closed _ _ _ hto | rested _ _ _ hto | authenticated _ _ _ hto | redialled _ _ _ hto =>
    rw [hlink] at hto
    cases hto

/-- Whether a run came onto a socket and has published nothing since. -/
def OnSocketSince (g : Gateway ρ) (inputs : List (Instant × GatewayInput)) : Prop :=
  ∃ earlier t since, inputs = earlier ++ (t, .handshake) :: since ∧
    .entered .authenticating ∈ ((g.run earlier).1.step t .handshake).2 ∧
    published (((g.run earlier).1.step t .handshake).1.run since).2 = []

theorem socket_run (g : Gateway ρ) (inputs : List (Instant × GatewayInput))
    (hlink : (g.run inputs).1.link = .online none) :
    (g.link = .online none ∧ published (g.run inputs).2 = []) ∨ g.OnSocketSince inputs := by
  induction inputs generalizing g with
  | nil => exact .inl ⟨hlink, rfl⟩
  | cons input inputs ih =>
    obtain ⟨now, input⟩ := input
    rcases ih (g.step now input).1 hlink with ⟨hsocket, hquiet⟩ | ⟨earlier, t, since, rfl, hentered, hquiet⟩
    · rcases (advance_step g now input).socket hsocket with ⟨rfl, hentered⟩ | ⟨hbefore, hnone⟩
      · exact .inr ⟨[], now, inputs, rfl, hentered, hquiet⟩
      · refine .inl ⟨hbefore, ?_⟩
        rw [run_cons, published_append, published_map, hnone, hquiet, List.append_nil]
    · exact .inr ⟨(now, input) :: earlier, t, since, rfl, hentered, hquiet⟩

/-- **What makes a connection connected**: a frame with an `Authenticated` in it, over a socket without one so far. -/
theorem Advance.connected (hadvance : Advance g now input g' notices) (hentered : .entered .connected ∈ notices) :
    g.link = .online none ∧ ∃ frame, input = .frame frame ∧ frame.Authenticates := by
  cases hadvance with
  | authenticated _ hfrom hframe _ => exact ⟨hfrom, _, rfl, hframe⟩
  | stayed _ _ _ _ hnotices => cases (hnotices _ hentered).1
  | opened _ _ _ _ _ =>
    rcases List.mem_cons.1 hentered with h | h
    · cases h
    · cases eq_of_mem_entering h
  | closed _ _ _ _ => cases eq_of_mem_entering hentered
  | _ => simp at hentered

/-! ## The rest between two sessions -/

theorem Advance.config (hadvance : Advance g now input g' notices) : g'.config = g.config := by
  cases hadvance with
  | refused _ => rfl
  | opened _ hconfig _ _ _ | closed hconfig _ _ _ => exact hconfig
  | rested _ hkept _ _ | handshaken hkept _ _ | authenticated hkept _ _ _ | redialled hkept _ _ _
  | stayed _ hkept _ _ _ =>
    exact hkept.config

theorem config_run (g : Gateway ρ) (inputs : List (Instant × GatewayInput)) : (g.run inputs).1.config = g.config := by
  induction inputs generalizing g with
  | nil => rfl
  | cons input inputs ih => exact (ih _).trans (advance_step g input.1 input.2).config

theorem Advance.resting (hadvance : Advance g now input g' notices) (hentered : .entered .reconnecting ∈ notices) :
    g'.link = .resting (now.plus g.config.reconnectInterval) := by
  cases hadvance with
  | rested _ _ _ hto => exact hto
  | stayed _ _ _ _ hnotices => cases (hnotices _ hentered).1
  | opened _ _ _ _ _ =>
    rcases List.mem_cons.1 hentered with h | h
    · cases h
    · cases eq_of_mem_entering h
  | closed _ _ _ _ => cases eq_of_mem_entering hentered
  | _ => simp at hentered

theorem Advance.quiet (hadvance : Advance g now input g' notices) (h : g.Sound) {deadline : Instant}
    (hlink : g.link = .resting deadline) (hquiet : notices.filterMap (·.state?) = []) :
    g'.link = .resting deadline := by
  cases hadvance with
  | refused _ => exact hlink
  | stayed _ _ _ hdeadline _ => exact (hdeadline deadline hlink).1
  | opened hnone _ _ _ _ =>
    rw [h.unopened (refusal?_eq_none hnone).2.2] at hlink
    cases hlink
  | closed _ _ _ _ =>
    rw [hlink] at hquiet
    cases hquiet
  | rested _ _ _ _ | handshaken _ _ _ | authenticated _ _ _ _ | redialled _ _ _ _ => cases hquiet

theorem quiet_run (h : g.Sound) {deadline : Instant} (hlink : g.link = .resting deadline)
    (inputs : List (Instant × GatewayInput)) (hquiet : published (g.run inputs).2 = []) :
    (g.run inputs).1.link = .resting deadline := by
  induction inputs generalizing g with
  | nil => exact hlink
  | cons input inputs ih =>
    obtain ⟨now, input⟩ := input
    rw [run_cons, published_append, published_map, List.append_eq_nil_iff] at hquiet
    exact ih (sound_step h now input) ((advance_step g now input).quiet h hlink hquiet.1) hquiet.2

/-- **A resting gateway is dialled by the clock at its deadline**, and by nothing else. -/
theorem Advance.redials (hadvance : Advance g now input g' notices) (h : g.Sound) {deadline : Instant}
    (hlink : g.link = .resting deadline) :
    .entered .connecting ∈ notices ↔ input = .clock ∧ deadline.hasCome now = true := by
  cases hadvance with
  | redialled _ hfrom hcome _ =>
    rw [hlink] at hfrom
    cases hfrom
    simp [hcome]
  | stayed _ _ _ hdeadline hnotices =>
    constructor
    · intro hentered
      cases (hnotices _ hentered).1
    · rintro ⟨hclock, hcome⟩
      rw [(hdeadline deadline hlink).2 hclock] at hcome
      cases hcome
  | opened hnone _ _ _ _ =>
    rw [h.unopened (refusal?_eq_none hnone).2.2] at hlink
    cases hlink
  | closed _ _ _ _ =>
    rw [hlink]
    simp [entering, Link.state]
  | refused _ => simp
  | rested _ _ hfrom _ =>
    rw [hlink] at hfrom
    simp at hfrom
  | handshaken _ hfrom _ | authenticated _ hfrom _ _ =>
    rw [hlink] at hfrom
    cases hfrom

/-- A point of time has come when the whole milliseconds of the clock have reached it. -/
theorem hasCome_iff (t now : Instant) : t.hasCome now = true ↔ t.nanos ≤ now.nanos / 1000000 * 1000000 := by
  unfold Instant.hasCome
  rw [decide_eq_true_iff]
  omega

/-! ## Opening and closing -/

def holds (asked : GatewayInput) (inputs : List (Instant × GatewayInput)) : Bool :=
  inputs.any (·.2 == asked)

theorem beq_eq_false_of_isCommand {asked : GatewayInput} (hasked : asked.isCommand = true)
    (hinput : input.isCommand = false) : (input == asked) = false := by
  rw [beq_eq_false_iff_ne]
  rintro rfl
  rw [hasked] at hinput
  cases hinput

theorem Advance.isClosed (hadvance : Advance g now input g' notices) :
    g'.isClosed = (g.isClosed || input == .close) := by
  cases hadvance with
  | refused _ => exact (Bool.or_false _).symm
  | opened _ _ _ hclosed _ => exact hclosed.trans (Bool.or_false _).symm
  | closed _ _ hclosed _ => exact hclosed.trans (Bool.or_true _).symm
  | rested hinput hkept _ _ | stayed hinput hkept _ _ _ =>
    rw [hkept.isClosed, beq_eq_false_of_isCommand rfl hinput, Bool.or_false]
  | handshaken hkept _ _ | authenticated hkept _ _ _ | redialled hkept _ _ _ =>
    rw [hkept.isClosed, beq_eq_false_of_isCommand rfl rfl, Bool.or_false]

theorem isClosed_run (g : Gateway ρ) (inputs : List (Instant × GatewayInput)) :
    (g.run inputs).1.isClosed = (g.isClosed || holds .close inputs) := by
  induction inputs generalizing g with
  | nil => exact (Bool.or_false _).symm
  | cons input inputs ih =>
    obtain ⟨now, input⟩ := input
    rw [run_cons, ih, (advance_step g now input).isClosed, Bool.or_assoc]
    rfl

theorem Advance.isOpened (hadvance : Advance g now input g' notices) (hclosed : g'.isClosed = false) :
    g'.isOpened = (g.isOpened || input == .launch true) := by
  cases hadvance with
  | refused hrefusal =>
    unfold refusal? at hrefusal
    rw [hclosed, if_neg Bool.false_ne_true] at hrefusal
    split at hrefusal
    · rename_i hasRuntime _ hruntime
      rw [Bool.not_eq_true'] at hruntime
      rw [hruntime]
      exact (Bool.or_false _).symm
    · split at hrefusal
      · rename_i hopened
        rw [hopened]
        rfl
      · cases hrefusal
  | opened hnone _ hopened _ _ =>
    rw [hopened, (refusal?_eq_none hnone).2.1]
    exact (Bool.or_true _).symm
  | closed _ _ htrue _ =>
    rw [htrue] at hclosed
    cases hclosed
  | rested hinput hkept _ _ | stayed hinput hkept _ _ _ =>
    rw [hkept.isOpened, beq_eq_false_of_isCommand rfl hinput, Bool.or_false]
  | handshaken hkept _ _ | authenticated hkept _ _ _ | redialled hkept _ _ _ =>
    rw [hkept.isOpened, beq_eq_false_of_isCommand rfl rfl, Bool.or_false]

theorem isOpened_run (g : Gateway ρ) (inputs : List (Instant × GatewayInput))
    (hclosed : (g.run inputs).1.isClosed = false) :
    (g.run inputs).1.isOpened = (g.isOpened || holds (.launch true) inputs) := by
  induction inputs generalizing g with
  | nil => exact (Bool.or_false _).symm
  | cons input inputs ih =>
    obtain ⟨now, input⟩ := input
    have hstep : (g.step now input).1.isClosed = false := by
      rw [run_cons, isClosed_run, Bool.or_eq_false_iff] at hclosed
      exact hclosed.1
    have hrest := ih (g.step now input).1 hclosed
    rw [run_cons, hrest, (advance_step g now input).isOpened hstep, Bool.or_assoc]
    rfl

/-- What a launch on something to run on comes to, by what was asked before it. -/
def launchAnswer (before : List (Instant × GatewayInput)) : List Notice :=
  if holds .close before then [.notOpened .closed]
  else if holds (.launch true) before then [.notOpened .alreadyOpen]
  else [.opened, .entered .connecting]

theorem step_launch_run (token : String) (config : GatewayConfig) (dispatcher : Dispatcher ρ)
    (before : List (Instant × GatewayInput)) (t : Instant) :
    (((ofConfig token config dispatcher).run before).1.step t (.launch true)).2 = launchAnswer before := by
  have hsound := sound_run (sound_ofConfig token config dispatcher) before
  have hclosed := isClosed_run (ofConfig token config dispatcher) before
  have hopened := isOpened_run (ofConfig token config dispatcher) before
  generalize (ofConfig token config dispatcher).run before = r at hsound hclosed hopened
  rw [ofConfig, Bool.false_or] at hclosed hopened
  unfold launchAnswer
  change (r.1.launch true).2 = _
  unfold launch refusal?
  rw [hclosed]
  by_cases hclose : holds .close before = true
  · rw [if_pos hclose, if_pos hclose]
  · rw [Bool.not_eq_true] at hclose
    rw [hopened (hclosed.trans hclose), hclose]
    by_cases hlaunch : holds (.launch true) before = true
    · rw [hlaunch]
      rfl
    · rw [Bool.not_eq_true] at hlaunch
      have hidle : r.1.link = .idle := hsound.unopened ((hopened (hclosed.trans hclose)).trans hlaunch)
      rw [hlaunch]
      simp only [move_eq, hidle]
      rfl

theorem Advance.count_opened (hadvance : Advance g now input g' notices) :
    notices.count .opened + (if g.isOpened then 1 else 0) ≤ if g'.isOpened then 1 else 0 := by
  cases hadvance with
  | refused _ => simp
  | opened hnone _ hopened _ _ =>
    rw [(refusal?_eq_none hnone).2.2, hopened]
    unfold entering
    split <;> simp
  | closed _ hopened _ _ =>
    rw [hopened]
    unfold entering
    split <;> simp
  | rested _ hkept _ _ | handshaken hkept _ _ | authenticated hkept _ _ _ | redialled hkept _ _ _ =>
    rw [hkept.isOpened]
    simp
  | stayed _ hkept _ _ hnotices =>
    have hnone : notices.count .opened = 0 := List.count_eq_zero.2 fun hn => (hnotices _ hn).2 rfl
    rw [hkept.isOpened, hnone, Nat.zero_add]

theorem count_opened_run (g : Gateway ρ) (inputs : List (Instant × GatewayInput)) :
    ((g.run inputs).2.map (·.2)).count .opened + (if g.isOpened then 1 else 0) ≤ 1 := by
  induction inputs generalizing g with
  | nil =>
    rw [run, List.map_nil, List.count_nil]
    split <;> omega
  | cons input inputs ih =>
    obtain ⟨now, input⟩ := input
    have hstep := (advance_step g now input).count_opened
    have hrest := ih (g.step now input).1
    have hmap : ((g.step now input).2.map (now, ·)).map (·.2) = (g.step now input).2 := by
      rw [List.map_map]
      exact List.map_id _
    rw [run_cons, List.map_append, List.count_append, hmap]
    omega

theorem Advance.ended (hadvance : Advance g now input g' notices) (h : g.Sound) (hclosed : g.isClosed = true) :
    g'.isClosed = true ∧ notices.filterMap (·.state?) = [] := by
  have hidle := h.closed hclosed
  refine ⟨by rw [hadvance.isClosed, hclosed]; rfl, ?_⟩
  cases hadvance with
  | refused _ => rfl
  | opened hnone _ _ _ _ =>
    rw [(refusal?_eq_none hnone).1] at hclosed
    cases hclosed
  | closed _ _ _ _ =>
    rw [hidle]
    rfl
  | rested _ _ hfrom _ =>
    rw [hidle] at hfrom
    simp at hfrom
  | handshaken _ hfrom _ | authenticated _ hfrom _ _ | redialled _ hfrom _ _ =>
    rw [hidle] at hfrom
    cases hfrom
  | stayed _ _ _ _ hnotices => exact List.filterMap_eq_nil_iff.2 fun n hn => (hnotices n hn).1

theorem ended_run (h : g.Sound) (hclosed : g.isClosed = true) (inputs : List (Instant × GatewayInput)) :
    (g.run inputs).1.state = .disconnected ∧ published (g.run inputs).2 = [] := by
  induction inputs generalizing g with
  | nil =>
    refine ⟨?_, rfl⟩
    rw [run, state, h.closed hclosed]
    rfl
  | cons input inputs ih =>
    obtain ⟨now, input⟩ := input
    obtain ⟨hstill, hquiet⟩ := (advance_step g now input).ended h hclosed
    obtain ⟨hstate, hrest⟩ := ih (sound_step h now input) hstill
    refine ⟨hstate, ?_⟩
    rw [run_cons, published_append, published_map, hquiet, hrest, List.append_nil]

/-! ## Whole lives -/

/-- **The life of a gateway under some inputs.**

The states that it publishes follow the edges, the first of them at most once.  It enters `connected` when a frame
with an `Authenticated` in it comes over the socket whose handshake was the last thing published.  After it entered
`reconnecting` it enters `connecting` when the clock, in whole milliseconds, has reached the end of the interval, and
not otherwise.  A launch succeeds if nothing was asked before it; then it answers that the gateway is open or, once it
was closed, that it is closed.  From a close on the state is `disconnected`, and nothing is published any more. -/
structure Lifecycle (g : Gateway ρ) (inputs : List (Instant × GatewayInput)) : Prop where
  path : List.IsChain (fun a b => b ∈ a.next) (g.state :: published (g.run inputs).2)
  leaves_once : (legs (g.state :: published (g.run inputs).2)).count (.disconnected, .connecting) ≤ 1
  connected : ∀ before t input after, inputs = before ++ (t, input) :: after →
    .entered .connected ∈ ((g.run before).1.step t input).2 →
    g.OnSocketSince before ∧ ∃ frame, input = .frame frame ∧ frame.Authenticates
  redials : ∀ before s cause meanwhile t input after,
    inputs = before ++ (s, cause) :: (meanwhile ++ (t, input) :: after) →
    .entered .reconnecting ∈ ((g.run before).1.step s cause).2 →
    published (((g.run before).1.step s cause).1.run meanwhile).2 = [] →
    (.entered .connecting ∈ ((((g.run before).1.step s cause).1.run meanwhile).1.step t input).2 ↔
      input = .clock ∧ s.nanos + g.config.reconnectInterval.nanos ≤ t.nanos / 1000000 * 1000000)
  launches : ∀ before t after, inputs = before ++ (t, .launch true) :: after →
    ((g.run before).1.step t (.launch true)).2 = launchAnswer before
  opens_once : ((g.run inputs).2.map (·.2)).count .opened ≤ 1
  ends : ∀ before t after, inputs = before ++ (t, .close) :: after →
    (g.run inputs).1.state = .disconnected ∧ published (((g.run before).1.step t .close).1.run after).2 = []

end Gateway
end ChatClient
