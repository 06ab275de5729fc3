import ChatClient.Proofs.Gateway.Step
import Mathlib.Data.List.Chain
/-!
# The path through the states

A gateway goes through its states along the edges of `ConnectionState.next`, and leaves the first one once at most
(`path_run`).  It follows from what one step can do and from three facts that every step keeps (`Sound`): a gateway is
idle if it is closed, it is idle if it was never opened, and once opened it is idle only because it is closed.
-/
namespace ChatClient

def ConnectionState.next : ConnectionState → List ConnectionState
  | .disconnected => [.connecting]
  | .connecting => [.authenticating, .reconnecting, .disconnected]
  | .authenticating => [.connected, .reconnecting, .disconnected]
  | .connected => [.reconnecting, .disconnected]
  | .reconnecting => [.connecting, .disconnected]

namespace Link

theorem state_eq_disconnected {link : Link} (h : link.state = .disconnected) : link = .idle := by
  cases link with
  | idle => rfl
  | online beat => cases beat <;> cases h
  | _ => cases h

theorem state_eq_authenticating {link : Link} (h : link.state = .authenticating) : link = .online none := by
  cases link with
  | online beat =>
    cases beat with
    | none => rfl
    | some b => cases h
  | _ => cases h

theorem eq_idle_iff {link link' : Link} (h : link'.state = link.state) : link' = .idle ↔ link = .idle := by
  constructor
  · rintro rfl
    exact state_eq_disconnected h.symm
  · rintro rfl
    exact state_eq_disconnected h

end Link

namespace Gateway

variable {ρ : Type} {g g' : Gateway ρ} {now : Instant} {input : GatewayInput} {notices : List Notice}

theorem run_cons (g : Gateway ρ) (now : Instant) (input : GatewayInput) (inputs : List (Instant × GatewayInput)) :
    g.run ((now, input) :: inputs) =
      (((g.step now input).1.run inputs).1, (g.step now input).2.map (now, ·) ++ ((g.step now input).1.run inputs).2) :=
        rfl

theorem run_append (g : Gateway ρ) (before after : List (Instant × GatewayInput)) :
    g.run (before ++ after) = (((g.run before).1.run after).1, (g.run before).2 ++ ((g.run before).1.run after).2) := by
  induction before generalizing g with
  | nil => rfl
  | cons input before ih =>
    obtain ⟨now, input⟩ := input
    rw [List.cons_append, run_cons, run_cons, ih, List.append_assoc]

/-! ## What every step keeps -/

/-- **When a gateway is idle**: if it is closed or was never opened, and else not. -/
structure Sound (g : Gateway ρ) : Prop where
  closed : g.isClosed = true → g.link = .idle
  unopened : g.isOpened = false → g.link = .idle
  idle : g.isOpened = true → g.link = .idle → g.isClosed = true

theorem sound_ofConfig (token : String) (config : GatewayConfig) (dispatcher : Dispatcher ρ) :
    (ofConfig token config dispatcher).Sound :=
  ⟨fun _ => rfl, fun _ => rfl, fun h => nomatch h⟩

theorem refusal?_eq_none {hasRuntime : Bool} (h : g.refusal? hasRuntime = none) :
    g.isClosed = false ∧ hasRuntime = true ∧ g.isOpened = false := by
  unfold refusal? at h
  split at h
  · cases h
  · rename_i hclosed
    split at h
    · cases h
    · rename_i hruntime
      split at h
      · cases h
      · rename_i hopened
        simp only [Bool.not_eq_true', Bool.not_eq_true, Bool.not_eq_false] at hclosed hruntime hopened
        exact ⟨hclosed, hruntime, hopened⟩

/-- A gateway that is off its idle place was opened and is not closed. -/
theorem Sound.of_ne_idle (h : g.Sound) (hlink : g.link ≠ .idle) : g.isOpened = true ∧ g.isClosed = false := by
  constructor
  · cases hopened : g.isOpened with
    | true => rfl
    | false => exact absurd (h.unopened hopened) hlink
  · cases hclosed : g.isClosed with
    | false => rfl
    | true => exact absurd (h.closed hclosed) hlink

theorem Sound.move (h : g.Sound) (hkept : Kept g g') (hfrom : g.link ≠ .idle) (hto : g'.link ≠ .idle) : g'.Sound := by
  obtain ⟨hopened, hclosed⟩ := h.of_ne_idle hfrom
  refine ⟨fun hc => ?_, fun ho => ?_, fun _ hidle => absurd hidle hto⟩
  · rw [hkept.isClosed, hclosed] at hc
    cases hc
  · rw [hkept.isOpened, hopened] at ho
    cases ho

theorem Advance.sound (hadvance : Advance g now input g' notices) (h : g.Sound) : g'.Sound := by
  cases hadvance with
  | refused _ => exact h
  | opened hnone _ hopened hclosed hlink =>
    obtain ⟨hfalse, -, -⟩ := refusal?_eq_none hnone
    refine ⟨fun hc => ?_, fun ho => ?_, fun _ hidle => ?_⟩
    · rw [hclosed, hfalse] at hc
      cases hc
    · rw [hopened] at ho
      cases ho
    · rw [hlink] at hidle
      cases hidle
  | closed _ _ hclosed hlink => exact ⟨fun _ => hlink, fun _ => hlink, fun _ _ => hclosed⟩
  | rested _ hkept hfrom hto =>
    refine h.move hkept ?_ (by rw [hto]; simp)
    rcases hfrom with hfrom | ⟨beat, hfrom⟩ <;> (rw [hfrom]; simp)
  | handshaken hkept hfrom hto => exact h.move hkept (by rw [hfrom]; simp) (by rw [hto]; simp)
  | authenticated hkept hfrom _ hto => exact h.move hkept (by rw [hfrom]; simp) (by rw [hto]; simp)
  | redialled hkept hfrom _ hto => exact h.move hkept (by rw [hfrom]; simp) (by rw [hto]; simp)
  | stayed _ hkept hstate _ _ =>
    have hidle := Link.eq_idle_iff hstate
    refine ⟨fun hc => ?_, fun ho => ?_, fun ho hlink => ?_⟩
    · rw [hkept.isClosed] at hc
      exact hidle.2 (h.closed hc)
    · rw [hkept.isOpened] at ho
      exact hidle.2 (h.unopened ho)
    · rw [hkept.isOpened] at ho
      rw [hkept.isClosed]
      exact h.idle ho (hidle.1 hlink)

theorem sound_step (h : g.Sound) (now : Instant) (input : GatewayInput) : (g.step now input).1.Sound :=
  (advance_step g now input).sound h

theorem sound_run (h : g.Sound) (inputs : List (Instant × GatewayInput)) : (g.run inputs).1.Sound := by
  induction inputs generalizing g with
  | nil => exact h
  | cons input inputs ih => exact ih (sound_step h input.1 input.2)

/-! ## The path through the states -/

def published (notices : List (Instant × Notice)) : List ConnectionState :=
  notices.filterMap (·.2.state?)

theorem published_append (a b : List (Instant × Notice)) : published (a ++ b) = published a ++ published b :=
  List.filterMap_append

theorem published_map (now : Instant) (notices : List Notice) :
    published (notices.map (now, ·)) = notices.filterMap (·.state?) := by
  unfold published
  rw [List.filterMap_map]
  rfl

theorem filterMap_entering (link link' : Link) :
    (entering link link').filterMap (·.state?) = if link'.state = link.state then [] else [link'.state] := by
  unfold entering
  split <;> rfl

def legs (states : List ConnectionState) : List (ConnectionState × ConnectionState) :=
  states.zip states.tail

/-- **What a step publishes**: nothing, and the state is the same, or one state that can follow.  Only the opening of
a gateway leads away from the first state. -/
inductive Publishes (g g' : Gateway ρ) : List ConnectionState → Prop where
  | nothing : g'.state = g.state → (g.isOpened = true → g'.isOpened = true) → Publishes g g' []
  | next : g'.state ∈ g.state.next → (g.isOpened = true → g'.isOpened = true) →
      (g.state = .disconnected → g.isOpened = false ∧ g'.isOpened = true) → Publishes g g' [g'.state]

theorem Publishes.of_leg {a b : ConnectionState} (hkept : Kept g g') (ha : g.state = a) (hb : g'.state = b)
    (hnext : b ∈ a.next) (hfrom : a ≠ .disconnected) : Publishes g g' [b] := by
  subst ha hb
  exact .next hnext (fun ho => by rw [hkept.isOpened]; exact ho) fun hstate => absurd hstate hfrom

theorem Advance.publishes (hadvance : Advance g now input g' notices) (h : g.Sound) :
    Publishes g g' (notices.filterMap (·.state?)) := by
  cases hadvance with
  | refused _ => exact .nothing rfl id
  | opened hnone _ hopened _ hlink =>
    obtain ⟨-, -, hfalse⟩ := refusal?_eq_none hnone
    have hidle := h.unopened hfalse
    have hstate : g'.state = .connecting := by rw [state, hlink]; rfl
    have hnotices : List.filterMap (·.state?) (.opened :: entering g.link .dialing) = [g'.state] := by
      rw [hstate, hidle]
      rfl
    rw [hnotices]
    refine .next ?_ (fun _ => hopened) fun _ => ⟨hfalse, hopened⟩
    rw [hstate, state, hidle]
    decide
  | closed _ hopened _ hlink =>
    have hstate : g'.state = .disconnected := by rw [state, hlink]; rfl
    rw [filterMap_entering]
    split
    · rename_i hsame
      refine .nothing ?_ fun ho => by rw [hopened]; exact ho
      rw [hstate, state, ← hsame]
      rfl
    · rename_i hother
      have hlast : [Link.idle.state] = [g'.state] := by rw [hstate]; rfl
      rw [hlast]
      refine .next ?_ (fun ho => by rw [hopened]; exact ho) fun hfrom => ?_
      · rw [hstate]
        cases hfrom : g.state with
        | disconnected => exact absurd hfrom.symm hother
        | _ => decide
      · exact absurd hfrom.symm hother
  | rested _ hkept hfrom hto =>
    have hstate : g'.state = .reconnecting := by rw [state, hto]; rfl
    rcases hfrom with hfrom | ⟨beat, hfrom⟩
    · exact .of_leg (a := .connecting) hkept (by rw [state, hfrom]; rfl) hstate (by decide) (by decide)
    · cases beat with
      | none => exact .of_leg (a := .authenticating) hkept (by rw [state, hfrom]; rfl) hstate (by decide) (by decide)
      | some b => exact .of_leg (a := .connected) hkept (by rw [state, hfrom]; rfl) hstate (by decide) (by decide)
  | handshaken hkept hfrom hto =>
    exact .of_leg (a := .connecting) hkept (by rw [state, hfrom]; rfl) (by rw [state, hto]; rfl) (by decide) (by decide)
  | authenticated hkept hfrom _ hto =>
    exact .of_leg (a := .authenticating) hkept (by rw [state, hfrom]; rfl) (by rw [state, hto]; rfl)
      (by decide) (by decide)
  | redialled hkept hfrom _ hto =>
    exact .of_leg (a := .reconnecting) hkept (by rw [state, hfrom]; rfl) (by rw [state, hto]; rfl)
      (by decide) (by decide)
  | stayed _ hkept hstate _ hnotices =>
    have hnone : notices.filterMap (·.state?) = [] := List.filterMap_eq_nil_iff.2 fun n hn => (hnotices n hn).1
    rw [hnone]
    exact .nothing hstate fun ho => by rw [hkept.isOpened]; exact ho

/-- **A run follows the edges**, and what leads away from the first state is the one opening that there can be. -/
theorem path_run (h : g.Sound) (inputs : List (Instant × GatewayInput)) :
    List.IsChain (fun a b => b ∈ a.next) (g.state :: published (g.run inputs).2) ∧
      (legs (g.state :: published (g.run inputs).2)).count (.disconnected, .connecting) ≤
        if g.isOpened then 0 else 1 := by
  induction inputs generalizing g with
  | nil => exact ⟨List.isChain_singleton _, by simp [run, published, legs]⟩
  | cons input inputs ih =>
    obtain ⟨now, input⟩ := input
    have hpublishes := (advance_step g now input).publishes h
    obtain ⟨hchain, hcount⟩ := ih (sound_step h now input)
    rw [run_cons, published_append, published_map]
    generalize hstates : (g.step now input).2.filterMap (·.state?) = states at hpublishes
    cases hpublishes with
    | nothing hsame hopened =>
      rw [List.nil_append, ← hsame]
      refine ⟨hchain, Nat.le_trans hcount ?_⟩
      cases ho : g.isOpened with
      | true => rw [hopened ho]
      | false => split <;> simp
    | next hnext hopened hfirst =>
      refine ⟨List.isChain_cons_cons.2 ⟨hnext, hchain⟩, ?_⟩
      have hlegs : legs (g.state :: ([(g.step now input).1.state] ++ published ((g.step now input).1.run inputs).2)) =
          (g.state, (g.step now input).1.state) ::
            legs ((g.step now input).1.state :: published ((g.step now input).1.run inputs).2) := rfl
      rw [hlegs, List.count_cons]
      by_cases hleg : g.state = .disconnected
      · obtain ⟨hfalse, htrue⟩ := hfirst hleg
        rw [htrue, if_pos rfl] at hcount
        rw [hfalse, if_neg Bool.false_ne_true]
        split <;> omega
      · have hother :
            ((g.state, (g.step now input).1.state) == (ConnectionState.disconnected, .connecting)) = false := by
          rw [beq_eq_false_iff_ne]
          intro heq
          exact hleg (Prod.mk.inj heq).1
        rw [hother, if_neg Bool.false_ne_true, Nat.add_zero]
        refine Nat.le_trans hcount ?_
        cases ho : g.isOpened with
        | true => rw [hopened ho]
        | false => split <;> simp

end Gateway
end ChatClient
