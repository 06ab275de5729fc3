import ChatClient.Proofs.Event.Faults
import ChatClient.Proofs.Gateway.Delivery
import ChatClient.Proofs.Gateway.ReportIndependence
/-!
# Frames that spell nothing

A control frame does nothing at all, and bytes that spell no event are reported and passed over.  Since reports are
only written, a run with such a frame in it and the run without it differ by what is reported of the frame and in
nothing else, wherever it comes (`Frame.SpellsNothing.passedOver`).
-/
namespace ChatClient

namespace Frame

/-- **A frame that spells nothing**: a control frame, or bytes that spell no event, be they sent as a text or not. -/
inductive SpellsNothing : Frame → Prop where
  | control : SpellsNothing .control
  | text {bytes : List UInt8} {err : DecodeError} : (Text.Utf8.decode? bytes).isSome = true →
      (Event.ofBytes bytes).result = .error err → SpellsNothing (.text bytes)
  | binary {bytes : List UInt8} {err : DecodeError} : (Event.ofBytes bytes).result = .error err →
      SpellsNothing (.binary bytes)

def reports : Frame → List Diagnostic
  | .text bytes | .binary bytes => (Event.ofBytes bytes).leniently.1
  | .control | .close => []

variable {frame : Frame}

/-- **What is reported of a frame that spells nothing**: of a control frame nothing, and of any other one failure,
after reports about the names that it clears at most. -/
structure ReportsFailure (frame : Frame) : Prop where
  control : frame = .control → frame.reports = []
  other : frame ≠ .control → ∃ names kind error, frame.reports = names ++ [.decodeFailure kind error] ∧
    ∀ r ∈ names, r.isOfNames = true

theorem leniently_of_error {bytes : List UInt8} {err : DecodeError} (h : (Event.ofBytes bytes).result = .error err) :
    (Event.ofBytes bytes).leniently = ((Event.ofBytes bytes).reports ++ [err.diagnostic], none) := by
  unfold Decoding.leniently
  rw [h]

theorem SpellsNothing.reportsFailure (h : frame.SpellsNothing) : frame.ReportsFailure := by
  have hbytes {bytes : List UInt8} {err : DecodeError} (herr : (Event.ofBytes bytes).result = .error err) :
      ∃ names kind error, (Event.ofBytes bytes).leniently.1 = names ++ [.decodeFailure kind error] ∧
        ∀ r ∈ names, r.isOfNames = true := by
    rw [leniently_of_error herr]
    exact ⟨_, _, _, rfl, Event.reportsOnly_of_error herr⟩
  cases h with
  | control => exact ⟨fun _ => rfl, fun h => absurd rfl h⟩
  | text _ herr => exact ⟨nofun, fun _ => hbytes herr⟩
  | binary herr => exact ⟨nofun, fun _ => hbytes herr⟩

theorem SpellsNothing.event? (h : frame.SpellsNothing) : frame.event? = none := by
  have hbytes {bytes : List UInt8} {err : DecodeError} (herr : (Event.ofBytes bytes).result = .error err) :
      (Event.ofBytes bytes).leniently.2 = none := by rw [leniently_of_error herr]
  cases h with
  | control => rfl
  | text hdecoded herr => exact (if_pos hdecoded).trans (hbytes herr)
  | binary herr => exact hbytes herr

end Frame

variable {ρ : Type} {frame : Frame}

namespace Gateway

variable (g : Gateway ρ) (now : Instant)

/-! ## One frame -/

/-- What is reported of a frame that comes, if there is a socket that it comes over. -/
def reportsOf (frame : Frame) : List Diagnostic :=
  if g.state.hasSocket then frame.reports else []

theorem withReports_nil : g.withReports [] = g := by
  simp [withReports]

theorem read_of_error {beat : Option Beat} {bytes : List UInt8} {err : DecodeError}
    (h : (Event.ofBytes bytes).result = .error err) :
    g.read now beat bytes = (g.withReports (Event.ofBytes bytes).leniently.1, []) := by
  unfold read
  rw [Frame.leniently_of_error h]

/-- **A frame that spells nothing is reported and passed over.** -/
theorem step_of_spellsNothing (h : frame.SpellsNothing) :
    g.step now (.frame frame) = (g.withReports (g.reportsOf frame), []) := by
  unfold step reportsOf
  cases hlink : g.link with
  | online beat =>
    have hsocket : g.state.hasSocket = true := by
      rw [state, hlink]
      exact Link.hasSocket_online beat
    rw [if_pos hsocket]
    cases h with
    | control => exact congrArg (·, []) g.withReports_nil.symm
    | text hdecoded herr => exact (if_pos hdecoded).trans (g.read_of_error now herr)
    | binary herr => exact g.read_of_error now herr
  | _ =>
    have hsocket : g.state.hasSocket = false := by
      rw [state, hlink]
      rfl
    rw [hsocket]
    exact congrArg (·, []) g.withReports_nil.symm

theorem calls_of_spellsNothing (h : frame.SpellsNothing) : g.calls now (.frame frame) = [] := by
  unfold calls
  dsimp only
  rw [h.event?]
  cases g.link <;> rfl

/-! ## Runs -/

/-- **Two gateways differ by some reports**, which one of them made after those that both had made by then. -/
structure DifferBy (earlier reports : List Diagnostic) (g g' : Gateway ρ) : Prop where
  unreported : g'.unreported = g.unreported
  reports : ∃ later, g.dispatcher.reports = earlier ++ later ∧ g'.dispatcher.reports = earlier ++ reports ++ later

theorem run_withReports (reports : List Diagnostic) (inputs : List (Instant × GatewayInput)) :
    (g.withReports reports).run inputs =
      ((g.unreported.run inputs).1.after (g.dispatcher.reports ++ reports), (g.unreported.run inputs).2) :=
  (g.withReports reports).run_unreported inputs

theorem callsIn_withReports (reports : List Diagnostic) (inputs : List (Instant × GatewayInput)) :
    (g.withReports reports).callsIn inputs = g.callsIn inputs := by
  rw [g.callsIn_unreported, (g.withReports reports).callsIn_unreported]
  rfl

/-- **A frame is passed over** in a run: with it and without it the same is noticed, observers are called with the
same and the gateway comes to the same, but for what is reported of the frame at that time. -/
structure PassesOver (g : Gateway ρ) (before : List (Instant × GatewayInput)) (now : Instant) (frame : Frame)
    (later : List (Instant × GatewayInput)) : Prop where
  notices : (g.run (before ++ (now, .frame frame) :: later)).2 = (g.run (before ++ later)).2
  calls : g.callsIn (before ++ (now, .frame frame) :: later) = g.callsIn (before ++ later)
  differBy : DifferBy (g.run before).1.dispatcher.reports ((g.run before).1.reportsOf frame) (g.run (before ++ later)).1
    (g.run (before ++ (now, .frame frame) :: later)).1

theorem passesOver (h : frame.SpellsNothing) (before later : List (Instant × GatewayInput)) :
    g.PassesOver before now frame later := by
  have hstep := (g.run before).1.step_of_spellsNothing now h
  have hrun : g.run (before ++ (now, .frame frame) :: later) =
      ((((g.run before).1.withReports ((g.run before).1.reportsOf frame)).run later).1,
        (g.run before).2 ++ (((g.run before).1.withReports ((g.run before).1.reportsOf frame)).run later).2) := by
    rw [run_append, run_cons, hstep]
    rfl
  refine ⟨?_, ?_, ?_⟩
  · rw [hrun, run_append, run_withReports, (g.run before).1.run_unreported]
  · rw [callsIn_append, callsIn_append, callsIn, calls_of_spellsNothing _ now h, hstep, List.nil_append,
      callsIn_withReports]
  · rw [hrun, run_append, run_withReports, (g.run before).1.run_unreported]
    exact ⟨rfl, _, rfl, rfl⟩

end Gateway

/-! ## Among callers -/

namespace SharedGateway

variable (s : SharedGateway ρ) (now : Instant)

def withReports (reports : List Diagnostic) : SharedGateway ρ :=
  { s with gateway := s.gateway.withReports reports }

theorem step_of_spellsNothing (h : frame.SpellsNothing) :
    s.step now (.own (.frame frame)) = (s.withReports (s.gateway.reportsOf frame), []) :=
  own_of_same (s.gateway.step_of_spellsNothing now h) rfl nofun nofun nofun

theorem run_withReports (reports : List Diagnostic) (inputs : List (Instant × SharedInput)) :
    (s.withReports reports).run inputs =
      ((s.unreported.run inputs).1.after (s.gateway.dispatcher.reports ++ reports), (s.unreported.run inputs).2) :=
  (s.withReports reports).run_unreported inputs

theorem callsIn_withReports (reports : List Diagnostic) (inputs : List (Instant × SharedInput)) :
    (s.withReports reports).callsIn inputs = s.callsIn inputs := by
  rw [s.callsIn_unreported, (s.withReports reports).callsIn_unreported]
  rfl

/-- **A frame is passed over** by a gateway among its callers: the traffic is the same, too. -/
structure PassesOver (s : SharedGateway ρ) (before : List (Instant × SharedInput)) (now : Instant) (frame : Frame)
    (later : List (Instant × SharedInput)) : Prop where
  traffic : (s.run (before ++ (now, .own (.frame frame)) :: later)).2 = (s.run (before ++ later)).2
  calls : s.callsIn (before ++ (now, .own (.frame frame)) :: later) = s.callsIn (before ++ later)
  callers : { (s.run (before ++ (now, .own (.frame frame)) :: later)).1 with
    gateway := (s.run (before ++ later)).1.gateway } =
    (s.run (before ++ later)).1
  differBy : Gateway.DifferBy (s.run before).1.gateway.dispatcher.reports ((s.run before).1.gateway.reportsOf frame)
    (s.run (before ++ later)).1.gateway (s.run (before ++ (now, .own (.frame frame)) :: later)).1.gateway

theorem passesOver (h : frame.SpellsNothing) (before later : List (Instant × SharedInput)) :
    s.PassesOver before now frame later := by
  have hstep := (s.run before).1.step_of_spellsNothing now h
  have hrun : s.run (before ++ (now, .own (.frame frame)) :: later) =
      ((((s.run before).1.withReports ((s.run before).1.gateway.reportsOf frame)).run later).1,
        (s.run before).2 ++
          (((s.run before).1.withReports ((s.run before).1.gateway.reportsOf frame)).run later).2) := by
    rw [run_append, run_cons, hstep]
    rfl
  have hobserved : (s.run before).1.observed now (.own (.frame frame)) = [] :=
    (s.run before).1.gateway.calls_of_spellsNothing now h
  refine ⟨?_, ?_, ?_, ?_⟩
  · rw [hrun, run_append, run_withReports, (s.run before).1.run_unreported]
  · rw [callsIn_append, callsIn_append, callsIn, hobserved, hstep, List.nil_append, callsIn_withReports]
  · rw [hrun, run_append, run_withReports, (s.run before).1.run_unreported]
    rfl
  · rw [hrun, run_append, run_withReports, (s.run before).1.run_unreported]
    exact ⟨rfl, _, rfl, rfl⟩

end SharedGateway

/-- **A frame that spells nothing makes no difference but for its reports**, wherever it comes in the run of a
gateway, alone or among callers. -/
theorem Frame.SpellsNothing.passedOver (h : frame.SpellsNothing) :
    frame.ReportsFailure ∧
      (∀ (ρ : Type) (g : Gateway ρ) (before later : List (Instant × GatewayInput)) (now : Instant),
        g.PassesOver before now frame later) ∧
      ∀ (ρ : Type) (s : SharedGateway ρ) (before later : List (Instant × SharedInput)) (now : Instant),
        s.PassesOver before now frame later :=
  ⟨h.reportsFailure, fun _ g before later now => g.passesOver now h before later,
    fun _ s before later now => s.passesOver now h before later⟩

/-- An update of a channel under the name of a member, with two lists of names to clear and a name that channels do
not know. -/
def misnamedUpdate : Frame :=
  .text (Text.Utf8.encode
    ("\x7b\"type\":\"ChannelUpdate\",\"id\":\x7b\"server\":\"s\",\"user\":\"u\"\x7d,\"data\":\x7b\x7d," ++
    "\"clear\":[\"Hat\"],\"remove\":[\"Icon\"]\x7d"))

def unopenedGateway : Gateway Nat :=
  .ofConfig "t" {} (.ofCache (.empty .standard) .empty)

theorem passedOver_misnamedUpdate :
    misnamedUpdate.SpellsNothing ∧
      misnamedUpdate.reports.map (·.name) = ["ConflictingClearAndRemove", "UnknownClearField", "DecodeFailure"] ∧
      unopenedGateway.PassesOver [(.start, .launch true), (.start, .handshake)] .start misnamedUpdate
        [(.start, .lost)] ∧
      (unopenedGateway.run [(.start, .launch true), (.start, .handshake), (.start, .frame misnamedUpdate),
        (.start, .lost)]).1.dispatcher.reports = misnamedUpdate.reports := by
  have hspells : misnamedUpdate.SpellsNothing :=
    @Frame.SpellsNothing.text _ (.invalidId .channelUpdate "s:u") (by decide +kernel) (by rfl)
  obtain ⟨-, hgateway, -⟩ := hspells.passedOver
  exact ⟨hspells, by decide +kernel, hgateway Nat unopenedGateway _ _ .start, by decide +kernel⟩

end ChatClient
