import ChatClient.Proofs.Dispatch.Leaves
import ChatClient.Proofs.Gateway.Path
import ChatClient.Proofs.Gateway.HeartbeatStep
/-!
# Reports are only written

Nothing that a gateway does rests on what it has reported.  With further reports before its own it does the same with
the same inputs, calls its observers with the same, and has those reports before its own again (`Gateway.run_after`);
so it is among callers (`SharedGateway.run_after`).
-/
namespace ChatClient

variable {ρ : Type} (earlier : List Diagnostic)

/-! ## Earlier reports -/

namespace Dispatcher

variable (state : ConnectionState)

def after (d : Dispatcher ρ) : Dispatcher ρ :=
  { d with reports := earlier ++ d.reports }

theorem call_after (event : Event) (d : Dispatcher ρ) (o : Observer ρ) :
    call state event (d.after earlier) o = (call state event d o).after earlier := by
  simp only [call, after, List.append_assoc]
  rfl

theorem foldl_call_after (event : Event) (os : List (Observer ρ)) (d : Dispatcher ρ) :
    os.foldl (call state event) (d.after earlier) = (os.foldl (call state event) d).after earlier ∧
      callsOf state event (d.after earlier) os = callsOf state event d os := by
  induction os generalizing d with
  | nil => exact ⟨rfl, rfl⟩
  | cons o os ih =>
    obtain ⟨hfold, hcalls⟩ := ih (call state event d o)
    rw [List.foldl_cons, callsOf, call_after]
    exact ⟨hfold, congrArg (_ :: ·) hcalls⟩

theorem apply_after (event : Event) (d : Dispatcher ρ) :
    ((d.after earlier).apply event).1 = (d.apply event).1.after earlier := by
  simp only [apply, after, List.append_assoc]

/-- Handling an event comes to the same, and so do the calls of observers. -/
theorem dispatch_after (e : Event) (d : Dispatcher ρ) :
    dispatch state (d.after earlier) e = (dispatch state d e).after earlier ∧
      calls state (d.after earlier) e = calls state d e := by
  induction e using Event.bulkInduction generalizing d with
  | leaf e h =>
    rw [dispatch_of_ne _ _ h, dispatch_of_ne _ _ h, calls_of_ne _ _ h, calls_of_ne _ _ h, apply_after]
    exact foldl_call_after earlier state e _ _
  | bulk es ih =>
    rw [dispatch, dispatch, calls, calls]
    induction es generalizing d with
    | nil => simp [dispatchAll, callsAll]
    | cons e es ihes =>
      obtain ⟨hhead, htail⟩ := List.forall_mem_cons.1 ih
      obtain ⟨hdispatch, hcalls⟩ := hhead d
      obtain ⟨hall, hcallsAll⟩ := ihes htail (dispatch state d e)
      rw [dispatchAll, dispatchAll, callsAll, callsAll, hdispatch, hcalls, hall, hcallsAll]
      exact ⟨rfl, rfl⟩

end Dispatcher

namespace Gateway

variable (g : Gateway ρ) (now : Instant)

def after : Gateway ρ :=
  { g with dispatcher := g.dispatcher.after earlier }

def unreported : Gateway ρ :=
  { g with dispatcher := { g.dispatcher with reports := [] } }

theorem after_unreported : g.unreported.after g.dispatcher.reports = g := by
  simp [after, unreported, Dispatcher.after]

theorem link_after : (g.after earlier).link = g.link := rfl

theorem heartbeat_after : (g.after earlier).heartbeat = g.heartbeat := rfl

theorem outbox_after : (g.after earlier).dispatcher.outbox = g.dispatcher.outbox := rfl

theorem withReports_after (rs : List Diagnostic) :
    (g.after earlier).withReports rs = (g.withReports rs).after earlier := by
  simp only [withReports, after, Dispatcher.after, List.append_assoc]

theorem move_after (link : Link) : (g.after earlier).move link = ((g.move link).1.after earlier, (g.move link).2) := rfl

theorem dispatched_after (state : ConnectionState) (e : Event) :
    { g.after earlier with dispatcher := (g.after earlier).dispatcher.dispatch state e } =
      { g with dispatcher := g.dispatcher.dispatch state e }.after earlier :=
  congrArg (fun dispatcher => { g with dispatcher }) (Dispatcher.dispatch_after earlier state e g.dispatcher).1

theorem launch_after (hasRuntime : Bool) :
    (g.after earlier).launch hasRuntime = ((g.launch hasRuntime).1.after earlier, (g.launch hasRuntime).2) := by
  have hrefusal : (g.after earlier).refusal? hasRuntime = g.refusal? hasRuntime := rfl
  unfold launch
  rw [hrefusal]
  cases g.refusal? hasRuntime with
  | some e => rfl
  | none => rfl

theorem send_after (m : ClientMessage) : (g.after earlier).send m = ((g.send m).1.after earlier, (g.send m).2) := by
  unfold send
  rw [outbox_after]
  cases Outbox.offer g.dispatcher.outbox m with
  | ok outbox => rfl
  | error e => rfl

theorem ping_after (ticker : Ticker) (data : Nat) :
    (g.after earlier).ping ticker data = (g.ping ticker data).after earlier := by
  unfold ping
  rw [outbox_after]
  cases Outbox.offer g.dispatcher.outbox (.ping (UInt64.ofNat data)) with
  | ok outbox => rfl
  | error e => rfl

theorem tick_after (ticker : Ticker) :
    (g.after earlier).tick now ticker = ((g.tick now ticker).1.after earlier, (g.tick now ticker).2) := by
  unfold tick
  rw [heartbeat_after]
  split
  · rfl
  · exact congrArg (·, []) (ping_after earlier { g with heartbeat := (g.heartbeat.nextPing now).1 } _ _)

theorem write_after (beat : Option Beat) :
    (g.after earlier).write beat = ((g.write beat).1.after earlier, (g.write beat).2) := by
  unfold write
  rw [outbox_after]
  cases g.dispatcher.outbox.bind Outbox.write? with
  | none => rfl
  | some written =>
    rcases beat with - | ⟨ticker, - | data⟩
    · rfl
    · rfl
    · exact congrArg (·, [Notice.wrote written.1]) (ping_after earlier (g.withOutbox (some written.2)) ticker data)

theorem take_after (beat : Option Beat) (e : Event) :
    (g.after earlier).take now beat e = ((g.take now beat e).1.after earlier, (g.take now beat e).2) := by
  unfold take
  rw [heartbeat_after]
  obtain ⟨pulse, reports⟩ := Pulse.route now ⟨g.heartbeat, beat⟩ e
  have hheard : { g.after earlier with heartbeat := pulse.heartbeat }.withReports reports =
      ({ g with heartbeat := pulse.heartbeat }.withReports reports).after earlier :=
    withReports_after earlier { g with heartbeat := pulse.heartbeat } reports
  dsimp only
  rw [hheard, move_after]
  exact congrArg (·, _) (dispatched_after earlier _ _ e)

theorem read_after (beat : Option Beat) (bytes : List UInt8) :
    (g.after earlier).read now beat bytes = ((g.read now beat bytes).1.after earlier, (g.read now beat bytes).2) := by
  unfold read
  dsimp only
  rw [withReports_after]
  cases (Event.ofBytes bytes).leniently.2 with
  | some e => exact take_after earlier _ now beat e
  | none => rfl

theorem receive_after (beat : Option Beat) (frame : Frame) :
    (g.after earlier).receive now beat frame =
      ((g.receive now beat frame).1.after earlier, (g.receive now beat frame).2) := by
  unfold receive
  cases frame with
  | text bytes =>
    dsimp only
    split
    · exact read_after earlier g now beat bytes
    · rfl
  | binary bytes => exact read_after earlier g now beat bytes
  | control => rfl
  | close => rfl

/-- **A step does not rest on what was reported before.** -/
theorem step_after (input : GatewayInput) :
    (g.after earlier).step now input = ((g.step now input).1.after earlier, (g.step now input).2) := by
  unfold step
  rw [link_after]
  cases input with
  | launch hasRuntime => exact launch_after earlier g hasRuntime
  | send m => exact send_after earlier g m
  | frame frame =>
    cases g.link with
    | online beat => exact receive_after earlier g now beat frame
    | _ => rfl
  | write =>
    cases g.link with
    | online beat => exact write_after earlier g beat
    | _ => rfl
  | clock =>
    cases g.link with
    | online beat =>
      rcases beat with - | ⟨ticker, - | data⟩
      · rfl
      · dsimp only
        split
        · exact tick_after earlier g now ticker
        · rfl
      · rfl
    | resting deadline =>
      dsimp only
      split <;> rfl
    | _ => rfl
  | _ => cases g.link <;> rfl

theorem run_after (inputs : List (Instant × GatewayInput)) :
    (g.after earlier).run inputs = ((g.run inputs).1.after earlier, (g.run inputs).2) := by
  induction inputs generalizing g with
  | nil => rfl
  | cons input inputs ih =>
    obtain ⟨now, input⟩ := input
    rw [run_cons, run_cons, step_after, ih]

/-- A run is the run without earlier reports, and then these come first. -/
theorem run_unreported (inputs : List (Instant × GatewayInput)) :
    g.run inputs = ((g.unreported.run inputs).1.after g.dispatcher.reports, (g.unreported.run inputs).2) := by
  have hrun := run_after g.dispatcher.reports g.unreported inputs
  rwa [after_unreported] at hrun

/-! ## Calls of observers -/

/-- The calls of observers that a step comes with: those with the event that a frame spells, in the state that the
event puts the connection into. -/
def calls : GatewayInput → List (Call ρ)
  | .frame frame =>
    match g.link, frame.event? with
    | .online beat, some e => g.dispatcher.calls (Link.online (Pulse.route now ⟨g.heartbeat, beat⟩ e).1.beat).state e
    | _, _ => []
  | _ => []

def callsIn (g : Gateway ρ) : List (Instant × GatewayInput) → List (Call ρ)
  | [] => []
  | (now, input) :: inputs => g.calls now input ++ (g.step now input).1.callsIn inputs

theorem calls_after (input : GatewayInput) : (g.after earlier).calls now input = g.calls now input := by
  cases input with
  | frame frame =>
    unfold calls
    dsimp only
    rw [link_after, heartbeat_after]
    cases g.link with
    | online beat =>
      cases frame.event? with
      | none => rfl
      | some e => exact (Dispatcher.dispatch_after earlier _ e g.dispatcher).2
    | _ => rfl
  | _ => rfl

theorem callsIn_after (inputs : List (Instant × GatewayInput)) :
    (g.after earlier).callsIn inputs = g.callsIn inputs := by
  induction inputs generalizing g with
  | nil => rfl
  | cons input inputs ih =>
    obtain ⟨now, input⟩ := input
    rw [callsIn, calls_after, step_after, ih, callsIn]

theorem callsIn_unreported (inputs : List (Instant × GatewayInput)) :
    g.callsIn inputs = g.unreported.callsIn inputs := by
  have hcalls := callsIn_after g.dispatcher.reports g.unreported inputs
  rwa [after_unreported] at hcalls

theorem callsIn_append (before later : List (Instant × GatewayInput)) :
    g.callsIn (before ++ later) = g.callsIn before ++ (g.run before).1.callsIn later := by
  induction before generalizing g with
  | nil => rfl
  | cons input before ih =>
    obtain ⟨now, input⟩ := input
    rw [List.cons_append, callsIn, ih, callsIn, List.append_assoc, run_cons]

end Gateway

/-! ## Among callers -/

namespace SharedGateway

variable (s : SharedGateway ρ) (now : Instant)

def after : SharedGateway ρ :=
  { s with gateway := s.gateway.after earlier }

def unreported : SharedGateway ρ :=
  { s with gateway := s.gateway.unreported }

theorem after_unreported : s.unreported.after s.gateway.dispatcher.reports = s :=
  congrArg (fun gateway => { s with gateway }) s.gateway.after_unreported

theorem withQueue_after (o : Outbox) : (s.after earlier).withQueue o = (s.withQueue o).after earlier := by
  have hattached : (s.after earlier).gateway.isAttached = s.gateway.isAttached := rfl
  unfold withQueue
  rw [hattached]
  split <;> rfl

theorem unblocked_after : (s.after earlier).unblocked = s.unblocked.after earlier := by
  have hattached : (s.after earlier).gateway.isAttached = s.gateway.isAttached := rfl
  unfold unblocked
  rw [hattached]
  split <;> rfl

theorem queue?_after : (s.after earlier).queue? = s.queue? := rfl

theorem blocked?_after : (s.after earlier).blocked? = s.blocked? := rfl

theorem call_after (m : ClientMessage) (waits : Bool) :
    (s.after earlier).call m waits = ((s.call m waits).1.after earlier, (s.call m waits).2) := by
  have hattached : (s.after earlier).gateway.isAttached = s.gateway.isAttached := rfl
  unfold call
  rw [hattached]
  split <;> rfl

theorem put_after (place : Nat) : (s.after earlier).put place = ((s.put place).1.after earlier, (s.put place).2) := by
  have hheld : (s.after earlier).held = s.held := rfl
  have hsession : (s.after earlier).session = s.session := rfl
  unfold put
  rw [hheld, hsession, queue?_after]
  cases s.held[place]? with
  | none => rfl
  | some c =>
    dsimp only
    cases Outbox.offer (if c.session = s.session then s.queue? else none) c.message with
    | ok o =>
      dsimp only
      rw [withQueue_after]
      rfl
    | error e =>
      dsimp only
      split <;> rfl

theorem write_after : (s.after earlier).write = (s.write.1.after earlier, s.write.2) := by
  unfold write
  rw [queue?_after]
  cases s.queue?.bind Outbox.write? with
  | none => rfl
  | some written => exact congrArg (·, [Traffic.wrote s.session written.1]) (withQueue_after earlier s written.2)

theorem ping_after : (s.after earlier).ping = (s.ping.1.after earlier, s.ping.2) := by
  unfold ping
  rw [blocked?_after, queue?_after]
  cases s.blocked? with
  | none => rfl
  | some m =>
    dsimp only
    cases Outbox.offer s.queue? m with
    | ok o =>
      dsimp only
      rw [withQueue_after, unblocked_after]
      rfl
    | error e => rfl

theorem lateTick_after : (s.after earlier).lateTick now = ((s.lateTick now).1.after earlier, (s.lateTick now).2) := by
  have houtbox : (s.after earlier).gateway.dispatcher.outbox = s.gateway.dispatcher.outbox := rfl
  have hleftover : (s.after earlier).leftover = s.leftover := rfl
  have hheartbeat : (s.after earlier).gateway.heartbeat = s.gateway.heartbeat := rfl
  unfold lateTick
  rw [houtbox, hleftover, hheartbeat]
  split
  · split <;> rfl
  · rfl

theorem own_after (input : GatewayInput) :
    (s.after earlier).own now input = ((s.own now input).1.after earlier, (s.own now input).2) := by
  have hstep : (s.after earlier).gateway.step now input = _ := s.gateway.step_after earlier now input
  have hbefore : (s.after earlier).gateway.dispatcher.outbox = s.gateway.dispatcher.outbox := rfl
  unfold own
  rw [hstep, hbefore]
  dsimp only
  rw [Gateway.outbox_after]
  split <;> rfl

/-- **A step does not rest on what was reported before**, nor does the traffic. -/
theorem step_after (input : SharedInput) :
    (s.after earlier).step now input = ((s.step now input).1.after earlier, (s.step now input).2) := by
  unfold step
  cases input with
  | own input => exact own_after earlier s now input
  | call m waits => exact call_after earlier s m waits
  | put place => exact put_after earlier s place
  | abandon place => rfl
  | write => exact write_after earlier s
  | ping => exact ping_after earlier s
  | lateTick => exact lateTick_after earlier s now
  | stop => rfl

theorem run_cons (input : SharedInput) (inputs : List (Instant × SharedInput)) :
    s.run ((now, input) :: inputs) =
      (((s.step now input).1.run inputs).1, (s.step now input).2 ++ ((s.step now input).1.run inputs).2) := rfl

theorem run_append (before later : List (Instant × SharedInput)) :
    s.run (before ++ later) = (((s.run before).1.run later).1, (s.run before).2 ++ ((s.run before).1.run later).2) := by
  induction before generalizing s with
  | nil => rfl
  | cons input before ih =>
    obtain ⟨now, input⟩ := input
    rw [List.cons_append, run_cons, run_cons, ih, List.append_assoc]

theorem run_after (inputs : List (Instant × SharedInput)) :
    (s.after earlier).run inputs = ((s.run inputs).1.after earlier, (s.run inputs).2) := by
  induction inputs generalizing s with
  | nil => rfl
  | cons input inputs ih =>
    obtain ⟨now, input⟩ := input
    rw [run_cons, run_cons, step_after, ih]

theorem run_unreported (inputs : List (Instant × SharedInput)) :
    s.run inputs = ((s.unreported.run inputs).1.after s.gateway.dispatcher.reports, (s.unreported.run inputs).2) := by
  have hrun := run_after s.gateway.dispatcher.reports s.unreported inputs
  rwa [after_unreported] at hrun

def observed : SharedInput → List (Call ρ)
  | .own input => s.gateway.calls now input
  | _ => []

def callsIn (s : SharedGateway ρ) : List (Instant × SharedInput) → List (Call ρ)
  | [] => []
  | (now, input) :: inputs => s.observed now input ++ (s.step now input).1.callsIn inputs

theorem observed_after (input : SharedInput) : (s.after earlier).observed now input = s.observed now input := by
  cases input with
  | own input => exact s.gateway.calls_after earlier now input
  | _ => rfl

theorem callsIn_after (inputs : List (Instant × SharedInput)) :
    (s.after earlier).callsIn inputs = s.callsIn inputs := by
  induction inputs generalizing s with
  | nil => rfl
  | cons input inputs ih =>
    obtain ⟨now, input⟩ := input
    rw [callsIn, observed_after, step_after, ih, callsIn]

theorem callsIn_unreported (inputs : List (Instant × SharedInput)) :
    s.callsIn inputs = s.unreported.callsIn inputs := by
  have hcalls := callsIn_after s.gateway.dispatcher.reports s.unreported inputs
  rwa [after_unreported] at hcalls

theorem callsIn_append (before later : List (Instant × SharedInput)) :
    s.callsIn (before ++ later) = s.callsIn before ++ (s.run before).1.callsIn later := by
  induction before generalizing s with
  | nil => rfl
  | cons input before ih =>
    obtain ⟨now, input⟩ := input
    rw [List.cons_append, callsIn, ih, callsIn, List.append_assoc, run_cons]

end SharedGateway

end ChatClient
