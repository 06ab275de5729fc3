import ChatClient.Proofs.Event.Reports
import ChatClient.Proofs.Gateway.Outbox
/-!
# What a step does to the heartbeat

The heartbeat is touched in three places: the handshake makes it a fresh one, an event that is heard goes through the
pulse, and a tick that is due either hands a ping out or ends the session.  Any other step leaves it as it is
(`Gateway.HeartbeatStep`), and mismatches are reported by the pulse alone.
-/
namespace ChatClient

def Frame.event? : Frame → Option Event
  | .text bytes => if (Text.Utf8.decode? bytes).isSome then (Event.ofBytes bytes).leniently.2 else none
  | .binary bytes => (Event.ofBytes bytes).leniently.2
  | .control | .close => none

namespace Pulse

mutual

theorem reports_route (now : Instant) : ∀ (p : Pulse) (e : Event), ∀ r ∈ (route now p e).2, r.isMismatch = true
  | p, e => by
    cases e with
    | bulk events =>
      rw [route]
      exact reports_routeAll now p events
    | pong pong =>
      rw [route, Pulse.pong]
      dsimp only
      split
      · exact fun _ hr => nomatch hr
      · exact List.forall_mem_singleton.2 rfl
    | _ => simp [route]

theorem reports_routeAll (now : Instant) :
    ∀ (p : Pulse) (es : List Event), ∀ r ∈ (routeAll now p es).2, r.isMismatch = true
  | p, [] => by simp [routeAll]
  | p, e :: es => by
    rw [routeAll]
    exact List.forall_mem_append.2 ⟨reports_route now p e, reports_routeAll now _ es⟩

end

end Pulse

namespace Gateway

variable {ρ : Type} {g g' : Gateway ρ} {now : Instant} {input : GatewayInput}

def mismatches (g : Gateway ρ) : List Diagnostic :=
  g.dispatcher.reports.filter (·.isMismatch)

/-- **What a step does to the heartbeat**, to the pings of the session and to the reported mismatches. -/
inductive HeartbeatStep (g : Gateway ρ) (now : Instant) : GatewayInput → Gateway ρ → Prop where
  | began {g' : Gateway ρ} : g.link = .dialing → g'.link = .online none → g'.heartbeat = g.heartbeat.reset →
      g'.mismatches = g.mismatches → HeartbeatStep g now .handshake g'
  | heard {frame : Frame} {beat : Option Beat} {e : Event} {g' : Gateway ρ} : g.link = .online beat →
      frame.event? = some e → g'.link = .online (Pulse.route now ⟨g.heartbeat, beat⟩ e).1.beat →
      g'.heartbeat = (Pulse.route now ⟨g.heartbeat, beat⟩ e).1.heartbeat →
      g'.mismatches = g.mismatches ++ (Pulse.route now ⟨g.heartbeat, beat⟩ e).2 →
        HeartbeatStep g now (.frame frame) g'
  | drew {ticker : Ticker} {blocked : Option Nat} {g' : Gateway ρ} : g.link = .online (some ⟨ticker, none⟩) →
      ticker.isDue now = true → g.heartbeat.isOverdue now = false →
        g'.link = .online (some ⟨ticker.tick now, blocked⟩) →
      g'.heartbeat = (g.heartbeat.nextPing now).1 → g'.mismatches = g.mismatches → HeartbeatStep g now .clock g'
  | gaveUp {ticker : Ticker} {g' : Gateway ρ} : g.link = .online (some ⟨ticker, none⟩) → ticker.isDue now = true →
      g.heartbeat.isOverdue now = true → g'.link.state.hasSocket = false → g'.heartbeat = g.heartbeat →
      g'.mismatches = g.mismatches → HeartbeatStep g now .clock g'
  | kept {input : GatewayInput} {g' : Gateway ρ} :
      (∀ beat, g.link = .online beat → g.link.blocked? = none →
        g'.link = g.link ∨ g'.link.state.hasSocket = false) →
      (input = .handshake → g.link ≠ .dialing) →
      (∀ frame beat, input = .frame frame → g.link = .online beat → frame.event? = none) →
      (input = .clock → ∀ ticker, g.link = .online (some ⟨ticker, none⟩) →
        ticker.isDue now = false ∧ g'.link = g.link) →
      (g.dispatcher.outbox = none → g'.dispatcher.outbox = none) → g'.heartbeat = g.heartbeat →
        g'.mismatches = g.mismatches → HeartbeatStep g now input g'

theorem drawn?_eq_none (h : ∀ ticker, g.link = .online (some ⟨ticker, none⟩) → ticker.isDue now = false) :
    g.drawn? now = none := by
  unfold drawn?
  split
  · rename_i ticker hlink
    rw [h ticker hlink]
    rfl
  · rfl

theorem drawn?_eq_some {ticker : Ticker} (hlink : g.link = .online (some ⟨ticker, none⟩))
    (hdue : ticker.isDue now = true)
    (hoverdue : g.heartbeat.isOverdue now = false) : g.drawn? now = some (.pingOf g.heartbeat.count) := by
  unfold drawn?
  rw [hlink]
  simp only [hdue, hoverdue]
  rfl

/-! ## Each operation -/

theorem HeartbeatStep.idle (hhandshake : input = .handshake → g.link ≠ .dialing)
    (hframe : ∀ frame beat, input = .frame frame → g.link = .online beat → frame.event? = none)
    (hclock : input = .clock → ∀ ticker, g.link = .online (some ⟨ticker, none⟩) → ticker.isDue now = false) :
    HeartbeatStep g now input g :=
  .kept (fun _ _ _ => .inl rfl) hhandshake hframe
    (fun hinput ticker hlink => ⟨hclock hinput ticker hlink, rfl⟩) id rfl rfl

theorem heartbeatStep_launch (h : g.Wired) (now : Instant) (hasRuntime : Bool) :
    HeartbeatStep g now (.launch hasRuntime) (g.launch hasRuntime).1 := by
  unfold launch
  cases hrefusal : g.refusal? hasRuntime with
  | some e => exact .idle nofun nofun nofun
  | none =>
    obtain ⟨-, -, hopened⟩ := refusal?_eq_none hrefusal
    have hidle := h.sound.unopened hopened
    refine .kept (fun beat hlink => ?_) nofun nofun nofun id rfl rfl
    rw [hidle] at hlink
    cases hlink

theorem heartbeatStep_rest (hinput : input ≠ .handshake) (hclock : input ≠ .clock)
    (hframe : ∀ frame, input = .frame frame → frame.event? = none) : HeartbeatStep g now input (g.rest now).1 :=
  .kept (fun _ _ _ => .inr rfl) (fun h => absurd h hinput) (fun frame _ h _ => hframe frame h)
    (fun h => absurd h hclock) (fun _ => rfl) rfl rfl

theorem heartbeatStep_send (g : Gateway ρ) (now : Instant) (m : ClientMessage) :
    HeartbeatStep g now (.send m) (g.send m).1 := by
  unfold send
  split
  · rename_i outbox hoffer
    refine .kept (fun _ _ _ => .inl rfl) nofun nofun nofun (fun hnone => ?_) rfl rfl
    rw [hnone] at hoffer
    cases hoffer
  · exact .idle nofun nofun nofun

theorem mismatches_withReports {rs : List Diagnostic} (hrs : ∀ r ∈ rs, r.isOfReading = true) :
    (g.withReports rs).mismatches = g.mismatches := by
  unfold mismatches withReports
  rw [List.filter_append, Diagnostic.filter_isMismatch_of_reading hrs, List.append_nil]

theorem heartbeatStep_take {frame : Frame} {beat : Option Beat} {e : Event} {rs : List Diagnostic}
    (hlink : g.link = .online beat) (he : frame.event? = some e) (hrs : ∀ r ∈ rs, r.isOfReading = true) :
    HeartbeatStep g now (.frame frame) ((g.withReports rs).take now beat e).1 := by
  refine .heard hlink he rfl rfl ?_
  have hroute := List.filter_eq_self.2 (Pulse.reports_route now ⟨g.heartbeat, beat⟩ e)
  unfold take move mismatches
  dsimp only
  -- the reports of handling come last, and none of them counts
  obtain ⟨more, hmore, hall⟩ := Dispatcher.grumbles_dispatch (state _) (Gateway.dispatcher _) e
  rw [hmore, List.filter_append, Diagnostic.filter_isMismatch_of_handling hall, List.append_nil]
  simp [withReports, hroute, Diagnostic.filter_isMismatch_of_reading hrs]

theorem heartbeatStep_read {frame : Frame} {beat : Option Beat} {bytes : List UInt8} (hlink : g.link = .online beat)
    (hframe : frame.event? = (Event.ofBytes bytes).leniently.2) :
    HeartbeatStep g now (.frame frame) (g.read now beat bytes).1 := by
  have hrs := Event.reports_leniently bytes
  unfold read
  dsimp only
  cases he : (Event.ofBytes bytes).leniently.2 with
  | some e => exact heartbeatStep_take hlink (hframe.trans he) hrs
  | none =>
    refine .kept (fun _ _ _ => .inl rfl) nofun (fun frame' _ hinput _ => ?_) nofun id rfl (mismatches_withReports hrs)
    cases hinput
    rw [hframe, he]

theorem heartbeatStep_receive {beat : Option Beat} (hlink : g.link = .online beat) (frame : Frame) :
    HeartbeatStep g now (.frame frame) (g.receive now beat frame).1 := by
  unfold receive
  cases frame with
  | text bytes =>
    dsimp only
    split
    · rename_i hdecoded
      exact heartbeatStep_read hlink (if_pos hdecoded)
    · rename_i hdecoded
      refine heartbeatStep_rest nofun nofun fun frame hinput => ?_
      cases hinput
      exact if_neg hdecoded
  | binary bytes => exact heartbeatStep_read hlink rfl
  | control =>
    refine .idle nofun (fun frame _ hinput _ => ?_) nofun
    cases hinput
    rfl
  | close =>
    refine heartbeatStep_rest nofun nofun fun frame hinput => ?_
    cases hinput
    rfl

/-- A ping on its way changes the outbox and the place where it waits. -/
theorem ping_fst (g : Gateway ρ) (ticker : Ticker) (data : Nat) :
    (∃ blocked, (g.ping ticker data).link = .online (some ⟨ticker, blocked⟩)) ∧
      (g.ping ticker data).heartbeat = g.heartbeat ∧
      (g.ping ticker data).mismatches = g.mismatches := by
  unfold ping
  split
  · exact ⟨⟨none, rfl⟩, rfl, rfl⟩
  · exact ⟨⟨some data, rfl⟩, rfl, rfl⟩

theorem heartbeatStep_tick {ticker : Ticker} (hlink : g.link = .online (some ⟨ticker, none⟩))
    (hdue : ticker.isDue now = true) : HeartbeatStep g now .clock (g.tick now ticker).1 := by
  unfold tick
  cases hoverdue : g.heartbeat.isOverdue now with
  | true => exact .gaveUp hlink hdue hoverdue rfl rfl rfl
  | false =>
    obtain ⟨⟨blocked, hto⟩, hheartbeat, hmismatches⟩ :=
      ping_fst { g with heartbeat := (g.heartbeat.nextPing now).1 } (ticker.tick now) (g.heartbeat.nextPing now).2
    exact .drew hlink hdue hoverdue hto hheartbeat hmismatches

theorem heartbeatStep_write {beat : Option Beat} (hlink : g.link = .online beat) :
    HeartbeatStep g now .write (g.write beat).1 := by
  unfold write
  split
  · exact .idle nofun nofun nofun
  · rename_i outbox hwrite
    have hsome : g.dispatcher.outbox ≠ none := fun hnone => by simp [hnone] at hwrite
    dsimp only
    split
    · rename_i ticker data
      obtain ⟨-, hheartbeat, hmismatches⟩ := ping_fst (g.withOutbox (some outbox)) ticker data
      refine .kept (fun beat _ hblocked => ?_) nofun nofun nofun
        (fun hnone => absurd hnone hsome) hheartbeat hmismatches
      rw [hlink] at hblocked
      cases hblocked
    · exact .kept (fun _ _ _ => .inl rfl) nofun nofun nofun (fun hnone => absurd hnone hsome) rfl rfl

/-- **A step does one of these things to the heartbeat**, whatever the input. -/
theorem heartbeatStep_step (h : g.Wired) (now : Instant) (input : GatewayInput) :
    HeartbeatStep g now input (g.step now input).1 := by
  unfold step
  split
  case h_1 _ hasRuntime => exact heartbeatStep_launch h now hasRuntime
  case h_2 => exact .kept (fun _ _ _ => .inr rfl) nofun nofun nofun (fun _ => rfl) rfl rfl
  case h_3 _ m => exact heartbeatStep_send g now m
  case h_4 => exact heartbeatStep_rest nofun nofun nofun
  case h_5 hlink => exact .began hlink rfl rfl rfl
  case h_6 frame beat hlink => exact heartbeatStep_receive hlink frame
  case h_7 => exact heartbeatStep_rest nofun nofun nofun
  case h_8 beat hlink => exact heartbeatStep_write hlink
  case h_9 ticker hlink =>
    split
    · rename_i hdue
      exact heartbeatStep_tick hlink hdue
    · rename_i hdue
      refine .idle nofun nofun fun _ other hother => ?_
      rw [hlink] at hother
      cases hother
      exact Bool.eq_false_iff.2 hdue
  case h_10 deadline hlink =>
    have hresting (beat : Option Beat) : g.link ≠ .online beat := by simp [hlink]
    split
    · exact .kept (fun beat h => absurd h (hresting beat)) nofun nofun (fun _ _ h => absurd h (hresting _)) id rfl rfl
    · exact .idle nofun nofun fun _ _ h => absurd h (hresting _)
  case h_11 _ _ _ _ hhandshake hframe _ _ hclock _ =>
    -- any other input at any other place of the link comes to nothing
    refine .idle (fun hinput hlink => hhandshake hinput hlink)
      (fun frame beat hinput hlink => ?_) fun hinput ticker hlink => ?_
    · exact (hframe frame beat hinput hlink).elim
    · exact (hclock ticker hinput hlink).elim

/-! ## Mismatches -/

def newMismatches (g : Gateway ρ) (now : Instant) : GatewayInput → List Diagnostic
  | .frame frame =>
    match g.link, frame.event? with
    | .online beat, some e => (Pulse.route now ⟨g.heartbeat, beat⟩ e).2
    | _, _ => []
  | _ => []

theorem mismatches_step (h : g.Wired) (now : Instant) (input : GatewayInput) :
    (g.step now input).1.mismatches = g.mismatches ++ g.newMismatches now input := by
  have hstep := heartbeatStep_step h now input
  generalize (g.step now input).1 = g' at hstep
  cases hstep with
  | heard hlink he _ _ hmismatches => simp only [newMismatches, hlink, he, hmismatches]
  | began _ _ _ hmismatches | drew _ _ _ _ _ hmismatches | gaveUp _ _ _ _ _ hmismatches =>
    exact hmismatches.trans (List.append_nil _).symm
  | kept _ _ hframe _ _ _ hmismatches =>
    have hnone : g.newMismatches now input = [] := by
      cases input with
      | frame frame =>
        cases hlink : g.link with
        | online beat => simp only [newMismatches, hlink, hframe frame beat rfl hlink]
        | _ => simp only [newMismatches, hlink]
      | _ => rfl
    rw [hnone, hmismatches, List.append_nil]

end Gateway

end ChatClient
