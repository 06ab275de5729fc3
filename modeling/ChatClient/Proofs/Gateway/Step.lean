import ChatClient.Gateway.Step
/-!
# What a step can do

Every input comes to one of eight things (`Advance`): the gateway is opened or refuses to be, it is closed, it leaves
the socket for a rest, it gets a socket, it is authenticated, it is dialled again, or it stays in the state that it is
in.  One lemma says so for every gateway and every input (`advance_step`), and what holds of whole runs is read off
it.
-/
namespace ChatClient

/-! ## Authentication -/

namespace Pulse

mutual

/-- **Pings go on once they have started, and only an `Authenticated` starts them**, alone or at any depth of a bulk. -/
theorem route_beat (now : Instant) : ∀ (p : Pulse) (e : Event),
    (route now p e).1.beat.isSome = true ↔ p.beat.isSome = true ∨ Event.authenticated ∈ e.leaves
  | p, e => by
    cases e with
    | bulk events =>
      rw [route, Event.leaves]
      exact routeAll_beat now p events
    | authenticated =>
      cases hp : p.beat <;> simp [route, start, hp, Event.leaves]
    | pong pong => simp [route, Pulse.pong, Event.leaves]
    | _ => simp [route, Event.leaves]

theorem routeAll_beat (now : Instant) : ∀ (p : Pulse) (es : List Event),
    (routeAll now p es).1.beat.isSome = true ↔ p.beat.isSome = true ∨ Event.authenticated ∈ Event.leavesOf es
  | p, [] => by simp [routeAll, Event.leavesOf]
  | p, e :: es => by
    rw [routeAll, Event.leavesOf, List.mem_append, ← or_assoc, ← route_beat now p e]
    exact routeAll_beat now _ es

end

end Pulse

def Frame.Authenticates (frame : Frame) : Prop :=
  ∃ bytes e, (frame = .text bytes ∨ frame = .binary bytes) ∧ (Event.ofBytes bytes).leniently.2 = some e ∧
    Event.authenticated ∈ e.leaves

def Notice.state? : Notice → Option ConnectionState
  | .entered state => some state
  | _ => none

/-- Whether the owner asks for the gateway to be opened or closed. -/
def GatewayInput.isCommand : GatewayInput → Bool
  | .launch _ | .close => true
  | _ => false

theorem GatewayInput.isCommand_eq_false {input : GatewayInput}
    (hlaunch : ∀ hasRuntime, input = .launch hasRuntime → False)
    (hclose : input = .close → False) : input.isCommand = false := by
  cases input with
  | launch hasRuntime => exact (hlaunch hasRuntime rfl).elim
  | close => exact (hclose rfl).elim
  | _ => rfl

namespace Gateway

variable {ρ : Type}

/-! ## The ways to go on -/

structure Kept (g g' : Gateway ρ) : Prop where
  config : g'.config = g.config
  isOpened : g'.isOpened = g.isOpened
  isClosed : g'.isClosed = g.isClosed

def entering (link link' : Link) : List Notice :=
  if link'.state = link.state then [] else [.entered link'.state]

/-- **What a step comes to.**  Each way says what it takes, where the link goes, and what is noticed. -/
inductive Advance (g : Gateway ρ) (now : Instant) : GatewayInput → Gateway ρ → List Notice → Prop where
  | refused {hasRuntime : Bool} {e : GatewayError} : g.refusal? hasRuntime = some e →
      Advance g now (.launch hasRuntime) g [.notOpened e]
  | opened {hasRuntime : Bool} {g' : Gateway ρ} : g.refusal? hasRuntime = none → g'.config = g.config →
      g'.isOpened = true → g'.isClosed = g.isClosed → g'.link = .dialing →
      Advance g now (.launch hasRuntime) g' (.opened :: entering g.link .dialing)
  | closed {g' : Gateway ρ} : g'.config = g.config → g'.isOpened = g.isOpened → g'.isClosed = true →
      g'.link = .idle → Advance g now .close g' (entering g.link .idle)
  | rested {input : GatewayInput} {g' : Gateway ρ} : input.isCommand = false → Kept g g' →
      (g.link = .dialing ∨ ∃ beat, g.link = .online beat) →
      g'.link = .resting (now.plus g.config.reconnectInterval) → Advance g now input g' [.entered .reconnecting]
  | handshaken {g' : Gateway ρ} : Kept g g' → g.link = .dialing → g'.link = .online none →
      Advance g now .handshake g' [.entered .authenticating, .wrote (.authenticate g.token)]
  | authenticated {frame : Frame} {beat : Beat} {g' : Gateway ρ} : Kept g g' → g.link = .online none →
      frame.Authenticates → g'.link = .online (some beat) → Advance g now (.frame frame) g' [.entered .connected]
  | redialled {deadline : Instant} {g' : Gateway ρ} : Kept g g' → g.link = .resting deadline →
      deadline.hasCome now = true → g'.link = .dialing → Advance g now .clock g' [.entered .connecting]
  | stayed {input : GatewayInput} {g' : Gateway ρ} {notices : List Notice} : input.isCommand = false → Kept g g' →
      g'.link.state = g.link.state →
      (∀ deadline, g.link = .resting deadline →
        g'.link = .resting deadline ∧ (input = .clock → deadline.hasCome now = false)) →
      (∀ n ∈ notices, n.state? = none ∧ n ≠ .opened) → Advance g now input g' notices

theorem eq_of_mem_entering {link link' : Link} {n : Notice} (h : n ∈ entering link link') :
    n = .entered link'.state := by
  unfold entering at h
  split at h
  · cases h
  · exact List.mem_singleton.1 h

theorem Kept.refl (g : Gateway ρ) : Kept g g :=
  ⟨rfl, rfl, rfl⟩

theorem move_eq (g : Gateway ρ) (link : Link) : g.move link = ({ g with link }, entering g.link link) := rfl

variable {g : Gateway ρ} {now : Instant}

theorem Advance.idle {input : GatewayInput} (hinput : input.isCommand = false)
    (hclock : ∀ deadline, g.link = .resting deadline → input = .clock → deadline.hasCome now = false) :
    Advance g now input g [] :=
  .stayed hinput (.refl g) rfl (fun deadline h => ⟨h, hclock deadline h⟩) fun _ hn => nomatch hn

theorem Advance.online {input : GatewayInput} {g' : Gateway ρ} {notices : List Notice} {beat : Option Beat}
    (hinput : input.isCommand = false) (hkept : Kept g g') (hlink : g.link = .online beat)
    (hstate : g'.link.state = g.link.state) (hnotices : ∀ n ∈ notices, n.state? = none ∧ n ≠ .opened) :
    Advance g now input g' notices :=
  .stayed hinput hkept hstate (fun deadline h => by rw [hlink] at h; cases h) hnotices

/-! ## Each operation -/

theorem advance_launch (g : Gateway ρ) (now : Instant) (hasRuntime : Bool) :
    Advance g now (.launch hasRuntime) (g.launch hasRuntime).1 (g.launch hasRuntime).2 := by
  unfold launch
  cases h : g.refusal? hasRuntime with
  | some e => exact .refused h
  | none =>
    dsimp only
    rw [move_eq]
    exact .opened h rfl rfl rfl rfl

theorem advance_close (g : Gateway ρ) (now : Instant) : Advance g now .close g.close.1 g.close.2 := by
  unfold close
  rw [move_eq]
  exact .closed rfl rfl rfl rfl

theorem advance_rest {input : GatewayInput} (hinput : input.isCommand = false)
    (hlink : g.link = .dialing ∨ ∃ beat, g.link = .online beat) :
    Advance g now input (g.rest now).1 (g.rest now).2 := by
  have hnotices : entering g.link (.resting (now.plus g.config.reconnectInterval)) = [.entered .reconnecting] := by
    rcases hlink with h | ⟨beat, h⟩
    · rw [h]
      rfl
    · rw [h]
      cases beat <;> rfl
  unfold rest
  rw [move_eq]
  dsimp only [withOutbox]
  rw [hnotices]
  exact .rested hinput ⟨rfl, rfl, rfl⟩ hlink rfl

theorem advance_send (g : Gateway ρ) (now : Instant) (message : ClientMessage) :
    Advance g now (.send message) (g.send message).1 (g.send message).2 := by
  unfold send
  split
  · refine .stayed rfl ⟨rfl, rfl, rfl⟩ rfl (fun deadline h => ⟨h, fun hclock => nomatch hclock⟩) ?_
    simp [Notice.state?]
  · refine .stayed rfl (.refl g) rfl (fun deadline h => ⟨h, fun hclock => nomatch hclock⟩) ?_
    simp [Notice.state?]

theorem advance_handshake (hlink : g.link = .dialing) :
    Advance g now .handshake g.handshake.1 g.handshake.2 := by
  unfold handshake
  rw [move_eq]
  dsimp only
  rw [hlink]
  exact .handshaken ⟨rfl, rfl, rfl⟩ hlink rfl

/-- An event that a frame spells authenticates the client the first time that there is an `Authenticated` in it. -/
theorem advance_take {frame : Frame} {beat : Option Beat} {bytes : List UInt8} {e : Event}
    (hlink : g.link = .online beat)
    (hframe : frame = .text bytes ∨ frame = .binary bytes) (he : (Event.ofBytes bytes).leniently.2 = some e)
    (reports : List Diagnostic) :
    Advance g now (.frame frame) ((g.withReports reports).take now beat e).1
      ((g.withReports reports).take now beat e).2 := by
  have hbeat := Pulse.route_beat now ⟨g.heartbeat, beat⟩ e
  unfold take
  simp only [move_eq, withReports, hlink]
  cases beat with
  | some b =>
    -- the pings have started before, so that nothing more is published
    obtain ⟨b', hb'⟩ := Option.isSome_iff_exists.1 (hbeat.2 (.inl rfl))
    rw [hb']
    refine .online rfl ⟨rfl, rfl, rfl⟩ hlink (by rw [hlink]; rfl) ?_
    simp [entering, Link.state]
  | none =>
    cases hafter : (Pulse.route now ⟨g.heartbeat, none⟩ e).1.beat with
    | none =>
      refine .online rfl ⟨rfl, rfl, rfl⟩ hlink (by rw [hlink]) ?_
      simp [entering]
    | some b' =>
      rw [hafter] at hbeat
      have hleaf : Event.authenticated ∈ e.leaves := by
        rcases hbeat.1 rfl with h | h
        · cases h
        · exact h
      exact .authenticated ⟨rfl, rfl, rfl⟩ hlink ⟨bytes, e, hframe, he, hleaf⟩ rfl

theorem advance_read {frame : Frame} {beat : Option Beat} {bytes : List UInt8} (hlink : g.link = .online beat)
    (hframe : frame = .text bytes ∨ frame = .binary bytes) :
    Advance g now (.frame frame) (g.read now beat bytes).1 (g.read now beat bytes).2 := by
  unfold read
  dsimp only
  cases he : (Event.ofBytes bytes).leniently.2 with
  | some e => exact advance_take hlink hframe he _
  | none => exact .online rfl ⟨rfl, rfl, rfl⟩ hlink rfl fun _ hn => nomatch hn

theorem advance_receive {beat : Option Beat} (hlink : g.link = .online beat) (frame : Frame) :
    Advance g now (.frame frame) (g.receive now beat frame).1 (g.receive now beat frame).2 := by
  unfold receive
  cases frame with
  | text bytes =>
    dsimp only
    split
    · exact advance_read hlink (.inl rfl)
    · exact advance_rest rfl (.inr ⟨beat, hlink⟩)
  | binary bytes => exact advance_read hlink (.inr rfl)
  | control => exact .online rfl (.refl g) hlink rfl fun _ hn => nomatch hn
  | close => exact advance_rest rfl (.inr ⟨beat, hlink⟩)

theorem kept_ping (g : Gateway ρ) (ticker : Ticker) (data : Nat) :
    Kept g (g.ping ticker data) ∧ ∃ beat, (g.ping ticker data).link = .online (some beat) := by
  unfold ping
  split
  · exact ⟨⟨rfl, rfl, rfl⟩, _, rfl⟩
  · exact ⟨⟨rfl, rfl, rfl⟩, _, rfl⟩

theorem advance_tick {ticker : Ticker} (hlink : g.link = .online (some ⟨ticker, none⟩)) :
    Advance g now .clock (g.tick now ticker).1 (g.tick now ticker).2 := by
  unfold tick
  split
  · exact advance_rest rfl (.inr ⟨_, hlink⟩)
  · dsimp only
    obtain ⟨hkept, beat, hbeat⟩ :=
      kept_ping { g with heartbeat := (g.heartbeat.nextPing now).1 } (ticker.tick now) (g.heartbeat.nextPing now).2
    refine .online rfl ⟨hkept.config, hkept.isOpened, hkept.isClosed⟩ hlink ?_ fun _ hn => nomatch hn
    rw [hbeat, hlink]
    rfl

theorem advance_write {beat : Option Beat} (hlink : g.link = .online beat) :
    Advance g now .write (g.write beat).1 (g.write beat).2 := by
  unfold write
  split
  · exact .online rfl (.refl g) hlink rfl fun _ hn => nomatch hn
  · rename_i message outbox _
    dsimp only
    have hnotices : ∀ n ∈ [Notice.wrote message], n.state? = none ∧ n ≠ .opened := by simp [Notice.state?]
    split
    · rename_i ticker data
      obtain ⟨hkept, beat, hbeat⟩ := kept_ping (g.withOutbox (some outbox)) ticker data
      refine .online rfl ⟨hkept.config, hkept.isOpened, hkept.isClosed⟩ hlink ?_ hnotices
      rw [hbeat, hlink]
      rfl
    · exact .online rfl ⟨rfl, rfl, rfl⟩ hlink rfl hnotices

/-- **A step comes to one of the ways to go on**, whatever the gateway and the input. -/
theorem advance_step (g : Gateway ρ) (now : Instant) (input : GatewayInput) :
    Advance g now input (g.step now input).1 (g.step now input).2 := by
  unfold step
  split
  case h_1 _ hasRuntime => exact advance_launch g now hasRuntime
  case h_2 => exact advance_close g now
  case h_3 _ message => exact advance_send g now message
  case h_4 hlink => exact advance_rest rfl (.inl hlink)
  case h_5 hlink => exact advance_handshake hlink
  case h_6 frame beat hlink => exact advance_receive hlink frame
  case h_7 beat hlink => exact advance_rest rfl (.inr ⟨beat, hlink⟩)
  case h_8 beat hlink => exact advance_write hlink
  case h_9 ticker hlink =>
    split
    · exact advance_tick hlink
    · exact .online rfl (.refl g) hlink rfl fun _ hn => nomatch hn
  case h_10 deadline hlink =>
    split
    · rename_i hcome
      rw [move_eq]
      rw [hlink]
      exact .redialled ⟨rfl, rfl, rfl⟩ hlink hcome rfl
    · rename_i hcome
      refine .idle rfl fun other hother _ => ?_
      rw [hlink] at hother
      cases hother
      rw [Bool.not_eq_true] at hcome
      exact hcome
  case h_11 hlaunch hclose _ _ _ _ _ _ _ hresting =>
    -- any other input at any other place of the link comes to nothing
    exact .idle (GatewayInput.isCommand_eq_false hlaunch hclose) fun deadline hdeadline hclock =>
      (hresting deadline hclock hdeadline).elim

end Gateway
end ChatClient
