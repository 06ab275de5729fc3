import ChatClient.Proofs.Gateway.HeartbeatStep
/-!
# The same some milliseconds later

A gateway that is in the same place as another some whole milliseconds later, with the same outbox, does the same with
the same input that much later, whatever the two have in their caches and who observes them (`Gateway.Twins`).  Only
where observers put messages into the outbox, these have to be the same.
-/
namespace ChatClient

variable {delay : Nat} {now : Instant}

/-! ## Points of time -/

def Instant.later (delay : Nat) (t : Instant) : Instant :=
  -- the delay comes first, so that nothing is counted up to see that the later point of time is another one
  ⟨delay * 1000000 + t.nanos⟩

namespace Instant

theorem plus_later (t : Instant) (d : Duration) : (t.later delay).plus d = (t.plus d).later delay :=
  congrArg Instant.mk (Nat.add_assoc _ _ _)

theorem since_later (t : Instant) : (now.later delay).since (t.later delay) = now.since t :=
  congrArg Duration.mk (Nat.add_sub_add_left _ _ _)

theorem hasCome_later (t : Instant) : (t.later delay).hasCome (now.later delay) = t.hasCome now := by
  have hsum (n : Nat) : (delay * 1000000 + n + 999999) / 1000000 = delay + (n + 999999) / 1000000 := by omega
  have hnow (n : Nat) : (delay * 1000000 + n) / 1000000 = delay + n / 1000000 := by omega
  unfold hasCome later
  rw [hsum, hnow]
  exact decide_eq_decide.2 Nat.add_le_add_iff_left

end Instant

/-! ## Tickers and heartbeats -/

def Ticker.later (delay : Nat) (t : Ticker) : Ticker :=
  { t with due := t.due.later delay }

namespace Ticker

theorem isDue_later (t : Ticker) : (t.later delay).isDue (now.later delay) = t.isDue now := by
  rw [isDue, later, Instant.hasCome_later, isDue]

theorem tick_later (t : Ticker) : (t.later delay).tick (now.later delay) = (t.tick now).later delay := by
  have hlate : ((t.due.plus tolerance).later delay).nanos < (now.later delay).nanos ↔
      (t.due.plus tolerance).nanos < now.nanos := Nat.add_lt_add_iff_left
  simp only [tick, later, Instant.plus_later]
  by_cases h : (t.due.plus tolerance).nanos < now.nanos
  · rw [if_pos h, if_pos (hlate.2 h), Instant.plus_later]
  · rw [if_neg h, if_neg (fun h' => h (hlate.1 h')), Instant.plus_later]

end Ticker

def Heartbeat.later (delay : Nat) (h : Heartbeat) : Heartbeat :=
  { h with
    lastSent := h.lastSent.map (·.later delay)
    lastAck := h.lastAck.map (·.later delay)
    pendingSince := h.pendingSince.map (·.later delay) }

namespace Heartbeat

variable (h : Heartbeat)

theorem isOverdue_later : (h.later delay).isOverdue (now.later delay) = h.isOverdue now := by
  unfold isOverdue later
  cases h.pendingSince with
  | none => rfl
  | some t => simp [Instant.since_later]

theorem sinceSent_later : (h.later delay).sinceSent (now.later delay) = h.sinceSent now := by
  unfold sinceSent later
  cases h.lastSent with
  | none => rfl
  | some t => exact Instant.since_later t

theorem nextPing_later : (h.later delay).nextPing (now.later delay) = ((h.nextPing now).1.later delay, h.count) := by
  unfold nextPing later
  cases h.pendingSince <;> rfl

theorem onPong_later (n : Nat) :
    (h.later delay).onPong n (now.later delay) = ((h.onPong n now).1.later delay, (h.onPong n now).2) := by
  unfold onPong
  rw [sinceSent_later]
  change (if n = h.count then _ else _) = _
  by_cases hn : n = h.count
  · rw [if_pos hn, if_pos hn]
    rfl
  · rw [if_neg hn, if_neg hn]
    rfl

end Heartbeat

def Beat.later (delay : Nat) (b : Beat) : Beat :=
  { b with ticker := b.ticker.later delay }

def Pulse.later (delay : Nat) (p : Pulse) : Pulse :=
  ⟨p.heartbeat.later delay, p.beat.map (·.later delay)⟩

namespace Pulse

theorem start_later (p : Pulse) : (p.later delay).start (now.later delay) = (p.start now).later delay := by
  obtain ⟨h, beat⟩ := p
  cases beat with
  | none => simp [start, later, Beat.later, Ticker.later, Ticker.start, Heartbeat.later, Instant.plus_later]
  | some b => rfl

theorem pong_later (p : Pulse) (n : Nat) :
    (p.later delay).pong (now.later delay) n = ((p.pong now n).1.later delay, (p.pong now n).2) := by
  unfold pong later
  rw [Heartbeat.onPong_later]

mutual

/-- The connection's part is the same later, and so are the reports. -/
theorem route_later (delay : Nat) (now : Instant) : ∀ (p : Pulse) (e : Event),
    (p.later delay).route (now.later delay) e = ((p.route now e).1.later delay, (p.route now e).2)
  | p, e => by
    cases e with
    | bulk events =>
      rw [route, route]
      exact routeAll_later delay now p events
    | authenticated => rw [route, route, start_later]
    | pong pong => rw [route, route, pong_later]
    | _ => simp [route]

theorem routeAll_later (delay : Nat) (now : Instant) : ∀ (p : Pulse) (es : List Event),
    (p.later delay).routeAll (now.later delay) es = ((p.routeAll now es).1.later delay, (p.routeAll now es).2)
  | p, [] => by rw [routeAll, routeAll]
  | p, e :: es => by
    rw [routeAll, routeAll, route_later delay now p e]
    simp only [routeAll_later delay now _ es]

end

end Pulse

/-! ## Links -/

def Link.later (delay : Nat) : Link → Link
  | .online beat => .online (beat.map (·.later delay))
  | .resting deadline => .resting (deadline.later delay)
  | link => link

namespace Link

@[simp] theorem state_later (link : Link) : (link.later delay).state = link.state := by
  cases link with
  | online beat => cases beat <;> rfl
  | _ => rfl

@[simp] theorem blocked?_later (link : Link) : (link.later delay).blocked? = link.blocked? := by
  cases link with
  | online beat => rcases beat with - | ⟨ticker, - | data⟩ <;> rfl
  | _ => rfl

theorem unblocked_later (link : Link) : (link.later delay).unblocked = link.unblocked.later delay := by
  cases link with
  | online beat => cases beat <;> rfl
  | _ => rfl

end Link

namespace Outbox

theorem offerAll_eq (o : Outbox) (ms : List ClientMessage) :
    offerAll (some o) ms = some { o with accepted := o.accepted ++ gained (some o) (offerAll (some o) ms) } := by
  suffices hsuffix : ∃ more, offerAll (some o) ms = some { o with accepted := o.accepted ++ more } by
    obtain ⟨more, hmore⟩ := hsuffix
    rw [hmore]
    simp [gained]
  induction ms generalizing o with
  | nil => exact ⟨[], by rw [List.append_nil]; rfl⟩
  | cons m ms ih =>
    cases hoffer : offer (some o) m with
    | error e =>
      rw [offerAll_of_error hoffer]
      exact ih o
    | ok o' =>
      obtain ⟨more, hmore⟩ := ih o'
      rw [offerAll_of_ok hoffer, hmore, offer_eq_ok hoffer, List.append_assoc]
      exact ⟨m :: more, rfl⟩

end Outbox

/-! ## Twins -/

namespace Gateway

variable {ρ : Type} {g g' : Gateway ρ}

/-- **A gateway is where another was some milliseconds before.**  Nothing is said of the outbox, and nothing of cache,
observers, records and reports. -/
structure Abreast (delay : Nat) (g g' : Gateway ρ) : Prop where
  token : g'.token = g.token
  config : g'.config = g.config
  isOpened : g'.isOpened = g.isOpened
  isClosed : g'.isClosed = g.isClosed
  link : g'.link = g.link.later delay
  heartbeat : g'.heartbeat = g.heartbeat.later delay

structure Twins (delay : Nat) (g g' : Gateway ρ) : Prop extends Abreast delay g g' where
  outbox : g'.dispatcher.outbox = g.dispatcher.outbox

structure Alike (delay : Nat) (r r' : Gateway ρ × List Notice) : Prop where
  twins : Twins delay r.1 r'.1
  notices : r'.2 = r.2

theorem Abreast.withLink (h : Abreast delay g g') (link : Link) :
    Abreast delay { g with link } { g' with link := link.later delay } :=
  ⟨h.token, h.config, h.isOpened, h.isClosed, rfl, h.heartbeat⟩

theorem Abreast.withOutbox (h : Abreast delay g g') (outbox : Option Outbox) :
    Twins delay (g.withOutbox outbox) (g'.withOutbox outbox) :=
  ⟨⟨h.token, h.config, h.isOpened, h.isClosed, h.link, h.heartbeat⟩, rfl⟩

theorem entering_later (link link' : Link) : entering (link.later delay) (link'.later delay) = entering link link' := by
  unfold entering
  rw [Link.state_later, Link.state_later]

/-- What the connection makes of an event does not rest on cache and observers. -/
theorem Abreast.take (h : Abreast delay g g') (now : Instant) (beat : Option Beat) (e : Event) :
    Abreast delay (g.take now beat e).1 (g'.take (now.later delay) (beat.map (·.later delay)) e).1 ∧
      (g'.take (now.later delay) (beat.map (·.later delay)) e).2 = (g.take now beat e).2 := by
  have hroute := Pulse.route_later delay now ⟨g.heartbeat, beat⟩ e
  rw [Pulse.later, ← h.heartbeat] at hroute
  unfold Gateway.take
  rw [hroute]
  refine ⟨⟨h.token, h.config, h.isOpened, h.isClosed, rfl, rfl⟩, ?_⟩
  change entering g'.link (Link.later delay (.online (Pulse.route now ⟨g.heartbeat, beat⟩ e).1.beat)) = _
  rw [h.link, entering_later]
  rfl

theorem Alike.ite {c : Prop} [Decidable c] {r₁ r₁' r₂ r₂' : Gateway ρ × List Notice}
    (h₁ : Alike delay r₁ r₁')
    (h₂ : Alike delay r₂ r₂') : Alike delay (if c then r₁ else r₂) (if c then r₁' else r₂') := by
  by_cases hc : c
  · rw [if_pos hc, if_pos hc]
    exact h₁
  · rw [if_neg hc, if_neg hc]
    exact h₂

namespace Twins

theorem isAttached (h : Twins delay g g') : g'.isAttached = g.isAttached := by
  rw [Gateway.isAttached, h.outbox, Gateway.isAttached]

theorem withHeartbeat (h : Twins delay g g') (heartbeat : Heartbeat) :
    Twins delay { g with heartbeat } { g' with heartbeat := heartbeat.later delay } :=
  ⟨⟨h.token, h.config, h.isOpened, h.isClosed, h.link, rfl⟩, h.outbox⟩

theorem withLink (h : Twins delay g g') (link : Link) :
    Twins delay { g with link } { g' with link := link.later delay } :=
  ⟨h.toAbreast.withLink link, h.outbox⟩

theorem alike (h : Twins delay g g') (notices : List Notice) : Alike delay (g, notices) (g', notices) :=
  ⟨h, rfl⟩

theorem move (h : Twins delay g g') (link : Link) : Alike delay (g.move link) (g'.move (link.later delay)) := by
  rw [move_eq, move_eq, h.link]
  exact ⟨h.withLink link, entering_later g.link link⟩

theorem rest (h : Twins delay g g') (now : Instant) : Alike delay (g.rest now) (g'.rest (now.later delay)) := by
  unfold Gateway.rest
  rw [h.config, Instant.plus_later]
  exact (h.withOutbox none).move (.resting _)

theorem launch (h : Twins delay g g') (hasRuntime : Bool) :
    Alike delay (g.launch hasRuntime) (g'.launch hasRuntime) := by
  have hrefusal : g'.refusal? hasRuntime = g.refusal? hasRuntime := by
    unfold refusal?
    rw [h.isClosed, h.isOpened]
  unfold Gateway.launch
  rw [hrefusal]
  cases g.refusal? hasRuntime with
  | some e => exact h.alike _
  | none =>
    have hopened : Twins delay { g with isOpened := true } { g' with isOpened := true } :=
      ⟨⟨h.token, h.config, rfl, h.isClosed, h.link, h.heartbeat⟩, h.outbox⟩
    obtain ⟨htwins, hnotices⟩ := hopened.move .dialing
    exact ⟨htwins, congrArg (Notice.opened :: ·) hnotices⟩

theorem close (h : Twins delay g g') : Alike delay g.close g'.close := by
  have hclosed : Abreast delay { g with isClosed := true } { g' with isClosed := true } :=
    ⟨h.token, h.config, h.isOpened, rfl, h.link, h.heartbeat⟩
  exact (hclosed.withOutbox none).move .idle

theorem send (h : Twins delay g g') (m : ClientMessage) : Alike delay (g.send m) (g'.send m) := by
  unfold Gateway.send
  rw [h.outbox]
  cases Outbox.offer g.dispatcher.outbox m with
  | ok outbox => exact (h.withOutbox _).alike _
  | error e => exact h.alike _

/-- **The handshake makes twins of any two gateways** that are told apart by their heartbeats at most. -/
theorem handshake (htoken : g'.token = g.token) (hconfig : g'.config = g.config) (hopened : g'.isOpened = g.isOpened)
    (hclosed : g'.isClosed = g.isClosed) (hlink : g'.link = g.link)
    (hreset : g'.heartbeat.reset = g.heartbeat.reset.later delay) :
    Alike delay g.handshake g'.handshake := by
  refine ⟨⟨⟨htoken, hconfig, hopened, hclosed, rfl, hreset⟩, ?_⟩, ?_⟩
  · exact congrArg (fun config => some (Outbox.ofCapacity config.outboxCapacity)) hconfig
  · change entering g'.link (.online none) ++ [.wrote (.authenticate g'.token)] = _
    rw [hlink, htoken]
    rfl

theorem ping (h : Twins delay g g') (ticker : Ticker) (data : Nat) :
    Twins delay (g.ping ticker data) (g'.ping (ticker.later delay) data) := by
  unfold Gateway.ping
  rw [h.outbox]
  cases Outbox.offer g.dispatcher.outbox (.ping (UInt64.ofNat data)) with
  | ok outbox => exact (h.withOutbox _).withLink (.online (some ⟨ticker, none⟩))
  | error e => exact h.withLink (.online (some ⟨ticker, some data⟩))

theorem tick (h : Twins delay g g') (now : Instant) (ticker : Ticker) :
    Alike delay (g.tick now ticker) (g'.tick (now.later delay) (ticker.later delay)) := by
  unfold Gateway.tick
  rw [h.heartbeat, Heartbeat.isOverdue_later, Heartbeat.nextPing_later, Ticker.tick_later]
  exact (h.rest now).ite (((h.withHeartbeat _).ping _ _).alike _)

theorem write (h : Twins delay g g') (beat : Option Beat) :
    Alike delay (g.write beat) (g'.write (beat.map (·.later delay))) := by
  unfold Gateway.write
  rw [h.outbox]
  cases g.dispatcher.outbox.bind Outbox.write? with
  | none => exact h.alike _
  | some written =>
    have hwritten := h.withOutbox (some written.2)
    rcases beat with - | ⟨ticker, - | data⟩
    · exact hwritten.alike _
    · exact hwritten.alike _
    · exact (hwritten.ping ticker data).alike _

/-! ## Frames -/

theorem read (h : Twins delay g g') (now : Instant) (beat : Option Beat) (bytes : List UInt8) :
    Abreast delay (g.read now beat bytes).1 (g'.read (now.later delay) (beat.map (·.later delay)) bytes).1 ∧
      (g'.read (now.later delay) (beat.map (·.later delay)) bytes).2 = (g.read now beat bytes).2 := by
  have hreports : Abreast delay (g.withReports (Event.ofBytes bytes).leniently.1)
      (g'.withReports (Event.ofBytes bytes).leniently.1) :=
        ⟨h.token, h.config, h.isOpened, h.isClosed, h.link, h.heartbeat⟩
  unfold Gateway.read
  dsimp only
  cases (Event.ofBytes bytes).leniently.2 with
  | none => exact ⟨hreports, rfl⟩
  | some e => exact hreports.take now beat e

theorem receive (h : Twins delay g g') (now : Instant) (beat : Option Beat) (frame : Frame) :
    Abreast delay (g.receive now beat frame).1 (g'.receive (now.later delay) (beat.map (·.later delay)) frame).1 ∧
      (g'.receive (now.later delay) (beat.map (·.later delay)) frame).2 = (g.receive now beat frame).2 := by
  have hrest := h.rest now
  unfold Gateway.receive
  cases frame with
  | text bytes =>
    by_cases hdecoded : (Text.Utf8.decode? bytes).isSome = true
    · simp only [if_pos hdecoded]
      exact h.read now beat bytes
    · simp only [if_neg hdecoded]
      exact ⟨hrest.twins.toAbreast, hrest.notices⟩
  | binary bytes => exact h.read now beat bytes
  | control => exact ⟨h.toAbreast, rfl⟩
  | close => exact ⟨hrest.twins.toAbreast, hrest.notices⟩

end Twins

/-- What a frame does to an outbox, unless it ends the session, is told by what comes in. -/
theorem outbox_of_frame (h : g.Wired) (now : Instant) (frame : Frame) :
    (g.step now (.frame frame)).1.dispatcher.outbox = none ∨
      ∃ o, g.dispatcher.outbox = some o ∧ (g.step now (.frame frame)).1.dispatcher.outbox =
        some { o with accepted := o.accepted ++
          Outbox.gained g.dispatcher.outbox (g.step now (.frame frame)).1.dispatcher.outbox } := by
  have hhandling := handling_step h now (.frame frame)
  generalize (g.step now (.frame frame)).1 = after at *
  cases hhandling with
  | dropped hnone => exact .inl hnone
  | left hleft =>
    rw [hleft]
    cases ho : g.dispatcher.outbox with
    | none => exact .inl rfl
    | some o => exact .inr ⟨o, rfl, by simp [Outbox.gained]⟩
  | heard hlink hoffered =>
    obtain ⟨o, ho⟩ := h.attached hlink
    rw [hoffered, ho]
    exact .inr ⟨o, rfl, Outbox.offerAll_eq o _⟩

namespace Twins

theorem frame (h : Twins delay g g') (hwired : g.Wired) (hwired' : g'.Wired) (now : Instant) (frame : Frame)
    (hgained : Outbox.gained g.dispatcher.outbox (g.step now (.frame frame)).1.dispatcher.outbox =
      Outbox.gained g'.dispatcher.outbox (g'.step (now.later delay) (.frame frame)).1.dispatcher.outbox) :
    Alike delay (g.step now (.frame frame)) (g'.step (now.later delay) (.frame frame)) := by
  have hreceive : Abreast delay (g.step now (.frame frame)).1 (g'.step (now.later delay) (.frame frame)).1 ∧
      (g'.step (now.later delay) (.frame frame)).2 = (g.step now (.frame frame)).2 := by
    unfold Gateway.step
    rw [h.link]
    cases g.link with
    | online beat => exact h.receive now beat frame
    | _ => exact ⟨h.toAbreast, rfl⟩
  obtain ⟨habreast, hnotices⟩ := hreceive
  refine ⟨⟨habreast, ?_⟩, hnotices⟩
  -- the session ends for both or for none
  have hattached := (wired_step hwired' (now.later delay) (.frame frame)).socket
  rw [Gateway.state, habreast.link, Link.state_later, ← Gateway.state,
    ← (wired_step hwired now (.frame frame)).socket] at hattached
  rcases outbox_of_frame hwired now frame with hnone | ⟨o, ho, hafter⟩
  · rw [hnone]
    rw [isAttached_of_none hnone] at hattached
    exact outbox_of_isAttached hattached
  · rcases outbox_of_frame hwired' (now.later delay) frame with hnone' | ⟨o', ho', hafter'⟩
    · rw [isAttached_of_none hnone', isAttached_of_some hafter] at hattached
      cases hattached
    · obtain rfl : o' = o := Option.some.inj (ho'.symm.trans (h.outbox.trans ho))
      rw [hafter, hafter', hgained]

/-- **Twins come to the same** with the same input, if their observers put in the same. -/
theorem step (h : Twins delay g g') (hwired : g.Wired) (hwired' : g'.Wired) (now : Instant) (input : GatewayInput)
    (hgained : ∀ frame, input = .frame frame →
      Outbox.gained g.dispatcher.outbox (g.step now input).1.dispatcher.outbox =
        Outbox.gained g'.dispatcher.outbox (g'.step (now.later delay) input).1.dispatcher.outbox) :
    Alike delay (g.step now input) (g'.step (now.later delay) input) := by
  have hlink := h.link
  by_cases hframe : ∃ f, input = .frame f
  · obtain ⟨f, rfl⟩ := hframe
    exact h.frame hwired hwired' now f (hgained f rfl)
  unfold Gateway.step
  rw [hlink]
  cases input with
  | launch hasRuntime => exact h.launch hasRuntime
  | close => exact h.close
  | send m => exact h.send m
  | dialFailed =>
    cases g.link with
    | dialing => exact h.rest now
    | _ => exact h.alike []
  | handshake =>
    cases hg : g.link with
    | dialing =>
      rw [hg] at hlink
      have hreset : g'.heartbeat.reset = g.heartbeat.reset.later delay := by
        rw [h.heartbeat]
        rfl
      exact handshake h.token h.config h.isOpened h.isClosed (hlink.trans hg.symm) hreset
    | _ => exact h.alike []
  | frame f => exact absurd ⟨f, rfl⟩ hframe
  | lost =>
    cases g.link with
    | online beat => exact h.rest now
    | _ => exact h.alike []
  | write =>
    cases g.link with
    | online beat => exact h.write beat
    | _ => exact h.alike []
  | clock =>
    cases g.link with
    | online beat =>
      rcases beat with - | ⟨ticker, - | data⟩
      · exact h.alike []
      · change Alike delay (if ticker.isDue now then g.tick now ticker else (g, []))
          (if (ticker.later delay).isDue (now.later delay)
            then g'.tick (now.later delay) (ticker.later delay) else (g', []))
        rw [Ticker.isDue_later]
        exact (h.tick now ticker).ite (h.alike [])
      · exact h.alike []
    | resting deadline =>
      change Alike delay (if deadline.hasCome now then g.move .dialing else (g, []))
        (if (deadline.later delay).hasCome (now.later delay) then g'.move .dialing else (g', []))
      rw [Instant.hasCome_later]
      exact (h.move .dialing).ite (h.alike [])
    | _ => exact h.alike []

/-! ## Pings and mismatches -/

theorem drawn? (h : Twins delay g g') (now : Instant) : g'.drawn? (now.later delay) = g.drawn? now := by
  unfold Gateway.drawn?
  rw [h.link, h.heartbeat]
  cases g.link with
  | online beat =>
    rcases beat with - | ⟨ticker, - | data⟩
    · rfl
    · simp only [Link.later, Option.map_some, Beat.later, Ticker.isDue_later, Heartbeat.isOverdue_later,
        Heartbeat.nextPing_later]
      rfl
    · rfl
  | _ => rfl

theorem newMismatches (h : Twins delay g g') (now : Instant) (input : GatewayInput) :
    g'.newMismatches (now.later delay) input = g.newMismatches now input := by
  cases input with
  | frame frame =>
    unfold Gateway.newMismatches
    dsimp only
    rw [h.link, h.heartbeat]
    cases g.link with
    | online beat =>
      cases frame.event? with
      | none => rfl
      | some e =>
        have hroute := congrArg Prod.snd (Pulse.route_later delay now ⟨g.heartbeat, beat⟩ e)
        exact hroute
    | _ => rfl
  | _ => rfl

end Twins

end Gateway

end ChatClient
