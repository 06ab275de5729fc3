import ChatClient.Proofs.Gateway.Watch
/-!
# The rhythm of a heartbeat

While the clock is read in time and there is room in the outbox, the heartbeat of a session acts at its ticks and at
no other time (`regular_session`): the first of them is an interval after the first `Authenticated`, and each further
one an interval later.  There it ends the session if the oldest ping that waits for its pong is as old as the timeout,
and else it sends one ping.  Timers go by whole milliseconds, so a tick inside one comes when it is over.
-/
namespace ChatClient

namespace Instant

def whole (t : Instant) : Instant :=
  ⟨(t.nanos + 999999) / 1000000 * 1000000⟩

/-- Up to that millisecond, the point of time has come when it is there. -/
theorem hasCome_iff_of_le {t now : Instant} (h : now.nanos ≤ t.whole.nanos) : t.hasCome now = true ↔ t.whole = now := by
  cases t
  cases now
  simp only [hasCome, whole, decide_eq_true_eq, Instant.mk.injEq] at h ⊢
  omega

end Instant

namespace Ticker

/-- A tick that is made in its millisecond does not move the next one. -/
theorem tick_whole (t : Ticker) : t.tick t.due.whole = { t with due := t.due.plus t.period } := by
  have hearly : ¬ (t.due.plus tolerance).nanos < t.due.whole.nanos := by
    simp only [Instant.plus, Instant.whole, tolerance, Duration.ofMillis]
    omega
  rw [tick, if_neg hearly]

end Ticker

namespace Watch

variable {config : GatewayConfig} {w : Watch} {h : Heartbeat}

/-- When the next tick comes: an interval after the first `Authenticated` for each ping so far, and one more. -/
def due? (interval : Duration) (w : Watch) : Option Instant :=
  w.since?.map fun a => Instant.whole ⟨a.nanos + (w.beats + 1) * interval.nanos⟩

/-- Whether the oldest ping since the last acknowledged pong is as old as the timeout. -/
def isOverdue (timeout : Duration) (w : Watch) (now : Instant) : Bool :=
  w.pending.head?.any fun t => timeout.nanos ≤ (now.since t).nanos

theorem Tells.isOverdue_eq (htells : Tells config w h) (now : Instant) :
    h.isOverdue now = w.isOverdue config.heartbeatTimeout now := by
  rw [Heartbeat.isOverdue, htells.pending, htells.timeout, Watch.isOverdue]

/-- The pings of a session as they are known while none waits for room. -/
def beat (interval : Duration) (w : Watch) : Option Beat :=
  w.since?.map fun a => ⟨⟨interval, ⟨a.nanos + (w.beats + 1) * interval.nanos⟩⟩, none⟩

theorem blocked?_beat (interval : Duration) (w : Watch) : (Link.online (w.beat interval)).blocked? = none := by
  unfold beat
  cases w.since? <;> rfl

theorem due?_eq_some_iff {interval : Duration} {now : Instant} :
    w.due? interval = some now ↔ ∃ ticker, w.beat interval = some ⟨ticker, none⟩ ∧ ticker.due.whole = now := by
  unfold due? beat
  cases w.since? <;> simp

theorem period_of_beat {interval : Duration} {ticker : Ticker} (h : w.beat interval = some ⟨ticker, none⟩) :
    ticker.period = interval := by
  obtain ⟨a, -, ha⟩ := Option.map_eq_some_iff.1 h
  cases ha
  rfl

/-- Up to the millisecond of a tick, the ticker goes by what is known to be due. -/
theorem isDue_iff {interval : Duration} {ticker : Ticker} {now : Instant} (hinterval : 0 < interval.nanos)
    (hbeat : w.beat interval = some ⟨ticker, none⟩) (hprompt : ∀ t ∈ w.due? interval, now.nanos ≤ t.nanos) :
    ticker.isDue now = true ↔ w.due? interval = some now := by
  have hdue : w.due? interval = some ticker.due.whole := due?_eq_some_iff.2 ⟨ticker, hbeat, rfl⟩
  rw [Ticker.isDue, period_of_beat hbeat, decide_eq_true hinterval, Bool.true_and, hdue, Option.some_inj]
  exact Instant.hasCome_iff_of_le (hprompt _ hdue)

theorem beat_drew {interval : Duration} {ticker : Ticker} (hbeat : w.beat interval = some ⟨ticker, none⟩) (k : Nat)
    (m : ClientMessage) :
    (w.see ticker.due.whole (.drew k m)).beat interval = some ⟨ticker.tick ticker.due.whole, none⟩ := by
  obtain ⟨a, ha, hticker⟩ := Option.map_eq_some_iff.1 hbeat
  cases hticker
  rw [Ticker.tick_whole]
  simp only [see, beat, ha, Option.map_some, Instant.plus, Option.some.injEq, Beat.mk.injEq, Ticker.mk.injEq,
    Instant.mk.injEq]
  refine ⟨⟨trivial, ?_⟩, trivial⟩
  rw [Nat.add_mul, Nat.one_mul, Nat.add_assoc]

/-- Only the first `Authenticated` starts the pings. -/
theorem Tells.beat_hear (htells : Tells config w h) (hfresh : w.since? = none → w.beats = 0)
    (now : Instant) {leaf : Event} (hleaf : leaf.kind ≠ .bulk) :
    (Pulse.route now ⟨h, w.beat config.heartbeatInterval⟩ leaf).1.beat =
      (w.hear now leaf).beat config.heartbeatInterval ∧
      ((w.hear now leaf).since? = none → (w.hear now leaf).beats = 0) := by
  cases leaf with
  | bulk events => exact absurd rfl hleaf
  | authenticated =>
    rw [Pulse.route]
    refine ⟨?_, nofun⟩
    cases hsince : w.since? with
    | some a => simp [Pulse.start, beat, Watch.hear, hsince]
    | none => simp [Pulse.start, Ticker.start, Instant.plus, beat, Watch.hear, hsince, hfresh hsince, htells.interval]
  | pong pong =>
    rw [Pulse.route, Pulse.pong]
    unfold Watch.hear
    dsimp only
    by_cases hn : pong.data.toNat = w.acked
    · rw [if_pos hn]
      exact ⟨rfl, hfresh⟩
    · rw [if_neg hn]
      exact ⟨rfl, hfresh⟩
  | _ =>
    simp only [Pulse.route]
    exact ⟨rfl, hfresh⟩

theorem Tells.beat_hearAll (now : Instant) {leaves : List Event} (hleaves : ∀ l ∈ leaves, l.kind ≠ .bulk)
    (htells : Tells config w h) (hfresh : w.since? = none → w.beats = 0) :
    (Pulse.routeAll now ⟨h, w.beat config.heartbeatInterval⟩ leaves).1.beat =
        (leaves.foldl (·.hear now) w).beat config.heartbeatInterval ∧
      ((leaves.foldl (·.hear now) w).since? = none → (leaves.foldl (·.hear now) w).beats = 0) := by
  induction leaves generalizing w h with
  | nil =>
    rw [Pulse.routeAll]
    exact ⟨rfl, hfresh⟩
  | cons leaf leaves ih =>
    obtain ⟨hleaf, hleaves⟩ := List.forall_mem_cons.1 hleaves
    obtain ⟨hbeat, hstill⟩ := htells.beat_hear hfresh now hleaf
    obtain ⟨hnext, -⟩ := htells.hear now (w.beat config.heartbeatInterval) hleaf
    have hrest := ih hleaves hnext hstill
    rw [← hbeat] at hrest
    rw [Pulse.routeAll, List.foldl_cons]
    exact hrest

end Watch

/-- Where no ping waits and none is handed out, none comes in. -/
theorem Desk.Moves.quiet {token : String} {d d' : Desk} {entries : List Traffic} (h : Moves token d entries d')
    (hblocked : d.blocked = none) (hdrew : ∀ k m, .drew k m ∉ entries) :
    d'.blocked = none ∧ ∀ k m, .pinged k m ∉ entries := by
  induction h with
  | refl => exact ⟨hblocked, fun _ _ h => nomatch h⟩
  | snoc _ hmove ih =>
    simp only [List.mem_append, not_or] at hdrew ⊢
    obtain ⟨hnone, hpinged⟩ := ih fun k m => (hdrew k m).1
    suffices hlast : _ ∧ ∀ k m, _ ∉ _ from ⟨hlast.1, fun k m => ⟨hpinged k m, hlast.2 k m⟩⟩
    cases hmove with
    | draw => exact absurd List.mem_cons_self (hdrew _ _).2
    | ping hwaits =>
      rw [hnone] at hwaits
      cases hwaits
    | _ => exact ⟨by first | exact hnone | rfl, by simp⟩

namespace Gateway

variable {ρ : Type} {g : Gateway ρ} {now : Instant} {ticker : Ticker}

theorem step_clock_of_due (hlink : g.link = .online (some ⟨ticker, none⟩)) (hdue : ticker.isDue now = true) :
    g.step now .clock = g.tick now ticker := by
  simp [step, hlink, hdue]

/-- On a socket a reading of the clock when no tick is due comes to nothing. -/
theorem step_clock_of_not_due {beat : Option Beat} (hlink : g.link = .online beat)
    (hdue : ∀ ticker, beat = some ⟨ticker, none⟩ → ticker.isDue now = false) : g.step now .clock = (g, []) := by
  rcases beat with - | ⟨ticker, - | data⟩
  · simp [step, hlink]
  · simp [step, hlink, hdue ticker rfl]
  · simp [step, hlink]

end Gateway

namespace SharedGateway

variable {ρ : Type} {s : SharedGateway ρ} {config : GatewayConfig} {token : String}
    {earlier : List Diagnostic} {w : Watch}
  {now : Instant}

/-! ## Moments of a session -/

/-- Whether something holds at each moment of a session, until it is over.  It can speak of the gateway and of what is
known of the session before that moment. -/
def EachMoment (P : SharedGateway ρ → Watch → Instant → SharedInput → Prop) (s : SharedGateway ρ) (w : Watch) :
    List (Instant × SharedInput) → Prop
  | [] => True
  | (now, input) :: inputs => P s w now input ∧ ((s.step now input).1.gateway.isAttached = true →
      EachMoment P (s.step now input).1 ((s.occurrences now input).foldl Watch.note w) inputs)

/-- The clock is read in time: nothing happens later than a tick that is due.  There is room in the outbox. -/
structure OnTime (config : GatewayConfig) (s : SharedGateway ρ) (w : Watch) (now : Instant)
    (_ : SharedInput) : Prop where
  prompt : ∀ t ∈ w.due? config.heartbeatInterval, now.nanos ≤ t.nanos
  room : ∀ o ∈ s.gateway.dispatcher.outbox, o.waiting.length < o.capacity

/-- **What the heartbeat does at a moment.**

When a tick is due and the clock is read, it ends the session if the oldest ping since the last acknowledged pong is
as old as the timeout; else it hands out one ping with the number of acknowledged pongs, which is in the outbox at
once, and the session goes on.  At any other moment it does nothing, nor does a reading of the clock do anything else;
before the session is authenticated no tick is ever due. -/
structure Regular (config : GatewayConfig) (s : SharedGateway ρ) (w : Watch) (now : Instant)
    (input : SharedInput) : Prop where
  tick : input = .own .clock → w.due? config.heartbeatInterval = some now →
    (s.step now input).1.gateway.isAttached = !w.isOverdue config.heartbeatTimeout now ∧
      (s.step now input).2 = if w.isOverdue config.heartbeatTimeout now then [.detached]
        else [.drew s.session (.pingOf w.acked), .pinged s.session (.pingOf w.acked)]
  between : (input = .own .clock → w.due? config.heartbeatInterval ≠ some now) →
    (∀ k m, .drew k m ∉ (s.step now input).2 ∧ .pinged k m ∉ (s.step now input).2) ∧
      (input = .own .clock → (s.step now input).2 = [])

/-! ## What a session keeps -/

/-- **What a session on time keeps**: its heartbeat and its pings are as they are known to be, and no ping waits for
room. -/
structure InStep (config : GatewayConfig) (token : String) (earlier : List Diagnostic) (s : SharedGateway ρ)
    (w : Watch) : Prop where
  ready : Ready token s
  tracked : Tracked config earlier w s.gateway
  link : s.gateway.link = .online (w.beat config.heartbeatInterval)
  fresh : w.since? = none → w.beats = 0

namespace InStep

theorem attached (h : InStep config token earlier s w) : ∃ o, s.gateway.dispatcher.outbox = some o :=
  h.ready.wired.attached h.link

theorem blocked (h : InStep config token earlier s w) : s.desk.blocked = none := by
  obtain ⟨o, ho⟩ := h.attached
  change s.blocked? = none
  rw [blocked?, if_pos (Gateway.isAttached_of_some ho), h.link, Watch.blocked?_beat]

/-- Where nothing is heard, handed out or begun, a session stays in step if its pings go on. -/
theorem of_silent {input : SharedInput} (h : InStep config token earlier s w) (hheard : s.heard input = [])
    (hmarks : Traffic.marks (s.step now input).2 = []) (hlink : (s.step now input).1.gateway.link = s.gateway.link) :
    InStep config token earlier (s.step now input).1 ((s.occurrences now input).foldl Watch.note w) := by
  have htracked := h.tracked.step h.ready.wired now input
  rw [foldl_occurrences, hheard, hmarks] at htracked ⊢
  exact ⟨h.ready.step now input, htracked, hlink.trans h.link, h.fresh⟩

/-! ## Ticks -/

theorem own_giveUp (h : InStep config token earlier s w) {ticker : Ticker}
    (hbeat : w.beat config.heartbeatInterval = some ⟨ticker, none⟩) (hdue : ticker.isDue now = true)
    (hoverdue : w.isOverdue config.heartbeatTimeout now = true) :
    (s.own now .clock).2 = [.detached] ∧ (s.own now .clock).1.gateway.isAttached = false := by
  have hlink : s.gateway.link = .online (some ⟨ticker, none⟩) := hbeat ▸ h.link
  have hstep : s.gateway.step now .clock = s.gateway.rest now := by
    rw [Gateway.step_clock_of_due hlink hdue, Gateway.tick, if_pos (h.tracked.tells.isOverdue_eq now ▸ hoverdue)]
  obtain ⟨o, ho⟩ := h.attached
  have hnone : (s.gateway.rest now).1.dispatcher.outbox = none := rfl
  refine ⟨?_, ?_⟩
  · simp [own, hstep, ho, hnone]
  · rw [own_gateway, hstep]
    exact Gateway.isAttached_of_none hnone

theorem own_beat (h : InStep config token earlier s w) {ticker : Ticker}
    (hbeat : w.beat config.heartbeatInterval = some ⟨ticker, none⟩) (hdue : ticker.isDue now = true)
    (hoverdue : w.isOverdue config.heartbeatTimeout now = false)
    (hroom : ∀ o ∈ s.gateway.dispatcher.outbox, o.waiting.length < o.capacity) :
    (s.own now .clock).2 = [.drew s.session (.pingOf w.acked), .pinged s.session (.pingOf w.acked)] ∧
      (s.own now .clock).1.gateway.isAttached = true ∧
      (s.own now .clock).1.gateway.link = .online (some ⟨ticker.tick now, none⟩) := by
  have hlink : s.gateway.link = .online (some ⟨ticker, none⟩) := hbeat ▸ h.link
  have hlate : s.gateway.heartbeat.isOverdue now = false := h.tracked.tells.isOverdue_eq now ▸ hoverdue
  obtain ⟨o, ho⟩ := h.attached
  have hoffer : Outbox.offer s.gateway.dispatcher.outbox (.pingOf w.acked) =
      .ok { o with accepted := o.accepted ++ [.pingOf w.acked] } := by
    rw [ho]
    exact if_pos (hroom o ho)
  have hcount : s.gateway.heartbeat.count = w.acked := h.tracked.tells.count
  have hstep : s.gateway.step now .clock =
      ({ s.gateway with heartbeat := (s.gateway.heartbeat.nextPing now).1 }.ping (ticker.tick now) w.acked, []) := by
    rw [Gateway.step_clock_of_due hlink hdue, Gateway.tick, if_neg (by rw [hlate]; exact Bool.false_ne_true)]
    simp only [Heartbeat.nextPing, hcount]
  obtain ⟨hout, hto⟩ := Gateway.ping_of_ok (g := { s.gateway with heartbeat := (s.gateway.heartbeat.nextPing now).1 })
    (ticker.tick now) hoffer
  refine ⟨?_, ?_, ?_⟩
  · rw [own_clock hstep ho hout, Gateway.drawn?_eq_some hlink hdue hlate, hcount]
    simp
  · rw [own_gateway, hstep]
    exact Gateway.isAttached_of_some hout
  · rw [own_gateway, hstep]
    exact hto

theorem tick (h : InStep config token earlier s w) (hinterval : 0 < config.heartbeatInterval.nanos)
    (hontime : OnTime config s w now (.own .clock)) (hnow : w.due? config.heartbeatInterval = some now) :
    Regular config s w now (.own .clock) ∧ ((s.step now (.own .clock)).1.gateway.isAttached = true →
      InStep config token earlier (s.step now (.own .clock)).1
        ((s.occurrences now (.own .clock)).foldl Watch.note w)) := by
  obtain ⟨ticker, hbeat, hwhole⟩ := Watch.due?_eq_some_iff.1 hnow
  have hdue : ticker.isDue now = true := (Watch.isDue_iff hinterval hbeat hontime.prompt).2 hnow
  cases hoverdue : w.isOverdue config.heartbeatTimeout now with
  | true =>
    obtain ⟨htraffic, hdetached⟩ := h.own_giveUp hbeat hdue hoverdue
    refine ⟨⟨fun _ _ => ⟨?_, ?_⟩, fun hne => absurd hnow (hne rfl)⟩, fun hattached => ?_⟩
    · rw [hoverdue]
      exact hdetached
    · rw [hoverdue]
      exact htraffic
    · cases hdetached.symm.trans hattached
  | false =>
    obtain ⟨htraffic, hattached, hlink⟩ := h.own_beat hbeat hdue hoverdue hontime.room
    refine ⟨⟨fun _ _ => ⟨?_, ?_⟩, fun hne => absurd hnow (hne rfl)⟩, fun _ => ?_⟩
    · rw [hoverdue]
      exact hattached
    · rw [hoverdue]
      exact htraffic
    · have hknown : (s.occurrences now (.own .clock)).foldl Watch.note w =
          w.see now (.drew s.session (.pingOf w.acked)) := by
        rw [foldl_occurrences]
        change (Traffic.marks (s.own now .clock).2).foldl _ w = _
        rw [htraffic]
        rfl
      refine ⟨h.ready.step now _, h.tracked.step h.ready.wired now _, ?_, ?_⟩
      · subst hwhole
        rw [hknown, Watch.beat_drew hbeat]
        exact hlink
      · rw [hknown]
        intro hnone
        -- a session that is not authenticated has no tick
        rw [Watch.beat, show w.since? = none from hnone] at hbeat
        cases hbeat

/-! ## Between the ticks -/

theorem clock_between (h : InStep config token earlier s w) (hinterval : 0 < config.heartbeatInterval.nanos)
    (hontime : OnTime config s w now (.own .clock)) (hnow : w.due? config.heartbeatInterval ≠ some now) :
    s.step now (.own .clock) = (s, []) := by
  have hnot : ∀ ticker, w.beat config.heartbeatInterval = some ⟨ticker, none⟩ → ticker.isDue now = false :=
    fun ticker hbeat =>
    Bool.eq_false_iff.2 fun hdue => hnow ((Watch.isDue_iff hinterval hbeat hontime.prompt).1 hdue)
  have hdrawn : s.gateway.drawn? now = none := Gateway.drawn?_eq_none fun ticker hlink => by
    rw [h.link] at hlink
    exact hnot ticker (Link.online.inj hlink)
  exact own_of_same (Gateway.step_clock_of_not_due h.link hnot) rfl (fun _ => nofun) (fun _ => hdrawn) fun _ hm =>
    nomatch hm

/-- **Any other input of the gateway itself leaves a session in step**, as long as it goes on. -/
theorem own_between (h : InStep config token earlier s w) {input : GatewayInput} (hinput : input ≠ .clock)
    (hattached : (s.own now input).1.gateway.isAttached = true) :
    InStep config token earlier (s.own now input).1 ((s.occurrences now (.own input)).foldl Watch.note w) := by
  obtain ⟨o, ho⟩ := h.attached
  have hready := h.ready.step now (.own input)
  have htracked := h.tracked.step h.ready.wired now (.own input)
  have hstep := Gateway.heartbeatStep_step h.ready.wired now input
  have hgateway := own_gateway s now input
  obtain ⟨o', ho'⟩ := Option.isSome_iff_exists.1 hattached
  have hmarks : Traffic.marks (s.own now input).2 = [] := by
    rw [marks_own, ho, ← hgateway, ho']
    cases input with
    | clock => exact absurd rfl hinput
    | _ => rfl
  rw [← hgateway] at hstep
  generalize hafter : (s.own now input).1.gateway = g at hstep ho'
  cases hstep with
  | began hlink =>
    rw [h.link] at hlink
    cases hlink
  | @heard frame beat e _ hlink he hto =>
    obtain rfl : w.beat config.heartbeatInterval = beat := Link.online.inj (h.link.symm.trans hlink)
    obtain ⟨hbeat, hfresh⟩ := h.tracked.tells.beat_hearAll now e.kind_of_mem_leaves h.fresh
    have hheard : s.heard (.own (.frame frame)) = e.leaves := by
      rw [heard_of_frame h.ready.wired hlink, he]
      rfl
    have hknown : (s.occurrences now (.own (.frame frame))).foldl Watch.note w = e.leaves.foldl (·.hear now) w := by
      rw [foldl_occurrences, hheard]
      change (Traffic.marks (s.own now (.frame frame)).2).foldl _ _ = _
      rw [hmarks]
      rfl
    -- the gateway hears the event and the watch its leaves, which is all the same to the pings
    rw [Pulse.route_eq_routeAll, hbeat] at hto
    rw [hknown] at htracked ⊢
    exact ⟨hready, htracked, hafter ▸ hto, hfresh⟩
  | drew => exact absurd rfl hinput
  | gaveUp => exact absurd rfl hinput
  | kept hlink hhandshake hframe hclock hnone =>
    -- the pings go on or the socket is gone, and it is not
    have hsame : g.link = s.gateway.link := by
      refine (hlink _ h.link (by rw [h.link, Watch.blocked?_beat])).resolve_right fun hsocket => ?_
      rw [← hafter] at hsocket ho'
      cases (hready.wired.detached hsocket).symm.trans ho'
    exact h.of_silent (heard_eq_nil h.ready.wired hframe) hmarks (hafter ▸ hsame)

/-- **Between the ticks nothing is handed out and nothing comes in**, and a session stays in step as long as it goes
on. -/
theorem between (h : InStep config token earlier s w) (hinterval : 0 < config.heartbeatInterval.nanos)
    {input : SharedInput}
    (hontime : OnTime config s w now input) (hnow : input = .own .clock → w.due? config.heartbeatInterval ≠ some now) :
    Regular config s w now input ∧ ((s.step now input).1.gateway.isAttached = true →
      InStep config token earlier (s.step now input).1 ((s.occurrences now input).foldl Watch.note w)) := by
  -- it is enough that no ping is handed out
  have hregular (hdrew : ∀ k m, .drew k m ∉ (s.step now input).2)
      (hclock : input = .own .clock → (s.step now input).2 = []) :
      Regular config s w now input := by
    obtain ⟨-, hpinged⟩ := (moves_step h.ready now input).quiet h.blocked hdrew
    exact ⟨fun hinput htick => absurd htick (hnow hinput), fun _ =>
      ⟨fun k m => ⟨hdrew k m, hpinged k m⟩, hclock⟩⟩
  by_cases hclock : input = .own .clock
  · subst hclock
    have hidle := h.clock_between hinterval ⟨hontime.prompt, hontime.room⟩ (hnow rfl)
    have hsilent : (s.step now (.own .clock)).2 = [] := by rw [hidle]
    refine ⟨hregular ?_ fun _ => hsilent, fun _ => h.of_silent rfl ?_ ?_⟩
    · rw [hsilent]
      exact fun _ _ h => nomatch h
    · rw [hsilent]
      rfl
    · rw [hidle]
  · by_cases hown : ∃ i, input = .own i
    · obtain ⟨i, rfl⟩ := hown
      have hi : i ≠ .clock := fun hi => hclock (congrArg _ hi)
      exact ⟨hregular (drew_not_mem_own s now hi) fun hinput => absurd hinput hclock, h.own_between hi⟩
    · rw [not_exists] at hown
      have haside : Traffic.marks (s.step now input).2 = [] ∧ (s.step now input).1.gateway.link = s.gateway.link := by
        by_cases hlate : input = .lateTick
        · subst hlate
          obtain ⟨o, ho⟩ := h.attached
          have hidle : s.lateTick now = (s, []) := by simp [lateTick, ho]
          have hstep : s.step now .lateTick = (s, []) := hidle
          rw [hstep]
          exact ⟨rfl, rfl⟩
        · obtain ⟨haside, hmarks⟩ := aside_step s now hown hlate
          exact ⟨hmarks, haside.link (by rw [h.link, Watch.blocked?_beat])⟩
      have hsilent := h.of_silent (heard_of_not_own hown) haside.1 haside.2
      refine ⟨hregular (fun k m hmem => ?_) fun hinput => absurd hinput hclock, fun _ => hsilent⟩
      have hmark := Traffic.drew_mem_marks hmem
      rw [haside.1] at hmark
      cases hmark

/-! ## Whole sessions -/

/-- **One moment of a session on time.** -/
theorem moment (h : InStep config token earlier s w) (hinterval : 0 < config.heartbeatInterval.nanos)
    {input : SharedInput} (hontime : OnTime config s w now input) :
    Regular config s w now input ∧ ((s.step now input).1.gateway.isAttached = true →
      InStep config token earlier (s.step now input).1 ((s.occurrences now input).foldl Watch.note w)) := by
  by_cases htick : input = .own .clock ∧ w.due? config.heartbeatInterval = some now
  · obtain ⟨rfl, hnow⟩ := htick
    exact h.tick hinterval hontime hnow
  · exact h.between hinterval hontime fun hinput hnow => htick ⟨hinput, hnow⟩

theorem eachMoment (h : InStep config token earlier s w) (hinterval : 0 < config.heartbeatInterval.nanos)
    {inputs : List (Instant × SharedInput)} (hontime : s.EachMoment (OnTime config) w inputs) :
    s.EachMoment (Regular config) w inputs := by
  induction inputs generalizing s w with
  | nil => trivial
  | cons input inputs ih =>
    obtain ⟨now, input⟩ := input
    obtain ⟨hregular, hnext⟩ := h.moment hinterval hontime.1
    exact ⟨hregular, fun hattached => ih (hnext hattached) (hontime.2 hattached)⟩

end InStep

theorem inStep_handshake (h : Ready token s) (hinterval : s.gateway.heartbeat.interval = config.heartbeatInterval)
    (htimeout : s.gateway.heartbeat.timeout = config.heartbeatTimeout) (hlink : s.gateway.link = .dialing)
    (start : Instant) : InStep config token s.gateway.mismatches (s.step start (.own .handshake)).1 .idle := by
  have hgateway : (s.step start (.own .handshake)).1.gateway = s.gateway.handshake.1 := by
    change (s.own start .handshake).1.gateway = _
    rw [own_gateway]
    simp [Gateway.step, hlink]
  refine ⟨h.step start _, ?_, ?_, fun _ => rfl⟩
  · rw [hgateway]
    exact ⟨⟨hinterval, htimeout, rfl, rfl⟩, (List.append_nil _).symm⟩
  · rw [hgateway]
    rfl

/-- **The heartbeat of every session keeps its rhythm** as long as the clock is read in time and there is room in the
outbox, whatever the gateway has been through before it and whatever comes over its socket, any number of
`Authenticated`s and any pongs among it. -/
theorem regular_session (token : String) (config : GatewayConfig) (cache : Cache) (registry : Registry ρ)
    (before : List (Instant × SharedInput)) (start : Instant) (session : List (Instant × SharedInput))
    (hinterval : 0 < config.heartbeatInterval.nanos) :
    let s := ((ofGateway (.ofConfig token config (.ofCache cache registry))).run before).1
    s.gateway.link = .dialing → (s.step start (.own .handshake)).1.EachMoment (OnTime config) .idle session →
      (s.step start (.own .handshake)).1.EachMoment (Regular config) .idle session := by
  intro s hlink hontime
  have hready : Ready token (ofGateway (.ofConfig token config (.ofCache cache registry))) :=
    ⟨Gateway.wired_ofConfig token config cache registry, rfl⟩
  obtain ⟨hbefore, -⟩ := tallies_run hready (Desk.tallies_empty token) before
  have htells := (tracked_run token config cache registry before).tells
  exact (inStep_handshake hbefore htells.interval htells.timeout hlink start).eachMoment hinterval hontime

/-! ## A session that is abandoned -/

instance decidableEachMoment (P : SharedGateway ρ → Watch → Instant → SharedInput → Prop)
    [∀ s w now input, Decidable (P s w now input)] : ∀ s w inputs, Decidable (EachMoment P s w inputs)
  | _, _, [] => inferInstanceAs (Decidable True)
  | s, w, (now, input) :: inputs =>
    have := decidableEachMoment P (s.step now input).1 ((s.occurrences now input).foldl Watch.note w) inputs
    inferInstanceAs (Decidable (_ ∧ (_ → _)))

instance (config : GatewayConfig) (s : SharedGateway ρ) (w : Watch) (now : Instant) (input : SharedInput) :
    Decidable (OnTime config s w now input) :=
  decidable_of_iff ((∀ t ∈ w.due? config.heartbeatInterval, now.nanos ≤ t.nanos) ∧
      ∀ o ∈ s.gateway.dispatcher.outbox, o.waiting.length < o.capacity)
    ⟨fun h => ⟨h.1, h.2⟩, fun h => ⟨h.prompt, h.room⟩⟩

def saysAt (second : Nat) (text : String) : Instant × SharedInput :=
  (⟨second * 1000000000⟩, .own (.frame (.text (Text.Utf8.encode text))))

def ticksAt (second : Nat) : List (Instant × SharedInput) :=
  [(⟨second * 1000000000⟩, .own .clock), (⟨second * 1000000000⟩, .own .write)]

/-- A server that authenticates the client twice and answers the first ping only. -/
def fallsSilent : List (Instant × SharedInput) :=
  saysAt 1 "\x7b\"type\":\"Authenticated\"\x7d" :: ticksAt 31 ++
    saysAt 32 "\x7b\"type\":\"Pong\",\"data\":0\x7d" :: saysAt 45 "\x7b\"type\":\"Authenticated\"\x7d" ::
      (ticksAt 61 ++ ticksAt 91 ++ ticksAt 121)

def freshlyOpened : SharedGateway Nat :=
  ((ofGateway (.ofConfig "t" {} (.ofCache (.empty .standard) .empty))).run [(.start, .own (.launch true))]).1

/-- The pings at 61 s and 91 s are not answered, and the session is over at 121 s. -/
theorem regular_session_fallsSilent :
    freshlyOpened.gateway.link = .dialing ∧
      (freshlyOpened.step .start (.own .handshake)).1.EachMoment (OnTime {}) .idle fallsSilent ∧
      (freshlyOpened.step .start (.own .handshake)).1.EachMoment (Regular {}) .idle fallsSilent ∧
      Traffic.marks ((freshlyOpened.step .start (.own .handshake)).1.run fallsSilent).2 =
        [.drew 1 (.ping 0), .drew 1 (.ping 1), .drew 1 (.ping 1)] ∧
      ((freshlyOpened.step .start (.own .handshake)).1.run fallsSilent).1.gateway.isAttached = false := by
  have hlink : freshlyOpened.gateway.link = .dialing := by rfl
  have hontime : (freshlyOpened.step .start (.own .handshake)).1.EachMoment (OnTime {}) .idle fallsSilent := by
    decide +kernel
  exact ⟨hlink, hontime, regular_session "t" {} (.empty .standard) .empty
    [(.start, .own (.launch true))] .start fallsSilent
    (by decide) hlink hontime, by decide +kernel, by decide +kernel⟩

end SharedGateway

end ChatClient
