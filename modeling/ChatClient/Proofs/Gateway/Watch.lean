import ChatClient.Proofs.Gateway.Delivery
import ChatClient.Proofs.Gateway.Echo
import ChatClient.Proofs.Gateway.HeartbeatStep
/-!
# Watching a heartbeat

A chronicle has what a gateway hears over its sockets, leaf by leaf, and its traffic, each with its time.  Whoever
reads it, and nothing else, can count the acknowledged pongs of the session at hand and knows the pings that wait for
one (`Watch`).  That is the heartbeat's own count and its oldest pending ping, at any time of any run, and the
mismatches are all that were ever reported (`tracked_run`).
-/
namespace ChatClient

/-- What a chronicle tells: an event that is no bulk was heard, or there was some traffic. -/
inductive Occurrence where
  | heard (leaf : Event)
  | seen (entry : Traffic)

/-- What is known of the session at hand, and all mismatches. -/
structure Watch where
  mismatches : List Diagnostic
  /-- When the session was first authenticated. -/
  since? : Option Instant
  /-- How many of its pongs are acknowledged. -/
  acked : Nat
  /-- How many pings its heartbeat handed out. -/
  beats : Nat
  /-- When it did so since the last acknowledged pong, oldest first. -/
  pending : List Instant
deriving DecidableEq, Repr

namespace Watch

def idle : Watch :=
  ⟨[], none, 0, 0, []⟩

def begin (w : Watch) : Watch :=
  ⟨w.mismatches, none, 0, 0, []⟩

/-- **A pong counts if it carries the number of those that counted before it**; any other is a mismatch. -/
def hear (w : Watch) (now : Instant) : Event → Watch
  | .authenticated => { w with since? := some (w.since?.getD now) }
  | .pong pong =>
    if pong.data.toNat = w.acked then { w with acked := w.acked + 1, pending := [] }
    else { w with mismatches := w.mismatches ++ [.heartbeatMismatch w.acked pong.data.toNat] }
  | _ => w

def see (w : Watch) (now : Instant) : Traffic → Watch
  | .attached _ => w.begin
  | .drew _ _ => { w with beats := w.beats + 1, pending := w.pending ++ [now] }
  | _ => w

def note (w : Watch) : Instant × Occurrence → Watch
  | (now, .heard leaf) => w.hear now leaf
  | (now, .seen entry) => w.see now entry

def of (log : List (Instant × Occurrence)) : Watch :=
  log.foldl note idle

end Watch

/-! ## Marks in the traffic -/

namespace Traffic

def isMark : Traffic → Bool
  | .attached _ | .drew _ _ => true
  | _ => false

def marks (entries : List Traffic) : List Traffic :=
  entries.filter (·.isMark)

theorem drew_mem_marks {session : Nat} {m : ClientMessage} {entries : List Traffic} (h : drew session m ∈ entries) :
    drew session m ∈ marks entries :=
  List.mem_filter.2 ⟨h, rfl⟩

@[simp] theorem marks_append (entries entries' : List Traffic) :
    marks (entries ++ entries') = marks entries ++ marks entries' :=
  List.filter_append _ _

@[simp] theorem marks_map_drew (session : Nat) (ms : List ClientMessage) :
    marks (ms.map (drew session)) = ms.map (drew session) := by
  simp [marks, List.filter_eq_self, isMark]

@[simp] theorem marks_map_pinged (session : Nat) (ms : List ClientMessage) : marks (ms.map (pinged session)) = [] := by
  simp [marks, isMark]

@[simp] theorem marks_passed (session call : Nat) (ms : List ClientMessage) : marks (passed session call ms) = [] := by
  induction ms generalizing call with
  | nil => rfl
  | cons m ms ih => exact ih (call + 1)

@[simp] theorem marks_writing (session : Nat) (notices : List Notice) :
    marks (notices.filterMap (writing? session)) = [] := by
  refine List.filter_eq_nil_iff.2 fun entry hentry => ?_
  obtain ⟨n, -, hn⟩ := List.mem_filterMap.1 hentry
  cases n <;> cases hn
  simp [isMark]

@[simp] theorem marks_answer (call session : Nat) (notices : List Notice) :
    marks (notices.filterMap (answer? call session)) = [] := by
  refine List.filter_eq_nil_iff.2 fun entry hentry => ?_
  obtain ⟨n, -, hn⟩ := List.mem_filterMap.1 hentry
  cases n <;> cases hn <;> simp [isMark]

end Traffic

namespace Watch

theorem foldl_see (now : Instant) (entries : List Traffic) (w : Watch) :
    entries.foldl (·.see now) w = (Traffic.marks entries).foldl (·.see now) w := by
  rw [Traffic.marks, List.foldl_filter]
  refine List.foldl_ext _ _ w fun w entry _ => ?_
  cases entry <;> rfl

/-! ## The heartbeat as it is known -/

structure Tells (config : GatewayConfig) (w : Watch) (h : Heartbeat) : Prop where
  interval : h.interval = config.heartbeatInterval
  timeout : h.timeout = config.heartbeatTimeout
  count : h.count = w.acked
  pending : h.pendingSince = w.pending.head?

variable {config : GatewayConfig} {w : Watch} {h : Heartbeat}

theorem Tells.begin (htells : Tells config w h) : Tells config w.begin h.reset :=
  ⟨htells.interval, htells.timeout, rfl, rfl⟩

theorem Tells.draw (htells : Tells config w h) (now : Instant) (k : Nat) (m : ClientMessage) :
    Tells config (w.see now (.drew k m)) (h.nextPing now).1 := by
  refine ⟨htells.interval, htells.timeout, htells.count, ?_⟩
  have hpending := htells.pending
  unfold Heartbeat.nextPing see
  dsimp only
  rw [hpending, List.head?_append]
  cases w.pending.head? <;> rfl

/-- **One leaf**: the pulse and the watch make the same of it. -/
theorem Tells.hear (now : Instant) (beat : Option Beat) {leaf : Event} (hleaf : leaf.kind ≠ .bulk)
    (htells : Tells config w h) :
    Tells config (w.hear now leaf) (Pulse.route now ⟨h, beat⟩ leaf).1.heartbeat ∧
      (w.hear now leaf).mismatches = w.mismatches ++ (Pulse.route now ⟨h, beat⟩ leaf).2 := by
  cases leaf with
  | bulk events => exact absurd rfl hleaf
  | authenticated =>
    rw [Pulse.route]
    refine ⟨?_, (List.append_nil _).symm⟩
    cases beat <;> exact ⟨htells.interval, htells.timeout, htells.count, htells.pending⟩
  | pong pong =>
    rw [Pulse.route, Pulse.pong]
    unfold Watch.hear
    dsimp only
    by_cases hn : pong.data.toNat = w.acked
    · rw [if_pos hn, hn, ← htells.count, EchoSession.onPong_count]
      exact ⟨⟨htells.interval, htells.timeout, rfl, rfl⟩, (List.append_nil _).symm⟩
    · rw [if_neg hn, EchoSession.onPong_of_ne (htells.count ▸ hn)]
      refine ⟨⟨htells.interval, htells.timeout, htells.count, htells.pending⟩, ?_⟩
      rw [htells.count]
  | _ =>
    simp only [Pulse.route]
    exact ⟨htells, (List.append_nil _).symm⟩

theorem Tells.hearAll (now : Instant) {leaves : List Event} (hleaves : ∀ l ∈ leaves, l.kind ≠ .bulk)
    (beat : Option Beat) (htells : Tells config w h) :
    Tells config (leaves.foldl (·.hear now) w) (Pulse.routeAll now ⟨h, beat⟩ leaves).1.heartbeat ∧
      (leaves.foldl (·.hear now) w).mismatches = w.mismatches ++ (Pulse.routeAll now ⟨h, beat⟩ leaves).2 := by
  induction leaves generalizing w h beat with
  | nil =>
    rw [Pulse.routeAll]
    exact ⟨htells, (List.append_nil _).symm⟩
  | cons leaf leaves ih =>
    obtain ⟨hleaf, hleaves⟩ := List.forall_mem_cons.1 hleaves
    obtain ⟨hnext, hone⟩ := htells.hear now beat hleaf
    obtain ⟨hlast, hall⟩ := ih hleaves (Pulse.route now ⟨h, beat⟩ leaf).1.beat hnext
    rw [Pulse.routeAll, List.foldl_cons]
    refine ⟨hlast, ?_⟩
    rw [hall, hone, List.append_assoc]

end Watch

theorem Link.unblocked_eq_self {link : Link} (h : link.blocked? = none) : link.unblocked = link := by
  cases link with
  | online beat =>
    rcases beat with - | ⟨ticker, - | data⟩
    · rfl
    · rfl
    · cases h
  | _ => rfl

namespace SharedGateway

variable {ρ : Type} {s : SharedGateway ρ} {config : GatewayConfig} {token : String}
    {earlier : List Diagnostic} {w : Watch}

/-! ## Chronicles -/

def heard (s : SharedGateway ρ) : SharedInput → List Event
  | .own (.frame frame) => if s.gateway.isAttached then (frame.event?.map Event.leaves).getD [] else []
  | _ => []

def occurrences (s : SharedGateway ρ) (now : Instant) (input : SharedInput) : List (Instant × Occurrence) :=
  (s.heard input).map (now, .heard ·) ++ (s.step now input).2.map (now, .seen ·)

theorem heard_of_not_own {input : SharedInput} (hown : ∀ i, input ≠ .own i) : s.heard input = [] := by
  cases input with
  | own i => exact absurd rfl (hown i)
  | _ => rfl

def chronicle (s : SharedGateway ρ) : List (Instant × SharedInput) → List (Instant × Occurrence)
  | [] => []
  | (now, input) :: inputs => s.occurrences now input ++ (s.step now input).1.chronicle inputs

theorem foldl_occurrences (s : SharedGateway ρ) (now : Instant) (input : SharedInput) (w : Watch) :
    (s.occurrences now input).foldl Watch.note w =
      (Traffic.marks (s.step now input).2).foldl (·.see now) ((s.heard input).foldl (·.hear now) w) := by
  rw [← Watch.foldl_see, occurrences, List.foldl_append, List.foldl_map, List.foldl_map]
  rfl

/-! ## The marks of each step -/

theorem marks_own (s : SharedGateway ρ) (now : Instant) (input : GatewayInput) :
    Traffic.marks (s.own now input).2 =
      match s.gateway.dispatcher.outbox, (s.gateway.step now input).1.dispatcher.outbox, input with
      | none, some _, _ => [.attached (s.session + 1)]
      | some _, none, _ => []
      | _, _, .clock => (s.gateway.drawn? now).toList.map (.drew s.session)
      | _, _, _ => [] := by
  have hattached (k : Nat) : Traffic.marks [.attached k] = [.attached k] := rfl
  have hcalled (n : Nat) (m : ClientMessage) (found : Option Nat) (entries : List Traffic) :
      Traffic.marks (.called n m found :: entries) = Traffic.marks entries := rfl
  have hdetached : Traffic.marks [.detached] = [] := rfl
  unfold own
  dsimp only
  split <;> simp_all

/-- Only a reading of the clock makes the gateway itself hand out a ping. -/
theorem drew_not_mem_own (s : SharedGateway ρ) (now : Instant) {input : GatewayInput}
    (hinput : input ≠ .clock) (k : Nat) (m : ClientMessage) : .drew k m ∉ (s.own now input).2 := by
  intro hmem
  have hmark := Traffic.drew_mem_marks hmem
  rw [marks_own] at hmark
  split at hmark
  · simp at hmark
  · cases hmark
  · exact hinput rfl
  · cases hmark

/-- **What callers, the writer and those who wait for room leave alone.** -/
structure Aside (s s' : SharedGateway ρ) : Prop where
  heartbeat : s'.gateway.heartbeat = s.gateway.heartbeat
  mismatches : s'.gateway.mismatches = s.gateway.mismatches
  config : s'.gateway.config = s.gateway.config
  isAttached : s'.gateway.isAttached = s.gateway.isAttached
  link : s.gateway.link.blocked? = none → s'.gateway.link = s.gateway.link

theorem Aside.of_gateway {s' : SharedGateway ρ} (hgateway : s'.gateway = s.gateway) : Aside s s' := by
  refine ⟨?_, ?_, ?_, ?_, ?_⟩ <;> simp [hgateway]

theorem aside_withQueue (s : SharedGateway ρ) (o : Outbox) : Aside s (s.withQueue o) := by
  unfold withQueue
  cases hattached : s.gateway.isAttached with
  | true => exact ⟨rfl, rfl, rfl, hattached.symm, fun _ => rfl⟩
  | false => exact .of_gateway rfl

theorem Aside.unblocked {s₀ : SharedGateway ρ} (h : Aside s₀ s) : Aside s₀ s.unblocked := by
  have hlink : s₀.gateway.link.blocked? = none → s.gateway.link.unblocked = s₀.gateway.link := fun hblocked => by
    rw [h.link hblocked, Link.unblocked_eq_self hblocked]
  unfold SharedGateway.unblocked
  cases s.gateway.isAttached with
  | true => exact ⟨h.heartbeat, h.mismatches, h.config, h.isAttached, hlink⟩
  | false => exact ⟨h.heartbeat, h.mismatches, h.config, h.isAttached, h.link⟩

theorem aside_step (s : SharedGateway ρ) (now : Instant) {input : SharedInput} (hown : ∀ i, input ≠ .own i)
    (hlate : input ≠ .lateTick) : Aside s (s.step now input).1 ∧ Traffic.marks (s.step now input).2 = [] := by
  cases input with
  | own i => exact absurd rfl (hown i)
  | lateTick => exact absurd rfl hlate
  | call m waits =>
    unfold step call
    dsimp only
    split <;> exact ⟨.of_gateway rfl, rfl⟩
  | put place =>
    unfold step put
    dsimp only
    split
    · exact ⟨.of_gateway rfl, rfl⟩
    · split
      · have hqueue := aside_withQueue s ‹Outbox›
        exact ⟨⟨hqueue.heartbeat, hqueue.mismatches, hqueue.config, hqueue.isAttached, hqueue.link⟩, rfl⟩
      · split <;> exact ⟨.of_gateway rfl, rfl⟩
  | abandon place => exact ⟨.of_gateway rfl, rfl⟩
  | write =>
    unfold step write
    dsimp only
    split
    · exact ⟨aside_withQueue s _, rfl⟩
    · exact ⟨.of_gateway rfl, rfl⟩
  | ping =>
    unfold step ping
    dsimp only
    split
    · exact ⟨.of_gateway rfl, rfl⟩
    · split
      · exact ⟨(aside_withQueue s _).unblocked, rfl⟩
      · exact ⟨.of_gateway rfl, rfl⟩
  | stop => exact ⟨.of_gateway rfl, rfl⟩

/-! ## Watching whole runs -/

/-- **The heartbeat is as it is known to be**, and the mismatches that are known are those reported since the watch
began. -/
structure Tracked (config : GatewayConfig) (earlier : List Diagnostic) (w : Watch) (g : Gateway ρ) : Prop where
  tells : w.Tells config g.heartbeat
  mismatches : g.mismatches = earlier ++ w.mismatches

theorem tracked_ofConfig (token : String) (config : GatewayConfig) (dispatcher : Dispatcher ρ)
    (hreports : dispatcher.reports = []) : Tracked config [] .idle (.ofConfig token config dispatcher) := by
  refine ⟨⟨rfl, rfl, rfl, rfl⟩, ?_⟩
  unfold Gateway.mismatches Gateway.ofConfig
  rw [hreports]
  rfl

theorem Tracked.of_same {g g' : Gateway ρ} (h : Tracked config earlier w g) (hheartbeat : g'.heartbeat = g.heartbeat)
    (hmismatches : g'.mismatches = g.mismatches) : Tracked config earlier w g' :=
  ⟨hheartbeat ▸ h.tells, hmismatches.trans h.mismatches⟩

theorem heard_of_frame {frame : Frame} {beat : Option Beat} (h : s.gateway.Wired)
    (hlink : s.gateway.link = .online beat) :
    s.heard (.own (.frame frame)) = (frame.event?.map Event.leaves).getD [] := by
  obtain ⟨o, ho⟩ := h.attached hlink
  exact if_pos (Gateway.isAttached_of_some ho)

/-- Nothing is heard without a socket, nor of a frame that spells nothing. -/
theorem heard_eq_nil {input : GatewayInput} (h : s.gateway.Wired)
    (hframe : ∀ frame beat, input = .frame frame → s.gateway.link = .online beat → frame.event? = none) :
    s.heard (.own input) = [] := by
  cases input with
  | frame frame =>
    cases hlink : s.gateway.link with
    | online beat => rw [heard_of_frame h hlink, hframe frame beat rfl hlink]; rfl
    | _ =>
      have hnone := h.detached (by rw [hlink]; rfl)
      exact if_neg (by simp [Gateway.isAttached_of_none hnone])
  | _ => rfl

theorem Tracked.own (htracked : Tracked config earlier w s.gateway) (h : s.gateway.Wired) (now : Instant)
    (input : GatewayInput) :
    Tracked config earlier ((s.occurrences now (.own input)).foldl Watch.note w) (s.own now input).1.gateway := by
  have hwired := Gateway.wired_step h now input
  have hstep := Gateway.heartbeatStep_step h now input
  rw [foldl_occurrences, own_gateway]
  change Tracked config earlier ((Traffic.marks (s.own now input).2).foldl _ _) _
  rw [marks_own]
  generalize (s.gateway.step now input).1 = g at hstep hwired
  cases hstep with
  | began hlink hto hheartbeat hsame =>
    have hnone := h.detached (by rw [hlink]; rfl)
    obtain ⟨o, ho⟩ := hwired.attached hto
    rw [hnone, ho]
    exact ⟨hheartbeat ▸ htracked.tells.begin, hsame.trans htracked.mismatches⟩
  | @heard frame beat e _ hlink he hto hheartbeat hmore =>
    obtain ⟨o, ho⟩ := h.attached hlink
    obtain ⟨o', ho'⟩ := hwired.attached hto
    obtain ⟨htells, hreports⟩ := htracked.tells.hearAll now e.kind_of_mem_leaves beat
    rw [ho, ho', heard_of_frame h hlink, he]
    rw [Pulse.route_eq_routeAll] at hheartbeat hmore
    refine ⟨hheartbeat ▸ htells, ?_⟩
    rw [hmore, htracked.mismatches, List.append_assoc, ← hreports]
    rfl
  | drew hlink hdue hoverdue hto hheartbeat hsame =>
    obtain ⟨o, ho⟩ := h.attached hlink
    obtain ⟨o', ho'⟩ := hwired.attached hto
    rw [ho, ho', Gateway.drawn?_eq_some hlink hdue hoverdue]
    exact ⟨hheartbeat ▸ htracked.tells.draw now s.session (.pingOf s.gateway.heartbeat.count),
      hsame.trans htracked.mismatches⟩
  | gaveUp hlink hdue hoverdue hto hheartbeat hsame =>
    obtain ⟨o, ho⟩ := h.attached hlink
    rw [ho, hwired.detached hto]
    exact htracked.of_same hheartbeat hsame
  | kept hlink hhandshake hframe hclock hnone hheartbeat hsame =>
    rw [heard_eq_nil h hframe]
    split
    · rename_i ho ho'
      rw [hnone ho] at ho'
      cases ho'
    · exact htracked.of_same hheartbeat hsame
    · rw [Gateway.drawn?_eq_none fun ticker h => (hclock rfl ticker h).1]
      exact htracked.of_same hheartbeat hsame
    · exact htracked.of_same hheartbeat hsame

/-- A late tick hands out one more ping, or does nothing. -/
theorem lateTick_cases (s : SharedGateway ρ) (now : Instant) :
    s.lateTick now = (s, []) ∨
      (s.lateTick now).2 = [.drew s.session (.pingOf s.gateway.heartbeat.count)] ∧
        (s.lateTick now).1.gateway = { s.gateway with heartbeat := (s.gateway.heartbeat.nextPing now).1 } := by
  unfold lateTick
  split
  · split
    · exact .inl rfl
    · exact .inr ⟨rfl, rfl⟩
  · exact .inl rfl

theorem Tracked.lateTick (htracked : Tracked config earlier w s.gateway) (now : Instant) :
    Tracked config earlier ((s.occurrences now .lateTick).foldl Watch.note w) (s.lateTick now).1.gateway := by
  rw [foldl_occurrences]
  change Tracked config earlier ((Traffic.marks (s.lateTick now).2).foldl (·.see now) w) _
  rcases lateTick_cases s now with hsame | ⟨hdrew, hgateway⟩
  · rw [hsame]
    exact htracked
  · rw [hdrew, hgateway]
    exact ⟨htracked.tells.draw now s.session (.pingOf s.gateway.heartbeat.count), htracked.mismatches⟩

theorem Tracked.step (htracked : Tracked config earlier w s.gateway) (h : s.gateway.Wired) (now : Instant)
    (input : SharedInput) :
    Tracked config earlier ((s.occurrences now input).foldl Watch.note w) (s.step now input).1.gateway := by
  by_cases hown : ∃ i, input = .own i
  · obtain ⟨i, rfl⟩ := hown
    exact htracked.own h now i
  · by_cases hlate : input = .lateTick
    · subst hlate
      exact htracked.lateTick now
    · rw [not_exists] at hown
      obtain ⟨haside, hmarks⟩ := aside_step s now hown hlate
      rw [foldl_occurrences, hmarks, heard_of_not_own hown]
      exact htracked.of_same haside.heartbeat haside.mismatches

/-- **Every run is tracked**, from any state of which it is known how the heartbeat is. -/
theorem Tracked.run (htracked : Tracked config earlier w s.gateway) (h : Ready token s)
    (inputs : List (Instant × SharedInput)) :
    Tracked config earlier ((s.chronicle inputs).foldl Watch.note w) (s.run inputs).1.gateway := by
  induction inputs generalizing s w with
  | nil => exact htracked
  | cons input inputs ih =>
    obtain ⟨now, input⟩ := input
    rw [chronicle, List.foldl_append]
    exact ih (htracked.step h.wired now input) (h.step now input)

/-- **A gateway is tracked from its beginning.** -/
theorem tracked_run (token : String) (config : GatewayConfig) (cache : Cache) (registry : Registry ρ)
    (inputs : List (Instant × SharedInput)) :
    let s := ofGateway (.ofConfig token config (.ofCache cache registry))
    Tracked config [] (.of (s.chronicle inputs)) (s.run inputs).1.gateway :=
  (tracked_ofConfig token config (.ofCache cache registry) rfl).run
    (s := ofGateway _) ⟨Gateway.wired_ofConfig token config cache registry, rfl⟩ inputs

end SharedGateway

end ChatClient
