import ChatClient.Proofs.Gateway.Count
import ChatClient.Proofs.Gateway.TimeShift
import ChatClient.Proofs.Gateway.Lifecycle
import ChatClient.Proofs.Gateway.Rhythm
/-!
# Sessions apart

What can be seen of a session from its socket (`Sign`), the mismatches that it reports and the time at which it is
lost rest on what happens in it and on what callers and observers put into its outbox.  What was before it does not
show: two gateways of one configuration that begin a session after whatever pasts go side by side from then on
(`SideBySide`), the one some milliseconds behind the other.
-/
namespace ChatClient

/-- What can be seen of the outbox and the socket of a session, whichever session it is. -/
inductive Sign where
  | attached
  | detached
  | drew (ping : ClientMessage)
  | pinged (ping : ClientMessage)
  | wrote (message : ClientMessage)
deriving DecidableEq, Repr

def Notice.sign? : Notice → Option Sign
  | .wrote m => some (.wrote m)
  | _ => none

namespace Traffic

def sign? : Traffic → Option Sign
  | .attached _ => some .attached
  | .detached => some .detached
  | .drew _ ping => some (.drew ping)
  | .pinged _ ping => some (.pinged ping)
  | .wrote _ m => some (.wrote m)
  | _ => none

def signs (entries : List Traffic) : List Sign :=
  entries.filterMap sign?

def taken? : Traffic → Option ClientMessage
  | .accepted _ _ m => some m
  | _ => none

def taken (entries : List Traffic) : List ClientMessage :=
  entries.filterMap taken?

@[simp] theorem signs_append (entries entries' : List Traffic) :
    signs (entries ++ entries') = signs entries ++ signs entries' :=
  List.filterMap_append

@[simp] theorem signs_map_drew (session : Nat) (ms : List ClientMessage) :
    signs (ms.map (drew session)) = ms.map .drew := by
  induction ms with
  | nil => rfl
  | cons m ms ih => exact congrArg (Sign.drew m :: ·) ih

@[simp] theorem signs_map_pinged (session : Nat) (ms : List ClientMessage) :
    signs (ms.map (pinged session)) = ms.map .pinged := by
  induction ms with
  | nil => rfl
  | cons m ms ih => exact congrArg (Sign.pinged m :: ·) ih

@[simp] theorem signs_passed (session call : Nat) (ms : List ClientMessage) : signs (passed session call ms) = [] := by
  induction ms generalizing call with
  | nil => rfl
  | cons m ms ih => exact ih (call + 1)

@[simp] theorem taken_passed (session call : Nat) (ms : List ClientMessage) : taken (passed session call ms) = ms := by
  induction ms generalizing call with
  | nil => rfl
  | cons m ms ih => exact congrArg (m :: ·) (ih (call + 1))

@[simp] theorem signs_writing (session : Nat) (notices : List Notice) :
    signs (notices.filterMap (writing? session)) = notices.filterMap Notice.sign? := by
  rw [signs, List.filterMap_filterMap]
  congr 1
  funext n
  cases n <;> rfl

@[simp] theorem signs_answer (call session : Nat) (notices : List Notice) :
    signs (notices.filterMap (answer? call session)) = [] := by
  rw [signs, List.filterMap_filterMap, List.filterMap_eq_nil_iff]
  intro n _
  cases n <;> rfl

@[simp] theorem taken_writing (session : Nat) (notices : List Notice) :
    taken (notices.filterMap (writing? session)) = [] := by
  rw [taken, List.filterMap_filterMap, List.filterMap_eq_nil_iff]
  intro n _
  cases n <;> rfl

end Traffic

def SharedInput.isCallers : SharedInput → Bool
  | .call _ _ | .put _ | .abandon _ => true
  | _ => false

namespace SharedGateway

variable {ρ : Type} {s s' : SharedGateway ρ} {delay : Nat} {token : String} {now : Instant}

/-! ## What shows of a step -/

theorem signs_own (s : SharedGateway ρ) (now : Instant) (input : GatewayInput) :
    Traffic.signs (s.own now input).2 =
      match s.gateway.dispatcher.outbox, (s.gateway.step now input).1.dispatcher.outbox, input with
      | none, some _, _ => (s.gateway.step now input).2.filterMap Notice.sign? ++ [.attached]
      | some _, none, _ => [.detached]
      | _, _, .send _ => []
      | _, _, .frame _ => []
      | before, after, .clock => (s.gateway.drawn? now).toList.map .drew ++ (Outbox.gained before after).map .pinged
      | before, after, _ =>
          (s.gateway.step now input).2.filterMap Notice.sign? ++ (Outbox.gained before after).map .pinged := by
  have hattached (k : Nat) : Traffic.signs [.attached k] = [.attached] := rfl
  have hdetached : Traffic.signs [.detached] = [.detached] := rfl
  have hcalled (n : Nat) (m : ClientMessage) (found : Option Nat) (entries : List Traffic) :
      Traffic.signs (.called n m found :: entries) = Traffic.signs entries := rfl
  unfold own
  dsimp only
  split <;> simp_all

theorem leftover_own (s : SharedGateway ρ) (now : Instant) (input : GatewayInput) :
    (s.own now input).1.leftover =
      match s.gateway.dispatcher.outbox, (s.gateway.step now input).1.dispatcher.outbox with
      | none, some _ => none
      | some o, none => some ⟨o, s.gateway.link.blocked?⟩
      | _, _ => s.leftover := by
  unfold own
  dsimp only
  split <;> simp_all

theorem taken_own_frame (s : SharedGateway ρ) (now : Instant) (frame : Frame) :
    Traffic.taken (s.own now (.frame frame)).2 =
      Outbox.gained s.gateway.dispatcher.outbox (s.gateway.step now (.frame frame)).1.dispatcher.outbox := by
  have hattached (k : Nat) (entries : List Traffic) :
      Traffic.taken (entries ++ [.attached k]) = Traffic.taken entries := by
    simp [Traffic.taken, Traffic.taken?]
  unfold own
  dsimp only
  split <;> simp_all [Outbox.gained]
  rfl

/-! ## Twins -/

/-- **One gateway among its callers is where another was some milliseconds before.**  The calls may be others. -/
structure Twins (delay : Nat) (s s' : SharedGateway ρ) : Prop where
  gateway : Gateway.Twins delay s.gateway s'.gateway
  leftover : s'.leftover = s.leftover

structure Follows (delay : Nat) (r r' : SharedGateway ρ × List Traffic) : Prop where
  twins : Twins delay r.1 r'.1
  signs : Traffic.signs r'.2 = Traffic.signs r.2

namespace Twins

theorem queue? (h : Twins delay s s') : s'.queue? = s.queue? := by
  unfold SharedGateway.queue?
  rw [h.gateway.outbox, h.leftover]

theorem blocked? (h : Twins delay s s') : s'.blocked? = s.blocked? := by
  unfold SharedGateway.blocked?
  rw [h.gateway.isAttached, h.gateway.link, Link.blocked?_later, h.leftover]

theorem withQueue (h : Twins delay s s') (o : Outbox) : Twins delay (s.withQueue o) (s'.withQueue o) := by
  unfold SharedGateway.withQueue
  rw [h.gateway.isAttached]
  cases s.gateway.isAttached with
  | true => exact ⟨h.gateway.withOutbox (some o), h.leftover⟩
  | false => exact ⟨h.gateway, congrArg (Option.map _) h.leftover⟩

theorem unblocked (h : Twins delay s s') : Twins delay s.unblocked s'.unblocked := by
  unfold SharedGateway.unblocked
  rw [h.gateway.isAttached]
  cases s.gateway.isAttached with
  | true =>
    rw [h.gateway.link, Link.unblocked_later]
    exact ⟨h.gateway.withLink _, h.leftover⟩
  | false => exact ⟨h.gateway, congrArg (Option.map _) h.leftover⟩

theorem write (h : Twins delay s s') : Follows delay s.write s'.write := by
  unfold SharedGateway.write
  rw [h.queue?]
  cases s.queue?.bind Outbox.write? with
  | none => exact ⟨h, rfl⟩
  | some written => exact ⟨h.withQueue written.2, rfl⟩

theorem ping (h : Twins delay s s') : Follows delay s.ping s'.ping := by
  unfold SharedGateway.ping
  rw [h.blocked?, h.queue?]
  cases s.blocked? with
  | none => exact ⟨h, rfl⟩
  | some m =>
    dsimp only
    cases Outbox.offer s.queue? m with
    | ok o => exact ⟨(h.withQueue o).unblocked, rfl⟩
    | error e => exact ⟨h, rfl⟩

theorem lateTick (h : Twins delay s s') (now : Instant) :
    Follows delay (s.lateTick now) (s'.lateTick (now.later delay)) := by
  unfold SharedGateway.lateTick
  rw [h.gateway.outbox, h.leftover, h.gateway.heartbeat, Heartbeat.isOverdue_later, Heartbeat.nextPing_later]
  split
  · rename_i o _ _
    by_cases hoverdue : s.gateway.heartbeat.isOverdue now = true
    · rw [if_pos hoverdue, if_pos hoverdue]
      exact ⟨h, rfl⟩
    · rw [if_neg hoverdue, if_neg hoverdue]
      exact ⟨⟨h.gateway.withHeartbeat _, rfl⟩, rfl⟩
  · exact ⟨h, rfl⟩

theorem own (h : Twins delay s s') (hwired : s.gateway.Wired) (hwired' : s'.gateway.Wired) (now : Instant)
    (input : GatewayInput)
    (htaken : Traffic.taken (s'.own (now.later delay) input).2 = Traffic.taken (s.own now input).2) :
    Follows delay (s.own now input) (s'.own (now.later delay) input) := by
  have hgained : ∀ frame, input = .frame frame →
      Outbox.gained s.gateway.dispatcher.outbox (s.gateway.step now input).1.dispatcher.outbox =
        Outbox.gained s'.gateway.dispatcher.outbox (s'.gateway.step (now.later delay) input).1.dispatcher.outbox := by
    rintro frame rfl
    rw [← taken_own_frame, ← taken_own_frame, htaken]
  obtain ⟨htwins, hnotices⟩ := h.gateway.step hwired hwired' now input hgained
  refine ⟨⟨?_, ?_⟩, ?_⟩
  · rw [own_gateway, own_gateway]
    exact htwins
  · rw [leftover_own, leftover_own, h.gateway.outbox, htwins.outbox, h.gateway.link, Link.blocked?_later, h.leftover]
  · rw [signs_own, signs_own, h.gateway.outbox, htwins.outbox, hnotices, h.gateway.drawn?]

end Twins

/-! ## Callers -/

/-- **What a caller does shows only in what comes in.** -/
theorem step_callers (s : SharedGateway ρ) (now : Instant) {input : SharedInput} (hinput : input.isCallers = true) :
    Traffic.signs (s.step now input).2 = [] ∧
      (Traffic.taken (s.step now input).2 = [] ∧ (s.step now input).1.gateway = s.gateway ∧
          (s.step now input).1.leftover = s.leftover ∨
        ∃ o m, s.queue? = some o ∧ Traffic.taken (s.step now input).2 = [m] ∧
          (s.step now input).1.gateway = (s.withQueue { o with accepted := o.accepted ++ [m] }).gateway ∧
          (s.step now input).1.leftover = (s.withQueue { o with accepted := o.accepted ++ [m] }).leftover) := by
  cases input with
  | call m waits =>
    unfold step call
    dsimp only
    split <;> exact ⟨rfl, .inl ⟨rfl, rfl, rfl⟩⟩
  | put place =>
    unfold step put
    dsimp only
    split
    · exact ⟨rfl, .inl ⟨rfl, rfl, rfl⟩⟩
    · split
      · rename_i c _ _ o' hoffer
        -- the outbox that takes the message in is the last one
        by_cases hsession : c.session = s.session
        · rw [if_pos hsession] at hoffer
          cases ho : s.queue? with
          | none =>
            rw [ho] at hoffer
            cases hoffer
          | some o =>
            rw [ho] at hoffer
            rw [Outbox.offer_eq_ok hoffer]
            exact ⟨rfl, .inr ⟨o, c.message, rfl, rfl, rfl, rfl⟩⟩
        · rw [if_neg hsession] at hoffer
          cases hoffer
      · split <;> exact ⟨rfl, .inl ⟨rfl, rfl, rfl⟩⟩
  | abandon place => exact ⟨rfl, .inl ⟨rfl, rfl, rfl⟩⟩
  | _ => cases hinput

theorem Twins.callers (h : Twins delay s s') (now : Instant) {input input' : SharedInput}
    (hinput : input.isCallers = true) (hinput' : input'.isCallers = true)
    (htaken : Traffic.taken (s'.step (now.later delay) input').2 = Traffic.taken (s.step now input).2) :
    Follows delay (s.step now input) (s'.step (now.later delay) input') := by
  obtain ⟨hsigns, hleft⟩ := step_callers s now hinput
  obtain ⟨hsigns', hleft'⟩ := step_callers s' (now.later delay) hinput'
  refine ⟨?_, hsigns'.trans hsigns.symm⟩
  rcases hleft with ⟨hnone, hgateway, hleftover⟩ | ⟨o, m, ho, hone, hgateway, hleftover⟩
  · rcases hleft' with ⟨-, hgateway', hleftover'⟩ | ⟨_, _, -, hone', -⟩
    · refine ⟨?_, ?_⟩
      · rw [hgateway, hgateway']
        exact h.gateway
      · rw [hleftover, hleftover', h.leftover]
    · rw [hnone, hone'] at htaken
      cases htaken
  · rcases hleft' with ⟨hnone', -⟩ | ⟨o', m', ho', hone', hgateway', hleftover'⟩
    · rw [hnone', hone] at htaken
      cases htaken
    · rw [hone, hone'] at htaken
      cases htaken
      obtain rfl : o' = o := Option.some.inj (ho'.symm.trans (h.queue?.trans ho))
      have hqueue := h.withQueue { o' with accepted := o'.accepted ++ [m] }
      refine ⟨?_, ?_⟩
      · rw [hgateway, hgateway']
        exact hqueue.gateway
      · rw [hleftover, hleftover']
        exact hqueue.leftover

/-! ## Side by side -/

/-- The same is done to two gateways, the one some milliseconds behind the other.  Callers may do as they like if they
bring in the same. -/
structure GivenAlike (delay : Nat) (s s' : SharedGateway ρ) (now : Instant) (input input' : SharedInput) : Prop where
  alike : input' = input ∨ input.isCallers = true ∧ input'.isCallers = true
  taken : Traffic.taken (s'.step (now.later delay) input').2 = Traffic.taken (s.step now input).2

/-- The same comes of it: what shows, the mismatches that are reported, and what becomes of the heartbeat and the
link. -/
structure ActsAlike (delay : Nat) (s s' : SharedGateway ρ) (now : Instant) (input input' : SharedInput) : Prop where
  signs : Traffic.signs (s'.step (now.later delay) input').2 = Traffic.signs (s.step now input).2
  mismatches : ∃ more, (s.step now input).1.gateway.mismatches = s.gateway.mismatches ++ more ∧
    (s'.step (now.later delay) input').1.gateway.mismatches = s'.gateway.mismatches ++ more
  heartbeat : (s'.step (now.later delay) input').1.gateway.heartbeat =
    (s.step now input).1.gateway.heartbeat.later delay
  link : (s'.step (now.later delay) input').1.gateway.link = (s.step now input).1.gateway.link.later delay

/-- What holds at each step of two gateways, the one some milliseconds behind the other. -/
def SideBySide (delay : Nat)
    (P : SharedGateway ρ → SharedGateway ρ → Instant → SharedInput → SharedInput → Prop)
    (s s' : SharedGateway ρ) : List (Instant × SharedInput × SharedInput) → Prop
  | [] => True
  | (now, input, input') :: script =>
    P s s' now input input' ∧ SideBySide delay P (s.step now input).1 (s'.step (now.later delay) input').1 script

/-- **One step side by side.** -/
theorem Twins.step (h : Twins delay s s') (hs : Ready token s) (hs' : Ready token s') {input input' : SharedInput}
    (hgiven : GivenAlike delay s s' now input input') :
    Follows delay (s.step now input) (s'.step (now.later delay) input') := by
  rcases hgiven.alike with rfl | ⟨hinput, hinput'⟩
  · cases input' with
    | own i => exact h.own hs.wired hs'.wired now i hgiven.taken
    | call m waits => exact h.callers now rfl rfl hgiven.taken
    | put place => exact h.callers now rfl rfl hgiven.taken
    | abandon place => exact h.callers now rfl rfl hgiven.taken
    | write => exact h.write
    | ping => exact h.ping
    | lateTick => exact h.lateTick now
    | stop => exact ⟨⟨h.gateway, rfl⟩, rfl⟩
  · exact h.callers now hinput hinput' hgiven.taken

def newMismatches (s : SharedGateway ρ) (now : Instant) : SharedInput → List Diagnostic
  | .own i => s.gateway.newMismatches now i
  | _ => []

theorem mismatches_step (h : s.gateway.Wired) (now : Instant) (input : SharedInput) :
    (s.step now input).1.gateway.mismatches = s.gateway.mismatches ++ s.newMismatches now input := by
  by_cases hown : ∃ i, input = .own i
  · obtain ⟨i, rfl⟩ := hown
    change (s.own now i).1.gateway.mismatches = _
    rw [own_gateway]
    exact Gateway.mismatches_step h now i
  · rw [not_exists] at hown
    have hnone : s.newMismatches now input = [] := by
      cases input with
      | own i => exact absurd rfl (hown i)
      | _ => rfl
    rw [hnone, List.append_nil]
    by_cases hlate : input = .lateTick
    · subst hlate
      change (s.lateTick now).1.gateway.mismatches = _
      rcases lateTick_cases s now with hsame | ⟨-, hgateway⟩
      · rw [hsame]
      · rw [hgateway]
        rfl
    · exact (aside_step s now hown hlate).1.mismatches

theorem Twins.newMismatches (h : Twins delay s s') {input input' : SharedInput}
    (hgiven : GivenAlike delay s s' now input input') :
    s'.newMismatches (now.later delay) input' = s.newMismatches now input := by
  rcases hgiven.alike with rfl | ⟨hinput, hinput'⟩
  · cases input' with
    | own i => exact h.gateway.newMismatches now i
    | _ => rfl
  · cases input <;> cases hinput <;> cases input' <;> cases hinput' <;> rfl

theorem Twins.actsAlike (h : Twins delay s s') (hs : Ready token s) (hs' : Ready token s') {input input' : SharedInput}
    (hgiven : GivenAlike delay s s' now input input') : ActsAlike delay s s' now input input' := by
  obtain ⟨htwins, hsigns⟩ := h.step hs hs' hgiven
  refine ⟨hsigns, ⟨s.newMismatches now input, mismatches_step hs.wired now input, ?_⟩, htwins.gateway.heartbeat,
    htwins.gateway.link⟩
  rw [mismatches_step hs'.wired, h.newMismatches hgiven]

/-- **Twins go side by side.** -/
theorem Twins.sideBySide (h : Twins delay s s') (hs : Ready token s) (hs' : Ready token s')
    {script : List (Instant × SharedInput × SharedInput)} (hgiven : SideBySide delay (GivenAlike delay) s s' script) :
    SideBySide delay (ActsAlike delay) s s' script := by
  induction script generalizing s s' with
  | nil => trivial
  | cons moment script ih =>
    obtain ⟨now, input, input'⟩ := moment
    obtain ⟨hfirst, hrest⟩ := hgiven
    exact ⟨h.actsAlike hs hs' hfirst, ih (h.step hs hs' hfirst).twins (hs.step now input) (hs'.step _ input') hrest⟩

/-! ## Sessions that begin -/

theorem config_step (s : SharedGateway ρ) (now : Instant) (input : SharedInput) :
    (s.step now input).1.gateway.config = s.gateway.config := by
  by_cases hown : ∃ i, input = .own i
  · obtain ⟨i, rfl⟩ := hown
    change (s.own now i).1.gateway.config = _
    rw [own_gateway]
    exact (Gateway.advance_step s.gateway now i).config
  · by_cases hlate : input = .lateTick
    · subst hlate
      change (s.lateTick now).1.gateway.config = _
      rcases lateTick_cases s now with hsame | ⟨-, hgateway⟩
      · rw [hsame]
      · rw [hgateway]
    · exact (aside_step s now (not_exists.1 hown) hlate).1.config

theorem config_run (s : SharedGateway ρ) (inputs : List (Instant × SharedInput)) :
    (s.run inputs).1.gateway.config = s.gateway.config := by
  induction inputs generalizing s with
  | nil => rfl
  | cons input inputs ih => exact (ih _).trans (config_step s input.1 input.2)

/-- **A handshake makes twins of any two gateways** of one token and configuration. -/
theorem twins_handshake (hs : Ready token s) (hs' : Ready token s') (hconfig : s'.gateway.config = s.gateway.config)
    (hreset : s'.gateway.heartbeat.reset = s.gateway.heartbeat.reset) (hlink : s.gateway.link = .dialing)
    (hlink' : s'.gateway.link = .dialing) (start : Instant) (delay : Nat) :
    Twins delay (s.step start (.own .handshake)).1 (s'.step (start.later delay) (.own .handshake)).1 := by
  have hne : s.gateway.link ≠ .idle := by simp [hlink]
  have hne' : s'.gateway.link ≠ .idle := by simp [hlink']
  obtain ⟨hopened, hclosed⟩ := hs.wired.sound.of_ne_idle hne
  obtain ⟨hopened', hclosed'⟩ := hs'.wired.sound.of_ne_idle hne'
  have hstep : s.gateway.step start .handshake = s.gateway.handshake := by simp [Gateway.step, hlink]
  have hstep' : s'.gateway.step (start.later delay) .handshake = s'.gateway.handshake := by simp [Gateway.step, hlink']
  have hnone : s.gateway.dispatcher.outbox = none := hs.wired.detached (by rw [hlink]; rfl)
  have hnone' : s'.gateway.dispatcher.outbox = none := hs'.wired.detached (by rw [hlink']; rfl)
  obtain ⟨htwins, -⟩ : Gateway.Alike delay s.gateway.handshake s'.gateway.handshake :=
    Gateway.Twins.handshake (hs'.token.trans hs.token.symm) hconfig (hopened'.trans hopened.symm)
      (hclosed'.trans hclosed.symm) (hlink'.trans hlink.symm) hreset
  refine ⟨?_, ?_⟩
  · change Gateway.Twins delay (s.own start .handshake).1.gateway (s'.own (start.later delay) .handshake).1.gateway
    rw [own_gateway, own_gateway, hstep, hstep']
    exact htwins
  · change (s'.own (start.later delay) .handshake).1.leftover = (s.own start .handshake).1.leftover
    rw [leftover_own, leftover_own, hstep, hstep', hnone, hnone']
    rfl

/-- **How a gateway keeps its sessions apart.**

- Pings are numbered by the session (`Counts`), whatever happens.
- Two gateways go through whatever pasts, until both are about to begin a session; callers, observers and the clock
  may do as they like.  If the same is done to both from the handshake on, the same comes of it, to the ping and to
  the mismatch, and the one loses the session as long after its start as the other.  They start on the same fraction
  of a millisecond, since timers go by whole ones. -/
structure KeepsApart (token : String) (config : GatewayConfig) (cache : Cache) (registry : Registry ρ) : Prop where
  counts (inputs : List (Instant × SharedInput)) :
    let s := ofGateway (.ofConfig token config (.ofCache cache registry))
    Counts token (s.run inputs).1 (s.chronicle inputs)
  apart (before before' : List (Instant × SharedInput)) (start : Instant) (delay : Nat)
    (script : List (Instant × SharedInput × SharedInput)) :
    let s := ((ofGateway (.ofConfig token config (.ofCache cache registry))).run before).1
    let s' := ((ofGateway (.ofConfig token config (.ofCache cache registry))).run before').1
    let session := (s.step start (.own .handshake)).1
    let session' := (s'.step (start.later delay) (.own .handshake)).1
    s.gateway.link = .dialing → s'.gateway.link = .dialing →
      SideBySide delay (GivenAlike delay) session session' script →
        SideBySide delay (ActsAlike delay) session session' script

instance decidableSideBySide (delay : Nat)
    (P : SharedGateway ρ → SharedGateway ρ → Instant → SharedInput → SharedInput → Prop)
    [∀ s s' now input input', Decidable (P s s' now input input')] :
    ∀ s s' script, Decidable (SideBySide delay P s s' script)
  | _, _, [] => inferInstanceAs (Decidable True)
  | s, s', (now, input, input') :: script =>
    have := decidableSideBySide delay P (s.step now input).1 (s'.step (now.later delay) input').1 script
    inferInstanceAs (Decidable (_ ∧ _))

instance (delay : Nat) (s s' : SharedGateway ρ) (now : Instant) (input input' : SharedInput) :
    Decidable (GivenAlike delay s s' now input input') :=
  decidable_of_iff ((input' = input ∨ input.isCallers = true ∧ input'.isCallers = true) ∧
      Traffic.taken (s'.step (now.later delay) input').2 = Traffic.taken (s.step now input).2)
    ⟨fun h => ⟨h.1, h.2⟩, fun h => ⟨h.alike, h.taken⟩⟩

/-- A session that ends with a pong acknowledged, a mismatch reported and a ping on its way, and a while to the next. -/
def formerSession : List (Instant × SharedInput) :=
  (.start, .own (.launch true)) :: (.start, .own .handshake) ::
    saysAt 1 "\x7b\"type\":\"Authenticated\"\x7d" :: (ticksAt 31 ++
      saysAt 32 "\x7b\"type\":\"Pong\",\"data\":0\x7d" ::
      saysAt 33 "\x7b\"type\":\"Pong\",\"data\":7\x7d" :: (ticksAt 61 ++
      [(⟨70000000000⟩, .own .lost), (⟨100000000000⟩, .own .clock)]))

def reopened : SharedGateway Nat :=
  ((ofGateway (.ofConfig "t" {} (.ofCache (.empty .standard) .empty))).run formerSession).1

end SharedGateway

end ChatClient
