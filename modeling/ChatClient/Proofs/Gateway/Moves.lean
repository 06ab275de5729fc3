import ChatClient.Proofs.Gateway.OrderedMoves
/-!
# A shared gateway is a desk

Whatever happens to a gateway itself, to its callers or to the writer of an outbox that is out of the slot, it is
moves at a desk (`SharedGateway.desk`): those of callers and writers one by one, and those of the gateway itself by
what a step does to the outbox (`moves_own`).
-/
namespace ChatClient

open Desk (Moves)

namespace SharedGateway

variable {ρ : Type}

def desk (s : SharedGateway ρ) : Desk where
  session := s.session
  isAttached := s.gateway.isAttached
  queue := s.queue?
  blocked := s.blocked?
  calls := s.calls
  held := s.held

variable {token : String} {s : SharedGateway ρ}

theorem queue?_of_some {o : Outbox} (ho : s.gateway.dispatcher.outbox = some o) : s.queue? = some o := by
  rw [queue?, ho]

/-! ## Moves of callers and the writer -/

theorem desk_withQueue {o o' : Outbox} (h : s.queue? = some o) :
    (s.withQueue o').desk = { s.desk with queue := some o' } := by
  unfold withQueue desk queue? blocked? Gateway.isAttached at *
  cases hout : s.gateway.dispatcher.outbox with
  | some o => simp [Gateway.withOutbox]
  | none =>
    rw [hout] at h
    obtain ⟨l, hl, -⟩ := Option.map_eq_some_iff.1 h
    simp [hout, hl]

theorem desk_unblocked : s.unblocked.desk = { s.desk with blocked := none } := by
  unfold unblocked desk queue? blocked? Gateway.isAttached at *
  cases hout : s.gateway.dispatcher.outbox with
  | some o =>
    have hlink : s.gateway.link.unblocked.blocked? = none := by
      cases s.gateway.link with
      | online beat => cases beat <;> rfl
      | _ => rfl
    simp [hout, hlink]
  | none => cases s.leftover <;> simp [hout]

theorem moves_call (s : SharedGateway ρ) (m : ClientMessage) (waits : Bool) :
    Moves token s.desk (s.call m waits).2 (s.call m waits).1.desk := by
  unfold call slot?
  cases hattached : s.gateway.isAttached with
  | true => exact (Desk.Move.take hattached).single
  | false => exact (Desk.Move.turnAway hattached).single

theorem eraseIdx_eq {place : Nat} {c : HeldCall} {held : List HeldCall} (h : held[place]? = some c) :
    ∃ before after, held = before ++ c :: after ∧ held.eraseIdx place = before ++ after := by
  obtain ⟨hlt, hget⟩ := List.getElem?_eq_some_iff.1 h
  refine ⟨held.take place, held.drop (place + 1), ?_, List.eraseIdx_eq_take_drop_succ _ _⟩
  rw [← hget, ← List.drop_eq_getElem_cons hlt, List.take_append_drop]

theorem moves_put (s : SharedGateway ρ) (place : Nat) : Moves token s.desk (s.put place).2 (s.put place).1.desk := by
  unfold put
  cases hc : s.held[place]? with
  | none => exact .refl
  | some c =>
    obtain ⟨before, after, hheld, herase⟩ := eraseIdx_eq hc
    dsimp only
    rw [herase]
    cases hoffer : Outbox.offer (if c.session = s.session then s.queue? else none) c.message with
    | error e =>
      dsimp only
      split
      · exact .refl
      · exact (Desk.Move.refuse hheld).single
    | ok o' =>
      by_cases hsession : c.session = s.session
      · rw [if_pos hsession] at hoffer
        cases hqueue : s.queue? with
        | none =>
          rw [hqueue] at hoffer
          cases hoffer
        | some o =>
          rw [hqueue] at hoffer
          have hdesk : { s.withQueue o' with held := before ++ after }.desk =
              { s.desk with queue := some o', held := before ++ after } :=
            congrArg (fun d : Desk => { d with held := before ++ after }) (desk_withQueue hqueue)
          dsimp only
          rw [hdesk]
          exact (Desk.Move.accept hheld hsession hqueue hoffer).single
      · rw [if_neg hsession] at hoffer
        cases hoffer

theorem moves_abandon (s : SharedGateway ρ) (place : Nat) :
    Moves token s.desk [] { s with held := s.held.eraseIdx place }.desk := by
  cases hc : s.held[place]? with
  | none =>
    rw [List.eraseIdx_of_length_le (List.getElem?_eq_none_iff.1 hc)]
    exact .refl
  | some c =>
    obtain ⟨before, after, hheld, herase⟩ := eraseIdx_eq hc
    rw [herase]
    exact (Desk.Move.abandon hheld).single

theorem moves_write (s : SharedGateway ρ) : Moves token s.desk s.write.2 s.write.1.desk := by
  unfold write
  split
  · rename_i m o' hwrite
    obtain ⟨o, ho, hwrite⟩ := Option.bind_eq_some_iff.1 hwrite
    rw [desk_withQueue ho]
    exact (Desk.Move.write ho hwrite).single
  · exact .refl

theorem moves_ping (s : SharedGateway ρ) : Moves token s.desk s.ping.2 s.ping.1.desk := by
  unfold ping
  cases hblocked : s.blocked? with
  | none => exact .refl
  | some m =>
    dsimp only
    cases hqueue : s.queue? with
    | none => exact .refl
    | some o =>
      cases hoffer : Outbox.offer (some o) m with
      | error e => exact .refl
      | ok o' =>
        dsimp only
        rw [desk_unblocked, desk_withQueue hqueue]
        exact (Desk.Move.ping hblocked hqueue hoffer).single

theorem moves_lateTick (s : SharedGateway ρ) (now : Instant) :
    Moves token s.desk (s.lateTick now).2 (s.lateTick now).1.desk := by
  unfold lateTick
  split
  · rename_i o hout hleft
    split
    · exact .refl
    · have hblocked : s.blocked? = none := by simp [blocked?, Gateway.isAttached, hout, hleft]
      have hqueue : s.queue? = some o := by simp [queue?, hout, hleft]
      have hdesk : { s with
          gateway := { s.gateway with heartbeat := (s.gateway.heartbeat.nextPing now).1 }
          leftover := some ⟨o, some (.pingOf (s.gateway.heartbeat.nextPing now).2)⟩ }.desk =
            { s.desk with blocked := some (.pingOf (s.gateway.heartbeat.nextPing now).2) } := by
        simp [desk, queue?, blocked?, Gateway.isAttached, hout, hleft]
      dsimp only
      rw [hdesk]
      exact (Desk.Move.draw hblocked (Option.isSome_iff_exists.2 ⟨o, hqueue⟩)).single
  · exact .refl

theorem moves_stop (s : SharedGateway ρ) : Moves token s.desk [] { s with leftover := none }.desk := by
  cases hattached : s.gateway.isAttached with
  | true =>
    obtain ⟨o, ho⟩ := Option.isSome_iff_exists.1 hattached
    have hdesk : { s with leftover := none }.desk = s.desk := by
      simp [desk, queue?, blocked?, hattached, ho]
    rw [hdesk]
    exact .refl
  | false =>
    have ho := Gateway.outbox_of_isAttached hattached
    have hdesk : { s with leftover := none }.desk = { s.desk with queue := none, blocked := none } := by
      simp [desk, queue?, blocked?, hattached, ho]
    rw [hdesk]
    exact (Desk.Move.stop hattached).single

/-! ## Moves of the gateway itself -/

theorem gained_self (outbox : Option Outbox) : Outbox.gained outbox outbox = [] := by
  cases outbox with
  | none => rfl
  | some o => exact List.drop_length

theorem filterMap_writing? {notices : List Notice} (h : ∀ m, .wrote m ∉ notices) (k : Nat) :
    notices.filterMap (Traffic.writing? k) = [] := by
  refine List.filterMap_eq_nil_iff.2 fun n hn => ?_
  cases n with
  | wrote m => exact absurd hn (h m)
  | _ => rfl

theorem desk_stay {g : Gateway ρ} {o : Outbox} (hattached : s.gateway.isAttached = true)
    (hout : g.dispatcher.outbox = some o) :
    { s with gateway := g }.desk = { s.desk with queue := some o, blocked := g.link.blocked? } := by
  have hsome : s.gateway.dispatcher.outbox.isSome = true := hattached
  simp [desk, queue?, blocked?, Gateway.isAttached, hsome, hout]

section Own

variable {now : Instant} {input : GatewayInput} {g : Gateway ρ} {notices : List Notice}

theorem own_of_same (hstep : s.gateway.step now input = (g, notices))
    (hout : g.dispatcher.outbox = s.gateway.dispatcher.outbox)
    (hsend : ∀ m, input ≠ .send m) (hdrawn : input = .clock → s.gateway.drawn? now = none)
    (hnotices : ∀ m, .wrote m ∉ notices) : s.own now input = ({ s with gateway := g }, []) := by
  have hsilent := filterMap_writing? hnotices s.session
  have hgained := gained_self s.gateway.dispatcher.outbox
  unfold own
  rw [hstep]
  dsimp only
  rw [hout, hgained]
  cases s.gateway.dispatcher.outbox <;> cases input with
  | send m => exact absurd rfl (hsend m)
  | clock => simp [hdrawn]
  | frame frame => rfl
  | _ => simp [hsilent]

theorem moves_begin (hstep : s.gateway.step now input = (g, notices)) (hbefore : s.gateway.dispatcher.outbox = none)
    {capacity : Nat} (hafter : g.dispatcher.outbox = some (.ofCapacity capacity)) (hlink : g.link = .online none)
    (hnotices : notices = [.entered .authenticating, .wrote (.authenticate token)]) :
    Moves token s.desk (s.own now input).2 (s.own now input).1.desk := by
  have hdetached := Gateway.isAttached_of_none hbefore
  have hdesk : { s with gateway := g, session := s.session + 1, leftover := none }.desk =
      { s.desk with
        session := s.session + 1, isAttached := true, queue := some (.ofCapacity capacity), blocked := none } := by
    simp [desk, queue?, blocked?, Gateway.isAttached, hafter, hlink, Link.blocked?]
  simp only [own, hstep, hbefore, hafter, hdesk, hnotices]
  exact (Desk.Move.begin hdetached).single

theorem moves_drop (hstep : s.gateway.step now input = (g, notices)) (hafter : g.dispatcher.outbox = none)
    (hsend : ∀ m, input ≠ .send m) (hclock : input = .clock → s.gateway.isAttached = true)
    (hnotices : ∀ m, .wrote m ∉ notices) : Moves token s.desk (s.own now input).2 (s.own now input).1.desk := by
  cases hbefore : s.gateway.dispatcher.outbox with
  | some o =>
    have hattached := Gateway.isAttached_of_some hbefore
    have hdesk : { s with gateway := g, leftover := some ⟨o, s.gateway.link.blocked?⟩ }.desk =
        { s.desk with isAttached := false } := by
      simp [desk, queue?, blocked?, Gateway.isAttached, hbefore, hafter]
    simp only [own, hstep, hbefore, hafter, hdesk]
    exact (Desk.Move.finish hattached).single
  | none =>
    have hdetached := Gateway.isAttached_of_none hbefore
    have hdesk : { s with gateway := g }.desk = s.desk := by
      simp [desk, queue?, blocked?, Gateway.isAttached, hbefore, hafter]
    have hdrawn : input = .clock → s.gateway.drawn? now = none := fun hinput =>
      absurd (hclock hinput) (by rw [hdetached]; exact Bool.false_ne_true)
    rw [own_of_same hstep (hafter.trans hbefore.symm) hsend hdrawn hnotices, hdesk]
    exact .refl

theorem moves_send {m : ClientMessage} {o : Outbox} (hoffer : Outbox.offer s.gateway.dispatcher.outbox m = .ok o)
    (hstep : s.gateway.step now (.send m) = (s.gateway.withOutbox (some o), [.accepted m])) :
    Moves token s.desk (s.own now (.send m)).2 (s.own now (.send m)).1.desk := by
  cases hbefore : s.gateway.dispatcher.outbox with
  | none =>
    rw [hbefore] at hoffer
    cases hoffer
  | some before =>
    rw [hbefore] at hoffer
    have hattached := Gateway.isAttached_of_some hbefore
    have hqueue := queue?_of_some hbefore
    have hslot : s.slot? = some s.session := if_pos hattached
    have hdesk : { s with gateway := s.gateway.withOutbox (some o), calls := s.calls + 1 }.desk =
        { s.desk with queue := some o, calls := s.calls + 1 } := by
      simp [desk, queue?, blocked?, Gateway.isAttached, Gateway.withOutbox, hbefore]
    have hown : s.own now (.send m) = ({ s with gateway := s.gateway.withOutbox (some o), calls := s.calls + 1 },
        Traffic.passed s.session s.calls [m]) := by
      simp [own, hstep, hbefore, hslot, Gateway.withOutbox, Traffic.passed, Traffic.answer?]
    rw [hown, hdesk]
    exact Moves.pass hattached hqueue hoffer

theorem moves_refuse {m : ClientMessage} {e : GatewayError}
    (hoffer : Outbox.offer s.gateway.dispatcher.outbox m = .error e)
    (hstep : s.gateway.step now (.send m) = (s.gateway, [.refused m e])) :
    Moves token s.desk (s.own now (.send m)).2 (s.own now (.send m)).1.desk := by
  have hown : s.own now (.send m) =
      ({ s with calls := s.calls + 1 }, [.called s.calls m s.slot?, .refused s.calls m e]) := by
    cases hbefore : s.gateway.dispatcher.outbox <;> simp [own, hstep, hbefore, Traffic.answer?]
  have hdesk : { s with calls := s.calls + 1 }.desk = { s.desk with calls := s.calls + 1 } := rfl
  rw [hown, hdesk, slot?]
  cases hattached : s.gateway.isAttached with
  | true => exact Moves.fail m e hattached
  | false =>
    rw [Gateway.outbox_of_isAttached hattached] at hoffer
    cases hoffer
    exact (Desk.Move.turnAway hattached).single

theorem moves_hear {frame : Frame} {o : Outbox} {ms : List ClientMessage}
    (hstep : s.gateway.step now (.frame frame) = (g, notices))
    (ho : s.gateway.dispatcher.outbox = some o)
    (hout : g.dispatcher.outbox = Outbox.offerAll s.gateway.dispatcher.outbox ms)
    (hblocked : g.link.blocked? = s.gateway.link.blocked?) :
    Moves token s.desk (s.own now (.frame frame)).2 (s.own now (.frame frame)).1.desk := by
  have hattached := Gateway.isAttached_of_some ho
  have hqueue := queue?_of_some ho
  obtain ⟨o', gained, hall, haccepted, hmoves⟩ := @Moves.offers token s.desk ms o hattached hqueue
  rw [ho, hall] at hout
  have hgained : Outbox.gained (some o) (some o') = gained := by simp [Outbox.gained, haccepted]
  have hdesk : { s with gateway := g, calls := s.calls + gained.length }.desk =
      { s.desk with queue := some o', calls := s.calls + gained.length } := by
    simp [desk, queue?, blocked?, Gateway.isAttached, ho, hout, hblocked]
  simp only [own, hstep, ho, hout, hgained, hdesk]
  exact hmoves

theorem desk_of_same (hout : g.dispatcher.outbox = s.gateway.dispatcher.outbox)
    (hblocked : g.link.blocked? = s.gateway.link.blocked?) : { s with gateway := g }.desk = s.desk := by
  unfold desk queue? blocked? Gateway.isAttached
  rw [hout, hblocked]

theorem own_clock {o o' : Outbox} (hstep : s.gateway.step now .clock = (g, notices))
    (ho : s.gateway.dispatcher.outbox = some o) (hout : g.dispatcher.outbox = some o') :
    s.own now .clock = ({ s with gateway := g },
      (s.gateway.drawn? now).toList.map (.drew s.session) ++
        (o'.accepted.drop o.accepted.length).map (.pinged s.session)) := by
  simp only [own, hstep, ho, hout, Outbox.gained]

theorem own_write {o o' : Outbox} {m : ClientMessage} (hstep : s.gateway.step now .write = (g, [.wrote m]))
    (ho : s.gateway.dispatcher.outbox = some o) (hout : g.dispatcher.outbox = some o') :
    s.own now .write = ({ s with gateway := g },
      .wrote s.session m :: (o'.accepted.drop o.accepted.length).map (.pinged s.session)) := by
  simp only [own, hstep, ho, hout, Outbox.gained]
  rfl

theorem moves_tick {m : ClientMessage} {o o' : Outbox} (hstep : s.gateway.step now .clock = (g, notices))
    (ho : s.gateway.dispatcher.outbox = some o) (hblocked : s.gateway.link.blocked? = none)
    (hdrawn : s.gateway.drawn? now = some m)
    (hoffer : Outbox.offer (some o) m = .ok o') (hout : g.dispatcher.outbox = some o')
    (hunblocked : g.link.blocked? = none) : Moves token s.desk (s.own now .clock).2 (s.own now .clock).1.desk := by
  have hattached := Gateway.isAttached_of_some ho
  have hqueue : s.desk.queue = some o := queue?_of_some ho
  have hfree : s.desk.blocked = none := (if_pos hattached).trans hblocked
  have hgained : o'.accepted.drop o.accepted.length = [m] := by simp [Outbox.offer_eq_ok hoffer]
  have hdraw : Desk.Move token s.desk _ _ := .draw (m := m) hfree (hqueue ▸ rfl)
  rw [own_clock hstep ho hout, desk_stay hattached hout, hdrawn, hgained, hunblocked]
  exact hdraw.single.snoc (.ping rfl hqueue hoffer)

theorem moves_stall {m : ClientMessage} {o : Outbox} (hstep : s.gateway.step now .clock = (g, notices))
    (ho : s.gateway.dispatcher.outbox = some o) (hblocked : s.gateway.link.blocked? = none)
    (hdrawn : s.gateway.drawn? now = some m) (hout : g.dispatcher.outbox = some o) (hwaits : g.link.blocked? = some m) :
    Moves token s.desk (s.own now .clock).2 (s.own now .clock).1.desk := by
  have hattached := Gateway.isAttached_of_some ho
  have hqueue : s.desk.queue = some o := queue?_of_some ho
  have hfree : s.desk.blocked = none := (if_pos hattached).trans hblocked
  have hdraw : Desk.Move token s.desk _ _ := .draw (m := m) hfree (hqueue ▸ rfl)
  rw [own_clock hstep ho hout, desk_stay hattached hout, hdrawn, List.drop_length, hwaits, ← hqueue]
  exact hdraw.single

theorem moves_wrote {m : ClientMessage} {o o' : Outbox} (hstep : s.gateway.step now .write = (g, [.wrote m]))
    (ho : s.gateway.dispatcher.outbox = some o) (hwrite : o.write? = some (m, o'))
    (hout : g.dispatcher.outbox = some o') (hblocked : g.link.blocked? = s.gateway.link.blocked?) :
    Moves token s.desk (s.own now .write).2 (s.own now .write).1.desk := by
  have hattached := Gateway.isAttached_of_some ho
  have hqueue : s.desk.queue = some o := queue?_of_some ho
  have hsame : s.desk.blocked = g.link.blocked? := (if_pos hattached).trans hblocked.symm
  have haccepted : o'.accepted = o.accepted := by rw [(Outbox.write?_eq_some hwrite).2]
  rw [own_write hstep ho hout, desk_stay hattached hout, haccepted, List.drop_length, ← hsame]
  exact (Desk.Move.write hqueue hwrite).single

theorem moves_refill {m ping : ClientMessage} {o o' o'' : Outbox} (hstep : s.gateway.step now .write = (g, [.wrote m]))
    (ho : s.gateway.dispatcher.outbox = some o) (hwrite : o.write? = some (m, o'))
    (hblocked : s.gateway.link.blocked? = some ping) (hoffer : Outbox.offer (some o') ping = .ok o'')
    (hout : g.dispatcher.outbox = some o'') (hunblocked : g.link.blocked? = none) :
    Moves token s.desk (s.own now .write).2 (s.own now .write).1.desk := by
  have hattached := Gateway.isAttached_of_some ho
  have hqueue : s.desk.queue = some o := queue?_of_some ho
  have hwaits : s.desk.blocked = some ping := (if_pos hattached).trans hblocked
  have hgained : o''.accepted.drop o.accepted.length = [ping] := by
    simp [Outbox.offer_eq_ok hoffer, (Outbox.write?_eq_some hwrite).2]
  have hmove : Desk.Move token s.desk _ _ := .write hqueue hwrite
  rw [own_write hstep ho hout, desk_stay hattached hout, hgained, hunblocked]
  exact hmove.single.snoc (.ping hwaits rfl hoffer)

end Own

/-- **What happens to the gateway itself is moves at the desk.** -/
theorem moves_own (h : s.gateway.Wired) (htoken : s.gateway.token = token) (now : Instant) (input : GatewayInput) :
    Moves token s.desk (s.own now input).2 (s.own now input).1.desk := by
  have hhandling := Gateway.handling_step h now input
  obtain ⟨g, notices, hstep⟩ : ∃ g notices, s.gateway.step now input = (g, notices) := ⟨_, _, rfl⟩
  rw [hstep] at hhandling
  cases hhandling with
  | begun hbefore hafter hlink => exact moves_begin hstep hbefore hafter hlink (by rw [htoken])
  | dropped hafter _ hsend hclock hnotices => exact moves_drop hstep hafter hsend hclock hnotices
  | left hout _ hblocked hsend hdrawn hnotices =>
    rw [own_of_same hstep hout hsend hdrawn hnotices, desk_of_same hout hblocked]
    exact .refl
  | sent hoffer => exact moves_send hoffer hstep
  | refused hoffer => exact moves_refuse hoffer hstep
  | heard hlink hout _ hblocked =>
    obtain ⟨o, ho⟩ := h.attached hlink
    exact moves_hear hstep ho hout hblocked
  | ticked hlink hblocked hdrawn hoffer hout _ hunblocked =>
    obtain ⟨o, ho⟩ := h.attached hlink
    exact moves_tick hstep ho hblocked hdrawn (ho ▸ hoffer) hout hunblocked
  | stalled hlink hblocked hdrawn hout _ hwaits =>
    obtain ⟨o, ho⟩ := h.attached hlink
    exact moves_stall hstep ho hblocked hdrawn (hout.trans ho) hwaits
  | wrote _ ho hwrite hout _ hblocked => exact moves_wrote hstep ho hwrite hout hblocked
  | refilled _ ho hwrite hblocked hoffer hout _ hunblocked =>
    exact moves_refill hstep ho hwrite hblocked hoffer hout hunblocked

end SharedGateway

end ChatClient
