import ChatClient.Proofs.Gateway.Outbox
import ChatClient.Proofs.Gateway.Traffic
/-!
# Moves at a desk

To its callers and sockets a gateway is a desk with one outbox in use, at which moves of a few kinds are made
(`Desk.Move`).  What the desk has tallies with the traffic so far (`Desk.Tallies`), every move keeps it so, and this
keeps the traffic in order.
-/
namespace ChatClient

/-- What a gateway is to its callers and sockets: the number of the last session, whether its outbox is in the slot,
that outbox as long as someone writes from it, the ping that waits for room in it, and the calls. -/
structure Desk where
  session : Nat
  isAttached : Bool
  queue : Option Outbox
  blocked : Option ClientMessage
  calls : Nat
  held : List HeldCall

def Desk.empty : Desk :=
  ⟨0, false, none, none, 0, []⟩

/-- **What can happen at a desk**, with the traffic that it is. -/
inductive Desk.Move (token : String) (d : Desk) : List Traffic → Desk → Prop where
  | begin {capacity : Nat} : d.isAttached = false →
      Move token d [.wrote (d.session + 1) (.authenticate token), .attached (d.session + 1)]
        { d with session := d.session + 1, isAttached := true, queue := some (.ofCapacity capacity), blocked := none }
  | finish : d.isAttached = true → Move token d [.detached] { d with isAttached := false }
  | stop : d.isAttached = false → Move token d [] { d with queue := none, blocked := none }
  | turnAway {m : ClientMessage} : d.isAttached = false →
      Move token d [.called d.calls m none, .refused d.calls m .notConnected] { d with calls := d.calls + 1 }
  | take {m : ClientMessage} {waits : Bool} : d.isAttached = true →
      Move token d [.called d.calls m (some d.session)]
        { d with calls := d.calls + 1, held := d.held ++ [⟨d.calls, d.session, m, waits⟩] }
  | accept {before after : List HeldCall} {c : HeldCall} {o o' : Outbox} : d.held = before ++ c :: after →
      c.session = d.session → d.queue = some o → Outbox.offer (some o) c.message = .ok o' →
      Move token d [.accepted c.call c.session c.message] { d with queue := some o', held := before ++ after }
  | refuse {before after : List HeldCall} {c : HeldCall} {e : GatewayError} : d.held = before ++ c :: after →
      Move token d [.refused c.call c.message e] { d with held := before ++ after }
  | abandon {before after : List HeldCall} {c : HeldCall} : d.held = before ++ c :: after →
      Move token d [] { d with held := before ++ after }
  | draw {m : ClientMessage} : d.blocked = none → d.queue.isSome →
      Move token d [.drew d.session m] { d with blocked := some m }
  | ping {m : ClientMessage} {o o' : Outbox} : d.blocked = some m → d.queue = some o →
      Outbox.offer (some o) m = .ok o' → Move token d [.pinged d.session m] { d with queue := some o', blocked := none }
  | write {m : ClientMessage} {o o' : Outbox} : d.queue = some o → o.write? = some (m, o') →
      Move token d [.wrote d.session m] { d with queue := some o' }

namespace Desk

variable {token : String} {d d' : Desk} {log entries : List Traffic}

/-! ## The slot and the sessions -/

structure Slots (log : List Traffic) (d : Desk) : Prop where
  slot : Traffic.slot log = if d.isAttached then some d.session else none
  sessions : (Traffic.sessions log).length = d.session
  queue : d.isAttached = true → d.queue.isSome = true

theorem Slots.silent (h : Slots log d)
    (hentries : Traffic.sessions entries = [] ∧ ∀ found, entries.foldl Traffic.fill found = found)
    (hsession : d'.session = d.session) (hattached : d'.isAttached = d.isAttached)
    (hqueue : d.isAttached = true → d.queue.isSome = true → d'.queue.isSome = true) : Slots (log ++ entries) d' where
  slot := by rw [Traffic.slot_append, hentries.2, hsession, hattached, h.slot]
  sessions := by rw [Traffic.sessions_append, hentries.1, List.append_nil, hsession, h.sessions]
  queue hd' := by
    rw [hattached] at hd'
    exact hqueue hd' (h.queue hd')

theorem Slots.move (h : Slots log d) (hmove : Move token d entries d') : Slots (log ++ entries) d' := by
  cases hmove with
  | begin =>
    refine ⟨?_, ?_, fun _ => rfl⟩
    · rw [Traffic.slot_append]
      rfl
    · rw [Traffic.sessions_append, List.length_append, h.sessions]
      rfl
  | finish =>
    refine ⟨?_, ?_, fun hattached => nomatch hattached⟩
    · rw [Traffic.slot_append]
      rfl
    · rw [Traffic.sessions_append, List.length_append, h.sessions]
      rfl
  | stop hdetached =>
    refine h.silent ⟨rfl, fun _ => rfl⟩ rfl rfl fun hattached => ?_
    rw [hdetached] at hattached
    cases hattached
  | accept | ping | write => exact h.silent ⟨rfl, fun _ => rfl⟩ rfl rfl fun _ _ => rfl
  | _ => exact h.silent ⟨rfl, fun _ => rfl⟩ rfl rfl fun _ hqueue => hqueue

/-! ## The calls and their answers -/

structure Answers (log : List Traffic) (d : Desk) : Prop where
  calls : (Traffic.calls log).length = d.calls
  answered : ∀ n ∈ Traffic.answered log, n < d.calls
  held : ∀ c ∈ d.held, c.call < d.calls ∧ .called c.call c.message (some c.session) ∈ log ∧
    c.call ∉ Traffic.answered log
  distinct : (d.held.map (·.call)).Nodup

theorem Answers.silent (h : Answers log d) (hentries : Traffic.calls entries = [] ∧ Traffic.answered entries = [])
    (hcalls : d'.calls = d.calls) (hheld : d'.held.Sublist d.held) : Answers (log ++ entries) d' := by
  obtain ⟨hnone, hunanswered⟩ := hentries
  have hanswered : Traffic.answered (log ++ entries) = Traffic.answered log := by
    rw [Traffic.answered_append, hunanswered, List.append_nil]
  refine ⟨?_, ?_, fun c hc => ?_, h.distinct.sublist (hheld.map _)⟩
  · rw [Traffic.calls_append, hnone, List.append_nil, hcalls]
    exact h.calls
  · rw [hanswered, hcalls]
    exact h.answered
  · obtain ⟨hlt, hcalled, hopen⟩ := h.held c (hheld.subset hc)
    rw [hanswered, hcalls]
    exact ⟨hlt, List.mem_append_left _ hcalled, hopen⟩

theorem Answers.answer (h : Answers log d) {before after : List HeldCall} {c : HeldCall}
    (hd : d.held = before ++ c :: after)
    (hentries : Traffic.calls entries = [] ∧ Traffic.answered entries = [c.call]) (hcalls : d'.calls = d.calls)
    (hheld : d'.held = before ++ after) : Answers (log ++ entries) d' := by
  obtain ⟨hnone, hanswer⟩ := hentries
  have hdistinct := h.distinct
  have hothers := h.held
  rw [hd] at hdistinct hothers
  have hanswered : ∀ n, n ∈ Traffic.answered (log ++ entries) ↔ n ∈ Traffic.answered log ∨ n = c.call := by
    simp [Traffic.answered_append, hanswer]
  obtain ⟨hlt, -, -⟩ := hothers c (by simp)
  have hother : ∀ c' ∈ before ++ after, c'.call ≠ c.call := by
    rw [List.map_append, List.map_cons, List.nodup_middle, List.nodup_cons, ← List.map_append] at hdistinct
    exact fun c' hc' heq => hdistinct.1 (heq ▸ List.mem_map_of_mem hc')
  have hsublist : (before ++ after).Sublist (before ++ c :: after) :=
    (List.sublist_cons_self c after).append_left before
  refine ⟨?_, fun n hn => ?_, fun c' hc' => ?_, ?_⟩
  · rw [Traffic.calls_append, hnone, List.append_nil, hcalls]
    exact h.calls
  · rw [hcalls]
    rcases (hanswered n).1 hn with hn | rfl
    · exact h.answered n hn
    · exact hlt
  · rw [hheld] at hc'
    obtain ⟨hlt', hcalled, hopen⟩ := hothers c' (hsublist.subset hc')
    rw [hanswered, hcalls]
    exact ⟨hlt', List.mem_append_left _ hcalled, fun hn => hn.elim hopen (hother c' hc')⟩
  · rw [hheld]
    exact hdistinct.sublist (hsublist.map _)

theorem Answers.turnAway (h : Answers log d) (m : ClientMessage) :
    Answers (log ++ [.called d.calls m none, .refused d.calls m .notConnected]) { d with calls := d.calls + 1 } := by
  have hanswered : ∀ n, n ∈ Traffic.answered (log ++ [.called d.calls m none, .refused d.calls m .notConnected]) ↔
      n ∈ Traffic.answered log ∨ n = d.calls := by
    simp [Traffic.answered]
  refine ⟨?_, fun n hn => ?_, fun c hc => ?_, h.distinct⟩
  · rw [Traffic.calls_append, List.length_append, h.calls]
    rfl
  · rcases (hanswered n).1 hn with hn | rfl
    · exact Nat.lt_succ_of_lt (h.answered n hn)
    · exact Nat.lt_succ_self _
  · obtain ⟨hlt, hcalled, hopen⟩ := h.held c hc
    rw [hanswered]
    exact ⟨Nat.lt_succ_of_lt hlt, List.mem_append_left _ hcalled, fun hn => hn.elim hopen (Nat.ne_of_lt hlt)⟩

theorem Answers.take (h : Answers log d) (m : ClientMessage) (waits : Bool) :
    Answers (log ++ [.called d.calls m (some d.session)])
      { d with calls := d.calls + 1, held := d.held ++ [⟨d.calls, d.session, m, waits⟩] } := by
  have hanswered : Traffic.answered (log ++ [.called d.calls m (some d.session)]) = Traffic.answered log := by
    rw [Traffic.answered_append]
    exact List.append_nil _
  refine ⟨?_, fun n hn => ?_, fun c hc => ?_, ?_⟩
  · rw [Traffic.calls_append, List.length_append, h.calls]
    rfl
  · rw [hanswered] at hn
    exact Nat.lt_succ_of_lt (h.answered n hn)
  · rw [hanswered]
    rcases List.mem_append.1 hc with hc | hc
    · obtain ⟨hlt, hcalled, hopen⟩ := h.held c hc
      exact ⟨Nat.lt_succ_of_lt hlt, List.mem_append_left _ hcalled, hopen⟩
    · rw [List.mem_singleton.1 hc]
      exact ⟨Nat.lt_succ_self _, by simp, fun hn => Nat.lt_irrefl _ (h.answered _ hn)⟩
  · rw [List.map_append, List.map_singleton, List.nodup_append_comm, List.singleton_append, List.nodup_cons]
    refine ⟨fun hmem => ?_, h.distinct⟩
    obtain ⟨c, hc, hcall⟩ := List.mem_map.1 hmem
    exact Nat.ne_of_lt (h.held c hc).1 hcall

theorem Answers.move (h : Answers log d) (hmove : Move token d entries d') : Answers (log ++ entries) d' := by
  cases hmove with
  | turnAway => exact h.turnAway _
  | take => exact h.take _ _
  | accept hd => exact h.answer hd ⟨rfl, rfl⟩ rfl rfl
  | refuse hd => exact h.answer hd ⟨rfl, rfl⟩ rfl rfl
  | abandon hd =>
    refine h.silent ⟨rfl, rfl⟩ rfl ?_
    rw [hd]
    exact (List.sublist_cons_self _ _).append_left _
  | _ => exact h.silent ⟨rfl, rfl⟩ rfl (List.Sublist.refl _)

/-! ## The outbox in use -/

/-- Nothing is said of the socket and the outbox of a session. -/
structure Silent (k : Nat) (log : List Traffic) : Prop where
  written : Traffic.written k log = []
  admitted : Traffic.admitted k log = []
  drawn : Traffic.drawn k log = []
  pings : Traffic.pings k log = []

theorem Silent.append {k : Nat} (h : Silent k log) (h' : Silent k entries) : Silent k (log ++ entries) where
  written := by rw [Traffic.written_append, h.written, h'.written, List.append_nil]
  admitted := by rw [Traffic.admitted_append, h.admitted, h'.admitted, List.append_nil]
  drawn := by rw [Traffic.drawn_append, h.drawn, h'.drawn, List.append_nil]
  pings := by rw [Traffic.pings_append, h.pings, h'.pings, List.append_nil]

/-- **What the traffic of a session makes of its outbox**: all that came in is accepted there, all that was written to
the socket is the token and what was taken from the front, and a ping that was handed out has come in or waits for
room. -/
structure Carries (token : String) (k : Nat) (log : List Traffic) (o : Outbox)
    (blocked : Option ClientMessage) : Prop where
  written : Traffic.written k log = .authenticate token :: o.accepted.take o.written
  admitted : Traffic.admitted k log = o.accepted
  bound : o.written ≤ o.accepted.length
  drawn : Traffic.drawn k log = Traffic.pings k log ++ blocked.toList

namespace Carries

variable {k : Nat} {o o' : Outbox} {blocked : Option ClientMessage} {m : ClientMessage}

theorem silent (h : Carries token k log o blocked) (hentries : Silent k entries) :
    Carries token k (log ++ entries) o blocked where
  written := by rw [Traffic.written_append, hentries.written, List.append_nil, h.written]
  admitted := by rw [Traffic.admitted_append, hentries.admitted, List.append_nil, h.admitted]
  bound := h.bound
  drawn := by
    rw [Traffic.drawn_append, hentries.drawn, Traffic.pings_append, hentries.pings, List.append_nil,
      List.append_nil, h.drawn]

theorem begin (h : Silent k log) (capacity : Nat) :
    Carries token k (log ++ [.wrote k (.authenticate token), .attached k]) (.ofCapacity capacity) none where
  written := by
    rw [Traffic.written_append, h.written]
    simp [Traffic.written, Outbox.ofCapacity]
  admitted := by
    rw [Traffic.admitted_append, h.admitted]
    rfl
  bound := Nat.le_refl 0
  drawn := by
    rw [Traffic.drawn_append, h.drawn, Traffic.pings_append, h.pings]
    rfl

theorem gain {blocked' : Option ClientMessage} (h : Carries token k log o blocked)
    (hoffer : Outbox.offer (some o) m = .ok o')
    (hentries : Traffic.written k entries = [] ∧ Traffic.admitted k entries = [m])
    (hdrawn : Traffic.drawn k (log ++ entries) = Traffic.pings k (log ++ entries) ++ blocked'.toList) :
    Carries token k (log ++ entries) o' blocked' := by
  rw [Outbox.offer_eq_ok hoffer]
  refine ⟨?_, ?_, ?_, hdrawn⟩
  · rw [Traffic.written_append, hentries.1, List.append_nil, h.written, List.take_append_of_le_length h.bound]
  · rw [Traffic.admitted_append, hentries.2, h.admitted]
  · rw [List.length_append]
    exact Nat.le_add_right_of_le h.bound

theorem accept (h : Carries token k log o blocked) (hoffer : Outbox.offer (some o) m = .ok o') (n : Nat) :
    Carries token k (log ++ [.accepted n k m]) o' blocked := by
  refine h.gain hoffer ⟨rfl, by simp [Traffic.admitted]⟩ ?_
  rw [Traffic.drawn_append, Traffic.pings_append, h.drawn]
  simp [Traffic.drawn, Traffic.pings]

theorem ping (h : Carries token k log o (some m)) (hoffer : Outbox.offer (some o) m = .ok o') :
    Carries token k (log ++ [.pinged k m]) o' none := by
  refine h.gain hoffer ⟨rfl, by simp [Traffic.admitted]⟩ ?_
  rw [Traffic.drawn_append, Traffic.pings_append, h.drawn]
  simp [Traffic.drawn, Traffic.pings]

theorem draw (h : Carries token k log o none) (m : ClientMessage) :
    Carries token k (log ++ [.drew k m]) o (some m) where
  written := by
    rw [Traffic.written_append, h.written]
    exact List.append_nil _
  admitted := by
    rw [Traffic.admitted_append, h.admitted]
    exact List.append_nil _
  bound := h.bound
  drawn := by
    rw [Traffic.drawn_append, Traffic.pings_append, h.drawn]
    simp [Traffic.drawn, Traffic.pings]

theorem write (h : Carries token k log o blocked) (hwrite : o.write? = some (m, o')) :
    Carries token k (log ++ [.wrote k m]) o' blocked := by
  obtain ⟨hm, rfl⟩ := Outbox.write?_eq_some hwrite
  refine ⟨?_, ?_, ?_, ?_⟩
  · rw [Traffic.written_append, h.written, List.take_add_one, hm]
    simp [Traffic.written]
  · rw [Traffic.admitted_append, h.admitted]
    exact List.append_nil _
  · exact (List.getElem?_eq_some_iff.1 hm).1
  · rw [Traffic.drawn_append, Traffic.pings_append, h.drawn]
    simp [Traffic.drawn, Traffic.pings]

end Carries

/-- The outbox in use has the traffic of its session, and sessions to come have none. -/
structure Flow (token : String) (log : List Traffic) (d : Desk) : Prop where
  queue (o : Outbox) : d.queue = some o → Carries token d.session log o d.blocked
  later (k : Nat) : d.session < k → Silent k log

theorem Flow.silent (h : Flow token log d) (hentries : ∀ k, Silent k entries) (hsession : d'.session = d.session)
    (hqueue : d'.queue = none ∨ d'.queue = d.queue ∧ d'.blocked = d.blocked) : Flow token (log ++ entries) d' where
  queue o ho := by
    rcases hqueue with hnone | ⟨hsame, hblocked⟩
    · rw [hnone] at ho
      cases ho
    · rw [hsession, hblocked]
      exact (h.queue o (hsame ▸ ho)).silent (hentries _)
  later k hk := (h.later k (hsession ▸ hk)).append (hentries k)

theorem Flow.ofCarries (h : Flow token log d) {o : Outbox} (hsession : d'.session = d.session)
    (hqueue : d'.queue = some o)
    (ho : Carries token d.session (log ++ entries) o d'.blocked) (hentries : ∀ k, d.session < k → Silent k entries) :
    Flow token (log ++ entries) d' where
  queue o' ho' := by
    rw [hqueue] at ho'
    cases ho'
    rw [hsession]
    exact ho
  later k hk := (h.later k (hsession ▸ hk)).append (hentries k (hsession ▸ hk))

theorem Flow.begin (h : Flow token log d) (capacity : Nat) :
    Flow token (log ++ [.wrote (d.session + 1) (.authenticate token), .attached (d.session + 1)])
      { d with
        session := d.session + 1, isAttached := true, queue := some (.ofCapacity capacity), blocked := none } where
  queue o ho := by
    cases ho
    exact .begin (h.later _ (Nat.lt_succ_self _)) capacity
  later k hk := by
    have hne : d.session + 1 ≠ k := Nat.ne_of_lt hk
    refine (h.later k (Nat.lt_of_succ_lt hk)).append ⟨?_, rfl, rfl, rfl⟩
    simp [Traffic.written, hne]

theorem Flow.move (h : Flow token log d) (hmove : Move token d entries d') : Flow token (log ++ entries) d' := by
  cases hmove with
  | begin => exact h.begin _
  | accept _ hsession ho hoffer =>
    rw [hsession]
    refine h.ofCarries rfl rfl ((h.queue _ ho).accept hoffer _) fun k hk => ⟨rfl, ?_, rfl, rfl⟩
    simp [Traffic.admitted, Nat.ne_of_lt hk]
  | draw hblocked ho =>
    obtain ⟨o, ho⟩ := Option.isSome_iff_exists.1 ho
    have hcarries := h.queue o ho
    rw [hblocked] at hcarries
    refine h.ofCarries rfl ho (hcarries.draw _) fun k hk => ⟨rfl, rfl, ?_, rfl⟩
    simp [Traffic.drawn, Nat.ne_of_lt hk]
  | ping hblocked ho hoffer =>
    have hcarries := h.queue _ ho
    rw [hblocked] at hcarries
    refine h.ofCarries rfl rfl (hcarries.ping hoffer) fun k hk => ⟨rfl, ?_, rfl, ?_⟩
    · simp [Traffic.admitted, Nat.ne_of_lt hk]
    · simp [Traffic.pings, Nat.ne_of_lt hk]
  | write ho hwrite =>
    refine h.ofCarries rfl rfl ((h.queue _ ho).write hwrite) fun k hk => ⟨?_, rfl, rfl, rfl⟩
    simp [Traffic.written, Nat.ne_of_lt hk]
  | stop => exact h.silent (fun k => ⟨rfl, rfl, rfl, rfl⟩) rfl (.inl rfl)
  | _ => exact h.silent (fun k => ⟨rfl, rfl, rfl, rfl⟩) rfl (.inr ⟨rfl, rfl⟩)

/-! ## Order -/

/-- What a desk has tallies with the traffic so far. -/
structure Tallies (token : String) (log : List Traffic) (d : Desk) : Prop where
  slots : Slots log d
  flow : Flow token log d
  answers : Answers log d
  orderly : Traffic.Orderly token log

theorem tallies_empty (token : String) : Tallies token [] .empty where
  slots := ⟨rfl, rfl, fun h => nomatch h⟩
  flow := ⟨fun _ h => (nomatch h), fun _ _ => ⟨rfl, rfl, rfl, rfl⟩⟩
  answers := ⟨rfl, fun _ h => (nomatch h), fun _ h => (nomatch h), List.nodup_nil⟩
  orderly := .nil

/-- **Every move is in order.** -/
theorem Tallies.orderly_append (h : Tallies token log d) (hmove : Move token d entries d') :
    Traffic.Orderly token (log ++ entries) := by
  have hslot := h.slots.slot
  have hsession := h.slots.sessions.symm
  have hcalls := h.answers.calls.symm
  cases hmove with
  | begin hdetached =>
    have hfirst := (h.flow.later _ (Nat.lt_succ_self _)).written
    refine h.orderly.pair ?_ ⟨?_, ?_, ?_⟩
    · rw [Traffic.Allowed, hfirst]
      exact ⟨_, rfl⟩
    · rw [Traffic.sessions_append, List.length_append, hsession]
      rfl
    · rw [Traffic.slot_append, hslot, hdetached]
      rfl
    · rw [Traffic.written_append, hfirst]
      simp [Traffic.written]
  | finish hattached =>
    refine h.orderly.snoc ?_
    rw [Traffic.Allowed, hslot, hattached]
    rfl
  | turnAway hdetached =>
    refine h.orderly.pair ⟨hcalls, ?_⟩ ⟨none, ?_, ?_, fun _ => rfl⟩
    · rw [hslot, hdetached]
      rfl
    · exact List.mem_append_right _ List.mem_cons_self
    · rw [Traffic.answered_append]
      intro hmem
      rcases List.mem_append.1 hmem with hmem | hmem
      · exact Nat.lt_irrefl _ (h.answers.answered _ hmem)
      · cases hmem
  | take hattached =>
    refine h.orderly.snoc ⟨hcalls, ?_⟩
    rw [hslot, hattached]
    rfl
  | accept hd hc =>
    obtain ⟨-, hcalled, hopen⟩ := h.answers.held _ (hd ▸ List.mem_append_right _ List.mem_cons_self)
    exact h.orderly.snoc ⟨hc.trans hsession, hcalled, hopen⟩
  | refuse hd =>
    obtain ⟨-, hcalled, hopen⟩ := h.answers.held _ (hd ▸ List.mem_append_right _ List.mem_cons_self)
    exact h.orderly.snoc ⟨_, hcalled, hopen, fun hnone => (nomatch hnone)⟩
  | draw => exact h.orderly.snoc hsession
  | ping hblocked ho =>
    have hdrawn := (h.flow.queue _ ho).drawn
    rw [hblocked] at hdrawn
    refine h.orderly.snoc ?_
    rw [Traffic.Allowed, hdrawn]
    exact List.prefix_refl _
  | @write m o o' ho hwrite =>
    have hcarries := h.flow.queue o ho
    have htake := List.take_prefix (o.written + 1) o.accepted
    obtain ⟨hm, -⟩ := Outbox.write?_eq_some hwrite
    rw [List.take_add_one, hm] at htake
    refine h.orderly.snoc ?_
    rw [Traffic.Allowed, hcarries.written, hcarries.admitted, List.cons_append, List.prefix_cons_inj]
    exact htake
  | abandon | stop =>
    rw [List.append_nil]
    exact h.orderly

theorem Tallies.move (h : Tallies token log d) (hmove : Move token d entries d') : Tallies token (log ++ entries) d' :=
  ⟨h.slots.move hmove, h.flow.move hmove, h.answers.move hmove, h.orderly_append hmove⟩

/-! ## Moves in a row -/

inductive Moves (token : String) (d : Desk) : List Traffic → Desk → Prop where
  | refl : Moves token d [] d
  | snoc {log entries : List Traffic} {d' d'' : Desk} : Moves token d log d' → Move token d' entries d'' →
      Moves token d (log ++ entries) d''

theorem Move.single (h : Move token d entries d') : Moves token d entries d' :=
  .snoc .refl h

theorem Moves.append {d'' : Desk} {entries' : List Traffic} (h : Moves token d entries d')
    (h' : Moves token d' entries' d'') : Moves token d (entries ++ entries') d'' := by
  induction h' with
  | refl =>
    rw [List.append_nil]
    exact h
  | snoc _ hmove ih =>
    rw [← List.append_assoc]
    exact ih.snoc hmove

/-- **Moves keep the tally**, and so the traffic in order. -/
theorem Tallies.moves (h : Tallies token log d) (hmoves : Moves token d entries d') :
    Tallies token (log ++ entries) d' := by
  induction hmoves with
  | refl =>
    rw [List.append_nil]
    exact h
  | snoc _ hmove ih =>
    rw [← List.append_assoc]
    exact ih.move hmove

theorem Moves.pass {o o' : Outbox} {m : ClientMessage} (hattached : d.isAttached = true) (ho : d.queue = some o)
    (hoffer : Outbox.offer (some o) m = .ok o') :
    Moves token d (Traffic.passed d.session d.calls [m]) { d with queue := some o', calls := d.calls + 1 } := by
  have htake := (@Move.take token d m false hattached).single
  have haccept := htake.snoc (@Move.accept token _ d.held [] _ o o' rfl rfl ho hoffer)
  rw [List.append_nil] at haccept
  exact haccept

theorem Moves.fail (m : ClientMessage) (e : GatewayError) (hattached : d.isAttached = true) :
    Moves token d [.called d.calls m (some d.session), .refused d.calls m e] { d with calls := d.calls + 1 } := by
  have htake := (@Move.take token d m false hattached).single
  have hrefuse := htake.snoc (@Move.refuse token _ d.held [] _ e rfl)
  rw [List.append_nil] at hrefuse
  exact hrefuse

/-- Calls one after the other, of which those are told whose messages come in. -/
theorem Moves.offers (ms : List ClientMessage) {o : Outbox} (hattached : d.isAttached = true) (ho : d.queue = some o) :
    ∃ o' gained, Outbox.offerAll (some o) ms = some o' ∧ o'.accepted = o.accepted ++ gained ∧
      Moves token d (Traffic.passed d.session d.calls gained)
        { d with queue := some o', calls := d.calls + gained.length } := by
  induction ms generalizing d o with
  | nil =>
    refine ⟨o, [], rfl, (List.append_nil _).symm, ?_⟩
    rw [← ho]
    exact .refl
  | cons m ms ih =>
    cases hoffer : Outbox.offer (some o) m with
    | error e =>
      rw [Outbox.offerAll_of_error hoffer]
      exact ih hattached ho
    | ok o₁ =>
      rw [Outbox.offerAll_of_ok hoffer]
      obtain ⟨o', gained, hrest, haccepted, hmoves⟩ :=
        ih (d := { d with queue := some o₁, calls := d.calls + 1 }) hattached rfl
      refine ⟨o', m :: gained, hrest, ?_, ?_⟩
      · rw [haccepted, Outbox.offer_eq_ok hoffer, List.append_assoc]
        rfl
      · have hpass : Moves token d _ _ := (Moves.pass hattached ho hoffer).append hmoves
        rw [Nat.add_right_comm, Nat.add_assoc] at hpass
        exact hpass

end Desk

end ChatClient
