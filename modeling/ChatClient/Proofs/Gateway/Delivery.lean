import ChatClient.Proofs.Gateway.Moves
/-!
# What is written, and what is not

The traffic of every run is in order, since all that happens is moves at a desk.  So each socket gets the token and
what was accepted for its own session, in that order and nothing else, and what is refused is never written
(`SharedGateway.Delivers`).
-/
namespace ChatClient

open Desk (Moves)

namespace SharedGateway

variable {ρ : Type} {token : String} {s : SharedGateway ρ}

/-! ## Runs -/

structure Ready (token : String) (s : SharedGateway ρ) : Prop where
  wired : s.gateway.Wired
  token : s.gateway.token = token

theorem Ready.withQueue (h : Ready token s) (o : Outbox) : Ready token (s.withQueue o) := by
  unfold SharedGateway.withQueue
  cases hattached : s.gateway.isAttached with
  | true => exact ⟨h.wired.of_same rfl rfl Iff.rfl hattached.symm rfl, h.token⟩
  | false => exact ⟨h.wired, h.token⟩

theorem Ready.unblocked (h : Ready token s) : Ready token s.unblocked := by
  have hidle : s.gateway.link.unblocked = .idle ↔ s.gateway.link = .idle := by
    cases s.gateway.link with
    | online beat => cases beat <;> simp [Link.unblocked]
    | _ => rfl
  have hstate : s.gateway.link.unblocked.state = s.gateway.link.state := by
    cases s.gateway.link with
    | online beat => cases beat <;> rfl
    | _ => rfl
  unfold SharedGateway.unblocked
  cases s.gateway.isAttached with
  | true => exact ⟨h.wired.of_same rfl rfl hidle rfl (congrArg _ hstate), h.token⟩
  | false => exact ⟨h.wired, h.token⟩

theorem own_gateway (s : SharedGateway ρ) (now : Instant) (input : GatewayInput) :
    (s.own now input).1.gateway = (s.gateway.step now input).1 := by
  unfold own
  dsimp only
  split <;> rfl

theorem Ready.own (h : Ready token s) (now : Instant) (input : GatewayInput) : Ready token (s.own now input).1 := by
  refine ⟨?_, ?_⟩
  · rw [own_gateway]
    exact Gateway.wired_step h.wired now input
  · rw [own_gateway, Gateway.token_step]
    exact h.token

theorem Ready.step (h : Ready token s) (now : Instant) (input : SharedInput) : Ready token (s.step now input).1 := by
  cases input with
  | own input => exact h.own now input
  | call m waits =>
    unfold SharedGateway.step call
    dsimp only
    split <;> exact ⟨h.wired, h.token⟩
  | put place =>
    unfold SharedGateway.step put
    dsimp only
    split
    · exact h
    · split
      · exact ⟨(h.withQueue _).wired, (h.withQueue _).token⟩
      · split <;> exact ⟨h.wired, h.token⟩
  | abandon place => exact ⟨h.wired, h.token⟩
  | write =>
    unfold SharedGateway.step write
    dsimp only
    split
    · exact h.withQueue _
    · exact h
  | ping =>
    unfold SharedGateway.step ping
    dsimp only
    split
    · exact h
    · split
      · exact (h.withQueue _).unblocked
      · exact h
  | lateTick =>
    unfold SharedGateway.step lateTick
    dsimp only
    split
    · split
      · exact h
      · exact ⟨h.wired.of_same rfl rfl Iff.rfl rfl rfl, h.token⟩
    · exact h
  | stop => exact ⟨h.wired, h.token⟩

/-- **Whatever happens is moves at the desk.** -/
theorem moves_step (h : Ready token s) (now : Instant) (input : SharedInput) :
    Moves token s.desk (s.step now input).2 (s.step now input).1.desk := by
  cases input with
  | own input => exact moves_own h.wired h.token now input
  | call m waits => exact moves_call s m waits
  | put place => exact moves_put s place
  | abandon place => exact moves_abandon s place
  | write => exact moves_write s
  | ping => exact moves_ping s
  | lateTick => exact moves_lateTick s now
  | stop => exact moves_stop s

theorem tallies_run (h : Ready token s) {log : List Traffic} (htallies : Desk.Tallies token log s.desk)
    (inputs : List (Instant × SharedInput)) :
    Ready token (s.run inputs).1 ∧ Desk.Tallies token (log ++ (s.run inputs).2) (s.run inputs).1.desk := by
  induction inputs generalizing s log with
  | nil =>
    refine ⟨h, ?_⟩
    rw [run, List.append_nil]
    exact htallies
  | cons input inputs ih =>
    obtain ⟨now, input⟩ := input
    rw [run, ← List.append_assoc]
    exact ih (h.step now input) (htallies.moves (moves_step h now input))

/-! ## What is written -/

/-- **What a gateway makes of what it is given to send**, by its traffic so far.

- The first message that is written in a session is the token.  What is written then came into the outbox of that
  session, and is written in the order in which it came in and once at most.
- What comes in is pings of the session's own heartbeat, and messages of calls that found that outbox in the slot,
  where it is still when they are accepted unless the session ended during the call.
- Each call is answered once at most; what is refused is not accepted, and so never written.
- There is an outbox in the slot exactly as long as there is a socket.  While there is none, each call is turned
away. -/
structure Delivers (token : String) (s : SharedGateway ρ) (log : List Traffic) : Prop where
  orderly : Traffic.Orderly token log
  first (k : Nat) : k ∈ Traffic.sessions log → ∃ more, Traffic.written k log = .authenticate token :: more
  written (k : Nat) : Traffic.written k log <+: .authenticate token :: Traffic.admitted k log
  pings (k : Nat) : Traffic.pings k log <+: Traffic.drawn k log
  accepted (n k : Nat) (m : ClientMessage) : .accepted n k m ∈ log →
    ∃ pre between post, log = pre ++ .called n m (some k) :: (between ++ .accepted n k m :: post) ∧
      Traffic.slot pre = some k ∧ Traffic.sessions between = [] ∧
      (.detached ∉ between → Traffic.slot (pre ++ .called n m (some k) :: between) = some k)
  answered : (Traffic.answered log).Nodup
  refused (n : Nat) (m : ClientMessage) (e : GatewayError) : .refused n m e ∈ log → ∀ k m', .accepted n k m' ∉ log
  slot : Traffic.slot log = s.slot?
  socket : s.gateway.isAttached = s.gateway.state.hasSocket
  turnedAway (now : Instant) (m : ClientMessage) : s.gateway.isAttached = false →
    (∀ waits, (s.step now (.call m waits)).2 = [.called s.calls m none, .refused s.calls m .notConnected]) ∧
      (s.step now (.own (.send m))).2 = [.called s.calls m none, .refused s.calls m .notConnected]

theorem turnedAway_of_detached (h : s.gateway.isAttached = false) (now : Instant) (m : ClientMessage) :
    (∀ waits, (s.step now (.call m waits)).2 = [.called s.calls m none, .refused s.calls m .notConnected]) ∧
      (s.step now (.own (.send m))).2 = [.called s.calls m none, .refused s.calls m .notConnected] := by
  have hnone := Gateway.outbox_of_isAttached h
  constructor
  · intro waits
    simp [step, call, slot?, h]
  · simp [step, own, Gateway.step, Gateway.send, hnone, Outbox.offer, slot?, h, Traffic.answer?]

/-- **In every run only what was accepted is written**, by the session that accepted it. -/
theorem delivers_run (token : String) (config : GatewayConfig) (cache : Cache) (registry : Registry ρ)
    (inputs : List (Instant × SharedInput)) :
    Delivers token ((ofGateway (.ofConfig token config (.ofCache cache registry))).run inputs).1
      ((ofGateway (.ofConfig token config (.ofCache cache registry))).run inputs).2 := by
  have hready : Ready token (ofGateway (.ofConfig token config (.ofCache cache registry))) :=
    ⟨Gateway.wired_ofConfig token config cache registry, rfl⟩
  obtain ⟨hend, htallies⟩ := tallies_run hready (Desk.tallies_empty token) inputs
  rw [List.nil_append] at htallies
  have horderly := htallies.orderly
  exact {
    orderly := horderly
    first := fun k hk => horderly.first hk
    written := horderly.written_prefix
    pings := horderly.pings_prefix
    accepted := fun n k m hmem => horderly.accepted hmem
    answered := horderly.nodup_answered
    refused := fun n m e hmem k m' => horderly.refused hmem
    slot := htallies.slots.slot
    socket := hend.wired.socket
    turnedAway := fun now m hdetached => turnedAway_of_detached hdetached now m }

/-- A call that has hold of an outbox gets nothing through when that outbox is done with. -/
example (config : GatewayConfig) (cache : Cache) (registry : Registry Nat) :
    let inputs : List SharedInput :=
      [.own (.launch true), .own .handshake, .call (.beginTyping "c") true, .own .lost, .stop, .put 0]
    ((ofGateway (.ofConfig "t" config (.ofCache cache registry))).run (inputs.map (⟨0⟩, ·))).2 =
      [.wrote 1 (.authenticate "t"), .attached 1, .called 0 (.beginTyping "c") (some 1), .detached,
        .refused 0 (.beginTyping "c") .notConnected] := by
  rfl

end SharedGateway

end ChatClient
