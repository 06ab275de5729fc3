import ChatClient.Proofs.Gateway.Watch
import ChatClient.Proofs.History
/-!
# Pings by number

Each ping that a heartbeat hands out carries the number of pongs that were acknowledged before in its own session, and
what is written of it is what was handed out.  A pong with another number than that leaves the heartbeat alone and is
reported once (`SharedGateway.Counts`).
-/
namespace ChatClient

def Occurrence.traffic? : Occurrence → Option Traffic
  | .seen entry => some entry
  | .heard _ => none

def trafficOf (log : List (Instant × Occurrence)) : List Traffic :=
  log.filterMap (·.2.traffic?)

theorem trafficOf_append (log more : List (Instant × Occurrence)) :
    trafficOf (log ++ more) = trafficOf log ++ trafficOf more :=
  List.filterMap_append

theorem mem_trafficOf {log : List (Instant × Occurrence)} {entry : Traffic} :
    entry ∈ trafficOf log ↔ ∃ t, (t, .seen entry) ∈ log := by
  unfold trafficOf
  rw [List.mem_filterMap]
  constructor
  · rintro ⟨⟨t, leaf | entry'⟩, hmem, h⟩
    · cases h
    · cases h
      exact ⟨t, hmem⟩
  · rintro ⟨t, hmem⟩
    exact ⟨_, hmem, rfl⟩

namespace SharedGateway

variable {ρ : Type} {s : SharedGateway ρ} {config : GatewayConfig} {token : String}
    {earlier : List Diagnostic} {w : Watch}
  {now : Instant}

theorem trafficOf_occurrences (s : SharedGateway ρ) (now : Instant) (input : SharedInput) :
    trafficOf (s.occurrences now input) = (s.step now input).2 := by
  have hheard (leaves : List Event) : trafficOf (leaves.map (now, .heard ·)) = [] := by
    simp [trafficOf, Occurrence.traffic?]
  have hseen (entries : List Traffic) : trafficOf (entries.map (now, .seen ·)) = entries := by
    simp [trafficOf, List.filterMap_map, Occurrence.traffic?]
  rw [occurrences, trafficOf_append, hheard, hseen, List.nil_append]

theorem trafficOf_chronicle (s : SharedGateway ρ) (inputs : List (Instant × SharedInput)) :
    trafficOf (s.chronicle inputs) = (s.run inputs).2 := by
  induction inputs generalizing s with
  | nil => rfl
  | cons input inputs ih => rw [chronicle, trafficOf_append, trafficOf_occurrences, ih, run]

/-! ## Pings that are handed out -/

theorem drawn?_number {g : Gateway ρ} {m : ClientMessage} (h : g.drawn? now = some m) :
    m = .pingOf g.heartbeat.count := by
  unfold Gateway.drawn? at h
  split at h
  · split at h
    · exact (Option.some.inj h).symm
    · cases h
  · cases h

/-- A step that hands a ping out hands out one, with the heartbeat's own count, and hears nothing. -/
theorem marks_of_drew {input : SharedInput} {k : Nat} {m : ClientMessage}
    (h : .drew k m ∈ Traffic.marks (s.step now input).2) :
    Traffic.marks (s.step now input).2 = [.drew s.session (.pingOf s.gateway.heartbeat.count)] ∧
      s.heard input = [] := by
  by_cases hown : ∃ i, input = .own i
  · obtain ⟨i, rfl⟩ := hown
    have hmarks : Traffic.marks (s.step now (.own i)).2 = _ := marks_own s now i
    rw [hmarks] at h ⊢
    split at h
    · simp at h
    · cases h
    · cases hdrawn : s.gateway.drawn? now with
      | none =>
        rw [hdrawn] at h
        cases h
      | some m' =>
        rw [drawn?_number hdrawn]
        exact ⟨rfl, rfl⟩
    · cases h
  · rw [not_exists] at hown
    by_cases hlate : input = .lateTick
    · subst hlate
      have hstep : s.step now .lateTick = s.lateTick now := rfl
      rw [hstep] at h ⊢
      rcases lateTick_cases s now with hsame | ⟨hdrew, -⟩
      · rw [hsame] at h
        cases h
      · rw [hdrew]
        exact ⟨rfl, rfl⟩
    · rw [(aside_step s now hown hlate).2] at h
      cases h

/-- A ping that is handed out carries the number of acknowledged pongs that is known then. -/
def NumberedFrom (w : Watch) (pre : List (Instant × Occurrence)) (x : Instant × Occurrence) : Prop :=
  ∀ k m, x.2 = .seen (.drew k m) → m = .pingOf (pre.foldl Watch.note w).acked

theorem numbered_occurrences (htells : w.Tells config s.gateway.heartbeat) (now : Instant) (input : SharedInput) :
    AtEach (NumberedFrom w) (s.occurrences now input) := by
  rintro pre ⟨t, -⟩ post hlog k m rfl
  have hmem : .drew k m ∈ (s.step now input).2 := by
    rw [← trafficOf_occurrences, mem_trafficOf, hlog]
    exact ⟨t, by simp⟩
  obtain ⟨hmarks, hheard⟩ := marks_of_drew (Traffic.drew_mem_marks hmem)
  rw [occurrences, hheard, List.map_nil, List.nil_append] at hlog
  obtain ⟨before, after, htraffic, rfl, hafter⟩ := List.map_eq_append_iff.1 hlog
  obtain ⟨_, after, rfl, hentry, -⟩ := List.map_eq_cons_iff.1 hafter
  cases hentry
  -- the ping is the only mark of its step, so that nothing is known otherwise when it is handed out
  rw [htraffic, Traffic.marks_append] at hmarks
  have hnone : Traffic.marks before = [] ∧ Traffic.drew k m = .drew s.session (.pingOf s.gateway.heartbeat.count) := by
    cases hbefore : Traffic.marks before with
    | nil =>
      rw [hbefore] at hmarks
      exact ⟨rfl, (List.cons.inj hmarks).1⟩
    | cons entry entries =>
      rw [hbefore] at hmarks
      have hlength := congrArg List.length hmarks
      simp [Traffic.marks, Traffic.isMark] at hlength
  have hknown : (before.map fun entry => (now, Occurrence.seen entry)).foldl Watch.note w = w := by
    rw [List.foldl_map]
    change before.foldl (·.see now) w = w
    rw [Watch.foldl_see, hnone.1]
    rfl
  cases hnone.2
  rw [hknown, htells.count]

theorem numbered_chronicle (htracked : Tracked config earlier w s.gateway) (h : Ready token s)
    (inputs : List (Instant × SharedInput)) : AtEach (NumberedFrom w) (s.chronicle inputs) := by
  induction inputs generalizing s w with
  | nil => exact .nil
  | cons input inputs ih =>
    obtain ⟨now, input⟩ := input
    refine (numbered_occurrences htracked.tells now input).append ?_
    have hrest := ih (htracked.step h.wired now input) (h.step now input)
    unfold NumberedFrom at hrest ⊢
    simp only [List.foldl_append]
    exact hrest

/-! ## Pings that are written -/

theorem admitted_of_written {log : List Traffic} {k : Nat} {n : UInt64}
    (h : Traffic.Orderly token (log ++ [.wrote k (.ping n)])) :
    .ping n ∈ Traffic.admitted k log := by
  have hallowed : Traffic.Allowed token log (.wrote k (.ping n)) := h.allowed rfl
  have hmem := hallowed.subset (List.mem_append_right _ List.mem_cons_self)
  rcases List.mem_cons.1 hmem with h | h
  · cases h
  · exact h

/-- **A ping that is written was sent by a caller or handed out by the heartbeat.** -/
theorem origin_of_written {log : List Traffic} {k : Nat} {n : UInt64}
    (h : Traffic.Orderly token (log ++ [.wrote k (.ping n)])) :
    (∃ call, .accepted call k (.ping n) ∈ log) ∨ .drew k (.ping n) ∈ log := by
  obtain ⟨entry, hentry, hin⟩ := List.mem_filterMap.1 (admitted_of_written h)
  cases entry with
  | accepted call j m =>
    dsimp only at hin
    split at hin
    · rename_i hj
      cases hin
      exact .inl ⟨call, hj ▸ hentry⟩
    · cases hin
  | pinged j m =>
    dsimp only at hin
    split at hin
    · rename_i hj
      cases hin
      subst hj
      have hpings : .ping n ∈ Traffic.pings j log := List.mem_filterMap.2 ⟨_, hentry, if_pos rfl⟩
      have hfront := h.front rfl
      obtain ⟨entry, hdrew, hout⟩ := List.mem_filterMap.1 ((hfront.pings_prefix j).subset hpings)
      cases entry with
      | drew i m =>
        dsimp only at hout
        split at hout
        · rename_i hi
          cases hout
          exact .inr (hi ▸ hdrew)
        · cases hout
      | _ => cases hout
    · cases hin
  | _ => cases hin

/-- **How a gateway counts**, by the chronicle so far.

- A ping is handed out by the heartbeat of the last session that began, with the number of pongs of that session that
  were acknowledged before.  What is written of it is that ping; any other ping that is written is a caller's own.
- The heartbeat's count is that of the acknowledged pongs, and a pong with another number, alone or in a bulk, changes
  nothing and comes to one report of both numbers.
- So all mismatches are those of such pongs, each once and in the order in which they came. -/
structure Counts (token : String) (s : SharedGateway ρ) (log : List (Instant × Occurrence)) : Prop where
  drawn : AtEach (fun pre x => ∀ k m, x.2 = .seen (.drew k m) →
    k = (Traffic.sessions (trafficOf pre)).length ∧ m = .pingOf (Watch.of pre).acked) log
  written : AtEach (fun pre x => ∀ k n, x.2 = .seen (.wrote k (.ping n)) →
    (∃ call, .accepted call k (.ping n) ∈ trafficOf pre) ∨
      ∃ before t between, pre = before ++ (t, .seen (.drew k (.ping n))) :: between ∧
        .ping n = ClientMessage.pingOf (Watch.of before).acked) log
  count : s.gateway.heartbeat.count = (Watch.of log).acked
  mismatch (now : Instant) (pulse : Pulse) (pong : Pong) : pong.data.toNat ≠ pulse.heartbeat.count →
    pulse.route now (.pong pong) = (pulse, [.heartbeatMismatch pulse.heartbeat.count pong.data.toNat])
  mismatches : s.gateway.mismatches = (Watch.of log).mismatches

theorem counts_run (token : String) (config : GatewayConfig) (cache : Cache) (registry : Registry ρ)
    (inputs : List (Instant × SharedInput)) :
    let s := ofGateway (.ofConfig token config (.ofCache cache registry))
    Counts token (s.run inputs).1 (s.chronicle inputs) := by
  intro s
  have hready : Ready token s := ⟨Gateway.wired_ofConfig token config cache registry, rfl⟩
  have htracked := tracked_run token config cache registry inputs
  have hnumbered := numbered_chronicle (tracked_ofConfig token config (.ofCache cache registry) rfl) hready inputs
  obtain ⟨-, htallies⟩ := tallies_run hready (Desk.tallies_empty token) inputs
  have horderly := htallies.orderly
  rw [List.nil_append, ← trafficOf_chronicle] at horderly
  have hdrawn : AtEach (fun pre x => ∀ k m, x.2 = .seen (.drew k m) →
      k = (Traffic.sessions (trafficOf pre)).length ∧ m = .pingOf (Watch.of pre).acked) (s.chronicle inputs) := by
    rintro pre ⟨t, -⟩ post hlog k m rfl
    rw [hlog, trafficOf_append] at horderly
    exact ⟨horderly.allowed rfl, hnumbered pre _ post hlog k m rfl⟩
  refine ⟨hdrawn, ?_, htracked.tells.count, ?_, htracked.mismatches⟩
  · rintro pre ⟨t, -⟩ post hlog k n rfl
    have hwrote : Traffic.Orderly token (trafficOf pre ++ [.wrote k (.ping n)]) := by
      rw [hlog, List.append_cons, trafficOf_append, trafficOf_append] at horderly
      exact horderly.front rfl
    refine (origin_of_written hwrote).imp_right fun hdrew => ?_
    obtain ⟨t', hmem⟩ := mem_trafficOf.1 hdrew
    obtain ⟨before, between, rfl⟩ := List.append_of_mem hmem
    rw [List.append_assoc, List.cons_append] at hlog
    exact ⟨before, t', between, rfl, (hdrawn before _ _ hlog k _ rfl).2⟩
  · intro now pulse pong hne
    rw [Pulse.route, Pulse.pong, EchoSession.onPong_of_ne hne]

end SharedGateway

end ChatClient
