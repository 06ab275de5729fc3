import ChatClient.Gateway.Pulse
/-!
# Pongs of an honest server

A server that is honest about its pongs answers each ping once, in the order in which they came, with the number that
the ping carries.  The pings that it has not answered yet stand in a queue beside the pulse (`EchoSession`), and at
any time either one more is sent or the oldest is answered.  A pong is taken for the answer that it is as long as
pings do not overlap, and not otherwise (`faithful_run_iff`): the number only moves on when a pong has come, so that
pings on their way together carry the same one, and the heartbeat keeps the time of the last ping only.
-/
namespace ChatClient

/-- A ping on its way: its number, when it was sent, and how many were on their way before it. -/
structure SentPing where
  number : Nat
  sent : Instant
  ahead : Nat
deriving DecidableEq, Repr

/-- A pulse with the pings that the server has not answered yet, oldest first. -/
structure EchoSession where
  pulse : Pulse
  queue : List SentPing
deriving DecidableEq, Repr

/-- What happens in the session: a ping is sent, or the pong to the oldest one comes. -/
inductive EchoInput where
  | ping
  | pong
deriving DecidableEq, Repr

/-- A pong that came: the ping that it answers, those sent after that one, when it came, what it was taken for, and
what was reported. -/
structure EchoAnswer where
  ping : SentPing
  behind : List SentPing
  received : Instant
  outcome : PongOutcome
  reports : List Diagnostic
deriving DecidableEq, Repr

namespace EchoAnswer

/-- **The pong is taken for what it is**: its ping is acknowledged with the time since that very ping, without a
report. -/
def Faithful (a : EchoAnswer) : Prop :=
  a.outcome = .acked (a.received.since a.ping.sent) ∧ a.reports = []

/-- **The ping was on its way alone**: none was before it, and none was sent at a later time. -/
def Alone (a : EchoAnswer) : Prop :=
  a.ping.ahead = 0 ∧ ∀ p ∈ a.behind, p.sent = a.ping.sent

instance (a : EchoAnswer) : Decidable a.Faithful :=
  inferInstanceAs (Decidable (_ ∧ _))

instance (a : EchoAnswer) : Decidable a.Alone :=
  inferInstanceAs (Decidable (_ ∧ _))

end EchoAnswer

namespace EchoSession

def start (interval timeout : Duration) (beat : Option Beat) : EchoSession :=
  ⟨⟨.fresh interval timeout, beat⟩, []⟩

def ping (s : EchoSession) (now : Instant) : EchoSession :=
  let (heartbeat, number) := s.pulse.heartbeat.nextPing now
  ⟨{ s.pulse with heartbeat }, s.queue ++ [⟨number, now, s.queue.length⟩]⟩

def pong (s : EchoSession) (now : Instant) (p : SentPing) (behind : List SentPing) : EchoSession × EchoAnswer :=
  let (pulse, reports) := s.pulse.pong now p.number
  (⟨pulse, behind⟩, ⟨p, behind, now, (s.pulse.heartbeat.onPong p.number now).2, reports⟩)

/-- What follows from an input; without a ping there is no pong. -/
def step (s : EchoSession) (now : Instant) : EchoInput → EchoSession × List EchoAnswer
  | .ping => (s.ping now, [])
  | .pong =>
    match s.queue with
    | [] => (s, [])
    | p :: behind =>
      let (s, answer) := s.pong now p behind
      (s, [answer])

def run (s : EchoSession) : List (Instant × EchoInput) → EchoSession × List EchoAnswer
  | [] => (s, [])
  | (now, input) :: inputs =>
    let (s, answers) := s.step now input
    let (s, later) := run s inputs
    (s, answers ++ later)

/-! ## Numbers that fit -/

/-- The numbers of a queue fit a count: each with the pings ahead of it when it was sent makes up its place in the
order. -/
def Numbered : Nat → List SentPing → Prop
  | _, [] => True
  | n, p :: ps => p.number + p.ahead = n ∧ Numbered (n + 1) ps

theorem numbered_append : ∀ (ps : List SentPing) (n : Nat) (p : SentPing),
    Numbered n (ps ++ [p]) ↔ Numbered n ps ∧ p.number + p.ahead = n + ps.length
  | [], n, p => by simp [Numbered]
  | q :: ps, n, p => by
    rw [List.cons_append, Numbered, Numbered, numbered_append ps (n + 1) p, List.length_cons, and_assoc, Nat.add_assoc,
      Nat.add_comm 1]

structure Aligned (s : EchoSession) (now : Instant) : Prop where
  numbered : Numbered s.pulse.heartbeat.count s.queue
  sorted : s.queue.Pairwise fun p q => p.sent.nanos ≤ q.sent.nanos
  past : ∀ p ∈ s.queue, p.sent.nanos ≤ now.nanos
  last : ∀ p ∈ s.queue.getLast?, s.pulse.heartbeat.lastSent = some p.sent

theorem aligned_start (interval timeout : Duration) (beat : Option Beat) (now : Instant) :
    (start interval timeout beat).Aligned now :=
  ⟨trivial, .nil, fun _ h => (nomatch h), fun _ h => (nomatch h)⟩

variable {s : EchoSession} {now later : Instant}

theorem Aligned.mono (h : s.Aligned now) (hle : now.nanos ≤ later.nanos) : s.Aligned later :=
  ⟨h.numbered, h.sorted, fun p hp => Nat.le_trans (h.past p hp) hle, h.last⟩

theorem Aligned.ping (h : s.Aligned now) : (s.ping now).Aligned now where
  numbered := (numbered_append _ _ _).2 ⟨h.numbered, rfl⟩
  sorted := List.pairwise_append.2 ⟨h.sorted, List.pairwise_singleton _ _, fun p hp q hq => by
    rw [List.mem_singleton.1 hq]
    exact h.past p hp⟩
  past p hp := by
    rcases List.mem_append.1 hp with hp | hp
    · exact h.past p hp
    · obtain rfl := List.mem_singleton.1 hp
      exact Nat.le_refl _
  last p hp := by
    have hlast : (s.ping now).queue.getLast? = some ⟨s.pulse.heartbeat.count, now, s.queue.length⟩ :=
      List.getLast?_concat
    rw [hlast] at hp
    cases hp
    rfl

/-! ## One pong -/

theorem onPong_count (h : Heartbeat) (now : Instant) :
    h.onPong h.count now = ({ h with
      count := h.count + 1
      lastAck := some now
      pendingSince := none
      latency := some (h.sinceSent now) }, .acked (h.sinceSent now)) := by
  unfold Heartbeat.onPong
  rw [if_pos rfl]

theorem onPong_of_ne {h : Heartbeat} {n : Nat} (hn : n ≠ h.count) (now : Instant) :
    h.onPong n now = (h, .mismatch h.count n) := by
  unfold Heartbeat.onPong
  rw [if_neg hn]

/-- The pong is taken for what it is if its number is the present one and the last ping is as old as its own. -/
theorem faithful_pong_iff (s : EchoSession) (now : Instant) (p : SentPing) (behind : List SentPing) :
    (s.pong now p behind).2.Faithful ↔
      p.number = s.pulse.heartbeat.count ∧ s.pulse.heartbeat.sinceSent now = now.since p.sent := by
  unfold EchoAnswer.Faithful pong Pulse.pong
  by_cases hn : p.number = s.pulse.heartbeat.count
  · simp [hn, onPong_count]
  · simp [hn, onPong_of_ne hn]

theorem since_eq_iff {a b : Instant} (ha : a.nanos ≤ now.nanos) (hb : b.nanos ≤ now.nanos) :
    now.since a = now.since b ↔ a = b := by
  cases a
  cases b
  simp only [Instant.since, Duration.mk.injEq, Instant.mk.injEq] at ha hb ⊢
  omega

/-- Of pings sent one after the other, the last was sent when the first was exactly if all were. -/
theorem sent_last_eq_iff {p last : SentPing} {behind : List SentPing}
    (hsorted : (p :: behind).Pairwise fun p q => p.sent.nanos ≤ q.sent.nanos)
    (hlast : (p :: behind).getLast? = some last) :
    last.sent = p.sent ↔ ∀ q ∈ behind, q.sent = p.sent := by
  constructor
  · intro hsame q hq
    have hfirst := List.rel_of_pairwise_cons hsorted hq
    have hend : q.sent.nanos ≤ last.sent.nanos := by
      obtain ⟨front, hfront⟩ := List.getLast?_eq_some_iff.1 hlast
      have hmem : q ∈ front ++ [last] := hfront ▸ List.mem_cons_of_mem p hq
      rw [hfront] at hsorted
      rcases List.mem_append.1 hmem with h | h
      · exact (List.pairwise_append.1 hsorted).2.2 q h last List.mem_cons_self
      · obtain rfl := List.mem_singleton.1 h
        exact Nat.le_refl _
    rw [hsame] at hend
    exact congrArg Instant.mk (Nat.le_antisymm hend hfirst)
  · intro hall
    rcases List.mem_cons.1 (List.mem_of_getLast? hlast) with h | h
    · rw [h]
    · exact hall last h

/-- **While all went well, a pong is taken for what it is exactly if its ping was on its way alone.** -/
theorem Aligned.faithful_iff {p : SentPing} {behind : List SentPing} (h : s.Aligned now)
    (hqueue : s.queue = p :: behind) : (s.pong now p behind).2.Faithful ↔ (s.pong now p behind).2.Alone := by
  obtain ⟨hnumbered, hsorted, hpast, hlast⟩ := h
  rw [hqueue] at hnumbered hsorted hpast hlast
  obtain ⟨last, hend⟩ := Option.ne_none_iff_exists'.1 fun hnone =>
    List.cons_ne_nil p behind (List.getLast?_eq_none_iff.1 hnone)
  have hsince : s.pulse.heartbeat.sinceSent now = now.since last.sent := by
    unfold Heartbeat.sinceSent
    rw [hlast last hend]
  rw [faithful_pong_iff, hsince, since_eq_iff (hpast last (List.mem_of_getLast? hend)) (hpast p List.mem_cons_self),
    sent_last_eq_iff hsorted hend]
  have hplace : p.number + p.ahead = s.pulse.heartbeat.count := hnumbered.1
  refine and_congr_left' ?_
  change _ ↔ p.ahead = 0
  omega

theorem Aligned.pong {p : SentPing} {behind : List SentPing} (h : s.Aligned now) (hqueue : s.queue = p :: behind)
    (hfaithful : (s.pong now p behind).2.Faithful) : (s.pong now p behind).1.Aligned now := by
  obtain ⟨hnumbered, hsorted, hpast, hlast⟩ := h
  rw [hqueue] at hnumbered hsorted hpast hlast
  have hcount : (s.pulse.heartbeat.onPong p.number now).1.count = s.pulse.heartbeat.count + 1 ∧
      (s.pulse.heartbeat.onPong p.number now).1.lastSent = s.pulse.heartbeat.lastSent := by
    rw [((faithful_pong_iff s now p behind).1 hfaithful).1, onPong_count]
    exact ⟨rfl, rfl⟩
  refine ⟨?_, hsorted.of_cons, fun q hq => hpast q (List.mem_cons_of_mem p hq), fun q hq => ?_⟩
  · change Numbered (s.pulse.heartbeat.onPong p.number now).1.count behind
    rw [hcount.1]
    exact hnumbered.2
  · change (s.pulse.heartbeat.onPong p.number now).1.lastSent = some q.sent
    rw [hcount.2]
    have hend : behind.getLast? = some q := hq
    refine hlast q ?_
    rw [List.getLast?_cons, hend]
    rfl

/-! ## Whole sessions -/

/-- **One input**: its pong is taken for what it is exactly if the ping was alone, and then all stays aligned. -/
theorem Aligned.step (h : s.Aligned now) (input : EchoInput) :
    ((∀ a ∈ (s.step now input).2, a.Faithful) ↔ ∀ a ∈ (s.step now input).2, a.Alone) ∧
      ((∀ a ∈ (s.step now input).2, a.Faithful) → (s.step now input).1.Aligned now) := by
  cases input with
  | ping => exact ⟨by simp [EchoSession.step], fun _ => h.ping⟩
  | pong =>
    unfold EchoSession.step
    cases hqueue : s.queue with
    | nil => exact ⟨by simp, fun _ => h⟩
    | cons p behind =>
      simp only [List.forall_mem_singleton]
      exact ⟨h.faithful_iff hqueue, h.pong hqueue⟩

theorem run_cons (s : EchoSession) (now : Instant) (input : EchoInput) (inputs : List (Instant × EchoInput)) :
    s.run ((now, input) :: inputs) =
      (((s.step now input).1.run inputs).1, (s.step now input).2 ++ ((s.step now input).1.run inputs).2) := rfl

theorem Aligned.run (h : s.Aligned now) (inputs : List (Instant × EchoInput))
    (hfrom : ∀ i ∈ inputs, now.nanos ≤ i.1.nanos)
    (hsorted : inputs.Pairwise fun a b => a.1.nanos ≤ b.1.nanos) :
    (∀ a ∈ (s.run inputs).2, a.Faithful) ↔ ∀ a ∈ (s.run inputs).2, a.Alone := by
  induction inputs generalizing s now with
  | nil => simp [EchoSession.run]
  | cons input inputs ih =>
    obtain ⟨t, input⟩ := input
    obtain ⟨hiff, hkept⟩ := (h.mono (hfrom _ List.mem_cons_self)).step input
    rw [run_cons, List.forall_mem_append, List.forall_mem_append, ← hiff]
    -- the rest of the session counts only if this step went well, and then it starts aligned
    refine and_congr_right fun hfaithful => ?_
    exact ih (hkept hfaithful) (fun i hi => List.rel_of_pairwise_cons hsorted hi) hsorted.of_cons

/-- **Every pong is taken for the answer that it is exactly if no two pings overlap**, whatever the interval, the
timeout, and the times of pings and pongs. -/
theorem faithful_run_iff (interval timeout : Duration) (beat : Option Beat) (inputs : List (Instant × EchoInput))
    (hsorted : inputs.Pairwise fun a b => a.1.nanos ≤ b.1.nanos) :
    (∀ a ∈ ((start interval timeout beat).run inputs).2, a.Faithful) ↔
      ∀ a ∈ ((start interval timeout beat).run inputs).2, a.Alone :=
  (aligned_start interval timeout beat .start).run inputs (fun _ _ => Nat.zero_le _) hsorted

/-- Two pings that are answered in time, and a third that no pong has come for yet. -/
def punctual : List (Instant × EchoInput) :=
  [(⟨30000000000⟩, .ping), (⟨30040000000⟩, .pong), (⟨60000000000⟩, .ping), (⟨60100000000⟩, .pong),
    (⟨90000000000⟩, .ping)]

theorem faithful_punctual :
    (punctual.Pairwise fun a b => a.1.nanos ≤ b.1.nanos) ∧
      ∀ a ∈ ((start (.ofSecs 30) (.ofSecs 60) none).run punctual).2, a.Faithful :=
  ⟨by decide, (faithful_run_iff (.ofSecs 30) (.ofSecs 60) none punctual (by decide)).2 (by decide)⟩

/-- Two pings carry the same number, since no pong has come in between.  The pong to the first is acknowledged with
the time since the second, and the pong to the second is reported as a mismatch. -/
theorem not_faithful_of_overlap :
    ¬ ∀ (interval timeout : Duration) (beat : Option Beat) (inputs : List (Instant × EchoInput)),
      (inputs.Pairwise fun a b => a.1.nanos ≤ b.1.nanos) →
        ∀ a ∈ ((start interval timeout beat).run inputs).2, a.Faithful := by
  intro h
  have hall := h (.ofSecs 30) (.ofSecs 60) none
    [(⟨0⟩, .ping), (⟨30000000000⟩, .ping), (⟨31000000000⟩, .pong), (⟨32000000000⟩, .pong)] (by decide)
  revert hall
  decide

end EchoSession
end ChatClient
