import ChatClient.Proofs.Gateway.Solicited
/-!
# How long a session has lasted

A heartbeat tells the age of its session from two things: an interval for each acknowledged pong, and the time since
the last ping.  A ping starts the time anew at once, while its interval is added only when its pong has come.  So the
age falls with a ping, by the time since the ping before it, and rises again with the pong (`uptime_falls`).  Who asks
not later than an interval after the last ping, and while no ping waits for a pong, sees it rise only
(`UptimesFit.settled`).
-/
namespace ChatClient

namespace HeartbeatLog

def lastPing? (log : HeartbeatLog) : Option Instant :=
  ((session log).find? (·.2.isPing)).map (·.1)

def sincePing (log : HeartbeatLog) (now : Instant) : Duration :=
  match lastPing? log with
  | some sent => now.since sent
  | none => .zero

/-- **The age that a log tells of its session**: none before the first acknowledged pong. -/
def age (log : HeartbeatLog) (interval : Duration) (now : Instant) : Duration :=
  if acks log = 0 then .zero else ⟨interval.nanos * acks log + (sincePing log now).nanos⟩

/-- The age can be told in full: the number of pongs fits 32 bits, and the age is not longer than any span. -/
def Unsaturated (log : HeartbeatLog) (interval : Duration) (now : Instant) : Prop :=
  acks log ≤ 0xffffffff ∧ (age log interval now).nanos ≤ Duration.max.nanos

instance (log : HeartbeatLog) (interval : Duration) (now : Instant) : Decidable (Unsaturated log interval now) :=
  inferInstanceAs (Decidable (_ ∧ _))

variable {log : HeartbeatLog} {interval : Duration} {t now : Instant} {n : Nat}

theorem age_of_acks_eq_zero (h : acks log = 0) : (age log interval now).nanos = 0 := by
  rw [age, if_pos h]
  rfl

theorem age_of_acks_ne_zero (h : acks log ≠ 0) :
    (age log interval now).nanos = interval.nanos * acks log + (sincePing log now).nanos := by
  rw [age, if_neg h]

theorem lastPing?_pinged : lastPing? ((t, .pinged n) :: log) = some t := by
  rw [lastPing?, session_cons rfl, List.find?_cons_of_pos rfl, Option.map_some]

theorem lastPing?_cons {e : HeartbeatEntry} (hstart : e.isStart = false) (hping : e.isPing = false) :
    lastPing? ((t, e) :: log) = lastPing? log := by
  rw [lastPing?, session_cons hstart, List.find?_cons_of_neg (by simp [hping]), lastPing?]

theorem lastPing?_began : lastPing? ((t, .began) :: log) = none := by
  rw [lastPing?, session_began, List.find?_nil, Option.map_none]

end HeartbeatLog

open HeartbeatLog

namespace LoggedHeartbeat

variable {s : LoggedHeartbeat} {interval timeout : Duration} {made : List (Instant × HeartbeatCall)}

/-! ## What a heartbeat knows of its last ping -/

structure Timed (s : LoggedHeartbeat) (interval : Duration) : Prop where
  interval : s.heartbeat.interval = interval
  lastSent : s.heartbeat.lastSent = lastPing? s.log

theorem Timed.step (h : s.Timed interval) (now : Instant) (call : HeartbeatCall) :
    (s.step now call).Timed interval := by
  obtain ⟨hinterval, hsent⟩ := h
  cases call with
  | ping => exact ⟨hinterval, lastPing?_pinged.symm⟩
  | pong received =>
    rw [step_pong]
    by_cases hreceived : received = s.heartbeat.count
    · rw [hreceived, EchoSession.onPong_count]
      exact ⟨hinterval, hsent.trans (lastPing?_cons rfl rfl).symm⟩
    · rw [EchoSession.onPong_of_ne hreceived]
      exact ⟨hinterval, hsent.trans (lastPing?_cons rfl rfl).symm⟩
  | reset => exact ⟨hinterval, lastPing?_began.symm⟩

theorem Timed.run (h : s.Timed interval) (made : List (Instant × HeartbeatCall)) : (s.run made).Timed interval := by
  induction made generalizing s with
  | nil => exact h
  | cons call made ih => exact ih (h.step call.1 call.2)

theorem Timed.sinceSent (h : s.Timed interval) (now : Instant) : s.heartbeat.sinceSent now = sincePing s.log now := by
  have hsent := h.lastSent
  cases hlast : lastPing? s.log with
  | none => simp [Heartbeat.sinceSent, sincePing, hsent, hlast]
  | some sent => simp [Heartbeat.sinceSent, sincePing, hsent, hlast]

/-- **The age told by a heartbeat is that told by its log.** -/
theorem Timed.uptime? (h : s.Timed interval) (hkeeps : s.Keeps) {now : Instant}
    (hsum : Unsaturated s.log interval now) : s.heartbeat.uptime? now = some (age s.log interval now) := by
  obtain ⟨hcount, hspan⟩ := hsum
  unfold Heartbeat.uptime?
  rw [h.sinceSent, h.interval, hkeeps.count]
  by_cases hzero : acks s.log = 0
  · rw [if_pos hzero, age, if_pos hzero]
  · rw [age_of_acks_ne_zero hzero] at hspan
    have hproduct : interval.saturatingMul (min (acks s.log) 0xffffffff) = ⟨interval.nanos * acks s.log⟩ := by
      rw [Nat.min_eq_left hcount, Duration.saturatingMul, Nat.min_eq_left (Nat.le_trans (Nat.le_add_right _ _) hspan)]
    rw [if_neg hzero, hproduct, Duration.add?, if_pos hspan, age, if_neg hzero]

/-! ## Calls of one session -/

theorem acks_le_step (s : LoggedHeartbeat) (now : Instant) {call : HeartbeatCall} (h : call ≠ .reset) :
    acks s.log ≤ acks (s.step now call).log := by
  obtain ⟨e, hlog, rfl⟩ := s.exists_log_step now call
  have hstart : e.isStart = false := by
    cases e with
    | began => exact absurd rfl h
    | _ => rfl
  rw [hlog, acks_cons hstart]
  exact Nat.le_add_right _ _

theorem acks_le_run (s : LoggedHeartbeat) (h : ∀ c ∈ made, c.2 ≠ .reset) : acks s.log ≤ acks (s.run made).log := by
  induction made generalizing s with
  | nil => exact Nat.le_refl _
  | cons call made ih =>
    obtain ⟨hcall, hmade⟩ := List.forall_mem_cons.1 h
    exact Nat.le_trans (s.acks_le_step call.1 hcall) (ih (s.step call.1 call.2) hmade)

/-- **Without a ping the last one stays.** -/
theorem lastPing?_run (h : ∀ c ∈ made, c.2 ≠ .reset) (hping : ∀ c ∈ made, c.2 ≠ .ping) :
    lastPing? (s.run made).log = lastPing? s.log := by
  induction made generalizing s with
  | nil => rfl
  | cons call made ih =>
    obtain ⟨hcall, hmade⟩ := List.forall_mem_cons.1 h
    obtain ⟨hnoping, hnopings⟩ := List.forall_mem_cons.1 hping
    refine (ih hmade hnopings).trans ?_
    obtain ⟨e, hlog, he⟩ := s.exists_log_step call.1 call.2
    rw [← he] at hcall hnoping
    rw [hlog]
    cases e with
    | pinged n => exact absurd rfl hnoping
    | began => exact absurd rfl hcall
    | acked n => exact lastPing?_cons rfl rfl
    | refused n => exact lastPing?_cons rfl rfl

/-- **Once a ping waits, it waits or a pong is acknowledged.** -/
theorem isAwaited_or_acks_lt (h : ∀ c ∈ made, c.2 ≠ .reset)
    (hping : IsAwaited s.log ∨ ∃ c ∈ made, c.2 = .ping) :
    IsAwaited (s.run made).log ∨ acks s.log < acks (s.run made).log := by
  induction made generalizing s with
  | nil => simpa [run] using hping
  | cons call made ih =>
    obtain ⟨hcall, hmade⟩ := List.forall_mem_cons.1 h
    obtain ⟨now, call⟩ := call
    change IsAwaited ((s.step now call).run made).log ∨ acks s.log < acks ((s.step now call).run made).log
    have hstep := s.acks_le_step now hcall
    have hrest := (s.step now call).acks_le_run hmade
    -- a pong that is acknowledged settles it; after any other call the ping waits or is still to come
    by_cases hmore : acks s.log < acks (s.step now call).log
    · exact .inr (Nat.lt_of_lt_of_le hmore hrest)
    · have hwaits : IsAwaited (s.step now call).log ∨ ∃ c ∈ made, c.2 = .ping := by
        obtain ⟨e, hlog, rfl⟩ := s.exists_log_step now call
        rw [hlog] at hmore ⊢
        cases e with
        | pinged n => exact .inl isAwaited_pinged
        | acked n => exact absurd (by rw [acks_cons rfl]; exact Nat.lt_succ_self _) hmore
        | refused n => simpa [isAwaited_refused, HeartbeatEntry.call] using hping
        | began => exact absurd rfl hcall
      rcases ih hmade hwaits with hawaited | hlt
      · exact .inl hawaited
      · exact .inr (Nat.lt_of_le_of_lt hstep hlt)

/-! ## Two readings -/

/-- **A ping is sent too early for its pong.**  A pong had been acknowledged before the first reading, a ping is sent
after it, and the time since the last ping was longer at the first reading than it is at the second, even with the
intervals of the pongs acknowledged in between. -/
structure Overtaken (s : LoggedHeartbeat) (made : List (Instant × HeartbeatCall)) (interval : Duration)
    (t t' : Instant) : Prop where
  acked : 0 < acks s.log
  pinged : ∃ c ∈ made, c.2 = .ping
  late : interval.nanos * (acks (s.run made).log - acks s.log) + (sincePing (s.run made).log t').nanos <
    (sincePing s.log t).nanos

variable {t t' : Instant}

theorem sincePing_le_of_quiet (s : LoggedHeartbeat) (h : ∀ c ∈ made, c.2 ≠ .reset)
    (hping : ∀ c ∈ made, c.2 ≠ .ping)
    (hle : t.nanos ≤ t'.nanos) : (sincePing s.log t).nanos ≤ (sincePing (s.run made).log t').nanos := by
  unfold sincePing
  rw [lastPing?_run h hping]
  cases lastPing? s.log with
  | none => exact Nat.le_refl _
  | some sent => exact Nat.sub_le_sub_right hle _

/-- **The age falls exactly if a ping is sent too early for its pong.** -/
theorem age_lt_iff (h : ∀ c ∈ made, c.2 ≠ .reset) (hle : t.nanos ≤ t'.nanos) :
    (age (s.run made).log interval t').nanos < (age s.log interval t).nanos ↔ s.Overtaken made interval t t' := by
  have hacks := s.acks_le_run h
  have hproduct : interval.nanos * acks (s.run made).log =
      interval.nanos * acks s.log + interval.nanos * (acks (s.run made).log - acks s.log) := by
    rw [← Nat.mul_add, Nat.add_sub_cancel' hacks]
  by_cases hzero : acks s.log = 0
  · rw [age_of_acks_eq_zero hzero]
    exact iff_of_false (Nat.not_lt_zero _) fun hover => Nat.lt_irrefl 0 (hzero ▸ hover.acked)
  · have hlater : acks (s.run made).log ≠ 0 := by omega
    rw [age_of_acks_ne_zero hzero, age_of_acks_ne_zero hlater, hproduct]
    constructor
    · intro hlt
      refine ⟨Nat.pos_of_ne_zero hzero, ?_, by omega⟩
      refine Classical.byContradiction fun hnone => ?_
      have hsince := s.sincePing_le_of_quiet h (fun c hc hcall => hnone ⟨c, hc, hcall⟩) hle
      omega
    · intro hover
      have hlate := hover.late
      omega

/-- **What two readings of the age of one session say of each other.**

The later one is lower exactly if a ping is sent too early for its pong, and never by more than the time since the
last ping at the first reading.  It is not lower if no ping is sent in between, or if the last ping was at most an
interval ago at the first reading and none waits for a pong at the second. -/
structure UptimesFit (s : LoggedHeartbeat) (made : List (Instant × HeartbeatCall)) (interval : Duration)
    (t t' : Instant) (u u' : Duration) : Prop where
  falls_iff : u'.nanos < u.nanos ↔ s.Overtaken made interval t t'
  bounded : u.nanos ≤ u'.nanos + (sincePing s.log t).nanos
  quiet : (∀ c ∈ made, c.2 ≠ .ping) → u.nanos ≤ u'.nanos
  settled : (sincePing s.log t).nanos ≤ interval.nanos → ¬ IsAwaited (s.run made).log → u.nanos ≤ u'.nanos

theorem uptimesFit_age (h : ∀ c ∈ made, c.2 ≠ .reset) (hle : t.nanos ≤ t'.nanos) :
    s.UptimesFit made interval t t' (age s.log interval t) (age (s.run made).log interval t') where
  falls_iff := age_lt_iff h hle
  bounded := by
    have hacks := s.acks_le_run h
    have hproduct := Nat.mul_le_mul_left interval.nanos hacks
    by_cases hzero : acks s.log = 0
    · rw [age_of_acks_eq_zero hzero]
      exact Nat.zero_le _
    · have hlater : acks (s.run made).log ≠ 0 := by omega
      rw [age_of_acks_ne_zero hzero, age_of_acks_ne_zero hlater]
      omega
  quiet hping := by
    refine Nat.le_of_not_lt fun hlt => ?_
    obtain ⟨c, hc, hcall⟩ := ((age_lt_iff h hle).1 hlt).pinged
    exact hping c hc hcall
  settled hsince hsettled := by
    refine Nat.le_of_not_lt fun hlt => ?_
    have hover := (age_lt_iff h hle).1 hlt
    -- the ping that was sent is settled, so its interval has been added
    have hmore := (isAwaited_or_acks_lt h (.inr hover.pinged)).resolve_left hsettled
    have hinterval : interval.nanos * 1 ≤ interval.nanos * (acks (s.run made).log - acks s.log) :=
      Nat.mul_le_mul_left _ (by omega)
    have hlate := hover.late
    omega

/-- **Any two readings of one session**, whatever was done before the first and is done until the second. -/
theorem uptimes_fit (interval timeout : Duration) (before : List (Instant × HeartbeatCall))
    (h : ∀ c ∈ made, c.2 ≠ .reset)
    (hle : t.nanos ≤ t'.nanos) (hsum : Unsaturated ((start interval timeout).run before).log interval t)
    (hsum' : Unsaturated (((start interval timeout).run before).run made).log interval t') :
    ∃ u u', ((start interval timeout).run before).heartbeat.uptime? t = some u ∧
      (((start interval timeout).run before).run made).heartbeat.uptime? t' = some u' ∧
      ((start interval timeout).run before).UptimesFit made interval t t' u u' := by
  have hkeeps := (keeps_start interval timeout).run before
  have htimed : ((start interval timeout).run before).Timed interval := Timed.run ⟨rfl, rfl⟩ before
  exact ⟨_, _, htimed.uptime? hkeeps hsum, (htimed.run made).uptime? (hkeeps.run made) hsum', uptimesFit_age h hle⟩

/-- Two pings with their pongs, each 40 milliseconds later, and readings between the pongs and the next pings. -/
theorem uptimes_fit_inTime :
    let before : List (Instant × HeartbeatCall) := [(⟨0⟩, .ping), (⟨40000000⟩, .pong 0)]
    let made : List (Instant × HeartbeatCall) := [(⟨30000000000⟩, .ping), (⟨30040000000⟩, .pong 1)]
    let s := (start (.ofSecs 30) (.ofSecs 60)).run before
    ∃ u u', s.heartbeat.uptime? ⟨20000000000⟩ = some u ∧
      (s.run made).heartbeat.uptime? ⟨50000000000⟩ = some u' ∧
      s.UptimesFit made (.ofSecs 30) ⟨20000000000⟩ ⟨50000000000⟩ u u' :=
  uptimes_fit (.ofSecs 30) (.ofSecs 60) _ (by decide) (by decide) (by decide) (by decide)

/-- The age of a session is told as a minute, and as half of that as soon as the second ping is sent. -/
theorem uptime_falls :
    ¬ ∀ (interval timeout : Duration) (before made : List (Instant × HeartbeatCall)) (t t' : Instant) (u u' : Duration),
      (∀ c ∈ before ++ made, c.2 ≠ .reset) → ((before ++ made).Pairwise fun a b => a.1.nanos ≤ b.1.nanos) →
      (∀ c ∈ before, c.1.nanos ≤ t.nanos) → (∀ c ∈ made, t.nanos ≤ c.1.nanos ∧ c.1.nanos ≤ t'.nanos) →
        t.nanos ≤ t'.nanos →
      Unsaturated ((start interval timeout).run before).log interval t →
      Unsaturated (((start interval timeout).run before).run made).log interval t' →
      ((start interval timeout).run before).heartbeat.uptime? t = some u →
      (((start interval timeout).run before).run made).heartbeat.uptime? t' = some u' → u.nanos ≤ u'.nanos := by
  intro h
  have hle := h (.ofSecs 30) (.ofSecs 60) [(⟨0⟩, .ping), (⟨0⟩, .pong 0)] [(⟨30000000000⟩, .ping)]
    ⟨30000000000⟩ ⟨30000000000⟩ (.ofSecs 60) (.ofSecs 30) (by decide) (by decide) (by decide) (by decide)
    (by decide) (by decide) (by decide) (by decide) (by decide)
  revert hle
  decide

end LoggedHeartbeat
end ChatClient
