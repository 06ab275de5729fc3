import ChatClient.Proofs.Gateway.Solicited
/-!
# When a session is overdue

A heartbeat keeps one point of time, and by that alone a session is overdue or not.  The point is that of the first
ping since the last acknowledged pong or the start of the session (`Watches`): a ping sets it only where none is kept,
a pong that is refused leaves it, and an acknowledged one and a new session clear it.  So a session is overdue exactly
if the earliest ping that waits for a pong is as old as the timeout, and then it stays so until a pong is acknowledged
or a session begins (`OverdueByFirst`).
-/
namespace ChatClient

namespace HeartbeatEntry

/-- An entry after which no ping waits: a pong is acknowledged, or a session begins. -/
def settles (e : HeartbeatEntry) : Bool :=
  e.isStart || e.isAck

end HeartbeatEntry

namespace HeartbeatLog

/-- **The earliest ping that waits for a pong**: sent since the last acknowledged pong of the session, and none of
those before it. -/
structure FirstAwaited (log : HeartbeatLog) (sent : Instant) : Prop where
  awaited : ∃ n, (sent, .pinged n) ∈ unsettled log
  earliest : ∀ t n, (t, .pinged n) ∈ unsettled log → sent.nanos ≤ t.nanos

def awaited (log : HeartbeatLog) : HeartbeatLog :=
  (unsettled log).filter (·.2.isPing)

/-- When the ping was sent that was the first of those that wait. -/
def awaitedSince? (log : HeartbeatLog) : Option Instant :=
  (awaited log).getLast?.map (·.1)

variable {log entries : HeartbeatLog} {t sent : Instant} {n : Nat}

/-! ## One entry more -/

theorem unsettled_eq (log : HeartbeatLog) : unsettled log = log.takeWhile fun e => !e.2.settles := by
  simp only [unsettled, HeartbeatEntry.settles, Bool.not_or]

theorem awaited_of_settles {e : HeartbeatEntry} (h : e.settles = true) : awaited ((t, e) :: log) = [] := by
  rw [awaited, unsettled_eq, List.takeWhile_cons_of_neg (by simp [h]), List.filter_nil]

theorem unsettled_append (h : ∀ e ∈ entries, e.2.settles = false) :
    unsettled (entries ++ log) = entries ++ unsettled log := by
  rw [unsettled_eq, unsettled_eq]
  exact List.takeWhile_append_of_pos fun e he => by simp [h e he]

theorem awaitedSince?_pinged : awaitedSince? ((t, .pinged n) :: log) = some ((awaitedSince? log).getD t) := by
  have hcons : awaited ((t, .pinged n) :: log) = (t, .pinged n) :: awaited log := by
    rw [awaited, unsettled, List.takeWhile_cons_of_pos rfl]
    exact List.filter_cons_of_pos rfl
  rw [awaitedSince?, hcons, List.getLast?_cons]
  cases hlast : (awaited log).getLast? with
  | none => simp [awaitedSince?, hlast]
  | some e => simp [awaitedSince?, hlast]

theorem awaitedSince?_refused : awaitedSince? ((t, .refused n) :: log) = awaitedSince? log := by
  have hcons : awaited ((t, .refused n) :: log) = awaited log := by
    rw [awaited, unsettled, List.takeWhile_cons_of_pos rfl]
    exact List.filter_cons_of_neg Bool.false_ne_true
  rw [awaitedSince?, hcons, awaitedSince?]

theorem awaitedSince?_of_settles {e : HeartbeatEntry} (h : e.settles = true) :
    awaitedSince? ((t, e) :: log) = none := by
  rw [awaitedSince?, awaited_of_settles h, List.getLast?_nil, Option.map_none]

/-! ## The first ping that waits -/

/-- **Nothing but an acknowledged pong or a new session moves the first ping that waits.** -/
theorem awaitedSince?_append (h : ∀ e ∈ entries, e.2.settles = false) (hsince : awaitedSince? log = some sent) :
    awaitedSince? (entries ++ log) = some sent := by
  obtain ⟨e, hlast, rfl⟩ := Option.map_eq_some_iff.1 hsince
  rw [awaitedSince?, awaited, unsettled_append h, List.filter_append, List.getLast?_append]
  rw [awaited] at hlast
  rw [hlast, Option.some_or, Option.map_some]

theorem mem_awaited_iff {e : Instant × HeartbeatEntry} :
    e ∈ awaited log ↔ ∃ t n, e = (t, .pinged n) ∧ (t, .pinged n) ∈ unsettled log := by
  rw [awaited, List.mem_filter]
  constructor
  · rintro ⟨hmem, hping⟩
    obtain ⟨t, e⟩ := e
    cases e with
    | pinged n => exact ⟨t, n, rfl, hmem⟩
    | acked n | refused n | began => cases hping
  · rintro ⟨t, n, rfl, hmem⟩
    exact ⟨hmem, rfl⟩

theorem isAwaited_iff_exists : IsAwaited log ↔ ∃ sent, awaitedSince? log = some sent := by
  rw [← Option.isSome_iff_exists, awaitedSince?, Option.isSome_map, List.getLast?_isSome, ne_eq, awaited,
    List.filter_eq_nil_iff]
  simp [IsAwaited]

theorem FirstAwaited.unique {sent' : Instant} (h : FirstAwaited log sent) (h' : FirstAwaited log sent') :
    sent = sent' := by
  obtain ⟨n, hn⟩ := h.awaited
  obtain ⟨n', hn'⟩ := h'.awaited
  have hle := h.earliest sent' n' hn'
  have hge := h'.earliest sent n hn
  exact congrArg Instant.mk (Nat.le_antisymm hle hge)

/-- Where time does not go back, the first ping that waits is the earliest. -/
theorem firstAwaited_of_awaitedSince? (hsorted : log.Pairwise fun a b => b.1.nanos ≤ a.1.nanos)
    (hsince : awaitedSince? log = some sent) : FirstAwaited log sent := by
  obtain ⟨e, hlast, rfl⟩ := Option.map_eq_some_iff.1 hsince
  obtain ⟨front, hfront⟩ := List.getLast?_eq_some_iff.1 hlast
  have hmem : e ∈ awaited log := hfront ▸ List.mem_append_right _ List.mem_cons_self
  obtain ⟨t, n, rfl, hunsettled⟩ := mem_awaited_iff.1 hmem
  have hpings : (awaited log).Pairwise fun a b => b.1.nanos ≤ a.1.nanos :=
    hsorted.sublist (List.filter_sublist.trans (List.takeWhile_sublist _))
  refine ⟨⟨n, hunsettled⟩, fun t' n' hping => ?_⟩
  have hping : (t', .pinged n') ∈ awaited log := mem_awaited_iff.2 ⟨t', n', rfl, hping⟩
  rw [hfront] at hping hpings
  rcases List.mem_append.1 hping with hearlier | hlast
  · exact (List.pairwise_append.1 hpings).2.2 _ hearlier _ List.mem_cons_self
  · cases List.mem_singleton.1 hlast
    exact Nat.le_refl _

theorem FirstAwaited.isAwaited (h : FirstAwaited log sent) : IsAwaited log := by
  obtain ⟨n, hn⟩ := h.awaited
  exact ⟨(sent, .pinged n), hn, rfl⟩

theorem awaitedSince?_eq_some_iff (hsorted : log.Pairwise fun a b => b.1.nanos ≤ a.1.nanos) :
    awaitedSince? log = some sent ↔ FirstAwaited log sent := by
  refine ⟨firstAwaited_of_awaitedSince? hsorted, fun h => ?_⟩
  obtain ⟨since, hsince⟩ := isAwaited_iff_exists.1 h.isAwaited
  rw [hsince, (firstAwaited_of_awaitedSince? hsorted hsince).unique h]

end HeartbeatLog

open HeartbeatLog

namespace LoggedHeartbeat

variable {s : LoggedHeartbeat} {timeout : Duration} {made : List (Instant × HeartbeatCall)} {now : Instant}

/-! ## What a heartbeat knows of its pings -/

/-- **A heartbeat knows its timeout and the first ping that waits for a pong.** -/
structure Watches (s : LoggedHeartbeat) (timeout : Duration) : Prop where
  timeout : s.heartbeat.timeout = timeout
  since : s.heartbeat.pendingSince = awaitedSince? s.log

theorem watches_start (interval timeout : Duration) : (start interval timeout).Watches timeout :=
  ⟨rfl, rfl⟩

/-- **One call.** -/
theorem Watches.step (h : s.Watches timeout) (now : Instant) (call : HeartbeatCall) :
    (s.step now call).Watches timeout := by
  obtain ⟨htimeout, hsince⟩ := h
  cases call with
  | ping =>
    have hping : some (s.heartbeat.pendingSince.getD now) = some ((awaitedSince? s.log).getD now) := by rw [hsince]
    exact ⟨htimeout, hping.trans awaitedSince?_pinged.symm⟩
  | pong received =>
    rw [step_pong]
    by_cases hreceived : received = s.heartbeat.count
    · rw [hreceived, EchoSession.onPong_count]
      exact ⟨htimeout, (awaitedSince?_of_settles rfl).symm⟩
    · rw [EchoSession.onPong_of_ne hreceived]
      exact ⟨htimeout, hsince.trans awaitedSince?_refused.symm⟩
  | reset => exact ⟨htimeout, (awaitedSince?_of_settles rfl).symm⟩

theorem Watches.run (h : s.Watches timeout) (made : List (Instant × HeartbeatCall)) : (s.run made).Watches timeout := by
  induction made generalizing s with
  | nil => exact h
  | cons call made ih => exact ih (h.step call.1 call.2)

/-- A session is overdue once the first ping that waits is as old as the timeout. -/
theorem Watches.isOverdue_iff (h : s.Watches timeout) :
    s.heartbeat.isOverdue now = true ↔ ∃ sent, awaitedSince? s.log = some sent ∧
      timeout.nanos ≤ (now.since sent).nanos := by
  unfold Heartbeat.isOverdue
  rw [h.timeout, h.since, Option.any_eq_true]
  simp only [decide_eq_true_eq]

/-! ## Calls that leave the pings waiting -/

/-- **Calls that settle nothing**: they leave no entry of an acknowledged pong or of a new session, only pings and
pongs that are refused. -/
def SettlesNothing (s : LoggedHeartbeat) (more : List (Instant × HeartbeatCall)) : Prop :=
  ∃ entries, (s.run more).log = entries ++ s.log ∧ ∀ e ∈ entries, e.2.settles = false

variable {more : List (Instant × HeartbeatCall)} {later : Instant}

/-- **They move no answer**, whenever it is asked for. -/
theorem Watches.isOverdue_run (h : s.Watches timeout) (hmore : s.SettlesNothing more) (hawaited : IsAwaited s.log) :
    (s.run more).heartbeat.isOverdue later = s.heartbeat.isOverdue later := by
  obtain ⟨entries, hlog, hsettles⟩ := hmore
  obtain ⟨sent, hsince⟩ := isAwaited_iff_exists.1 hawaited
  have hsince' : awaitedSince? (s.run more).log = some sent := hlog ▸ awaitedSince?_append hsettles hsince
  rw [Bool.eq_iff_iff, (h.run more).isOverdue_iff, h.isOverdue_iff, hsince, hsince']

/-! ## When a session is overdue -/

/-- **By what a session is overdue at a point of time.**

It is so exactly if a ping waits for a pong and the earliest one was sent the timeout ago or before.  As long as a
ping waits and nothing is settled, the answers to come are as if nothing had been done; and a session that is overdue
is so at all later times. -/
structure OverdueByFirst (s : LoggedHeartbeat) (timeout : Duration) (now : Instant) : Prop where
  overdue_iff : s.heartbeat.isOverdue now = true ↔
    ∃ sent, FirstAwaited s.log sent ∧ sent.nanos + timeout.nanos ≤ now.nanos
  unmoved : ∀ more, s.SettlesNothing more → IsAwaited s.log →
    ∀ later, (s.run more).heartbeat.isOverdue later = s.heartbeat.isOverdue later
  lasting : s.heartbeat.isOverdue now = true → ∀ more later, s.SettlesNothing more → now.nanos ≤ later.nanos →
    (s.run more).heartbeat.isOverdue later = true

theorem calls_run_start (interval timeout : Duration) (made : List (Instant × HeartbeatCall)) :
    calls ((start interval timeout).run made).log = made.reverse := by
  rw [calls_run, start, calls, List.map_nil, List.append_nil]

/-- The log of calls in order is in order, latest first. -/
theorem pairwise_log_run (interval timeout : Duration) (hsorted : made.Pairwise fun a b => a.1.nanos ≤ b.1.nanos) :
    ((start interval timeout).run made).log.Pairwise fun a b => b.1.nanos ≤ a.1.nanos := by
  have hreverse := List.pairwise_reverse.2 hsorted
  rw [← calls_run_start interval timeout made, calls, List.pairwise_map] at hreverse
  exact hreverse

/-- **A session is overdue by the earliest ping that waits**, whatever the interval, the timeout and the calls in
order. -/
theorem overdue_by_first (interval timeout : Duration) (hsorted : made.Pairwise fun a b => a.1.nanos ≤ b.1.nanos)
    (hpast : ∀ c ∈ made, c.1.nanos ≤ now.nanos) :
    calls ((start interval timeout).run made).log = made.reverse ∧
      ((start interval timeout).run made).OverdueByFirst timeout now := by
  have hwatches := (watches_start interval timeout).run made
  have hcalls := calls_run_start interval timeout made
  have hfirst : ∀ sent, awaitedSince? ((start interval timeout).run made).log = some sent ↔
      FirstAwaited ((start interval timeout).run made).log sent :=
    fun sent => awaitedSince?_eq_some_iff (pairwise_log_run interval timeout hsorted)
  refine ⟨hcalls, ?_, fun more hmore hawaited later => hwatches.isOverdue_run hmore hawaited, ?_⟩
  · rw [hwatches.isOverdue_iff]
    refine exists_congr fun sent => ?_
    rw [hfirst]
    refine and_congr_right fun hsent => ?_
    -- the ping is one of the calls, so it was sent before now and the time since it is a difference
    have hle : sent.nanos ≤ now.nanos := by
      obtain ⟨n, hn⟩ := hsent.awaited
      have hmem : (sent, HeartbeatCall.ping) ∈ calls ((start interval timeout).run made).log :=
        List.mem_map_of_mem ((List.takeWhile_sublist _).subset hn)
      rw [hcalls, List.mem_reverse] at hmem
      exact hpast _ hmem
    change timeout.nanos ≤ now.nanos - sent.nanos ↔ _
    omega
  · intro hoverdue more later hmore hle
    obtain ⟨sent, hsince, htimeout⟩ := hwatches.isOverdue_iff.1 hoverdue
    rw [hwatches.isOverdue_run hmore (isAwaited_iff_exists.2 ⟨sent, hsince⟩), hwatches.isOverdue_iff]
    exact ⟨sent, hsince, Nat.le_trans htimeout (Nat.sub_le_sub_right hle _)⟩

/-- Two pings without a pong, and a pong with a number that nobody asked for: overdue a minute after the first ping. -/
theorem overdue_by_first_twoPings :
    let made : List (Instant × HeartbeatCall) :=
      [(⟨0⟩, .ping), (⟨30000000000⟩, .ping), (⟨31000000000⟩, .pong 7)]
    let s := (start (.ofSecs 30) (.ofSecs 60)).run made
    s.OverdueByFirst (.ofSecs 60) ⟨60000000000⟩ ∧ s.heartbeat.isOverdue ⟨60000000000⟩ = true ∧
      s.heartbeat.isOverdue ⟨59999999999⟩ = false :=
  ⟨(overdue_by_first (.ofSecs 30) (.ofSecs 60) (by decide) (by decide)).2, by decide, by decide⟩

end LoggedHeartbeat
end ChatClient
