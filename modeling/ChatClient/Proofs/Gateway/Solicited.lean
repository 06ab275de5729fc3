import ChatClient.Proofs.Gateway.Echo
/-!
# Pongs that were asked for

A heartbeat acknowledges a pong by its number alone, which has to be that of the pongs acknowledged before.  Whether a
ping waits for a pong it knows (`Keeps.pending`), and does not ask.  So a server that makes up the next number is
believed without a ping (`acknowledges_unasked`).

What comes of each call stands in a log, and there it can be seen which pongs were asked for: an acknowledged pong was
asked for exactly if it echoes a ping of its session (`acknowledges_by_number`).  The reason is that a ping with the
present number cannot be older than the last acknowledged pong, since every one of those moves the number on.  A
server that sends back what was sent to it, in any order and as often as it likes, thus never gets more pongs
acknowledged than pings were sent.
-/
namespace ChatClient

inductive HeartbeatCall where
  | ping
  | pong (received : Nat)
  | reset
deriving DecidableEq, Repr

/-- What comes of it: a ping is sent, a pong is acknowledged or refused, or a session begins. -/
inductive HeartbeatEntry where
  | pinged (number : Nat)
  | acked (number : Nat)
  | refused (number : Nat)
  | began
deriving DecidableEq, Repr

namespace HeartbeatEntry

def call : HeartbeatEntry → HeartbeatCall
  | pinged _ => .ping
  | acked n | refused n => .pong n
  | began => .reset

def ofPong (received : Nat) : PongOutcome → HeartbeatEntry
  | .acked _ => acked received
  | .mismatch .. => refused received

def isPing : HeartbeatEntry → Bool
  | pinged _ => true
  | _ => false

def isAck : HeartbeatEntry → Bool
  | acked _ => true
  | _ => false

def isStart : HeartbeatEntry → Bool
  | began => true
  | _ => false

/-- **An entry fits the number of pongs acknowledged before it**: pings and acknowledged pongs carry it, refused pongs
do not. -/
def Fits (acks : Nat) : HeartbeatEntry → Prop
  | pinged n | acked n => n = acks
  | refused n => n ≠ acks
  | began => True

end HeartbeatEntry

abbrev HeartbeatLog : Type :=
  List (Instant × HeartbeatEntry)

namespace HeartbeatLog

def session (log : HeartbeatLog) : HeartbeatLog :=
  log.takeWhile fun e => !e.2.isStart

/-- What came since the last pong was acknowledged in the session. -/
def unsettled (log : HeartbeatLog) : HeartbeatLog :=
  log.takeWhile fun e => !e.2.isStart && !e.2.isAck

def pings (log : HeartbeatLog) : Nat :=
  (session log).countP (·.2.isPing)

def acks (log : HeartbeatLog) : Nat :=
  (session log).countP (·.2.isAck)

/-- **A ping waits for a pong**: it was sent since the last acknowledged pong of the session. -/
def IsAwaited (log : HeartbeatLog) : Prop :=
  ∃ e ∈ unsettled log, e.2.isPing = true

def IsEcho (n : Nat) (log : HeartbeatLog) : Prop :=
  ∃ t, (t, .pinged n) ∈ session log

instance (log : HeartbeatLog) : Decidable (IsAwaited log) :=
  inferInstanceAs (Decidable (∃ e ∈ unsettled log, e.2.isPing = true))

def Numbered : HeartbeatLog → Prop
  | [] => True
  | e :: log => e.2.Fits (acks log) ∧ Numbered log

def ForAcked (p : Nat → HeartbeatLog → Prop) (log : HeartbeatLog) : Prop :=
  ∀ later t n earlier, log = later ++ (t, .acked n) :: earlier → p n earlier

variable {log : HeartbeatLog} {t : Instant} {n : Nat}

/-! ## One entry more -/

theorem session_began : session ((t, .began) :: log) = [] :=
  List.takeWhile_cons_of_neg (by simp [HeartbeatEntry.isStart])

theorem session_cons {e : HeartbeatEntry} (h : e.isStart = false) : session ((t, e) :: log) = (t, e) :: session log :=
  List.takeWhile_cons_of_pos (by simp [h])

theorem acks_cons {e : HeartbeatEntry} (h : e.isStart = false) :
    acks ((t, e) :: log) = acks log + if e.isAck then 1 else 0 := by
  rw [acks, session_cons h, List.countP_cons, acks]

theorem pings_cons {e : HeartbeatEntry} (h : e.isStart = false) :
    pings ((t, e) :: log) = pings log + if e.isPing then 1 else 0 := by
  rw [pings, session_cons h, List.countP_cons, pings]

theorem isEcho_cons {e : HeartbeatEntry} (h : e.isStart = false) (k : Nat) :
    IsEcho k ((t, e) :: log) ↔ e = .pinged k ∨ IsEcho k log := by
  unfold IsEcho
  rw [session_cons h]
  simp [exists_or, eq_comm]

theorem isAwaited_pinged : IsAwaited ((t, .pinged n) :: log) :=
  ⟨(t, .pinged n), by simp [unsettled, HeartbeatEntry.isStart, HeartbeatEntry.isAck], rfl⟩

theorem isAwaited_refused : IsAwaited ((t, .refused n) :: log) ↔ IsAwaited log := by
  simp [IsAwaited, unsettled, HeartbeatEntry.isStart, HeartbeatEntry.isAck, HeartbeatEntry.isPing]

theorem not_isAwaited_acked : ¬ IsAwaited ((t, .acked n) :: log) := by
  simp [IsAwaited, unsettled, HeartbeatEntry.isStart, HeartbeatEntry.isAck]

theorem not_isAwaited_began : ¬ IsAwaited ((t, .began) :: log) := by
  simp [IsAwaited, unsettled, HeartbeatEntry.isStart]

/-! ## What a log with fitting numbers tells -/

theorem Numbered.le_acks (h : Numbered log) (hecho : IsEcho n log) : n ≤ acks log := by
  induction log with
  | nil => simp [IsEcho, session] at hecho
  | cons e log ih =>
    obtain ⟨t, e⟩ := e
    obtain ⟨hfits, hlog⟩ := h
    cases e with
    | began => simp [IsEcho, session_began] at hecho
    | pinged k =>
      rw [acks_cons rfl]
      rcases (isEcho_cons rfl n).1 hecho with heq | hecho
      · cases heq
        exact Nat.le_of_eq hfits
      · exact ih hlog hecho
    | acked k | refused k =>
      rw [acks_cons rfl]
      exact Nat.le_add_right_of_le (ih hlog (((isEcho_cons rfl n).1 hecho).resolve_left (by simp)))

/-- **A ping waits for a pong exactly if one of the session carries the present number.** -/
theorem Numbered.isAwaited_iff (h : Numbered log) : IsAwaited log ↔ IsEcho (acks log) log := by
  induction log with
  | nil => simp [IsAwaited, IsEcho, unsettled, session]
  | cons e log ih =>
    obtain ⟨t, e⟩ := e
    obtain ⟨hfits, hlog⟩ := h
    cases e with
    | began => exact iff_of_false not_isAwaited_began (by simp [IsEcho, session_began])
    | pinged k =>
      refine iff_of_true isAwaited_pinged ((isEcho_cons rfl _).2 (.inl ?_))
      rw [acks_cons rfl]
      exact congrArg _ hfits
    | acked k =>
      -- the number moves on, and no ping carries the new one yet
      refine iff_of_false not_isAwaited_acked fun hecho => ?_
      rw [acks_cons rfl] at hecho
      have hle := hlog.le_acks (((isEcho_cons rfl _).1 hecho).resolve_left (by simp))
      exact Nat.not_succ_le_self _ hle
    | refused k =>
      rw [isAwaited_refused, ih hlog, acks_cons rfl, isEcho_cons rfl]
      simp [HeartbeatEntry.isAck]

theorem Numbered.of_append {later earlier : HeartbeatLog} (h : Numbered (later ++ earlier)) : Numbered earlier := by
  induction later with
  | nil => exact h
  | cons e later ih => exact ih h.2

/-- An acknowledged pong carries the number of those before it, and was asked for exactly if it is an echo. -/
theorem Numbered.forAcked (h : Numbered log) :
    ForAcked (fun n earlier => n = acks earlier ∧ (IsAwaited earlier ↔ IsEcho n earlier)) log := by
  rintro later t n earlier rfl
  obtain ⟨hfits, hearlier⟩ := h.of_append
  have hn : n = acks earlier := hfits
  refine ⟨hn, ?_⟩
  rw [hn]
  exact hearlier.isAwaited_iff

theorem ForAcked.of_cons {p : Nat → HeartbeatLog → Prop} {e : Instant × HeartbeatEntry} (h : ForAcked p (e :: log)) :
    ForAcked p log :=
  fun later t n earlier hlog => h (e :: later) t n earlier (congrArg (e :: ·) hlog)

/-- **Where all acknowledged pongs were asked for, there are no more of them than pings**, and fewer while a ping
waits. -/
theorem acks_le_pings (h : ForAcked (fun _ earlier => IsAwaited earlier) log) :
    acks log ≤ pings log ∧ (IsAwaited log → acks log < pings log) := by
  induction log with
  | nil => exact ⟨Nat.le_refl _, fun hawaited => by simp [IsAwaited, unsettled] at hawaited⟩
  | cons e log ih =>
    obtain ⟨t, e⟩ := e
    obtain ⟨hle, hlt⟩ := ih h.of_cons
    cases e with
    | began => exact ⟨by simp [acks, session_began], fun hawaited => absurd hawaited not_isAwaited_began⟩
    | pinged k =>
      rw [acks_cons rfl, pings_cons rfl]
      exact ⟨Nat.le_succ_of_le hle, fun _ => Nat.lt_succ_of_le hle⟩
    | acked k =>
      rw [acks_cons rfl, pings_cons rfl]
      exact ⟨hlt (h [] t k log rfl), fun hawaited => absurd hawaited not_isAwaited_acked⟩
    | refused k =>
      rw [acks_cons rfl, pings_cons rfl]
      exact ⟨hle, fun hawaited => hlt (isAwaited_refused.1 hawaited)⟩

end HeartbeatLog

open HeartbeatLog

structure LoggedHeartbeat where
  heartbeat : Heartbeat
  log : HeartbeatLog
deriving DecidableEq, Repr

namespace LoggedHeartbeat

def start (interval timeout : Duration) : LoggedHeartbeat :=
  ⟨.fresh interval timeout, []⟩

def step (s : LoggedHeartbeat) (now : Instant) : HeartbeatCall → LoggedHeartbeat
  | .ping =>
    let (heartbeat, number) := s.heartbeat.nextPing now
    ⟨heartbeat, (now, .pinged number) :: s.log⟩
  | .pong received =>
    let (heartbeat, outcome) := s.heartbeat.onPong received now
    ⟨heartbeat, (now, .ofPong received outcome) :: s.log⟩
  | .reset => ⟨s.heartbeat.reset, (now, .began) :: s.log⟩

def run (s : LoggedHeartbeat) (calls : List (Instant × HeartbeatCall)) : LoggedHeartbeat :=
  calls.foldl (fun s call => s.step call.1 call.2) s

theorem step_pong (s : LoggedHeartbeat) (now : Instant) (received : Nat) :
    s.step now (.pong received) = ⟨(s.heartbeat.onPong received now).1,
      (now, .ofPong received (s.heartbeat.onPong received now).2) :: s.log⟩ := rfl

theorem call_ofPong (received : Nat) (outcome : PongOutcome) :
    (HeartbeatEntry.ofPong received outcome).call = .pong received := by
  cases outcome <;> rfl

theorem exists_log_step (s : LoggedHeartbeat) (now : Instant) (call : HeartbeatCall) :
    ∃ e : HeartbeatEntry, (s.step now call).log = (now, e) :: s.log ∧ e.call = call := by
  cases call with
  | ping => exact ⟨_, rfl, rfl⟩
  | reset => exact ⟨_, rfl, rfl⟩
  | pong received => exact ⟨_, rfl, call_ofPong received _⟩

/-! ## What a heartbeat keeps of its log -/

/-- **A heartbeat knows how many pongs its session has acknowledged and whether a ping waits for one.** -/
structure Keeps (s : LoggedHeartbeat) : Prop where
  count : s.heartbeat.count = acks s.log
  pending : s.heartbeat.pendingSince.isSome = true ↔ IsAwaited s.log
  numbered : Numbered s.log

variable {s : LoggedHeartbeat}

theorem keeps_start (interval timeout : Duration) : (start interval timeout).Keeps :=
  ⟨rfl, by simp [start, Heartbeat.fresh, IsAwaited, unsettled], trivial⟩

/-- **One call.** -/
theorem Keeps.step (h : s.Keeps) (now : Instant) (call : HeartbeatCall) : (s.step now call).Keeps := by
  obtain ⟨hcount, hpending, hnumbered⟩ := h
  cases call with
  | ping =>
    have hacks : acks ((now, .pinged s.heartbeat.count) :: s.log) = acks s.log := acks_cons rfl
    exact ⟨hcount.trans hacks.symm, iff_of_true rfl isAwaited_pinged, hcount, hnumbered⟩
  | pong received =>
    rw [step_pong]
    by_cases hreceived : received = s.heartbeat.count
    · rw [hreceived, EchoSession.onPong_count]
      have hacks : acks ((now, .acked s.heartbeat.count) :: s.log) = acks s.log + 1 := acks_cons rfl
      exact ⟨(congrArg (· + 1) hcount).trans hacks.symm, iff_of_false nofun not_isAwaited_acked, hcount, hnumbered⟩
    · rw [EchoSession.onPong_of_ne hreceived]
      have hacks : acks ((now, .refused received) :: s.log) = acks s.log := acks_cons rfl
      exact ⟨hcount.trans hacks.symm, hpending.trans isAwaited_refused.symm, hcount ▸ hreceived, hnumbered⟩
  | reset =>
    have hacks : acks ((now, .began) :: s.log) = 0 := by rw [acks, session_began, List.countP_nil]
    exact ⟨hacks.symm, iff_of_false nofun not_isAwaited_began, trivial, hnumbered⟩

theorem Keeps.run (h : s.Keeps) (calls : List (Instant × HeartbeatCall)) : (s.run calls).Keeps := by
  induction calls generalizing s with
  | nil => exact h
  | cons call calls ih => exact ih (h.step call.1 call.2)

def calls (log : HeartbeatLog) : List (Instant × HeartbeatCall) :=
  log.map fun e => (e.1, e.2.call)

theorem calls_step (s : LoggedHeartbeat) (now : Instant) (call : HeartbeatCall) :
    calls (s.step now call).log = (now, call) :: calls s.log := by
  obtain ⟨e, hlog, rfl⟩ := s.exists_log_step now call
  rw [hlog]
  rfl

theorem calls_run (s : LoggedHeartbeat) (made : List (Instant × HeartbeatCall)) :
    calls (s.run made).log = made.reverse ++ calls s.log := by
  induction made generalizing s with
  | nil => rfl
  | cons call made ih =>
    have hrest := ih (s.step call.1 call.2)
    rw [calls_step] at hrest
    rw [List.reverse_cons, List.append_assoc]
    exact hrest

/-- **What a heartbeat acknowledges, whatever it is asked and told.**

Its count is that of the pongs acknowledged since the session began, and it knows whether a ping waits for one.  Each
acknowledged pong carries the number of those before it, and was asked for exactly if it echoes a ping of its session.
While all of them do, the count is at most that of the pings. -/
structure AcknowledgesByNumber (s : LoggedHeartbeat) : Prop where
  count : s.heartbeat.count = acks s.log
  pending : s.heartbeat.pendingSince.isSome = true ↔ IsAwaited s.log
  asked : ForAcked (fun n earlier => n = acks earlier ∧ (IsAwaited earlier ↔ IsEcho n earlier)) s.log
  bounded : ForAcked IsEcho s.log → s.heartbeat.count ≤ pings s.log

theorem acknowledges_by_number (interval timeout : Duration) (made : List (Instant × HeartbeatCall)) :
    calls ((start interval timeout).run made).log = made.reverse ∧
      ((start interval timeout).run made).AcknowledgesByNumber := by
  have hkeeps := (keeps_start interval timeout).run made
  refine ⟨by rw [calls_run, start, calls, List.map_nil, List.append_nil], hkeeps.count, hkeeps.pending,
    hkeeps.numbered.forAcked, ?_⟩
  intro hechoes
  have hasked : ForAcked (fun _ earlier => IsAwaited earlier) ((start interval timeout).run made).log :=
    fun later t n earlier hlog => (hkeeps.numbered.forAcked later t n earlier hlog).2.2 (hechoes later t n earlier hlog)
  rw [hkeeps.count]
  exact (acks_le_pings hasked).1

theorem acknowledges_unasked :
    (¬ ∀ (interval timeout : Duration) (made : List (Instant × HeartbeatCall)),
      ForAcked (fun _ earlier => IsAwaited earlier) ((start interval timeout).run made).log) ∧
    ¬ ∀ (interval timeout : Duration) (made : List (Instant × HeartbeatCall)),
      ((start interval timeout).run made).heartbeat.count ≤ pings ((start interval timeout).run made).log := by
  constructor
  · intro h
    have hawaited := h (.ofSecs 30) (.ofSecs 60) [(⟨0⟩, .pong 0)] [] ⟨0⟩ 0 [] (by decide)
    revert hawaited
    decide
  · intro h
    have hle := h (.ofSecs 30) (.ofSecs 60) [(⟨0⟩, .pong 0)]
    revert hle
    decide

end LoggedHeartbeat
end ChatClient
