import ChatClient.RateLimit.Limiter
/-!
# What a limiter answers by

The answer to a request only depends on the last quota that its endpoint got and on the time (`expected`).  A limiter
does not keep all of these quotas: a sweep drops buckets, and a request for an endpoint without one makes a bucket
that is used up but never starts anew.  It keeps each until its time has come, and from then on a fresh bucket answers
as it would (`Remembers`), so that no answer tells whether there was a sweep.
-/
namespace ChatClient

open Std (ExtTreeMap)

inductive LimiterCall where
  | acquire (key : String)
  | observe (key : String) (headers : List Header)
  | sweep
deriving DecidableEq, Repr

namespace LimiterCall

def isSweep : LimiterCall → Bool
  | .sweep => true
  | _ => false

end LimiterCall

/-- What a response said about an endpoint: the requests left until a point of time. -/
structure Quota where
  remaining : Int
  resetAt : Instant
deriving DecidableEq, Repr

namespace Quota

/-- How long a request has to wait under the last quota of its endpoint: until the point of time if no request is
left, and not at all if some are left or there was no quota. -/
def wait (now : Instant) : Option Quota → Duration
  | some q => if q.remaining ≤ 0 then q.resetAt.since now else .zero
  | none => .zero

def bucket (q : Quota) : Bucket :=
  ⟨q.remaining, some q.resetAt⟩

theorem wait_some (now : Instant) (q : Quota) :
    wait now (some q) = if q.remaining ≤ 0 then q.resetAt.since now else .zero :=
  rfl

theorem delay_bucket (q : Quota) (now : Instant) : q.bucket.delay now = wait now (some q) := by
  unfold bucket Bucket.delay
  rw [wait_some]
  by_cases hleft : 0 < q.remaining
  · rw [if_pos hleft, if_neg (Int.not_le.2 hleft)]
  · rw [if_neg hleft, if_pos (Int.not_lt.1 hleft)]

theorem wait_of_le {q : Quota} {now : Instant} (h : q.resetAt.nanos ≤ now.nanos) : wait now (some q) = .zero := by
  rw [wait_some]
  unfold Instant.since
  rw [Nat.sub_eq_zero_of_le h]
  exact ite_self _

/-- Who has waited as long as told, waits no more. -/
theorem wait_eq_zero {quota : Option Quota} {now later : Instant}
    (h : now.nanos + (wait now quota).nanos ≤ later.nanos) :
    wait later quota = .zero := by
  cases quota with
  | none => rfl
  | some q =>
    by_cases hleft : q.remaining ≤ 0
    · rw [wait_some, if_pos hleft] at h
      exact wait_of_le (Nat.le_trans (Nat.sub_le_iff_le_add'.1 (Nat.le_refl _)) h)
    · rw [wait_some, if_neg hleft]

end Quota

namespace RateLimiter

def step (l : RateLimiter) (now : Instant) : LimiterCall → RateLimiter × List Duration
  | .acquire key =>
    let (l, delay) := l.acquire key now
    (l, [delay])
  | .observe key headers => ((l.observe key headers now).1, [])
  | .sweep => ((l.sweep now).1, [])

def run (l : RateLimiter) : List (Instant × LimiterCall) → RateLimiter × List Duration
  | [] => (l, [])
  | (now, call) :: calls =>
    let (l, answers) := l.step now call
    let (l, later) := run l calls
    (l, answers ++ later)

def Timely (calls : List (Instant × LimiterCall)) : Prop :=
  calls.Pairwise fun a b => a.1.nanos ≤ b.1.nanos

instance (calls : List (Instant × LimiterCall)) : Decidable (Timely calls) :=
  inferInstanceAs (Decidable (calls.Pairwise _))

def withoutSweeps (calls : List (Instant × LimiterCall)) : List (Instant × LimiterCall) :=
  calls.filter fun c => !c.2.isSweep

/-! ## Answers by the last quota -/

def quotaOf? (key : String) : Instant × LimiterCall → Option Quota
  | (now, .observe k headers) =>
    match quota? k headers with
    | .ok (some (remaining, resetAfter)) => if k = key then some ⟨remaining, now.plus resetAfter⟩ else none
    | _ => none
  | _ => none

def lastQuota? (key : String) (past : List (Instant × LimiterCall)) : Option Quota :=
  past.findSome? (quotaOf? key)

def expected : List (Instant × LimiterCall) → List (Instant × LimiterCall) → List Duration
  | _, [] => []
  | past, (now, .acquire key) :: calls =>
    Quota.wait now (lastQuota? key past) :: expected ((now, .acquire key) :: past) calls
  | past, call :: calls => expected (call :: past) calls

theorem lastQuota?_cons (key : String) (call : Instant × LimiterCall) (past : List (Instant × LimiterCall)) :
    lastQuota? key (call :: past) = (quotaOf? key call).or (lastQuota? key past) := by
  unfold lastQuota?
  rw [List.findSome?_cons]
  cases quotaOf? key call <;> rfl

theorem lastQuota?_cons_of_none {key : String} {call : Instant × LimiterCall} (h : quotaOf? key call = none)
    (past : List (Instant × LimiterCall)) : lastQuota? key (call :: past) = lastQuota? key past := by
  rw [lastQuota?_cons, h, Option.none_or]

theorem lastQuota?_append_of_none {key : String} {recent past : List (Instant × LimiterCall)}
    (h : ∀ c ∈ recent, quotaOf? key c = none) : lastQuota? key (recent ++ past) = lastQuota? key past := by
  unfold lastQuota?
  rw [List.findSome?_append, List.findSome?_eq_none_iff.2 h, Option.none_or]

/-- Sweeps give no quotas, and get no answers. -/
theorem lastQuota?_withoutSweeps (key : String) :
    ∀ past : List (Instant × LimiterCall), lastQuota? key (withoutSweeps past) = lastQuota? key past
  | [] => rfl
  | (now, call) :: past => by
    have ih := lastQuota?_withoutSweeps key past
    cases call with
    | sweep => exact ih.trans (lastQuota?_cons_of_none rfl past).symm
    | acquire k => exact ih.trans (lastQuota?_cons_of_none rfl past).symm
    | observe k headers =>
      change lastQuota? key ((now, .observe k headers) :: withoutSweeps past) = _
      rw [lastQuota?_cons, lastQuota?_cons, ih]

theorem expected_withoutSweeps : ∀ past calls : List (Instant × LimiterCall),
    expected (withoutSweeps past) (withoutSweeps calls) = expected past calls
  | _, [] => rfl
  | past, (now, call) :: calls => by
    have ih := expected_withoutSweeps ((now, call) :: past) calls
    cases call with
    | sweep => exact ih
    | observe k headers => exact ih
    | acquire k =>
      change Quota.wait now (lastQuota? k (withoutSweeps past)) :: _ = Quota.wait now (lastQuota? k past) :: _
      rw [lastQuota?_withoutSweeps]
      exact congrArg _ ih

/-! ## Buckets -/

variable {l : RateLimiter} {past : List (Instant × LimiterCall)} {now later : Instant}

theorem bucket_empty (key : String) : empty.bucket key = .fresh :=
  ExtTreeMap.getD_empty

theorem bucket_acquire (l : RateLimiter) (now : Instant) (key k : String) :
    (l.acquire k now).1.bucket key = l.bucket key := by
  unfold acquire bucket
  rw [ExtTreeMap.getD_insertIfNew]
  split
  · rename_i h
    rw [Std.LawfulEqCmp.compare_eq_iff_eq] at h
    rw [← h.1, ExtTreeMap.getD_eq_fallback h.2]
  · rfl

theorem quotaOf?_observe (key : String) (now : Instant) (k : String) (headers : List Header) :
    quotaOf? key (now, .observe k headers) =
      match quota? k headers with
      | .ok (some (remaining, resetAfter)) => if k = key then some ⟨remaining, now.plus resetAfter⟩ else none
      | _ => none := rfl

theorem bucket_observe (l : RateLimiter) (now : Instant) (key k : String) (headers : List Header) :
    (l.observe k headers now).1.bucket key =
      match quotaOf? key (now, .observe k headers) with
      | some q => q.bucket
      | none => l.bucket key := by
  unfold observe
  rw [quotaOf?_observe]
  cases quota? k headers with
  | error e => rfl
  | ok quota =>
    cases quota with
    | none => rfl
    | some quota =>
      unfold bucket
      rw [ExtTreeMap.getD_insert]
      by_cases hk : k = key
      · simp only [if_pos hk, if_pos (Std.LawfulEqCmp.compare_eq_iff_eq.2 hk)]
        rfl
      · simp only [if_neg hk, if_neg (mt Std.LawfulEqCmp.eq_of_compare hk)]

theorem getElem?_sweep (l : RateLimiter) (now : Instant) (key : String) :
    (l.sweep now).1.buckets[key]? = l.buckets[key]?.filter fun b => !b.isExpired now :=
  ExtTreeMap.getElem?_filter'

/-- A sweep puts a fresh bucket in the place of one whose time has come. -/
theorem bucket_sweep (l : RateLimiter) (now : Instant) (key : String) :
    (l.sweep now).1.bucket key = if (l.bucket key).isExpired now then .fresh else l.bucket key := by
  unfold bucket
  rw [ExtTreeMap.getD_eq_getD_getElem?, ExtTreeMap.getD_eq_getD_getElem?, getElem?_sweep]
  cases l.buckets[key]? with
  | none => exact (ite_self _).symm
  | some b =>
    rw [Option.filter_some, Option.getD_some]
    cases b.isExpired now <;> rfl

theorem isExpired_eq_false_iff (b : Bucket) (now : Instant) :
    b.isExpired now = false ↔ ∃ resetAt, b.resetAt = some resetAt ∧ now.nanos < resetAt.nanos := by
  unfold Bucket.isExpired
  cases b.resetAt <;> simp

/-- **A sweep keeps exactly the buckets whose time is still to come**, and changes none of them. -/
theorem sweep_keeps_iff (l : RateLimiter) (now : Instant) (key : String) (b : Bucket) :
    (l.sweep now).1.buckets[key]? = some b ↔
      l.buckets[key]? = some b ∧ ∃ resetAt, b.resetAt = some resetAt ∧ now.nanos < resetAt.nanos := by
  rw [getElem?_sweep, Option.filter_eq_some_iff, Bool.not_eq_true', isExpired_eq_false_iff]

/-! ## What a limiter keeps of its past -/

/-- **Under each key stands the last quota, or, once its time has come, possibly a fresh bucket.** -/
def Remembers (l : RateLimiter) (past : List (Instant × LimiterCall)) (now : Instant) : Prop :=
  ∀ key, (∃ q, lastQuota? key past = some q ∧ l.bucket key = q.bucket) ∨
    (l.bucket key = .fresh ∧ ∀ q, lastQuota? key past = some q → q.resetAt.nanos ≤ now.nanos)

theorem remembers_empty (now : Instant) : empty.Remembers [] now :=
  fun key => .inr ⟨bucket_empty key, fun _ h => (nomatch h)⟩

theorem Remembers.mono (h : l.Remembers past now) (hle : now.nanos ≤ later.nanos) : l.Remembers past later :=
  fun key => (h key).imp_right fun ⟨hfresh, hover⟩ => ⟨hfresh, fun q hq => Nat.le_trans (hover q hq) hle⟩

theorem Remembers.asked (h : l.Remembers past now) (k : String) (asked : Instant) :
    (l.acquire k asked).1.Remembers past now := by
  intro key
  rw [bucket_acquire]
  exact h key

theorem Remembers.acquire (h : l.Remembers past now) (k : String) :
    (l.acquire k now).1.Remembers ((now, .acquire k) :: past) now := by
  intro key
  rw [lastQuota?_cons_of_none rfl]
  exact h.asked k now key

theorem Remembers.observe (h : l.Remembers past now) (k : String) (headers : List Header) :
    (l.observe k headers now).1.Remembers ((now, .observe k headers) :: past) now := by
  intro key
  rw [bucket_observe, lastQuota?_cons]
  cases quotaOf? key (now, .observe k headers) with
  | none => exact h key
  | some q => exact .inl ⟨q, rfl, rfl⟩

/-- A sweep at an earlier point of time only drops quotas whose time has come long since. -/
theorem Remembers.swept {swept : Instant} (h : l.Remembers past now) (hle : swept.nanos ≤ now.nanos) :
    (l.sweep swept).1.Remembers past now := by
  intro key
  rw [bucket_sweep]
  obtain ⟨q, hq, hbucket⟩ | ⟨hfresh, hover⟩ := h key
  · -- the bucket of a quota goes only if the time of that quota has come
    by_cases hexpired : (l.bucket key).isExpired swept = true
    · rw [if_pos hexpired]
      rw [hbucket] at hexpired
      refine .inr ⟨rfl, fun q' hq' => ?_⟩
      rw [hq] at hq'
      cases hq'
      exact Nat.le_trans (of_decide_eq_true hexpired) hle
    · rw [if_neg hexpired]
      exact .inl ⟨q, hq, hbucket⟩
  · rw [hfresh, ite_self]
    exact .inr ⟨rfl, hover⟩

theorem Remembers.sweep (h : l.Remembers past now) : (l.sweep now).1.Remembers ((now, .sweep) :: past) now := by
  intro key
  rw [lastQuota?_cons_of_none rfl]
  exact h.swept (Nat.le_refl _) key

/-- **One call** keeps what the limiter remembers, with the call itself in the past. -/
theorem Remembers.step (h : l.Remembers past now) (call : LimiterCall) :
    (l.step now call).1.Remembers ((now, call) :: past) now := by
  cases call with
  | acquire k => exact h.acquire k
  | observe k headers => exact h.observe k headers
  | sweep => exact h.sweep

/-- **The answer to a request is that of the last quota.** -/
theorem Remembers.acquire_snd (h : l.Remembers past now) (key : String) :
    (l.acquire key now).2 = Quota.wait now (lastQuota? key past) := by
  change (l.bucket key).delay now = _
  obtain ⟨q, hq, hbucket⟩ | ⟨hfresh, hover⟩ := h key
  · rw [hq, hbucket, Quota.delay_bucket]
  · -- a fresh bucket lets all pass, as the quota does whose time has come
    rw [hfresh]
    change Duration.zero = _
    cases hq : lastQuota? key past with
    | none => rfl
    | some q => exact (Quota.wait_of_le (hover q hq)).symm

/-! ## Whole runs -/

theorem run_cons (l : RateLimiter) (now : Instant) (call : LimiterCall) (calls : List (Instant × LimiterCall)) :
    l.run ((now, call) :: calls) =
      (((l.step now call).1.run calls).1, (l.step now call).2 ++ ((l.step now call).1.run calls).2) := rfl

theorem Remembers.run (h : l.Remembers past now) (calls : List (Instant × LimiterCall))
    (hfrom : ∀ c ∈ calls, now.nanos ≤ c.1.nanos) (htimely : Timely calls) (hlater : now.nanos ≤ later.nanos)
    (hto : ∀ c ∈ calls, c.1.nanos ≤ later.nanos) : (l.run calls).1.Remembers (calls.reverse ++ past) later := by
  induction calls generalizing l past now with
  | nil => exact h.mono hlater
  | cons call calls ih =>
    obtain ⟨t, call⟩ := call
    rw [run_cons, List.reverse_cons, List.append_assoc]
    exact ih ((h.mono (hfrom _ List.mem_cons_self)).step call) (fun c hc => List.rel_of_pairwise_cons htimely hc)
      htimely.of_cons (hto _ List.mem_cons_self) fun c hc => hto c (List.mem_cons_of_mem _ hc)

/-- **The answers of a run are those of the last quotas.** -/
theorem Remembers.run_snd (h : l.Remembers past now) (calls : List (Instant × LimiterCall))
    (hfrom : ∀ c ∈ calls, now.nanos ≤ c.1.nanos) (htimely : Timely calls) :
    (l.run calls).2 = expected past calls := by
  induction calls generalizing l past now with
  | nil => rfl
  | cons call calls ih =>
    obtain ⟨t, call⟩ := call
    have hnow := h.mono (hfrom _ List.mem_cons_self)
    have hrest := ih (hnow.step call) (fun c hc => List.rel_of_pairwise_cons htimely hc) htimely.of_cons
    rw [run_cons, hrest]
    cases call with
    | acquire key =>
      change [(l.acquire key t).2] ++ _ = _
      rw [hnow.acquire_snd]
      rfl
    | observe key headers => rfl
    | sweep => rfl

theorem run_empty_snd {calls : List (Instant × LimiterCall)} (htimely : Timely calls) :
    (empty.run calls).2 = expected [] calls :=
  (remembers_empty .start).run_snd calls (fun _ _ => Nat.zero_le _) htimely

theorem remembers_run_empty {calls after : List (Instant × LimiterCall)} {call : LimiterCall}
    (htimely : Timely (calls ++ (now, call) :: after)) : (empty.run calls).1.Remembers calls.reverse now := by
  have hsplit := List.pairwise_append.1 htimely
  have h := (remembers_empty .start).run calls (fun _ _ => Nat.zero_le _) hsplit.1 (Nat.zero_le now.nanos)
    fun c hc => hsplit.2.2 c hc _ List.mem_cons_self
  rwa [List.append_nil] at h

/-- **What calls of a new limiter come to.**

Every request is told to wait as the last quota of its endpoint says, and so it would be if sweeps were left out or
came between; each sweep keeps the buckets whose time is still to come, as they are, and no others; and who comes back
after the time told, with no quota in between, waits no more. -/
structure KeepsQuotas (calls : List (Instant × LimiterCall)) : Prop where
  answers : (empty.run calls).2 = expected [] calls
  sweepless : ∀ calls', Timely calls' → withoutSweeps calls' = withoutSweeps calls →
    (empty.run calls').2 = (empty.run calls).2
  evicts : ∀ (before after : List (Instant × LimiterCall)) (now : Instant), calls = before ++ (now, .sweep) :: after →
    ∀ (key : String) (b : Bucket), ((empty.run before).1.step now .sweep).1.buckets[key]? = some b ↔
      (empty.run before).1.buckets[key]? = some b ∧ ∃ resetAt, b.resetAt = some resetAt ∧ now.nanos < resetAt.nanos
  waited : ∀ (before during after : List (Instant × LimiterCall)) (key : String) (now later : Instant),
    calls = before ++ (now, .acquire key) :: (during ++ (later, .acquire key) :: after) →
    (∀ c ∈ during, quotaOf? key c = none) →
    now.nanos + ((empty.run before).1.acquire key now).2.nanos ≤ later.nanos →
    ((empty.run (before ++ (now, .acquire key) :: during)).1.acquire key later).2 = .zero

/-- **A limiter answers by the last quotas**, whatever was swept. -/
theorem keepsQuotas (calls : List (Instant × LimiterCall)) (htimely : Timely calls) : KeepsQuotas calls where
  answers := run_empty_snd htimely
  sweepless calls' htimely' hsame := by
    rw [run_empty_snd htimely', run_empty_snd htimely, ← expected_withoutSweeps [] calls', hsame]
    exact expected_withoutSweeps [] calls
  evicts before _ now _ key b := sweep_keeps_iff (empty.run before).1 now key b
  waited before during after key now later hcalls hnone hwaited := by
    subst hcalls
    have hfirst := (remembers_run_empty htimely).acquire_snd key
    have hsecond : Timely ((before ++ (now, .acquire key) :: during) ++ (later, .acquire key) :: after) := by
      rwa [List.append_assoc, List.cons_append]
    rw [hfirst] at hwaited
    rw [(remembers_run_empty hsecond).acquire_snd key, List.reverse_append, List.reverse_cons, List.append_assoc,
      lastQuota?_append_of_none fun c hc => hnone c (List.mem_reverse.1 hc), List.singleton_append,
      lastQuota?_cons_of_none rfl]
    exact Quota.wait_eq_zero hwaited

def usedUp : List Header :=
  [⟨"x-ratelimit-remaining", [0x30]⟩, ⟨"x-ratelimit-reset-after", [0x32, 0x35, 0x30, 0x30]⟩]

/-- Requests before a response, under its quota, and after the wait told then, at the very point of time at which a
sweep drops the bucket. -/
def busy : List (Instant × LimiterCall) :=
  [(⟨0⟩, .acquire "GET:/a"), (⟨0⟩, .observe "GET:/a" usedUp), (⟨1000000000⟩, .acquire "GET:/b"),
    (⟨2000000000⟩, .sweep), (⟨2000000000⟩, .acquire "GET:/a"), (⟨2500000000⟩, .sweep),
    (⟨2500000000⟩, .acquire "GET:/a")]

theorem keepsQuotas_busy :
    Timely busy ∧ KeepsQuotas busy ∧ (empty.run busy).2 = [⟨0⟩, ⟨0⟩, ⟨500000000⟩, ⟨0⟩] ∧
      (empty.run (withoutSweeps busy)).2 = [⟨0⟩, ⟨0⟩, ⟨500000000⟩, ⟨0⟩] := by
  have hkeeps : KeepsQuotas busy := keepsQuotas busy (by decide)
  have hanswers :=
    hkeeps.answers.trans (by decide +kernel : expected [] busy = [⟨0⟩, ⟨0⟩, ⟨500000000⟩, ⟨0⟩])
  exact ⟨by decide, hkeeps, hanswers, (hkeeps.sweepless _ (by decide) (by decide)).trans hanswers⟩

end RateLimiter
end ChatClient
