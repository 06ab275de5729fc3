import ChatClient.Proofs.RateLimit.Quota
import ChatClient.Proofs.Text.Separator
/-!
# Endpoints and their buckets

A bucket stands under a method and a path without its query, with a colon between the two.  Methods hold no colon, so
that the first one in a key ends the method, whatever the path is, and two requests share a bucket exactly if they are
of one method and their paths are the same up to the query (`bucketKey_eq_iff`).

An endpoint shares nothing else with others either.  What a request is told only depends on the bucket under its own
key, and a call on another key leaves that one as it is (`bucket_step_of_not_concerns`).  So the requests to an
endpoint get the same answers whatever else is asked of the limiter or told to it (`answersTo_congr`), in any state
that it may be in.
-/
namespace ChatClient

namespace LimiterCall

/-- Whether a call has to do with a key; a sweep has to do with all. -/
def concerns (key : String) : LimiterCall → Bool
  | .acquire k | .observe k _ => k == key
  | .sweep => true

end LimiterCall

namespace RateLimiter

/-! ## Keys -/

/-- A text is a path up to its query: to the first question mark, or all of it if there is none. -/
def IsFront (front : List Char) (path : String) : Prop :=
  '?' ∉ front ∧ (path.toList = front ∨ ∃ query, path.toList = front ++ '?' :: query)

/-- **Two paths are the same up to their queries.** -/
def SameUpToQuery (path path' : String) : Prop :=
  ∃ front, IsFront front path ∧ IsFront front path'

theorem isFront_iff {front : List Char} {path : String} :
    IsFront front path ↔ path.toList.takeWhile (· != '?') = front := by
  constructor
  · rintro ⟨hfree, hpath⟩
    rcases hpath with hpath | ⟨query, hpath⟩
    · rw [hpath, List.takeWhile_eq_self_iff]
      exact fun c hc => bne_iff_ne.2 fun heq => hfree (heq ▸ hc)
    · rw [hpath, takeWhile_separator hfree]
  · rintro rfl
    refine ⟨fun hmem => ?_, ?_⟩
    · simpa using List.all_eq_true.1 List.all_takeWhile '?' hmem
    · have hwhole := List.takeWhile_append_dropWhile (p := (· != '?')) (l := path.toList)
      cases hrest : path.toList.dropWhile (· != '?') with
      | nil =>
        rw [hrest, List.append_nil] at hwhole
        exact .inl hwhole.symm
      | cons c query =>
        -- what is dropped starts with the character at which the taking ended
        have hmark : c = '?' := by
          have hhead := List.head_dropWhile_not (· != '?') (l := path.toList) (by simp [hrest])
          simpa [hrest] using hhead
        rw [hrest, hmark] at hwhole
        exact .inr ⟨query, hwhole.symm⟩

theorem sameUpToQuery_iff {path path' : String} :
    SameUpToQuery path path' ↔ path.toList.takeWhile (· != '?') = path'.toList.takeWhile (· != '?') := by
  constructor
  · rintro ⟨front, hfront, hfront'⟩
    exact (isFront_iff.1 hfront).trans (isFront_iff.1 hfront').symm
  · intro h
    exact ⟨_, isFront_iff.2 rfl, isFront_iff.2 h.symm⟩

theorem toList_bucketKey (method path : String) :
    (bucketKey method path).toList = method.toList ++ ':' :: path.toList.takeWhile (· != '?') := by
  have hcolon : ":".toList = [':'] := String.toList_ofList
  rw [bucketKey, String.toList_append, String.toList_append, hcolon, String.toList_ofList, List.append_assoc,
    List.singleton_append]

/-- **Two requests have one key exactly if they have one method, and one path up to the query.** -/
theorem bucketKey_eq_iff {method method' : String} (hmethod : ':' ∉ method.toList) (hmethod' : ':' ∉ method'.toList)
    (path path' : String) :
    bucketKey method path = bucketKey method' path' ↔ method = method' ∧ SameUpToQuery path path' := by
  rw [← String.toList_inj, toList_bucketKey, toList_bucketKey, append_separator_inj hmethod hmethod', String.toList_inj,
    sameUpToQuery_iff]

/-! ## One call -/

variable {l l' : RateLimiter} {key : String}

/-- **A call on another key leaves a bucket as it is.** -/
theorem bucket_step_of_not_concerns {call : LimiterCall} (h : call.concerns key = false) (l : RateLimiter)
    (now : Instant) : (l.step now call).1.bucket key = l.bucket key := by
  cases call with
  | acquire k => exact bucket_acquire l now key k
  | observe k headers =>
    have hother : quotaOf? key (now, .observe k headers) = none := by
      have hk : k ≠ key := ne_of_beq_false h
      rw [quotaOf?_observe]
      split
      · rw [if_neg hk]
      · rfl
    have hbucket := bucket_observe l now key k headers
    rw [hother] at hbucket
    exact hbucket
  | sweep => cases h

theorem bucket_step_congr (h : l.bucket key = l'.bucket key) (now : Instant) (call : LimiterCall) :
    (l.step now call).1.bucket key = (l'.step now call).1.bucket key := by
  cases call with
  | acquire k => exact (bucket_acquire l now key k).trans (h.trans (bucket_acquire l' now key k).symm)
  | observe k headers =>
    change (l.observe k headers now).1.bucket key = (l'.observe k headers now).1.bucket key
    rw [bucket_observe, bucket_observe, h]
  | sweep =>
    change (l.sweep now).1.bucket key = (l'.sweep now).1.bucket key
    rw [bucket_sweep, bucket_sweep, h]

/-! ## Whole runs -/

def answersTo (l : RateLimiter) (key : String) : List (Instant × LimiterCall) → List Duration
  | [] => []
  | (now, call) :: calls =>
    (if call = .acquire key then (l.step now call).2 else []) ++ (l.step now call).1.answersTo key calls

def callsOn (key : String) (calls : List (Instant × LimiterCall)) : List (Instant × LimiterCall) :=
  calls.filter fun c => c.2.concerns key

/-- **Calls on other keys make no difference**: a limiter with the same bucket under the key gives the same answers
without them. -/
theorem answersTo_callsOn (h : l.bucket key = l'.bucket key) (calls : List (Instant × LimiterCall)) :
    l.answersTo key calls = l'.answersTo key (callsOn key calls) := by
  induction calls generalizing l l' with
  | nil => rfl
  | cons call calls ih =>
    obtain ⟨now, call⟩ := call
    unfold callsOn
    cases hcall : call.concerns key with
    | false =>
      -- the call is left out, and it was no request under the key
      rw [List.filter_cons_of_neg (by simpa using hcall), answersTo, if_neg, List.nil_append]
      · exact ih ((bucket_step_of_not_concerns hcall l now).trans h)
      · rintro rfl
        simp [LimiterCall.concerns] at hcall
    | true =>
      rw [List.filter_cons_of_pos (by simpa using hcall), answersTo, answersTo]
      congr 1
      · split
        · rename_i hacquire
          subst hacquire
          change [(l.bucket key).delay now] = [(l'.bucket key).delay now]
          rw [h]
        · rfl
      · exact ih (bucket_step_congr h now call)

theorem answersTo_congr (l : RateLimiter) {calls calls' : List (Instant × LimiterCall)}
    (h : callsOn key calls = callsOn key calls') : l.answersTo key calls = l.answersTo key calls' := by
  have hcalls : l.answersTo key calls = l.answersTo key (callsOn key calls) := answersTo_callsOn rfl calls
  have hcalls' : l.answersTo key calls' = l.answersTo key (callsOn key calls') := answersTo_callsOn rfl calls'
  rw [hcalls, h, hcalls']

/-- **Endpoints have nothing to do with each other.**

The requests of one method, to paths that are the same up to the query, have a key to themselves.  And the requests
under a key are answered alike by any two lists of calls that have the same calls on that key and the same sweeps:
from whatever state the limiter is in, at whatever times, and whatever requests and responses of other keys come in
between. -/
structure KeepApart (method method' path path' : String) : Prop where
  key : bucketKey method path = bucketKey method' path' ↔ method = method' ∧ SameUpToQuery path path'
  answers : ∀ (l : RateLimiter) (key : String) (calls calls' : List (Instant × LimiterCall)),
    callsOn key calls = callsOn key calls' → l.answersTo key calls = l.answersTo key calls'

theorem endpoints_keepApart (method method' path path' : String) (hmethod : ':' ∉ method.toList)
    (hmethod' : ':' ∉ method'.toList) : KeepApart method method' path path' where
  key := bucketKey_eq_iff hmethod hmethod' path path'
  answers l _ _ _ h := l.answersTo_congr h

/-- The query makes no other endpoint of a path, even where it holds a colon.  While one path has to wait, another
does not. -/
theorem keepApart_query :
    ':' ∉ "GET".toList ∧ KeepApart "GET" "GET" "/a?before=1:2" "/a" ∧
      bucketKey "GET" "/a?before=1:2" = bucketKey "GET" "/a" ∧
      callsOn "GET:/b" busy ≠ busy ∧ empty.answersTo "GET:/b" busy = [⟨0⟩] := by
  have hmethod : ':' ∉ "GET".toList := by decide
  have hapart := endpoints_keepApart "GET" "GET" "/a?before=1:2" "/a" hmethod hmethod
  refine ⟨hmethod, hapart, hapart.key.2 ⟨rfl, ['/', 'a'], ⟨by decide, .inr ⟨_, rfl⟩⟩, by decide, .inl rfl⟩,
    by decide, ?_⟩
  exact (hapart.answers empty "GET:/b" busy (callsOn "GET:/b" busy) (by decide)).trans (by decide +kernel)

end RateLimiter
end ChatClient
