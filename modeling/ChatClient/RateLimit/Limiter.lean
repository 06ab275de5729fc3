import ChatClient.Diagnostic
import ChatClient.RateLimit.Bucket
import ChatClient.Http.Header
import ChatClient.Table
import ChatClient.Text.Blank
import ChatClient.Time.Ticker
/-!
# Rate limits

One bucket for each endpoint, that is for each method and path.  `acquire` says how long a request has to wait,
`observe` takes in the headers of a response, and a sweep forgets the buckets whose time has come, which changes no
later answer of `acquire`.  Responses whose headers cannot be read change nothing.
-/
namespace ChatClient

structure RateLimiter where
  buckets : Table Bucket

inductive RateLimitError where
  | missingResetAfter (key : String)
  | invalidHeader (key header value : String)
deriving DecidableEq, Repr

namespace RateLimitError

def name : RateLimitError → String
  | .missingResetAfter _ => "MissingResetAfter"
  | .invalidHeader .. => "InvalidHeader"

def message : RateLimitError → String
  | .missingResetAfter key =>
    "bucket " ++ key ++ ": X-RateLimit-Remaining present but X-RateLimit-Reset-After missing"
  | .invalidHeader key header value => "bucket " ++ key ++ ": invalid " ++ header ++ " header " ++ Text.quote value

def diagnostic : RateLimitError → Diagnostic
  | .missingResetAfter key => .missingResetAfter key
  | .invalidHeader key header value => .invalidRateLimitHeader key header value

end RateLimitError

namespace RateLimiter

def empty : RateLimiter :=
  ⟨∅⟩

def remainingHeader : String := "X-RateLimit-Remaining"

def resetAfterHeader : String := "X-RateLimit-Reset-After"

def bucketKey (method path : String) : String :=
  method ++ ":" ++ String.ofList (path.toList.takeWhile (· != '?'))

def number? (low high : Int) (value : List UInt8) : Option Int := do
  let s ← Header.visibleText? value
  let cs := Text.trimChars s.toList
  let n ← if low < 0 then Text.Decimal.parseInt? cs else (Text.Decimal.parseNat? cs).map fun n => (n : Int)
  if low ≤ n ∧ n ≤ high then some n else none

/-- What the headers of a response say about a bucket; nothing if they do not tell how many requests are left. -/
def quota? (key : String) (headers : List Header) : Except RateLimitError (Option (Int × Duration)) :=
  match Header.first? remainingHeader headers with
  | none => .ok none
  | some remaining =>
    match Header.first? resetAfterHeader headers with
    | none => .error (.missingResetAfter key)
    | some resetAfter =>
      match number? (-0x8000000000000000) 0x7fffffffffffffff remaining with
      | none => .error (.invalidHeader key remainingHeader (Text.Utf8.decodeLossy remaining))
      | some left =>
        match number? 0 0xffffffffffffffff resetAfter with
        | none => .error (.invalidHeader key resetAfterHeader (Text.Utf8.decodeLossy resetAfter))
        | some millis => .ok (some (left, .ofMillis millis.toNat))

/-- The bucket under a key; a key without one has a fresh bucket. -/
def bucket (l : RateLimiter) (key : String) : Bucket :=
  l.buckets.getD key .fresh

/-- Asks how long a request has to wait; its endpoint has a bucket from then on. -/
def acquire (l : RateLimiter) (key : String) (now : Instant) : RateLimiter × Duration :=
  (⟨l.buckets.insertIfNew key .fresh⟩, (l.bucket key).delay now)

def observe (l : RateLimiter) (key : String) (headers : List Header) (now : Instant) :
    RateLimiter × Except RateLimitError Unit :=
  match quota? key headers with
  | .error e => (l, .error e)
  | .ok none => (l, .ok ())
  | .ok (some (remaining, resetAfter)) => (⟨l.buckets.insert key (.ofQuota remaining resetAfter now)⟩, .ok ())

/-- Forgets the buckets whose time has come; says how many. -/
def sweep (l : RateLimiter) (now : Instant) : RateLimiter × Nat :=
  let kept := l.buckets.filter fun _ b => !b.isExpired now
  (⟨kept⟩, l.buckets.size - kept.size)

def size (l : RateLimiter) : Nat :=
  l.buckets.size

end RateLimiter

end ChatClient
