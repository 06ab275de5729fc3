import ChatClient.Time.Duration
/-!
# Buckets

What a server has said about the requests to one endpoint: how many are left, and when the count starts anew.
-/
namespace ChatClient

/-- The requests left at an endpoint until a point of time; a bucket of which nothing is known yet has no such point. -/
structure Bucket where
  remaining : Int
  resetAt : Option Instant
deriving DecidableEq, Repr

namespace Bucket

def fresh : Bucket :=
  ⟨0, none⟩

def delay (b : Bucket) (now : Instant) : Duration :=
  if 0 < b.remaining then .zero
  else match b.resetAt with
    | some resetAt => resetAt.since now
    | none => .zero

def ofQuota (remaining : Int) (resetAfter : Duration) (now : Instant) : Bucket :=
  ⟨remaining, some (now.plus resetAfter)⟩

def isExpired (b : Bucket) (now : Instant) : Bool :=
  b.resetAt.all fun resetAt => resetAt.nanos ≤ now.nanos

end Bucket

end ChatClient
