import ChatClient.RateLimit.Limiter
/-!
# Sweeping by the clock

A limiter with the tickers that sweep it.  Starting one leaves those that run already in place, so that the limiter is
swept whenever any of them is due.  After a shutdown none runs any more and none can be started.
-/
namespace ChatClient

/-- A limiter that is swept periodically, by each of its sweepers. -/
structure SweptLimiter where
  limiter : RateLimiter
  sweepers : List Ticker
  /-- Whether the sweeper that was started last runs. -/
  isSweeping : Bool
  isShutdown : Bool

namespace SweptLimiter

def empty : SweptLimiter :=
  ⟨.empty, [], false, false⟩

/-- Starts one more sweeper; its first sweep is due after one interval.  It does not run for an interval of no length,
or one whose end the clock cannot tell. -/
def startSweeper (l : SweptLimiter) (now : Instant) (interval : Duration) : SweptLimiter :=
  if !l.isShutdown && Ticker.canStart now interval then
    { l with sweepers := .start now interval :: l.sweepers, isSweeping := true }
  else { l with isSweeping := false }

def shutdown (l : SweptLimiter) : SweptLimiter :=
  { l with sweepers := [], isSweeping := false, isShutdown := true }

/-- Sweeps if any sweep is due; of each sweeper one at most. -/
def tick (l : SweptLimiter) (now : Instant) : SweptLimiter :=
  if l.sweepers.any (·.isDue now) then
    { l with
      limiter := (l.limiter.sweep now).1
      sweepers := l.sweepers.map fun t => if t.isDue now then t.tick now else t }
  else l

def size (l : SweptLimiter) : Nat :=
  l.limiter.size

def on {α : Type} (l : SweptLimiter) (f : RateLimiter → RateLimiter × α) : SweptLimiter × α :=
  let (limiter, a) := f l.limiter
  ({ l with limiter }, a)

end SweptLimiter

end ChatClient
