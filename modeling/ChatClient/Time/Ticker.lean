import ChatClient.Time.Duration
/-!
# Tickers

A ticker is due one period after it starts and then again and again.  It goes by whole milliseconds, so that a tick
that is due inside one comes with the next.  A tick that comes late does not bring the following ones forward: once it
is more than `Ticker.tolerance` late, the next one is due a whole period after it.
-/
namespace ChatClient

structure Ticker where
  period : Duration
  due : Instant
deriving DecidableEq, Repr

namespace Ticker

def tolerance : Duration := .ofMillis 5

def start (now : Instant) (period : Duration) : Ticker :=
  ⟨period, now.plus period⟩

/-- Whether there can be a ticker: it has a period, and the clock tells the end of the first one. -/
def canStart (now : Instant) (period : Duration) : Bool :=
  0 < period.nanos && (now.plus period).nanos < Instant.reach.nanos

/-- Whether a tick is due; without a period none ever is. -/
def isDue (t : Ticker) (now : Instant) : Bool :=
  0 < t.period.nanos && t.due.hasCome now

def tick (t : Ticker) (now : Instant) : Ticker :=
  let base := if (t.due.plus tolerance).nanos < now.nanos then now else t.due
  { t with due := base.plus t.period }

end Ticker

end ChatClient
