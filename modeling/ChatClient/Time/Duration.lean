import ChatClient.Text.Decimal
/-!
# Spans and points of time

Spans (`Duration`) and points of the monotonic clock (`Instant`) count nanoseconds.  A span is at most `Duration.max`;
the arithmetic on points is unbounded, and `Instant.reach` says how far the clock can tell them.
-/
namespace ChatClient

structure Duration where
  nanos : Nat
deriving DecidableEq, Repr, Inhabited

/-- A point of the monotonic clock, in nanoseconds after its start. -/
structure Instant where
  nanos : Nat
deriving DecidableEq, Repr, Inhabited

namespace Duration

def zero : Duration := ⟨0⟩

def ofMillis (n : Nat) : Duration := ⟨n * 1000000⟩

def ofSecs (n : Nat) : Duration := ⟨n * 1000000000⟩

def max : Duration := ⟨UInt64.size * 1000000000 - 1⟩

def add? (a b : Duration) : Option Duration :=
  if a.nanos + b.nanos ≤ max.nanos then some ⟨a.nanos + b.nanos⟩ else none

def saturatingMul (a : Duration) (n : Nat) : Duration :=
  ⟨min (a.nanos * n) max.nanos⟩

def secs (a : Duration) : Nat :=
  a.nanos / 1000000000

/-- The text of a span: its seconds with nine places. -/
def text (a : Duration) : String :=
  String.ofList (Text.Decimal.ofNat a.secs ++ '.' :: Text.Decimal.padded 9 (a.nanos % 1000000000))

/-- A count of `unit` nanoseconds with as many of `places` places as are needed, and a sign for the unit. -/
def inUnit (nanos unit places : Nat) (sign : List Char) : List Char :=
  let fraction := (Text.Decimal.padded places (nanos % unit)).reverse.dropWhile (· == '0') |>.reverse
  Text.Decimal.ofNat (nanos / unit) ++ (if nanos % unit = 0 then [] else '.' :: fraction) ++ sign

/-- The text of a span for people: in the largest unit of which it holds at least one, with an exact fraction. -/
def brief (a : Duration) : String :=
  String.ofList <|
    if 1000000000 ≤ a.nanos then inUnit a.nanos 1000000000 9 ['s']
    else if 1000000 ≤ a.nanos then inUnit a.nanos 1000000 6 ['m', 's']
    else if 1000 ≤ a.nanos then inUnit a.nanos 1000 3 ['µ', 's']
    else inUnit a.nanos 1 0 ['n', 's']

end Duration

namespace Instant

def start : Instant := ⟨0⟩

def plus (t : Instant) (d : Duration) : Instant :=
  ⟨t.nanos + d.nanos⟩

/-- The span from an earlier point of time to this one; none at all if the other is later. -/
def since (t earlier : Instant) : Duration :=
  ⟨t.nanos - earlier.nanos⟩

/-- The first point of time that the clock cannot tell.  It counts seconds in 63 bits, and a day of them is set aside
for the time that it had been going before the start. -/
def reach : Instant := ⟨(0x8000000000000000 - 86400) * 1000000000⟩

/-- Whether a point of time has come for those who go by whole milliseconds: the first of them at or after it has
begun. -/
def hasCome (t now : Instant) : Bool :=
  (t.nanos + 999999) / 1000000 ≤ now.nanos / 1000000

end Instant

end ChatClient
