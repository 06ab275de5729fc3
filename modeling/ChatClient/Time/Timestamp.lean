import ChatClient.Text.Blank
import ChatClient.Text.Decimal
import ChatClient.Time.Calendar
/-!
# Timestamps

Points of calendar time in UTC and their RFC 3339 text.  `text` writes the shortest of zero, three, six or nine places
that is exact.  `parse?`  reads the same and more: blanks around the parts, short numbers, signed years, a fraction of
any length, `UTC` or `Z` in either case, and offsets, which it takes off.
-/
namespace ChatClient

structure Timestamp where
  date : Date
  time : TimeOfDay
deriving DecidableEq, Repr

namespace Timestamp

def seconds (t : Timestamp) : Int :=
  t.date.dayNumber * 86400 + t.time.seconds

def isAfter (t : Timestamp) (second : Int) : Bool :=
  second < t.seconds || (second == t.seconds && 0 < t.time.nano)

/-! ## Writing -/

/-- A year in four places, with a sign outside of the years 0 to 9999. -/
def yearText (year : Int) : List Char :=
  if 0 ≤ year ∧ year ≤ 9999 then Text.Decimal.padded 4 year.toNat
  else (if year < 0 then '-' else '+') :: Text.Decimal.padded 4 year.natAbs

def fractionText (nano : Nat) : List Char :=
  if nano = 0 then []
  else if nano % 1000000 = 0 then '.' :: Text.Decimal.padded 3 (nano / 1000000)
  else if nano % 1000 = 0 then '.' :: Text.Decimal.padded 6 (nano / 1000)
  else '.' :: Text.Decimal.padded 9 nano

def chars (t : Timestamp) : List Char :=
  let two := Text.Decimal.padded 2
  let leap := 1000000000 ≤ t.time.nano
  let second := if leap then t.time.second + 1 else t.time.second
  let nano := if leap then t.time.nano - 1000000000 else t.time.nano
  yearText t.date.year ++ '-' :: two t.date.month ++ '-' :: two t.date.day ++ 'T' :: two t.time.hour ++
    ':' :: two t.time.minute ++ ':' :: two second ++ fractionText nano ++ ['Z']

def text (t : Timestamp) : String :=
  String.ofList t.chars

/-! ## Reading -/

open Text (dropBlank)

/-- A number of one or more digits, after blanks; no more than `limit` digits are read. -/
def number? (limit : Nat) (cs : List Char) : Option (Nat × List Char) :=
  let ds := (cs.take limit).takeWhile Char.isDigit
  if ds = [] then none else some (Text.Decimal.value ds, cs.drop ds.length)

def year? (cs : List Char) : Option (Int × List Char) :=
  match cs with
  | '-' :: cs => (number? cs.length cs).map fun (n, cs) => (-(n : Int), cs)
  | '+' :: cs => (number? cs.length cs).map fun (n, cs) => ((n : Int), cs)
  | cs => (number? 4 cs).map fun (n, cs) => ((n : Int), cs)

def twoDigits? (cs : List Char) : Option (Nat × List Char) :=
  (number? 2 (dropBlank cs)).map fun (n, cs) => (n, cs)

/-- What follows a mark, with blanks before it. -/
def after? (mark : Char) (cs : List Char) : Option (List Char) :=
  match dropBlank cs with
  | c :: cs => if c = mark then some cs else none
  | [] => none

/-- A fraction of a second in nanoseconds: digits after the ninth are dropped; none without a point. -/
def fraction? : List Char → Option (Nat × List Char)
  | '.' :: cs =>
    (number? 9 cs).map fun (n, rest) =>
      (n * Nat.pow 10 (9 - (cs.length - rest.length)), rest.dropWhile Char.isDigit)
  | cs => some (0, cs)

/-- The minutes of an offset from UTC, and what follows it. -/
def offset? (cs : List Char) : Option (Int × List Char) :=
  let signed (sign : Int) (cs : List Char) : Option (Int × List Char) :=
    match cs with
    | h :: h' :: cs =>
      match cs.dropWhile fun c => c == ':' || Text.isBlank c with
      | m :: m' :: cs =>
        if h.isDigit ∧ h'.isDigit ∧ m.isDigit ∧ m'.isDigit ∧ m < '6' then
          some (sign * (Text.Decimal.value [h, h'] * 60 + Text.Decimal.value [m, m'] : Nat), cs)
        else none
      | _ => none
    | _ => none
  match cs with
  | 'Z' :: cs => some (0, cs)
  | 'z' :: cs => some (0, cs)
  | '+' :: cs => signed 1 cs
  | '-' :: cs => signed (-1) cs
  | '−' :: cs => signed (-1) cs
  | u :: t :: c :: cs => if u.toUpper = 'U' ∧ t.toUpper = 'T' ∧ c.toUpper = 'C' then some (0, cs) else none
  | _ => none

/-- The time in UTC of a local time that is a number of minutes ahead of it. -/
def ofLocal? (date : Date) (time : TimeOfDay) (offset : Int) : Option Timestamp := do
  let seconds : Int := time.seconds - offset * 60
  let inDay := (seconds % 86400).toNat
  let date ← if seconds < 0 then date.previous? else if 86400 ≤ seconds then date.next? else some date
  let time ← TimeOfDay.ofNumbers? (inDay / 3600) (inDay / 60 % 60) (inDay % 60) time.nano
  return ⟨date, time⟩

def parse? (cs : List Char) : Option Timestamp := do
  let (year, cs) ← year? (dropBlank cs)
  let cs ← after? '-' cs
  let (month, cs) ← twoDigits? cs
  let cs ← after? '-' cs
  let (day, cs) ← twoDigits? cs
  let cs ← match cs with
    | c :: cs => if c = 'T' ∨ c = 't' ∨ c = ' ' then some cs else none
    | [] => none
  let (hour, cs) ← twoDigits? cs
  let cs ← after? ':' cs
  let (minute, cs) ← twoDigits? cs
  let cs ← after? ':' cs
  let (second, cs) ← twoDigits? cs
  let (nano, cs) ← fraction? cs
  let (offset, cs) ← offset? (dropBlank cs)
  if dropBlank cs = [] ∧ offset.natAbs < 1440 then
    let date ← Date.ofNumbers? year month day
    let time ←
      if second = 60 then TimeOfDay.ofNumbers? hour minute 59 (nano + 1000000000)
      else TimeOfDay.ofNumbers? hour minute second nano
    ofLocal? date time offset
  else none

end Timestamp

end ChatClient
