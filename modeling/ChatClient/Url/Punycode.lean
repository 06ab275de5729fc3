/-!
# Punycode

How a label of a domain that is not ASCII is written in ASCII: its ASCII characters in order, a hyphen if there are
any, and then where the others go, in the order of their numbers.  Each of those is a number in base 36 whose digits
carry their own thresholds; the thresholds follow a bias that adapts to the numbers written so far.
-/
namespace ChatClient.Punycode

def digit (d : Nat) : Char :=
  if d < 26 then Char.ofNat ('a'.toNat + d) else Char.ofNat ('0'.toNat + (d - 26))

def value? (c : Char) : Option Nat :=
  if 'a' ≤ c ∧ c ≤ 'z' then some (c.toNat - 'a'.toNat)
  else if '0' ≤ c ∧ c ≤ '9' then some (c.toNat - '0'.toNat + 26)
  else none

/-- From which value on a digit at weight `k` is not the last of its number. -/
def threshold (k bias : Nat) : Nat :=
  min 26 (max 1 (k - bias))

theorem threshold_pos (k bias : Nat) : 0 < threshold k bias := by
  unfold threshold; omega

def settle (delta k : Nat) : Nat :=
  if 455 < delta then settle (delta / 35) (k + 36) else k + 36 * delta / (delta + 38)
termination_by delta
decreasing_by omega

/-- The bias after a delta, when `points` characters have been placed. -/
def adapt (delta points : Nat) (isFirst : Bool) : Nat :=
  let delta := if isFirst then delta / 700 else delta / 2
  settle (delta + delta / points) 0

def digits (bias k delta : Nat) : List Char :=
  let t := threshold k bias
  if delta < t then [digit delta]
  else digit (t + (delta - t) % (36 - t)) :: digits bias (k + 36) ((delta - t) / (36 - t))
termination_by delta
decreasing_by
  have := threshold_pos k bias
  have := Nat.div_le_self (delta - threshold k bias) (36 - threshold k bias)
  omega

/-- What has been written, and what the next delta depends on. -/
structure Writing where
  written : List Char
  delta : Nat
  bias : Nat
  placed : Nat

def pass (basic point : Nat) (w : Writing) (c : Char) : Writing :=
  if c.toNat < point then { w with delta := w.delta + 1 }
  else if c.toNat = point then
    { written := w.written ++ digits w.bias 36 w.delta
      delta := 0
      bias := adapt w.delta (w.placed + 1) (w.placed = basic)
      placed := w.placed + 1 }
  else w

/-- Places the characters of the label from a point on, point by point. -/
def place (label : List Char) (basic : Nat) : (next : Nat) → (points : List Nat) → Writing → Writing
  | _, [], w => w
  | next, point :: points, w =>
    let w := { w with delta := w.delta + (point - next) * (w.placed + 1) }
    let w := label.foldl (pass basic point) w
    place label basic (point + 1) points { w with delta := w.delta + 1 }

def encode (label : List Char) : List Char :=
  let basic := label.filter fun c => c.toNat < 0x80
  let points := ((label.filter fun c => 0x80 ≤ c.toNat).map Char.toNat).mergeSort.eraseDups
  let w := place label basic.length 0x80 points ⟨[], 0, 72, basic.length⟩
  basic ++ (if basic.isEmpty then [] else ['-']) ++ w.written

def delta? (bias k weight delta : Nat) : List Char → Option (Nat × List Char)
  | [] => none
  | c :: cs => do
    let d ← value? c
    let t := threshold k bias
    let delta := delta + d * weight
    if d < t then return (delta, cs) else delta? bias (k + 36) (weight * (36 - t)) delta cs

/-- The label with the characters that a text of deltas adds to it; the first argument bounds their number. -/
def insertAll? : (fuel point index bias : Nat) → (isFirst : Bool) → List Char → List Char → Option (List Char)
  | _, _, _, _, _, label, [] => some label
  | 0, _, _, _, _, _, _ :: _ => none
  | fuel + 1, point, index, bias, isFirst, label, cs => do
    let (delta, cs) ← delta? bias 36 1 0 cs
    let size := label.length + 1
    let point := point + (index + delta) / size
    let index := (index + delta) % size
    if h : point.isValidChar then
      let label := label.take index ++ Char.ofNatAux point h :: label.drop index
      insertAll? fuel point (index + 1) (adapt delta size isFirst) false label cs
    else none

def decode? (cs : List Char) : Option (List Char) :=
  let (deltas, basic) := cs.reverse.span (· != '-')
  if basic.all (·.toNat < 0x80) then insertAll? cs.length 0x80 0 72 true (basic.drop 1).reverse deltas.reverse
  else none

end ChatClient.Punycode
