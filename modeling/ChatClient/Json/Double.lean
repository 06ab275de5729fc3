import ChatClient.Text.Decimal
/-!
# Doubles

The numbers of JSON text that are not whole, or too large for a machine integer, as binary floating-point numbers of
64 bits.  `ofFraction?`  rounds to the nearest double, ties to even.  `ofDecimal?`  reads a decimal in two steps that
both round: its digits become a double, and this is multiplied or divided by a power of ten.  `shortest` finds the
fewest digits that round to the double, and of those the nearest to it; `text` lays them out.  All of it is arithmetic
on whole numbers.
-/
namespace ChatClient

/-- A finite double, `(-1)^negative * mantissa * 2^exponent`.  The mantissa is below `2^53`, and it is at least `2^52`
unless the exponent is the least one, `-1074`. -/
structure Double where
  negative : Bool
  mantissa : Nat
  exponent : Int
deriving DecidableEq, Repr, Inhabited

namespace Double

def zero (negative : Bool) : Double :=
  ⟨negative, 0, -1074⟩

def roundDiv (n d : Nat) : Nat :=
  let k := n / d
  let r := n % d
  if d < 2 * r ∨ (d = 2 * r ∧ k % 2 = 1) then k + 1 else k

/-- The fraction `n / d` with `base^e` taken into the numerator or, when `e` is negative, into the denominator. -/
def scaled (n d base : Nat) (e : Int) : Nat × Nat :=
  if 0 ≤ e then (n * Nat.pow base e.toNat, d) else (n, d * Nat.pow base (-e).toNat)

/-- How `a * 10^s` compares with `b * 2^t`. -/
def compareScaled (a : Nat) (s : Int) (b : Nat) (t : Int) : Ordering :=
  let (a', d) := scaled a 1 10 s
  let (b', d') := scaled b 1 2 t
  compare (a' * d') (b' * d)

def lastBit (n d : Nat) : Int :=
  let l : Int := (Nat.log2 n : Int) - Nat.log2 d
  let (n', d') := scaled n d 2 (-l)
  let e := if d' ≤ n' then l - 52 else l - 53
  if e < -1074 then -1074 else e

/-- The double nearest to the fraction `n / d`, ties to even; `none` beyond the largest one. -/
def ofFraction? (negative : Bool) (n d : Nat) : Option Double :=
  if n = 0 then some (zero negative)
  else
    let e := lastBit n d
    let (n', d') := scaled n d 2 (-e)
    let m := roundDiv n' d'
    let (m, e) := if m = 0x20000000000000 then (0x10000000000000, e + 1) else (m, e)
    if 971 < e then none else some ⟨negative, m, e⟩

/-- The product of two doubles, rounded; `none` beyond the largest one. -/
def mul? (x y : Double) : Option Double :=
  let (n, d) := scaled (x.mantissa * y.mantissa) 1 2 (x.exponent + y.exponent)
  ofFraction? (x.negative != y.negative) n d

/-- The quotient of two doubles, the second not zero, rounded; `none` beyond the largest one. -/
def div? (x y : Double) : Option Double :=
  let (n, d) := scaled x.mantissa y.mantissa 2 (x.exponent - y.exponent)
  ofFraction? (x.negative != y.negative) n d

def maxPower : Nat := 308

/-- The double nearest to a power of ten; `none` above `maxPower`. -/
def powerOfTen? (k : Nat) : Option Double :=
  ofFraction? false (Nat.pow 10 k) 1

/-- The double over a power of ten.  One that is beyond the doubles is taken in two steps; more than two leave nothing
of a double that was a whole number of 64 bits. -/
def divPower? (x : Double) (k : Nat) : Option Double := do
  if k ≤ maxPower then x.div? (← powerOfTen? k)
  else if k ≤ 2 * maxPower then (← x.div? (← powerOfTen? maxPower)).div? (← powerOfTen? (k - maxPower))
  else return zero x.negative

/-- The double that `digits * 10^scale` is read as, for digits that 64 bits hold; `none` beyond the largest one. -/
def ofDecimal? (negative : Bool) (digits : Nat) (scale : Int) : Option Double := do
  let x ← ofFraction? negative digits 1
  if digits = 0 then return x
  else if scale < 0 then x.divPower? (-scale).toNat
  else if scale ≤ maxPower then x.mul? (← powerOfTen? scale.toNat)
  else none

/-- Whether `digits * 10^scale` rounds to the double: it lies between the midpoints to the double's neighbours, on them
only when the mantissa is even. -/
def holds (x : Double) (digits : Nat) (scale : Int) : Bool :=
  let below := if x.mantissa = 0x10000000000000 ∧ -1074 < x.exponent then 1 else 2
  let low := compareScaled digits scale (4 * x.mantissa - below) (x.exponent - 2)
  let high := compareScaled digits scale (4 * x.mantissa + 2) (x.exponent - 2)
  if x.mantissa % 2 = 0 then low != .lt && high != .gt else low == .gt && high == .lt

/-- The number of places before the point of a positive double's decimal form: the least `p` with the double below
`10^p`. -/
def magnitude (x : Double) : Int :=
  let e : Int := ((Nat.log2 x.mantissa : Int) + x.exponent) * 30103 / 100000
  let below (p : Int) : Bool := compareScaled 1 p x.mantissa x.exponent == .gt
  if below (e - 1) then e - 1 else if below e then e else if below (e + 1) then e + 1 else e + 2

/-- The whole part of the double divided by `10^scale`, and whether the next whole number is nearer. -/
def onGrid (x : Double) (scale : Int) : Nat × Bool :=
  let (n, d) := scaled x.mantissa 1 2 x.exponent
  let (n, d) := scaled n d 10 (-scale)
  (n / d, d < 2 * (n % d))

/-- The digits and scale of the shortest decimal, trying grids from the width `17 - fuel` on. -/
def shortestFrom (x : Double) : Nat → Nat × Int
  | 0 => (x.mantissa, x.exponent)
  | fuel + 1 =>
    let scale := x.magnitude - (17 - (fuel : Int))
    let (k, up) := x.onGrid scale
    match holds x k scale && decide (k ≠ 0), holds x (k + 1) scale with
    | true, true => (if up then k + 1 else k, scale)
    | true, false => (k, scale)
    | false, true => (k + 1, scale)
    | false, false => shortestFrom x fuel

/-- The fewest digits that round to a double other than zero, and the power of ten they count. -/
def shortest (x : Double) : Nat × Int :=
  shortestFrom x 17

/-- Digits without their trailing zeros, and the number of zeros taken off. -/
def stripZeros : List Char → List Char × Nat
  | cs =>
    let kept := (cs.reverse.dropWhile (· == '0')).reverse
    (kept, cs.length - kept.length)

/-- The text of a double: positional with at least one place after the point when the point falls within the first
sixteen places or at most four zeros follow it, with an exponent otherwise. -/
def text (x : Double) : List Char :=
  let sign := if x.negative then ['-'] else []
  if x.mantissa = 0 then sign ++ ['0', '.', '0']
  else
    let (n, scale) := x.shortest
    let (ds, zeros) := stripZeros (Text.Decimal.ofNat n)
    let k : Int := scale + zeros
    let point : Int := ds.length + k
    let body :=
      if 0 ≤ k ∧ point ≤ 16 then ds ++ List.replicate k.toNat '0' ++ ['.', '0']
      else if 0 < point ∧ point ≤ 16 then ds.take point.toNat ++ '.' :: ds.drop point.toNat
      else if -5 < point ∧ point ≤ 0 then ['0', '.'] ++ List.replicate (-point).toNat '0' ++ ds
      else
        let mantissa := match ds with
          | [d] => [d]
          | d :: ds => d :: '.' :: ds
          | [] => []
        mantissa ++ 'e' :: Text.Decimal.ofInt (point - 1)
    sign ++ body

end Double

end ChatClient
