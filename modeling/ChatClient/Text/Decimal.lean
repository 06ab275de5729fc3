/-!
# Decimal numerals

Whole numbers as text: `ofNat` and `ofInt` write them, `parseNat?`  and `parseInt?`  read an optional sign and at
least one digit.  A number that a field of fixed width cannot hold is refused by the caller, not here.
-/
namespace ChatClient.Text.Decimal

def value (cs : List Char) : Nat :=
  Nat.ofDigitChars 10 cs 0

def digits? (cs : List Char) : Option Nat :=
  if cs ≠ [] ∧ cs.all Char.isDigit then some (value cs) else none

/-- A natural number, with an optional plus sign. -/
def parseNat? : List Char → Option Nat
  | '+' :: cs => digits? cs
  | cs => digits? cs

def parseInt? : List Char → Option Int
  | '-' :: cs => (digits? cs).map fun n => -(n : Int)
  | cs => (parseNat? cs).map fun n => (n : Int)

def ofNat (n : Nat) : List Char :=
  Nat.toDigits 10 n

def ofInt : Int → List Char
  | .ofNat n => ofNat n
  | .negSucc n => '-' :: ofNat (n + 1)

def padded (width n : Nat) : List Char :=
  List.replicate (width - (ofNat n).length) '0' ++ ofNat n

end ChatClient.Text.Decimal
