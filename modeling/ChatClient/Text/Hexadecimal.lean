/-!
# Hexadecimal digits

The value of a digit in either case, and digits in both cases: numbers are shown in lower case, bytes in upper case.
-/
namespace ChatClient.Text.Hexadecimal

def value? (c : Char) : Option Nat :=
  if '0' ≤ c ∧ c ≤ '9' then some (c.toNat - '0'.toNat)
  else if 'a' ≤ c ∧ c ≤ 'f' then some (c.toNat - 'a'.toNat + 10)
  else if 'A' ≤ c ∧ c ≤ 'F' then some (c.toNat - 'A'.toNat + 10)
  else none

def byte? (a b : Char) : Option UInt8 :=
  match value? a, value? b with
  | some x, some y => some (UInt8.ofNat (x * 16 + y))
  | _, _ => none

def ofNat (n : Nat) : List Char :=
  Nat.toDigits 16 n

def upperDigit (n : Nat) : Char :=
  if n < 10 then Char.ofNat ('0'.toNat + n) else Char.ofNat ('A'.toNat + (n - 10))

def ofByte (b : UInt8) : List Char :=
  [upperDigit (b.toNat / 16), upperDigit (b.toNat % 16)]

end ChatClient.Text.Hexadecimal
