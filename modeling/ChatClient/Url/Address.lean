import ChatClient.Text.Decimal
import ChatClient.Text.Hexadecimal
import ChatClient.Text.Split
/-!
# Internet addresses

The two kinds of numeric addresses that a host can be.  An address of four bytes is read with up to four numbers, of
which the last fills what the others leave and each may be octal or hexadecimal; it is written with four decimal ones.
An address of eight pieces is read with at most one gap of zeros and with its last two pieces as four bytes if need
be; it is written with its longest run of two or more zeros as the gap, the first of those if there are several.
-/
namespace ChatClient

/-- An address of four bytes, as one number. -/
structure Ipv4 where
  number : Nat
deriving DecidableEq, Repr

namespace Ipv4

def inBase? (base : Nat) (cs : List Char) : Option Nat :=
  (cs.mapM Text.Hexadecimal.value?).bind fun ds =>
    if ds.all (· < base) then some (ds.foldl (fun n d => n * base + d) 0) else none

def number? : List Char → Option Nat
  | [] => none
  | '0' :: 'x' :: cs => inBase? 16 cs
  | '0' :: 'X' :: cs => inBase? 16 cs
  | '0' :: c :: cs => inBase? 8 (c :: cs)
  | cs => inBase? 10 cs

def parts (cs : List Char) : List (List Char) :=
  match Text.split (· == '.') cs with
  | [part] => [part]
  | ps => if ps.getLast? = some [] then ps.dropLast else ps

/-- Whether a text ends in a number, so that it can be nothing but an address. -/
def isMeant (cs : List Char) : Bool :=
  match (parts cs).getLast? with
  | some part => !part.isEmpty && (part.all Char.isDigit || (number? part).isSome)
  | none => false

/-- The number of the parts of an address: all but the last are bytes. -/
def combine? : List Nat → Option Nat
  | [] => none
  | [last] => if last < 0x100000000 then some last else none
  | [a, last] => if a < 256 ∧ last < 0x1000000 then some (a * 0x1000000 + last) else none
  | [a, b, last] =>
    if a < 256 ∧ b < 256 ∧ last < 0x10000 then some (a * 0x1000000 + b * 0x10000 + last) else none
  | [a, b, c, last] =>
    if a < 256 ∧ b < 256 ∧ c < 256 ∧ last < 256 then some (a * 0x1000000 + b * 0x10000 + c * 256 + last) else none
  | _ => none

def parse? (cs : List Char) : Option Ipv4 :=
  (((parts cs).mapM number?).bind combine?).map Ipv4.mk

def text (a : Ipv4) : List Char :=
  Text.Decimal.ofNat (a.number / 0x1000000) ++ '.' :: Text.Decimal.ofNat (a.number / 0x10000 % 256) ++
    '.' :: Text.Decimal.ofNat (a.number / 256 % 256) ++ '.' :: Text.Decimal.ofNat (a.number % 256)

end Ipv4

structure Ipv6 where
  pieces : List Nat
deriving DecidableEq, Repr

namespace Ipv6

def piece? (cs : List Char) : Option Nat :=
  if 1 ≤ cs.length ∧ cs.length ≤ 4 then Ipv4.inBase? 16 cs else none

/-- A byte in decimal, without a needless zero in front. -/
def byte? : List Char → Option Nat
  | '0' :: _ :: _ => none
  | cs => (Text.Decimal.digits? cs).bind fun n => if n < 256 then some n else none

def quad? (cs : List Char) : Option (List Nat) :=
  match (Text.split (· == '.') cs).mapM byte? with
  | some [a, b, c, d] => some [a * 256 + b, c * 256 + d]
  | _ => none

/-- The pieces between the colons of a text, of which the last may be four bytes. -/
def piecesWithQuad? : List (List Char) → Option (List Nat)
  | [] => some []
  | [last] => if last.contains '.' then quad? last else (piece? last).map ([·])
  | cs :: rest => do return (← piece? cs) :: (← piecesWithQuad? rest)

def splitGap? : List Char → Option (List Char × List Char)
  | [] => none
  | ':' :: ':' :: cs => some ([], cs)
  | c :: cs => (splitGap? cs).map fun (before, after) => (c :: before, after)

def parts (cs : List Char) : List (List Char) :=
  if cs.isEmpty then [] else Text.split (· == ':') cs

def parse? (cs : List Char) : Option Ipv6 :=
  match splitGap? cs with
  | none => do
    let pieces ← piecesWithQuad? (parts cs)
    if pieces.length = 8 then return ⟨pieces⟩ else none
  | some (before, after) => do
    let before ← (parts before).mapM piece?
    let after ← piecesWithQuad? (parts after)
    if before.length + after.length ≤ 7 then
      return ⟨before ++ List.replicate (8 - (before.length + after.length)) 0 ++ after⟩
    else none

def zeros (pieces : List Nat) : Nat :=
  (pieces.takeWhile (· == 0)).length

def longestRun : List Nat → Nat
  | [] => 0
  | p :: ps => max (zeros (p :: ps)) (longestRun ps)

/-- The pieces before the first run of zeros of a length, and those after it. -/
def splitRun (length : Nat) : List Nat → List Nat × List Nat
  | [] => ([], [])
  | p :: ps =>
    if zeros (p :: ps) = length then ([], (p :: ps).drop length)
    else
      let (before, after) := splitRun length ps
      (p :: before, after)

def join (pieces : List Nat) : List Char :=
  [':'].intercalate (pieces.map Text.Hexadecimal.ofNat)

def text (a : Ipv6) : List Char :=
  let run := longestRun a.pieces
  if run < 2 then join a.pieces
  else
    let (before, after) := splitRun run a.pieces
    join before ++ [':', ':'] ++ join after

end Ipv6

end ChatClient
