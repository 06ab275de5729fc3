import ChatClient.Text.Hexadecimal
import ChatClient.Text.Utf8
/-!
# Percent-encoding

Inside a URL a byte can be written as a percent sign and two digits.  Every part of a URL has its own set of
characters that must be written so; controls and all characters beyond ASCII are in each of them.
-/
namespace ChatClient.Percent

def isControl (c : Char) : Bool :=
  c.toNat < 0x20 || 0x7f ≤ c.toNat

def inFragment (c : Char) : Bool :=
  isControl c || [' ', '"', '<', '>', '\x60'].contains c

def inPath (c : Char) : Bool :=
  inFragment c || ['#', '?', '\x7b', '\x7d'].contains c

def inUserinfo (c : Char) : Bool :=
  inPath c || ['/', ':', ';', '=', '@', '[', '\\', ']', '^', '|'].contains c

def inQuery (c : Char) : Bool :=
  isControl c || [' ', '"', '#', '<', '>'].contains c

def inCommonQuery (c : Char) : Bool :=
  inQuery c || c == '\''

def encodeByte (b : UInt8) : List Char :=
  '%' :: Text.Hexadecimal.ofByte b

def encode (set : Char → Bool) (cs : List Char) : List Char :=
  cs.flatMap fun c => if set c then (String.utf8EncodeChar c).flatMap encodeByte else [c]

/-- The bytes of a text; a percent sign that no two digits follow stands for itself. -/
def decode : List Char → List UInt8
  | [] => []
  | '%' :: a :: b :: cs =>
    match Text.Hexadecimal.byte? a b with
    | some byte => byte :: decode cs
    | none => 0x25 :: decode (a :: b :: cs)
  | c :: cs => String.utf8EncodeChar c ++ decode cs

end ChatClient.Percent
