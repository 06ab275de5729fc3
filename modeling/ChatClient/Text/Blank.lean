/-!
# Blank characters

The characters that carry no ink and the two cuts made with them: `dropBlank` takes them off the front of a text,
`trim` off both ends.  A text that `trim` leaves empty is blank.
-/
namespace ChatClient.Text

/-- The characters of the Unicode property `White_Space`. -/
def isBlank (c : Char) : Bool :=
  let n := c.toNat
  (0x09 ≤ n && n ≤ 0x0d) || n == 0x20 || n == 0x85 || n == 0xa0 || n == 0x1680 || (0x2000 ≤ n && n ≤ 0x200a) ||
    n == 0x2028 || n == 0x2029 || n == 0x202f || n == 0x205f || n == 0x3000

def dropBlank (cs : List Char) : List Char :=
  cs.dropWhile isBlank

def dropEndWhile (p : Char → Bool) (cs : List Char) : List Char :=
  (cs.reverse.dropWhile p).reverse

def trimChars (cs : List Char) : List Char :=
  dropEndWhile isBlank (dropBlank cs)

def trim (s : String) : String :=
  String.ofList (trimChars s.toList)

end ChatClient.Text
