import ChatClient.Text.Composition
import ChatClient.Text.Direction
import ChatClient.Text.Joining
import ChatClient.Url.Folding
import ChatClient.Url.Punycode
/-!
# Labels of domains

A label is what stands between two dots of a domain.  It has a text, the characters that people read, and a form in
ASCII: the text itself, or the text in Punycode behind the mark `xn--`.  `read?`  takes either; `isSound` and
`keepsDirection` say which texts are labels, the second only where the domain has letters that are written from right
to left.
-/
namespace ChatClient

structure Label where
  text : List Char
  ascii : List Char
deriving DecidableEq, Repr

namespace Label

def isAscii (c : Char) : Bool :=
  c.toNat < 0x80

def mark : List Char := ['x', 'n', '-', '-']

def maxText : Nat := 1000

def maxPunycode : Nat := 2000

def isSettled (cs : List Char) : Bool :=
  cs.all (fun c => Folding.fold? c == some [c]) && Text.compose cs == cs

/-- The label of a text that is folded and composed: one behind the mark must be the Punycode of a settled text that
is not ASCII.  What is too long for Punycode is no label. -/
def read? (cs : List Char) : Option Label :=
  if mark.isPrefixOf cs then
    let code := cs.drop mark.length
    if maxPunycode < code.length then none
    else match Punycode.decode? code with
      | some text =>
        if !text.all isAscii && text.length ≤ maxText && isSettled text && Punycode.encode text == code then
          some ⟨text, cs⟩
        else none
      | none => none
  else if cs.all isAscii then some ⟨cs, cs⟩
  else if cs.length ≤ maxText then some ⟨cs, mark ++ Punycode.encode cs⟩
  else none

/-! ## Sound texts -/

/-- The class of the marks that take the vowel from a letter. -/
def virama : Nat := 9

/-- Whether a joiner may stand between two texts, the first given from its end: behind a mark that takes the vowel
from its letter, or, if it keeps letters apart (U+200C), between letters that would be joined. -/
def joinerFits (joiner : Char) (reversed after : List Char) : Bool :=
  match reversed with
  | [] => false
  | before :: _ =>
    Text.combiningClass before.toNat == virama ||
      (joiner.toNat == 0x200c && Text.joinsOnward reversed && Text.joinsBack after)

/-- Whether all joiners of a text fit, behind a text given from its end. -/
def joinersFit (reversed : List Char) : List Char → Bool
  | [] => true
  | c :: cs => (!Folding.isJoiner c || joinerFits c reversed cs) && joinersFit (c :: reversed) cs

/-- Whether a text begins with no mark and has joiners only where they fit. -/
def isSound (text : List Char) : Bool :=
  !(text.head?.any Text.isMark) && joinersFit [] text

/-! ## Directions -/

/-- Whether a character makes its domain one that is written from right to left. -/
def turnsDirection (c : Char) : Bool :=
  Text.Direction.ofChar c == .rightToLeft || Text.Direction.ofChar c == .arabicNumber

/-- The directions of a text behind its first character, without the marks at its end. -/
def innerDirections (cs : List Char) : List Text.Direction :=
  ((cs.map Text.Direction.ofChar).reverse.dropWhile (· == .mark)).reverse

/-- Whether a text is written one way: it begins with a letter, goes on with nothing that is written the other way,
and ends with a letter or a number, apart from marks.  From right to left either kind of numbers may occur, but not
both. -/
def keepsDirection : List Char → Bool
  | [] => true
  | c :: cs =>
    let inner := innerDirections cs
    match Text.Direction.ofChar c with
    | .leftToRight =>
      inner.all (fun d => d != .rightToLeft && d != .arabicNumber) &&
        inner.getLast?.all (fun d => d == .leftToRight || d == .europeanNumber)
    | .rightToLeft =>
      inner.all (· != .leftToRight) && inner.getLast?.all (fun d => d != .neutral) &&
        !(inner.contains .europeanNumber && inner.contains .arabicNumber)
    | _ => false

end Label

end ChatClient
