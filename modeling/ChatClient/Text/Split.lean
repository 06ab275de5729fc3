/-!
# Splitting texts

A text is cut at every character of a class; the pieces between the cuts, empty ones included, are one more than the
cuts.
-/
namespace ChatClient.Text

def split (p : Char → Bool) : List Char → List (List Char)
  | [] => [[]]
  | c :: cs =>
    if p c then [] :: split p cs
    else match split p cs with
      | piece :: pieces => (c :: piece) :: pieces
      | [] => [[c]]

/-- A text up to the last character of a class, and the text after it; nothing if it has no such character. -/
def splitLast? (p : Char → Bool) : List Char → Option (List Char × List Char)
  | [] => none
  | c :: cs =>
    match splitLast? p cs with
    | some (before, after) => some (c :: before, after)
    | none => if p c then some ([], cs) else none

def isWithin (part : List Char) : List Char → Bool
  | [] => part.isEmpty
  | c :: cs => part.isPrefixOf (c :: cs) || isWithin part cs

end ChatClient.Text
