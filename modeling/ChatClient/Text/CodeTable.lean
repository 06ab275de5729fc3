import ChatClient.Text.Hexadecimal
import ChatClient.Text.Split
/-!
# Tables of code points

What a standard says of single characters is kept as text, close to the way in which standards list it.  Numbers are
hexadecimal; hyphens stand between the numbers of a word, as between the ends of a range; blanks and line breaks
divide words, and semicolons the records of a table, each of which begins with the number that it is about.
-/
namespace ChatClient.Text.CodeTable

def number (cs : List Char) : Nat :=
  cs.foldl (fun n c => n * 16 + (Hexadecimal.value? c).getD 0) 0

def words (cs : List Char) : List (List Char) :=
  (split (fun c => c == ' ' || c == '\n') cs).filter (· ≠ [])

def numbers (word : List Char) : List Nat :=
  (split (· == '-') word).map number

/-- The two numbers of a word; a word with a single one has it twice. -/
def pair (word : List Char) : Nat × Nat :=
  match numbers word with
  | [a] => (a, a)
  | a :: b :: _ => (a, b)
  | [] => (0, 0)

def ranges (s : String) : List (Nat × Nat) :=
  (words s.toList).map pair

def records (s : String) : List (Nat × List (List Char)) :=
  (split (· == ';') s.toList).filterMap fun record =>
    match words record with
    | first :: rest => some (number first, rest)
    | [] => none

/-- Classes that a text lists: the number of each, and its pairs. -/
def classes (s : String) : List (Nat × List (Nat × Nat)) :=
  (records s).map fun r => (r.1, r.2.map pair)

def isIn (ranges : List (Nat × Nat)) (n : Nat) : Bool :=
  ranges.any fun r => r.1 ≤ n && n ≤ r.2

end ChatClient.Text.CodeTable
