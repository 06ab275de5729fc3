import ChatClient.Text.Split
import ChatClient.Url.Basic
import ChatClient.Url.Percent
/-!
# Paths

The segments of a path are read from left to right onto those that are there already.  One dot stands for no step and
two dots for a step back; either also when its dots are encoded.  No step leads back out of a segment that looks like
the name of a drive.  The path of a file may really name one, in its first segment, and does not begin with empty
segments.

Tabs and line breaks count for nothing in a path, with one exception: in the first segment of a file's path, one of
them behind a letter and a colon divides the segment.  The letter is then a segment of its own and names no drive.
-/
namespace ChatClient.Url

def isSlash (isSpecial : Bool) (c : Char) : Bool :=
  c == '/' || (isSpecial && c == '\\')

def isBreak (c : Char) : Bool :=
  c == '\t' || c == '\n' || c == '\r'

def dropBreaks (cs : List Char) : List Char :=
  cs.filter (!isBreak ·)

/-- A segment without tabs and line breaks, but with a tab where one of them may divide it. -/
def keepDivision (cs : List Char) : List Char :=
  match dropBreaks cs with
  | c :: ':' :: d :: rest =>
    let divided := c.isAlpha && ((cs.dropWhile (· != ':')).drop 1).head?.any isBreak
    if divided then c :: ':' :: '\t' :: d :: rest else c :: ':' :: d :: rest
  | kept => kept

def plainDots : List Char → List Char
  | '%' :: '2' :: 'e' :: cs => '.' :: plainDots cs
  | '%' :: '2' :: 'E' :: cs => '.' :: plainDots cs
  | c :: cs => c :: plainDots cs
  | [] => []

def isDrive : List Char → Bool
  | [c, d] => c.isAlpha && (d == ':' || d == '|')
  | _ => false

/-- Whether a segment looks like the name of a drive, with or without a backslash behind it. -/
def seemsDrive (cs : List Char) : Bool :=
  isDrive (cs.take 2) && (cs.drop 2).head?.all (· == '\\')

/-- Whether a segment is the name of a drive as it is kept, with a colon. -/
def isKeptDrive : List Char → Bool
  | [c, ':'] => c.isAlpha
  | _ => false

def stepBack (segments : List String) : List String :=
  match segments.getLast? with
  | some last => if seemsDrive last.toList then segments else segments.dropLast
  | none => []

def kept (cs : List Char) : String :=
  String.ofList (Percent.encode Percent.inPath (dropBreaks cs))

/-- The first segments of a file's path that a text is kept as. -/
def firstOfFile (cs : List Char) : List String :=
  match cs with
  | [c, '|'] => if c.isAlpha then [String.ofList [c, ':']] else [kept cs]
  | c :: ':' :: '\t' :: rest => [String.ofList [c, ':'], kept rest]
  | _ => [kept cs]

/-- The segments that one more segment leads to; `isLast` when nothing follows it. -/
def pushSegment (kind : SchemeKind) (segments : List String) (isLast : Bool) (cs : List Char) : List String :=
  let dots := plainDots cs
  if dots = ['.', '.'] then stepBack segments ++ (if isLast then [""] else [])
  else if dots = ['.'] then segments ++ (if isLast then [""] else [])
  else if kind = .file ∧ segments = [] then firstOfFile cs
  else segments ++ [kept cs]

def pushSegments (kind : SchemeKind) : List String → List (List Char) → List String
  | segments, [] => segments
  | segments, [cs] => pushSegment kind segments true cs
  | segments, cs :: rest => pushSegments kind (pushSegment kind segments false cs) rest

/-- Segments without the empty ones at the front, but at least one. -/
def dropEmpty (segments : List String) : List String :=
  match segments.dropWhile (· == "") with
  | [] => [""]
  | segments => segments

/-- The segments of a path that begins behind its first slash, read onto those that are there. -/
def readSegments (kind : SchemeKind) (segments : List String) (cs : List Char) : List String :=
  let segments := pushSegments kind segments (Text.split (isSlash kind.isSpecial) cs)
  if kind = .file then dropEmpty segments else segments

/-- Whether one of the segments of a file's path, read onto those that are there, names a drive. -/
def namesDrive : List String → List (List Char) → Bool
  | _, [] => false
  | segments, cs :: rest => (segments = [] && isDrive cs) || namesDrive (pushSegment .file segments false cs) rest

end ChatClient.Url
