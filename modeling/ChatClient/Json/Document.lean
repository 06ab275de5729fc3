import ChatClient.Json.Basic
import ChatClient.Text.Hexadecimal
import ChatClient.Text.Utf8
/-!
# JSON documents

A document is a JSON text read for its syntax alone.  Members keep their order and their repetitions, numbers their
digits as far as 64 bits hold them, and a string whose bytes or escapes make no text is kept as `none`: whether such a
thing is an error depends on who reads it, as a reader that skips a member never looks inside.  `toJson?`  is the
reader that looks at everything: it refuses numbers beyond the doubles, strings that are no text and more than
`maxDepth` nested containers, and of the members with one key it keeps the last.
-/
namespace ChatClient

/-- A number, `± digits * 10^scale`, whole when it is written without a point and an exponent.  The digits are those
that fit into 64 bits: any further ones count for the scale before the point and for nothing after it. -/
structure Numeral where
  negative : Bool
  digits : Nat
  scale : Int
  whole : Bool
deriving DecidableEq, Repr, Inhabited

inductive Document where
  | null
  | bool (b : Bool)
  | number (n : Numeral)
  | string (s : Option String)
  | array (items : List Document)
  | object (members : List (Option String × Document))
deriving Repr, Inhabited

namespace Document

/-! ## Strings -/

/-- A part of a string between its quotes: a character, the number of a `\u` escape, or bytes that spell no
character. -/
inductive Part where
  | char (c : Char)
  | unit (n : Nat)
  | fault
deriving DecidableEq, Repr

/-- What stands in a text for bytes that spell no character.  It is a control, so that no document contains it. -/
def faultMark : Char := '\x00'

def hex4? (a b c d : Char) : Option Nat := do
  let a ← Text.Hexadecimal.value? a
  let b ← Text.Hexadecimal.value? b
  let c ← Text.Hexadecimal.value? c
  let d ← Text.Hexadecimal.value? d
  return ((a * 16 + b) * 16 + c) * 16 + d

/-- The character behind a backslash, `u` apart. -/
def escaped? (c : Char) : Option Char :=
  if c = '"' ∨ c = '\\' ∨ c = '/' then some c
  else if c = 'b' then some '\x08'
  else if c = 'f' then some '\x0c'
  else if c = 'n' then some '\n'
  else if c = 'r' then some '\r'
  else if c = 't' then some '\t'
  else none

/-- The parts of a string up to its closing quote, after those already read, and what follows the quote. -/
def scanString (read : List Part) : List Char → Option (List Part × List Char)
  | [] => none
  | '"' :: cs => some (read.reverse, cs)
  | '\\' :: 'u' :: a :: b :: c :: d :: cs =>
    match hex4? a b c d with
    | some n => scanString (.unit n :: read) cs
    | none => none
  | '\\' :: e :: cs =>
    match escaped? e with
    | some c => scanString (.char c :: read) cs
    | none => none
  | c :: cs =>
    if c = faultMark then scanString (.fault :: read) cs
    else if c.toNat < 0x20 ∨ c = '\\' then none
    else scanString (.char c :: read) cs

/-- The characters of a string: `\u` escapes above the basic plane come in pairs, and a half alone is no text. -/
def assemble : List Part → Option (List Char)
  | [] => some []
  | .fault :: _ => none
  | .char c :: ps => (assemble ps).map (c :: ·)
  | .unit n :: ps =>
    if n < 0xd800 ∨ 0xdfff < n then (assemble ps).map (Char.ofNat n :: ·)
    else if n < 0xdc00 then
      match ps with
      | .unit m :: ps =>
        if 0xdc00 ≤ m ∧ m ≤ 0xdfff then
          (assemble ps).map (Char.ofNat (0x10000 + (n - 0xd800) * 0x400 + (m - 0xdc00)) :: ·)
        else none
      | _ => none
    else none

def partsText? (ps : List Part) : Option String :=
  (assemble ps).map String.ofList

/-! ## Numbers -/

def spanDigits (cs : List Char) : List Char × List Char :=
  (cs.takeWhile Char.isDigit, cs.dropWhile Char.isDigit)

/-- The digits after a point; none without a point. -/
def scanFraction : List Char → Option (List Char × List Char)
  | '.' :: cs =>
    match spanDigits cs with
    | ([], _) => none
    | (ds, rest) => some (ds, rest)
  | cs => some ([], cs)

/-- The exponent after its letter; none without a letter. -/
def scanExponent : List Char → Option (Option Int × List Char)
  | c :: cs =>
    if c = 'e' ∨ c = 'E' then
      let (negative, cs) := match cs with
        | '-' :: cs => (true, cs)
        | '+' :: cs => (false, cs)
        | cs => (false, cs)
      match spanDigits cs with
      | ([], _) => none
      | (ds, rest) =>
        let n : Int := Text.Decimal.value ds
        some (some (if negative then -n else n), rest)
    else some (none, c :: cs)
  | [] => some (none, [])

/-- The whole part of a number: digits without a needless zero in front. -/
def scanWhole (cs : List Char) : Option (List Char × List Char) :=
  match spanDigits cs with
  | ([], _) => none
  | ('0' :: _ :: _, _) => none
  | (ds, rest) => some (ds, rest)

/-- Takes digits behind those of a number as long as 64 bits hold it; the digits that are left. -/
def takeDigits (n : Nat) : List Char → Nat × List Char
  | [] => (n, [])
  | c :: cs =>
    let m := n * 10 + (c.toNat - '0'.toNat)
    if m < UInt64.size then takeDigits m cs else (n, c :: cs)

def scanUnsigned (negative : Bool) (cs : List Char) : Option (Numeral × List Char) := do
  let (whole, cs) ← scanWhole cs
  let (fraction, cs) ← scanFraction cs
  let (exponent, cs) ← scanExponent cs
  let (digits, uncounted) := takeDigits 0 whole
  let (digits, dropped) := takeDigits digits fraction
  let places : Int := fraction.length - dropped.length
  return (⟨negative, digits, exponent.getD 0 + uncounted.length - places, fraction.isEmpty && exponent.isNone⟩, cs)

def scanNumber : List Char → Option (Numeral × List Char)
  | '-' :: cs => scanUnsigned true cs
  | cs => scanUnsigned false cs

/-! ## Values -/

def isSpace (c : Char) : Bool :=
  c == ' ' || c == '\n' || c == '\t' || c == '\r'

def skip (cs : List Char) : List Char :=
  cs.dropWhile isSpace

mutual
/-- The value at the front of a text, and what follows it; the first argument bounds the nesting and the length. -/
def parseValue : Nat → List Char → Option (Document × List Char)
  | 0, _ => none
  | fuel + 1, cs =>
    match skip cs with
    | 'n' :: 'u' :: 'l' :: 'l' :: cs => some (.null, cs)
    | 't' :: 'r' :: 'u' :: 'e' :: cs => some (.bool true, cs)
    | 'f' :: 'a' :: 'l' :: 's' :: 'e' :: cs => some (.bool false, cs)
    | '"' :: cs =>
      match scanString [] cs with
      | some (ps, cs) => some (.string (partsText? ps), cs)
      | none => none
    | '[' :: cs =>
      match skip cs with
      | ']' :: cs => some (.array [], cs)
      | cs =>
        match parseItems fuel cs with
        | some (items, cs) => some (.array items, cs)
        | none => none
    | '\x7b' :: cs =>
      match skip cs with
      | '\x7d' :: cs => some (.object [], cs)
      | cs =>
        match parseMembers fuel cs with
        | some (members, cs) => some (.object members, cs)
        | none => none
    | cs =>
      match scanNumber cs with
      | some (n, cs) => some (.number n, cs)
      | none => none

def parseItems : Nat → List Char → Option (List Document × List Char)
  | 0, _ => none
  | fuel + 1, cs =>
    match parseValue fuel cs with
    | none => none
    | some (item, cs) =>
      match skip cs with
      | ']' :: cs => some ([item], cs)
      | ',' :: cs =>
        match parseItems fuel cs with
        | some (items, cs) => some (item :: items, cs)
        | none => none
      | _ => none

def parseMembers : Nat → List Char → Option (List (Option String × Document) × List Char)
  | 0, _ => none
  | fuel + 1, cs =>
    match skip cs with
    | '"' :: cs =>
      match scanString [] cs with
      | none => none
      | some (key, cs) =>
        match skip cs with
        | ':' :: cs =>
          match parseValue fuel cs with
          | none => none
          | some (value, cs) =>
            match skip cs with
            | '\x7d' :: cs => some ([(partsText? key, value)], cs)
            | ',' :: cs =>
              match parseMembers fuel cs with
              | some (members, cs) => some ((partsText? key, value) :: members, cs)
              | none => none
            | _ => none
        | _ => none
    | _ => none
end

/-- The document that a whole text spells, faults of its bytes marked. -/
def parseMarked? (cs : List Char) : Option Document :=
  match parseValue (cs.length + 1) cs with
  | some (d, cs) => if skip cs = [] then some d else none
  | none => none

def parse? (cs : List Char) : Option Document :=
  if cs.contains faultMark then none else parseMarked? cs

def ofBytes? (bytes : List UInt8) : Option Document :=
  let cs := Text.Utf8.chars bytes
  if cs.contains (some faultMark) then none else parseMarked? (cs.map (·.getD faultMark))

/-! ## Reading all of a document -/

def maxDepth : Nat := 127

/-- The value of a number: a machine integer, signed or not, or else a double; minus zero is a double. -/
def numeralToJson? (n : Numeral) : Option Json :=
  let whole : Int := if n.negative then -(n.digits : Int) else n.digits
  if n.whole ∧ n.scale = 0 ∧ ¬(n.negative ∧ n.digits = 0) ∧ -0x8000000000000000 ≤ whole then some (.int whole)
  else (Double.ofDecimal? n.negative n.digits n.scale).map .float

mutual
/-- The value of a document inside `depth` containers. -/
def toJson? (depth : Nat) : Document → Option Json
  | .null => some .null
  | .bool b => some (.bool b)
  | .number n => numeralToJson? n
  | .string s => s.map .string
  | .array items => if depth < maxDepth then (itemsToJson? (depth + 1) items).map .array else none
  | .object members =>
    if depth < maxDepth then (membersToJson? (depth + 1) members []).map .object else none

def itemsToJson? (depth : Nat) : List Document → Option (List Json)
  | [] => some []
  | d :: ds => do
    let v ← toJson? depth d
    let vs ← itemsToJson? depth ds
    return v :: vs

def membersToJson? (depth : Nat) : List (Option String × Document) → List (String × Json) →
    Option (List (String × Json))
  | [], read => some read
  | (key, d) :: members, read => do
    let key ← key
    let v ← toJson? depth d
    membersToJson? depth members (Json.insertMember key v read)
end

end Document

def Json.parse? (s : String) : Option Json :=
  (Document.parse? s.toList).bind (Document.toJson? 0)

def Json.ofBytes? (bytes : List UInt8) : Option Json :=
  (Document.ofBytes? bytes).bind (Document.toJson? 0)

end ChatClient
