import ChatClient.Text.Utf8
/-!
# Headers

The header fields of requests and responses: names are told apart without regard to case and kept in lower case,
values are bytes.
-/
namespace ChatClient

/-- A header field; its name is in lower case. -/
structure Header where
  name : String
  value : List UInt8
deriving DecidableEq, Repr

namespace Header

def lower (s : String) : String :=
  String.ofList (s.toList.map Char.toLower)

def first? (name : String) (headers : List Header) : Option (List UInt8) :=
  (headers.find? fun h => h.name == lower name).map (·.value)

/-! ## Names -/

def nameMarks : List Char :=
  ['!', '#', '$', '%', '&', '\'', '*', '+', '-', '.', '^', '_', '\x60', '|', '~']

def isNameChar (c : Char) : Bool :=
  c.isAlphanum || nameMarks.contains c

def maxNameLength : Nat := 65535

def name? (s : String) : Option String :=
  if s ≠ "" ∧ s.length ≤ maxNameLength ∧ s.toList.all isNameChar then some (lower s) else none

/-! ## Values -/

/-- A byte that a value may hold: no control but the tab. -/
def isValueByte (b : UInt8) : Bool :=
  (0x20 ≤ b && b != 0x7f) || b == 0x09

def value? (s : String) : Option (List UInt8) :=
  if (Text.Utf8.encode s).all isValueByte then some (Text.Utf8.encode s) else none

/-- Whether a byte of a value can be shown: ASCII without controls, or a tab. -/
def isVisible (b : UInt8) : Bool :=
  (0x20 ≤ b && b ≤ 0x7e) || b == 0x09

def visibleText? (value : List UInt8) : Option String :=
  if value.all isVisible then some (String.ofList (value.map fun b => Char.ofNat b.toNat)) else none

end Header

end ChatClient
