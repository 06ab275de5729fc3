import ChatClient.Text.Utf8
import ChatClient.Url.Label
/-!
# Domains

A domain is compared and sent in ASCII.  Its characters are folded and composed, which takes out what does not tell
domains apart, and its labels are brought into their ASCII forms.  A domain that people could not read in one way only
is refused.
-/
namespace ChatClient.Domain

def isForbidden (c : Char) : Bool :=
  c.toNat ≤ 0x20 || c.toNat == 0x7f ||
    ['%', '#', '/', ':', '<', '>', '?', '@', '[', '\\', ']', '^', '|'].contains c

def labels? (cs : List Char) : Option (List Label) := do
  let folded ← cs.mapM Folding.fold?
  (Text.split (· == '.') (Text.compose folded.flatten)).mapM Label.read?

/-- Whether labels make a domain: each is sound, and if any is written from right to left, each is written one way. -/
def isSound (labels : List Label) : Bool :=
  labels.all (Label.isSound ·.text) &&
    (labels.all (!·.text.any Label.turnsDirection) || labels.all (Label.keepsDirection ·.text))

def ofBytes? (bytes : List UInt8) : Option (List Char) := do
  let s ← Text.Utf8.decode? bytes
  let labels ← labels? s.toList
  let domain := ['.'].intercalate (labels.map (·.ascii))
  if isSound labels && !domain.any isForbidden then some domain else none

end ChatClient.Domain
