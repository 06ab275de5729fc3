import ChatClient.Http.Error
import ChatClient.Http.Header
import ChatClient.Table
/-!
# Header tables

The headers that go with every request, at most one value under each name.  An operation that is refused leaves the
table as it is.
-/
namespace ChatClient

structure HeaderTable where
  entries : Table (List UInt8)

namespace HeaderTable

def empty : HeaderTable :=
  ⟨∅⟩

def field (name value : String) : Except RequestError Header :=
  match Header.name? name, Header.value? value with
  | some n, some v => .ok ⟨n, v⟩
  | _, _ => .error (.invalidHeader name)

def set (t : HeaderTable) (name value : String) : Except RequestError HeaderTable :=
  match field name value with
  | .ok h => .ok ⟨t.entries.insert h.name h.value⟩
  | .error e => .error e

def add (t : HeaderTable) (name value : String) : Except RequestError HeaderTable :=
  match field name value with
  | .ok h => if h.name ∈ t.entries then .error (.headerExists h.name) else .ok ⟨t.entries.insert h.name h.value⟩
  | .error e => .error e

/-- Takes the value under a name away; says whether there was one. -/
def remove (t : HeaderTable) (name : String) : HeaderTable × Bool :=
  (⟨t.entries.erase (Header.lower name)⟩, decide (Header.lower name ∈ t.entries))

/-- The value under a name, where it can be shown. -/
def shown? (t : HeaderTable) (name : String) : Option String :=
  t.entries[Header.lower name]?.bind Header.visibleText?

def toList (t : HeaderTable) : List Header :=
  t.entries.toList.map fun e => ⟨e.1, e.2⟩

end HeaderTable

end ChatClient
