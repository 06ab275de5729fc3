import ChatClient.Wire.Basic
/-!
# Names in a clear list

An update names the fields it clears.  Each entity has its own clearable fields; any other name is kept as it came, so
that it can be reported, and clears nothing.
-/
namespace ChatClient

/-- The clearable fields of an entity: the label of the entity, the fields in order of declaration, and their names. -/
class Clearable (φ : Type) where
  entity : String
  fields : List φ
  name : φ → String

inductive ClearName (φ : Type) where
  | known (field : φ)
  | unknown (name : String)
deriving DecidableEq, Repr, Inhabited

namespace ClearName

variable {φ : Type}

def ofName [Clearable φ] (name : String) : ClearName φ :=
  match (Clearable.fields : List φ).find? fun f => Clearable.name f == name with
  | some f => .known f
  | none => .unknown name

def name [Clearable φ] : ClearName φ → String
  | .known f => Clearable.name f
  | .unknown s => s

def isUnknown : ClearName φ → Bool
  | .known _ => false
  | .unknown _ => true

/-- A name is written as it stands in the list; every text is some name. -/
instance [Clearable φ] : Wire (ClearName φ) where
  write f := .string f.name
  read? v := (Wire.read? v : Option String).map ofName

def clears [DecidableEq φ] (clear : List (ClearName φ)) (f : φ) : Bool :=
  clear.contains (.known f)

end ClearName

end ChatClient
