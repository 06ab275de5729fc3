/-!
# Changes of a field

What an update says of one field: nothing, a new value, or that the field goes back to its type's default.  A field
that is both given and cleared is cleared.
-/
namespace ChatClient

inductive Change (α : Type) where
  | untouched
  | set (a : α)
  | cleared
deriving DecidableEq, Repr, Inhabited

namespace Change

variable {α : Type}

/-- The change that an update with this value, if any, and this mention in its clear list makes. -/
def ofParts (value : Option α) (cleared : Bool) : Change α :=
  if cleared then .cleared
  else match value with
    | some a => .set a
    | none => .untouched

/-- The change of a field that may be missing; an update cannot set it to missing, only clear it. -/
def ofOptional (value : Option α) (cleared : Bool) : Change (Option α) :=
  ofParts (value.map some) cleared

def ofOption (value : Option α) : Change α :=
  ofParts value false

def isUntouched : Change α → Bool
  | .untouched => true
  | _ => false

def apply [Inhabited α] : Change α → α → α
  | .untouched, a => a
  | .set a, _ => a
  | .cleared, _ => default

end Change

end ChatClient
