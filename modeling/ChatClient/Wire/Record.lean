import ChatClient.Wire.Basic
/-!
# Records on the wire

A `Record` lists the fields of a structure in their order of declaration; its writer and its reader follow from the
list.  A record is written as an object.  It is read from an object, where members that name no field are skipped and
a field that is named twice is an error, or from an array of its fields in order, where fields may be missing at the
end.
-/
namespace ChatClient

/-- A field of `σ` with values in `α`: the name it is written under, other names it is read under, the value that
stands for a missing field (`none` when it must be there), and the values that are not written. -/
structure Field (σ α : Type) where
  name : String
  others : List String := []
  get : σ → α
  absent : Option α := none
  omitted : α → Bool := fun _ => false

/-- The fields of `σ` from the first on, with what remains to be made of them: `Record σ σ` is a whole record. -/
inductive Record (σ : Type) : Type → Type 1 where
  | make {β : Type} (b : β) : Record σ β
  | field {α β : Type} (r : Record σ (α → β)) (f : Field σ α) (w : Wire α) : Record σ β

namespace Field

variable {σ α δ : Type}

def named (f : Field σ α) (key : String) : Bool :=
  key == f.name || f.others.contains key

def ofMembers? [Wire α] [Readable δ] (f : Field σ α) (members : List (String × δ)) : Option α :=
  match members.filter fun m => f.named m.1 with
  | [] => f.absent
  | [m] => Wire.read? m.2
  | _ => none

end Field

namespace Record

variable {σ α β δ : Type}

def required [Wire α] (r : Record σ (α → β)) (name : String) (get : σ → α) : Record σ β :=
  .field r { name, get } inferInstance

def optional [Wire α] [Inhabited α] (r : Record σ (α → β)) (name : String) (get : σ → α) : Record σ β :=
  .field r { name, get, absent := some default } inferInstance

/-- A field that is its type's default when it is missing, and is not written when it satisfies a condition. -/
def omittable [Wire α] [Inhabited α] (r : Record σ (α → β)) (name : String) (get : σ → α)
    (omitted : α → Bool) : Record σ β :=
  .field r { name, get, absent := some default, omitted } inferInstance

def rebuild {β : Type} : Record σ β → σ → β
  | .make b, _ => b
  | .field r f _, s => r.rebuild s (f.get s)

def members {β : Type} : Record σ β → σ → List (String × Json)
  | .make _, _ => []
  | .field r f w, s =>
    r.members s ++ if f.omitted (f.get s) then [] else [(f.name, w.write (f.get s))]

def ofMembers? [Readable δ] (members : List (String × δ)) {β : Type} : Record σ β → Option β
  | .make b => some b
  | .field r f _ => do
    let g ← r.ofMembers? members
    let a ← f.ofMembers? members
    return g a

/-- Reads the fields from the items of an array, and what is left of the items. -/
def ofItems? [Readable δ] (items : List δ) {β : Type} : Record σ β → Option (β × List δ)
  | .make b => some (b, items)
  | .field r f w => do
    let (g, rest) ← r.ofItems? items
    match rest with
    | [] => f.absent.map fun a => (g a, [])
    | v :: rest => (w.read? v).map fun a => (g a, rest)

def read? [Readable δ] (r : Record σ σ) (v : δ) : Option σ :=
  match Readable.layer? v with
  | some (.object members) => r.ofMembers? members
  | some (.array items) =>
    match r.ofItems? items with
    | some (s, []) => some s
    | _ => none
  | _ => none

end Record

@[reducible] def Wire.ofRecord {σ : Type} (r : Record σ σ) : Wire σ where
  write s := .object (r.members s)
  read? v := r.read? v

end ChatClient
