import ChatClient.Wire.Record
/-!
# Choices on the wire

Two forms of a choice.  A plain name is written as a string and read from a string or from an object with that one key
bound to null.  A tagged record carries its name in the member `type` beside its fields, or in front of them in an
array; the rest of a tagged record is read whole before its fields are picked out.
-/
namespace ChatClient.Wire

variable {α σ δ : Type}

def readName? [Readable δ] (ofName? : String → Option α) (v : δ) : Option α :=
  match Readable.layer? v with
  | some (.string name) => ofName? name
  | some (.object [(name, v)]) =>
    match Readable.layer? v with
    | some .null => ofName? name
    | _ => none
  | _ => none

inductive Content (δ : Type) where
  | members (members : List (String × δ))
  | items (items : List δ)

def readTag? [Readable δ] (v : δ) : Option (String × Content δ) :=
  match Readable.layer? v with
  | some (.object members) =>
    match members.filter fun m => m.1 == "type" with
    | [(_, tag)] =>
      let rest := members.filter fun m => m.1 != "type"
      match Readable.layer? tag with
      | some (.string tag) => if rest.all fun m => (Readable.json? m.2).isSome then some (tag, .members rest) else none
      | _ => none
    | _ => none
  | some (.array (tag :: rest)) =>
    match Readable.layer? tag with
    | some (.string tag) => if rest.all fun v => (Readable.json? v).isSome then some (tag, .items rest) else none
    | _ => none
  | _ => none

def Content.record? [Readable δ] (r : Record σ α) : Content δ → Option α
  | .members ms => r.ofMembers? ms
  | .items vs =>
    match r.ofItems? vs with
    | some (a, []) => some a
    | _ => none

/-- Reads a tagged name without fields: an object may hold other members, an array nothing else. -/
def Content.bare? (a : α) : Content δ → Option α
  | .members _ => some a
  | .items [] => some a
  | .items _ => none

def writeTagged (tag : String) (members : List (String × Json)) : Json :=
  .object (("type", .string tag) :: members)

end ChatClient.Wire
