import ChatClient.Json.Document
import ChatClient.Table
/-!
# Values on the wire

How the client's data and JSON stand to each other.  `Readable` is what a reader may ask of its source, one layer at a
time: a `Json` value answers everything, an `Excerpt` of a document can still turn out to be faulty below its syntax.
`Wire` pairs the writer of a type with its reader; the reader works on any source, so reading a text and reading a
value follow the same rules and differ only in what a document keeps and a value does not: repeated members and faults
in skipped parts.
-/
namespace ChatClient

inductive Layer (δ : Type) where
  | null
  | bool (b : Bool)
  | int (n : Int)
  | float (x : Double)
  | string (s : String)
  | array (items : List δ)
  | object (members : List (String × δ))

/-- A source to read from: `layer?` opens one layer, `json?` reads all of it; `none` is a fault. -/
class Readable (δ : Type) where
  layer? : δ → Option (Layer δ)
  json? : δ → Option Json

def Json.layer : Json → Layer Json
  | .null => .null
  | .bool b => .bool b
  | .int n => .int n
  | .float x => .float x
  | .string s => .string s
  | .array items => .array items
  | .object members => .object members

instance : Readable Json where
  layer? v := some v.layer
  json? v := some v

/-- A part of a document, inside `depth` containers. -/
structure Excerpt where
  depth : Nat
  document : Document

namespace Excerpt

def members? (depth : Nat) : List (Option String × Document) → Option (List (String × Excerpt))
  | [] => some []
  | (key, d) :: members => do
    let key ← key
    let rest ← members? depth members
    return (key, ⟨depth, d⟩) :: rest

def layer? (e : Excerpt) : Option (Layer Excerpt) :=
  match e.document with
  | .null => some .null
  | .bool b => some (.bool b)
  | .number n =>
    match Document.numeralToJson? n with
    | some (.int n) => some (.int n)
    | some (.float x) => some (.float x)
    | _ => none
  | .string s => s.map .string
  | .array items =>
    if e.depth < Document.maxDepth then some (.array (items.map fun d => ⟨e.depth + 1, d⟩)) else none
  | .object members =>
    if e.depth < Document.maxDepth then (members? (e.depth + 1) members).map .object else none

end Excerpt

instance : Readable Excerpt where
  layer? := Excerpt.layer?
  json? e := Document.toJson? e.depth e.document

class Wire (α : Type) where
  write : α → Json
  read? : {δ : Type} → [Readable δ] → δ → Option α

namespace Wire

def ofBytes? {α : Type} [Wire α] (bytes : List UInt8) : Option α :=
  (Document.ofBytes? bytes).bind fun d => read? (Excerpt.mk 0 d)

def readInt? {δ : Type} [Readable δ] (low high : Int) (v : δ) : Option Int :=
  match Readable.layer? v with
  | some (.int n) => if low ≤ n ∧ n ≤ high then some n else none
  | _ => none

instance : Wire Json where
  write v := v
  read? v := Readable.json? v

instance : Wire Bool where
  write b := .bool b
  read? v := match Readable.layer? v with
    | some (.bool b) => some b
    | _ => none

instance : Wire String where
  write s := .string s
  read? v := match Readable.layer? v with
    | some (.string s) => some s
    | _ => none

instance : Wire UInt32 where
  write n := .int n.toNat
  read? v := (readInt? 0 0xffffffff v).map fun n => UInt32.ofNat n.toNat

instance : Wire UInt64 where
  write n := .int n.toNat
  read? v := (readInt? 0 0xffffffffffffffff v).map fun n => UInt64.ofNat n.toNat

instance : Wire Int64 where
  write n := .int n.toInt
  read? v := (readInt? (-0x8000000000000000) 0x7fffffffffffffff v).map Int64.ofInt

/-- A missing value is written as null, and null is read as a missing value. -/
instance {α : Type} [Wire α] : Wire (Option α) where
  write
    | none => .null
    | some a => write a
  read? v := match Readable.layer? v with
    | some .null => some none
    | _ => (read? v).map some

instance {α : Type} [Wire α] : Wire (List α) where
  write xs := .array (xs.map write)
  read? v := match Readable.layer? v with
    | some (.array items) => items.mapM read?
    | _ => none

/-- A table is written as an object; of repeated keys the last one is read. -/
instance {α : Type} [Wire α] : Wire (Table α) where
  write t := .object (t.toList.map fun e => (e.1, write e.2))
  read? v := match Readable.layer? v with
    | some (.object members) =>
      (members.mapM fun m => (read? m.2).map fun a => (m.1, a)).map fun es => Std.ExtTreeMap.ofList es compare
    | _ => none

end Wire

end ChatClient
