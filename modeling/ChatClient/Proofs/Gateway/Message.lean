import ChatClient.Gateway.Message
import ChatClient.Proofs.Json.Printed
/-!
# Messages that are sent

The text of a message is one object with two members, its tag and its field, whatever stands in a token or in the name
of a channel; and it is read as the message that was sent (`ClientMessage.text_reads`).  So no two messages have the
same text.
-/
namespace ChatClient

/-! ## Values of one field, read from any source -/

namespace Wire

variable {δ : Type} [Readable δ] {v : δ}

theorem read?_string {s : String} (h : Readable.layer? v = some (.string s)) : (read? v : Option String) = some s := by
  simp only [read?, h]

theorem read?_uint64 {n : UInt64} (h : Readable.layer? v = some (.int n.toNat)) :
    (read? v : Option UInt64) = some n := by
  have hrange : (0 : Int) ≤ n.toNat ∧ (n.toNat : Int) ≤ 0xffffffffffffffff := by
    have hn := n.toNat_lt
    omega
  change (readInt? 0 0xffffffffffffffff v).map _ = some n
  unfold readInt?
  rw [h]
  simp [hrange]

theorem Content.record?_required {α β σ : Type} [Wire α] (make : α → β) (name : String) (get : σ → α) (v : δ) :
    (Content.members [(name, v)]).record?
    ((Record.make make : Record σ (α → β)).required name get) = (read? v).map make := by
  have hfilter : [(name, v)].filter (fun m => m.1 == name || ([] : List String).contains m.1) = [(name, v)] := by
    simp
  simp only [Content.record?, Record.required, Record.ofMembers?, Field.ofMembers?, Field.named, hfilter]
  cases (read? v : Option α) <;> rfl

end Wire

namespace ClientMessage

/-! ## What is written of a message -/

def fieldName : ClientMessage → String
  | .authenticate _ => "token"
  | .ping _ => "data"
  | .beginTyping _ => "channel"
  | .endTyping _ => "channel"

/-- The value of the field, as the outermost layer of any source. -/
def fieldLayer (δ : Type) : ClientMessage → Layer δ
  | .authenticate token => .string token
  | .ping data => .int data.toNat
  | .beginTyping channel => .string channel
  | .endTyping channel => .string channel

def fieldValue : ClientMessage → Json
  | .authenticate token => .string token
  | .ping data => .int data.toNat
  | .beginTyping channel => .string channel
  | .endTyping channel => .string channel

theorem write_eq (m : ClientMessage) :
    Wire.write m = .object [("type", .string m.kind), (m.fieldName, m.fieldValue)] := by
  cases m <;> rfl

theorem plain_fieldValue (depth : Nat) (m : ClientMessage) : Json.Plain depth m.fieldValue := by
  cases m with
  | authenticate token => exact .string token
  | ping data =>
    have hdata := data.toNat_lt
    exact .int (by omega) (by omega)
  | beginTyping channel => exact .string channel
  | endTyping channel => exact .string channel

theorem plain_write (m : ClientMessage) : Json.Plain 0 (Wire.write m) := by
  have hkeys : ["type", m.fieldName].Nodup := by
    cases m <;> simp [fieldName]
  have hvalues : ∀ member ∈ [("type", Json.string m.kind), (m.fieldName, m.fieldValue)], Json.Plain 1 member.2 :=
    List.forall_mem_cons.2 ⟨.string m.kind, List.forall_mem_cons.2 ⟨m.plain_fieldValue 1, nofun⟩⟩
  rw [write_eq]
  exact .object (by decide) hkeys hvalues

/-! ## What is read of it -/

/-- **A message is read from any source that has the members of the message.** -/
theorem read?_of_layers {δ : Type} [Readable δ] {v tag field : δ} (m : ClientMessage)
    (hv : Readable.layer? v = some (.object [("type", tag), (m.fieldName, field)]))
    (htag : Readable.layer? tag = some (.string m.kind)) (hfield : Readable.layer? field = some (m.fieldLayer δ))
    (hjson : (Readable.json? field).isSome = true) : Wire.read? v = some m := by
  have hread : Wire.readTag? v = some (m.kind, .members [(m.fieldName, field)]) := by
    unfold Wire.readTag?
    rw [hv]
    cases m <;> simp [fieldName, htag, hjson]
  cases m with
  | authenticate token =>
    simp only [Wire.read?, hread, kind, fieldName, authenticateRecord, Wire.Content.record?_required]
    exact congrArg (Option.map _) (Wire.read?_string hfield)
  | ping data =>
    simp only [Wire.read?, hread, kind, fieldName, pingRecord, Wire.Content.record?_required]
    exact congrArg (Option.map _) (Wire.read?_uint64 hfield)
  | beginTyping channel =>
    simp only [Wire.read?, hread, kind, fieldName, beginTypingRecord, Wire.Content.record?_required]
    exact congrArg (Option.map _) (Wire.read?_string hfield)
  | endTyping channel =>
    simp only [Wire.read?, hread, kind, fieldName, endTypingRecord, Wire.Content.record?_required]
    exact congrArg (Option.map _) (Wire.read?_string hfield)

theorem read?_write (m : ClientMessage) : Wire.read? (Wire.write m) = some m := by
  have hfield : m.fieldValue.layer = m.fieldLayer Json := by
    cases m <;> rfl
  rw [write_eq]
  exact m.read?_of_layers rfl rfl (congrArg some hfield) rfl

theorem read?_document (m : ClientMessage) : Wire.read? (Excerpt.mk 0 (Json.document (Wire.write m))) = some m := by
  have hvalue := (m.plain_fieldValue 1).toJson?_document
  have hfield : (Excerpt.mk 1 (Json.document m.fieldValue)).layer? = some (m.fieldLayer Excerpt) := by
    cases m with
    | authenticate token => rfl
    | ping data =>
      have hlow : -0x8000000000000000 ≤ (data.toNat : Int) := by omega
      simp only [fieldValue, Json.document, Excerpt.layer?, Json.numeralToJson?_numeral hlow, fieldLayer]
    | beginTyping channel => rfl
    | endTyping channel => rfl
  rw [write_eq]
  exact m.read?_of_layers rfl rfl hfield (Option.isSome_iff_exists.2 ⟨_, hvalue⟩)

/-- The text has the two members and no others, none of them twice. -/
theorem document_text (m : ClientMessage) : Document.parse? m.text.toList =
    some (.object [(some "type", .string (some m.kind)), (some m.fieldName, m.fieldValue.document)]) := by
  have hread := m.plain_write.document_text
  rw [write_eq] at hread
  unfold text
  rw [write_eq, hread]
  rfl

theorem parse?_text (m : ClientMessage) :
    Json.parse? m.text = some (.object [("type", .string m.kind), (m.fieldName, m.fieldValue)]) := by
  rw [← write_eq]
  exact Json.parse?_text m.plain_write

theorem ofBytes?_text (m : ClientMessage) : Wire.ofBytes? (Text.Utf8.encode m.text) = some m := by
  unfold Wire.ofBytes? text
  rw [m.plain_write.document_bytes, Option.bind_some, read?_document]

theorem text_injective : Function.Injective text := by
  intro m m' h
  have hread := m.ofBytes?_text
  rw [h, m'.ofBytes?_text] at hread
  exact (Option.some.inj hread).symm

/-- **The text of a message is one object of its tag and its field, and is read as the message**, as a value and as it
stands on the connection; different messages have different texts.  The name of the field depends on the kind of the
message alone, so no token and no channel makes another kind of message or one with more fields. -/
theorem text_reads :
    (∀ m : ClientMessage,
      Document.parse? m.text.toList =
          some (.object [(some "type", .string (some m.kind)), (some m.fieldName, m.fieldValue.document)]) ∧
        Json.parse? m.text = some (.object [("type", .string m.kind), (m.fieldName, m.fieldValue)]) ∧
        (Json.parse? m.text).bind Wire.read? = some m ∧ Wire.ofBytes? (Text.Utf8.encode m.text) = some m) ∧
      Function.Injective text := by
  refine ⟨fun m => ⟨m.document_text, m.parse?_text, ?_, m.ofBytes?_text⟩, text_injective⟩
  rw [parse?_text, Option.bind_some, ← write_eq, read?_write]

/-- A token that spells the end of its own string and another field is a token. -/
example : (authenticate "\",\"type\":\"Ping\x00").text =
    "\x7b\"type\":\"Authenticate\",\"token\":\"\\\",\\\"type\\\":\\\"Ping\\u0000\"\x7d" := by
  decide +kernel

end ClientMessage

end ChatClient
