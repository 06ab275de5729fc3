import ChatClient.Diagnostic
import ChatClient.Event.Kind
import ChatClient.Text.Unexplained
/-!
# Decoding

What can be wrong with a frame, and the computations that read one: they report as they go, and what they have reported
stands even if they fail.
-/
namespace ChatClient

inductive DecodeError where
  | json
  | missingType
  | payload (kind : EventKind)
  | invalidId (kind : EventKind) (id : String)
  | missingField (kind : EventKind) (field : String)
deriving DecidableEq, Repr

namespace DecodeError

def kind? : DecodeError → Option EventKind
  | .json | .missingType => none
  | .payload kind | .invalidId kind _ | .missingField kind _ => some kind

def name : DecodeError → String
  | .json => "Json"
  | .missingType => "MissingType"
  | .payload _ => "Payload"
  | .invalidId .. => "InvalidId"
  | .missingField .. => "MissingField"

def message : DecodeError → String
  | .json => Text.noJsonHead ++ Text.unexplained
  | .missingType => "frame has no `type` discriminator"
  | .payload kind => Text.payloadHead ++ kind.name ++ Text.payloadTail ++ Text.unexplained
  | .invalidId kind id => kind.name ++ " event has an invalid id " ++ id
  | .missingField kind field => kind.name ++ " event is missing `" ++ field ++ "`"

def diagnostic (e : DecodeError) : Diagnostic :=
  .decodeFailure (match e.kind? with | some kind => kind.name | none => "frame") e.message

end DecodeError

/-- The outcome of reading, with the reports made on the way in order. -/
structure Decoding (α : Type) where
  reports : List Diagnostic
  result : Except DecodeError α

namespace Decoding

variable {α β : Type}

protected def pure (a : α) : Decoding α :=
  ⟨[], .ok a⟩

protected def bind (d : Decoding α) (f : α → Decoding β) : Decoding β :=
  match d.result with
  | .ok a => ⟨d.reports ++ (f a).reports, (f a).result⟩
  | .error e => ⟨d.reports, .error e⟩

instance : Monad Decoding where
  pure := Decoding.pure
  bind := Decoding.bind

def fail (e : DecodeError) : Decoding α :=
  ⟨[], .error e⟩

def report (reports : List Diagnostic) : Decoding Unit :=
  ⟨reports, .ok ()⟩

def ofOption (a? : Option α) (e : DecodeError) : Decoding α :=
  match a? with
  | some a => .pure a
  | none => .fail e

/-- What was read, or nothing; a failure becomes a report. -/
def leniently (d : Decoding α) : List Diagnostic × Option α :=
  match d.result with
  | .ok a => (d.reports, some a)
  | .error e => (d.reports ++ [e.diagnostic], none)

end Decoding

end ChatClient
