import ChatClient.Entity.MemberId
import ChatClient.Update.ClearName
/-!
# Update envelopes

An identity, new values that are still raw, and the names to clear: what all updates have in common before it is known
which entity they are for.
-/
namespace ChatClient

structure UpdateEnvelope where
  id : EntityId
  data : Json
  clear : List String
deriving DecidableEq, Repr

namespace UpdateEnvelope

def data? {π : Type} [Wire π] (e : UpdateEnvelope) : Option π :=
  match e.data with
  | .null => Wire.read? (Json.object [])
  | v => Wire.read? v

def clearNames {φ : Type} [Clearable φ] (e : UpdateEnvelope) : List (ClearName φ) :=
  e.clear.map ClearName.ofName

end UpdateEnvelope

end ChatClient
