import ChatClient.Text.Decimal
import ChatClient.Text.Quoted
import ChatClient.Text.Unexplained
/-!
# Diagnostics

What the client notices about its servers and its observers without failing.  Reports are collected in the order in
which they are made.
-/
namespace ChatClient

inductive Diagnostic where
  | conflictingClearAndRemove (event id : String)
  | missingResetAfter (key : String)
  | invalidRateLimitHeader (key header value : String)
  | heartbeatMismatch (expected received : Nat)
  | decodeFailure (kind error : String)
  | unknownEvent (kind : String)
  | unknownClearField (entity field : String)
  | unknownTarget (entity id : String)
  | observerPanicked (event message : String)
deriving DecidableEq, Repr

namespace Diagnostic

def name : Diagnostic → String
  | .conflictingClearAndRemove .. => "ConflictingClearAndRemove"
  | .missingResetAfter .. => "MissingResetAfter"
  | .invalidRateLimitHeader .. => "InvalidRateLimitHeader"
  | .heartbeatMismatch .. => "HeartbeatMismatch"
  | .decodeFailure .. => "DecodeFailure"
  | .unknownEvent .. => "UnknownEvent"
  | .unknownClearField .. => "UnknownClearField"
  | .unknownTarget .. => "UnknownTarget"
  | .observerPanicked .. => "ObserverPanicked"

def message : Diagnostic → String
  | .conflictingClearAndRemove event id =>
    event ++ " for " ++ id ++ " carried both `clear` and `remove`; `remove` was dropped"
  | .missingResetAfter key =>
    "rate-limit bucket " ++ key ++ ": remaining header present but reset-after missing"
  | .invalidRateLimitHeader key header value =>
    "rate-limit bucket " ++ key ++ ": invalid " ++ header ++ " header value " ++ Text.quote value
  | .heartbeatMismatch expected received =>
    "heartbeat mismatch: expected " ++ String.ofList (Text.Decimal.ofNat expected) ++ ", received " ++
      String.ofList (Text.Decimal.ofNat received)
  | .decodeFailure kind error => "failed to decode " ++ kind ++ " event: " ++ Text.unexplain error
  | .unknownEvent kind => "unknown event type " ++ kind
  | .unknownClearField entity field => "unknown " ++ entity ++ " field " ++ field ++ " in clear list"
  | .unknownTarget entity id => "update for unknown " ++ entity ++ " " ++ id
  | .observerPanicked event message => "observer panicked while handling " ++ event ++ ": " ++ message

/-- Whether a diagnostic tells of something that should not happen; newer servers and uncached entities are to be
expected. -/
def isAnomaly : Diagnostic → Bool
  | .unknownEvent .. | .unknownTarget .. => false
  | _ => true

end Diagnostic

structure MemorySink where
  records : List Diagnostic
deriving DecidableEq, Repr, Inhabited

namespace MemorySink

def report (s : MemorySink) (d : Diagnostic) : MemorySink :=
  ⟨s.records ++ [d]⟩

def take (s : MemorySink) : List Diagnostic × MemorySink :=
  (s.records, ⟨[]⟩)

end MemorySink

end ChatClient
