import ChatClient.Cache.Basic
import ChatClient.Event.Basic
import ChatClient.Gateway.Outbox
import ChatClient.Gateway.State
/-!
# Observers

An observer is called with each event it is registered for, after the cache has taken the event in.  What it does is a
function of what it sees: it leaves records, offers messages to the outbox, registers further observers, and it may
panic after that.  A `Registry` keeps observers in the order of registration, for one kind of events or for all.
-/
namespace ChatClient

structure Scene where
  cache : Cache
  state : ConnectionState
  outbox : Option Outbox

/-- What a panic carries: a text or something else. -/
inductive Panic where
  | text (message : String)
  | other
deriving DecidableEq, Repr

def Panic.message : Panic → String
  | .text message => message
  | .other => "non-string panic payload"

mutual
inductive Observer (ρ : Type) where
  | mk (react : Scene → Event → Reaction ρ)

/-- What an observer does when it is called; an observer is registered for one kind of events or for all. -/
inductive Reaction (ρ : Type) where
  | mk (records : List ρ) (offers : List ClientMessage) (registers : List (Option EventKind × Observer ρ))
    (panic : Option Panic)
end

variable {ρ : Type}

def Observer.react : Observer ρ → Scene → Event → Reaction ρ
  | .mk react => react

namespace Reaction

def records : Reaction ρ → List ρ
  | .mk records _ _ _ => records

def offers : Reaction ρ → List ClientMessage
  | .mk _ offers _ _ => offers

def registers : Reaction ρ → List (Option EventKind × Observer ρ)
  | .mk _ _ registers _ => registers

def panic : Reaction ρ → Option Panic
  | .mk _ _ _ panic => panic

end Reaction

/-- Observers in the order of registration, each for one kind of events or, with `none`, for all. -/
structure Registry (ρ : Type) where
  entries : List (Option EventKind × Observer ρ)

namespace Registry

def empty : Registry ρ :=
  ⟨[]⟩

def on (r : Registry ρ) (kind : EventKind) (o : Observer ρ) : Registry ρ :=
  ⟨r.entries ++ [(some kind, o)]⟩

def onAll (r : Registry ρ) (o : Observer ρ) : Registry ρ :=
  ⟨r.entries ++ [(none, o)]⟩

/-- The observers registered for exactly one target, in order. -/
def registeredFor (r : Registry ρ) (target : Option EventKind) : List (Observer ρ) :=
  (r.entries.filter fun e => e.1 == target).map Prod.snd

/-- The observers to call for a kind of events: those for the kind, then those for all. -/
def observersOf (r : Registry ρ) (kind : EventKind) : List (Observer ρ) :=
  r.registeredFor (some kind) ++ r.registeredFor none

def size (r : Registry ρ) : Nat :=
  r.entries.length

def kinds (r : Registry ρ) : List EventKind :=
  (r.entries.filterMap Prod.fst).eraseDups

def summary (r : Registry ρ) : String :=
  "Observers \x7b by_kind: " ++ String.ofList (Text.Decimal.ofNat r.kinds.length) ++ ", all: " ++
    String.ofList (Text.Decimal.ofNat (r.registeredFor none).length) ++ " \x7d"

end Registry

end ChatClient
