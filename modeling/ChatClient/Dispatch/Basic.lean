import ChatClient.Dispatch.Effect
import ChatClient.Dispatch.Observer
/-!
# Dispatch

An event is taken into the cache and then shown to the observers registered for it.  The list of observers is settled
when the event arrives: an observer that is registered while an event is handled is called from the next event on.  A
panic ends the call of one observer, is reported, and touches no other.  The events of a bulk are dispatched one after
the other.
-/
namespace ChatClient

/-- The state of event handling: the cache, the observers and the outbox of the session, if there is one, with the
records of observers and the reports so far. -/
structure Dispatcher (ρ : Type) where
  cache : Cache
  registry : Registry ρ
  outbox : Option Outbox
  records : List ρ
  reports : List Diagnostic

namespace Dispatcher

variable {ρ : Type}

def ofCache (cache : Cache) (registry : Registry ρ) : Dispatcher ρ :=
  ⟨cache, registry, none, [], []⟩

def scene (d : Dispatcher ρ) (state : ConnectionState) : Scene :=
  ⟨d.cache, state, d.outbox⟩

def call (state : ConnectionState) (event : Event) (d : Dispatcher ρ) (o : Observer ρ) : Dispatcher ρ :=
  let r := o.react (d.scene state) event
  { d with
    registry := ⟨d.registry.entries ++ r.registers⟩
    outbox := Outbox.offerAll d.outbox r.offers
    records := d.records ++ r.records
    reports := d.reports ++ match r.panic with
      | some p => [.observerPanicked event.typeName p.message]
      | none => [] }

/-- Calls the observers that are registered for an event, as they are before the first call. -/
def notify (state : ConnectionState) (d : Dispatcher ρ) (event : Event) : Dispatcher ρ :=
  (d.registry.observersOf event.kind).foldl (call state event) d

def apply (d : Dispatcher ρ) (event : Event) : Dispatcher ρ × Option Outcome :=
  let a := d.cache.absorb event
  ({ d with cache := a.cache, reports := d.reports ++ a.reports }, a.outcome)

mutual
/-- Handles an event: a bulk item by item, any other by the cache and then by the observers. -/
def dispatch (state : ConnectionState) (d : Dispatcher ρ) : Event → Dispatcher ρ
  | .bulk events => dispatchAll state d events
  | e => notify state (d.apply e).1 e

def dispatchAll (state : ConnectionState) (d : Dispatcher ρ) : List Event → Dispatcher ρ
  | [] => d
  | e :: es => dispatchAll state (dispatch state d e) es
end

def summary (d : Dispatcher ρ) : String :=
  "Dispatcher \x7b observers: " ++ d.registry.summary ++ " \x7d"

end Dispatcher

def Event.decoderSummary : String :=
  "Decoder \x7b kinds: " ++ String.ofList (Text.Decimal.ofNat EventKind.all.length) ++ " \x7d"

end ChatClient
