import ChatClient.Gateway.Step
import Mathlib.Data.List.Basic
/-!
# Bulks come to their leaves

A bulk has no effect of its own: handling an event is handling its leaves one after the other, from left to right, and
so is the connection's part (`byLeaves`).  What the observers get to see is told by the calls that they receive, each
with what was to be seen at that moment (`Dispatcher.calls`); a dispatcher gains records, observers and messages by
these calls and by nothing else (`Accounts`).
-/
namespace ChatClient

/-! ## Leaves -/

namespace Event

mutual

/-- What holds of every event that is no bulk, and of a bulk if it holds of its events, holds of all events. -/
theorem bulkInduction {motive : Event → Prop} (leaf : ∀ e, e.kind ≠ .bulk → motive e)
    (bulk : ∀ es, (∀ e ∈ es, motive e) → motive (.bulk es)) (e : Event) : motive e := by
  cases e with
  | bulk es => exact bulk es (bulkInduction_all leaf bulk es)
  | _ => exact leaf _ (by simp [kind])

theorem bulkInduction_all {motive : Event → Prop} (leaf : ∀ e, e.kind ≠ .bulk → motive e)
    (bulk : ∀ es, (∀ e ∈ es, motive e) → motive (.bulk es)) (es : List Event) : ∀ e ∈ es, motive e := by
  cases es with
  | nil => exact fun _ h => (nomatch h)
  | cons e es => exact List.forall_mem_cons.2 ⟨bulkInduction leaf bulk e, bulkInduction_all leaf bulk es⟩

end

theorem leaves_of_ne {e : Event} (h : e.kind ≠ .bulk) : e.leaves = [e] := by
  cases e with
  | bulk es => exact absurd rfl h
  | _ => simp [leaves]

theorem leavesOf_eq_flatMap (es : List Event) : leavesOf es = es.flatMap leaves := by
  induction es with
  | nil => simp [leavesOf]
  | cons e es ih => rw [leavesOf, ih, List.flatMap_cons]

theorem leaves_bulk (es : List Event) : (bulk es).leaves = es.flatMap leaves := by
  rw [leaves, leavesOf_eq_flatMap]

theorem kind_of_mem_leaves (e : Event) : ∀ l ∈ e.leaves, l.kind ≠ .bulk := by
  induction e using bulkInduction with
  | leaf e h =>
    rw [leaves_of_ne h]
    exact List.forall_mem_singleton.2 h
  | bulk es ih =>
    rw [leaves_bulk]
    intro l hl
    obtain ⟨e, he, hl⟩ := List.mem_flatMap.1 hl
    exact ih e he l hl

/-- **Whatever takes a bulk event by event takes every event leaf by leaf.** -/
theorem foldl_leaves {σ : Type} (f : σ → Event → σ) (hbulk : ∀ s es, f s (.bulk es) = es.foldl f s)
    (e : Event) (s : σ) : f s e = e.leaves.foldl f s := by
  induction e using bulkInduction generalizing s with
  | leaf e h =>
    rw [leaves_of_ne h]
    rfl
  | bulk es ih =>
    rw [hbulk, leaves_bulk, List.foldl_flatMap]
    exact List.foldl_ext _ _ s fun s e he => ih e he s

end Event

/-! ## Calls of observers -/

/-- A call of an observer: what it could see, and the event that it was called with. -/
structure Call (ρ : Type) where
  observer : Observer ρ
  scene : Scene
  event : Event

def Call.reaction {ρ : Type} (c : Call ρ) : Reaction ρ :=
  c.observer.react c.scene c.event

namespace Dispatcher

variable {ρ : Type} (state : ConnectionState)

def callsOf (event : Event) : Dispatcher ρ → List (Observer ρ) → List (Call ρ)
  | _, [] => []
  | d, o :: os => ⟨o, d.scene state, event⟩ :: callsOf event (call state event d o) os

mutual

def calls (d : Dispatcher ρ) : Event → List (Call ρ)
  | .bulk events => callsAll d events
  | e => callsOf state e (d.apply e).1 ((d.apply e).1.registry.observersOf e.kind)

def callsAll (d : Dispatcher ρ) : List Event → List (Call ρ)
  | [] => []
  | e :: es => calls d e ++ callsAll (dispatch state d e) es

end

/-- **What a dispatcher gained by calls**: its records, its observers and the messages of its outbox are those from
before and then those of each call in turn. -/
structure Accounts (d : Dispatcher ρ) (cs : List (Call ρ)) (d' : Dispatcher ρ) : Prop where
  records : d'.records = d.records ++ cs.flatMap (·.reaction.records)
  entries : d'.registry.entries = d.registry.entries ++ cs.flatMap (·.reaction.registers)
  outbox : d'.outbox = Outbox.offerAll d.outbox (cs.flatMap (·.reaction.offers))

theorem Accounts.refl (d : Dispatcher ρ) : Accounts d [] d :=
  ⟨(List.append_nil _).symm, (List.append_nil _).symm, rfl⟩

theorem Accounts.append {d d' d'' : Dispatcher ρ} {cs cs' : List (Call ρ)} (h : Accounts d cs d')
    (h' : Accounts d' cs' d'') : Accounts d (cs ++ cs') d'' where
  records := by rw [h'.records, h.records, List.flatMap_append, List.append_assoc]
  entries := by rw [h'.entries, h.entries, List.flatMap_append, List.append_assoc]
  outbox := by
    rw [h'.outbox, h.outbox, List.flatMap_append]
    exact List.foldl_append.symm

theorem accounts_call (event : Event) (d : Dispatcher ρ) (o : Observer ρ) :
    Accounts d [⟨o, d.scene state, event⟩] (call state event d o) := by
  refine ⟨?_, ?_, ?_⟩ <;> (rw [List.flatMap_singleton]; rfl)

theorem accounts_callsOf (event : Event) (os : List (Observer ρ)) (d : Dispatcher ρ) :
    Accounts d (callsOf state event d os) (os.foldl (call state event) d) := by
  induction os generalizing d with
  | nil => exact .refl d
  | cons o os ih => exact (accounts_call state event d o).append (ih _)

theorem event_of_mem_callsOf {event : Event} {c : Call ρ} (os : List (Observer ρ)) (d : Dispatcher ρ)
    (h : c ∈ callsOf state event d os) : c.event = event := by
  induction os generalizing d with
  | nil => cases h
  | cons o os ih =>
    rcases List.mem_cons.1 h with rfl | h
    · rfl
    · exact ih _ h

/-! ## Handling -/

theorem dispatch_of_ne (d : Dispatcher ρ) {e : Event} (h : e.kind ≠ .bulk) :
    dispatch state d e = notify state (d.apply e).1 e := by
  cases e with
  | bulk es => exact absurd rfl h
  | _ => simp [dispatch]

theorem calls_of_ne (d : Dispatcher ρ) {e : Event} (h : e.kind ≠ .bulk) :
    calls state d e = callsOf state e (d.apply e).1 ((d.apply e).1.registry.observersOf e.kind) := by
  cases e with
  | bulk es => exact absurd rfl h
  | _ => simp [calls]

theorem dispatchAll_eq_foldl (es : List Event) (d : Dispatcher ρ) :
    dispatchAll state d es = es.foldl (dispatch state) d := by
  induction es generalizing d with
  | nil => rw [dispatchAll, List.foldl_nil]
  | cons e es ih => rw [dispatchAll, ih, List.foldl_cons]

/-- **Handling an event is handling its leaves from left to right.** -/
theorem dispatch_eq_dispatchAll (d : Dispatcher ρ) (e : Event) : dispatch state d e = dispatchAll state d e.leaves := by
  rw [dispatchAll_eq_foldl]
  exact Event.foldl_leaves (dispatch state) (fun d es => by rw [dispatch, dispatchAll_eq_foldl]) e d

def trace (s : Dispatcher ρ × List (Call ρ)) (e : Event) : Dispatcher ρ × List (Call ρ) :=
  (dispatch state s.1 e, s.2 ++ calls state s.1 e)

theorem foldl_trace (es : List Event) (d : Dispatcher ρ) (cs : List (Call ρ)) :
    es.foldl (trace state) (d, cs) = (dispatchAll state d es, cs ++ callsAll state d es) := by
  induction es generalizing d cs with
  | nil => rw [List.foldl_nil, dispatchAll, callsAll, List.append_nil]
  | cons e es ih => rw [List.foldl_cons, trace, ih, dispatchAll, callsAll, List.append_assoc]

/-- **The calls that an event comes with are those of its leaves**, one leaf after the other. -/
theorem calls_eq_callsAll (d : Dispatcher ρ) (e : Event) : calls state d e = callsAll state d e.leaves := by
  have hbulk (s : Dispatcher ρ × List (Call ρ)) (es : List Event) :
      trace state s (.bulk es) = es.foldl (trace state) s := by
    rw [foldl_trace, trace, dispatch, calls]
  have htrace := Event.foldl_leaves (trace state) hbulk e (d, [])
  rw [foldl_trace] at htrace
  exact congrArg Prod.snd htrace

theorem accounts_dispatch_of_ne (d : Dispatcher ρ) {e : Event} (h : e.kind ≠ .bulk) :
    Accounts d (calls state d e) (dispatch state d e) := by
  have happlied := accounts_callsOf state e ((d.apply e).1.registry.observersOf e.kind) (d.apply e).1
  rw [calls_of_ne state d h, dispatch_of_ne state d h]
  -- the cache's part touches nothing that calls account for
  exact ⟨happlied.records, happlied.entries, happlied.outbox⟩

theorem accounts_dispatchAll {ls : List Event} (hls : ∀ l ∈ ls, l.kind ≠ .bulk) (d : Dispatcher ρ) :
    Accounts d (callsAll state d ls) (dispatchAll state d ls) := by
  induction ls generalizing d with
  | nil =>
    rw [callsAll, dispatchAll]
    exact .refl d
  | cons l ls ih =>
    obtain ⟨hl, hls⟩ := List.forall_mem_cons.1 hls
    rw [callsAll, dispatchAll]
    exact (accounts_dispatch_of_ne state d hl).append (ih hls _)

/-- A dispatcher gains by the calls that an event comes with, and by nothing else. -/
theorem accounts_dispatch (d : Dispatcher ρ) (e : Event) : Accounts d (calls state d e) (dispatch state d e) := by
  rw [dispatch_eq_dispatchAll, calls_eq_callsAll]
  exact accounts_dispatchAll state e.kind_of_mem_leaves d

theorem event_of_mem_callsAll {ls : List Event} (hls : ∀ l ∈ ls, l.kind ≠ .bulk) (d : Dispatcher ρ) {c : Call ρ}
    (h : c ∈ callsAll state d ls) : c.event ∈ ls := by
  induction ls generalizing d with
  | nil =>
    rw [callsAll] at h
    cases h
  | cons l ls ih =>
    obtain ⟨hl, hls⟩ := List.forall_mem_cons.1 hls
    rw [callsAll, List.mem_append, calls_of_ne state d hl] at h
    rcases h with h | h
    · rw [event_of_mem_callsOf state _ _ h]
      exact List.mem_cons_self
    · exact List.mem_cons_of_mem l (ih hls _ h)

end Dispatcher

/-! ## The connection's part -/

namespace Pulse

def trace (now : Instant) (s : Pulse × List Diagnostic) (e : Event) : Pulse × List Diagnostic :=
  ((route now s.1 e).1, s.2 ++ (route now s.1 e).2)

theorem foldl_trace (now : Instant) (es : List Event) (p : Pulse) (reports : List Diagnostic) :
    es.foldl (trace now) (p, reports) = ((routeAll now p es).1, reports ++ (routeAll now p es).2) := by
  induction es generalizing p reports with
  | nil => rw [List.foldl_nil, routeAll, List.append_nil]
  | cons e es ih => rw [List.foldl_cons, trace, ih, routeAll, List.append_assoc]

/-- **The connection takes an event leaf by leaf**, from left to right. -/
theorem route_eq_routeAll (now : Instant) (p : Pulse) (e : Event) : route now p e = routeAll now p e.leaves := by
  have hbulk (s : Pulse × List Diagnostic) (es : List Event) : trace now s (.bulk es) = es.foldl (trace now) s := by
    rw [foldl_trace, trace, route]
  have htrace := Event.foldl_leaves (trace now) hbulk e (p, [])
  rw [foldl_trace] at htrace
  exact htrace

end Pulse

/-! ## Events -/

/-- **An event is as good as its leaves.**

Handling it is handling them one after the other; so are the calls of observers, each with what it could see, which
account for all that the dispatcher gained, and none of them is with a bulk; and so is the connection's part.  A
gateway cannot tell it from another event with the same leaves. -/
structure Event.ByLeaves (ρ : Type) (e : Event) : Prop where
  dispatch (state : ConnectionState) (d : Dispatcher ρ) : d.dispatch state e = d.dispatchAll state e.leaves
  calls (state : ConnectionState) (d : Dispatcher ρ) : d.calls state e = d.callsAll state e.leaves
  accounts (state : ConnectionState) (d : Dispatcher ρ) : d.Accounts (d.calls state e) (d.dispatch state e)
  called (state : ConnectionState) (d : Dispatcher ρ) : ∀ c ∈ d.calls state e, c.event ∈ e.leaves ∧
    c.event.kind ≠ .bulk
  route (now : Instant) (p : Pulse) : p.route now e = p.routeAll now e.leaves
  take (g : Gateway ρ) (now : Instant) (beat : Option Beat) (e' : Event) : e'.leaves = e.leaves →
    g.take now beat e' = g.take now beat e

/-- **Every event is as good as its leaves**, however deep its bulks are nested. -/
theorem Event.byLeaves (ρ : Type) (e : Event) : e.ByLeaves ρ where
  dispatch state d := d.dispatch_eq_dispatchAll state e
  calls state d := d.calls_eq_callsAll state e
  accounts state d := by
    rw [d.dispatch_eq_dispatchAll state e, d.calls_eq_callsAll state e]
    exact d.accounts_dispatchAll state e.kind_of_mem_leaves
  called state d c hc := by
    rw [d.calls_eq_callsAll state e] at hc
    have hleaf := d.event_of_mem_callsAll state e.kind_of_mem_leaves hc
    exact ⟨hleaf, e.kind_of_mem_leaves _ hleaf⟩
  route now p := p.route_eq_routeAll now e
  take g now beat e' hleaves := by
    unfold Gateway.take
    rw [Pulse.route_eq_routeAll, hleaves, ← Pulse.route_eq_routeAll]
    simp only [Dispatcher.dispatch_eq_dispatchAll, hleaves]

end ChatClient
