import ChatClient.Proofs.Dispatch.Leaves
/-!
# Who is called, and what they see

An event is shown to the observers of its kind and then to those of all events, to each of them once, as they are
registered before the first call; each sees the cache with the event taken in, and each panic is reported once
(`Told`).  Over events that are handled one after the other this holds leaf by leaf (`ShowsInTurn`).  A panic makes no
difference but for its report: a dispatcher whose observers do the same without panicking (`Dispatcher.calm`) calls
the same ones with the same.
-/
namespace ChatClient

variable {ρ : Type}

/-! ## Calls in a row -/

/-- What is reported of a call: the panic of its observer, if it panicked. -/
def Call.report? (c : Call ρ) : Option Diagnostic :=
  c.reaction.panic.map fun p => .observerPanicked c.event.typeName p.message

def Diagnostic.isPanic : Diagnostic → Bool
  | .observerPanicked .. => true
  | _ => false

theorem Call.filter_report (cs : List (Call ρ)) :
    (cs.filterMap Call.report?).filter Diagnostic.isPanic = cs.filterMap Call.report? := by
  refine List.filter_eq_self.2 fun r hr => ?_
  obtain ⟨c, -, hc⟩ := List.mem_filterMap.1 hr
  obtain ⟨p, -, rfl⟩ := Option.map_eq_some_iff.1 hc
  rfl

/-- Those registered for a kind are those of its entries, and so are those registered for all. -/
theorem Registry.observersOf_eq (r : Registry ρ) (kind : EventKind) :
    r.observersOf kind = (r.entries.filter fun entry => entry.1 = some kind).map (·.2) ++
      (r.entries.filter fun entry => entry.1 = none).map (·.2) := by
  have hentries : ∀ target, r.registeredFor target = (r.entries.filter fun entry => entry.1 = target).map (·.2) :=
    fun target => congrArg (List.map Prod.snd) (List.filter_congr fun entry _ => beq_eq_decide entry.1 target)
  rw [observersOf, hentries, hentries]

namespace Dispatcher

variable (state : ConnectionState)

theorem map_observer_callsOf (event : Event) (os : List (Observer ρ)) (d : Dispatcher ρ) :
    (callsOf state event d os).map Call.observer = os := by
  induction os generalizing d with
  | nil => rfl
  | cons o os ih => rw [callsOf, List.map_cons, ih]

theorem scene_of_mem_callsOf {event : Event} {c : Call ρ} (os : List (Observer ρ)) (d : Dispatcher ρ)
    (h : c ∈ callsOf state event d os) : c.scene.state = state ∧ c.scene.cache = d.cache := by
  induction os generalizing d with
  | nil => cases h
  | cons o os ih =>
    rcases List.mem_cons.1 h with rfl | h
    · exact ⟨rfl, rfl⟩
    · exact ih (call state event d o) h

theorem reports_call (event : Event) (d : Dispatcher ρ) (o : Observer ρ) :
    (call state event d o).reports = d.reports ++ (Call.report? ⟨o, d.scene state, event⟩).toList := by
  simp only [call, Call.report?, Call.reaction]
  cases (o.react (d.scene state) event).panic <;> rfl

theorem reports_foldl_call (event : Event) (os : List (Observer ρ)) (d : Dispatcher ρ) :
    (os.foldl (call state event) d).reports = d.reports ++ (callsOf state event d os).filterMap Call.report? := by
  induction os generalizing d with
  | nil => exact (List.append_nil _).symm
  | cons o os ih =>
    rw [List.foldl_cons, ih, reports_call, callsOf, List.append_assoc]
    cases h : Call.report? ⟨o, d.scene state, event⟩ with
    | none => rw [List.filterMap_cons_none h]; rfl
    | some r => rw [List.filterMap_cons_some h]; rfl

theorem cache_foldl_call (event : Event) (os : List (Observer ρ)) (d : Dispatcher ρ) :
    (os.foldl (call state event) d).cache = d.cache := by
  induction os generalizing d with
  | nil => rfl
  | cons o os ih => rw [List.foldl_cons, ih]; rfl

def told (d : Dispatcher ρ) (event : Event) : List (Call ρ) :=
  callsOf state event d (d.registry.observersOf event.kind)

/-- **What comes of showing an event to the observers** of a dispatcher `d`, with the calls made.

They are made of those registered for the kind of the event and then of those registered for all, in the order of
registration and with each once; all see the cache as it is in `d`; and the dispatcher `d'` after it gained what the
calls account for, with one report for each that panicked. -/
structure Told (event : Event) (d : Dispatcher ρ) (cs : List (Call ρ)) (d' : Dispatcher ρ) : Prop where
  observers : cs.map Call.observer =
    (d.registry.entries.filter fun entry => entry.1 = some event.kind).map (·.2) ++
      (d.registry.entries.filter fun entry => entry.1 = none).map (·.2)
  sees : ∀ c ∈ cs, c.event = event ∧ c.scene.state = state ∧ c.scene.cache = d.cache
  accounts : Accounts d cs d'
  reports : d'.reports = d.reports ++ cs.filterMap Call.report?
  cache : d'.cache = d.cache

theorem told_notify (d : Dispatcher ρ) (event : Event) :
    Told state event d (told state d event) (notify state d event) where
  observers := (map_observer_callsOf state event _ d).trans (d.registry.observersOf_eq event.kind)
  sees _ hc := ⟨event_of_mem_callsOf state _ d hc, scene_of_mem_callsOf state _ d hc⟩
  accounts := accounts_callsOf state event _ d
  reports := reports_foldl_call state event _ d
  cache := cache_foldl_call state event _ d

end Dispatcher

/-! ## Events one after the other -/

structure Arrival where
  state : ConnectionState
  event : Event

def Arrival.leaves (a : Arrival) : List Arrival :=
  a.event.leaves.map (⟨a.state, ·⟩)

theorem Arrival.kind_of_mem_leaves {as : List Arrival} {l : Arrival} (h : l ∈ as.flatMap leaves) :
    l.event.kind ≠ .bulk := by
  obtain ⟨a, -, ha⟩ := List.mem_flatMap.1 h
  obtain ⟨e, he, rfl⟩ := List.mem_map.1 ha
  exact a.event.kind_of_mem_leaves e he

def Cache.absorbAll (c : Cache) (as : List Arrival) : Cache :=
  as.foldl (fun c a => (c.absorb a.event).cache) c

theorem Cache.absorbAll_append (c : Cache) (as bs : List Arrival) :
    c.absorbAll (as ++ bs) = (c.absorbAll as).absorbAll bs :=
  List.foldl_append

namespace Dispatcher

def run (d : Dispatcher ρ) (as : List Arrival) : Dispatcher ρ :=
  as.foldl (fun d a => d.dispatch a.state a.event) d

def callsIn (d : Dispatcher ρ) : List Arrival → List (Call ρ)
  | [] => []
  | a :: as => d.calls a.state a.event ++ callsIn (d.dispatch a.state a.event) as

/-- The dispatcher when it has handled some events and the cache has taken in one more, which nobody was shown yet. -/
def taken (d : Dispatcher ρ) (pre : List Arrival) (a : Arrival) : Dispatcher ρ :=
  ((d.run pre).apply a.event).1

theorem run_append (d : Dispatcher ρ) (as bs : List Arrival) : d.run (as ++ bs) = (d.run as).run bs :=
  List.foldl_append

theorem callsIn_append (d : Dispatcher ρ) (as bs : List Arrival) :
    d.callsIn (as ++ bs) = d.callsIn as ++ (d.run as).callsIn bs := by
  induction as generalizing d with
  | nil => rfl
  | cons a as ih =>
    rw [List.cons_append, callsIn, ih, callsIn, List.append_assoc]
    rfl

theorem run_leaves (d : Dispatcher ρ) (a : Arrival) : d.run a.leaves = d.dispatch a.state a.event := by
  rw [dispatch_eq_dispatchAll, dispatchAll_eq_foldl]
  exact List.foldl_map

theorem callsIn_map (d : Dispatcher ρ) (state : ConnectionState) (es : List Event) :
    d.callsIn (es.map (⟨state, ·⟩)) = d.callsAll state es := by
  induction es generalizing d with
  | nil => rw [List.map_nil, callsIn, callsAll]
  | cons e es ih => rw [List.map_cons, callsIn, callsAll, ih]

theorem callsIn_leaves (d : Dispatcher ρ) (a : Arrival) : d.callsIn a.leaves = d.calls a.state a.event := by
  rw [calls_eq_callsAll]
  exact d.callsIn_map a.state a.event.leaves

theorem run_flatMap_leaves (d : Dispatcher ρ) (as : List Arrival) : d.run (as.flatMap Arrival.leaves) = d.run as := by
  induction as generalizing d with
  | nil => rfl
  | cons a as ih =>
    rw [List.flatMap_cons, run_append, run_leaves, ih]
    rfl

theorem callsIn_flatMap_leaves (d : Dispatcher ρ) (as : List Arrival) :
    d.callsIn (as.flatMap Arrival.leaves) = d.callsIn as := by
  induction as generalizing d with
  | nil => rfl
  | cons a as ih => rw [List.flatMap_cons, callsIn_append, callsIn_leaves, run_leaves, ih, callsIn]

/-- **One leaf**: the cache takes it in, and then the observers are shown it. -/
theorem told_dispatch (d : Dispatcher ρ) {a : Arrival} (h : a.event.kind ≠ .bulk) :
    Told a.state a.event (d.apply a.event).1 (d.calls a.state a.event) (d.dispatch a.state a.event) := by
  rw [calls_of_ne _ d h, dispatch_of_ne _ d h]
  exact told_notify a.state _ a.event

theorem cache_dispatch (d : Dispatcher ρ) {a : Arrival} (h : a.event.kind ≠ .bulk) :
    (d.dispatch a.state a.event).cache = (d.cache.absorb a.event).cache :=
  (d.told_dispatch h).cache

theorem cache_run (d : Dispatcher ρ) {ls : List Arrival} (hls : ∀ l ∈ ls, l.event.kind ≠ .bulk) :
    (d.run ls).cache = d.cache.absorbAll ls := by
  induction ls generalizing d with
  | nil => rfl
  | cons l ls ih =>
    obtain ⟨hl, hls⟩ := List.forall_mem_cons.1 hls
    calc (d.run (l :: ls)).cache
      _ = (d.dispatch l.state l.event).cache.absorbAll ls := ih _ hls
      _ = d.cache.absorbAll (l :: ls) := by rw [cache_dispatch d hl]; rfl

theorem accounts_run (d : Dispatcher ρ) (as : List Arrival) : Accounts d (d.callsIn as) (d.run as) := by
  induction as generalizing d with
  | nil => exact .refl d
  | cons a as ih => exact (accounts_dispatch a.state d a.event).append (ih _)

theorem filter_reports_absorb (c : Cache) (e : Event) : (c.absorb e).reports.filter Diagnostic.isPanic = [] := by
  unfold Cache.absorb
  cases e.effect? with
  | none => rfl
  | some effect =>
    dsimp only [Effect.reports]
    split <;> rfl

theorem panics_run (d : Dispatcher ρ) {ls : List Arrival} (hls : ∀ l ∈ ls, l.event.kind ≠ .bulk) :
    (d.run ls).reports.filter Diagnostic.isPanic =
      d.reports.filter Diagnostic.isPanic ++ (d.callsIn ls).filterMap Call.report? := by
  induction ls generalizing d with
  | nil => exact (List.append_nil _).symm
  | cons l ls ih =>
    obtain ⟨hl, hls⟩ := List.forall_mem_cons.1 hls
    have hreports := (d.told_dispatch hl).reports
    rw [callsIn, List.filterMap_append, ← List.append_assoc]
    refine (ih (d.dispatch l.state l.event) hls).trans (congrArg (· ++ _) ?_)
    simp only [hreports, apply, List.filter_append, filter_reports_absorb, List.append_nil, Call.filter_report]

end Dispatcher

/-! ## Without panics -/

mutual

def Observer.calm : Observer ρ → Observer ρ
  | .mk react => .mk fun scene event => (react scene event).calm

/-- A reaction without its panic, and with the observers that it registers made calm. -/
def Reaction.calm : Reaction ρ → Reaction ρ
  | .mk records offers registers _ => .mk records offers (calmAll registers) none

def calmAll : List (Option EventKind × Observer ρ) → List (Option EventKind × Observer ρ)
  | [] => []
  | (target, o) :: entries => (target, o.calm) :: calmAll entries

end

theorem calmAll_eq_map (entries : List (Option EventKind × Observer ρ)) :
    calmAll entries = entries.map fun e => (e.1, e.2.calm) := by
  induction entries with
  | nil => rw [calmAll, List.map_nil]
  | cons e entries ih => rw [calmAll, ih, List.map_cons]

theorem calmAll_append (entries entries' : List (Option EventKind × Observer ρ)) :
    calmAll (entries ++ entries') = calmAll entries ++ calmAll entries' := by
  simp only [calmAll_eq_map, List.map_append]

theorem Observer.react_calm (o : Observer ρ) (scene : Scene) (event : Event) :
    o.calm.react scene event = (o.react scene event).calm := by
  cases o with
  | mk react => rw [calm, Observer.react, Observer.react]

namespace Reaction

theorem records_calm (r : Reaction ρ) : r.calm.records = r.records := by
  cases r with
  | mk => rw [calm, records, records]

theorem offers_calm (r : Reaction ρ) : r.calm.offers = r.offers := by
  cases r with
  | mk => rw [calm, offers, offers]

theorem registers_calm (r : Reaction ρ) : r.calm.registers = calmAll r.registers := by
  cases r with
  | mk => rw [calm, registers, registers]

theorem panic_calm (r : Reaction ρ) : r.calm.panic = none := by
  cases r with
  | mk => rw [calm, panic]

end Reaction

def Registry.calm (r : Registry ρ) : Registry ρ :=
  ⟨calmAll r.entries⟩

theorem Registry.registeredFor_calm (r : Registry ρ) (target : Option EventKind) :
    r.calm.registeredFor target = (r.registeredFor target).map Observer.calm := by
  rw [registeredFor, calm, calmAll_eq_map, List.filter_map, List.map_map, registeredFor, List.map_map]
  rfl

theorem Registry.observersOf_calm (r : Registry ρ) (kind : EventKind) :
    r.calm.observersOf kind = (r.observersOf kind).map Observer.calm := by
  rw [observersOf, registeredFor_calm, registeredFor_calm, observersOf, List.map_append]

def Call.calm (c : Call ρ) : Call ρ :=
  { c with observer := c.observer.calm }

namespace Dispatcher

/-- A dispatcher with the same observers that never panic, and none of the reports of their panics. -/
def calm (d : Dispatcher ρ) : Dispatcher ρ :=
  { d with
    registry := d.registry.calm
    reports := d.reports.filter (!·.isPanic) }

variable (state : ConnectionState)

theorem filter_reports_call (event : Event) (d : Dispatcher ρ) (o : Observer ρ) :
    (call state event d o).reports.filter (!·.isPanic) = d.reports.filter (!·.isPanic) := by
  rw [reports_call, List.filter_append]
  cases hreport : Call.report? ⟨o, d.scene state, event⟩ with
  | none => exact List.append_nil _
  | some r =>
    obtain ⟨p, -, rfl⟩ := Option.map_eq_some_iff.1 hreport
    exact List.append_nil _

theorem calm_call (event : Event) (d : Dispatcher ρ) (o : Observer ρ) :
    (call state event d o).calm = call state event d.calm o.calm := by
  have hreact : o.calm.react (d.calm.scene state) event = (o.react (d.scene state) event).calm :=
    o.react_calm (d.scene state) event
  rw [calm, filter_reports_call]
  simp only [call, hreact, Reaction.records_calm, Reaction.offers_calm, Reaction.registers_calm, Reaction.panic_calm]
  simp only [calm, Registry.calm, calmAll_append, List.append_nil]

theorem calm_foldl_call (event : Event) (os : List (Observer ρ)) (d : Dispatcher ρ) :
    (os.foldl (call state event) d).calm = (os.map Observer.calm).foldl (call state event) d.calm := by
  induction os generalizing d with
  | nil => rfl
  | cons o os ih => rw [List.foldl_cons, ih, calm_call, List.map_cons, List.foldl_cons]

theorem callsOf_calm (event : Event) (os : List (Observer ρ)) (d : Dispatcher ρ) :
    callsOf state event d.calm (os.map Observer.calm) = (callsOf state event d os).map Call.calm := by
  induction os generalizing d with
  | nil => rfl
  | cons o os ih =>
    rw [List.map_cons, callsOf, ← calm_call, ih, callsOf, List.map_cons]
    rfl

theorem calm_apply (d : Dispatcher ρ) (event : Event) : (d.apply event).1.calm = (d.calm.apply event).1 := by
  have habsorb : (d.cache.absorb event).reports.filter (!·.isPanic) = (d.cache.absorb event).reports :=
    List.filter_eq_self.2 fun r hr => by
      have hpanic := List.filter_eq_nil_iff.1 (filter_reports_absorb d.cache event) r hr
      rw [Bool.not_eq_true] at hpanic
      rw [hpanic, Bool.not_false]
  simp only [apply, calm, List.filter_append, habsorb]

theorem calm_dispatch (d : Dispatcher ρ) {e : Event} (h : e.kind ≠ .bulk) :
    (d.dispatch state e).calm = d.calm.dispatch state e := by
  rw [dispatch_of_ne state d h, dispatch_of_ne state d.calm h, notify, notify, calm_foldl_call, calm_apply]
  rw [← calm_apply, calm, Registry.observersOf_calm]

theorem calls_calm (d : Dispatcher ρ) {e : Event} (h : e.kind ≠ .bulk) :
    d.calm.calls state e = (d.calls state e).map Call.calm := by
  rw [calls_of_ne state d h, calls_of_ne state d.calm h, ← calm_apply, ← callsOf_calm, calm, Registry.observersOf_calm]

/-- **Panics change nothing but the reports**: neither what is called nor what comes of it. -/
theorem calm_run (d : Dispatcher ρ) {ls : List Arrival} (hls : ∀ l ∈ ls, l.event.kind ≠ .bulk) :
    (d.run ls).calm = d.calm.run ls ∧ d.calm.callsIn ls = (d.callsIn ls).map Call.calm := by
  induction ls generalizing d with
  | nil => exact ⟨rfl, rfl⟩
  | cons l ls ih =>
    obtain ⟨hl, hls⟩ := List.forall_mem_cons.1 hls
    obtain ⟨hrun, hcalls⟩ := ih (d.dispatch l.state l.event) hls
    rw [calm_dispatch l.state d hl] at hrun hcalls
    refine ⟨hrun, ?_⟩
    rw [callsIn, hcalls, calls_calm l.state d hl, callsIn, List.map_append]

end Dispatcher

/-! ## Whole runs -/

namespace Dispatcher

/-- **What comes of a leaf** that a dispatcher comes to after others.

The cache has taken in those leaves and this one and no further one; the observers registered are those from the start
and then those that earlier calls registered; and to these the leaf is shown. -/
structure ShowsLeaf (d : Dispatcher ρ) (pre : List Arrival) (leaf : Arrival) : Prop where
  cache : (d.taken pre leaf).cache = d.cache.absorbAll (pre ++ [leaf])
  registered : (d.taken pre leaf).registry.entries =
    d.registry.entries ++ (d.callsIn pre).flatMap (·.reaction.registers)
  told : Told leaf.state leaf.event (d.taken pre leaf) ((d.run pre).calls leaf.state leaf.event) (d.run (pre ++ [leaf]))

theorem showsLeaf (d : Dispatcher ρ) {pre : List Arrival} {leaf : Arrival} (hpre : ∀ l ∈ pre, l.event.kind ≠ .bulk)
    (hleaf : leaf.event.kind ≠ .bulk) : d.ShowsLeaf pre leaf where
  cache := by
    have htaken : (d.taken pre leaf).cache = ((d.run pre).cache.absorb leaf.event).cache := rfl
    rw [htaken, d.cache_run hpre, Cache.absorbAll_append]
    rfl
  registered := (d.accounts_run pre).entries
  told := by
    rw [run_append]
    exact (d.run pre).told_dispatch hleaf

/-- **What comes of events that a dispatcher handles one after the other.**

They are handled leaf by leaf, each as it is told of leaves, and the calls are those of the leaves in turn, which
account for all that was gained.  There is one report of a panic for each call that panicked, in the order of the
calls, and but for these reports nothing would be otherwise if no observer ever panicked. -/
structure ShowsInTurn (d : Dispatcher ρ) (as : List Arrival) : Prop where
  leaves : d.run as = d.run (as.flatMap Arrival.leaves) ∧ d.callsIn as = d.callsIn (as.flatMap Arrival.leaves)
  leaf (pre : List Arrival) (leaf : Arrival) (post : List Arrival) : as.flatMap Arrival.leaves = pre ++ leaf :: post →
    d.ShowsLeaf pre leaf ∧
      d.callsIn as = d.callsIn pre ++ (d.run pre).calls leaf.state leaf.event ++ (d.run (pre ++ [leaf])).callsIn post
  accounts : Accounts d (d.callsIn as) (d.run as)
  panics : (d.run as).reports.filter Diagnostic.isPanic =
    d.reports.filter Diagnostic.isPanic ++ (d.callsIn as).filterMap Call.report?
  calm : (d.run as).calm = d.calm.run as ∧ d.calm.callsIn as = (d.callsIn as).map Call.calm

theorem showsInTurn (d : Dispatcher ρ) (as : List Arrival) : d.ShowsInTurn as := by
  have hleaves : ∀ l ∈ as.flatMap Arrival.leaves, l.event.kind ≠ .bulk := fun l => Arrival.kind_of_mem_leaves
  refine ⟨⟨?_, ?_⟩, fun pre leaf post has => ⟨?_, ?_⟩, d.accounts_run as, ?_, ?_⟩
  · exact (d.run_flatMap_leaves as).symm
  · exact (d.callsIn_flatMap_leaves as).symm
  · rw [has, List.forall_mem_append, List.forall_mem_cons] at hleaves
    exact d.showsLeaf hleaves.1 hleaves.2.1
  · rw [← callsIn_flatMap_leaves, has, callsIn_append, run_append, callsIn, List.append_assoc]
    rfl
  · have hpanics := d.panics_run hleaves
    rwa [run_flatMap_leaves, callsIn_flatMap_leaves] at hpanics
  · have hcalm := d.calm_run hleaves
    rwa [run_flatMap_leaves, run_flatMap_leaves, callsIn_flatMap_leaves, callsIn_flatMap_leaves] at hcalm

/-- How a dispatcher shows events to its observers: one event at a time, and in a run of any length. -/
structure Notifies (d : Dispatcher ρ) : Prop where
  notify (state : ConnectionState) (event : Event) : Told state event d (told state d event) (notify state d event)
  run (as : List Arrival) : d.ShowsInTurn as

/-- **Every dispatcher calls its observers as they are registered**, whatever they do when they are called. -/
theorem notifies (d : Dispatcher ρ) : d.Notifies :=
  ⟨fun state => told_notify state d, d.showsInTurn⟩

/-- An observer that is registered while one event of a bulk is handled is called with the next one. -/
example (cache : Cache) :
    let second : Observer Nat := .mk fun _ _ => .mk [2] [] [] none
    let first : Observer Nat := .mk fun _ _ => .mk [1] [] [(some .authenticated, second)] (some .other)
    ((ofCache cache ⟨[(none, first)]⟩).dispatch .connected (.bulk [.authenticated, .authenticated])).records =
      [1, 2, 1] := by
  rfl

end Dispatcher

end ChatClient
