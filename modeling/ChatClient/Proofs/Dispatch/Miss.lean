import ChatClient.Proofs.Dispatch.Notify
/-!
# Events that miss their target

What an event asks of the cache is told by its kind and by what it carries (`Event.Asks`): one operation, and the
entity that has to be found for it, if any has.  Applying an event does what it asks and hands the outcome on; a
target that was missed is named in one report, and nothing else is reported (`Dispatcher.Applies`).  Handling events
therefore reports the targets that they miss one after the other (`Cache.Misses`), over a run of any length.
-/
namespace ChatClient

/-! ## What events ask of the cache -/

/-- **What an event asks of the cache**: what is done to it, and the entity that has to be found for it.

What is brought along is put in, or the whole cache is replaced, and nothing has to be found.  Everything else is done
to an entity that has to be known, and a role is named without its server.  Events of the kinds without a rule ask
nothing. -/
inductive Event.Asks : Event → (Cache → Cache × Outcome) → Option Designation → Prop where
  | ready (s : Snapshot) : Asks (.ready s) (fun c => (c.populate s, .applied)) none
  | channelCreate (ch : Channel) : Asks (.channelCreate ch) (·.insertChannel ch) none
  | channelUpdate (u : ChannelUpdate) :
      Asks (.channelUpdate u) (·.updateChannel u.id u.data u.clear) (some ⟨"channel", u.id⟩)
  | channelDelete (d : Deletion) : Asks (.channelDelete d) (·.removeChannel d.id) (some ⟨"channel", d.id⟩)
  | channelGroupJoin (p : Participation) :
      Asks (.channelGroupJoin p) (·.addRecipient p.id p.user) (some ⟨"channel", p.id⟩)
  | channelGroupLeave (p : Participation) :
      Asks (.channelGroupLeave p) (·.removeRecipient p.id p.user) (some ⟨"channel", p.id⟩)
  | serverCreate (s : ServerCreate) : Asks (.serverCreate s) (·.insertServer s.server s.channels s.emojis) none
  | serverUpdate (u : ServerUpdate) :
      Asks (.serverUpdate u) (·.updateServer u.id u.data u.clear) (some ⟨"server", u.id⟩)
  | serverDelete (d : Deletion) : Asks (.serverDelete d) (·.removeServer d.id) (some ⟨"server", d.id⟩)
  | serverMemberUpdate (u : MemberUpdate) :
      Asks (.serverMemberUpdate u) (·.updateMember u.id u.data u.clear)
        (some ⟨"member", u.id.server ++ ":" ++ u.id.user⟩)
  | serverMemberJoin (p : Participation) : Asks (.serverMemberJoin p) (·.insertMember ⟨p.id, p.user⟩) none
  | serverMemberLeave (p : Participation) :
      Asks (.serverMemberLeave p) (·.removeMember ⟨p.id, p.user⟩) (some ⟨"member", p.id ++ ":" ++ p.user⟩)
  | serverRoleUpdate (u : RoleUpdate) :
      Asks (.serverRoleUpdate u) (·.updateRole u.id.server u.id.role u.data u.clear) (some ⟨"role", u.id.role⟩)
  | serverRoleDelete (d : RoleDelete) :
      Asks (.serverRoleDelete d) (·.removeRole d.id d.roleId) (some ⟨"role", d.roleId⟩)
  | serverRoleRanksUpdate (r : RoleRanks) :
      Asks (.serverRoleRanksUpdate r) (·.setRoleRanks r.id r.ranks) (some ⟨"server", r.id⟩)
  | userUpdate (u : UserUpdate) : Asks (.userUpdate u) (·.updateUser u.id u.data u.clear) (some ⟨"user", u.id⟩)
  | userPlatformWipe (w : UserPlatformWipe) :
      Asks (.userPlatformWipe w) (·.removeUser w.userId) (some ⟨"user", w.userId⟩)
  | emojiCreate (e : Emoji) : Asks (.emojiCreate e) (·.insertEmoji e) none
  | emojiDelete (d : Deletion) : Asks (.emojiDelete d) (·.removeEmoji d.id) (some ⟨"emoji", d.id⟩)
  | webhookCreate (w : Webhook) : Asks (.webhookCreate w) (·.insertWebhook w) none
  | webhookUpdate (u : WebhookUpdate) :
      Asks (.webhookUpdate u) (·.updateWebhook u.id u.data u.clear) (some ⟨"webhook", u.id⟩)
  | webhookDelete (d : Deletion) : Asks (.webhookDelete d) (·.removeWebhook d.id) (some ⟨"webhook", d.id⟩)

namespace Event

variable {e : Event} {operation operation' : Cache → Cache × Outcome} {target? target?' : Option Designation}

theorem Asks.unique (h : e.Asks operation target?) (h' : e.Asks operation' target?') :
    operation = operation' ∧ target? = target?' := by
  cases h <;> cases h' <;> exact ⟨rfl, rfl⟩

/-- **The kind of an event tells whether it asks anything.** -/
theorem Asks.mutatesCache (h : e.Asks operation target?) : e.kind.mutatesCache = true := by
  cases h <;> rfl

theorem asks_of_effect? {effect : Effect} (h : e.effect? = some effect) :
    e.Asks (·.perform effect.operation) effect.target? := by
  cases e <;> first | (cases h; constructor) | cases h

theorem effect?_eq_none_iff : e.effect? = none ↔ e.kind.mutatesCache = false := by
  cases e <;> simp [effect?, kind, EventKind.mutatesCache]

theorem Asks.exists_effect (h : e.Asks operation target?) :
    ∃ effect, e.effect? = some effect ∧ operation = (·.perform effect.operation) ∧ target? = effect.target? := by
  cases heffect : e.effect? with
  | none =>
    have hstill := effect?_eq_none_iff.1 heffect
    rw [h.mutatesCache] at hstill
    cases hstill
  | some effect => exact ⟨effect, rfl, h.unique (asks_of_effect? heffect)⟩

theorem exists_asks (h : e.kind.mutatesCache = true) : ∃ operation target?, e.Asks operation target? := by
  cases heffect : e.effect? with
  | none =>
    rw [effect?_eq_none_iff.1 heffect] at h
    cases h
  | some effect => exact ⟨_, _, asks_of_effect? heffect⟩

end Event

/-! ## What can be missed -/

theorem Cache.brought_ne_unknownTarget (tracked : Bool) (c c' : Cache) :
    (if !tracked then (c, Outcome.untracked) else (c', .applied)).2 ≠ .unknownTarget := by
  cases tracked <;> nofun

/-- **Where nothing has to be found, nothing is missed**, so that the outcome needs no second look. -/
theorem Event.Asks.ne_unknownTarget {e : Event} {operation : Cache → Cache × Outcome} (h : e.Asks operation none)
    (c : Cache) : (operation c).2 ≠ .unknownTarget := by
  cases h with
  | ready s => exact nofun
  | channelCreate ch => exact Cache.brought_ne_unknownTarget c.tracking.channels c _
  | serverCreate s => exact Cache.brought_ne_unknownTarget c.tracking.servers c _
  | serverMemberJoin p => exact Cache.brought_ne_unknownTarget c.tracking.members c _
  | emojiCreate e => exact Cache.brought_ne_unknownTarget c.tracking.emojis c _
  | webhookCreate w => exact Cache.brought_ne_unknownTarget c.tracking.webhooks c _

def Designation.missed (target : Designation) : Diagnostic :=
  .unknownTarget target.entity target.id

def Diagnostic.isMiss : Diagnostic → Bool
  | .unknownTarget .. => true
  | _ => false

/-! ## What the cache makes of an event -/

namespace Cache

variable {c : Cache} {e : Event} {operation : Cache → Cache × Outcome} {target? : Option Designation}

theorem absorb_of_still (h : e.kind.mutatesCache = false) : c.absorb e = ⟨c, none, []⟩ := by
  unfold absorb
  rw [Event.effect?_eq_none_iff.2 h]

theorem absorb_of_asks (h : e.Asks operation target?) :
    (c.absorb e).cache = (operation c).1 ∧ (c.absorb e).outcome = some (operation c).2 := by
  obtain ⟨effect, heffect, rfl, -⟩ := h.exists_effect
  unfold absorb
  rw [heffect]
  exact ⟨rfl, rfl⟩

theorem reports_absorb_of_missed {target : Designation} (h : e.Asks operation (some target))
    (hmissed : (operation c).2 = .unknownTarget) : (c.absorb e).reports = [target.missed] := by
  obtain ⟨effect, heffect, rfl, htarget⟩ := h.exists_effect
  unfold absorb
  rw [heffect]
  dsimp only [Effect.reports]
  rw [hmissed, ← htarget]
  rfl

theorem reports_absorb_of_found (h : e.Asks operation target?) (hfound : (operation c).2 ≠ .unknownTarget) :
    (c.absorb e).reports = [] := by
  obtain ⟨effect, heffect, rfl, -⟩ := h.exists_effect
  unfold absorb
  rw [heffect]
  dsimp only [Effect.reports]
  cases houtcome : (c.perform effect.operation).2 with
  | unknownTarget => exact absurd houtcome hfound
  | applied | untracked => rfl

/-- **The targets that events miss**, taken into a cache one after the other. -/
inductive Misses : Cache → List Event → List Designation → Prop where
  | nil {c : Cache} : Misses c [] []
  | still {c : Cache} {e : Event} {es : List Event} {targets : List Designation} (h : e.kind.mutatesCache = false)
      (hrest : Misses c es targets) : Misses c (e :: es) targets
  | found {c : Cache} {e : Event} {es : List Event} {targets : List Designation} {operation : Cache → Cache × Outcome}
      {target? : Option Designation} (h : e.Asks operation target?) (hfound : (operation c).2 ≠ .unknownTarget)
      (hrest : Misses (operation c).1 es targets) : Misses c (e :: es) targets
  | missed {c : Cache} {e : Event} {es : List Event} {targets : List Designation}
      {operation : Cache → Cache × Outcome} {target : Designation} (h : e.Asks operation (some target))
      (hmissed : (operation c).2 = .unknownTarget) (hrest : Misses (operation c).1 es targets) :
      Misses c (e :: es) (target :: targets)

/-- One event more in front: its reports are those of its miss. -/
theorem Misses.cons {es : List Event} {targets : List Designation} (hrest : Misses (c.absorb e).cache es targets) :
    ∃ front, (c.absorb e).reports = front.map Designation.missed ∧ Misses c (e :: es) (front ++ targets) := by
  by_cases hkind : e.kind.mutatesCache = true
  · obtain ⟨operation, target?, hasks⟩ := Event.exists_asks hkind
    rw [(absorb_of_asks hasks).1] at hrest
    by_cases hmissed : (operation c).2 = .unknownTarget
    · cases target? with
      | none => exact absurd hmissed (hasks.ne_unknownTarget c)
      | some target => exact ⟨[target], reports_absorb_of_missed hasks hmissed, .missed hasks hmissed hrest⟩
    · exact ⟨[], reports_absorb_of_found hasks hmissed, .found hasks hmissed hrest⟩
  · have hstill := Bool.not_eq_true _ ▸ hkind
    rw [absorb_of_still hstill] at hrest ⊢
    exact ⟨[], rfl, .still hstill hrest⟩

end Cache

/-! ## Runs -/

namespace Dispatcher

variable {ρ : Type}

theorem filter_missed (targets : List Designation) :
    (targets.map Designation.missed).filter Diagnostic.isMiss = targets.map Designation.missed := by
  refine List.filter_eq_self.2 fun r hr => ?_
  obtain ⟨target, -, rfl⟩ := List.mem_map.1 hr
  rfl

theorem filter_reports_calls (cs : List (Call ρ)) : (cs.filterMap Call.report?).filter Diagnostic.isMiss = [] := by
  refine List.filter_eq_nil_iff.2 fun r hr => ?_
  obtain ⟨c, -, hc⟩ := List.mem_filterMap.1 hr
  obtain ⟨p, -, rfl⟩ := Option.map_eq_some_iff.1 hc
  exact Bool.false_ne_true

theorem exists_misses (d : Dispatcher ρ) {ls : List Arrival} (hls : ∀ l ∈ ls, l.event.kind ≠ .bulk) :
    ∃ targets, d.cache.Misses (ls.map Arrival.event) targets ∧
      (d.run ls).reports.filter Diagnostic.isMiss =
        d.reports.filter Diagnostic.isMiss ++ targets.map Designation.missed := by
  induction ls generalizing d with
  | nil => exact ⟨[], .nil, (List.append_nil _).symm⟩
  | cons l ls ih =>
    obtain ⟨hl, hls⟩ := List.forall_mem_cons.1 hls
    obtain ⟨targets, htargets, hrun⟩ := ih (d.dispatch l.state l.event) hls
    rw [d.cache_dispatch hl] at htargets
    obtain ⟨front, hfront, hmisses⟩ := htargets.cons
    -- observers are shown the event afterwards and add no miss
    have hdispatch : (d.dispatch l.state l.event).reports.filter Diagnostic.isMiss =
        d.reports.filter Diagnostic.isMiss ++ front.map Designation.missed := by
      rw [(d.told_dispatch hl).reports, List.filter_append, filter_reports_calls, List.append_nil, apply,
        List.filter_append, hfront, filter_missed]
    refine ⟨front ++ targets, hmisses, hrun.trans ?_⟩
    rw [hdispatch, List.map_append, List.append_assoc]

/-! ## One event -/

/-- **What applying an event comes to.**

If the kind of the event does not change the cache, there is no outcome and nothing is otherwise than before.  If it
does, the one thing that the event asks is done to the cache and the outcome handed on.  A target that was missed is
named in one report, nothing is reported of any other outcome, and nothing but the cache and the reports is touched. -/
structure Applies (d : Dispatcher ρ) (e : Event) : Prop where
  none_iff : (d.apply e).2 = none ↔ e.kind.mutatesCache = false
  untouched : e.kind.mutatesCache = false → (d.apply e).1 = d
  asked : e.kind.mutatesCache = true → ∃ operation target?, e.Asks operation target? ∧
    ∀ operation' target?', e.Asks operation' target?' → operation' = operation ∧ target?' = target?
  performs : ∀ operation target?, e.Asks operation target? →
    (d.apply e).2 = some (operation d.cache).2 ∧ (d.apply e).1.cache = (operation d.cache).1
  missed : ∀ operation target?, e.Asks operation target? → (operation d.cache).2 = .unknownTarget →
    ∃ target, target? = some target ∧ (d.apply e).1.reports = d.reports ++ [.unknownTarget target.entity target.id]
  silent : (d.apply e).2 ≠ some .unknownTarget → (d.apply e).1.reports = d.reports
  kept : (d.apply e).1 = { d with cache := (d.apply e).1.cache, reports := (d.apply e).1.reports }

theorem apply_of_still {d : Dispatcher ρ} {e : Event} (h : e.kind.mutatesCache = false) : d.apply e = (d, none) := by
  unfold apply
  rw [Cache.absorb_of_still h]
  exact congrArg (fun reports => ({ d with reports }, none)) (List.append_nil d.reports)

theorem apply_of_asks {d : Dispatcher ρ} {e : Event} {operation : Cache → Cache × Outcome}
    {target? : Option Designation} (h : e.Asks operation target?) :
    (d.apply e).2 = some (operation d.cache).2 ∧ (d.apply e).1.cache = (operation d.cache).1 :=
  ⟨(Cache.absorb_of_asks h).2, (Cache.absorb_of_asks h).1⟩

theorem applies (d : Dispatcher ρ) (e : Event) : d.Applies e where
  none_iff := by
    refine ⟨fun hnone => ?_, fun hstill => congrArg Prod.snd (apply_of_still hstill)⟩
    by_contra hkind
    obtain ⟨operation, target?, hasks⟩ := Event.exists_asks (Bool.not_eq_false _ ▸ hkind)
    rw [(apply_of_asks hasks).1] at hnone
    cases hnone
  untouched hstill := congrArg Prod.fst (apply_of_still hstill)
  asked hkind := by
    obtain ⟨operation, target?, hasks⟩ := Event.exists_asks hkind
    exact ⟨operation, target?, hasks, fun _ _ hasks' => hasks'.unique hasks⟩
  performs _ _ := apply_of_asks
  missed operation target? hasks hmissed := by
    cases target? with
    | none => exact absurd hmissed (hasks.ne_unknownTarget d.cache)
    | some target => exact ⟨target, rfl, congrArg (d.reports ++ ·) (Cache.reports_absorb_of_missed hasks hmissed)⟩
  silent hfound := by
    have hreports : (d.cache.absorb e).reports = [] := by
      by_cases hkind : e.kind.mutatesCache = true
      · obtain ⟨operation, target?, hasks⟩ := Event.exists_asks hkind
        rw [(apply_of_asks hasks).1] at hfound
        exact Cache.reports_absorb_of_found hasks fun hmissed => hfound (congrArg some hmissed)
      · rw [Cache.absorb_of_still (Bool.not_eq_true _ ▸ hkind)]
    rw [apply, hreports, List.append_nil]
  kept := rfl

/-- **Each miss is reported once.**  Applying any event in any state is told by `Applies`; and events handled one
after the other, bulks and observers among them, report the targets that their leaves miss, in this order and no
others. -/
theorem reports_each_miss (d : Dispatcher ρ) :
    (∀ e, d.Applies e) ∧ ∀ as : List Arrival,
      ∃ targets, d.cache.Misses ((as.flatMap Arrival.leaves).map Arrival.event) targets ∧
        (d.run as).reports.filter Diagnostic.isMiss =
          d.reports.filter Diagnostic.isMiss ++ targets.map Designation.missed := by
  refine ⟨d.applies, fun as => ?_⟩
  rw [← run_flatMap_leaves]
  exact d.exists_misses fun l => Arrival.kind_of_mem_leaves

end Dispatcher

end ChatClient
