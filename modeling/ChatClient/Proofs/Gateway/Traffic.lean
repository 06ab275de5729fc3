import ChatClient.Gateway.Shared
import Mathlib.Data.List.Nodup
/-!
# Traffic in order

What callers and sockets see of a gateway is in order (`Orderly`) if each entry is allowed by those before it
(`Allowed`).  Then a socket gets the token and what its own outbox took in, oldest first; an outbox takes in the
messages of calls that found it in the slot and the pings of its own heartbeat; and each call is answered once at
most.
-/
namespace ChatClient

namespace Traffic

variable (session : Nat) (log : List Traffic)

/-! ## Reading a log -/

def written : List ClientMessage :=
  log.filterMap fun
    | .wrote k m => if k = session then some m else none
    | _ => none

def admitted : List ClientMessage :=
  log.filterMap fun
    | .accepted _ k m | .pinged k m => if k = session then some m else none
    | _ => none

def drawn : List ClientMessage :=
  log.filterMap fun
    | .drew k m => if k = session then some m else none
    | _ => none

def pings : List ClientMessage :=
  log.filterMap fun
    | .pinged k m => if k = session then some m else none
    | _ => none

def sessions : List Nat :=
  log.filterMap fun
    | .attached k => some k
    | _ => none

def calls : List Nat :=
  log.filterMap fun
    | .called n _ _ => some n
    | _ => none

def answered : List Nat :=
  log.filterMap fun
    | .accepted n _ _ | .refused n _ _ => some n
    | _ => none

def fill : Option Nat → Traffic → Option Nat
  | _, .attached k => some k
  | _, .detached => none
  | found, _ => found

/-- The session of the outbox that is in the slot in the end. -/
def slot : Option Nat :=
  log.foldl fill none

/-! ## Order -/

/-- **What can come next.**

- Sessions and calls are numbered in the order in which they begin; an outbox comes into the slot when it is empty and
  the token is written.
- A call finds what is in the slot.  Its message is accepted only by the last session, and if that was the one that it
  found; if it found none, it is answered by `notConnected`.
- The last heartbeat hands pings out, and they come into the outbox of their own session in that order.
- What is written to the socket of a session is the token and then what came into its outbox, each once and in that
  order. -/
def Allowed (token : String) (log : List Traffic) : Traffic → Prop
  | .attached k => k = (sessions log).length + 1 ∧ slot log = none ∧ written k log = [.authenticate token]
  | .detached => (slot log).isSome
  | .called n _ found => n = (calls log).length ∧ found = slot log
  | .accepted n k m => k = (sessions log).length ∧ .called n m (some k) ∈ log ∧ n ∉ answered log
  | .refused n m e => ∃ found, .called n m found ∈ log ∧ n ∉ answered log ∧ (found = none → e = .notConnected)
  | .drew k _ => k = (sessions log).length
  | .pinged k m => pings k log ++ [m] <+: drawn k log
  | .wrote k m => written k log ++ [m] <+: .authenticate token :: admitted k log

/-- **Traffic in order**: each entry is allowed by those before it. -/
inductive Orderly (token : String) : List Traffic → Prop where
  | nil : Orderly token []
  | snoc {log : List Traffic} {entry : Traffic} : Orderly token log → Allowed token log entry →
      Orderly token (log ++ [entry])

variable (k : Nat) (log' : List Traffic)

theorem written_append : written k (log ++ log') = written k log ++ written k log' := List.filterMap_append

theorem admitted_append : admitted k (log ++ log') = admitted k log ++ admitted k log' := List.filterMap_append

theorem drawn_append : drawn k (log ++ log') = drawn k log ++ drawn k log' := List.filterMap_append

theorem pings_append : pings k (log ++ log') = pings k log ++ pings k log' := List.filterMap_append

theorem sessions_append : sessions (log ++ log') = sessions log ++ sessions log' := List.filterMap_append

theorem calls_append : calls (log ++ log') = calls log ++ calls log' := List.filterMap_append

theorem answered_append : answered (log ++ log') = answered log ++ answered log' := List.filterMap_append

theorem slot_append : slot (log ++ log') = log'.foldl fill (slot log) := List.foldl_append

variable {log} {token : String}

theorem Orderly.pair {first second : Traffic} (h : Orderly token log) (hfirst : Allowed token log first)
    (hsecond : Allowed token (log ++ [first]) second) : Orderly token (log ++ [first, second]) := by
  rw [List.append_cons]
  exact (h.snoc hfirst).snoc hsecond

/-! ## What order says of whole logs -/

theorem Orderly.front (h : Orderly token log) {pre post : List Traffic} (hlog : log = pre ++ post) :
    Orderly token pre := by
  induction h generalizing post with
  | nil =>
    obtain ⟨rfl, -⟩ := List.append_eq_nil_iff.1 hlog.symm
    exact .nil
  | snoc hbefore hlast ih =>
    rcases List.eq_nil_or_concat post with rfl | ⟨post, x, rfl⟩
    · rw [List.append_nil] at hlog
      exact hlog ▸ hbefore.snoc hlast
    · rw [List.concat_eq_append, ← List.append_assoc] at hlog
      exact ih (List.append_inj' hlog rfl).1

theorem Orderly.allowed (h : Orderly token log) {pre post : List Traffic} {entry : Traffic}
    (hlog : log = pre ++ entry :: post) : Allowed token pre entry := by
  rw [List.append_cons] at hlog
  generalize hfront : pre ++ [entry] = front at hlog
  cases h.front hlog with
  | nil => exact absurd hfront (by simp)
  | snoc _ hlast =>
    obtain ⟨rfl, heq⟩ := List.append_inj' hfront rfl
    cases heq
    exact hlast

/-- What is allowed only if it follows something else does so in the whole log. -/
theorem Orderly.follows {f g : Traffic → Option ClientMessage} (h : Orderly token log) (start : List ClientMessage)
    (hf : ∀ log entry m, Allowed token log entry → f entry = some m →
      log.filterMap f ++ [m] <+: start ++ log.filterMap g) :
    log.filterMap f <+: start ++ log.filterMap g := by
  induction h with
  | nil => exact List.nil_prefix
  | @snoc log entry _ hentry ih =>
    rw [List.filterMap_append, List.filterMap_append, ← List.append_assoc]
    refine List.IsPrefix.trans ?_ (List.prefix_append _ _)
    cases hm : f entry with
    | none =>
      rw [List.filterMap_cons_none hm, List.filterMap_nil, List.append_nil]
      exact ih
    | some m =>
      rw [List.filterMap_cons_some hm, List.filterMap_nil]
      exact hf log entry m hentry hm

/-- **A socket gets the token and what came into its own outbox**, each once and in that order. -/
theorem Orderly.written_prefix (h : Orderly token log) (k : Nat) :
    written k log <+: .authenticate token :: admitted k log := by
  refine h.follows [.authenticate token] fun log entry m hentry hm => ?_
  cases entry with
  | wrote j m' =>
    dsimp only at hm
    split at hm
    · rename_i hj
      cases hm
      exact hj ▸ hentry
    · cases hm
  | _ => cases hm

/-- A heartbeat's pings come into the outbox of its own session, each once and in the order in which they were handed
out. -/
theorem Orderly.pings_prefix (h : Orderly token log) (k : Nat) : pings k log <+: drawn k log := by
  refine h.follows [] fun log entry m hentry hm => ?_
  cases entry with
  | pinged j m' =>
    dsimp only at hm
    split at hm
    · rename_i hj
      cases hm
      exact hj ▸ hentry
    · cases hm
  | _ => cases hm

theorem Orderly.nodup_answered (h : Orderly token log) : (answered log).Nodup := by
  induction h with
  | nil => exact List.nodup_nil
  | @snoc log entry _ hentry ih =>
    have hanswer : ∀ n, n ∉ answered log → (answered log ++ [n]).Nodup := fun n hn => by
      rw [List.nodup_append_comm]
      exact List.nodup_cons.2 ⟨hn, ih⟩
    rw [answered_append]
    cases entry with
    | accepted n k m => exact hanswer n hentry.2.2
    | refused n m e =>
      obtain ⟨_, _, hn, _⟩ := hentry
      exact hanswer n hn
    | _ =>
      rw [show answered [_] = [] from rfl, List.append_nil]
      exact ih

theorem mem_answered_of_accepted {n k : Nat} {m : ClientMessage} (h : .accepted n k m ∈ log) : n ∈ answered log :=
  List.mem_filterMap.2 ⟨_, h, rfl⟩

theorem mem_answered_of_refused {n : Nat} {m : ClientMessage} {e : GatewayError} (h : .refused n m e ∈ log) :
    n ∈ answered log :=
  List.mem_filterMap.2 ⟨_, h, rfl⟩

theorem Orderly.refused (h : Orderly token log) {n k : Nat} {m m' : ClientMessage} {e : GatewayError}
    (hrefused : .refused n m e ∈ log) : .accepted n k m' ∉ log := by
  induction h with
  | nil => cases hrefused
  | @snoc log entry _ hentry ih =>
    intro haccepted
    rcases List.mem_append.1 hrefused with hbefore | hlast
    · rcases List.mem_append.1 haccepted with haccepted | haccepted
      · exact ih hbefore haccepted
      · cases List.mem_singleton.1 haccepted
        exact hentry.2.2 (mem_answered_of_refused hbefore)
    · cases List.mem_singleton.1 hlast
      obtain ⟨_, _, hopen, _⟩ := hentry
      rcases List.mem_append.1 haccepted with haccepted | haccepted
      · exact hopen (mem_answered_of_accepted haccepted)
      · cases List.mem_singleton.1 haccepted

theorem Orderly.first (h : Orderly token log) {k : Nat} (hk : k ∈ sessions log) :
    ∃ more, written k log = .authenticate token :: more := by
  induction h with
  | nil => cases hk
  | @snoc log entry _ hentry ih =>
    rw [sessions_append, List.mem_append] at hk
    rw [written_append]
    rcases hk with hk | hk
    · obtain ⟨more, hmore⟩ := ih hk
      exact ⟨_, by rw [hmore, List.cons_append]⟩
    · obtain ⟨_, hentry', hbegun⟩ := List.mem_filterMap.1 hk
      cases List.mem_singleton.1 hentry'
      cases entry with
      | attached j =>
        cases hbegun
        exact ⟨_, by rw [hentry.2.2, List.cons_append]⟩
      | _ => cases hbegun

theorem Orderly.slot_eq_some (h : Orderly token log) {k : Nat} (hk : slot log = some k) :
    (sessions log).length = k := by
  induction h generalizing k with
  | nil => cases hk
  | @snoc log entry _ hentry ih =>
    rw [slot_append] at hk
    rw [sessions_append]
    cases entry with
    | attached j =>
      cases hk
      rw [List.length_append, hentry.1]
      rfl
    | detached => cases hk
    | _ =>
      rw [show sessions [_] = [] from rfl, List.append_nil]
      exact ih hk

theorem foldl_fill_of_still {found : Option Nat} (hsessions : sessions log = []) (hdetached : .detached ∉ log) :
    log.foldl fill found = found := by
  induction log generalizing found with
  | nil => rfl
  | cons entry log ih =>
    rw [List.mem_cons, not_or] at hdetached
    have hfill : fill found entry = found := by
      cases entry with
      | attached k => cases hsessions
      | detached => exact absurd rfl hdetached.1
      | _ => rfl
    have hrest : sessions log = [] := by
      have hsplit := sessions_append [entry] log
      rw [List.singleton_append, hsessions] at hsplit
      exact (List.append_eq_nil_iff.1 hsplit.symm).2
    rw [List.foldl_cons, hfill]
    exact ih hrest hdetached.2

/-- **What is accepted was found in the slot**: its call began when the outbox of that session was there, no session
has begun since, and the outbox is still there unless the session ended during the call. -/
theorem Orderly.accepted (h : Orderly token log) {n k : Nat} {m : ClientMessage} (hmem : .accepted n k m ∈ log) :
    ∃ pre between post, log = pre ++ .called n m (some k) :: (between ++ .accepted n k m :: post) ∧
      slot pre = some k ∧
      sessions between = [] ∧ (.detached ∉ between → slot (pre ++ .called n m (some k) :: between) = some k) := by
  obtain ⟨before, post, hlog⟩ := List.append_of_mem hmem
  obtain ⟨hk, hcalled, -⟩ := h.allowed hlog
  obtain ⟨pre, between, rfl⟩ := List.append_of_mem hcalled
  rw [List.append_assoc, List.cons_append] at hlog
  have hslot : slot pre = some k := (h.allowed hlog).2.symm
  have hnone : sessions between = [] := by
    -- as many sessions have begun when the message is accepted as when its call began
    have hpre := (h.front hlog).slot_eq_some hslot
    rw [sessions_append, List.length_append, hpre] at hk
    exact List.eq_nil_of_length_eq_zero (Nat.left_eq_add.1 hk)
  refine ⟨pre, between, post, hlog, hslot, hnone, fun hdetached => ?_⟩
  rw [slot_append, List.foldl_cons, hslot]
  exact foldl_fill_of_still hnone hdetached

end Traffic

end ChatClient
