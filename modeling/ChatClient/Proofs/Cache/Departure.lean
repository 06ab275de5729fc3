import ChatClient.Proofs.Cache.Listing
import ChatClient.Proofs.Cache.Outcome
/-!
# Servers that go

A server goes when it is removed or when the current user leaves it.  Where it is known the two come to the same
(`departures_agree`): with it go the channels on its list and its members, and nothing else changes.

The list is all that tells which channels go, and without the server there is no list, and its members are not looked
for either.  So something may be left of a server that has gone: its channels that it did not list, and if it was not
known, all its channels and members but the one who left (`forgets_departure_iff`).  Where servers are not kept, that
is so of each (`not_forgets_of_servers_untracked`), while a server that is known to a coherent cache leaves nothing
(`Coherent.clears`).
-/
namespace ChatClient
namespace Cache

/-! ## Known servers -/

/-- **A cache loses a server**, the channels on its list and its members, and nothing else. -/
structure Loses (c : Cache) (id : String) (s : Server) (c' : Cache) : Prop where
  servers : ∀ k, c'.server? k = if k = id then none else c.server? k
  channels : ∀ k, c'.channel? k = if k ∈ s.channels then none else c.channel? k
  members : ∀ k : MemberId, c'.members[k]? = if k.server = id then none else c.members[k]?
  users : c'.users = c.users
  emojis : c'.emojis = c.emojis
  webhooks : c'.webhooks = c.webhooks
  currentUser : c'.currentUser = c.currentUser
  tracking : c'.tracking = c.tracking

variable {c : Cache} {id : String} {s : Server}

theorem loses_withoutServer (h : c.server? id = some s) : c.Loses id s (c.withoutServer id) := by
  rw [withoutServer, h]
  refine ⟨fun k => ?_, fun k => getElem?_eraseMany k s.channels c.channels, fun k => ?_, rfl, rfl, rfl, rfl, rfl⟩
  · change (c.servers.erase id)[k]? = _
    rw [Std.ExtTreeMap.getElem?_erase]
    simp only [Std.LawfulEqCmp.compare_eq_iff_eq, eq_comm (a := id)]
    rfl
  · change (c.members.filter fun m _ => m.server != id)[k]? = _
    rw [Std.ExtTreeMap.getElem?_filter']
    by_cases hk : k.server = id <;> cases c.members[k]? <;> simp [hk]

theorem mem_servers_iff : id ∈ c.servers ↔ (c.server? id).isSome :=
  Std.ExtTreeMap.mem_iff_isSome_getElem?

theorem mem_servers_of_server? (h : c.server? id = some s) : id ∈ c.servers :=
  mem_servers_iff.2 (Option.isSome_of_eq_some h)

theorem removeServer_eq (htracked : c.tracking.servers = true) (h : c.server? id = some s) :
    c.removeServer id = (c.withoutServer id, .applied) := by
  rw [removeServer, htracked, decide_eq_true (mem_servers_of_server? h)]
  rfl

/-- The members have gone with the server, so that there is none to take out after it. -/
theorem removeMember_eq {u : User} (hself : c.currentUser = some u) (h : c.server? id = some s) :
    c.removeMember ⟨id, u.id⟩ = (c.withoutServer id, .applied) := by
  have hcurrent : c.isCurrentUser u.id = true := by simp [isCurrentUser, hself]
  have hgone : (⟨id, u.id⟩ : MemberId) ∉ (c.withoutServer id).members := by
    rw [Std.ExtTreeMap.mem_iff_isSome_getElem?, (loses_withoutServer h).members, if_pos rfl]
    exact Bool.false_ne_true
  unfold removeMember
  simp only [hcurrent, if_true, Bool.or_true, erase_of_not_mem hgone]
  split <;> rfl

/-- **A known server goes in the same way whether it is removed or the current user leaves it.** -/
theorem departures_agree (c : Cache) (id : String) (s : Server) (htracked : c.tracking.servers = true)
    (hserver : c.server? id = some s) :
    ∃ c', c.Loses id s c' ∧ c.perform (.removeServer id) = (c', .applied) ∧
      ∀ u, c.currentUser = some u → c.perform (.removeMember ⟨id, u.id⟩) = (c', .applied) :=
  ⟨c.withoutServer id, loses_withoutServer hserver, removeServer_eq htracked hserver,
    fun _ hself => removeMember_eq hself hserver⟩

/-- Two servers that share a member besides the current user.  The first lists a channel twice and another that is not
known. -/
def twoServers : Snapshot where
  users := [{ (default : User) with id := "v" }, { (default : User) with id := "u" }]
  servers := [{ (default : Server) with id := "s", channels := ["c", "e", "c"] },
    { (default : Server) with id := "t", channels := ["d"] }]
  channels := [{ (default : Channel) with id := "c", server := some "s" },
    { (default : Channel) with id := "d", server := some "t" }]
  members := [.ofId ⟨"s", "u"⟩, .ofId ⟨"s", "v"⟩, .ofId ⟨"t", "v"⟩]
  emojis := []

theorem departures_agree_twoServers :
    ∃ s, ((Cache.empty .standard).populate twoServers).server? "s" = some s ∧
      ∃ c', ((Cache.empty .standard).populate twoServers).Loses "s" s c' ∧ c'.currentUser.isSome ∧
        ((Cache.empty .standard).populate twoServers).perform (.removeServer "s") = (c', .applied) ∧
        ((Cache.empty .standard).populate twoServers).perform (.removeMember ⟨"s", "u"⟩) = (c', .applied) := by
  have hserver : ((Cache.empty .standard).populate twoServers).server? "s" =
      some { (default : Server) with id := "s", channels := ["c", "e", "c"] } := by decide +kernel
  have hself : ((Cache.empty .standard).populate twoServers).currentUser =
      some { (default : User) with id := "u" } := rfl
  obtain ⟨c', hloses, hremoved, hleft⟩ := departures_agree _ "s" _ rfl hserver
  exact ⟨_, hserver, c', hloses, by rw [hloses.currentUser, hself]; rfl, hremoved, hleft _ hself⟩

/-! ## Any servers -/

/-- **A server goes**: it is removed by a cache that keeps servers, or the current user leaves it. -/
def Departs (c : Cache) (id : String) : Operation → Prop
  | .removeServer k => k = id ∧ (c.removeServer id).2 ≠ .untracked
  | .removeMember member => member.server = id ∧ c.isCurrentUser member.user = true
  | _ => False

/-- **Nothing is left of a server**: it is not known, and neither is a member or a channel of it. -/
structure Forgets (c : Cache) (id : String) : Prop where
  server : c.server? id = none
  members : ∀ (k : MemberId) (m : Member), c.members[k]? = some m → m.id.server ≠ id
  channels : ∀ (k : String) (ch : Channel), c.channel? k = some ch → ch.server ≠ some id

/-- **A server leaves nothing when it goes**: it is known or has no members but the one who leaves it, and all
channels that name it are on its list. -/
structure Clears (c : Cache) (id : String) (op : Operation) : Prop where
  members : id ∈ c.servers ∨ ∀ (k : MemberId) (m : Member), c.members[k]? = some m → m.id.server = id →
    op = .removeMember k
  channels : ∀ (k : String) (ch : Channel), c.channel? k = some ch → ch.server = some id → c.Lists id k

variable {op : Operation}

theorem removeServer_fst_of_ne_untracked (h : (c.removeServer id).2 ≠ .untracked) :
    (c.removeServer id).1 = c.withoutServer id := by
  rw [removeServer_fst, if_pos]
  by_contra htracked
  exact h (by simp [removeServer, htracked])

/-- Whichever way a server goes, the cache is without it then. -/
theorem Departs.servers_channels (h : c.Departs id op) :
    (c.perform op).1.servers = (c.withoutServer id).servers ∧
      (c.perform op).1.channels = (c.withoutServer id).channels := by
  cases op with
  | removeServer k =>
    obtain ⟨rfl, htracked⟩ := h
    rw [perform, removeServer_fst_of_ne_untracked htracked]
    exact ⟨rfl, rfl⟩
  | removeMember member =>
    obtain ⟨rfl, hself⟩ := h
    rw [perform, removeMember_fst, afterLeaving, if_pos hself]
    exact ⟨rfl, rfl⟩
  | _ => exact h.elim

theorem Departs.members (hkept : c.WellKept) (h : c.Departs id op) (k : MemberId) (m : Member) :
    (c.perform op).1.members[k]? = some m ↔ (c.withoutServer id).members[k]? = some m ∧ op ≠ .removeMember k := by
  cases op with
  | removeServer k =>
    obtain ⟨rfl, htracked⟩ := h
    rw [perform, removeServer_fst_of_ne_untracked htracked]
    simp
  | removeMember member =>
    obtain ⟨rfl, hself⟩ := h
    rw [perform, removeMember_fst, afterLeaving, if_pos hself]
    dsimp only
    cases htracked : (c.withoutServer member.server).tracking.members with
    | true =>
      rw [if_pos rfl, Std.ExtTreeMap.getElem?_erase]
      by_cases hk : member = k <;> simp [hk]
    | false =>
      -- nobody is a member where members are not kept
      have hempty := (hkept.withoutServer member.server).members.eq_empty htracked
      simp [hempty]
  | _ => exact h.elim

/-- The members that are left are of another server, or the server was not known and they are not the one who left. -/
theorem Departs.forgets_members_iff (hkept : c.WellKept) (h : c.Departs id op) :
    (∀ (k : MemberId) (m : Member), (c.perform op).1.members[k]? = some m → m.id.server ≠ id) ↔
      id ∈ c.servers ∨ ∀ (k : MemberId) (m : Member), c.members[k]? = some m → m.id.server = id →
        op = .removeMember k := by
  simp only [h.members hkept]
  cases hserver : c.server? id with
  | none =>
    have hunknown : id ∉ c.servers := by simp [mem_servers_iff, hserver]
    rw [withoutServer_of_none hserver, or_iff_right hunknown]
    refine forall₂_congr fun k m => ⟨fun hleft hm hid => ?_, fun hleft hm hid => hm.2 (hleft hm.1 hid)⟩
    by_contra hop
    exact hleft ⟨hm, hop⟩ hid
  | some s =>
    have hknown : id ∈ c.servers := mem_servers_of_server? hserver
    refine iff_of_true (fun k m hm hid => ?_) (.inl hknown)
    have hkey : m.id = k := (hkept.withoutServer id).members.key_eq k m hm.1
    rw [(loses_withoutServer hserver).members, if_pos (hkey ▸ hid)] at hm
    cases hm.1

theorem channel?_withoutServer_eq_some_iff (c : Cache) (id k : String) (ch : Channel) :
    (c.withoutServer id).channel? k = some ch ↔ c.channel? k = some ch ∧ ¬ c.Lists id k := by
  cases hserver : c.server? id with
  | none =>
    have hlists : ¬ c.Lists id k := by
      rintro ⟨s, hs, -⟩
      cases hserver.symm.trans hs
    rw [withoutServer_of_none hserver, and_iff_left hlists]
  | some s =>
    have hlists : c.Lists id k ↔ k ∈ s.channels :=
      ⟨fun ⟨s', hs', hk⟩ => Option.some.inj (hserver.symm.trans hs') ▸ hk, fun hk => ⟨s, hserver, hk⟩⟩
    rw [(loses_withoutServer hserver).channels, hlists]
    split <;> simp [*]

theorem Departs.forgets_iff (hkept : c.WellKept) (h : c.Departs id op) :
    (c.perform op).1.Forgets id ↔ c.Clears id op := by
  have hserver : (c.perform op).1.server? id = none := by
    rw [server?, h.servers_channels.1]
    exact c.server?_withoutServer id
  have hchannels : (∀ (k : String) (ch : Channel), (c.perform op).1.channel? k = some ch → ch.server ≠ some id) ↔
      ∀ (k : String) (ch : Channel), c.channel? k = some ch → ch.server = some id → c.Lists id k := by
    refine forall₂_congr fun k ch => ?_
    have hleft : (c.perform op).1.channel? k = some ch ↔ c.channel? k = some ch ∧ ¬ c.Lists id k := by
      rw [channel?, h.servers_channels.2]
      exact c.channel?_withoutServer_eq_some_iff id k ch
    rw [hleft]
    tauto
  have hmembers := h.forgets_members_iff hkept
  constructor
  · rintro ⟨-, hm, hch⟩
    exact ⟨hmembers.1 hm, hchannels.1 hch⟩
  · rintro ⟨hm, hch⟩
    exact ⟨hserver, hmembers.2 hm, hchannels.2 hch⟩

theorem Coherent.clears (h : c.Coherent) (hkept : c.WellKept) (hknown : id ∈ c.servers) (op : Operation) :
    c.Clears id op := by
  refine ⟨.inl hknown, fun k ch hch hnames => ?_⟩
  obtain ⟨s, hserver⟩ := Option.isSome_iff_exists.1 (mem_servers_iff.1 hknown)
  have hid : s.id = id := hkept.servers.key_eq id s hserver
  have hkey : ch.id = k := hkept.channels.key_eq k ch hch
  exact ⟨s, hserver, hkey ▸ (h id s hserver k ch hch).2 (hid ▸ hnames)⟩

/-- **Nothing is left of a server that has gone, exactly if it was known or had no other members, and listed its
channels**, whatever operations the cache has been through since it was empty. -/
theorem forgets_departure_iff (tracking : Tracking) (ops : List Operation) (id : String) (op : Operation)
    (h : ((Cache.empty tracking).run ops).Departs id op) :
    (((Cache.empty tracking).run ops).perform op).1.Forgets id ↔ ((Cache.empty tracking).run ops).Clears id op :=
  h.forgets_iff ((WellKept.empty tracking).run ops)

theorem forgets_departure_twoServers :
    ((Cache.empty .standard).run [.populate twoServers]).Departs "s" (.removeMember ⟨"s", "u"⟩) ∧
      (((Cache.empty .standard).run [.populate twoServers]).perform (.removeMember ⟨"s", "u"⟩)).1.Forgets "s" := by
  have hdeparts : ((Cache.empty .standard).run [.populate twoServers]).Departs "s" (.removeMember ⟨"s", "u"⟩) :=
    ⟨rfl, rfl⟩
  have hcoherent : ((Cache.empty .standard).run [.populate twoServers]).Coherent := by decide +kernel
  have hkept := (WellKept.empty .standard).run [.populate twoServers]
  have hknown : "s" ∈ ((Cache.empty .standard).run [.populate twoServers]).servers := by decide +kernel
  exact ⟨hdeparts, (forgets_departure_iff .standard [.populate twoServers] "s" _ hdeparts).2
    (hcoherent.clears hkept hknown _)⟩

/-- A cache that does not keep servers keeps the members and channels of one that the current user has left. -/
theorem not_forgets_of_servers_untracked :
    ¬ ∀ (tracking : Tracking) (ops : List Operation) (id : String) (op : Operation),
      ((Cache.empty tracking).run ops).Departs id op → (((Cache.empty tracking).run ops).perform op).1.Forgets id := by
  intro h
  have hforgets := h { Tracking.standard with servers := false } [.populate twoServers] "s"
    (.removeMember ⟨"s", "u"⟩) ⟨rfl, rfl⟩
  exact hforgets.members ⟨"s", "v"⟩ (.ofId ⟨"s", "v"⟩) (by decide +kernel) rfl

end Cache
end ChatClient
