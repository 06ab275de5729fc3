import ChatClient.Proofs.Cache.Independence
import ChatClient.Proofs.Entity.Twice
/-!
# Roles ranked by a list

A list ranks each role of a server that it names by the last place of the role in it, and leaves all else as it is, in
the server and in the cache.  Where it names no role twice, the roles that it names stand in its own order when they
are sorted by rank (`Server.RanksByPlace.sorted`), whatever other ids are in between.
-/
namespace ChatClient

open Std (ExtTreeMap)

namespace Server

variable {s : Server} {ranks : List String} {roleId : String} {place : Nat} {role : Role}

def LastAt (ranks : List String) (roleId : String) (place : Nat) : Prop :=
  ∃ before after, ranks = before ++ roleId :: after ∧ roleId ∉ after ∧ before.length = place

/-- All places in a list are ranks, which are signed words.  No machine holds a longer list. -/
def Fits (ranks : List String) : Prop :=
  ranks.length ≤ 2 ^ 63

def RanksAre (s : Server) (r : Int64 → Int64 → Prop) (ids : List String) : Prop :=
  ids.Pairwise fun a b => ∀ x ∈ s.roles[a]?, ∀ y ∈ s.roles[b]?, r x.rank y.rank

theorem exists_lastAt (h : roleId ∈ ranks) : ∃ place, LastAt ranks roleId place := by
  obtain ⟨before, after, hranks, hafter⟩ := List.eq_append_cons_of_mem (List.mem_reverse.2 h)
  refine ⟨after.reverse.length, after.reverse, before.reverse, ?_, by simpa using hafter, rfl⟩
  have hreverse := congrArg List.reverse hranks
  simpa using hreverse

theorem lastAt_getElem (h : ranks.Nodup) {i : Nat} (hi : i < ranks.length) : LastAt ranks ranks[i] i := by
  have hsplit : ranks = ranks.take i ++ ranks[i] :: ranks.drop (i + 1) := by
    rw [List.getElem_cons_drop, List.take_append_drop]
  have hdistinct := h
  rw [hsplit, List.nodup_append, List.nodup_cons] at hdistinct
  exact ⟨_, _, hsplit, hdistinct.2.1.1, by simp [Nat.min_eq_left (Nat.le_of_lt hi)]⟩

theorem rankIn?_of_not_mem (h : roleId ∉ ranks) (next : Nat) : rankIn? roleId next ranks = none := by
  induction ranks generalizing next with
  | nil => rfl
  | cons id ranks ih =>
    rw [List.mem_cons, not_or] at h
    simp [rankIn?, ih h.2, Ne.symm h.1]

theorem rankIn?_append (before : List String) {after : List String} (h : roleId ∉ after) (next : Nat) :
    rankIn? roleId next (before ++ roleId :: after) = some (Int64.ofNat (next + before.length)) := by
  induction before generalizing next with
  | nil => simp [rankIn?, rankIn?_of_not_mem h]
  | cons id before ih =>
    have hplace : next + 1 + before.length = next + (id :: before).length := by
      rw [List.length_cons]
      omega
    rw [List.cons_append, rankIn?, ih (next + 1), hplace, Option.some_or]

theorem rank_of_lastAt (h : LastAt ranks roleId place) (hrole : s.roles[roleId]? = some role) :
    (s.setRoleRanks ranks).roles[roleId]? = some { role with rank := Int64.ofNat place } := by
  obtain ⟨before, after, rfl, hafter, rfl⟩ := h
  have hrank := rankIn?_append before hafter 0
  rw [Nat.zero_add] at hrank
  change (rankRoles s.roles 0 _)[roleId]? = _
  rw [getElem?_rankRoles, hrank, hrole]
  rfl

theorem rank_of_not_mem (h : roleId ∉ ranks) : (s.setRoleRanks ranks).roles[roleId]? = s.roles[roleId]? := by
  change (rankRoles s.roles 0 ranks)[roleId]? = _
  rw [getElem?_rankRoles, rankIn?_of_not_mem h]
  simp

theorem mem_setRoleRanks : roleId ∈ (s.setRoleRanks ranks).roles ↔ roleId ∈ s.roles := by
  change roleId ∈ rankRoles s.roles 0 ranks ↔ _
  rw [← ExtTreeMap.isSome_getElem?_iff_mem, ← ExtTreeMap.isSome_getElem?_iff_mem, getElem?_rankRoles, Option.isSome_map]

theorem LastAt.lt_length (h : LastAt ranks roleId place) : place < ranks.length := by
  obtain ⟨before, after, rfl, -, rfl⟩ := h
  simp

/-- A role that is listed has its last place as its rank, as a number. -/
theorem toInt_rank (hfits : Fits ranks) (h : LastAt ranks roleId place)
    (hrole : (s.setRoleRanks ranks).roles[roleId]? = some role) : role.rank.toInt = place := by
  have hmem : roleId ∈ s.roles := by
    rw [← @mem_setRoleRanks s ranks, ← ExtTreeMap.isSome_getElem?_iff_mem, hrole]
    rfl
  obtain ⟨old, hold⟩ := Option.isSome_iff_exists.1 (ExtTreeMap.isSome_getElem?_iff_mem.2 hmem)
  have hplace : place < 2 ^ 63 := Nat.lt_of_lt_of_le h.lt_length hfits
  rw [rank_of_lastAt h hold] at hrole
  rw [← Option.some.inj hrole]
  exact Int64.toInt_ofNat_of_lt hplace

theorem ranksAre_listed (hdistinct : ranks.Nodup) (hfits : Fits ranks) :
    (s.setRoleRanks ranks).RanksAre (· < ·) (ranks.filter (· ∈ s.roles)) := by
  refine List.Pairwise.filter _ (List.pairwise_iff_getElem.2 fun i j hi hj hij x hx y hy => ?_)
  have hxi := toInt_rank hfits (lastAt_getElem hdistinct hi) hx
  have hyj := toInt_rank hfits (lastAt_getElem hdistinct hj) hy
  have hlt : x.rank.toInt < y.rank.toInt := by
    rw [hxi, hyj]
    exact Int.ofNat_lt.2 hij
  exact Int64.lt_iff_toInt_lt.2 hlt

theorem eq_of_ranks_le {a b : String} (hdistinct : ranks.Nodup) (hfits : Fits ranks)
    (ha : a ∈ ranks.filter (· ∈ s.roles)) (hb : b ∈ ranks.filter (· ∈ s.roles))
    (hab : ∀ x ∈ (s.setRoleRanks ranks).roles[a]?, ∀ y ∈ (s.setRoleRanks ranks).roles[b]?, x.rank ≤ y.rank)
    (hba : ∀ x ∈ (s.setRoleRanks ranks).roles[b]?, ∀ y ∈ (s.setRoleRanks ranks).roles[a]?, x.rank ≤ y.rank) :
    a = b := by
  have hrole {id : String} (hid : id ∈ ranks.filter (· ∈ s.roles)) :
      id ∈ ranks ∧ ∃ role, (s.setRoleRanks ranks).roles[id]? = some role := by
    obtain ⟨hlisted, hknown⟩ := List.mem_filter.1 hid
    rw [decide_eq_true_eq, ← @mem_setRoleRanks s ranks, ← ExtTreeMap.isSome_getElem?_iff_mem] at hknown
    exact ⟨hlisted, Option.isSome_iff_exists.1 hknown⟩
  obtain ⟨halisted, x, hx⟩ := hrole ha
  obtain ⟨hblisted, y, hy⟩ := hrole hb
  obtain ⟨i, hi, rfl⟩ := List.getElem_of_mem halisted
  obtain ⟨j, hj, rfl⟩ := List.getElem_of_mem hblisted
  have hxi := toInt_rank hfits (lastAt_getElem hdistinct hi) hx
  have hyj := toInt_rank hfits (lastAt_getElem hdistinct hj) hy
  have hle := hab x hx y hy
  have hge := hba y hy x hx
  rw [Int64.le_iff_toInt_le, hxi, hyj] at hle
  rw [Int64.le_iff_toInt_le, hyj, hxi] at hge
  have hij : i = j := by omega
  subst hij
  rfl

theorem listed_perm (hdistinct : ranks.Nodup) :
    ((s.setRoleRanks ranks).roles.keys.filter (· ∈ ranks)).Perm (ranks.filter (· ∈ s.roles)) := by
  refine (List.perm_ext_iff_of_nodup (ExtTreeMap.nodup_keys.filter _) (hdistinct.filter _)).2 fun id => ?_
  simp only [List.mem_filter, decide_eq_true_eq, ExtTreeMap.mem_keys, mem_setRoleRanks]
  exact and_comm

/-- **A list ranks the roles of a server by their places in it.**  Nothing but the ranks of listed roles changes. -/
structure RanksByPlace (s : Server) (ranks : List String) : Prop where
  ids : ∀ roleId, roleId ∈ (s.setRoleRanks ranks).roles ↔ roleId ∈ s.roles
  unlisted : ∀ roleId, roleId ∉ ranks → (s.setRoleRanks ranks).roles[roleId]? = s.roles[roleId]?
  listed : ∀ roleId, roleId ∈ ranks → ∃ place, LastAt ranks roleId place ∧
    (s.setRoleRanks ranks).roles[roleId]? = s.roles[roleId]?.map fun role => { role with rank := Int64.ofNat place }
  number : Fits ranks → ∀ roleId place role, LastAt ranks roleId place →
    (s.setRoleRanks ranks).roles[roleId]? = some role →
    role.rank.toInt = place
  distinct : ranks.Nodup → Fits ranks → (s.setRoleRanks ranks).RanksAre (· < ·) (ranks.filter (· ∈ s.roles))
  sorted : ranks.Nodup → Fits ranks → ∀ ids, ids.Perm ((s.setRoleRanks ranks).roles.keys.filter (· ∈ ranks)) →
    (s.setRoleRanks ranks).RanksAre (· ≤ ·) ids → ids = ranks.filter (· ∈ s.roles)
  rest : { s.setRoleRanks ranks with roles := s.roles } = s

theorem ranksByPlace (s : Server) (ranks : List String) : s.RanksByPlace ranks where
  ids _ := mem_setRoleRanks
  unlisted _ h := rank_of_not_mem h
  listed roleId h := by
    obtain ⟨place, hlast⟩ := exists_lastAt h
    refine ⟨place, hlast, ?_⟩
    cases hrole : s.roles[roleId]? with
    | some role => exact rank_of_lastAt hlast hrole
    | none =>
      have hmem : roleId ∉ s.roles := fun hmem => by simp [ExtTreeMap.getElem?_eq_some_getElem hmem] at hrole
      exact ExtTreeMap.getElem?_eq_none (mt mem_setRoleRanks.1 hmem)
  number hfits _ _ _ hlast hrole := toInt_rank hfits hlast hrole
  distinct := ranksAre_listed
  sorted hdistinct hfits ids hperm hsorted := by
    have hsame := hperm.trans (listed_perm hdistinct)
    refine List.Perm.eq_of_pairwise (fun a b ha hb hab hba => ?_) hsorted
      ((ranksAre_listed hdistinct hfits).imp fun h x hx y hy => Int64.le_of_lt (h x hx y hy)) hsame
    exact eq_of_ranks_le hdistinct hfits (hsame.mem_iff.1 ha) hb hab hba
  rest := rfl

/-- A role that is listed twice has its second place, and one that the server does not have takes a place up. -/
example :
    let s : Server := { (default : Server) with roles := .ofList [("A", default), ("B", default)] }
    (s.setRoleRanks ["B", "ghost", "A", "B"]).roles.toList.map (fun r => (r.1, r.2.rank)) = [("A", 2), ("B", 3)] := by
  decide +kernel

end Server

namespace Cache

/-- **A list of ranks is for the roles of one server.**  The cache says whether it has taken it over; where it has
not, nothing changes, and otherwise nothing but the roles of that server. -/
structure RanksOnly (c : Cache) (serverId : String) (ranks : List String) : Prop where
  outcome : (c.setRoleRanks serverId ranks).2 =
    if c.tracking.servers then .ofFound (decide (serverId ∈ c.servers)) else .untracked
  unchanged : (c.setRoleRanks serverId ranks).2 ≠ .applied → (c.setRoleRanks serverId ranks).1 = c
  server : (c.setRoleRanks serverId ranks).2 = .applied →
    (c.setRoleRanks serverId ranks).1.servers[serverId]? = c.servers[serverId]?.map (·.setRoleRanks ranks)
  others : ∀ id, id ≠ serverId → (c.setRoleRanks serverId ranks).1.servers[id]? = c.servers[id]?
  rest : { (c.setRoleRanks serverId ranks).1 with servers := c.servers } = c

theorem ranksOnly (c : Cache) (serverId : String) (ranks : List String) : c.RanksOnly serverId ranks := by
  have hfst : (c.setRoleRanks serverId ranks).1 = _ := changeServer_fst c serverId (·.setRoleRanks ranks)
  have hsnd : (c.setRoleRanks serverId ranks).2 = _ := changeServer_snd c serverId (·.setRoleRanks ranks)
  refine ⟨hsnd, fun h => ?_, fun h => ?_, fun id hid => ?_, ?_⟩
  · by_cases htracked : c.tracking.servers = true
    · by_cases hmem : serverId ∈ c.servers
      · rw [hsnd, if_pos htracked] at h
        exact absurd (by simp [Outcome.ofFound, hmem]) h
      · rw [hfst, if_pos htracked, modify_of_not_mem hmem]
    · rw [hfst, if_neg htracked]
  · by_cases htracked : c.tracking.servers = true
    · rw [hfst]
      simp [htracked]
    · rw [hsnd, if_neg htracked] at h
      cases h
  · rw [hfst]
    by_cases htracked : c.tracking.servers = true
    · simp [htracked, ExtTreeMap.getElem?_modify, Ne.symm hid]
    · simp [htracked]
  · rw [hfst]

/-- **Ranking roles by a list** does what it says to the server that it is for, and nothing else to the cache. -/
theorem setRoleRanks_byPlace (c : Cache) (s : Server) (serverId : String) (ranks : List String) :
    s.RanksByPlace ranks ∧ c.RanksOnly serverId ranks :=
  ⟨s.ranksByPlace ranks, c.ranksOnly serverId ranks⟩

end Cache
end ChatClient
