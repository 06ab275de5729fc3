import ChatClient.Proofs.Cache.Resync
/-!
# Lists of channels and the channels on them

Which channels belong to a server is told twice: by the list of the server, and by each channel, which names its
server.  A cache is coherent when the two tell the same.  Operations that give no new lists or channels keep it so
(`Coherent.of_le`), the others do if what they bring fits (`Fits`), and then so does every run (`coherent_run`).
-/
namespace ChatClient

/-! ## Lists of one server -/

theorem Server.mem_addChannel {s : Server} {channelId id : String} :
    id ∈ (s.addChannel channelId).channels ↔ id ∈ s.channels ∨ id = channelId := by
  unfold Server.addChannel
  split
  · rename_i hlisted
    constructor
    · exact .inl
    · rintro (h | rfl)
      · exact h
      · exact hlisted
  · simp

theorem Server.mem_removeChannel {s : Server} {channelId id : String} :
    id ∈ (s.removeChannel channelId).channels ↔ id ∈ s.channels ∧ id ≠ channelId := by
  simp [Server.removeChannel]

theorem Server.update_channels (s : Server) {data : ServerPatch} (h : data.channels = none)
    (clear : List (ClearName ServerField)) : (s.update data clear).channels = s.channels := by
  simp [Server.update, h, Change.ofOption, Change.ofParts, Change.apply]

theorem Channel.addRecipient_server (ch : Channel) (userId : String) : (ch.addRecipient userId).server = ch.server := by
  unfold Channel.addRecipient
  split <;> rfl

/-- **A server and a channel tell the same of each other**: the server lists the channel exactly if the channel names
it. -/
def Server.Matches (s : Server) (ch : Channel) : Prop :=
  ch.id ∈ s.channels ↔ ch.server = some s.id

instance (s : Server) (ch : Channel) : Decidable (s.Matches ch) :=
  inferInstanceAs (Decidable (_ ↔ _))

/-- **All servers and channels of a snapshot tell the same.** -/
def Snapshot.Coherent (s : Snapshot) : Prop :=
  ∀ server ∈ s.servers, ∀ ch ∈ s.channels, server.Matches ch

namespace Cache

/-- **All known servers and channels tell the same.** -/
def Coherent (c : Cache) : Prop :=
  ∀ serverId server, c.server? serverId = some server → ∀ channelId ch, c.channel? channelId = some ch →
    server.Matches ch

/-- **What an operation brings fits a cache.**  A snapshot is coherent in itself, and an update of a server has no
other list.  A new channel is on no list but that of the server which it names.  The channels of a new server name it,
are on its list and on no other; all other channels that are known are on its list exactly if they name it. -/
def Fits (c : Cache) : Operation → Prop
  | .populate s => s.Coherent
  | .updateServer _ data _ => data.channels = none
  | .insertChannel ch =>
    ∀ serverId server, c.server? serverId = some server → ch.id ∈ server.channels → ch.server = some server.id
  | .insertServer new channels _ =>
    (∀ ch ∈ channels, ch.server = some new.id ∧ ch.id ∈ new.channels ∧
      ∀ serverId server, c.server? serverId = some server → server.id ≠ new.id → ch.id ∉ server.channels) ∧
    ∀ channelId ch, c.channel? channelId = some ch → (∀ other ∈ channels, other.id ≠ ch.id) → new.Matches ch
  | _ => True

def FitsAll (c : Cache) : List Operation → Prop
  | [] => True
  | op :: ops => c.Fits op ∧ (c.perform op).1.FitsAll ops

/-! ## Deciding

What is said of all that is known is said of finitely many entries. -/

theorem forall_entries_iff {κ α : Type} [Ord κ] [Std.TransOrd κ] [Std.LawfulEqOrd κ] (t : Std.ExtTreeMap κ α compare)
    (p : α → Prop) : (∀ e ∈ t.toList, p e.2) ↔ ∀ (k : κ) (a : α), t[k]? = some a → p a := by
  constructor
  · intro h k a ha
    exact h (k, a) (Std.ExtTreeMap.mem_toList_iff_getElem?_eq_some.2 ha)
  · rintro h ⟨k, a⟩ he
    exact h k a (Std.ExtTreeMap.mem_toList_iff_getElem?_eq_some.1 he)

instance (s : Snapshot) : Decidable s.Coherent :=
  inferInstanceAs (Decidable (∀ server ∈ s.servers, ∀ ch ∈ s.channels, server.Matches ch))

instance (c : Cache) : Decidable c.Coherent :=
  decidable_of_iff (∀ e ∈ c.servers.toList, ∀ f ∈ c.channels.toList, e.2.Matches f.2) <| by
    simp only [forall_entries_iff c.channels]
    exact forall_entries_iff c.servers fun server => ∀ channelId ch, c.channel? channelId = some ch → server.Matches ch

instance (c : Cache) : (op : Operation) → Decidable (c.Fits op)
  | .populate s => inferInstanceAs (Decidable s.Coherent)
  | .updateServer _ data _ => inferInstanceAs (Decidable (data.channels = none))
  | .insertChannel ch =>
    decidable_of_iff (∀ e ∈ c.servers.toList, ch.id ∈ e.2.channels → ch.server = some e.2.id)
      (forall_entries_iff c.servers fun server => ch.id ∈ server.channels → ch.server = some server.id)
  | .insertServer new channels _ =>
    decidable_of_iff
      ((∀ ch ∈ channels, ch.server = some new.id ∧ ch.id ∈ new.channels ∧
        ∀ e ∈ c.servers.toList, e.2.id ≠ new.id → ch.id ∉ e.2.channels) ∧
        ∀ e ∈ c.channels.toList, (∀ other ∈ channels, other.id ≠ e.2.id) → new.Matches e.2)
      (and_congr
        (forall₂_congr fun ch _ => and_congr_right fun _ => and_congr_right fun _ =>
          forall_entries_iff c.servers fun server => server.id ≠ new.id → ch.id ∉ server.channels)
        (forall_entries_iff c.channels fun ch => (∀ other ∈ channels, other.id ≠ ch.id) → new.Matches ch))
  | .updateUser .. | .updateRole .. | .setRoleRanks .. | .updateChannel .. | .updateMember .. | .updateWebhook ..
  | .insertMember _ | .insertEmoji _ | .insertWebhook _ | .addRecipient .. | .removeServer _ | .removeChannel _
  | .removeMember _ | .removeRecipient .. | .removeRole .. | .removeEmoji _ | .removeWebhook _ | .removeUser _ =>
      inferInstanceAs (Decidable True)

instance decidableFitsAll (c : Cache) : (ops : List Operation) → Decidable (c.FitsAll ops)
  | [] => inferInstanceAs (Decidable True)
  | op :: ops =>
    have := decidableFitsAll (c.perform op).1 ops
    inferInstanceAs (Decidable (c.Fits op ∧ (c.perform op).1.FitsAll ops))

/-! ## What is found after an edit -/

section

open Std (ExtTreeMap TransOrd LawfulEqOrd)

variable {κ α : Type} [Ord κ] [TransOrd κ] [LawfulEqOrd κ] {t : ExtTreeMap κ α compare} {k k' : κ}
    {f : α → α} {a : α}

theorem exists_of_getElem?_modify (h : (t.modify k f)[k']? = some a) :
    ∃ b, t[k']? = some b ∧ (a = f b ∧ k = k' ∨ a = b ∧ k ≠ k') := by
  rw [ExtTreeMap.getElem?_modify] at h
  split at h
  · rename_i hk
    obtain ⟨b, hb, rfl⟩ := Option.map_eq_some_iff.1 h
    have heq : k = k' := Std.LawfulEqCmp.eq_of_compare hk
    exact ⟨b, heq ▸ hb, .inl ⟨rfl, heq⟩⟩
  · rename_i hk
    exact ⟨a, h, .inr ⟨rfl, fun heq => hk (by rw [heq]; exact Std.ReflCmp.compare_self)⟩⟩

theorem exists_of_getElem?_erase (h : (t.erase k)[k']? = some a) : t[k']? = some a ∧ k ≠ k' := by
  rw [ExtTreeMap.getElem?_erase] at h
  split at h
  · cases h
  · rename_i hk
    exact ⟨h, fun heq => hk (by rw [heq]; exact Std.ReflCmp.compare_self)⟩

end

namespace Coherent

variable {c c' : Cache}

/-- **A cache that has learnt of no server and no channel stays coherent**, if each of its servers lists the channels
that are left as before. -/
theorem of_le (h : c.Coherent)
    (hservers : ∀ serverId server', c'.server? serverId = some server' →
      ∃ server, c.server? serverId = some server ∧
      server'.id = server.id ∧
        ∀ channelId ch, c'.channel? channelId = some ch → (ch.id ∈ server'.channels ↔ ch.id ∈ server.channels))
    (hchannels : ∀ channelId ch', c'.channel? channelId = some ch' → ∃ ch, c.channel? channelId = some ch ∧
      ch'.id = ch.id ∧ ch'.server = ch.server) : c'.Coherent := by
  intro serverId server' hs' channelId ch' hch'
  obtain ⟨server, hs, hid, hlists⟩ := hservers serverId server' hs'
  obtain ⟨ch, hch, hchannel, hnames⟩ := hchannels channelId ch' hch'
  have hmatches := h serverId server hs channelId ch hch
  unfold Server.Matches at *
  rw [hlists channelId ch' hch', hchannel, hnames, hid]
  exact hmatches

theorem of_channels (h : c.Coherent) (hservers : c'.servers = c.servers)
    (hchannels : ∀ channelId ch', c'.channel? channelId = some ch' → ∃ ch, c.channel? channelId = some ch ∧
      ch'.id = ch.id ∧ ch'.server = ch.server) : c'.Coherent := by
  refine h.of_le (fun serverId server hs => ⟨server, ?_, rfl, fun _ _ _ => Iff.rfl⟩) hchannels
  rw [server?, hservers] at hs
  exact hs

theorem of_same (h : c.Coherent) (hservers : c'.servers = c.servers) (hchannels : c'.channels = c.channels) :
    c'.Coherent := by
  refine h.of_channels hservers fun channelId ch hch => ⟨ch, ?_, rfl, rfl⟩
  rw [channel?, hchannels] at hch
  exact hch

theorem modifyServer (h : c.Coherent) (id : String) {f : Server → Server} (hid : ∀ s, (f s).id = s.id)
    (hlist : ∀ s, (f s).channels = s.channels) :
    { c with servers := if c.tracking.servers then c.servers.modify id f else c.servers }.Coherent := by
  refine h.of_le (fun serverId server' hs' => ?_) fun channelId ch hch => ⟨ch, hch, rfl, rfl⟩
  rw [server?] at hs'
  dsimp only at hs'
  split at hs'
  · obtain ⟨server, hs, ⟨rfl, -⟩ | ⟨rfl, -⟩⟩ := exists_of_getElem?_modify hs'
    · exact ⟨server, hs, hid server, fun _ ch _ => by rw [hlist]⟩
    · exact ⟨server', hs, rfl, fun _ _ _ => Iff.rfl⟩
  · exact ⟨server', hs', rfl, fun _ _ _ => Iff.rfl⟩

theorem modifyChannel (h : c.Coherent) (id : String) {f : Channel → Channel} (hid : ∀ ch, (f ch).id = ch.id)
    (hserver : ∀ ch, (f ch).server = ch.server) :
    { c with channels := if c.tracking.channels then c.channels.modify id f else c.channels }.Coherent := by
  refine h.of_channels rfl fun channelId ch' hch' => ?_
  rw [channel?] at hch'
  dsimp only at hch'
  split at hch'
  · obtain ⟨ch, hch, ⟨rfl, -⟩ | ⟨rfl, -⟩⟩ := exists_of_getElem?_modify hch'
    · exact ⟨ch, hch, hid ch, hserver ch⟩
    · exact ⟨ch', hch, rfl, rfl⟩
  · exact ⟨ch', hch', rfl, rfl⟩

/-! ### Snapshots and insertions -/

theorem populate (hkept : c.WellKept) {s : Snapshot} (hfits : s.Coherent) : (c.populate s).Coherent := by
  have hresynced := hkept.resynced s
  intro serverId server hs channelId ch hch
  exact hfits server (hresynced.servers.mem serverId server hs) ch (hresynced.channels.mem channelId ch hch)

/-- The servers once a channel has come: the one that it names has it on its list. -/
theorem exists_of_serversListing {new : Channel} {serverId : String} {server' : Server}
    (h : (c.serversListing new)[serverId]? = some server') :
    ∃ server, c.server? serverId = some server ∧ server'.id = server.id ∧
      ∀ id, id ∈ server'.channels ↔ id ∈ server.channels ∨ id = new.id ∧ new.server = some serverId := by
  unfold serversListing at h
  cases hnew : new.server with
  | none =>
    rw [hnew] at h
    exact ⟨server', h, rfl, fun id => by simp⟩
  | some named =>
    rw [hnew] at h
    obtain ⟨server, hs, ⟨rfl, rfl⟩ | ⟨rfl, hne⟩⟩ := exists_of_getElem?_modify h
    · exact ⟨server, hs, Server.addChannel_id server new.id, fun id => by simp [Server.mem_addChannel]⟩
    · exact ⟨server', hs, rfl, fun id => by simp [hne]⟩

theorem insertChannel (h : c.Coherent) (hkept : c.WellKept) {new : Channel} (hfits : c.Fits (.insertChannel new)) :
    (c.insertChannel new).1.Coherent := by
  rw [insertChannel_fst]
  cases ht : c.tracking.channels with
  | false => exact h.of_same (by simp) (by simp)
  | true =>
    intro serverId server' hs' channelId ch hch
    rw [server?] at hs'
    rw [channel?] at hch
    dsimp only at hs' hch
    rw [if_pos rfl] at hs' hch
    obtain ⟨server, hs, hid, hlists⟩ := exists_of_serversListing hs'
    have hserverId : server.id = serverId := hkept.servers.key_eq serverId server hs
    unfold Server.Matches
    rw [hlists, hid]
    rw [Std.ExtTreeMap.getElem?_insert] at hch
    split at hch
    · cases hch
      constructor
      · rintro (hlisted | ⟨-, hnames⟩)
        · exact hfits serverId server hs hlisted
        · rw [hnames, hserverId]
      · intro hnames
        exact .inr ⟨rfl, by rw [hnames, hserverId]⟩
    · rename_i hne
      -- any other channel is listed as before
      have hother : ch.id ≠ new.id := by
        rw [hkept.channels.key_eq channelId ch hch]
        rintro rfl
        exact hne Std.ReflCmp.compare_self
      simp only [hother, false_and, or_false]
      exact h serverId server hs channelId ch hch

theorem insertServer (h : c.Coherent) (hkept : c.WellKept) {new : Server} {channels : List Channel}
    {emojis : List Emoji}
    (hfits : c.Fits (.insertServer new channels emojis)) : (c.insertServer new channels emojis).1.Coherent := by
  obtain ⟨hnew, hold⟩ := hfits
  rw [insertServer_fst]
  cases ht : c.tracking.servers with
  | false => exact h.of_same (by simp) (by simp)
  | true =>
    intro serverId server hs channelId ch hch
    have hfound : ch ∈ channels ∨ c.channel? channelId = some ch ∧ ∀ other ∈ channels, other.id ≠ ch.id := by
      cases htc : c.tracking.channels with
      | false =>
        have hnone : c.channels = ∅ := hkept.channels.eq_empty htc
        simp [channel?, htc, hnone] at hch
      | true =>
        simp only [channel?, htc, and_self, if_true, getElem?_insertMany_map, Option.or_eq_some_iff] at hch
        rcases hch with hch | ⟨hnone, hch⟩
        · exact .inl (mem_of_lastWith hch)
        · refine .inr ⟨hch, fun other hother heq => ?_⟩
          rw [hkept.channels.key_eq channelId ch hch] at heq
          have hempty := List.getLast?_eq_none_iff.1 hnone
          exact List.filter_eq_nil_iff.1 hempty other hother (by simpa using heq)
    rw [server?] at hs
    dsimp only at hs
    rw [if_pos rfl, Std.ExtTreeMap.getElem?_insert] at hs
    split at hs
    · cases hs
      rcases hfound with hch | ⟨hch, hothers⟩
      · exact iff_of_true (hnew ch hch).2.1 (hnew ch hch).1
      · exact hold channelId ch hch hothers
    · rename_i hne
      rcases hfound with hch | ⟨hch, -⟩
      · -- a channel of the new server has to do with no other
        have hother : server.id ≠ new.id := by
          rw [hkept.servers.key_eq serverId server hs]
          rintro rfl
          exact hne Std.ReflCmp.compare_self
        refine iff_of_false ((hnew ch hch).2.2 serverId server hs hother) fun hnames => ?_
        rw [(hnew ch hch).1] at hnames
        exact hother (Option.some.inj hnames).symm
      · exact h serverId server hs channelId ch hch

/-! ### Removals -/

theorem withoutServer (h : c.Coherent) (id : String) : (c.withoutServer id).Coherent := by
  unfold Cache.withoutServer
  split
  · exact h
  · refine h.of_le (fun serverId server hs => ⟨server, ?_, rfl, fun _ _ _ => Iff.rfl⟩) fun channelId ch hch =>
      ⟨ch, ?_, rfl, rfl⟩
    · exact (exists_of_getElem?_erase hs).1
    · rw [channel?, getElem?_eraseMany] at hch
      split at hch
      · cases hch
      · exact hch

theorem afterLeaving (h : c.Coherent) (id : MemberId) : (c.afterLeaving id).Coherent :=
  afterLeaving_cases h (h.withoutServer id.server)

/-- The servers once a channel is gone: one may have it on its list no more. -/
theorem exists_of_serversUnlisting {id serverId : String} {server' : Server}
    (h : (c.serversUnlisting id)[serverId]? = some server') :
    ∃ server, c.server? serverId = some server ∧ server'.id = server.id ∧
      ∀ other, other ≠ id → (other ∈ server'.channels ↔ other ∈ server.channels) := by
  unfold serversUnlisting at h
  cases howner : c.ownerOf? id with
  | none =>
    rw [howner] at h
    exact ⟨server', h, rfl, fun _ _ => Iff.rfl⟩
  | some owner =>
    rw [howner] at h
    obtain ⟨server, hs, ⟨rfl, -⟩ | ⟨rfl, -⟩⟩ := exists_of_getElem?_modify h
    · exact ⟨server, hs, rfl, fun other hne => by simp [Server.mem_removeChannel, hne]⟩
    · exact ⟨server', hs, rfl, fun _ _ => Iff.rfl⟩

theorem removeChannel (h : c.Coherent) (hkept : c.WellKept) (id : String) : (c.removeChannel id).1.Coherent := by
  rw [removeChannel_fst]
  cases ht : c.tracking.channels with
  | false => exact h.of_same (by simp) (by simp)
  | true =>
    have hleft (channelId : String) (ch : Channel) (hch : (c.channels.erase id)[channelId]? = some ch) :
        ch.id ≠ id := by
      obtain ⟨hbefore, hne⟩ := exists_of_getElem?_erase hch
      rw [hkept.channels.key_eq channelId ch hbefore]
      exact hne.symm
    refine h.of_le (fun serverId server' hs' => ?_) fun channelId ch hch =>
      ⟨ch, (exists_of_getElem?_erase hch).1, rfl, rfl⟩
    obtain ⟨server, hs, hid, hlists⟩ := exists_of_serversUnlisting hs'
    exact ⟨server, hs, hid, fun channelId ch hch => hlists ch.id (hleft channelId ch hch)⟩

theorem removeRecipient (h : c.Coherent) (channelId userId : String) :
    (c.removeRecipient channelId userId).1.Coherent := by
  rw [removeRecipient_fst]
  cases c.isCurrentUser userId with
  | false => exact h.modifyChannel channelId (Channel.removeRecipient_id · userId) fun _ => rfl
  | true =>
    refine h.of_channels rfl fun id ch hch => ⟨ch, ?_, rfl, rfl⟩
    rw [channel?] at hch
    dsimp only at hch
    split at hch
    · exact (exists_of_getElem?_erase hch).1
    · exact hch

/-! ### All operations -/

/-- **Every operation keeps a cache coherent** if what it brings fits. -/
theorem perform (h : c.Coherent) (hkept : c.WellKept) {op : Operation} (hfits : c.Fits op) :
    (c.perform op).1.Coherent := by
  cases op with
  | populate s => exact .populate hkept hfits
  | insertServer server channels emojis => exact h.insertServer hkept hfits
  | insertChannel ch => exact h.insertChannel hkept hfits
  | updateServer id data clear =>
    rw [Cache.perform, updateServer, changeServer_fst]
    exact h.modifyServer id (Server.update_id · data clear) (Server.update_channels · hfits clear)
  | updateRole serverId roleId data clear =>
    rw [Cache.perform, updateRole_fst]
    exact h.modifyServer serverId (fun _ => rfl) fun _ => rfl
  | setRoleRanks serverId ranks =>
    rw [Cache.perform, setRoleRanks, changeServer_fst]
    exact h.modifyServer serverId (Server.setRoleRanks_id · ranks) fun _ => rfl
  | removeRole serverId roleId =>
    rw [Cache.perform, removeRole_fst]
    exact h.modifyServer serverId (fun _ => rfl) fun _ => rfl
  | updateChannel id data clear =>
    rw [Cache.perform, updateChannel, changeChannel_fst]
    exact h.modifyChannel id (Channel.update_id · data clear) fun _ => rfl
  | addRecipient channelId userId =>
    rw [Cache.perform, addRecipient, changeChannel_fst]
    exact h.modifyChannel channelId (Channel.addRecipient_id · userId) (Channel.addRecipient_server · userId)
  | removeRecipient channelId userId => exact h.removeRecipient channelId userId
  | removeChannel id => exact h.removeChannel hkept id
  | removeServer id =>
    rw [Cache.perform, removeServer_fst]
    split
    · exact h.withoutServer id
    · exact h
  | removeMember id =>
    rw [Cache.perform, removeMember_fst]
    exact (h.afterLeaving id).of_same rfl rfl
  | updateUser | updateMember | updateWebhook | insertMember | insertEmoji | insertWebhook | removeEmoji
  | removeWebhook | removeUser =>
    -- neither servers nor channels are touched
    refine h.of_same ?_ ?_ <;>
      simp only [Cache.perform, updateUser_fst, updateMember_fst, updateWebhook_fst, insertMember_fst, insertEmoji_fst,
        insertWebhook_fst, removeEmoji_fst, removeWebhook_fst, removeUser_fst]

theorem run (h : c.Coherent) (hkept : c.WellKept) {ops : List Operation} (hfits : c.FitsAll ops) :
    (c.run ops).Coherent := by
  induction ops generalizing c with
  | nil => exact h
  | cons op ops ih => exact ih (h.perform hkept hfits.1) (hkept.perform op) hfits.2

end Coherent

/-- **A coherent cache stays coherent through all that fits it**, whatever it has been through since it was empty. -/
theorem coherent_run (tracking : Tracking) (before after : List Operation)
    (h : ((Cache.empty tracking).run before).Coherent)
    (hfits : ((Cache.empty tracking).run before).FitsAll after) :
    (((Cache.empty tracking).run before).run after).Coherent :=
  h.run ((WellKept.empty tracking).run before) hfits

def sharedServer : Snapshot where
  users := [{ (default : User) with id := "u" }]
  servers := [{ (default : Server) with id := "s", channels := ["c"] }]
  channels := [{ (default : Channel) with id := "c", server := some "s" }]
  members := []
  emojis := []

/-- A channel comes, a server comes with another, a channel goes, and then the user leaves the server. -/
def comingsAndGoings : List Operation :=
  [.insertChannel { (default : Channel) with id := "d", server := some "s" },
    .insertServer { (default : Server) with id := "t", channels := ["e"] }
      [{ (default : Channel) with id := "e", server := some "t" }] [],
    .removeChannel "c", .removeMember ⟨"s", "u"⟩]

theorem coherent_run_comingsAndGoings :
    ((Cache.empty .standard).run [.populate sharedServer]).Coherent ∧
      ((Cache.empty .standard).run [.populate sharedServer]).FitsAll comingsAndGoings ∧
        (((Cache.empty .standard).run [.populate sharedServer]).run comingsAndGoings).Coherent := by
  have hcoherent : ((Cache.empty .standard).run [.populate sharedServer]).Coherent := by decide +kernel
  have hfits : ((Cache.empty .standard).run [.populate sharedServer]).FitsAll comingsAndGoings := by decide +kernel
  exact ⟨hcoherent, hfits, coherent_run .standard [.populate sharedServer] comingsAndGoings hcoherent hfits⟩

end Cache
end ChatClient
