import ChatClient.Proofs.Cache.Listing
import ChatClient.Proofs.Cache.Outcome
/-!
# Lists without repetitions

A server lists its channels and a channel its recipients, in an order of their own.  The lists are given as they come
from outside, and a cache edits them one at a time: what is new goes to the end of a list that does not have it yet,
and what goes is taken out from between the rest (`EditsInPlace`).  So a cache to which no list with repetitions is
given never has one (`DistinctLists.run`).
-/
namespace ChatClient

/-! ## Edits of one list -/

def appendNew (l : List String) (id : String) : List String :=
  if id ∈ l then l else l ++ [id]

theorem nodup_appendNew {l : List String} (h : l.Nodup) (id : String) : (appendNew l id).Nodup := by
  unfold appendNew
  split
  · exact h
  · rename_i hnew
    exact h.append (List.nodup_singleton id) (by simpa using hnew)

theorem Server.addChannel_channels (s : Server) (channelId : String) :
    (s.addChannel channelId).channels = appendNew s.channels channelId := by
  unfold addChannel appendNew
  split <;> rfl

theorem Channel.addRecipient_recipients (ch : Channel) (userId : String) :
    (ch.addRecipient userId).recipients = appendNew ch.recipients userId := by
  unfold addRecipient appendNew
  split <;> rfl

theorem Server.nodup_update {s : Server} (h : s.channels.Nodup) {data : ServerPatch}
    (hdata : ∀ l ∈ data.channels, l.Nodup)
    (clear : List (ClearName ServerField)) : (s.update data clear).channels.Nodup := by
  cases hl : data.channels with
  | none =>
    rw [Server.update_channels s hl clear]
    exact h
  | some l =>
    have hgiven : (s.update data clear).channels = l := by
      simp [Server.update, hl, Change.ofOption, Change.ofParts, Change.apply]
    rw [hgiven]
    exact hdata l hl

/-! ## Tables of which every value has a property -/

section

open Std (ExtTreeMap TransOrd LawfulEqOrd)

variable {κ α β : Type} [Ord κ] [TransOrd κ]

def Every (p : α → Prop) (t : ExtTreeMap κ α compare) : Prop :=
  ∀ (k : κ) (a : α), t[k]? = some a → p a

namespace Every

variable {p : α → Prop} {t : ExtTreeMap κ α compare}

theorem empty : Every p (∅ : ExtTreeMap κ α compare) := by
  intro k a h
  rw [ExtTreeMap.getElem?_empty] at h
  cases h

theorem ite {q : Prop} [Decidable q] {t' : ExtTreeMap κ α compare} (h : Every p t) (h' : q → Every p t') :
    Every p (if q then t' else t) := by
  split
  · rename_i hq
    exact h' hq
  · exact h

variable [LawfulEqOrd κ]

theorem insertMany [DecidableEq κ] (h : Every p t) (key : α → κ) {xs : List α} (hxs : ∀ x ∈ xs, p x) :
    Every p (t.insertMany (xs.map fun x => (key x, x))) := by
  intro k a ha
  rw [getElem?_insertMany_map, Option.or_eq_some_iff] at ha
  rcases ha with ha | ⟨-, ha⟩
  · exact hxs a (mem_of_lastWith ha)
  · exact h k a ha

theorem ofList [DecidableEq κ] (key : α → κ) {xs : List α} (hxs : ∀ x ∈ xs, p x) :
    Every p (ExtTreeMap.ofList (xs.map fun x => (key x, x)) compare) := by
  rw [ExtTreeMap.ofList_eq_insertMany_empty]
  exact insertMany empty key hxs

theorem insert [DecidableEq κ] (h : Every p t) (key : α → κ) {x : α} (hx : p x) : Every p (t.insert (key x) x) := by
  have hall : ∀ y ∈ [x], p y := by simpa using hx
  have hone := h.insertMany key hall
  rwa [List.map_singleton, ExtTreeMap.insertMany_list_singleton] at hone

theorem modify (h : Every p t) (k : κ) {f : α → α} (hf : ∀ a, p a → p (f a)) : Every p (t.modify k f) := by
  intro k' a ha
  obtain ⟨b, hb, ⟨rfl, -⟩ | ⟨rfl, -⟩⟩ := Cache.exists_of_getElem?_modify ha
  · exact hf b (h k' b hb)
  · exact h k' a hb

theorem erase (h : Every p t) (k : κ) : Every p (t.erase k) :=
  fun k' a ha => h k' a (Cache.exists_of_getElem?_erase ha).1

theorem eraseMany [DecidableEq κ] (h : Every p t) (ks : List κ) : Every p (t.eraseMany ks) := by
  intro k a ha
  rw [getElem?_eraseMany] at ha
  split at ha
  · cases ha
  · exact h k a ha

end Every

/-- What is seen under a key of a table of which one value is changed. -/
theorem map_getElem?_modify [LawfulEqOrd κ] [DecidableEq κ] (t : ExtTreeMap κ α compare) (k k' : κ)
    (f : α → α) (g : α → β) : (t.modify k f)[k']?.map g = t[k']?.map fun a => if k = k' then g (f a) else g a := by
  rw [ExtTreeMap.getElem?_modify]
  by_cases h : k = k'
  · subst h
    simp [Function.comp_def]
  · simp [h]

end

namespace Cache

/-! ## No list repeats itself -/

/-- **No list that is known has an identity twice.** -/
structure DistinctLists (c : Cache) : Prop where
  servers : Every (·.channels.Nodup) c.servers
  channels : Every (·.recipients.Nodup) c.channels

def Operation.BringsDistinct : Operation → Prop
  | .populate s => (∀ server ∈ s.servers, server.channels.Nodup) ∧ ∀ ch ∈ s.channels, ch.recipients.Nodup
  | .updateServer _ data _ => ∀ l ∈ data.channels, l.Nodup
  | .insertServer server channels _ => server.channels.Nodup ∧ ∀ ch ∈ channels, ch.recipients.Nodup
  | .insertChannel ch => ch.recipients.Nodup
  | _ => True

instance : (op : Operation) → Decidable op.BringsDistinct
  | .populate s =>
    inferInstanceAs
      (Decidable ((∀ server ∈ s.servers, server.channels.Nodup) ∧ ∀ ch ∈ s.channels, ch.recipients.Nodup))
  | .updateServer _ data _ => inferInstanceAs (Decidable (∀ l ∈ data.channels, l.Nodup))
  | .insertServer server channels _ =>
    inferInstanceAs (Decidable (server.channels.Nodup ∧ ∀ ch ∈ channels, ch.recipients.Nodup))
  | .insertChannel ch => inferInstanceAs (Decidable ch.recipients.Nodup)
  | .updateUser .. | .updateRole .. | .setRoleRanks .. | .updateChannel .. | .updateMember .. | .updateWebhook ..
  | .insertMember _ | .insertEmoji _ | .insertWebhook _ | .addRecipient .. | .removeServer _ | .removeChannel _
  | .removeMember _ | .removeRecipient .. | .removeRole .. | .removeEmoji _ | .removeWebhook _ | .removeUser _ =>
      inferInstanceAs (Decidable True)

namespace DistinctLists

variable {c : Cache}

theorem empty (tracking : Tracking) : (Cache.empty tracking).DistinctLists :=
  ⟨.empty, .empty⟩

theorem changeServer (h : c.DistinctLists) (id : String) {f : Server → Server}
    (hf : ∀ s, s.channels.Nodup → (f s).channels.Nodup) : (c.changeServer id f).1.DistinctLists := by
  rw [changeServer_fst]
  exact { h with servers := h.servers.ite fun _ => h.servers.modify id hf }

theorem changeChannel (h : c.DistinctLists) (id : String) {f : Channel → Channel}
    (hf : ∀ ch, ch.recipients.Nodup → (f ch).recipients.Nodup) : (c.changeChannel id f).1.DistinctLists := by
  rw [changeChannel_fst]
  exact { h with channels := h.channels.ite fun _ => h.channels.modify id hf }

theorem insertChannel (h : c.DistinctLists) {ch : Channel} (hnew : ch.recipients.Nodup) :
    (c.insertChannel ch).1.DistinctLists := by
  have hlists : Every (·.channels.Nodup) (c.serversListing ch) := by
    refine serversListing_cases h.servers fun serverId => h.servers.modify serverId fun s hs => ?_
    rw [Server.addChannel_channels]
    exact nodup_appendNew hs ch.id
  rw [insertChannel_fst]
  exact ⟨h.servers.ite fun _ => hlists, h.channels.ite fun _ => h.channels.insert Channel.id hnew⟩

theorem withoutServer (h : c.DistinctLists) (id : String) : (c.withoutServer id).DistinctLists := by
  unfold Cache.withoutServer
  split
  · exact h
  · rename_i s _
    exact ⟨h.servers.erase id, h.channels.eraseMany s.channels⟩

theorem afterLeaving (h : c.DistinctLists) (id : MemberId) : (c.afterLeaving id).DistinctLists :=
  afterLeaving_cases h (h.withoutServer id.server)

theorem removeChannel (h : c.DistinctLists) (id : String) : (c.removeChannel id).1.DistinctLists := by
  have hlists : Every (·.channels.Nodup) (c.serversUnlisting id) :=
    serversUnlisting_cases h.servers fun serverId => h.servers.modify serverId fun _ hs => hs.filter _
  rw [removeChannel_fst]
  exact ⟨h.servers.ite fun _ => hlists, h.channels.ite fun _ => h.channels.erase id⟩

theorem removeRecipient (h : c.DistinctLists) (channelId userId : String) :
    (c.removeRecipient channelId userId).1.DistinctLists := by
  rw [removeRecipient_fst]
  refine { h with channels := h.channels.ite fun _ => ?_ }
  split
  · exact h.channels.erase channelId
  · exact h.channels.modify channelId fun ch hch => hch.filter _

/-- **Every operation that brings no repetitions makes none.** -/
theorem perform (h : c.DistinctLists) {op : Operation} (hbrings : op.BringsDistinct) :
    (c.perform op).1.DistinctLists := by
  cases op with
  | populate s =>
    exact ⟨h.servers.ite fun _ => .ofList Server.id hbrings.1, h.channels.ite fun _ => .ofList Channel.id hbrings.2⟩
  | updateServer id data clear => exact h.changeServer id fun s hs => Server.nodup_update hs hbrings clear
  | setRoleRanks serverId ranks => exact h.changeServer serverId fun _ hs => hs
  | updateRole serverId roleId data clear =>
    rw [Cache.perform, updateRole_fst]
    exact { h with servers := h.servers.ite fun _ => h.servers.modify serverId fun _ hs => hs }
  | removeRole serverId roleId =>
    rw [Cache.perform, removeRole_fst]
    exact { h with servers := h.servers.ite fun _ => h.servers.modify serverId fun _ hs => hs }
  | updateChannel id data clear => exact h.changeChannel id fun _ hch => hch
  | addRecipient channelId userId =>
    refine h.changeChannel channelId fun ch hch => ?_
    rw [Channel.addRecipient_recipients]
    exact nodup_appendNew hch userId
  | insertServer server channels emojis =>
    rw [Cache.perform, insertServer_fst]
    exact ⟨h.servers.ite fun _ => h.servers.insert Server.id hbrings.1,
      h.channels.ite fun _ => h.channels.insertMany Channel.id hbrings.2⟩
  | insertChannel ch => exact h.insertChannel hbrings
  | removeChannel id => exact h.removeChannel id
  | removeRecipient channelId userId => exact h.removeRecipient channelId userId
  | removeServer id =>
    rw [Cache.perform, removeServer_fst]
    split
    · exact h.withoutServer id
    · exact h
  | removeMember id =>
    rw [Cache.perform, removeMember_fst]
    exact ⟨(h.afterLeaving id).servers, (h.afterLeaving id).channels⟩
  | updateUser | updateMember | updateWebhook | insertMember | insertEmoji | insertWebhook | removeEmoji | removeWebhook
  | removeUser =>
    -- neither servers nor channels are touched
    simp only [Cache.perform, updateUser_fst, updateMember_fst, updateWebhook_fst, insertMember_fst, insertEmoji_fst,
      insertWebhook_fst, removeEmoji_fst, removeWebhook_fst, removeUser_fst]
    exact ⟨h.servers, h.channels⟩

theorem run (h : c.DistinctLists) {ops : List Operation} (hbrings : ∀ op ∈ ops, op.BringsDistinct) :
    (c.run ops).DistinctLists := by
  induction ops generalizing c with
  | nil => exact h
  | cons op ops ih =>
    rw [List.forall_mem_cons] at hbrings
    exact ih (h.perform hbrings.1) hbrings.2

end DistinctLists

/-! ## Lists keep their order -/

def listed? (c : Cache) (serverId : String) : Option (List String) :=
  (c.server? serverId).map Server.channels

def recipients? (c : Cache) (channelId : String) : Option (List String) :=
  (c.channel? channelId).map Channel.recipients

/-- **From whose list a channel is taken**: that of the server which it names, or else, if it is not known or names
none, that of a server which lists it, as long as there is one. -/
structure IsOwner (c : Cache) (channelId : String) (owner? : Option String) : Prop where
  named : ∀ ch serverId, c.channel? channelId = some ch → ch.server = some serverId → owner? = some serverId
  listing : (∀ ch, c.channel? channelId = some ch → ch.server = none) →
    ∀ serverId, owner? = some serverId → c.Lists serverId channelId
  missing : owner? = none → ∀ serverId, ¬ c.Lists serverId channelId

/-- **A list is edited at its end or by taking out**: a channel that comes and a recipient that is added go to the end
of the list concerned if they are not on it, a channel and a recipient that are removed go from the list concerned,
and all else on it stays in its place.  No other list of the same kind changes. -/
structure EditsInPlace (c : Cache) : Prop where
  insertChannel : ∀ (ch : Channel) (serverId : String),
    (c.perform (.insertChannel ch)).1.listed? serverId = (c.listed? serverId).map fun l =>
      if c.tracking.channels ∧ ch.server = some serverId then appendNew l ch.id else l
  addRecipient : ∀ channelId userId id : String,
    (c.perform (.addRecipient channelId userId)).1.recipients? id = (c.recipients? id).map fun l =>
      if channelId = id then appendNew l userId else l
  removeChannel : ∀ channelId : String, ∃ owner?, c.IsOwner channelId owner? ∧ ∀ serverId : String,
    (c.perform (.removeChannel channelId)).1.listed? serverId = (c.listed? serverId).map fun l =>
      if c.tracking.channels ∧ owner? = some serverId then l.filter (· != channelId) else l
  removeRecipient : ∀ channelId userId : String, c.isCurrentUser userId = false → ∀ id : String,
    (c.perform (.removeRecipient channelId userId)).1.recipients? id = (c.recipients? id).map fun l =>
      if channelId = id then l.filter (· != userId) else l

theorem isOwner_ownerOf? (c : Cache) (channelId : String) : c.IsOwner channelId (c.ownerOf? channelId) := by
  unfold ownerOf?
  cases hnamed : (c.channel? channelId).bind (·.server) with
  | some named =>
    obtain ⟨known, hknown, hserver⟩ := Option.bind_eq_some_iff.1 hnamed
    refine ⟨fun ch serverId hch hs => ?_, fun hnone => ?_, nofun⟩
    · rw [hch, Option.bind_some, hs] at hnamed
      exact hnamed.symm
    · rw [hnone known hknown] at hserver
      cases hserver
  | none =>
    -- the search through all servers finds one that lists the channel, or there is none
    refine ⟨fun ch serverId hch hs => ?_, fun _ serverId => lists_of_serverListing?, not_lists_of_serverListing?⟩
    rw [hch, Option.bind_some, hs] at hnamed
    cases hnamed

theorem listed?_insertChannel (c : Cache) (ch : Channel) (serverId : String) :
    (c.insertChannel ch).1.listed? serverId = (c.listed? serverId).map fun l =>
      if c.tracking.channels ∧ ch.server = some serverId then appendNew l ch.id else l := by
  rw [insertChannel_fst]
  unfold listed? server? serversListing
  cases c.tracking.channels with
  | false => simp [Function.comp_def]
  | true =>
    cases hnamed : ch.server with
    | none => simp [Function.comp_def]
    | some named => simp [map_getElem?_modify, Server.addChannel_channels, Function.comp_def]

theorem listed?_removeChannel (c : Cache) (channelId serverId : String) :
    (c.removeChannel channelId).1.listed? serverId = (c.listed? serverId).map fun l =>
      if c.tracking.channels ∧ c.ownerOf? channelId = some serverId then l.filter (· != channelId) else l := by
  rw [removeChannel_fst]
  unfold listed? server? serversUnlisting
  cases c.tracking.channels with
  | false => simp [Function.comp_def]
  | true =>
    cases howner : c.ownerOf? channelId with
    | none => simp [Function.comp_def]
    | some owner => simp [map_getElem?_modify, Server.removeChannel, Function.comp_def]

theorem WellKept.recipients?_changeChannel {c : Cache} (h : c.WellKept) (channelId id : String) {f : Channel → Channel}
    {g : List String → List String} (hf : ∀ ch, (f ch).recipients = g ch.recipients) :
    (c.changeChannel channelId f).1.recipients? id = (c.recipients? id).map fun l =>
      if channelId = id then g l else l := by
  rw [changeChannel_fst]
  unfold recipients? channel?
  cases ht : c.tracking.channels with
  | false => simp [h.channels.eq_empty ht]
  | true => simp [map_getElem?_modify, hf, Function.comp_def]

theorem WellKept.editsInPlace {c : Cache} (h : c.WellKept) : c.EditsInPlace where
  insertChannel := c.listed?_insertChannel
  addRecipient channelId userId id :=
    h.recipients?_changeChannel channelId id (Channel.addRecipient_recipients · userId)
  removeChannel channelId := ⟨c.ownerOf? channelId, c.isOwner_ownerOf? channelId, c.listed?_removeChannel channelId⟩
  removeRecipient channelId userId hother id := by
    have hpart : (c.removeRecipient channelId userId).1 = (c.changeChannel channelId (·.removeRecipient userId)).1 := by
      rw [removeRecipient_fst, changeChannel_fst, hother]
      rfl
    rw [Cache.perform, hpart]
    exact h.recipients?_changeChannel channelId id fun _ => rfl

/-- **A cache never has a list with repetitions** unless it is given one, and edits the lists in place, whatever
operations it has been through since it was empty. -/
theorem run_distinctLists (tracking : Tracking) (ops : List Operation) :
    ((∀ op ∈ ops, op.BringsDistinct) → ((Cache.empty tracking).run ops).DistinctLists) ∧
      ((Cache.empty tracking).run ops).EditsInPlace :=
  ⟨(DistinctLists.empty tracking).run, ((WellKept.empty tracking).run ops).editsInPlace⟩

/-- A server comes, and then one of its channels and a recipient of another come twice. -/
def comingsTwice : List Operation :=
  [.insertServer { (default : Server) with id := "s", channels := ["d"] } [] [],
    .insertChannel { (default : Channel) with id := "c", server := some "s" },
    .insertChannel { (default : Channel) with id := "c", server := some "s" },
    .insertChannel { (default : Channel) with id := "g", recipients := ["u"] }, .addRecipient "g" "v",
      .addRecipient "g" "v"]

theorem run_distinctLists_comingsTwice :
    (∀ op ∈ comingsTwice, op.BringsDistinct) ∧ ((Cache.empty .standard).run comingsTwice).DistinctLists ∧
      ((Cache.empty .standard).run comingsTwice).listed? "s" = some ["d", "c"] ∧
        ((Cache.empty .standard).run comingsTwice).recipients? "g" = some ["u", "v"] := by
  have hbrings : ∀ op ∈ comingsTwice, op.BringsDistinct := by decide +kernel
  exact ⟨hbrings, (run_distinctLists .standard comingsTwice).1 hbrings, by decide +kernel, by decide +kernel⟩

end Cache
end ChatClient
