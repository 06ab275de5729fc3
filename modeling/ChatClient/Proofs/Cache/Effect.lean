import ChatClient.Proofs.Cache.Table
/-!
# What the operations leave

The cache after each operation, table by table.  Changing what is not there changes nothing, so the tests that settle an
operation's outcome drop out: what an operation leaves hangs on what is tracked, on who the current user is and, where a
server goes, on what it listed.
-/
namespace ChatClient
namespace Cache

/-! ## Updates -/

theorem updateUser_fst (c : Cache) (id : String) (data : UserPatch) (clear : List (ClearName UserField)) :
    (c.updateUser id data clear).1 =
      { c with
        currentUser := if c.isCurrentUser id then c.currentUser.map (·.update data clear) else c.currentUser
        users := if c.tracking.users then c.users.modify id (·.update data clear) else c.users } := by
  unfold updateUser
  cases hs : c.isCurrentUser id <;> cases ht : c.tracking.users <;> by_cases hm : id ∈ c.users <;>
    simp [ht, hm, modify_of_not_mem]

theorem changeServer_fst (c : Cache) (id : String) (f : Server → Server) :
    (c.changeServer id f).1 = { c with
      servers := if c.tracking.servers then c.servers.modify id f else c.servers } := by
  unfold changeServer
  cases c.tracking.servers with
  | false => rfl
  | true =>
    by_cases hm : id ∈ c.servers
    · simp [hm]
    · simp [hm, modify_of_not_mem]

theorem changeChannel_fst (c : Cache) (id : String) (f : Channel → Channel) :
    (c.changeChannel id f).1 =
      { c with channels := if c.tracking.channels then c.channels.modify id f else c.channels } := by
  unfold changeChannel
  cases c.tracking.channels with
  | false => rfl
  | true =>
    by_cases hm : id ∈ c.channels
    · simp [hm]
    · simp [hm, modify_of_not_mem]

/-- Without the role, the server keeps its roles, and without the server there is nothing to keep. -/
theorem role?_eq_none {c : Cache} {serverId roleId : String} (h : c.role? serverId roleId = none) :
    ∀ s, c.servers[serverId]? = some s → roleId ∉ s.roles := by
  intro s hs hr
  simp only [role?, server?, hs, Option.bind_some, Server.role?] at h
  rw [Std.ExtTreeMap.mem_iff_isSome_getElem?, h] at hr
  cases hr

theorem updateRole_fst (c : Cache) (serverId roleId : String) (data : RolePatch) (clear : List (ClearName RoleField)) :
    (c.updateRole serverId roleId data clear).1 =
      { c with
        servers :=
          if c.tracking.servers then
            c.servers.modify serverId fun s => { s with roles := s.roles.modify roleId (·.update data clear) }
          else c.servers } := by
  unfold updateRole
  cases c.tracking.servers with
  | false => rfl
  | true =>
    cases hr : c.role? serverId roleId with
    | some r => rfl
    | none =>
      have hsame : c.servers.modify serverId
          (fun s => { s with roles := s.roles.modify roleId (·.update data clear) }) = c.servers :=
        modify_eq_self fun s hs => by rw [modify_of_not_mem (role?_eq_none hr s hs)]
      simp [hsame]

theorem updateMember_fst (c : Cache) (id : MemberId) (data : MemberPatch) (clear : List (ClearName MemberField)) :
    (c.updateMember id data clear).1 =
      { c with members := if c.tracking.members then c.members.modify id (·.update data clear) else c.members } := by
  unfold updateMember
  cases c.tracking.members with
  | false => rfl
  | true =>
    by_cases hm : id ∈ c.members
    · simp [hm]
    · simp [hm, modify_of_not_mem]

theorem updateWebhook_fst (c : Cache) (id : String) (data : WebhookPatch) (clear : List (ClearName WebhookField)) :
    (c.updateWebhook id data clear).1 =
      { c with
        webhooks := if c.tracking.webhooks then c.webhooks.modify id (·.update data clear) else c.webhooks } := by
  unfold updateWebhook
  cases c.tracking.webhooks with
  | false => rfl
  | true =>
    by_cases hm : id ∈ c.webhooks
    · simp [hm]
    · simp [hm, modify_of_not_mem]

/-! ## Insertions -/

theorem insertServer_fst (c : Cache) (server : Server) (channels : List Channel) (emojis : List Emoji) :
    (c.insertServer server channels emojis).1 =
      { c with
        servers := if c.tracking.servers then c.servers.insert server.id server else c.servers
        channels :=
          if c.tracking.servers ∧ c.tracking.channels then c.channels.insertMany (channels.map fun ch => (ch.id, ch))
          else c.channels
        emojis :=
          if c.tracking.servers ∧ c.tracking.emojis then c.emojis.insertMany (emojis.map fun e => (e.id, e))
          else c.emojis } := by
  unfold insertServer
  cases c.tracking.servers with
  | false => simp
  | true => simp

def serversListing (c : Cache) (channel : Channel) : Table Server :=
  match channel.server with
  | some serverId => c.servers.modify serverId (·.addChannel channel.id)
  | none => c.servers

theorem serversListing_cases {P : Table Server → Prop} {c : Cache} {channel : Channel} (hsame : P c.servers)
    (hlisted : ∀ serverId : String, P (c.servers.modify serverId (·.addChannel channel.id))) :
    P (c.serversListing channel) := by
  unfold serversListing
  split
  · exact hlisted _
  · exact hsame

theorem insertChannel_fst (c : Cache) (channel : Channel) :
    (c.insertChannel channel).1 =
      { c with
        servers := if c.tracking.channels then c.serversListing channel else c.servers
        channels := if c.tracking.channels then c.channels.insert channel.id channel else c.channels } := by
  unfold insertChannel serversListing
  cases c.tracking.channels <;> rfl

theorem insertMember_fst (c : Cache) (id : MemberId) :
    (c.insertMember id).1 =
      { c with members := if c.tracking.members then c.members.insertIfNew id (.ofId id) else c.members } := by
  unfold insertMember
  cases c.tracking.members <;> rfl

theorem insertEmoji_fst (c : Cache) (emoji : Emoji) :
    (c.insertEmoji emoji).1 =
      { c with emojis := if c.tracking.emojis then c.emojis.insert emoji.id emoji else c.emojis } := by
  unfold insertEmoji
  cases c.tracking.emojis <;> rfl

theorem insertWebhook_fst (c : Cache) (webhook : Webhook) :
    (c.insertWebhook webhook).1 =
      { c with webhooks := if c.tracking.webhooks then c.webhooks.insert webhook.id webhook else c.webhooks } := by
  unfold insertWebhook
  cases c.tracking.webhooks <;> rfl

/-! ## Removals -/

theorem withoutServer_of_none {c : Cache} {id : String} (h : c.server? id = none) : c.withoutServer id = c := by
  rw [withoutServer, h]

theorem server?_withoutServer (c : Cache) (id : String) : (c.withoutServer id).server? id = none := by
  unfold withoutServer
  split
  · assumption
  · simp [server?]

theorem removeServer_fst (c : Cache) (id : String) :
    (c.removeServer id).1 = if c.tracking.servers then c.withoutServer id else c := by
  unfold removeServer
  cases c.tracking.servers <;> rfl

/-- The server from whose list a channel is taken when it is removed: the one that the channel names, or else the
first that lists it. -/
def ownerOf? (c : Cache) (channelId : String) : Option String :=
  match (c.channel? channelId).bind (·.server) with
  | some serverId => some serverId
  | none => c.serverListing? channelId

def serversUnlisting (c : Cache) (channelId : String) : Table Server :=
  match c.ownerOf? channelId with
  | some serverId => c.servers.modify serverId (·.removeChannel channelId)
  | none => c.servers

theorem serversUnlisting_cases {P : Table Server → Prop} {c : Cache} {channelId : String} (hsame : P c.servers)
    (hunlisted : ∀ serverId : String, P (c.servers.modify serverId (·.removeChannel channelId))) :
    P (c.serversUnlisting channelId) := by
  unfold serversUnlisting
  split
  · exact hunlisted _
  · exact hsame

theorem removeChannel_fst (c : Cache) (id : String) :
    (c.removeChannel id).1 =
      { c with
        servers := if c.tracking.channels then c.serversUnlisting id else c.servers
        channels := if c.tracking.channels then c.channels.erase id else c.channels } := by
  unfold removeChannel serversUnlisting ownerOf?
  cases c.tracking.channels <;> rfl

/-- The cache that a leaving member is taken out of: without the server if it is the current user who leaves. -/
def afterLeaving (c : Cache) (id : MemberId) : Cache :=
  if c.isCurrentUser id.user then c.withoutServer id.server else c

theorem afterLeaving_cases {P : Cache → Prop} {c : Cache} {id : MemberId} (hstays : P c)
    (hleaves : P (c.withoutServer id.server)) : P (c.afterLeaving id) := by
  unfold afterLeaving
  split
  · exact hleaves
  · exact hstays

theorem removeMember_fst (c : Cache) (id : MemberId) :
    (c.removeMember id).1 =
      { c.afterLeaving id with
        members :=
          if (c.afterLeaving id).tracking.members then (c.afterLeaving id).members.erase id
          else (c.afterLeaving id).members } := by
  unfold removeMember afterLeaving
  dsimp only
  generalize (if c.isCurrentUser id.user then c.withoutServer id.server else c) = rest
  cases rest.tracking.members <;> rfl

theorem removeRecipient_fst (c : Cache) (channelId userId : String) :
    (c.removeRecipient channelId userId).1 =
      { c with
        channels :=
          if c.tracking.channels then
            if c.isCurrentUser userId then c.channels.erase channelId
            else c.channels.modify channelId (·.removeRecipient userId)
          else c.channels } := by
  unfold removeRecipient
  cases ht : c.tracking.channels with
  | false => rfl
  | true =>
    cases c.isCurrentUser userId with
    | true => rfl
    | false => simp [changeChannel_fst, ht]

theorem removeRole_fst (c : Cache) (serverId roleId : String) :
    (c.removeRole serverId roleId).1 =
      { c with
        servers :=
          if c.tracking.servers then c.servers.modify serverId fun s => { s with roles := s.roles.erase roleId }
          else c.servers } := by
  unfold removeRole
  cases c.tracking.servers <;> rfl

theorem removeEmoji_fst (c : Cache) (id : String) :
    (c.removeEmoji id).1 = { c with emojis := if c.tracking.emojis then c.emojis.erase id else c.emojis } := by
  unfold removeEmoji
  cases c.tracking.emojis <;> rfl

theorem removeWebhook_fst (c : Cache) (id : String) :
    (c.removeWebhook id).1 = { c with
      webhooks := if c.tracking.webhooks then c.webhooks.erase id else c.webhooks } := by
  unfold removeWebhook
  cases c.tracking.webhooks <;> rfl

theorem removeUser_fst (c : Cache) (id : String) :
    (c.removeUser id).1 = { c with users := if c.tracking.users then c.users.erase id else c.users } := by
  unfold removeUser
  cases c.tracking.users <;> rfl

end Cache
end ChatClient
