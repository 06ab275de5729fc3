import ChatClient.Cache.Basic
/-!
# Operations on the cache

Everything that changes a cache is an `Operation`, and `Cache.perform` says what it does and how it went: it was
applied, its target is not known, or its kind is not tracked.
-/
namespace ChatClient

inductive Outcome where
  | applied
  | unknownTarget
  | untracked
deriving DecidableEq, Repr

namespace Outcome

def isApplied (o : Outcome) : Bool :=
  o == .applied

def ofFound (found : Bool) : Outcome :=
  if found then .applied else .unknownTarget

end Outcome

namespace Cache

/-! ## Snapshots -/

def tableOf {α : Type} (key : α → String) (xs : List α) : Table α :=
  Std.ExtTreeMap.ofList (xs.map fun x => (key x, x)) compare

/-- The cache at the start of a session: every tracked kind is replaced.  Webhooks are no part of a snapshot. -/
def populate (c : Cache) (s : Snapshot) : Cache :=
  { c with
    currentUser := s.currentUser?
    users := if c.tracking.users then tableOf User.id s.users else c.users
    servers := if c.tracking.servers then tableOf Server.id s.servers else c.servers
    channels := if c.tracking.channels then tableOf Channel.id s.channels else c.channels
    members :=
      if c.tracking.members then Std.ExtTreeMap.ofList (s.members.map fun m => (m.id, m)) compare else c.members
    emojis := if c.tracking.emojis then tableOf Emoji.id s.emojis else c.emojis }

/-! ## Updates -/

/-- Updates a user, and the current user with it if it is the same. -/
def updateUser (c : Cache) (id : String) (data : UserPatch) (clear : List (ClearName UserField)) : Cache × Outcome :=
  let isSelf := c.isCurrentUser id
  let c := if isSelf then { c with currentUser := c.currentUser.map (·.update data clear) } else c
  if !c.tracking.users then (c, if isSelf then .applied else .untracked)
  else if id ∈ c.users then ({ c with users := c.users.modify id (·.update data clear) }, .applied)
  else (c, .ofFound isSelf)

def changeServer (c : Cache) (id : String) (f : Server → Server) : Cache × Outcome :=
  if !c.tracking.servers then (c, .untracked)
  else if id ∈ c.servers then ({ c with servers := c.servers.modify id f }, .applied)
  else (c, .unknownTarget)

def changeChannel (c : Cache) (id : String) (f : Channel → Channel) : Cache × Outcome :=
  if !c.tracking.channels then (c, .untracked)
  else if id ∈ c.channels then ({ c with channels := c.channels.modify id f }, .applied)
  else (c, .unknownTarget)

def updateServer (c : Cache) (id : String) (data : ServerPatch) (clear : List (ClearName ServerField)) :
    Cache × Outcome :=
  c.changeServer id (·.update data clear)

def updateRole (c : Cache) (serverId roleId : String) (data : RolePatch) (clear : List (ClearName RoleField)) :
    Cache × Outcome :=
  if !c.tracking.servers then (c, .untracked)
  else if (c.role? serverId roleId).isSome then
    ({ c with
        servers := c.servers.modify serverId fun s => { s with roles := s.roles.modify roleId (·.update data clear) } },
      .applied)
  else (c, .unknownTarget)

def setRoleRanks (c : Cache) (serverId : String) (ranks : List String) : Cache × Outcome :=
  c.changeServer serverId (·.setRoleRanks ranks)

def updateChannel (c : Cache) (id : String) (data : ChannelPatch) (clear : List (ClearName ChannelField)) :
    Cache × Outcome :=
  c.changeChannel id (·.update data clear)

def updateMember (c : Cache) (id : MemberId) (data : MemberPatch) (clear : List (ClearName MemberField)) :
    Cache × Outcome :=
  if !c.tracking.members then (c, .untracked)
  else if id ∈ c.members then ({ c with members := c.members.modify id (·.update data clear) }, .applied)
  else (c, .unknownTarget)

def updateWebhook (c : Cache) (id : String) (data : WebhookPatch) (clear : List (ClearName WebhookField)) :
    Cache × Outcome :=
  if !c.tracking.webhooks then (c, .untracked)
  else if id ∈ c.webhooks then ({ c with webhooks := c.webhooks.modify id (·.update data clear) }, .applied)
  else (c, .unknownTarget)

/-! ## Insertions -/

def insertServer (c : Cache) (server : Server) (channels : List Channel) (emojis : List Emoji) : Cache × Outcome :=
  if !c.tracking.servers then (c, .untracked)
  else
    ({ c with
        channels :=
          if c.tracking.channels then c.channels.insertMany (channels.map fun ch => (ch.id, ch)) else c.channels
        emojis := if c.tracking.emojis then c.emojis.insertMany (emojis.map fun e => (e.id, e)) else c.emojis
        servers := c.servers.insert server.id server },
      .applied)

/-- Adds a channel, at the end of its server's list if the server is known. -/
def insertChannel (c : Cache) (channel : Channel) : Cache × Outcome :=
  if !c.tracking.channels then (c, .untracked)
  else
    ({ c with
        servers := match channel.server with
          | some serverId => c.servers.modify serverId (·.addChannel channel.id)
          | none => c.servers
        channels := c.channels.insert channel.id channel },
      .applied)

/-- Adds a member of whom only the identity is known; a known member stays as it is. -/
def insertMember (c : Cache) (id : MemberId) : Cache × Outcome :=
  if !c.tracking.members then (c, .untracked)
  else ({ c with members := c.members.insertIfNew id (.ofId id) }, .applied)

def insertEmoji (c : Cache) (emoji : Emoji) : Cache × Outcome :=
  if !c.tracking.emojis then (c, .untracked)
  else ({ c with emojis := c.emojis.insert emoji.id emoji }, .applied)

def insertWebhook (c : Cache) (webhook : Webhook) : Cache × Outcome :=
  if !c.tracking.webhooks then (c, .untracked)
  else ({ c with webhooks := c.webhooks.insert webhook.id webhook }, .applied)

def addRecipient (c : Cache) (channelId userId : String) : Cache × Outcome :=
  c.changeChannel channelId (·.addRecipient userId)

/-! ## Removals -/

/-- The cache without a server, the channels it lists and its members; nothing changes if the server is not known. -/
def withoutServer (c : Cache) (id : String) : Cache :=
  match c.server? id with
  | none => c
  | some s =>
    { c with
      servers := c.servers.erase id
      channels := c.channels.eraseMany s.channels
      members := c.members.filter fun m _ => m.server != id }

def removeServer (c : Cache) (id : String) : Cache × Outcome :=
  if !c.tracking.servers then (c, .untracked)
  else (c.withoutServer id, .ofFound (decide (id ∈ c.servers)))

/-- The first server, in the order of identities, that lists a channel. -/
def serverListing? (c : Cache) (channelId : String) : Option String :=
  (c.servers.toList.find? fun e => e.2.channels.contains channelId).map Prod.fst

/-- Removes a channel, also from the list of its server.  A channel that is not known or names no server is taken off
the list of a server that shows it. -/
def removeChannel (c : Cache) (id : String) : Cache × Outcome :=
  if !c.tracking.channels then (c, .untracked)
  else
    let channel? := c.channel? id
    let serverId? := match channel?.bind (·.server) with
      | some serverId => some serverId
      | none => c.serverListing? id
    ({ c with
        channels := c.channels.erase id
        servers := match serverId? with
          | some serverId => c.servers.modify serverId (·.removeChannel id)
          | none => c.servers },
      .ofFound channel?.isSome)

/-- Removes a member; when the current user leaves, the server goes with its channels and members. -/
def removeMember (c : Cache) (id : MemberId) : Cache × Outcome :=
  let leftSelf := c.isCurrentUser id.user
  let c := if leftSelf then c.withoutServer id.server else c
  if !c.tracking.members then (c, if leftSelf then .applied else .untracked)
  else ({ c with members := c.members.erase id }, .ofFound (decide (id ∈ c.members) || leftSelf))

/-- Removes a user from the recipients of a channel; when the current user leaves, the channel goes. -/
def removeRecipient (c : Cache) (channelId userId : String) : Cache × Outcome :=
  if !c.tracking.channels then (c, .untracked)
  else if c.isCurrentUser userId then
    ({ c with channels := c.channels.erase channelId }, .ofFound (decide (channelId ∈ c.channels)))
  else c.changeChannel channelId (·.removeRecipient userId)

def removeRole (c : Cache) (serverId roleId : String) : Cache × Outcome :=
  if !c.tracking.servers then (c, .untracked)
  else
    ({ c with servers := c.servers.modify serverId fun s => { s with roles := s.roles.erase roleId } },
      .ofFound (c.role? serverId roleId).isSome)

def removeEmoji (c : Cache) (id : String) : Cache × Outcome :=
  if !c.tracking.emojis then (c, .untracked)
  else ({ c with emojis := c.emojis.erase id }, .ofFound (decide (id ∈ c.emojis)))

def removeWebhook (c : Cache) (id : String) : Cache × Outcome :=
  if !c.tracking.webhooks then (c, .untracked)
  else ({ c with webhooks := c.webhooks.erase id }, .ofFound (decide (id ∈ c.webhooks)))

def removeUser (c : Cache) (id : String) : Cache × Outcome :=
  if !c.tracking.users then (c, .untracked)
  else ({ c with users := c.users.erase id }, .ofFound (decide (id ∈ c.users)))

/-! ## All operations -/

inductive Operation where
  | populate (snapshot : Snapshot)
  | updateUser (id : String) (data : UserPatch) (clear : List (ClearName UserField))
  | updateServer (id : String) (data : ServerPatch) (clear : List (ClearName ServerField))
  | updateRole (serverId roleId : String) (data : RolePatch) (clear : List (ClearName RoleField))
  | setRoleRanks (serverId : String) (ranks : List String)
  | updateChannel (id : String) (data : ChannelPatch) (clear : List (ClearName ChannelField))
  | updateMember (id : MemberId) (data : MemberPatch) (clear : List (ClearName MemberField))
  | updateWebhook (id : String) (data : WebhookPatch) (clear : List (ClearName WebhookField))
  | insertServer (server : Server) (channels : List Channel) (emojis : List Emoji)
  | insertChannel (channel : Channel)
  | insertMember (id : MemberId)
  | insertEmoji (emoji : Emoji)
  | insertWebhook (webhook : Webhook)
  | addRecipient (channelId userId : String)
  | removeServer (id : String)
  | removeChannel (id : String)
  | removeMember (id : MemberId)
  | removeRecipient (channelId userId : String)
  | removeRole (serverId roleId : String)
  | removeEmoji (id : String)
  | removeWebhook (id : String)
  | removeUser (id : String)

/-- The cache after an operation, and how it went; a snapshot can always be taken over. -/
def perform (c : Cache) : Operation → Cache × Outcome
  | .populate s => (c.populate s, .applied)
  | .updateUser id data clear => c.updateUser id data clear
  | .updateServer id data clear => c.updateServer id data clear
  | .updateRole serverId roleId data clear => c.updateRole serverId roleId data clear
  | .setRoleRanks serverId ranks => c.setRoleRanks serverId ranks
  | .updateChannel id data clear => c.updateChannel id data clear
  | .updateMember id data clear => c.updateMember id data clear
  | .updateWebhook id data clear => c.updateWebhook id data clear
  | .insertServer server channels emojis => c.insertServer server channels emojis
  | .insertChannel channel => c.insertChannel channel
  | .insertMember id => c.insertMember id
  | .insertEmoji emoji => c.insertEmoji emoji
  | .insertWebhook webhook => c.insertWebhook webhook
  | .addRecipient channelId userId => c.addRecipient channelId userId
  | .removeServer id => c.removeServer id
  | .removeChannel id => c.removeChannel id
  | .removeMember id => c.removeMember id
  | .removeRecipient channelId userId => c.removeRecipient channelId userId
  | .removeRole serverId roleId => c.removeRole serverId roleId
  | .removeEmoji id => c.removeEmoji id
  | .removeWebhook id => c.removeWebhook id
  | .removeUser id => c.removeUser id

def run (c : Cache) (ops : List Operation) : Cache :=
  ops.foldl (fun c op => (c.perform op).1) c

end Cache

end ChatClient
