import ChatClient.Cache.Operation
import ChatClient.Event.Basic
/-!
# Effects of events on the cache

The one operation on the cache that an event stands for, if it stands for any, and whom to name when its target is not
known.  An event that brings its entity along, or a whole snapshot, names nobody: its outcome is handed on as it is.
-/
namespace ChatClient

structure Designation where
  entity : String
  id : String
deriving DecidableEq, Repr

/-- An operation on the cache, and whom to name when its target is not known. -/
structure Effect where
  operation : Cache.Operation
  target? : Option Designation

/-- The report of an outcome: of an unknown target that has a name, and of nothing else. -/
def Effect.reports (effect : Effect) (outcome : Outcome) : List Diagnostic :=
  match outcome, effect.target? with
  | .unknownTarget, some target => [.unknownTarget target.entity target.id]
  | _, _ => []

namespace Event

def effect? : Event → Option Effect
  | .ready s => some ⟨.populate s, none⟩
  | .channelCreate ch => some ⟨.insertChannel ch, none⟩
  | .channelUpdate u => some ⟨.updateChannel u.id u.data u.clear, some ⟨"channel", u.id⟩⟩
  | .channelDelete d => some ⟨.removeChannel d.id, some ⟨"channel", d.id⟩⟩
  | .channelGroupJoin p => some ⟨.addRecipient p.id p.user, some ⟨"channel", p.id⟩⟩
  | .channelGroupLeave p => some ⟨.removeRecipient p.id p.user, some ⟨"channel", p.id⟩⟩
  | .serverCreate s => some ⟨.insertServer s.server s.channels s.emojis, none⟩
  | .serverUpdate u => some ⟨.updateServer u.id u.data u.clear, some ⟨"server", u.id⟩⟩
  | .serverDelete d => some ⟨.removeServer d.id, some ⟨"server", d.id⟩⟩
  | .serverMemberUpdate u => some ⟨.updateMember u.id u.data u.clear, some ⟨"member", u.id.text⟩⟩
  | .serverMemberJoin p => some ⟨.insertMember ⟨p.id, p.user⟩, none⟩
  | .serverMemberLeave p =>
      some ⟨.removeMember ⟨p.id, p.user⟩, some ⟨"member", (⟨p.id, p.user⟩ : MemberId).text⟩⟩
  | .serverRoleUpdate u => some ⟨.updateRole u.id.server u.id.role u.data u.clear, some ⟨"role", u.id.role⟩⟩
  | .serverRoleDelete d => some ⟨.removeRole d.id d.roleId, some ⟨"role", d.roleId⟩⟩
  | .serverRoleRanksUpdate r => some ⟨.setRoleRanks r.id r.ranks, some ⟨"server", r.id⟩⟩
  | .userUpdate u => some ⟨.updateUser u.id u.data u.clear, some ⟨"user", u.id⟩⟩
  | .userPlatformWipe w => some ⟨.removeUser w.userId, some ⟨"user", w.userId⟩⟩
  | .emojiCreate e => some ⟨.insertEmoji e, none⟩
  | .emojiDelete d => some ⟨.removeEmoji d.id, some ⟨"emoji", d.id⟩⟩
  | .webhookCreate w => some ⟨.insertWebhook w, none⟩
  | .webhookUpdate u => some ⟨.updateWebhook u.id u.data u.clear, some ⟨"webhook", u.id⟩⟩
  | .webhookDelete d => some ⟨.removeWebhook d.id, some ⟨"webhook", d.id⟩⟩
  | .error _ | .bulk _ | .authenticated | .pong _ | .message _ | .messageUpdate _ | .messageAppend _ | .messageDelete _
  | .bulkMessageDelete _ | .messageReact _ | .messageUnreact _ | .messageRemoveReaction _ | .channelStartTyping _
  | .channelStopTyping _ | .channelAck _ | .userRelationship _ | .userSettingsUpdate _ | .unknown .. => none

end Event

/-- What the cache makes of an event: the cache after it, the outcome of its operation, and the reports. -/
structure Absorbed where
  cache : Cache
  outcome : Option Outcome
  reports : List Diagnostic

/-- The cache after an event; an update or a removal of a target that is not known is reported. -/
def Cache.absorb (c : Cache) (e : Event) : Absorbed :=
  match e.effect? with
  | none => ⟨c, none, []⟩
  | some effect =>
    let (c, outcome) := c.perform effect.operation
    ⟨c, some outcome, effect.reports outcome⟩

end ChatClient
