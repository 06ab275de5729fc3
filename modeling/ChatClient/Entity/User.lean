import ChatClient.Entity.Attachment
import ChatClient.Update.Change
import ChatClient.Update.ClearName
import ChatClient.Wire.Variant
/-!
# Users

Accounts, people and bots alike, and the updates that change them.  A user's status and profile are replaced as a whole;
their parts can only be cleared one by one, which happens after the rest of the update.
-/
namespace ChatClient

inductive RelationshipStatus where
  | none
  | user
  | friend
  | outgoing
  | incoming
  | blocked
  | blockedOther
deriving DecidableEq, Repr, Inhabited

namespace RelationshipStatus

def name : RelationshipStatus → String
  | .none => "None"
  | .user => "User"
  | .friend => "Friend"
  | .outgoing => "Outgoing"
  | .incoming => "Incoming"
  | .blocked => "Blocked"
  | .blockedOther => "BlockedOther"

/-- The status of a name; names that are not known stand for no relationship. -/
def ofName : String → RelationshipStatus
  | "User" => .user
  | "Friend" => .friend
  | "Outgoing" => .outgoing
  | "Incoming" => .incoming
  | "Blocked" => .blocked
  | "BlockedOther" => .blockedOther
  | _ => .none

instance : Wire RelationshipStatus where
  write s := .string s.name
  read? v := Wire.readName? (fun s => some (ofName s)) v

end RelationshipStatus

inductive Presence where
  | online
  | idle
  | focus
  | busy
  | invisible
deriving DecidableEq, Repr, Inhabited

namespace Presence

def name : Presence → String
  | .online => "Online"
  | .idle => "Idle"
  | .focus => "Focus"
  | .busy => "Busy"
  | .invisible => "Invisible"

/-- The presence of a name; a user with a name that is not known cannot be seen. -/
def ofName : String → Presence
  | "Online" => .online
  | "Idle" => .idle
  | "Focus" => .focus
  | "Busy" => .busy
  | _ => .invisible

instance : Wire Presence where
  write p := .string p.name
  read? v := Wire.readName? (fun s => some (ofName s)) v

end Presence

structure UserStatus where
  text : Option String
  presence : Option Presence
deriving DecidableEq, Repr, Inhabited

def UserStatus.record : Record UserStatus UserStatus :=
  (Record.make UserStatus.mk : Record UserStatus _)
    |>.optional "text" (·.text)
    |>.optional "presence" (·.presence)

instance : Wire UserStatus := .ofRecord UserStatus.record

structure UserProfile where
  content : Option String
  background : Option Attachment
deriving DecidableEq, Repr, Inhabited

def UserProfile.record : Record UserProfile UserProfile :=
  (Record.make UserProfile.mk : Record UserProfile _)
    |>.optional "content" (·.content)
    |>.optional "background" (·.background)

instance : Wire UserProfile := .ofRecord UserProfile.record

structure UserRelation where
  id : String
  status : RelationshipStatus
deriving DecidableEq, Repr, Inhabited

def UserRelation.record : Record UserRelation UserRelation :=
  (Record.make UserRelation.mk : Record UserRelation _)
    |>.optional "_id" (·.id)
    |>.optional "status" (·.status)

instance : Wire UserRelation := .ofRecord UserRelation.record

structure BotInformation where
  owner : String
deriving DecidableEq, Repr, Inhabited

def BotInformation.record : Record BotInformation BotInformation :=
  (Record.make BotInformation.mk : Record BotInformation _)
    |>.optional "owner" (·.owner)

instance : Wire BotInformation := .ofRecord BotInformation.record

structure User where
  id : String
  username : String
  discriminator : String
  displayName : Option String
  avatar : Option Attachment
  relations : List UserRelation
  badges : UInt32
  status : Option UserStatus
  profile : Option UserProfile
  flags : UInt32
  privileged : Bool
  bot : Option BotInformation
  relationship : RelationshipStatus
  online : Bool
deriving DecidableEq, Repr, Inhabited

structure UserPatch where
  username : Option String
  discriminator : Option String
  displayName : Option String
  avatar : Option Attachment
  badges : Option UInt32
  status : Option UserStatus
  profile : Option UserProfile
  flags : Option UInt32
  online : Option Bool
deriving DecidableEq, Repr, Inhabited

inductive UserField where
  | avatar
  | statusText
  | statusPresence
  | profileContent
  | profileBackground
  | displayName
deriving DecidableEq, Repr

instance : Clearable UserField where
  entity := "user"
  fields := [.avatar, .statusText, .statusPresence, .profileContent, .profileBackground, .displayName]
  name
    | .avatar => "Avatar"
    | .statusText => "StatusText"
    | .statusPresence => "StatusPresence"
    | .profileContent => "ProfileContent"
    | .profileBackground => "ProfileBackground"
    | .displayName => "DisplayName"

def UserPatch.record : Record UserPatch UserPatch :=
  (Record.make UserPatch.mk : Record UserPatch _)
    |>.optional "username" (·.username)
    |>.optional "discriminator" (·.discriminator)
    |>.optional "display_name" (·.displayName)
    |>.optional "avatar" (·.avatar)
    |>.optional "badges" (·.badges)
    |>.optional "status" (·.status)
    |>.optional "profile" (·.profile)
    |>.optional "flags" (·.flags)
    |>.optional "online" (·.online)

instance : Wire UserPatch := .ofRecord UserPatch.record

namespace User

def record : Record User User :=
  (Record.make User.mk : Record User _)
    |>.optional "_id" (·.id)
    |>.optional "username" (·.username)
    |>.optional "discriminator" (·.discriminator)
    |>.optional "display_name" (·.displayName)
    |>.optional "avatar" (·.avatar)
    |>.optional "relations" (·.relations)
    |>.optional "badges" (·.badges)
    |>.optional "status" (·.status)
    |>.optional "profile" (·.profile)
    |>.optional "flags" (·.flags)
    |>.optional "privileged" (·.privileged)
    |>.optional "bot" (·.bot)
    |>.optional "relationship" (·.relationship)
    |>.optional "online" (·.online)

instance : Wire User := .ofRecord record

def name (u : User) : String :=
  u.displayName.getD u.username

def tag (u : User) : String :=
  u.username ++ "#" ++ u.discriminator

def isBot (u : User) : Bool :=
  u.bot.isSome

def clearStatus (clear : List (ClearName UserField)) (s : UserStatus) : UserStatus where
  text := if ClearName.clears clear .statusText then none else s.text
  presence := if ClearName.clears clear .statusPresence then none else s.presence

def clearProfile (clear : List (ClearName UserField)) (p : UserProfile) : UserProfile where
  content := if ClearName.clears clear .profileContent then none else p.content
  background := if ClearName.clears clear .profileBackground then none else p.background

def update (u : User) (data : UserPatch) (clear : List (ClearName UserField)) : User :=
  { u with
    username := (Change.ofOption data.username).apply u.username
    discriminator := (Change.ofOption data.discriminator).apply u.discriminator
    displayName := (Change.ofOptional data.displayName (ClearName.clears clear .displayName)).apply u.displayName
    avatar := (Change.ofOptional data.avatar (ClearName.clears clear .avatar)).apply u.avatar
    badges := (Change.ofOption data.badges).apply u.badges
    status := ((Change.ofOptional data.status false).apply u.status).map (clearStatus clear)
    profile := ((Change.ofOptional data.profile false).apply u.profile).map (clearProfile clear)
    flags := (Change.ofOption data.flags).apply u.flags
    online := (Change.ofOption data.online).apply u.online }

end User

end ChatClient
