import ChatClient.Entity.Attachment
import ChatClient.Entity.MemberId
import ChatClient.Time.Timestamp
import ChatClient.Update.Change
import ChatClient.Update.ClearName
/-!
# Members

Users in a server.
-/
namespace ChatClient

instance : Wire Timestamp where
  write t := .string t.text
  read? v := match Readable.layer? v with
    | some (.string s) => Timestamp.parse? s.toList
    | _ => none

structure Member where
  id : MemberId
  joinedAt : Option Timestamp
  nickname : Option String
  avatar : Option Attachment
  roles : List String
  timeout : Option Timestamp
deriving DecidableEq, Repr, Inhabited

structure MemberPatch where
  joinedAt : Option Timestamp
  nickname : Option String
  avatar : Option Attachment
  roles : Option (List String)
  timeout : Option Timestamp
deriving DecidableEq, Repr, Inhabited

inductive MemberField where
  | nickname
  | avatar
  | roles
  | timeout
deriving DecidableEq, Repr

instance : Clearable MemberField where
  entity := "member"
  fields := [.nickname, .avatar, .roles, .timeout]
  name
    | .nickname => "Nickname"
    | .avatar => "Avatar"
    | .roles => "Roles"
    | .timeout => "Timeout"

def MemberPatch.record : Record MemberPatch MemberPatch :=
  (Record.make MemberPatch.mk : Record MemberPatch _)
    |>.optional "joined_at" (·.joinedAt)
    |>.optional "nickname" (·.nickname)
    |>.optional "avatar" (·.avatar)
    |>.optional "roles" (·.roles)
    |>.optional "timeout" (·.timeout)

instance : Wire MemberPatch := .ofRecord MemberPatch.record

namespace Member

def record : Record Member Member :=
  (Record.make Member.mk : Record Member _)
    |>.optional "_id" (·.id)
    |>.optional "joined_at" (·.joinedAt)
    |>.optional "nickname" (·.nickname)
    |>.optional "avatar" (·.avatar)
    |>.optional "roles" (·.roles)
    |>.optional "timeout" (·.timeout)

instance : Wire Member := .ofRecord record

def ofId (id : MemberId) : Member :=
  { (default : Member) with id }

/-- Whether the member may not write at a second since the start of 1970. -/
def isTimedOut (m : Member) (second : Int) : Bool :=
  m.timeout.any (·.isAfter second)

def update (m : Member) (data : MemberPatch) (clear : List (ClearName MemberField)) : Member :=
  { m with
    joinedAt := (Change.ofOptional data.joinedAt false).apply m.joinedAt
    nickname := (Change.ofOptional data.nickname (ClearName.clears clear .nickname)).apply m.nickname
    avatar := (Change.ofOptional data.avatar (ClearName.clears clear .avatar)).apply m.avatar
    roles := (Change.ofParts data.roles (ClearName.clears clear .roles)).apply m.roles
    timeout := (Change.ofOptional data.timeout (ClearName.clears clear .timeout)).apply m.timeout }

end Member

end ChatClient
