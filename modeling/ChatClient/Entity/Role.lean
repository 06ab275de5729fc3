import ChatClient.Update.Change
import ChatClient.Update.ClearName
import ChatClient.Wire.Record
/-!
# Roles and permissions

Named sets of permissions inside a server.  Permissions are the bits of a word; an override allows some and then
denies some, so a bit that it names twice is denied.
-/
namespace ChatClient

structure PermissionOverride where
  allow : UInt64
  deny : UInt64
deriving DecidableEq, Repr, Inhabited

namespace PermissionOverride

def apply (o : PermissionOverride) (base : UInt64) : UInt64 :=
  (base ||| o.allow) &&& ~~~o.deny

def record : Record PermissionOverride PermissionOverride :=
  (Record.make PermissionOverride.mk : Record PermissionOverride _)
    |>.optional "a" (·.allow)
    |>.optional "d" (·.deny)

instance : Wire PermissionOverride := .ofRecord record

end PermissionOverride

structure Role where
  name : String
  permissions : PermissionOverride
  colour : Option String
  hoist : Bool
  rank : Int64
deriving DecidableEq, Repr, Inhabited

structure RolePatch where
  name : Option String
  permissions : Option PermissionOverride
  colour : Option String
  hoist : Option Bool
  rank : Option Int64
deriving DecidableEq, Repr, Inhabited

inductive RoleField where
  | colour
deriving DecidableEq, Repr

instance : Clearable RoleField where
  entity := "role"
  fields := [.colour]
  name
    | .colour => "Colour"

def RolePatch.record : Record RolePatch RolePatch :=
  (Record.make RolePatch.mk : Record RolePatch _)
    |>.optional "name" (·.name)
    |>.optional "permissions" (·.permissions)
    |>.optional "colour" (·.colour)
    |>.optional "hoist" (·.hoist)
    |>.optional "rank" (·.rank)

instance : Wire RolePatch := .ofRecord RolePatch.record

namespace Role

def record : Record Role Role :=
  (Record.make Role.mk : Record Role _)
    |>.optional "name" (·.name)
    |>.optional "permissions" (·.permissions)
    |>.optional "colour" (·.colour)
    |>.optional "hoist" (·.hoist)
    |>.optional "rank" (·.rank)

instance : Wire Role := .ofRecord record

def update (r : Role) (data : RolePatch) (clear : List (ClearName RoleField)) : Role where
  name := (Change.ofOption data.name).apply r.name
  permissions := (Change.ofOption data.permissions).apply r.permissions
  colour := (Change.ofOptional data.colour (ClearName.clears clear .colour)).apply r.colour
  hoist := (Change.ofOption data.hoist).apply r.hoist
  rank := (Change.ofOption data.rank).apply r.rank

end Role

end ChatClient
