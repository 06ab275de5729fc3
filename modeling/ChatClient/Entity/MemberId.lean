import ChatClient.Wire.Record
/-!
# Identifiers

Entities are named by texts, except the members of a server: they are named by the server and the user together, and
shown with a colon between the two.  `MemberId.parse` reads that form back where both halves are there; the first
colon divides.
-/
namespace ChatClient

structure MemberId where
  server : String
  user : String
deriving DecidableEq, Repr, Inhabited

namespace MemberId

/-- Memberships are ordered by server, then by user. -/
instance : Ord MemberId where
  compare := compareLex (compareOn server) (compareOn user)

instance : Std.TransOrd MemberId :=
  inferInstanceAs (Std.TransCmp (compareLex (compareOn server) (compareOn user)))

instance : Std.LawfulEqOrd MemberId where
  eq_of_compare {a b} h := by
    obtain ⟨h₁, h₂⟩ :=
      Ordering.then_eq_eq.1 (show (compare a.server b.server).then (compare a.user b.user) = .eq from h)
    have h₁ := Std.LawfulEqCmp.eq_of_compare h₁
    have h₂ := Std.LawfulEqCmp.eq_of_compare h₂
    cases a; cases b; simp_all

def text (id : MemberId) : String :=
  id.server ++ ":" ++ id.user

inductive ParseError where
  | invalidFormat
deriving DecidableEq, Repr

def ParseError.message : ParseError → String
  | .invalidFormat => "invalid member id format, expected `server:user`"

/-- The identity that a text shows: what stands before the first colon and what stands after it. -/
def parse (s : String) : Except ParseError MemberId :=
  let server := s.toList.takeWhile (· != ':')
  match s.toList.dropWhile (· != ':') with
  | ':' :: user =>
    if server ≠ [] ∧ user ≠ [] then .ok ⟨String.ofList server, String.ofList user⟩ else .error .invalidFormat
  | _ => .error .invalidFormat

def record : Record MemberId MemberId :=
  (Record.make MemberId.mk : Record MemberId _)
    |>.required "server" (·.server)
    |>.required "user" (·.user)

instance : Wire MemberId := .ofRecord record

end MemberId

inductive EntityId where
  | plain (id : String)
  | member (id : MemberId)
deriving DecidableEq, Repr, Inhabited

namespace EntityId

def plain? : EntityId → Option String
  | .plain id => some id
  | .member _ => none

def member? : EntityId → Option MemberId
  | .plain _ => none
  | .member id => some id

def text : EntityId → String
  | .plain id => id
  | .member id => id.text

/-- A plain identity is a string, any other a membership; either way all of it must be readable. -/
instance : Wire EntityId where
  write
    | .plain id => Wire.write id
    | .member id => Wire.write id
  read? v := (Readable.json? v).bind fun _ =>
    match (Wire.read? v : Option String) with
    | some id => some (.plain id)
    | none => (Wire.read? v : Option MemberId).map .member

end EntityId

end ChatClient
