import ChatClient.Text.Decimal
/-!
# URLs

A URL in its settled form: every part is written as it stands in the URL's text, with nothing left to encode or to
resolve.  Requests go where `hostText?`  and `effectivePort?`  point; the path, without the query, names what they are
about.
-/
namespace ChatClient

/-- The schemes that are treated alike, those of files, and all others. -/
inductive SchemeKind where
  | common
  | file
  | other
deriving DecidableEq, Repr

namespace SchemeKind

def ofScheme (scheme : String) : SchemeKind :=
  if ["http", "https", "ws", "wss", "ftp"].contains scheme then .common
  else if scheme = "file" then .file
  else .other

/-- Whether URLs of the kind have hosts that are domains, a backslash as a slash, and always a path. -/
def isSpecial : SchemeKind → Bool
  | .other => false
  | _ => true

end SchemeKind

/-- Whom a URL addresses: the user that signs in, the host, where there is none the empty text, and its port. -/
structure Authority where
  username : String
  password : String
  host : String
  port : Option Nat
deriving DecidableEq, Repr

/-- The path of a URL: segments, each behind a slash, or a text that no relative URL can build on. -/
inductive UrlPath where
  | segments (segments : List String)
  | rootless (text : String)
deriving DecidableEq, Repr

structure Url where
  scheme : String
  authority : Option Authority
  path : UrlPath
  query : Option String
  fragment : Option String
deriving DecidableEq, Repr

namespace Authority

def userText (a : Authority) : String :=
  if a.username = "" ∧ a.password = "" then ""
  else a.username ++ (if a.password = "" then "" else ":" ++ a.password) ++ "@"

def portText (a : Authority) : String :=
  match a.port with
  | some port => ":" ++ String.ofList (Text.Decimal.ofNat port)
  | none => ""

def text (a : Authority) : String :=
  a.userText ++ a.host ++ a.portText

end Authority

namespace Url

def kind (u : Url) : SchemeKind :=
  .ofScheme u.scheme

def defaultPort? (scheme : String) : Option Nat :=
  if scheme = "http" ∨ scheme = "ws" then some 80
  else if scheme = "https" ∨ scheme = "wss" then some 443
  else if scheme = "ftp" then some 21
  else none

def hostText? (u : Url) : Option String :=
  u.authority.bind fun a => if a.host = "" then none else some a.host

def effectivePort? (u : Url) : Option Nat :=
  match u.authority.bind (·.port) with
  | some port => some port
  | none => defaultPort? u.scheme

def segments (u : Url) : List String :=
  match u.path with
  | .segments segments => segments
  | .rootless _ => []

def pathText (u : Url) : String :=
  match u.path with
  | .segments segments => "".intercalate (segments.map ("/" ++ ·))
  | .rootless text => text

/-- What stands between the scheme and the path.  Without an authority a path that begins with two slashes is kept from
being read as one. -/
def authorityText (u : Url) : String :=
  match u.authority, u.path with
  | some a, _ => "//" ++ a.text
  | none, .segments ("" :: _ :: _) => "/."
  | none, _ => ""

def partText (sign : String) (part : Option String) : String :=
  match part with
  | some part => sign ++ part
  | none => ""

def text (u : Url) : String :=
  u.scheme ++ ":" ++ u.authorityText ++ u.pathText ++ partText "?" u.query ++ partText "#" u.fragment

end Url

end ChatClient
