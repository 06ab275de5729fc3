import ChatClient.Url.Address
import ChatClient.Url.Domain
import ChatClient.Url.Percent
/-!
# Hosts

The text of a host inside a URL in its settled form.  Under the common schemes a host is a domain or an address and is
read as such; under any other it is taken as it is written, apart from an address in brackets.  A settled host reads
as itself, so that a URL can be read again from its own text.
-/
namespace ChatClient.Host

def bracketed? (cs : List Char) : Option (List Char) :=
  match cs.getLast? with
  | some ']' => (Ipv6.parse? cs.dropLast).map fun a => '[' :: a.text ++ [']']
  | _ => none

def common? (cs : List Char) : Option (List Char) :=
  match cs with
  | '[' :: cs => bracketed? cs
  | cs =>
    match Domain.ofBytes? (Percent.decode cs) with
    | some [] => none
    | some domain => if Ipv4.isMeant domain then (Ipv4.parse? domain).map Ipv4.text else some domain
    | none => none

def isForbidden (c : Char) : Bool :=
  ['\x00', '\t', '\n', '\r', ' ', '#', '/', ':', '<', '>', '?', '@', '[', '\\', ']', '^', '|'].contains c

def verbatim? (cs : List Char) : Option (List Char) :=
  match cs with
  | '[' :: cs => bracketed? cs
  | cs => if cs.any isForbidden then none else some (Percent.encode Percent.isControl cs)

/-- The settled form of a host, where it can be read at all and reads as itself. -/
def settle? (isCommon : Bool) (cs : List Char) : Option (List Char) :=
  let read := if isCommon then common? else verbatim?
  match read cs with
  | some host => if read host = some host then some host else none
  | none => none

end ChatClient.Host
