import ChatClient.Url.Host
import ChatClient.Url.Path
/-!
# Reading URLs

A text is read as a URL of its own or, with a base, as a reference from there: what it does not say is taken from the
base.  Space and controls around it count for nothing, nor do tabs and line breaks inside it, save where one divides
the first segment of a file's path.  A text that no URL can be made of is refused, for whichever reason.
-/
namespace ChatClient.Url

/-! ## The parts of a text -/

def trim (cs : List Char) : List Char :=
  (cs.dropWhile (·.toNat ≤ 0x20)).reverse.dropWhile (·.toNat ≤ 0x20) |>.reverse

/-- The scheme in front of a colon, in lower case, and what follows. -/
def scheme? (cs : List Char) : Option (String × List Char) :=
  match cs with
  | [] => none
  | c :: _ =>
    if c.isAlpha then
      let name := cs.takeWhile fun c => c.isAlphanum || ['+', '-', '.'].contains c || isBreak c
      match cs.drop name.length with
      | ':' :: rest => some (String.ofList ((dropBreaks name).map Char.toLower), rest)
      | _ => none
    else none

def endsPath (c : Char) : Bool :=
  c == '?' || c == '#'

/-- The text of a file without tabs and line breaks, but with those that may divide a segment. -/
def fileText (cs : List Char) : List Char :=
  let segments := Text.split (isSlash true) (cs.takeWhile (!endsPath ·))
  ['/'].intercalate (segments.map keepDivision) ++ dropBreaks (cs.dropWhile (!endsPath ·))

def endsAuthority (isSpecial : Bool) (c : Char) : Bool :=
  endsPath c || isSlash isSpecial c

def queryAndFragment (kind : SchemeKind) (cs : List Char) : Option String × Option String :=
  let set := if kind.isSpecial then Percent.inCommonQuery else Percent.inQuery
  let fragment? : List Char → Option String
    | '#' :: cs => some (String.ofList (Percent.encode Percent.inFragment cs))
    | _ => none
  match cs with
  | '?' :: cs =>
    (some (String.ofList (Percent.encode set (cs.takeWhile (· != '#')))), fragment? (cs.dropWhile (· != '#')))
  | cs => (none, fragment? cs)

/-- The URL with a path that is read onto segments, a query and a fragment. -/
def withTail (scheme : String) (authority : Option Authority) (segments : List String) (cs : List Char) : Url :=
  let kind := SchemeKind.ofScheme scheme
  let (query, fragment) := queryAndFragment kind (cs.dropWhile (!endsPath ·))
  { scheme, authority, query, fragment
    path := .segments (readSegments kind segments (cs.takeWhile (!endsPath ·))) }

/-! ## Authorities -/

def userinfo (cs : List Char) : String × String :=
  let encode (cs : List Char) := String.ofList (Percent.encode Percent.inUserinfo cs)
  (encode (cs.takeWhile (· != ':')), encode ((cs.dropWhile (· != ':')).drop 1))

/-- The host at the front of an authority, and what follows it: a colon inside brackets belongs to the host. -/
def spanHost (inBrackets : Bool) : List Char → List Char × List Char
  | [] => ([], [])
  | c :: cs =>
    if c = ':' ∧ !inBrackets then ([], c :: cs)
    else
      let (host, rest) := spanHost (if c = '[' then true else if c = ']' then false else inBrackets) cs
      (c :: host, rest)

/-- The port behind a host and what follows it: digits, then nothing or what ends an authority; the port that the scheme
stands for is left out. -/
def port? (scheme : String) : List Char → Option (Option Nat × List Char)
  | ':' :: cs =>
    let digits := cs.takeWhile Char.isDigit
    let rest := cs.dropWhile Char.isDigit
    let port := Text.Decimal.value digits
    if port < UInt16.size ∧ rest.head?.all (endsAuthority true) then
      some (if digits = [] ∨ defaultPort? scheme = some port then none else some port, rest)
    else none
  | cs => some (none, cs)

def authority? (scheme : String) (cs : List Char) : Option (Authority × List Char) := do
  let isSpecial := (SchemeKind.ofScheme scheme).isSpecial
  let front := cs.takeWhile (!endsAuthority isSpecial ·)
  let back := cs.drop front.length
  let (user, address) ← match Text.splitLast? (· == '@') front with
    | none => some ([], front)
    | some ([], address) => if address = [] ∧ back ≠ [] then none else some ([], address)
    | some (user, address) => some (user, address)
  let (username, password) := userinfo user
  let (host, rest) := spanHost false address
  let host ← Host.settle? isSpecial host
  if host = [] ∧ (rest ≠ [] ∨ username ≠ "" ∨ password ≠ "") then none
  let (port, rest) ← port? scheme (rest ++ back)
  return (⟨username, password, String.ofList host, port⟩, rest)

def ofAuthority? (scheme : String) (cs : List Char) : Option Url := do
  let isSpecial := (SchemeKind.ofScheme scheme).isSpecial
  let (authority, rest) ← authority? scheme cs
  match rest with
  | [] => if isSpecial then return withTail scheme authority [] [] else
      return ⟨scheme, authority, .segments [], none, none⟩
  | c :: cs =>
    if isSlash isSpecial c then return withTail scheme authority [] cs
    else if endsPath c ∧ !isSpecial then
      let (query, fragment) := queryAndFragment .other rest
      return ⟨scheme, authority, .segments [], query, fragment⟩
    else return withTail scheme authority [] rest

/-! ## References -/

def withFragment (u : Url) (cs : List Char) : Url :=
  { u with fragment := some (String.ofList (Percent.encode Percent.inFragment cs)) }

def resolve? (base : Url) (cs : List Char) : Option Url :=
  match cs with
  | [] => some { base with fragment := none }
  | '#' :: cs => some (base.withFragment cs)
  | '?' :: _ =>
    let (query, fragment) := queryAndFragment base.kind cs
    some { base with query, fragment }
  | c :: rest =>
    if isSlash true c then
      match rest with
      | d :: after =>
        if isSlash true d then
          ofAuthority? base.scheme (if c = '/' ∧ d = '/' then after else cs.dropWhile (isSlash true))
        else some (withTail base.scheme base.authority [] rest)
      | [] => some (withTail base.scheme base.authority [] rest)
    else some (withTail base.scheme base.authority base.segments.dropLast cs)

/-! ## Files -/

def localHost : Authority :=
  ⟨"", "", "", none⟩

/-- The segments that a reference from a file is read onto, and its text there.  It leaves the file's folder as it is;
but a drive is its own folder, and one behind other segments goes on with the text, if that is no dot. -/
def fromFolder (segments : List String) (cs : List Char) : List String × List Char :=
  let last := (segments.getLast?.getD "").toList
  let first := cs.takeWhile (!endsAuthority true ·)
  if !isKeptDrive last then (segments.dropLast, cs)
  else if segments.length = 1 ∨ plainDots first = ['.'] then (segments, cs)
  else if plainDots first = ['.', '.'] then (segments.dropLast, last ++ cs.drop first.length)
  else (segments.dropLast, last ++ cs)

def startsWithDrive (cs : List Char) : Bool :=
  isDrive (cs.takeWhile (!endsAuthority true ·))

/-- The URL of a file on a host; one whose path names a drive has no host. -/
def ofFileHost? (cs : List Char) : Option Url := do
  let host := cs.takeWhile (!endsAuthority true ·)
  if isDrive host then return withTail "file" localHost [] cs
  let rest := match cs.drop host.length with
    | c :: after => if isSlash true c then after else c :: after
    | [] => []
  let host ← if host = [] then some [] else Host.settle? true host
  let isLocal := host == "localhost".toList || namesDrive [] (Text.split (isSlash true) (rest.takeWhile (!endsPath ·)))
  let authority : Authority := if isLocal then localHost else { localHost with host := String.ofList host }
  return withTail "file" authority [] rest

/-- The URL of a file, or the one that a reference from a file leads to. -/
def ofFile? (base : Option Url) (cs : List Char) : Option Url :=
  match cs with
  | c :: rest =>
    if isSlash true c then
      match rest with
      | d :: after =>
        if isSlash true d then ofFileHost? after
        else some (fromRoot rest)
      | [] => some (fromRoot rest)
    else fromHere
  | [] => fromHere
where
  /-- The file at a path on the base's host, or on the base's drive. -/
  fromRoot (rest : List Char) : Url :=
    match base with
    | some base =>
      if startsWithDrive rest then withTail "file" localHost [] rest
      else match base.segments with
        | first :: _ =>
          if isKeptDrive first.toList then withTail "file" localHost [first] rest
          else withTail "file" base.authority [] rest
        | [] => withTail "file" base.authority [] rest
    | none => withTail "file" localHost [] rest
  /-- The file that a reference from the base leads to. -/
  fromHere : Option Url :=
    match base with
    | none => some (withTail "file" localHost [] cs)
    | some base =>
      match cs with
      | [] => some { base with fragment := none }
      | '#' :: cs => some (base.withFragment cs)
      | '?' :: _ =>
        let (query, fragment) := queryAndFragment .file cs
        some { base with query, fragment }
      | _ =>
        if startsWithDrive cs then some (withTail "file" localHost [] cs)
        else
          let (segments, cs) := fromFolder base.segments cs
          some (withTail "file" base.authority segments cs)

/-! ## Whole texts -/

def ofScheme? (base : Option Url) (scheme : String) (cs : List Char) : Option Url :=
  let rest := dropBreaks cs
  match SchemeKind.ofScheme scheme with
  | .file => ofFile? (base.filter fun b => b.scheme == "file") (fileText cs)
  | .common =>
    match base with
    | some b =>
      if b.scheme = scheme ∧ (rest.takeWhile (isSlash true)).length < 2 then resolve? b rest
      else ofAuthority? scheme (rest.dropWhile (isSlash true))
    | none => ofAuthority? scheme (rest.dropWhile (isSlash true))
  | .other =>
    match rest with
    | '/' :: '/' :: rest => ofAuthority? scheme rest
    | '/' :: rest => some (withTail scheme none [] rest)
    | rest =>
      let (query, fragment) := queryAndFragment .other (rest.dropWhile (!endsPath ·))
      let text := String.ofList (Percent.encode Percent.isControl (rest.takeWhile (!endsPath ·)))
      some ⟨scheme, none, .rootless text, query, fragment⟩

def read? (base : Option Url) (cs : List Char) : Option Url :=
  let cs := trim cs
  match scheme? cs, base with
  | some (scheme, rest), base => ofScheme? base scheme rest
  | none, none => none
  | none, some b =>
    match dropBreaks cs, b.path with
    | '#' :: cs, _ => some (b.withFragment cs)
    | _, .rootless _ => none
    | plain, .segments _ => if b.kind = .file then ofFile? b (fileText cs) else resolve? b plain

def parse? (s : String) : Option Url :=
  read? none s.toList

def join? (base : Url) (s : String) : Option Url :=
  read? base s.toList

end ChatClient.Url
