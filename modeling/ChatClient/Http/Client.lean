import ChatClient.Config.Basic
import ChatClient.Http.HeaderTable
import ChatClient.RateLimit.Sweeper
import ChatClient.Text.Blank
import ChatClient.Url.Parser
/-!
# The transport of requests

Where requests may go and what goes with each of them.  Requests go to two hosts only, that of the API and that of the
content server: a destination that names a host of its own must name one of these, any other is a path below the API's
base.
-/
namespace ChatClient

/-- A transport with its credentials, its two bases, the headers of every request, the timeout and the rate limits. -/
structure HttpClient where
  credentials : Credentials
  apiBase : Url
  cdnBase : Url
  headers : HeaderTable
  timeout : Duration
  limiter : SweptLimiter

namespace HttpClient

def minTimeout : Duration := .ofSecs 1

def maxTimeout : Duration := .ofSecs 300

def checkTimeout (timeout : Duration) : Except RequestError Duration :=
  if minTimeout.nanos ≤ timeout.nanos ∧ timeout.nanos ≤ maxTimeout.nanos then .ok timeout
  else .error (.invalidTimeout timeout)

/-- The base that a text spells; it must have a host. -/
def base (s : String) : Except RequestError Url :=
  match Url.parse? s with
  | none => .error (.invalidUrl s .unreadable)
  | some u => if u.hostText?.isSome then .ok u else .error (.invalidUrl s .missingHost)

/-- A transport as it is configured; its limits are swept from now on. -/
def ofConfig (credentials : Credentials) (config : HttpConfig) (now : Instant) : Except RequestError HttpClient := do
  let timeout ← checkTimeout config.requestTimeout
  let apiBase ← base config.apiUrl
  let cdnBase ← base config.cdnUrl
  let headers ← HeaderTable.empty.set "user-agent" config.userAgent
  return {
    credentials, apiBase, cdnBase, headers, timeout
    limiter := SweptLimiter.empty.startSweeper now config.sweepInterval }

def close (c : HttpClient) : HttpClient :=
  { c with limiter := c.limiter.shutdown }

def tick (c : HttpClient) (now : Instant) : HttpClient :=
  { c with limiter := c.limiter.tick now }

/-! ## Settings -/

def setTimeout (c : HttpClient) (timeout : Duration) : Except RequestError HttpClient :=
  match checkTimeout timeout with
  | .ok timeout => .ok { c with timeout }
  | .error e => .error e

def addHeader (c : HttpClient) (name value : String) : Except RequestError HttpClient :=
  match c.headers.add name value with
  | .ok headers => .ok { c with headers }
  | .error e => .error e

def setHeader (c : HttpClient) (name value : String) : Except RequestError HttpClient :=
  match c.headers.set name value with
  | .ok headers => .ok { c with headers }
  | .error e => .error e

/-- Takes a header away; says whether it was there. -/
def removeHeader (c : HttpClient) (name : String) : HttpClient × Bool :=
  let (headers, removed) := c.headers.remove name
  ({ c with headers }, removed)

/-! ## Destinations -/

def sameHost (a b : Url) : Bool :=
  a.hostText? == b.hostText? && a.effectivePort? == b.effectivePort?

def isAbsolute (destination : List Char) : Bool :=
  ['/', '/'].isPrefixOf destination || Text.isWithin [':', '/', '/'] destination

/-- The text of a URL below a base: one slash between the base and the path. -/
def below (base : Url) (path : List Char) : List Char :=
  Text.dropEndWhile (· == '/') base.text.toList ++ '/' :: path.dropWhile (· == '/')

def resolve (c : HttpClient) (destination : String) : Except RequestError Url :=
  let destination := Text.trimChars destination.toList
  let unreadable : RequestError := .invalidUrl (String.ofList destination) .unreadable
  if destination = [] then .error .emptyDestination
  else if isAbsolute destination then
    match Url.read? c.apiBase destination with
    | none => .error unreadable
    | some u =>
      if sameHost u c.apiBase || sameHost u c.cdnBase then .ok u else .error (.externalUrl (u.hostText?.getD ""))
  else
    match Url.read? none (below c.apiBase destination) with
    | none => .error unreadable
    | some u => .ok u

def summary (c : HttpClient) : String :=
  "HttpClient \x7b credentials: " ++ c.credentials.summary ++ ", api_base: " ++ Text.quote c.apiBase.text ++
    ", cdn_base: " ++ Text.quote c.cdnBase.text ++ ", timeout: " ++ c.timeout.brief ++ ", buckets: " ++
    String.ofList (Text.Decimal.ofNat c.limiter.size) ++ " \x7d"

end HttpClient

end ChatClient
