import ChatClient.Http.Client
import ChatClient.Json.Printer
/-!
# Exchanges

One request from the call to its result.  The destination is settled first; then the request waits as long as its bucket
asks; then it is sent, if it can be, and the network answers or does not.  The quota that an answer tells of is taken in
whatever its status is, and only then the status decides the result.
-/
namespace ChatClient

structure Request where
  method : String
  url : Url
  headers : List Header
  body : Option Json

structure Response where
  status : Nat
  headers : List Header
  body : List UInt8

/-- What the network makes of a request: an answer after a while, or nothing ever. -/
inductive Reply where
  | response (after : Duration) (response : Response)
  | lost

abbrev Network : Type :=
  Instant → Request → Reply

/-- All there is to know about one call: the transport after it, what the bucket asked to wait, what was sent and
when, the reports, and the result. -/
structure Exchange where
  client : HttpClient
  wait : Duration
  request : Option Request
  sentAt : Instant
  reports : List Diagnostic
  result : Except RequestError (List UInt8)

namespace Response

def maxErrorBody : Nat := 1024

def shownBody (body : List UInt8) : String :=
  Text.Utf8.decodeLossy (body.take maxErrorBody)

/-- What a response brings: its body, or an error that shows the beginning of it. -/
def result (r : Response) : Except RequestError (List UInt8) :=
  if 200 ≤ r.status ∧ r.status ≤ 299 then .ok r.body else .error (.status r.status (shownBody r.body))

end Response

namespace HttpClient

/-- The request that is sent: the headers of the table, the type of the content, and the token. -/
def request (c : HttpClient) (method : String) (url : Url) (body : Option Json) : Request where
  method
  url
  headers := c.headers.toList ++
    [⟨"content-type", Text.Utf8.encode "application/json"⟩,
      ⟨Header.lower c.credentials.headerName, Text.Utf8.encode c.credentials.token⟩]
  body

/-- Whether a request can be sent: over the web, and with values that headers may have. -/
def canSend (r : Request) : Bool :=
  (r.url.scheme == "http" || r.url.scheme == "https") && r.headers.all fun h => h.value.all Header.isValueByte

def observe (c : HttpClient) (key : String) (headers : List Header) (now : Instant) : HttpClient × List Diagnostic :=
  let (limiter, result) := c.limiter.on (·.observe key headers now)
  ({ c with limiter }, match result with
    | .ok () => []
    | .error e => [e.diagnostic])

def execute (c : HttpClient) (network : Network) (now : Instant) (method destination : String) (body : Option Json) :
    Exchange :=
  match c.resolve destination with
  | .error e => ⟨c, .zero, none, now, [], .error e⟩
  | .ok url =>
    let key := RateLimiter.bucketKey method url.pathText
    let (limiter, wait) := c.limiter.on (·.acquire key now)
    let c := { c with limiter }
    let sentAt := now.plus wait
    let request := c.request method url body
    if !canSend request then ⟨c, wait, none, sentAt, [], .error .transport⟩
    else match network sentAt request with
      | .lost => ⟨c, wait, some request, sentAt, [], .error .transport⟩
      | .response after response =>
        if c.timeout.nanos < after.nanos then ⟨c, wait, some request, sentAt, [], .error .transport⟩
        else
          let (c, reports) := c.observe key response.headers (sentAt.plus after)
          ⟨c, wait, some request, sentAt, reports, response.result⟩

end HttpClient

end ChatClient
