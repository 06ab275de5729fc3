import ChatClient.Proofs.Http.Destination
import ChatClient.Proofs.RateLimit.Headers
import ChatClient.Proofs.RateLimit.Isolation
import ChatClient.Proofs.Url.Path
/-!
# Calls one after the other

A transport makes calls, and time passes between them and during them (`HttpClient.Used`).  What a call comes to
follows from those before it (`HttpCall.Governed`): a request is held back by the last quota that the responses to its
method and path told, if it left nothing, until that quota's time; what its own response tells is taken in by the
headers alone; and its result goes by the status and the body alone.
-/
namespace ChatClient

open Std (ExtTreeMap)

/-! ## One call -/

/-- A call: the transport on which it is made, what the network makes of it, and when and of what it is made. -/
structure HttpCall where
  client : HttpClient
  network : Network
  made : Instant
  method : String
  destination : String
  body : Option Json

namespace HttpCall

variable (r : HttpCall)

def exchange : Exchange :=
  r.client.execute r.network r.made r.method r.destination r.body

def answer? : Option (Instant × Response) :=
  r.exchange.request.bind fun request =>
    match r.network r.exchange.sentAt request with
    | .response after response =>
      if after.nanos ≤ r.client.timeout.nanos then some (r.exchange.sentAt.plus after, response) else none
    | .lost => none

/-- The first point of time at which the call can be over. -/
def ended : Instant :=
  match r.answer? with
  | some (arrived, _) => arrived
  | none => r.exchange.sentAt

def limiter : RateLimiter := r.client.limiter.limiter

def limiterAfter : RateLimiter := r.exchange.client.limiter.limiter

def key (url : Url) : String :=
  RateLimiter.bucketKey r.method url.pathText

variable {r} {url : Url}

theorem exchange_of_error {e : RequestError} (h : r.client.resolve r.destination = .error e) :
    r.exchange = ⟨r.client, .zero, none, r.made, [], .error e⟩ := by
  unfold exchange HttpClient.execute
  rw [h]

/-- **A call to an endpoint**: the bucket is asked first, and what it says is waited for.  Then a response may come. -/
structure Reaches (r : HttpCall) (url : Url) : Prop where
  sentAt : r.exchange.sentAt = r.made.plus (r.limiter.acquire (r.key url) r.made).2
  sent : HttpClient.canSend (r.client.request r.method url r.body) = true →
    r.exchange.request = some (r.client.request r.method url r.body)
  unanswered : r.answer? = none → r.limiterAfter = (r.limiter.acquire (r.key url) r.made).1
  answered : ∀ arrived response, r.answer? = some (arrived, response) →
    r.exchange.sentAt.nanos ≤ arrived.nanos ∧ r.exchange.result = response.result ∧
      r.limiterAfter = ((r.limiter.acquire (r.key url) r.made).1.observe (r.key url) response.headers arrived).1 ∧
        r.exchange.reports =
          match ((r.limiter.acquire (r.key url) r.made).1.observe (r.key url) response.headers arrived).2 with
          | .ok () => []
          | .error e => [e.diagnostic]

def asked (r : HttpCall) (url : Url) : HttpClient :=
  { r.client with limiter := (r.client.limiter.on (·.acquire (r.key url) r.made)).1 }

theorem exchange_of_ok (h : r.client.resolve r.destination = .ok url) :
    let wait := (r.limiter.acquire (r.key url) r.made).2
    let sentAt := r.made.plus wait
    let request := r.client.request r.method url r.body
    r.exchange =
      if !HttpClient.canSend request then ⟨r.asked url, wait, none, sentAt, [], .error .transport⟩
      else match r.network sentAt request with
        | .lost => ⟨r.asked url, wait, some request, sentAt, [], .error .transport⟩
        | .response after response =>
          if r.client.timeout.nanos < after.nanos then ⟨r.asked url, wait, some request, sentAt, [], .error .transport⟩
          else
            let (c, reports) := (r.asked url).observe (r.key url) response.headers (sentAt.plus after)
            ⟨c, wait, some request, sentAt, reports, response.result⟩ := by
  unfold exchange HttpClient.execute
  rw [h]
  rfl

/-- A request is sent if it can be, and whatever the network makes of it. -/
theorem request_of_ok (h : r.client.resolve r.destination = .ok url) :
    r.exchange.request =
      if HttpClient.canSend (r.client.request r.method url r.body) then some (r.client.request r.method url r.body)
      else none := by
  have hexchange := exchange_of_ok h
  dsimp only at hexchange
  cases hsend : HttpClient.canSend (r.client.request r.method url r.body) with
  | false =>
    rw [hsend] at hexchange
    rw [hexchange]
    rfl
  | true =>
    rw [hsend, Bool.not_true, if_neg Bool.false_ne_true] at hexchange
    rw [hexchange, if_pos rfl]
    split
    · rfl
    · split <;> rfl

/-- A call whose request is not sent, or is not answered in time. -/
theorem reaches_of_unanswered {request? : Option Request}
    (hexchange : r.exchange = ⟨r.asked url, (r.limiter.acquire (r.key url) r.made).2, request?,
      r.made.plus (r.limiter.acquire (r.key url) r.made).2, [], .error .transport⟩)
    (hrequest : HttpClient.canSend (r.client.request r.method url r.body) = true →
      request? = some (r.client.request r.method url r.body)) (hanswer : r.answer? = none) : r.Reaches url where
  sentAt := by rw [hexchange]
  sent hsend := by
    rw [hexchange]
    exact hrequest hsend
  unanswered _ := by
    unfold limiterAfter
    rw [hexchange]
    rfl
  answered arrived response hsome := by
    rw [hanswer] at hsome
    cases hsome

theorem reaches_of_answered {after : Duration} {response : Response}
    (hexchange : r.exchange =
      let wait := (r.limiter.acquire (r.key url) r.made).2
      let (c, reports) := (r.asked url).observe (r.key url) response.headers ((r.made.plus wait).plus after)
      ⟨c, wait, some (r.client.request r.method url r.body), r.made.plus wait, reports, response.result⟩)
    (hanswer : r.answer? = some (r.exchange.sentAt.plus after, response)) : r.Reaches url where
  sentAt := by rw [hexchange]
  sent _ := by rw [hexchange]
  unanswered hnone := by
    rw [hanswer] at hnone
    cases hnone
  answered arrived response' hsome := by
    rw [hanswer] at hsome
    cases hsome
    refine ⟨Nat.le_add_right _ _, ?_, ?_, ?_⟩
    · rw [hexchange]
    · unfold limiterAfter
      rw [hexchange]
      rfl
    · rw [hexchange]
      rfl

theorem answer?_of_sent {request : Request} {sentAt : Instant} (hrequest : r.exchange.request = some request)
    (hsentAt : r.exchange.sentAt = sentAt) :
    r.answer? =
      match r.network sentAt request with
      | .response after response =>
        if after.nanos ≤ r.client.timeout.nanos then some (sentAt.plus after, response) else none
      | .lost => none := by
  unfold answer?
  rw [hrequest, hsentAt]
  rfl

theorem reaches (h : r.client.resolve r.destination = .ok url) : r.Reaches url := by
  have hexchange := exchange_of_ok h
  dsimp only at hexchange
  cases hsend : HttpClient.canSend (r.client.request r.method url r.body) with
  | false =>
    rw [hsend] at hexchange
    refine reaches_of_unanswered hexchange (fun hcan => ?_) ?_
    · rw [hsend] at hcan
      cases hcan
    · unfold answer?
      rw [hexchange]
      rfl
  | true =>
    rw [hsend, Bool.not_true, if_neg Bool.false_ne_true] at hexchange
    cases hreply :
      r.network (r.made.plus (r.limiter.acquire (r.key url) r.made).2) (r.client.request r.method url r.body) with
    | lost =>
      rw [hreply] at hexchange
      refine reaches_of_unanswered hexchange (fun _ => rfl) ?_
      rw [answer?_of_sent (by rw [hexchange]) (by rw [hexchange]), hreply]
    | response after response =>
      rw [hreply] at hexchange
      dsimp only at hexchange
      by_cases hlate : r.client.timeout.nanos < after.nanos
      · rw [if_pos hlate] at hexchange
        refine reaches_of_unanswered hexchange (fun _ => rfl) ?_
        rw [answer?_of_sent (by rw [hexchange]) (by rw [hexchange]), hreply]
        exact if_neg (Nat.not_le.2 hlate)
      · rw [if_neg hlate] at hexchange
        refine reaches_of_answered hexchange ?_
        have hsentAt : r.exchange.sentAt = r.made.plus (r.limiter.acquire (r.key url) r.made).2 := by rw [hexchange]
        rw [answer?_of_sent (by rw [hexchange]) hsentAt, hreply, hsentAt]
        exact if_pos (Nat.not_lt.1 hlate)

/-! ## Quotas -/

/-- **The response to a call tells a quota** for an endpoint. -/
structure Tells (r : HttpCall) (method path : String) (q : Quota) : Prop where
  method_eq : r.method = method
  path_eq : ∃ url, r.client.resolve r.destination = .ok url ∧ url.pathText = path
  quota : ∃ arrived response left millis, r.answer? = some (arrived, response) ∧
    RateLimiter.TellQuota response.headers left millis ∧ q = ⟨left, arrived.plus (.ofMillis millis)⟩

/-- **The last quota of an endpoint**, among those that the responses to some calls told: no later call of the same
method and path has one. -/
def LastQuota (calls : List HttpCall) (method path : String) (q : Quota) : Prop :=
  ∃ before r after, calls = before ++ r :: after ∧ r.Tells method path q ∧
    ∀ later ∈ after, ∀ q', ¬later.Tells method path q'

def observed? (r : HttpCall) : Option (Instant × LimiterCall) :=
  match r.client.resolve r.destination, r.answer? with
  | .ok url, some (arrived, response) => some (arrived, .observe (r.key url) response.headers)
  | _, _ => none

/-- A call as transports make it: of a method without a colon, and below bases that were read. -/
structure Regular (r : HttpCall) : Prop where
  method : ':' ∉ r.method.toList
  bases : r.client.HasBases

/-- The query of a destination is not in the path that it leads to. -/
theorem plainPath_of_resolve {c : HttpClient} (hc : c.HasBases) {destination : String}
    (h : c.resolve destination = .ok url) : '?' ∉ url.pathText.toList := by
  obtain ⟨s, hbase⟩ := hc.1
  have hapi : c.apiBase.HasPlainPath := Url.hasPlainPath_of_parse? (HttpClient.base_eq_ok hbase).1
  rcases HttpClient.resolve_cases h with ⟨-, hread, -⟩ | ⟨-, hread⟩
  · refine (Url.hasPlainPath_of_read? (fun b hb => ?_) hread).pathText
    rw [← Option.some.inj hb]
    exact hapi
  · exact (Url.hasPlainPath_of_read? (fun b hb => absurd hb (Option.not_mem_none b)) hread).pathText

theorem Regular.plainPath (hr : r.Regular) (h : r.client.resolve r.destination = .ok url) : '?' ∉ url.pathText.toList :=
  plainPath_of_resolve hr.bases h

theorem sameUpToQuery_iff_eq {path path' : String} (h : '?' ∉ path.toList) (h' : '?' ∉ path'.toList) :
    RateLimiter.SameUpToQuery path path' ↔ path = path' := by
  have hwhole : ∀ {s : String}, '?' ∉ s.toList → s.toList.takeWhile (· != '?') = s.toList := by
    intro s hs
    rw [List.takeWhile_eq_self_iff]
    exact fun c hc => bne_iff_ne.2 fun heq => hs (heq ▸ hc)
  rw [RateLimiter.sameUpToQuery_iff, hwhole h, hwhole h', String.toList_inj]

theorem Regular.key_eq_iff (hr : r.Regular) (hurl : r.client.resolve r.destination = .ok url) {method path : String}
    (hmethod : ':' ∉ method.toList) (hpath : '?' ∉ path.toList) :
    r.key url = RateLimiter.bucketKey method path ↔ r.method = method ∧ url.pathText = path := by
  unfold key
  rw [RateLimiter.bucketKey_eq_iff hr.method hmethod, sameUpToQuery_iff_eq (hr.plainPath hurl) hpath]

theorem quotaOf?_observed? (hr : r.Regular) {method path : String} (hmethod : ':' ∉ method.toList)
    (hpath : '?' ∉ path.toList) (q : Quota) :
    r.observed?.bind (RateLimiter.quotaOf? (RateLimiter.bucketKey method path)) = some q ↔ r.Tells method path q := by
  constructor
  · intro h
    unfold observed? at h
    split at h
    · rename_i url arrived response hurl hanswer
      rw [Option.bind_some, RateLimiter.quotaOf?_observe] at h
      rcases RateLimiter.quota?_cases (r.key url) response.headers with ⟨-, hq⟩ |
        ⟨left, millis, htells, hq⟩ | ⟨e, -, -, hq⟩
      · rw [hq] at h
        cases h
      · rw [hq] at h
        dsimp only at h
        split at h
        · rename_i hkey
          obtain ⟨hm, hp⟩ := (hr.key_eq_iff hurl hmethod hpath).1 hkey
          exact ⟨hm, ⟨url, hurl, hp⟩, arrived, response, left, millis, hanswer, htells, (Option.some.inj h).symm⟩
        · cases h
      · rw [hq] at h
        cases h
    · cases h
  · rintro ⟨hm, ⟨url, hurl, hp⟩, arrived, response, left, millis, hanswer, htells, rfl⟩
    unfold observed?
    rw [hurl, hanswer]
    dsimp only
    rw [Option.bind_some, RateLimiter.quotaOf?_observe, RateLimiter.quota?_of_tellQuota htells]
    exact if_pos ((hr.key_eq_iff hurl hmethod hpath).2 ⟨hm, hp⟩)

def told (calls : List HttpCall) : List (Instant × LimiterCall) :=
  (calls.filterMap observed?).reverse

theorem findSome?_filterMap {α β γ : Type} (g : α → Option β) (f : β → Option γ) (as : List α) :
    (as.filterMap g).findSome? f = as.findSome? fun a => (g a).bind f := by
  induction as with
  | nil => rfl
  | cons a as ih =>
    cases hg : g a with
    | none =>
      rw [List.filterMap_cons_none hg, List.findSome?_cons, hg, ih]
      rfl
    | some b =>
      rw [List.filterMap_cons_some hg, List.findSome?_cons, List.findSome?_cons, hg, ih]
      rfl

theorem findSome?_reverse_eq_some_iff {α β : Type} {f : α → Option β} {as : List α} {b : β} :
    as.reverse.findSome? f = some b ↔
      ∃ before a after, as = before ++ a :: after ∧ f a = some b ∧ ∀ later ∈ after, f later = none := by
  rw [List.findSome?_eq_some_iff]
  constructor
  · rintro ⟨after, a, before, hsplit, ha, hafter⟩
    rw [List.reverse_eq_append_iff, List.reverse_cons, List.append_assoc, List.singleton_append] at hsplit
    exact ⟨before.reverse, a, after.reverse, hsplit, ha, fun later hlater => hafter later (List.mem_reverse.1 hlater)⟩
  · rintro ⟨before, a, after, rfl, ha, hafter⟩
    refine ⟨after.reverse, a, before.reverse, ?_, ha, fun later hlater => hafter later (List.mem_reverse.1 hlater)⟩
    rw [List.reverse_append, List.reverse_cons, List.append_assoc, List.singleton_append]

/-- **The last quota that a limiter was told for an endpoint is that of the responses to the calls.** -/
theorem lastQuota?_told {calls : List HttpCall} (hcalls : ∀ r ∈ calls, r.Regular) {method path : String}
    (hmethod : ':' ∉ method.toList) (hpath : '?' ∉ path.toList) (q : Quota) :
    RateLimiter.lastQuota? (RateLimiter.bucketKey method path) (told calls) = some q ↔
      LastQuota calls method path q := by
  have htells : ∀ r ∈ calls, ∀ q,
      r.observed?.bind (RateLimiter.quotaOf? (RateLimiter.bucketKey method path)) = some q ↔
      r.Tells method path q := fun r hr => quotaOf?_observed? (hcalls r hr) hmethod hpath
  unfold RateLimiter.lastQuota? told LastQuota
  rw [← List.filterMap_reverse, findSome?_filterMap, findSome?_reverse_eq_some_iff]
  refine exists_congr fun before => exists_congr fun r => exists_congr fun after => and_congr_right fun hsplit => ?_
  have hmem : ∀ later ∈ r :: after, later ∈ calls := by
    rw [hsplit]
    exact fun _ => List.mem_append_right before
  refine and_congr (htells r (hmem r List.mem_cons_self) q) (forall₂_congr fun later hlater => ?_)
  rw [Option.eq_none_iff_forall_ne_some]
  exact forall_congr' fun q' => not_congr (htells later (hmem later (List.mem_cons_of_mem r hlater)) q')

/-! ## What a call comes to -/

/-- **What a call comes to**, after others that were made before it.

Its request is sent at the later of the time of the call and the time of the last quota of its method and path, if
that quota left nothing, and at the time of the call otherwise.  A quota that its response tells is recorded, under
the one key and nowhere else, whatever the response is otherwise; any other response leaves the limits as they were
when the request was sent.  Malformed headers are told in one report, which names the key, and all others in none.
The result is the body of a response of success, and the status of any other with the beginning of its body. -/
structure Governed (past : List HttpCall) (r : HttpCall) : Prop where
  sent : ∀ url, r.client.resolve r.destination = .ok url →
    HttpClient.canSend (r.client.request r.method url r.body) = true →
      r.exchange.request = some (r.client.request r.method url r.body)
  held : ∀ url q, r.client.resolve r.destination = .ok url → LastQuota past r.method url.pathText q →
    q.remaining ≤ 0 → r.exchange.sentAt.nanos = max r.made.nanos q.resetAt.nanos
  passed : ∀ url, r.client.resolve r.destination = .ok url →
    (∀ q, LastQuota past r.method url.pathText q → 0 < q.remaining) → r.exchange.sentAt = r.made
  recorded : ∀ url arrived response left millis, r.client.resolve r.destination = .ok url →
    r.answer? = some (arrived, response) → RateLimiter.TellQuota response.headers left millis →
      r.limiterAfter.buckets[r.key url]? = some ⟨left, some (arrived.plus (.ofMillis millis))⟩ ∧
        ∀ other ≠ r.key url, r.limiterAfter.buckets[other]? = r.limiter.buckets[other]?
  unrecorded : ∀ url arrived response, r.client.resolve r.destination = .ok url →
    r.answer? = some (arrived, response) →
    (∀ left millis, ¬RateLimiter.TellQuota response.headers left millis) →
      r.limiterAfter = (r.limiter.acquire (r.key url) r.made).1
  malformed : ∀ url arrived response, r.client.resolve r.destination = .ok url →
    r.answer? = some (arrived, response) →
    RateLimiter.Malformed response.headers → r.exchange.reports = [.missingResetAfter (r.key url)] ∨
      ∃ header value, r.exchange.reports = [.invalidRateLimitHeader (r.key url) header value]
  wellFormed : ∀ arrived response, r.answer? = some (arrived, response) → ¬RateLimiter.Malformed response.headers →
    r.exchange.reports = []
  succeeds : ∀ arrived response, r.answer? = some (arrived, response) → 200 ≤ response.status →
    response.status ≤ 299 → r.exchange.result = .ok response.body
  fails : ∀ arrived response, r.answer? = some (arrived, response) →
    (response.status < 200 ∨ 299 < response.status) →
    r.exchange.result = .error (.status response.status (Response.shownBody response.body))

theorem exists_url_of_answer? {answer : Instant × Response} (h : r.answer? = some answer) :
    ∃ url, r.client.resolve r.destination = .ok url := by
  cases hurl : r.client.resolve r.destination with
  | ok url => exact ⟨url, rfl⟩
  | error e =>
    unfold answer? at h
    rw [exchange_of_error hurl] at h
    cases h

/-- A limiter that remembers what it was told holds a request back as the last quota says. -/
theorem sentAt_eq {past : List HttpCall} (hr : r.Regular) (hpast : ∀ p ∈ past, p.Regular)
    (hremembers : r.limiter.Remembers (told past) r.made) (hurl : r.client.resolve r.destination = .ok url) :
    (∀ q, LastQuota past r.method url.pathText q → q.remaining ≤ 0 →
      r.exchange.sentAt.nanos = max r.made.nanos q.resetAt.nanos) ∧
    ((∀ q, LastQuota past r.method url.pathText q → 0 < q.remaining) → r.exchange.sentAt = r.made) := by
  have hlast := lastQuota?_told hpast hr.method (hr.plainPath hurl)
  have hsent := (reaches hurl).sentAt
  rw [hremembers.acquire_snd] at hsent
  constructor
  · intro q hq hleft
    rw [hsent, key, (hlast q).2 hq, Quota.wait_some, if_pos hleft]
    change r.made.nanos + (q.resetAt.nanos - r.made.nanos) = _
    omega
  · intro hquota
    have hzero : Quota.wait r.made (RateLimiter.lastQuota? (r.key url) (told past)) = .zero := by
      cases hq : RateLimiter.lastQuota? (r.key url) (told past) with
      | none => rfl
      | some q => rw [Quota.wait_some, if_neg (Int.not_le.2 (hquota q ((hlast q).1 hq)))]
    rw [hsent, hzero]
    rfl

theorem governed_of_remembers {past : List HttpCall} (hr : r.Regular) (hpast : ∀ p ∈ past, p.Regular)
    (hremembers : r.limiter.Remembers (told past) r.made) : Governed past r where
  sent url hurl := (reaches hurl).sent
  held url q hurl := (sentAt_eq hr hpast hremembers hurl).1 q
  passed url hurl := (sentAt_eq hr hpast hremembers hurl).2
  recorded url arrived response left millis hurl hanswer htells := by
    obtain ⟨-, -, hlimiter, -⟩ := (reaches hurl).answered arrived response hanswer
    rw [hlimiter, RateLimiter.observe_of_tellQuota _ _ htells]
    refine ⟨ExtTreeMap.getElem?_insert_self, fun other hother => ?_⟩
    exact (RateLimiter.getElem?_insert_of_ne _ hother _).trans (r.limiter.getElem?_acquire_of_ne r.made hother)
  unrecorded url arrived response hurl hanswer huntold := by
    obtain ⟨-, -, hlimiter, -⟩ := (reaches hurl).answered arrived response hanswer
    rw [hlimiter, RateLimiter.observe_fst_of_untold _ _ _ huntold]
  malformed url arrived response hurl hanswer hmalformed := by
    obtain ⟨-, -, -, hreports⟩ := (reaches hurl).answered arrived response hanswer
    obtain ⟨e, hblames, hobserve⟩ :=
      (r.limiter.acquire (r.key url) r.made).1.observe_of_malformed (r.key url) arrived hmalformed
    rw [hobserve] at hreports
    rcases hblames with rfl | ⟨header, value, rfl⟩
    · exact .inl hreports
    · exact .inr ⟨header, value, hreports⟩
  wellFormed arrived response hanswer hwell := by
    obtain ⟨url, hurl⟩ := exists_url_of_answer? hanswer
    obtain ⟨-, -, -, hreports⟩ := (reaches hurl).answered arrived response hanswer
    rw [RateLimiter.observe_snd_of_not_malformed _ _ _ hwell] at hreports
    exact hreports
  succeeds arrived response hanswer hlow hhigh := by
    obtain ⟨url, hurl⟩ := exists_url_of_answer? hanswer
    rw [((reaches hurl).answered arrived response hanswer).2.1]
    exact if_pos ⟨hlow, hhigh⟩
  fails arrived response hanswer hstatus := by
    obtain ⟨url, hurl⟩ := exists_url_of_answer? hanswer
    rw [((reaches hurl).answered arrived response hanswer).2.1]
    refine if_neg fun h => ?_
    omega

end HttpCall

/-! ## Calls one after the other -/

namespace HttpClient

/-- **A transport in use**, the time, and the calls that were made on it so far.

Time may pass, and timers go off at any point of time that has come: a sweep that falls into a call is one that is
made after it, for a point of time before.  A call begins when the one before is over at the earliest. -/
inductive Used : HttpClient → Instant → List HttpCall → Prop where
  | ofConfig {credentials : Credentials} {config : HttpConfig} {now : Instant} {c : HttpClient} :
      HttpClient.ofConfig credentials config now = .ok c → Used c now []
  | pass {c : HttpClient} {now later : Instant} {calls : List HttpCall} :
      Used c now calls → now.nanos ≤ later.nanos → Used c later calls
  | tick {c : HttpClient} {now due : Instant} {calls : List HttpCall} :
      Used c now calls → due.nanos ≤ now.nanos → Used (c.tick due) now calls
  | setTimeout {c c' : HttpClient} {now : Instant} {calls : List HttpCall} {timeout : Duration} :
      Used c now calls → c.setTimeout timeout = .ok c' → Used c' now calls
  | addHeader {c c' : HttpClient} {now : Instant} {calls : List HttpCall} {name value : String} :
      Used c now calls → c.addHeader name value = .ok c' → Used c' now calls
  | setHeader {c c' : HttpClient} {now : Instant} {calls : List HttpCall} {name value : String} :
      Used c now calls → c.setHeader name value = .ok c' → Used c' now calls
  | removeHeader {c : HttpClient} {now : Instant} {calls : List HttpCall} {name : String} :
      Used c now calls → Used (c.removeHeader name).1 now calls
  | close {c : HttpClient} {now : Instant} {calls : List HttpCall} : Used c now calls → Used c.close now calls
  | call {r : HttpCall} {calls : List HttpCall} :
      Used r.client r.made calls → ':' ∉ r.method.toList → Used r.exchange.client r.ended (calls ++ [r])

variable {c : HttpClient} {now : Instant} {calls : List HttpCall}

theorem Used.built (h : Used c now calls) : c.Built := by
  induction h with
  | ofConfig h => exact .ofConfig h
  | pass _ _ ih => exact ih
  | tick _ _ ih => exact ih.tick
  | setTimeout _ h ih => exact ih.setTimeout h
  | addHeader _ h ih => exact ih.addHeader h
  | setHeader _ h ih => exact ih.setHeader h
  | removeHeader _ ih => exact ih.removeHeader
  | close _ ih => exact ih.close
  | @call r _ _ _ ih =>
    unfold HttpCall.exchange
    exact ih.execute

theorem Used.regular (h : Used c now calls) : ∀ r ∈ calls, r.Regular := by
  induction h with
  | ofConfig _ => exact fun r hr => absurd hr List.not_mem_nil
  | call hused hmethod ih =>
    intro r hr
    rcases List.mem_append.1 hr with hr | hr
    · exact ih r hr
    · rw [List.mem_singleton.1 hr]
      exact ⟨hmethod, hused.built.hasBases⟩
  | _ => assumption

theorem told_append (calls : List HttpCall) (r : HttpCall) :
    HttpCall.told (calls ++ [r]) = r.observed?.toList ++ HttpCall.told calls := by
  unfold HttpCall.told
  rw [List.filterMap_append, List.reverse_append]
  cases hr : r.observed? with
  | none =>
    rw [List.filterMap_cons_none hr]
    rfl
  | some call =>
    rw [List.filterMap_cons_some hr]
    rfl

/-- **One call** keeps what the limiter remembers, with what it was told in the end. -/
theorem remembers_call {r : HttpCall} (h : r.limiter.Remembers (HttpCall.told calls) r.made) :
    r.limiterAfter.Remembers (HttpCall.told (calls ++ [r])) r.ended := by
  rw [told_append]
  unfold HttpCall.observed? HttpCall.ended
  cases hurl : r.client.resolve r.destination with
  | error e =>
    have hexchange := HttpCall.exchange_of_error hurl
    have hanswer : r.answer? = none := by
      unfold HttpCall.answer?
      rw [hexchange]
      rfl
    rw [hanswer]
    unfold HttpCall.limiterAfter
    rw [hexchange]
    exact h
  | ok url =>
    have hreaches := HttpCall.reaches hurl
    have hwaited : r.made.nanos ≤ r.exchange.sentAt.nanos := by
      rw [hreaches.sentAt]
      exact Nat.le_add_right _ _
    have hasked := h.asked (r.key url) r.made
    cases hanswer : r.answer? with
    | none =>
      rw [hreaches.unanswered hanswer]
      exact hasked.mono hwaited
    | some answer =>
      obtain ⟨arrived, response⟩ := answer
      obtain ⟨hafter, -, hlimiter, -⟩ := hreaches.answered arrived response hanswer
      rw [hlimiter]
      exact (hasked.mono (Nat.le_trans hwaited hafter)).observe (r.key url) response.headers

theorem limiter_startSweeper (l : SweptLimiter) (now : Instant) (interval : Duration) :
    (l.startSweeper now interval).limiter = l.limiter := by
  unfold SweptLimiter.startSweeper
  split <;> rfl

theorem remembers_tick {l : SweptLimiter} {past : List (Instant × LimiterCall)} {due : Instant}
    (h : l.limiter.Remembers past now) (hle : due.nanos ≤ now.nanos) : (l.tick due).limiter.Remembers past now := by
  unfold SweptLimiter.tick
  split
  · exact h.swept hle
  · exact h

/-- **A limiter in use remembers what the responses to the calls told it.** -/
theorem Used.remembers (h : Used c now calls) : c.limiter.limiter.Remembers (HttpCall.told calls) now := by
  induction h with
  | ofConfig h =>
    rw [(ofConfig_eq_ok h).2.2.1, limiter_startSweeper]
    exact RateLimiter.remembers_empty _
  | pass _ hle ih => exact ih.mono hle
  | tick _ hle ih => exact remembers_tick ih hle
  | setTimeout _ h ih =>
    obtain ⟨_, rfl⟩ := setTimeout_eq_ok h
    exact ih
  | addHeader _ h ih =>
    obtain ⟨_, rfl⟩ := addHeader_eq_ok h
    exact ih
  | setHeader _ h ih =>
    obtain ⟨_, rfl⟩ := setHeader_eq_ok h
    exact ih
  | removeHeader _ ih => exact ih
  | close _ ih => exact ih
  | call _ _ ih => exact remembers_call ih

/-- Each call was made on a transport in use, after those before it. -/
theorem Used.before (h : Used c now calls) :
    ∀ before r after, calls = before ++ r :: after → Used r.client r.made before := by
  induction h with
  | ofConfig _ =>
    intro before r after hcalls
    cases before <;> cases hcalls
  | @call r' calls hused _ ih =>
    intro before r after hcalls
    rcases List.eq_nil_or_concat after with rfl | ⟨after, last, rfl⟩
    · obtain ⟨rfl, hr⟩ := List.append_inj' hcalls rfl
      cases hr
      exact hused
    · rw [List.concat_eq_append, ← List.cons_append, ← List.append_assoc] at hcalls
      exact ih before r after (List.append_inj' hcalls rfl).1
  | _ => assumption

/-- **Every call on a transport in use is governed by those before it.** -/
theorem Used.governed (h : Used c now calls) (before : List HttpCall) (r : HttpCall) (after : List HttpCall)
    (hcalls : calls = before ++ r :: after) : r.Governed before := by
  have hbefore := h.before before r after hcalls
  have hregular := h.regular
  rw [hcalls] at hregular
  exact HttpCall.governed_of_remembers (hregular r (by simp)) (fun p hp => hregular p (by simp [hp])) hbefore.remembers

/-- A server that is asked too often, and says so after a tenth of a second. -/
def tooMany : Network :=
  fun _ _ => .response (.ofMillis 100) ⟨429, RateLimiter.usedUp, Text.Utf8.encode "slow down"⟩

/-- A call that is refused for two and a half seconds, and one of the same method and path right after it. -/
def refusedOnce (c : HttpClient) : HttpCall × HttpCall :=
  let first : HttpCall := ⟨c, tooMany, ⟨0⟩, "GET", "/users/@me", none⟩
  (first, ⟨first.exchange.client, tooMany, first.ended, "GET", "users/@me?full=1", none⟩)

/-- The second call is held back by the response to the first, though that was one of failure. -/
theorem governed_refusedOnce :
    ∃ c, HttpClient.ofConfig (.bot "token") {} ⟨0⟩ = .ok c ∧
      Used (refusedOnce c).2.exchange.client (refusedOnce c).2.ended [(refusedOnce c).1, (refusedOnce c).2] ∧
        (refusedOnce c).2.Governed [(refusedOnce c).1] ∧
          (refusedOnce c).2.made = ⟨100000000⟩ ∧ (refusedOnce c).2.exchange.sentAt = ⟨2600000000⟩ := by
  have hok : ((HttpClient.ofConfig (.bot "token") {} ⟨0⟩).toOption.any fun c =>
      (refusedOnce c).2.made = ⟨100000000⟩ ∧ (refusedOnce c).2.exchange.sentAt = ⟨2600000000⟩) = true := by
    decide +kernel
  cases hc : HttpClient.ofConfig (.bot "token") {} ⟨0⟩ with
  | error e =>
    rw [hc] at hok
    cases hok
  | ok c =>
    rw [hc] at hok
    have hget : ':' ∉ "GET".toList := by decide
    have hfirst := Used.call (r := (refusedOnce c).1) (.ofConfig hc) hget
    have hsecond := Used.call (r := (refusedOnce c).2) hfirst hget
    exact ⟨c, rfl, hsecond, hsecond.governed [(refusedOnce c).1] (refusedOnce c).2 [] rfl, of_decide_eq_true hok⟩

end HttpClient

end ChatClient
