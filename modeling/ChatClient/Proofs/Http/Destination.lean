import ChatClient.Http.Exchange
import ChatClient.Proofs.Url.Below
/-!
# Where requests go

A transport keeps the two bases that it was built with (`Built`), and every request that it ever sends goes to the
host and port of one of them (`Built.keepsToBases`).  A destination that names a host of its own is compared with the
bases after it is read.  One that does not is not compared with anything: it is put behind the text of the API's base,
where nothing that it says can change the host.

A base that is a file has a way out, since the rules for files let a drive in the path take the host away.  Such a URL
is on no host, and no request is sent to it.
-/
namespace ChatClient

namespace HttpClient

/-! ## Transports in use -/

/-- **A transport in use**: built from a configuration, and then set up and used in any way. -/
inductive Built : HttpClient → Prop where
  | ofConfig {credentials : Credentials} {config : HttpConfig} {now : Instant} {c : HttpClient} :
      HttpClient.ofConfig credentials config now = .ok c → Built c
  | setTimeout {c c' : HttpClient} {timeout : Duration} : Built c → c.setTimeout timeout = .ok c' → Built c'
  | addHeader {c c' : HttpClient} {name value : String} : Built c → c.addHeader name value = .ok c' → Built c'
  | setHeader {c c' : HttpClient} {name value : String} : Built c → c.setHeader name value = .ok c' → Built c'
  | removeHeader {c : HttpClient} {name : String} : Built c → Built (c.removeHeader name).1
  | execute {c : HttpClient} {network : Network} {now : Instant} {method destination : String} {body : Option Json} :
      Built c → Built (c.execute network now method destination body).client
  | tick {c : HttpClient} {now : Instant} : Built c → Built (c.tick now)
  | close {c : HttpClient} : Built c → Built c.close

def HasBases (c : HttpClient) : Prop :=
  (∃ s, base s = .ok c.apiBase) ∧ ∃ s, base s = .ok c.cdnBase

/-- What a transport has from its configuration, the limits that it starts with, and its headers. -/
theorem ofConfig_eq_ok {credentials : Credentials} {config : HttpConfig} {now : Instant} {c : HttpClient}
    (h : HttpClient.ofConfig credentials config now = .ok c) :
    base config.apiUrl = .ok c.apiBase ∧ base config.cdnUrl = .ok c.cdnBase ∧
      c.limiter = SweptLimiter.empty.startSweeper now config.sweepInterval ∧
        HeaderTable.empty.set "user-agent" config.userAgent = .ok c.headers := by
  unfold HttpClient.ofConfig at h
  cases htimeout : checkTimeout config.requestTimeout with
  | error e =>
    rw [htimeout] at h
    cases h
  | ok timeout =>
    cases hapi : base config.apiUrl with
    | error e =>
      rw [htimeout, hapi] at h
      cases h
    | ok apiBase =>
      cases hcdn : base config.cdnUrl with
      | error e =>
        rw [htimeout, hapi, hcdn] at h
        cases h
      | ok cdnBase =>
        rw [htimeout, hapi, hcdn] at h
        cases hheaders : HeaderTable.empty.set "user-agent" config.userAgent with
        | error e =>
          rw [hheaders] at h
          cases h
        | ok headers =>
          rw [hheaders] at h
          cases h
          exact ⟨rfl, rfl, rfl, rfl⟩

theorem hasBases_ofConfig {credentials : Credentials} {config : HttpConfig} {now : Instant} {c : HttpClient}
    (h : HttpClient.ofConfig credentials config now = .ok c) : c.HasBases :=
  ⟨⟨_, (ofConfig_eq_ok h).1⟩, _, (ofConfig_eq_ok h).2.1⟩

def SameBases (c c' : HttpClient) : Prop :=
  c'.apiBase = c.apiBase ∧ c'.cdnBase = c.cdnBase

theorem HasBases.of_same {c c' : HttpClient} (h : c.HasBases) (hsame : SameBases c c') : c'.HasBases := by
  unfold HasBases
  rw [hsame.1, hsame.2]
  exact h

/-- A base was read as it is, and has a host. -/
theorem base_eq_ok {s : String} {u : Url} (h : base s = .ok u) : Url.parse? s = some u ∧ u.hostText?.isSome = true := by
  unfold base at h
  split at h
  · cases h
  · rename_i v hread
    split at h
    · rename_i hsome
      cases h
      exact ⟨hread, hsome⟩
    · cases h

theorem setTimeout_eq_ok {c c' : HttpClient} {timeout : Duration} (h : c.setTimeout timeout = .ok c') :
    ∃ timeout, c' = { c with timeout } := by
  unfold HttpClient.setTimeout at h
  split at h
  · cases h
    exact ⟨_, rfl⟩
  · cases h

theorem addHeader_eq_ok {c c' : HttpClient} {name value : String} (h : c.addHeader name value = .ok c') :
    ∃ headers, c' = { c with headers } := by
  unfold HttpClient.addHeader at h
  split at h
  · cases h
    exact ⟨_, rfl⟩
  · cases h

theorem setHeader_eq_ok {c c' : HttpClient} {name value : String} (h : c.setHeader name value = .ok c') :
    ∃ headers, c' = { c with headers } := by
  unfold HttpClient.setHeader at h
  split at h
  · cases h
    exact ⟨_, rfl⟩
  · cases h

theorem exists_limiter_execute (c : HttpClient) (network : Network) (now : Instant) (method destination : String)
    (body : Option Json) : ∃ limiter, (c.execute network now method destination body).client = { c with limiter } := by
  unfold HttpClient.execute
  split
  · exact ⟨_, rfl⟩
  · dsimp only
    split
    · exact ⟨_, rfl⟩
    · split
      · exact ⟨_, rfl⟩
      · split
        · exact ⟨_, rfl⟩
        · exact ⟨_, rfl⟩

theorem sameBases_execute (c : HttpClient) (network : Network) (now : Instant) (method destination : String)
    (body : Option Json) : SameBases c (c.execute network now method destination body).client := by
  obtain ⟨limiter, hclient⟩ := c.exists_limiter_execute network now method destination body
  rw [hclient]
  exact ⟨rfl, rfl⟩

/-- **No use of a transport changes its bases.** -/
theorem Built.hasBases {c : HttpClient} (h : c.Built) : c.HasBases := by
  induction h with
  | ofConfig h => exact hasBases_ofConfig h
  | setTimeout _ h ih =>
    obtain ⟨_, rfl⟩ := setTimeout_eq_ok h
    exact ih
  | addHeader _ h ih =>
    obtain ⟨_, rfl⟩ := addHeader_eq_ok h
    exact ih
  | setHeader _ h ih =>
    obtain ⟨_, rfl⟩ := setHeader_eq_ok h
    exact ih
  | removeHeader _ ih => exact ih
  | execute _ ih => exact ih.of_same (sameBases_execute ..)
  | tick _ ih => exact ih
  | close _ ih => exact ih

/-! ## Resolved destinations -/

open Url (Hosted StaysAt)

theorem hosted_of_base {s : String} {u : Url} (h : base s = .ok u) : ∃ a, Hosted u a :=
  Url.hosted_of_parse? (base_eq_ok h).1 (base_eq_ok h).2

theorem hostText?_of_hosted {u : Url} {a : Authority} (h : Hosted u a) : u.hostText? = some a.host := by
  simp only [Url.hostText?, h.authority, Option.bind_some, h.written.host_ne, if_false]

/-- Whether a URL below a base lost the base's host to the drive in its path: both are files, and the URL is on no
host. -/
def LosesHost (base url : Url) : Prop :=
  base.scheme = "file" ∧ url.scheme = "file" ∧ url.hostText? = none

theorem sameHost_of_staysAt {u v : Url} {a : Authority} (hu : Hosted u a) (h : StaysAt u.scheme a v) :
    sameHost v u = true ∨ LosesHost u v := by
  obtain ⟨hscheme, ⟨username, password, hv⟩ | ⟨hfile, hv⟩⟩ := h
  · left
    have hhost : v.hostText? = u.hostText? := by
      rw [hostText?_of_hosted hu]
      simp only [Url.hostText?, hv, Option.bind_some, hu.written.host_ne, if_false]
    have hport : v.effectivePort? = u.effectivePort? := by
      simp only [Url.effectivePort?, hv, hu.authority, Option.bind_some, hscheme]
    rw [sameHost, hhost, hport, beq_self_eq_true, beq_self_eq_true]
    rfl
  · exact .inr ⟨hfile, by rw [hscheme, hfile], Url.not_isSome_hostText? (.inr hv)⟩

/-- A path below a base stands behind the base's scheme and authority, and behind what the base has there. -/
theorem below_front {u : Url} {a : Authority} (h : Hosted u a) (path : List Char) :
    below u path =
      Url.front u.scheme a (Text.dropEndWhile (· == '/') u.tailText ++ '/' :: path.dropWhile (· == '/')) := by
  unfold below
  rw [Url.text_of_hosted h, Url.dropEndWhile_front h.written]
  simp only [Url.front, List.append_assoc, List.cons_append]

/-- **A destination is read in one of two ways**: against the API's base and compared with both bases, or behind the
text of the API's base. -/
theorem resolve_cases {c : HttpClient} {destination : String} {url : Url} (h : c.resolve destination = .ok url) :
    let text := Text.trimChars destination.toList
    (isAbsolute text = true ∧ Url.read? c.apiBase text = some url ∧
      (sameHost url c.apiBase = true ∨ sameHost url c.cdnBase = true)) ∨
    (isAbsolute text = false ∧ Url.read? none (below c.apiBase text) = some url) := by
  unfold resolve at h
  dsimp only at h
  split at h
  · cases h
  · split at h
    · rename_i habsolute
      split at h
      · cases h
      · rename_i hread
        split at h
        · rename_i hsame
          cases h
          exact .inl ⟨habsolute, hread, (Bool.or_eq_true ..).mp hsame⟩
        · cases h
    · rename_i hrelative
      split at h
      · cases h
      · rename_i hread
        cases h
        exact .inr ⟨Bool.eq_false_of_not_eq_true hrelative, hread⟩

theorem resolve_relative {c : HttpClient} (hc : c.HasBases) {destination : String} {url : Url}
    (h : c.resolve destination = .ok url) (hrelative : isAbsolute (Text.trimChars destination.toList) = false) :
    sameHost url c.apiBase = true ∨ LosesHost c.apiBase url := by
  obtain ⟨s, hbase⟩ := hc.1
  obtain ⟨a, ha⟩ := hosted_of_base hbase
  rcases resolve_cases h with ⟨habsolute, -⟩ | ⟨-, hread⟩
  · rw [hrelative] at habsolute
    cases habsolute
  · rw [below_front ha] at hread
    have htail := Url.startsTail_append (Url.startsTail_tailText ha) (Url.isPrefix_dropEndWhile (· == '/') _)
    exact sameHost_of_staysAt ha (Url.staysAt_of_front ha (htail _) hread)

theorem resolve_absolute {c : HttpClient} {destination : String} {url : Url} (h : c.resolve destination = .ok url)
    (habsolute : isAbsolute (Text.trimChars destination.toList) = true) :
    sameHost url c.apiBase = true ∨ sameHost url c.cdnBase = true := by
  rcases resolve_cases h with ⟨-, -, hsame⟩ | ⟨hrelative, -⟩
  · exact hsame
  · rw [habsolute] at hrelative
    cases hrelative

/-! ## Sent requests -/

theorem request_eq_some {c : HttpClient} {network : Network} {now : Instant} {method destination : String}
    {body : Option Json} {r : Request} (h : (c.execute network now method destination body).request = some r) :
    ∃ url, c.resolve destination = .ok url ∧ r = c.request method url body ∧ canSend r = true := by
  unfold execute at h
  split at h
  · cases h
  · rename_i url hurl
    dsimp only at h
    split at h
    · cases h
    · rename_i hsend
      rw [Bool.not_eq_true', Bool.not_eq_false] at hsend
      -- the three ways on differ in what the network does only
      have hr : r = c.request method url body := by
        split at h
        · cases h
          rfl
        · split at h <;> (cases h; rfl)
      rw [hr]
      exact ⟨url, hurl, rfl, hsend⟩

/-- What is sent goes to the resolved destination, and over the web. -/
theorem request_of_execute {c : HttpClient} {network : Network} {now : Instant} {method destination : String}
    {body : Option Json} {r : Request} (h : (c.execute network now method destination body).request = some r) :
    c.resolve destination = .ok r.url ∧ (r.url.scheme = "http" ∨ r.url.scheme = "https") := by
  obtain ⟨url, hurl, rfl, hsend⟩ := request_eq_some h
  rw [canSend, Bool.and_eq_true, Bool.or_eq_true, beq_iff_eq, beq_iff_eq] at hsend
  exact ⟨hurl, hsend.1⟩

/-- **Destinations that stay with the bases.**  One that names a host of its own leads to the host and port of a base
or nowhere; any other leads to those of the API's base, save that below a file it may lead to no host at all; and what
is sent, credentials and all, is sent to a base. -/
structure KeepsToBases (c : HttpClient) : Prop where
  absolute : ∀ destination url, c.resolve destination = .ok url →
    isAbsolute (Text.trimChars destination.toList) = true →
    sameHost url c.apiBase = true ∨ sameHost url c.cdnBase = true
  relative : ∀ destination url, c.resolve destination = .ok url →
    isAbsolute (Text.trimChars destination.toList) = false →
    sameHost url c.apiBase = true ∨ LosesHost c.apiBase url
  sent : ∀ network now method destination body r, (c.execute network now method destination body).request = some r →
    sameHost r.url c.apiBase = true ∨ sameHost r.url c.cdnBase = true

/-- **A transport in use keeps to its bases**, whatever destinations it is given. -/
theorem Built.keepsToBases {c : HttpClient} (h : c.Built) : c.KeepsToBases := by
  refine ⟨fun _ _ => resolve_absolute, fun _ _ => resolve_relative h.hasBases, ?_⟩
  intro network now method destination body r hr
  obtain ⟨hurl, hweb⟩ := request_of_execute hr
  by_cases habsolute : isAbsolute (Text.trimChars destination.toList) = true
  · exact resolve_absolute hurl habsolute
  · rw [Bool.not_eq_true] at habsolute
    rcases resolve_relative h.hasBases hurl habsolute with hsame | ⟨-, hfile, -⟩
    · exact .inl hsame
    · rw [hfile] at hweb
      exact absurd hweb (by decide)

theorem standard_keepsToBases :
    ∃ c, HttpClient.ofConfig (.bot "token") {} ⟨0⟩ = .ok c ∧ c.KeepsToBases := by
  have hok : (HttpClient.ofConfig (.bot "token") {} ⟨0⟩).toOption.isSome = true := by decide +kernel
  cases hc : HttpClient.ofConfig (.bot "token") {} ⟨0⟩ with
  | error e =>
    rw [hc] at hok
    cases hok
  | ok c => exact ⟨c, rfl, Built.keepsToBases (.ofConfig hc)⟩

/-- Below a file's host, a drive leads to neither base: the text of the base goes on with it, and it takes the host
away. -/
theorem drive_leaves_bases :
    ∃ c url, HttpClient.ofConfig (.bot "token") { apiUrl := "file://host" } ⟨0⟩ = .ok c ∧
      c.resolve "C:/x" = .ok url ∧
      isAbsolute (Text.trimChars "C:/x".toList) = false ∧ sameHost url c.apiBase = false ∧
      sameHost url c.cdnBase = false := by
  have hok : ((HttpClient.ofConfig (.bot "token") { apiUrl := "file://host" } ⟨0⟩).toOption.any fun c =>
      (c.resolve "C:/x").toOption.any fun url => !sameHost url c.apiBase && !sameHost url c.cdnBase) = true := by
    decide +kernel
  cases hc : HttpClient.ofConfig (.bot "token") { apiUrl := "file://host" } ⟨0⟩ with
  | error e =>
    rw [hc] at hok
    cases hok
  | ok c =>
    rw [hc] at hok
    cases hurl : c.resolve "C:/x" with
    | error e =>
      simp only [Except.toOption, hurl, Option.any_some, Option.any_none] at hok
      cases hok
    | ok url =>
      simp only [Except.toOption, hurl, Option.any_some, Bool.and_eq_true, Bool.not_eq_true'] at hok
      exact ⟨c, url, rfl, hurl, by decide, hok.1, hok.2⟩

end HttpClient
end ChatClient
