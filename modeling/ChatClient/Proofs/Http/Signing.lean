import ChatClient.Proofs.History
import ChatClient.Proofs.Http.Destination
/-!
# What requests are signed with

A request carries the headers of the table and, behind them, the type of its content and the token.  The table knows
nothing of these: a value that is put there under one of their names is sent as well (`Edited.signedOnce_iff`).  So a
request is signed once, and says once what its content is, exactly if no edit left such a value.
-/
namespace ChatClient

open Std (ExtTreeMap)

/-! ## Edits of the table -/

inductive HeaderEdit where
  | add (name value : String)
  | set (name value : String)
  | remove (name : String)

namespace HeaderEdit

/-- The name under which there is a value after an edit; none if the edit is a removal, or its name or its value is
refused. -/
def puts? : HeaderEdit → Option String
  | .add name value | .set name value => (HeaderTable.field name value).toOption.map (·.name)
  | .remove _ => none

/-- The name under which there is no value after an edit. -/
def takes? : HeaderEdit → Option String
  | .add .. | .set .. => none
  | .remove name => some (Header.lower name)

def run (c : HttpClient) : HeaderEdit → HttpClient
  | .add name value => (c.addHeader name value).toOption.getD c
  | .set name value => (c.setHeader name value).toOption.getD c
  | .remove name => (c.removeHeader name).1

/-- **An edit decides about its own name**, and leaves all others as they are. -/
theorem mem_run (e : HeaderEdit) (c : HttpClient) (name : String) :
    name ∈ (e.run c).headers.entries ↔
      e.puts? = some name ∨ name ∈ c.headers.entries ∧ e.takes? ≠ some name := by
  cases e with
  | add n v =>
    simp only [run, puts?, takes?, HttpClient.addHeader, HeaderTable.add]
    cases HeaderTable.field n v with
    | error e => simp [Except.toOption]
    | ok h =>
      by_cases hmem : h.name ∈ c.headers.entries
      · simp only [hmem, if_true, Except.toOption, Option.getD_none, Option.map_some, Option.some.injEq]
        have hnone : none ≠ some name := (Option.some_ne_none name).symm
        constructor
        · intro hname
          exact .inr ⟨hname, hnone⟩
        · intro hputs
          rcases hputs with rfl | hname
          · exact hmem
          · exact hname.1
      · simp [hmem, Except.toOption, ExtTreeMap.mem_insert]
  | set n v =>
    simp only [run, puts?, takes?, HttpClient.setHeader, HeaderTable.set]
    cases HeaderTable.field n v with
    | error e => simp [Except.toOption]
    | ok h => simp [Except.toOption, ExtTreeMap.mem_insert]
  | remove n =>
    simp only [run, puts?, takes?, HttpClient.removeHeader, HeaderTable.remove, ExtTreeMap.mem_erase]
    simp [and_comm]

/-- **A value stays under a name**: an edit put one there, and no later one took it away. -/
def Stays (name : String) (edits : List HeaderEdit) : Prop :=
  ∃ before e after, edits = before ++ e :: after ∧ e.puts? = some name ∧
    ∀ later ∈ after, later.takes? ≠ some name

theorem not_stays_nil (name : String) : ¬Stays name [] := by
  rintro ⟨before, e, after, hedits, -⟩
  cases before <;> cases hedits

theorem stays_append (name : String) (edits : List HeaderEdit) (e : HeaderEdit) :
    Stays name (edits ++ [e]) ↔ e.puts? = some name ∨ Stays name edits ∧ e.takes? ≠ some name :=
  exists_split_append edits e

end HeaderEdit

namespace HttpClient

open HeaderEdit (Stays)

/-- **A transport in use and the edits of its headers so far**, refused ones included. -/
inductive Edited : HttpClient → List HeaderEdit → Prop where
  | ofConfig {credentials : Credentials} {config : HttpConfig} {now : Instant} {c : HttpClient} :
      HttpClient.ofConfig credentials config now = .ok c → Edited c []
  | edit {c : HttpClient} {edits : List HeaderEdit} {e : HeaderEdit} : Edited c edits → Edited (e.run c) (edits ++ [e])
  | setTimeout {c c' : HttpClient} {edits : List HeaderEdit} {timeout : Duration} :
      Edited c edits → c.setTimeout timeout = .ok c' → Edited c' edits
  | execute {c : HttpClient} {edits : List HeaderEdit} {network : Network} {now : Instant} {method destination : String}
      {body : Option Json} : Edited c edits → Edited (c.execute network now method destination body).client edits
  | tick {c : HttpClient} {edits : List HeaderEdit} {now : Instant} : Edited c edits → Edited (c.tick now) edits
  | close {c : HttpClient} {edits : List HeaderEdit} : Edited c edits → Edited c.close edits

variable {c : HttpClient} {edits : List HeaderEdit}

theorem headers_execute (c : HttpClient) (network : Network) (now : Instant) (method destination : String)
    (body : Option Json) : (c.execute network now method destination body).client.headers = c.headers := by
  obtain ⟨limiter, hclient⟩ := c.exists_limiter_execute network now method destination body
  rw [hclient]

theorem mem_headers_ofConfig {credentials : Credentials} {config : HttpConfig} {now : Instant}
    (h : HttpClient.ofConfig credentials config now = .ok c) {name : String} (hname : name ∈ c.headers.entries) :
    name = "user-agent" := by
  have hset := (ofConfig_eq_ok h).2.2.2
  unfold HeaderTable.set HeaderTable.field at hset
  have hagent : Header.name? "user-agent" = some "user-agent" := by decide +kernel
  rw [hagent] at hset
  cases hvalue : Header.value? config.userAgent with
  | none =>
    rw [hvalue] at hset
    cases hset
  | some value =>
    rw [hvalue] at hset
    simp only [Except.ok.injEq] at hset
    rw [← hset, HeaderTable.empty, ExtTreeMap.mem_insert, Std.LawfulEqCmp.compare_eq_iff_eq] at hname
    exact (hname.resolve_right (by simp)).symm

/-- **What is in the table is what the edits left there**, the one header apart that was there at first. -/
theorem Edited.mem_headers (h : Edited c edits) {name : String} (hname : name ≠ "user-agent") :
    name ∈ c.headers.entries ↔ Stays name edits := by
  induction h with
  | ofConfig h =>
    exact ⟨fun hmem => absurd (mem_headers_ofConfig h hmem) hname, fun h => absurd h (HeaderEdit.not_stays_nil name)⟩
  | edit _ ih => rw [HeaderEdit.mem_run, HeaderEdit.stays_append, ih]
  | setTimeout _ h ih =>
    obtain ⟨_, rfl⟩ := setTimeout_eq_ok h
    exact ih
  | execute _ ih =>
    rw [headers_execute]
    exact ih
  | tick _ ih => exact ih
  | close _ ih => exact ih

end HttpClient

/-! ## Requests -/

namespace HeaderTable

theorem filter_toList_eq_nil_iff (t : HeaderTable) (p : String → Bool) :
    (t.toList.filter fun h => p h.name) = [] ↔ ∀ name, p name = true → name ∉ t.entries := by
  rw [List.filter_eq_nil_iff]
  constructor
  · intro h name hp hmem
    obtain ⟨value, hvalue⟩ := ExtTreeMap.isSome_getElem?_iff_mem.2 hmem |> Option.isSome_iff_exists.1
    exact h ⟨name, value⟩
      (List.mem_map.2 ⟨(name, value), ExtTreeMap.mem_toList_iff_getElem?_eq_some.2 hvalue, rfl⟩) hp
  · intro h field hfield hp
    obtain ⟨⟨name, value⟩, hentry, rfl⟩ := List.mem_map.1 hfield
    refine h name hp (ExtTreeMap.isSome_getElem?_iff_mem.1 ?_)
    rw [ExtTreeMap.mem_toList_iff_getElem?_eq_some.1 hentry]
    rfl

end HeaderTable

def Credentials.headerNames : List String := ["x-bot-token", "x-session-token"]

/-- The names that a request's own headers have, whatever is in the table. -/
def Request.ownNames : List String := "content-type" :: Credentials.headerNames

/-- **A request signed once**: one header says what its content is, and of those that tokens are sent in there is one
alone, with the token of the credentials. -/
structure Request.SignedOnce (r : Request) (credentials : Credentials) : Prop where
  content : (r.headers.filter fun h => h.name == "content-type") =
    [⟨"content-type", Text.Utf8.encode "application/json"⟩]
  token : (r.headers.filter fun h => Credentials.headerNames.contains h.name) =
    [⟨Header.lower credentials.headerName, Text.Utf8.encode credentials.token⟩]

namespace HttpClient

open HeaderEdit (Stays)

variable {c : HttpClient} {edits : List HeaderEdit}

def ownFields (c : HttpClient) : List Header :=
  [⟨"content-type", Text.Utf8.encode "application/json"⟩,
    ⟨Header.lower c.credentials.headerName, Text.Utf8.encode c.credentials.token⟩]

/-- Under some names a request has its own headers alone exactly if the table has none. -/
theorem filter_headers_eq_iff (c : HttpClient) (method : String) (url : Url) (body : Option Json) (p : String → Bool) :
    ((c.request method url body).headers.filter fun h => p h.name) = (c.ownFields.filter fun h => p h.name) ↔
      ∀ name, p name = true → name ∉ c.headers.entries := by
  change ((c.headers.toList ++ c.ownFields).filter fun h => p h.name) = _ ↔ _
  rw [List.filter_append, List.append_left_eq_self, HeaderTable.filter_toList_eq_nil_iff]

theorem lower_headerName (credentials : Credentials) :
    Header.lower credentials.headerName ≠ "content-type" ∧
      Header.lower credentials.headerName ∈ Credentials.headerNames := by
  have hbot : Header.lower "X-Bot-Token" = "x-bot-token" := by decide
  have hsession : Header.lower "X-Session-Token" = "x-session-token" := by decide
  cases credentials with
  | bot token =>
    rw [Credentials.headerName, hbot]
    decide
  | session token =>
    rw [Credentials.headerName, hsession]
    decide

/-- A request is signed once exactly if the table has none of its own names. -/
theorem signedOnce_request (c : HttpClient) (method : String) (url : Url) (body : Option Json) :
    (c.request method url body).SignedOnce c.credentials ↔ ∀ name ∈ Request.ownNames, name ∉ c.headers.entries := by
  obtain ⟨hne, hmem⟩ := lower_headerName c.credentials
  have hcontent := c.filter_headers_eq_iff method url body (· == "content-type")
  have htoken := c.filter_headers_eq_iff method url body Credentials.headerNames.contains
  rw [ownFields, List.filter_cons_of_pos (by decide), List.filter_cons_of_neg (by simp [hne]),
    List.filter_nil] at hcontent
  rw [ownFields, List.filter_cons_of_neg (by decide), List.filter_cons_of_pos (by simpa using hmem),
    List.filter_nil] at htoken
  have hsigned : (c.request method url body).SignedOnce c.credentials ↔ _ ∧ _ :=
    ⟨fun h => ⟨hcontent.1 h.content, htoken.1 h.token⟩, fun h => ⟨hcontent.2 h.1, htoken.2 h.2⟩⟩
  rw [hsigned, Request.ownNames, List.forall_mem_cons]
  simp only [beq_iff_eq, forall_eq, List.contains_iff_mem]

/-- **A request that is sent is signed once exactly if no edit left a value under one of its own names.** -/
theorem Edited.signedOnce_iff (h : Edited c edits) {network : Network} {now : Instant} {method destination : String}
    {body : Option Json} {r : Request} (hr : (c.execute network now method destination body).request = some r) :
    r.SignedOnce c.credentials ↔ ∀ name ∈ Request.ownNames, ¬Stays name edits := by
  obtain ⟨url, -, rfl, -⟩ := request_eq_some hr
  rw [signedOnce_request]
  refine forall₂_congr fun name hname => not_congr (h.mem_headers ?_)
  rintro rfl
  exact absurd hname (by decide)

/-- A header that tokens are sent in, which is put there and taken away again, and another that stays. -/
def passingEdits : List HeaderEdit :=
  [.add "X-Session-Token" "other", .remove "x-session-token", .set "X-Trace" "one"]

def silent : Network := fun _ _ => .lost

theorem edited_foldl (h : Edited c edits) (more : List HeaderEdit) :
    Edited (more.foldl (fun c e => e.run c) c) (edits ++ more) := by
  induction more generalizing c edits with
  | nil =>
    rw [List.append_nil]
    exact h
  | cons e more ih =>
    rw [List.append_cons]
    exact ih (.edit h)

theorem signedOnce_passingEdits :
    ∃ c r, Edited c passingEdits ∧ (c.execute silent ⟨0⟩ "GET" "/users/@me" none).request = some r ∧
      r.SignedOnce c.credentials := by
  have hok : ((HttpClient.ofConfig (.bot "token") {} ⟨0⟩).toOption.any fun c =>
      let c := passingEdits.foldl (fun c e => e.run c) c
      (c.execute silent ⟨0⟩ "GET" "/users/@me" none).request.isSome ∧
        ∀ name ∈ Request.ownNames, name ∉ c.headers.entries) = true := by
    decide +kernel
  cases hc : HttpClient.ofConfig (.bot "token") {} ⟨0⟩ with
  | error e =>
    rw [hc] at hok
    cases hok
  | ok c =>
    rw [hc, Except.toOption, Option.any_some, decide_eq_true_eq] at hok
    obtain ⟨hsent, hfree⟩ := hok
    obtain ⟨r, hr⟩ := Option.isSome_iff_exists.1 hsent
    have hedited := edited_foldl (.ofConfig hc) passingEdits
    refine ⟨_, r, hedited, hr, (hedited.signedOnce_iff hr).2 fun name hname hstays => hfree name hname ?_⟩
    refine (hedited.mem_headers ?_).2 hstays
    rintro rfl
    exact absurd hname (by decide)

theorem signedTwice :
    ∃ c r, Edited c [.add "X-Session-Token" "other", .set "Content-Type" "text/plain"] ∧
      (c.execute silent ⟨0⟩ "GET" "/users/@me" none).request = some r ∧ ¬r.SignedOnce c.credentials ∧
        ((r.headers.filter fun h => h.name == "content-type").map (·.value)) =
          ["text/plain", "application/json"].map Text.Utf8.encode ∧
        ((r.headers.filter fun h => Credentials.headerNames.contains h.name).map (·.name)) =
          ["x-session-token", "x-bot-token"] := by
  have hok : ((HttpClient.ofConfig (.bot "token") {} ⟨0⟩).toOption.any fun c =>
      let c := HeaderEdit.run (HeaderEdit.run c (.add "X-Session-Token" "other")) (.set "Content-Type" "text/plain")
      (c.execute silent ⟨0⟩ "GET" "/users/@me" none).request.any fun r =>
        ((r.headers.filter fun h => h.name == "content-type").map (·.value)) =
            ["text/plain", "application/json"].map Text.Utf8.encode ∧
          ((r.headers.filter fun h => Credentials.headerNames.contains h.name).map (·.name)) =
            ["x-session-token", "x-bot-token"]) = true := by
    decide +kernel
  cases hc : HttpClient.ofConfig (.bot "token") {} ⟨0⟩ with
  | error e =>
    rw [hc] at hok
    cases hok
  | ok c =>
    rw [hc, Except.toOption, Option.any_some, Option.any_eq_true] at hok
    obtain ⟨r, hr, hok⟩ := hok
    rw [decide_eq_true_eq] at hok
    refine ⟨_, r, edited_foldl (.ofConfig hc) _, hr, fun hsigned => ?_, hok⟩
    have htwo := congrArg List.length hok.1
    rw [hsigned.content] at htwo
    cases htwo

end HttpClient

end ChatClient
