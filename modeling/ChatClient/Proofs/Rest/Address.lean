import ChatClient.Proofs.Http.Calls
import ChatClient.Proofs.Http.Relative
import ChatClient.Rest.Call
/-!
# What calls address

The path of an endpoint is put together from names, of which some are ids, and ids are put in as they are.  A call
finds what it names (`HttpClient.Finds`) if its path leads to the API's base and from there on by one segment for each
name.  It does so exactly if its ids are plain, and then it shares its URL and its bucket with no call that is about
something else (`HttpClient.AddressesCalls`).  With other ids a call may be about anything at the host of the API.
-/
namespace ChatClient

open Url (PlainName Spells pathOf)

/-! ## The names of an endpoint -/

namespace Endpoint

def names : Endpoint → List String
  | .self => ["users", "@me"]
  | .user userId => ["users", userId]
  | .server serverId => ["servers", serverId]
  | .serverMember serverId userId => ["servers", serverId, "members", userId]
  | .channel channelId => ["channels", channelId]
  | .channelMessages channelId => ["channels", channelId, "messages"]
  | .channelMessage channelId messageId => ["channels", channelId, "messages", messageId]

/-- Endpoints that are about the same: one and the same endpoint, or oneself and the user whose id is `@me`. -/
def Same (e e' : Endpoint) : Prop :=
  e = e' ∨ (e = .self ∧ e' = .user "@me") ∨ (e = .user "@me" ∧ e' = .self)

theorem names_eq_iff (e e' : Endpoint) : e.names = e'.names ↔ e.Same e' := by
  cases e <;> cases e' <;> simp [names, Same]
  exact eq_comm

theorem path_toList (e : Endpoint) : e.path.toList = pathOf e.names := by
  cases e <;> simp [path, names, pathOf, List.intercalate_cons_cons, String.toList_append]

theorem path_eq_of_same {e e' : Endpoint} (h : e.Same e') : e.path = e'.path := by
  rw [← String.toList_inj, path_toList, path_toList, (names_eq_iff e e').2 h]

/-- Every path begins with a word, and goes on behind it. -/
theorem exists_path_eq (e : Endpoint) :
    ∃ word names, e.names = word :: names ∧ Url.IsScheme word ∧
      e.path.toList = word.toList ++ '/' :: pathOf names := by
  have husers : Url.IsScheme "users" := Url.isScheme_of_toList rfl rfl (by decide) (by decide)
  have hservers : Url.IsScheme "servers" := Url.isScheme_of_toList rfl rfl (by decide) (by decide)
  have hchannels : Url.IsScheme "channels" := Url.isScheme_of_toList rfl rfl (by decide) (by decide)
  obtain ⟨word, name, names, hnames, hword⟩ : ∃ word name names, e.names = word :: name :: names ∧
    Url.IsScheme word := by
    cases e with
    | self | user => exact ⟨_, _, _, rfl, husers⟩
    | server | serverMember => exact ⟨_, _, _, rfl, hservers⟩
    | channel | channelMessages | channelMessage => exact ⟨_, _, _, rfl, hchannels⟩
  refine ⟨word, name :: names, hnames, hword, ?_⟩
  rw [e.path_toList, hnames, Url.pathOf_cons word (List.cons_ne_nil _ _)]

theorem names_ne_nil (e : Endpoint) : e.names ≠ [] := by
  cases e <;> exact List.cons_ne_nil _ _

/-- The ids of an endpoint have words before them, and these do not end in colons. -/
theorem colonless (e : Endpoint) : Colonless e.names := by
  cases e <;> simp [names, Colonless]

/-- **An endpoint with plain ids**: each of its names is plain below URLs of a kind, and its path does not end in a
character that is trimmed. -/
structure IsPlain (kind : SchemeKind) (e : Endpoint) : Prop where
  names : ∀ name ∈ e.names, PlainName kind name
  inked : ∀ c, e.path.toList.getLast? = some c → Text.isBlank c = false ∧ 0x20 < c.toNat

/-- **A plain endpoint's path names no host of its own.** -/
theorem isAbsolute_path {kind : SchemeKind} {e : Endpoint} (h : ∀ name ∈ e.names, PlainName kind name) :
    HttpClient.isAbsolute e.path.toList = false := by
  obtain ⟨word, names, -, hword, hpath⟩ := e.exists_path_eq
  obtain ⟨c, cs, hcs, hc⟩ := hword.head
  have hfree : ∀ name ∈ e.names, '/' ∉ name.toList :=
    fun name hmem hslash => by cases (h name hmem).undivided '/' hslash
  have hfirst : ['/', '/'].isPrefixOf e.path.toList = false := by
    have hslash : c ≠ '/' := by rintro rfl; cases hc
    rw [hpath, hcs]
    simp [List.isPrefixOf, hslash.symm]
  rw [HttpClient.isAbsolute, hfirst, e.path_toList, isWithin_pathOf e.names_ne_nil hfree e.colonless]
  rfl

end Endpoint

namespace HttpClient

variable {c : HttpClient}

/-! ## Resolved paths -/

/-- **A URL that addresses names below a base**: it leads to the host and port of the base, the segments of its path
are those of the base and one for each name, and it has neither query nor fragment. -/
structure Addresses (base : Url) (names : List String) (url : Url) : Prop where
  place : sameHost url base = true
  path : ∃ spelled, url.path = .segments (base.stem ++ spelled) ∧ List.Forall₂ Spells spelled names
  ends : url.EndsWithPath

/-- Segments that spell names of which the first is not empty follow the stem of a base, whatever was read onto its
segments. -/
theorem sublist_of_append_eq {before more stem spelled : List String} {n : Nat}
    (hbefore : before <+: stem ++ List.replicate n "") (h : before ++ more = stem ++ spelled)
    (hfirst : spelled.head? ≠ some "") : spelled.Sublist more := by
  rcases List.append_eq_append_iff.1 h with ⟨rest, -, rfl⟩ | ⟨extra, rfl, hspelled⟩
  · exact List.sublist_append_right rest spelled
  · -- what is there beyond the stem is empty
    have hextra := List.prefix_replicate_iff.1 ((List.prefix_append_right_inj stem).1 hbefore)
    cases extra with
    | nil => exact hspelled ▸ List.Sublist.refl _
    | cons s extra =>
      rw [List.length_cons, List.replicate_succ] at hextra
      rw [hspelled, (List.cons.inj hextra.2).1] at hfirst
      exact absurd rfl hfirst

section Roots

variable {a : Authority} (hroot : IsRoot c.apiBase a) {e : Endpoint}

include hroot

/-- **Plain ids are addressed.** -/
theorem exists_addresses (hc : c.HasBases) (hends : c.apiBase.EndsWithPath) (hplain : e.IsPlain c.apiBase.kind) :
    ∃ url, c.resolve e.path = .ok url ∧ Addresses c.apiBase e.names url := by
  obtain ⟨word, names, hnames, hword, hpath⟩ := e.exists_path_eq
  have hbreak : ∀ d ∈ pathOf names, Url.isBreak d = false := by
    intro d hd
    rcases Url.mem_pathOf hd with rfl | ⟨id, hid, hd⟩
    · rfl
    · exact (hplain.names id (hnames ▸ List.mem_cons_of_mem word hid)).unbroken d hd
  have hinked := hplain.inked
  rw [hpath] at hinked
  obtain ⟨htrim, htidy⟩ := tidy_eq_self hword hinked hbreak
  rw [← hpath] at htrim htidy
  have hrelative : isAbsolute (Text.trimChars e.path.toList) = false := by
    rw [htrim]
    exact Endpoint.isAbsolute_path hplain.names
  obtain ⟨authority, hresolve⟩ := resolve_relative_eq hroot hpath hword hends hrelative
  rw [htidy, e.path_toList] at hresolve
  obtain ⟨hsegments, hclosed⟩ := Url.withTail_pathOf hroot.kind authority c.apiBase.stem e.names_ne_nil hplain.names
  refine ⟨_, hresolve, ?_, ⟨_, hsegments, ?_⟩, hclosed⟩
  · refine (resolve_relative hc hresolve hrelative).resolve_right fun hlost => hroot.kind ?_
    rw [Url.kind, hlost.1]
    rfl
  · rw [List.forall₂_map_left_iff, List.forall₂_same]
    exact fun id hid => (hplain.names id hid).spells

/-- **Only plain ids are addressed.** -/
theorem isPlain_of_addresses {url : Url} (hurl : c.resolve e.path = .ok url) (h : Addresses c.apiBase e.names url) :
    c.apiBase.EndsWithPath ∧ e.IsPlain c.apiBase.kind := by
  obtain ⟨word, names, hnames, hword, hpath⟩ := e.exists_path_eq
  obtain ⟨authority, segments, rfl, hprefix, hbase⟩ := eq_withTail_of_resolve hroot hpath hword hurl h.ends
  have hclosed := Url.withTail_endsWithPath.1 h.ends
  obtain ⟨spelled, hspelled, hspells⟩ := h.path
  rw [Url.path_withTail hroot.kind hclosed] at hspelled
  -- what is read of the path is behind segments of the base, and so are the names
  obtain ⟨k, more, hpushed, hmore⟩ := Url.exists_pushSegments_eq hroot.kind segments
    (Text.split (Url.isSlash c.apiBase.kind.isSpecial) (tidy e.path.toList))
  obtain ⟨n, hn⟩ := c.apiBase.exists_segments_eq
  have hfirst : spelled.head? ≠ some "" := by
    intro hempty
    rw [hnames] at hspells
    cases hspells with
    | cons hspells _ =>
      -- an empty segment would spell the word that the path begins with
      rw [List.head?_cons, Option.some.injEq] at hempty
      obtain ⟨hdecode, -⟩ := hspells
      rw [hempty, Text.Utf8.encode_eq] at hdecode
      have hbytes : Text.Utf8.bytes word.toList = Text.Utf8.bytes [] := hdecode.symm
      obtain ⟨d, cs, hcs, -⟩ := hword.head
      rw [Text.Utf8.bytes_inj.1 hbytes] at hcs
      cases hcs
  have hsub : spelled.Sublist more := by
    refine sublist_of_append_eq (n := n) ?_ (hpushed.symm.trans (UrlPath.segments.inj hspelled)) hfirst
    rw [← hn]
    exact (List.take_prefix k segments).trans hprefix
  have hcs : (tidy e.path.toList).Sublist (pathOf e.names) := by
    rw [← e.path_toList]
    exact (sublist_tidy _).trans (sublist_trimChars _)
  obtain ⟨htidy, hplain⟩ := Url.names_of_spelled e.names_ne_nil hcs (hsub.trans hmore) hspells
  rw [htidy] at hclosed
  rw [← e.path_toList] at htidy
  obtain ⟨htrim, hinked⟩ := of_tidy_eq_self htidy
  have hplain' : ∀ id ∈ e.names, PlainName c.apiBase.kind id := by
    intro id hid
    obtain ⟨hundivided, hdots, hunbroken, hescape⟩ := hplain id hid
    rw [Url.isDots_toList_iff hescape, not_or] at hdots
    exact ⟨hundivided, fun d hd => hclosed d (Url.mem_pathOf_of_mem hid hd), hunbroken, hescape, hdots⟩
  refine ⟨hbase ?_, hplain', hinked⟩
  rw [htrim]
  exact Endpoint.isAbsolute_path hplain'

theorem names_eq_of_pathText {names names' : List String} {url url' : Url} (h : Addresses c.apiBase names url)
    (h' : Addresses c.apiBase names' url') (heq : url.pathText = url'.pathText) : names = names' := by
  obtain ⟨spelled, hpath, hspells⟩ := h.path
  obtain ⟨spelled', hpath', hspells'⟩ := h'.path
  have hstem : ∀ s ∈ c.apiBase.stem, '/' ∉ s.toList := by
    intro s hs hslash
    have hsegment := (List.rdropWhile_prefix (· == "") c.apiBase.segments).subset hs
    cases (hroot.settled s hsegment).undivided '/' hslash
  have hfree : ∀ {spelled names : List String}, List.Forall₂ Spells spelled names →
      ∀ s ∈ c.apiBase.stem ++ spelled, '/' ∉ s.toList := by
    intro spelled names hspells s hs
    exact (List.mem_append.1 hs).elim (hstem s) (Url.not_mem_of_spells hspells s)
  have htext := congrArg String.toList heq
  rw [Url.pathText_toList hpath, Url.pathText_toList hpath',
    Url.pathChars_inj (hfree hspells) (hfree hspells')] at htext
  rw [List.append_cancel_left htext] at hspells
  exact Url.Spells.names_unique hspells hspells'

end Roots

/-- A call finds what it names: its path leads to a URL that addresses the names in it. -/
def Finds (c : HttpClient) (call : RestCall) (url : Url) : Prop :=
  c.resolve call.endpoint.path = .ok url ∧ Addresses c.apiBase call.endpoint.names url

/-- **Calls that are about what they name.**  A call finds what it names exactly if its ids are plain and the API's
base ends with its path.  Two calls that do have one URL only if they are about the same, and one bucket only if they
are of one method too. -/
structure AddressesCalls (c : HttpClient) : Prop where
  found : ∀ call, (∃ url, c.Finds call url) ↔ c.apiBase.EndsWithPath ∧ call.endpoint.IsPlain c.apiBase.kind
  urls : ∀ call call' url url', c.Finds call url → c.Finds call' url' →
    (url = url' ↔ call.endpoint.Same call'.endpoint)
  buckets : ∀ call call' url url', c.Finds call url → c.Finds call' url' →
    (RateLimiter.bucketKey call.method url.pathText = RateLimiter.bucketKey call'.method url'.pathText ↔
      call.method = call'.method ∧ call.endpoint.Same call'.endpoint)

theorem not_mem_method (call : RestCall) : ':' ∉ call.method.toList := by
  have hmethods : ∀ method ∈ ["GET", "POST", "PATCH", "DELETE"], ':' ∉ method.toList := by decide
  exact hmethods _ (by cases call <;> simp [RestCall.method])

/-- **A transport in use whose API is no file finds what its calls name**, so long as their ids are plain. -/
theorem Built.addressesCalls (h : c.Built) (hkind : c.apiBase.kind ≠ .file) : c.AddressesCalls := by
  obtain ⟨a, hroot⟩ := h.isRoot hkind
  have hpaths : ∀ {call call' url url'}, c.Finds call url → c.Finds call' url' → url.pathText = url'.pathText →
      call.endpoint.Same call'.endpoint := fun hurl hurl' heq =>
    (Endpoint.names_eq_iff _ _).1 (names_eq_of_pathText hroot hurl.2 hurl'.2 heq)
  have hsame : ∀ {call call' url url'}, c.Finds call url → c.Finds call' url' → call.endpoint.Same call'.endpoint →
      url = url' := by
    intro call call' url url' hurl hurl' hsame
    have hresolve := hurl.1
    rw [Endpoint.path_eq_of_same hsame, hurl'.1] at hresolve
    exact (Except.ok.inj hresolve).symm
  constructor
  · intro call
    constructor
    · rintro ⟨url, hurl, haddresses⟩
      exact isPlain_of_addresses hroot hurl haddresses
    · rintro ⟨hends, hplain⟩
      exact exists_addresses hroot h.hasBases hends hplain
  · intro call call' url url' hurl hurl'
    exact ⟨fun heq => hpaths hurl hurl' (congrArg Url.pathText heq), hsame hurl hurl'⟩
  · intro call call' url url' hurl hurl'
    rw [RateLimiter.bucketKey_eq_iff (not_mem_method call) (not_mem_method call'),
      HttpCall.sameUpToQuery_iff_eq (HttpCall.plainPath_of_resolve h.hasBases hurl.1)
        (HttpCall.plainPath_of_resolve h.hasBases hurl'.1)]
    exact and_congr_right fun _ => ⟨hpaths hurl hurl', fun heq => congrArg Url.pathText (hsame hurl hurl' heq)⟩

/-- Ids may hold any other characters: what cannot stand in a path is encoded. -/
theorem standard_addressesCalls :
    ∃ c, HttpClient.ofConfig (.bot "token") {} ⟨0⟩ = .ok c ∧ c.apiBase.kind ≠ .file ∧ c.AddressesCalls ∧
      ∃ url, c.Finds (.fetchUser "a b") url ∧ url.path = .segments ["users", "a%20b"] := by
  have hok : ((HttpClient.ofConfig (.bot "token") {} ⟨0⟩).toOption.any fun c =>
      c.apiBase.kind = .common ∧ c.apiBase.query = none ∧ c.apiBase.fragment = none ∧
        (c.resolve "users/a b").toOption.map (·.path) =
          some (.segments ["users", "a%20b"])) = true := by
    decide +kernel
  cases hc : HttpClient.ofConfig (.bot "token") {} ⟨0⟩ with
  | error e =>
    rw [hc] at hok
    cases hok
  | ok c =>
    rw [hc] at hok
    obtain ⟨hcommon, hquery, hfragment, hpath⟩ := of_decide_eq_true hok
    have hkind : c.apiBase.kind ≠ .file := by
      rw [hcommon]
      decide
    have hcalls := Built.addressesCalls (.ofConfig hc) hkind
    have hplain : (RestCall.fetchUser "a b").endpoint.IsPlain c.apiBase.kind := by
      rw [hcommon]
      refine ⟨fun name hname => ?_, fun d hd => ?_⟩
      · have hchars : ∀ name ∈ ["users", "a b"],
            (name.toList.all fun d => !(Url.isSlash true d || Url.endsPath d || Url.isBreak d)) = true ∧
              '%' ∉ name.toList ∧ name ≠ "." ∧ name ≠ ".." := by
          decide
        obtain ⟨hchars, hsign, hdots⟩ := hchars name hname
        simp only [List.all_eq_true, Bool.not_eq_true', Bool.or_eq_false_iff] at hchars
        exact ⟨fun d hd => (hchars d hd).1.1, fun d hd => (hchars d hd).1.2, fun d hd => (hchars d hd).2,
          Percent.not_hasEscape_of_not_mem hsign, hdots⟩
      · have hlast : "users/a b".toList.getLast? = some 'b' := by decide
        rw [← Option.some.inj (hlast.symm.trans hd)]
        decide
    obtain ⟨url, hurl⟩ := (hcalls.found (.fetchUser "a b")).2 ⟨⟨hquery, hfragment⟩, hplain⟩
    refine ⟨c, rfl, hkind, hcalls, url, hurl, ?_⟩
    have hresolve : c.resolve "users/a b" = .ok url := hurl.1
    rw [hresolve] at hpath
    exact Option.some.inj hpath

/-- Below a file nothing needs to be found: a base may hold a segment that is the name of a drive once it comes
first. -/
theorem strays_drive :
    ∃ c url, HttpClient.ofConfig (.bot "token") { apiUrl := "file://host//C|" } ⟨0⟩ = .ok c ∧
      c.resolve RestCall.fetchSelf.endpoint.path = .ok url ∧ ¬c.Finds .fetchSelf url := by
  have hok : ((HttpClient.ofConfig (.bot "token") { apiUrl := "file://host//C|" } ⟨0⟩).toOption.any fun c =>
      (c.resolve RestCall.fetchSelf.endpoint.path).toOption.any fun url =>
        c.apiBase.stem = ["C|"] ∧ url.path = .segments ["C:", "users", "@me"]) = true := by
    decide +kernel
  cases hc : HttpClient.ofConfig (.bot "token") { apiUrl := "file://host//C|" } ⟨0⟩ with
  | error e =>
    rw [hc] at hok
    cases hok
  | ok c =>
    rw [hc] at hok
    cases hurl : c.resolve RestCall.fetchSelf.endpoint.path with
    | error e => simp only [Except.toOption, hurl, Option.any_some, Option.any_none, Bool.false_eq_true] at hok
    | ok url =>
      simp only [Except.toOption, hurl, Option.any_some] at hok
      obtain ⟨hstem, hpath⟩ := of_decide_eq_true hok
      refine ⟨c, url, rfl, hurl, fun hfinds => ?_⟩
      obtain ⟨spelled, hspelled, -⟩ := hfinds.2.path
      rw [hstem, hpath] at hspelled
      exact absurd (List.cons.inj (UrlPath.segments.inj hspelled)).1 (by decide)

/-- An id that steps back leads away from its channel: this message is a server. -/
theorem strays_deleteMessage :
    ∃ c url, HttpClient.ofConfig (.bot "token") {} ⟨0⟩ = .ok c ∧
      c.resolve (RestCall.deleteMessage "C1" "../../../servers/S1").endpoint.path = .ok url ∧
      c.resolve (RestCall.fetchServer "S1").endpoint.path = .ok url ∧
      ¬c.Finds (.deleteMessage "C1" "../../../servers/S1") url := by
  have hok : ((HttpClient.ofConfig (.bot "token") {} ⟨0⟩).toOption.any fun c =>
      (c.resolve (RestCall.deleteMessage "C1" "../../../servers/S1").endpoint.path).toOption.any fun url =>
        url.path = .segments ["servers", "S1"] ∧
          c.resolve (RestCall.fetchServer "S1").endpoint.path = .ok url) = true := by
    decide +kernel
  cases hc : HttpClient.ofConfig (.bot "token") {} ⟨0⟩ with
  | error e =>
    rw [hc] at hok
    cases hok
  | ok c =>
    rw [hc] at hok
    cases hmessage : c.resolve (RestCall.deleteMessage "C1" "../../../servers/S1").endpoint.path with
    | error e => simp only [Except.toOption, hmessage, Option.any_some, Option.any_none, Bool.false_eq_true] at hok
    | ok url =>
      simp only [Except.toOption, hmessage, Option.any_some] at hok
      obtain ⟨hpath, hserver⟩ := of_decide_eq_true hok
      refine ⟨c, url, rfl, hmessage, hserver, fun hfinds => ?_⟩
      -- four names would need four segments
      obtain ⟨spelled, hspelled, hspells⟩ := hfinds.2.path
      have hlength := hspells.length_eq
      rw [hpath] at hspelled
      have hcount := congrArg List.length (UrlPath.segments.inj hspelled)
      rw [List.length_append, hlength] at hcount
      change 2 = _ + 4 at hcount
      omega

end HttpClient

end ChatClient
