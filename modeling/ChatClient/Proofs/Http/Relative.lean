import ChatClient.Proofs.Http.Destination
import ChatClient.Proofs.Url.Spelling
/-!
# Paths below the API's base

A path that begins with a word and names no host of its own is put behind the text of the API's base, and what is read
there goes on from the segments of the base.  Before that it is trimmed, twice, and tabs and line breaks in it are
passed over (`tidy`).
-/
namespace ChatClient

open Url (Hosted IsScheme IsSettled pathOf)

/-! ## Paths that name no host -/

/-- No name before an empty one ends in a colon. -/
def Colonless (names : List String) : Prop :=
  names.IsChain fun name next => name.toList.getLast? = some ':' → next ≠ ""

theorem isWithin_of_not_mem {name : List Char} (h : '/' ∉ name) : Text.isWithin [':', '/', '/'] name = false := by
  induction name with
  | nil => rfl
  | cons c name ih =>
    rw [List.mem_cons, not_or] at h
    rw [Text.isWithin, ih h.2, Bool.or_false]
    cases name with
    | nil => simp [List.isPrefixOf]
    | cons d name =>
      have hd : d ≠ '/' := fun heq => h.2 (heq ▸ List.mem_cons_self)
      simp [List.isPrefixOf, hd.symm]

/-- Where a name ends, a host begins only behind a colon and two slashes. -/
theorem isWithin_append {name rest : List Char} (h : '/' ∉ name)
    (hwithin : Text.isWithin [':', '/', '/'] (name ++ '/' :: rest) = true) :
    (name.getLast? = some ':' ∧ rest.head? = some '/') ∨ Text.isWithin [':', '/', '/'] rest = true := by
  induction name with
  | nil =>
    rw [List.nil_append, Text.isWithin, Bool.or_eq_true] at hwithin
    exact .inr (hwithin.resolve_left (by simp [List.isPrefixOf]))
  | cons c name ih =>
    rw [List.mem_cons, not_or] at h
    rw [List.cons_append, Text.isWithin, Bool.or_eq_true] at hwithin
    rcases hwithin with hprefix | hwithin
    · cases name with
      | nil =>
        cases rest with
        | nil => simp [List.isPrefixOf] at hprefix
        | cons d rest =>
          simp only [List.nil_append, List.isPrefixOf, Bool.and_eq_true, beq_iff_eq, and_true] at hprefix
          obtain ⟨rfl, -, rfl⟩ := hprefix
          exact .inl ⟨rfl, rfl⟩
      | cons d name =>
        have hd : d ≠ '/' := fun heq => h.2 (heq ▸ List.mem_cons_self)
        simp [List.isPrefixOf, hd.symm] at hprefix
    · rcases ih h.2 hwithin with ⟨hlast, hhead⟩ | hrest
      · refine .inl ⟨?_, hhead⟩
        rw [List.getLast?_cons, hlast]
        rfl
      · exact .inr hrest

theorem isWithin_pathOf {names : List String} (hnames : names ≠ []) (hfree : ∀ name ∈ names, '/' ∉ name.toList)
    (hcolon : Colonless names) : Text.isWithin [':', '/', '/'] (pathOf names) = false := by
  induction names with
  | nil => exact absurd rfl hnames
  | cons name names ih =>
    have hname := hfree name List.mem_cons_self
    cases names with
    | nil =>
      rw [pathOf, List.map_cons, List.map_nil, List.intercalate_singleton]
      exact isWithin_of_not_mem hname
    | cons next names =>
      have hnext := hfree next (List.mem_cons_of_mem _ List.mem_cons_self)
      have hrest := ih (List.cons_ne_nil _ _) (fun name hmem => hfree name (List.mem_cons_of_mem _ hmem)) hcolon.of_cons
      rw [Url.pathOf_cons name (List.cons_ne_nil _ _), Bool.eq_false_iff]
      intro hwithin
      rcases isWithin_append hname hwithin with ⟨hlast, hhead⟩ | hwithin
      · -- what follows the colon begins with a slash only if the next name is empty
        have hne : next.toList ≠ [] := by simpa using hcolon.rel hlast
        obtain ⟨d, cs, hcs⟩ := List.exists_cons_of_ne_nil hne
        obtain ⟨more, hmore⟩ := Url.exists_pathOf_eq_append next names
        rw [hmore, hcs, List.cons_append, List.head?_cons, Option.some.injEq] at hhead
        rw [hcs, hhead] at hnext
        exact absurd List.mem_cons_self hnext
      · rw [hrest] at hwithin
        cases hwithin

namespace HttpClient

variable {c : HttpClient}

/-! ## What is read of a path -/

open Text (dropEndWhile trimChars)

/-- What is read of a path: it is trimmed twice, and tabs and line breaks in it are passed over. -/
def tidy (path : List Char) : List Char :=
  Url.dropBreaks (dropEndWhile (·.toNat ≤ 0x20) (trimChars path))

theorem sublist_trimChars (path : List Char) : (trimChars path).Sublist path :=
  (Url.isPrefix_dropEndWhile _ _).sublist.trans (List.dropWhile_suffix _).sublist

theorem sublist_tidy (path : List Char) : (tidy path).Sublist (trimChars path) :=
  List.filter_sublist.trans (Url.isPrefix_dropEndWhile _ _).sublist

/-- **A path that is read as it is** does not end in a character that is trimmed. -/
theorem of_tidy_eq_self {path : List Char} (h : tidy path = path) :
    trimChars path = path ∧ ∀ c, path.getLast? = some c → Text.isBlank c = false ∧ 0x20 < c.toNat := by
  have hlength : path.length ≤ (trimChars path).length := by
    have hle := (sublist_tidy path).length_le
    rwa [h] at hle
  have htrim : trimChars path = path := (sublist_trimChars path).eq_of_length_le hlength
  have hcontrols : dropEndWhile (·.toNat ≤ 0x20) path = path := by
    have hsub : path.Sublist (dropEndWhile (·.toNat ≤ 0x20) path) := by
      have hfilter : (tidy path).Sublist (dropEndWhile (·.toNat ≤ 0x20) (trimChars path)) := List.filter_sublist
      rwa [h, htrim] at hfilter
    exact (Url.isPrefix_dropEndWhile _ path).sublist.eq_of_length_le hsub.length_le
  have hblanks : dropEndWhile Text.isBlank path = path := by
    have hfront : Text.dropBlank path = path := by
      refine (List.dropWhile_suffix _).sublist.eq_of_length_le (Nat.le_trans hlength ?_)
      exact (Url.isPrefix_dropEndWhile Text.isBlank (Text.dropBlank path)).length_le
    rw [trimChars, hfront] at htrim
    exact htrim
  refine ⟨htrim, fun c hc => ⟨Url.dropEndWhile_eq_self_iff.1 hblanks c hc, ?_⟩⟩
  simpa using Url.dropEndWhile_eq_self_iff.1 hcontrols c hc

theorem isBlank_of_isAlpha {c : Char} (h : c.isAlpha = true) : Text.isBlank c = false := by
  have hplace := Url.toNat_of_isAlpha h
  unfold Text.isBlank
  simp only [Bool.or_eq_false_iff, Bool.and_eq_false_iff, decide_eq_false_iff_not, beq_eq_false_iff_ne]
  omega

theorem trimChars_word {word : String} (hword : IsScheme word) (rest : List Char) :
    trimChars (word.toList ++ '/' :: rest) = dropEndWhile Text.isBlank (word.toList ++ '/' :: rest) := by
  obtain ⟨c, cs, hcs, hc⟩ := hword.head
  have hfront : Text.dropBlank (word.toList ++ '/' :: rest) = word.toList ++ '/' :: rest := by
    rw [hcs]
    exact List.dropWhile_cons_of_neg (by simp [isBlank_of_isAlpha hc])
  rw [trimChars, hfront]

theorem tidy_eq_self {word : String} (hword : IsScheme word) {rest : List Char}
    (hinked : ∀ c, (word.toList ++ '/' :: rest).getLast? = some c → Text.isBlank c = false ∧ 0x20 < c.toNat)
    (hbreak : ∀ c ∈ rest, Url.isBreak c = false) :
    trimChars (word.toList ++ '/' :: rest) = word.toList ++ '/' :: rest ∧
      tidy (word.toList ++ '/' :: rest) = word.toList ++ '/' :: rest := by
  have htrim : trimChars (word.toList ++ '/' :: rest) = word.toList ++ '/' :: rest := by
    rw [trimChars_word hword, Url.dropEndWhile_eq_self_iff]
    exact fun c hc => (hinked c hc).1
  have hcontrols : dropEndWhile (·.toNat ≤ 0x20) (word.toList ++ '/' :: rest) = word.toList ++ '/' :: rest := by
    rw [Url.dropEndWhile_eq_self_iff]
    intro c hc
    simpa using (hinked c hc).2
  rw [tidy, htrim, hcontrols, Url.dropBreaks_word hword, Url.dropBreaks_eq_self hbreak]
  exact ⟨rfl, rfl⟩

/-! ## Bases -/

/-- **A base that paths are put below**: it was read with a host, and it is no file. -/
structure IsRoot (base : Url) (a : Authority) : Prop where
  hosted : Hosted base a
  settled : ∀ s ∈ base.segments, IsSettled base.kind s
  kind : base.kind ≠ .file

theorem Built.isRoot (h : c.Built) (hkind : c.apiBase.kind ≠ .file) : ∃ a, IsRoot c.apiBase a := by
  obtain ⟨s, hbase⟩ := h.hasBases.1
  obtain ⟨a, ha⟩ := hosted_of_base hbase
  exact ⟨a, ha, Url.isSettled_of_parse? (base_eq_ok hbase).1 hkind, hkind⟩

section Resolving

variable {a : Authority} {path word : String} {rest : List Char} (hroot : IsRoot c.apiBase a)
  (hpath : path.toList = word.toList ++ '/' :: rest) (hword : IsScheme word)

include hroot hpath hword

/-- A path without a host of its own is read onto the stem of a base that ends with its path. -/
theorem resolve_relative_eq (hends : c.apiBase.EndsWithPath) (hrelative : isAbsolute (trimChars path.toList) = false) :
    ∃ authority, c.resolve path =
      .ok (Url.withTail c.apiBase.scheme authority c.apiBase.stem (tidy path.toList)) := by
  obtain ⟨d, cs, hcs, hd⟩ := hword.head
  have htrim : trimChars path.toList = d :: (cs ++ '/' :: dropEndWhile Text.isBlank rest) := by
    rw [hpath, trimChars_word hword, Url.dropEndWhile_append (by decide), hcs]
    rfl
  have hslash : (trimChars path.toList).dropWhile (· == '/') = trimChars path.toList := by
    rw [htrim]
    refine List.dropWhile_cons_of_neg fun heq => ?_
    rw [beq_iff_eq.1 heq] at hd
    cases hd
  obtain ⟨username, password, hread⟩ :=
    Url.read?_behind hroot.hosted hroot.kind hroot.settled hends (trimChars path.toList)
  refine ⟨some ⟨username, password, a.host, a.port⟩, ?_⟩
  unfold resolve
  dsimp only
  rw [if_neg (by rw [htrim]; exact List.cons_ne_nil _ _), hrelative, below_front hroot.hosted, hslash, hread]
  rfl

/-- **Where a path leads**, if it is the end of the URL that it leads to: its text is read onto some of the base's
segments. -/
theorem eq_withTail_of_resolve {url : Url} (hurl : c.resolve path = .ok url) (hends : url.EndsWithPath) :
    ∃ authority segments, url = Url.withTail c.apiBase.scheme authority segments (tidy path.toList) ∧
      segments <+: c.apiBase.segments ∧ (isAbsolute (trimChars path.toList) = false → c.apiBase.EndsWithPath) := by
  rcases resolve_cases hurl with ⟨habsolute, hread, -⟩ | ⟨hrelative, hread⟩
  · rw [hpath, trimChars_word hword, Url.dropEndWhile_append (by decide),
      Url.read?_word hword hroot.hosted.path hroot.kind] at hread
    refine ⟨c.apiBase.authority, c.apiBase.segments.dropLast, ?_, List.dropLast_prefix _, ?_⟩
    · rw [tidy, hpath, trimChars_word hword, Url.dropEndWhile_append (by decide)]
      exact (Option.some.inj hread).symm
    · intro hrelative
      rw [hrelative] at habsolute
      cases habsolute
  · have hbase : c.apiBase.EndsWithPath := by
      rw [below_front hroot.hosted] at hread
      exact Url.endsWithPath_of_read?_behind hroot.hosted hroot.kind hread hends
    obtain ⟨authority, heq⟩ := resolve_relative_eq hroot hpath hword hbase hrelative
    rw [hurl] at heq
    exact ⟨authority, c.apiBase.stem, Except.ok.inj heq, List.rdropWhile_prefix _ _, fun _ => hbase⟩

end Resolving

end HttpClient

end ChatClient
