import ChatClient.Proofs.Url.Below
import ChatClient.Proofs.Url.Settled
/-!
# Paths below a URL

A path that is put behind the text of a URL with a host is read onto the segments of that URL, without the empty ones
at their end (`read?_behind`): those are kept as they are settled, and the path goes on from there.  This is so if the
URL ends with its path; if it has a query or a fragment, then so has whatever is read behind its text
(`endsWithPath_of_read?_behind`).
-/
namespace ChatClient.Url

open Text (dropEndWhile)

variable {kind : SchemeKind}

/-! ## Texts of paths -/

/-- The segments of a URL, without the empty ones at their end. -/
def stem (u : Url) : List String :=
  u.segments.rdropWhile (· == "")

theorem exists_segments_eq (u : Url) : ∃ n, u.segments = u.stem ++ List.replicate n "" := by
  unfold stem
  induction u.segments using List.reverseRecOn with
  | nil => exact ⟨0, rfl⟩
  | append_singleton segments s ih =>
    obtain ⟨n, hn⟩ := ih
    by_cases hempty : s = ""
    · refine ⟨n + 1, ?_⟩
      rw [List.rdropWhile_concat_pos _ _ _ (by simp [hempty]), List.replicate_succ', ← List.append_assoc, ← hn, hempty]
    · exact ⟨0, by rw [List.rdropWhile_concat_neg _ _ _ (by simpa using hempty), List.replicate_zero, List.append_nil]⟩

def pathChars (segments : List String) : List Char :=
  segments.flatMap ('/' :: ·.toList)

def onto (segments : List String) (rest : List Char) : List Char :=
  segments.foldr (fun s rest => s.toList ++ '/' :: rest) rest

theorem pathChars_append_onto (segments : List String) (rest : List Char) :
    pathChars segments ++ '/' :: rest = '/' :: onto segments rest := by
  induction segments with
  | nil => rfl
  | cons s segments ih =>
    rw [pathChars, List.flatMap_cons, List.append_assoc, ← pathChars, ih]
    rfl

theorem pathText_toList {u : Url} {segments : List String} (h : u.path = .segments segments) :
    u.pathText.toList = pathChars segments := by
  unfold pathText
  rw [h]
  dsimp only
  clear h
  induction segments with
  | nil => rfl
  | cons s segments ih =>
    have hcons : pathChars (s :: segments) = ("/" ++ s).toList ++ pathChars segments := by
      rw [String.toList_append]
      rfl
    rw [hcons, ← ih, List.map_cons]
    cases segments with
    | nil => rw [List.map_nil, String.intercalate_singleton]; simp
    | cons t segments => rw [List.map_cons, String.intercalate_cons_cons, String.append_empty, String.toList_append]

/-- A text without the slashes at its end is one without the empty segments at its end. -/
theorem dropEndWhile_pathChars {segments : List String} (h : ∀ s ∈ segments, IsSettled kind s) :
    dropEndWhile (· == '/') (pathChars segments) = pathChars (segments.rdropWhile (· == "")) := by
  induction segments using List.reverseRecOn with
  | nil => rfl
  | append_singleton segments s ih =>
    have hinit := ih fun t ht => h t (List.mem_append_left _ ht)
    have hs := h s (List.mem_append_right _ List.mem_cons_self)
    have hsnoc : pathChars (segments ++ [s]) = pathChars segments ++ '/' :: s.toList := by simp [pathChars]
    rw [hsnoc]
    by_cases hempty : s = ""
    · subst hempty
      rw [List.rdropWhile_concat_pos _ _ _ rfl, ← hinit]
      exact List.rdropWhile_concat_pos _ _ _ rfl
    · rw [List.rdropWhile_concat_neg _ _ _ (by simpa using hempty), hsnoc]
      obtain ⟨init, c, hc⟩ : ∃ init c, s.toList = init ++ [c] :=
        ⟨_, _, (List.dropLast_concat_getLast (by simpa using hempty)).symm⟩
      have hslash : ¬(c == '/') = true := by
        intro heq
        have hundivided := hs.undivided c (by simp [hc])
        rw [isSlash, heq] at hundivided
        cases hundivided
      rw [hc, ← List.cons_append, ← List.append_assoc]
      exact List.rdropWhile_concat_neg _ _ _ hslash

theorem onto_eq_append (segments : List String) (rest : List Char) : onto segments rest = onto segments [] ++ rest := by
  induction segments with
  | nil => rfl
  | cons s segments ih =>
    change s.toList ++ '/' :: onto segments rest = (s.toList ++ '/' :: onto segments []) ++ rest
    rw [ih, List.append_assoc, List.cons_append]

theorem split_onto {p : Char → Bool} (hp : p '/' = true) {segments : List String}
    (h : ∀ s ∈ segments, ∀ c ∈ s.toList, p c = false)
    (rest : List Char) : Text.split p (onto segments rest) = segments.map String.toList ++ Text.split p rest := by
  induction segments with
  | nil => rfl
  | cons s segments ih =>
    have hrest := ih fun t ht => h t (List.mem_cons_of_mem s ht)
    change Text.split p (s.toList ++ '/' :: onto segments rest) = _
    rw [split_append hp _ (h s List.mem_cons_self), hrest]
    rfl

/-- **Paths of segments without slashes are told apart by their texts.** -/
theorem pathChars_inj {segments segments' : List String} (h : ∀ s ∈ segments, '/' ∉ s.toList)
    (h' : ∀ s ∈ segments', '/' ∉ s.toList) : pathChars segments = pathChars segments' ↔ segments = segments' := by
  refine ⟨fun heq => ?_, congrArg pathChars⟩
  have hnone : ∀ {segments : List String}, (∀ s ∈ segments, '/' ∉ s.toList) →
      ∀ s ∈ segments, ∀ c ∈ s.toList, (c == '/') = false := by
    intro segments hfree s hs c hc
    rw [beq_eq_false_iff_ne]
    rintro rfl
    exact hfree s hs hc
  have honto : onto segments [] = onto segments' [] := by
    have hslash := congrArg (· ++ ['/']) heq
    rw [pathChars_append_onto, pathChars_append_onto] at hslash
    exact List.tail_eq_of_cons_eq hslash
  have hsplit := congrArg (Text.split (· == '/')) honto
  rw [split_onto rfl (hnone h), split_onto rfl (hnone h')] at hsplit
  exact (List.map_inj_right fun _ _ => String.toList_inj.1).1 (List.append_cancel_right hsplit)

section Onto

variable {segments : List String} (h : ∀ s ∈ segments, IsSettled kind s)

include h

theorem inPath_of_mem_onto : ∀ c ∈ onto segments [], Percent.inPath c = false := by
  induction segments with
  | nil => exact List.forall_mem_nil _
  | cons s segments ih =>
    intro c hc
    rcases List.mem_append.1 hc with hc | hc
    · exact (h s List.mem_cons_self).encoded c hc
    · rcases List.mem_cons.1 hc with rfl | hc
      · rfl
      · exact ih (fun t ht => h t (List.mem_cons_of_mem s ht)) c hc

theorem dropBreaks_onto (rest : List Char) : dropBreaks (onto segments rest) = onto segments (dropBreaks rest) := by
  have hself := dropBreaks_eq_self fun c hc => isBreak_of_inPath (inPath_of_mem_onto h c hc)
  rw [onto_eq_append, onto_eq_append segments (dropBreaks rest)]
  unfold dropBreaks at hself ⊢
  rw [List.filter_append, hself]

/-- **Settled segments are read as they are**, and the pieces behind them are read onto them. -/
theorem pushSegments_settled (hkind : kind ≠ .file) {pieces : List (List Char)} (hpieces : pieces ≠ [])
    (before : List String) :
    pushSegments kind before (segments.map String.toList ++ pieces) =
      pushSegments kind (before ++ segments) pieces := by
  induction segments generalizing before with
  | nil => rw [List.map_nil, List.nil_append, List.append_nil]
  | cons s segments ih =>
    have hs := h s List.mem_cons_self
    rw [List.map_cons, List.cons_append, pushSegments, pushSegment_of_not_isDots hkind hs.noDots, hs.kept_eq,
      ih fun t ht => h t (List.mem_cons_of_mem s ht), List.append_assoc, List.singleton_append]
    exact fun hnil => hpieces (List.append_eq_nil_iff.1 hnil).2

end Onto

theorem withTail_onto {scheme : String} (hkind : SchemeKind.ofScheme scheme ≠ .file) (authority : Option Authority)
    {segments : List String} (h : ∀ s ∈ segments, IsSettled (.ofScheme scheme) s) (rest : List Char) :
    withTail scheme authority [] (onto segments rest) = withTail scheme authority segments rest := by
  have hends : ∀ c ∈ onto segments [], (!endsPath c) = true := fun c hc => by
    rw [endsPath_of_inPath (inPath_of_mem_onto h c hc)]
    rfl
  unfold withTail readSegments
  dsimp only
  rw [onto_eq_append, List.takeWhile_append_of_pos hends, List.dropWhile_append_of_pos hends, ← onto_eq_append,
    split_onto rfl fun s hs => (h s hs).undivided, pushSegments_settled h hkind (split_ne_nil _ _), List.nil_append]

/-! ## Reading behind a URL -/

def EndsWithPath (u : Url) : Prop :=
  u.query = none ∧ u.fragment = none

theorem queryAndFragment_eq_none (kind : SchemeKind) (cs : List Char) :
    queryAndFragment kind (cs.dropWhile (!endsPath ·)) = (none, none) ↔ ∀ c ∈ cs, endsPath c = false := by
  have hall : (∀ c ∈ cs, endsPath c = false) ↔ cs.dropWhile (!endsPath ·) = [] := by
    simp [List.dropWhile_eq_nil_iff]
  rw [hall]
  cases hrest : cs.dropWhile (!endsPath ·) with
  | nil => exact iff_of_true rfl rfl
  | cons c rest =>
    have hc : c = '?' ∨ c = '#' := by
      have hhead := List.head_dropWhile_not (!endsPath ·) (l := cs) (by simp [hrest])
      simp only [hrest, List.head_cons] at hhead
      exact Decidable.or_iff_not_imp_left.2 (by simpa [endsPath] using hhead)
    refine iff_of_false (fun hnone => ?_) (List.cons_ne_nil _ _)
    rcases hc with rfl | rfl
    · cases (Prod.ext_iff.1 hnone).1
    · cases (Prod.ext_iff.1 hnone).2

theorem withTail_endsWithPath {scheme : String} {authority : Option Authority} {segments : List String}
    {cs : List Char} : (withTail scheme authority segments cs).EndsWithPath ↔ ∀ c ∈ cs, endsPath c = false := by
  have hparts := queryAndFragment_eq_none (.ofScheme scheme) cs
  rw [Prod.ext_iff] at hparts
  exact hparts

/-- Where a text ends with its path, all of it is read onto the segments. -/
theorem path_withTail {scheme : String} (hkind : SchemeKind.ofScheme scheme ≠ .file) {authority : Option Authority}
    {segments : List String} {cs : List Char} (hcs : ∀ c ∈ cs, endsPath c = false) :
    (withTail scheme authority segments cs).path =
      .segments (pushSegments (.ofScheme scheme) segments
        (Text.split (isSlash (SchemeKind.ofScheme scheme).isSpecial) cs)) := by
  have htake : cs.takeWhile (!endsPath ·) = cs := by
    rw [List.takeWhile_eq_self_iff]
    exact fun c hc => by rw [hcs c hc]; rfl
  unfold withTail readSegments
  dsimp only
  rw [if_neg hkind, htake]

variable {u : Url} {a : Authority}

/-- **A path behind a URL that ends with its own path** is read onto the stem of that URL, once it is trimmed and free
of tabs and line breaks. -/
theorem read?_behind (h : Hosted u a) (hkind : u.kind ≠ .file) (hsettled : ∀ s ∈ u.segments, IsSettled u.kind s)
    (hends : u.EndsWithPath) (path : List Char) :
    ∃ username password,
      read? none (front u.scheme a (dropEndWhile (· == '/') u.tailText ++ '/' :: path)) =
        some (withTail u.scheme (some ⟨username, password, a.host, a.port⟩) u.stem
          (dropBreaks (dropEndWhile (·.toNat ≤ 0x20) path))) := by
  obtain ⟨segments, hpath⟩ := h.path
  have hstem : u.stem = segments.rdropWhile (· == "") := by rw [stem, Url.segments, hpath]
  have hsegments : ∀ s ∈ segments, IsSettled u.kind s := by
    simpa only [Url.segments, hpath] using hsettled
  have htail : dropEndWhile (· == '/') u.tailText = pathChars u.stem := by
    have htext : u.tailText = pathChars segments := by
      rw [tailText, hends.1, hends.2, pathText_toList hpath]
      exact List.append_nil _
    rw [htext, dropEndWhile_pathChars hsegments, hstem]
  have hkept : ∀ s ∈ u.stem, IsSettled u.kind s := fun s hs =>
    hsettled s ((List.rdropWhile_prefix (· == "") u.segments).subset hs)
  have htrim := trim_front h.scheme a (dropEndWhile (· == '/') u.tailText) (d := '/') (by decide) path
  have hstarts : ∀ cs, StartsTail (dropBreaks ('/' :: cs)) := fun cs => dropBreaks_tail ⟨'/', cs, rfl, .inl rfl⟩
  rw [read?_front h hkind htrim, htail, pathChars_append_onto]
  obtain ⟨username, password, hread⟩ :=
    authority?_text h.written (hstarts (onto u.stem (dropEndWhile (·.toNat ≤ 0x20) path)))
  refine ⟨username, password, ?_⟩
  have hroot : ∀ cs, dropBreaks ('/' :: cs) = '/' :: dropBreaks cs := fun cs => List.filter_cons_of_pos rfl
  rw [ofAuthority?, hread, hroot, dropBreaks_onto hkept]
  exact congrArg some (withTail_onto hkind _ hkept _)

/-- What is read behind an authority ends with its path only if the text does. -/
theorem endsPath_of_ofAuthority? {scheme : String} {cs rest : List Char} {b : Authority} {v : Url}
    (hb : authority? scheme cs = some (b, rest)) (hv : ofAuthority? scheme cs = some v) (hends : v.EndsWithPath) :
    ∀ c ∈ rest, endsPath c = false := by
  rw [ofAuthority?, hb] at hv
  dsimp only [Option.bind_eq_bind, Option.bind_some] at hv
  cases rest with
  | nil => exact List.forall_mem_nil _
  | cons c rest =>
    dsimp only at hv
    split at hv
    · rename_i hslash
      cases hv
      have hc : endsPath c = false := by
        unfold isSlash at hslash
        simp only [Bool.or_eq_true, Bool.and_eq_true, beq_iff_eq] at hslash
        rcases hslash with rfl | ⟨-, rfl⟩ <;> rfl
      exact List.forall_mem_cons.2 ⟨hc, withTail_endsWithPath.1 hends⟩
    · split at hv
      · rename_i hc
        cases hv
        have hdrop : (c :: rest).dropWhile (!endsPath ·) = c :: rest := List.dropWhile_cons_of_neg (by simp [hc.1])
        rw [← queryAndFragment_eq_none .other, hdrop]
        exact Prod.ext_iff.2 hends
      · cases hv
        exact withTail_endsWithPath.1 hends

theorem mem_dropEndWhile {p : Char → Bool} {c : Char} {cs : List Char} (hc : p c = false) (h : c ∈ cs) :
    c ∈ dropEndWhile p cs := by
  obtain ⟨before, after, rfl⟩ := List.append_of_mem h
  rw [dropEndWhile_append hc]
  simp

/-- **Behind a query or a fragment there is no path**: all that follows belongs to them. -/
theorem endsWithPath_of_read?_behind (h : Hosted u a) (hkind : u.kind ≠ .file) {path : List Char} {v : Url}
    (hv : read? none (front u.scheme a (dropEndWhile (· == '/') u.tailText ++ '/' :: path)) = some v)
    (hends : v.EndsWithPath) : u.EndsWithPath := by
  have htrim := trim_front h.scheme a (dropEndWhile (· == '/') u.tailText) (d := '/') (by decide) path
  have hstarts := dropBreaks_tail (startsTail_append (startsTail_tailText h) (isPrefix_dropEndWhile (· == '/') _)
    (dropEndWhile (·.toNat ≤ 0x20) path))
  rw [read?_front h hkind htrim] at hv
  obtain ⟨username, password, hread⟩ := authority?_text h.written hstarts
  have hclosed := endsPath_of_ofAuthority? hread hv hends
  -- a sign that ends the path would be cut off nowhere
  have hnot : ∀ c ∈ u.tailText, endsPath c = false := by
    intro c hc
    cases hsign : endsPath c with
    | false => rfl
    | true =>
      have hslash : (c == '/') = false := by
        rw [beq_eq_false_iff_ne]
        rintro rfl
        cases hsign
      have hbreak : isBreak c = false := by
        unfold endsPath at hsign
        simp only [Bool.or_eq_true, beq_iff_eq] at hsign
        rcases hsign with rfl | rfl <;> rfl
      have hmem := List.mem_append_left ('/' :: dropEndWhile (·.toNat ≤ 0x20) path)
        (mem_dropEndWhile (p := (· == '/')) hslash hc)
      have hfalse := hclosed c (List.mem_filter.2 ⟨hmem, by rw [hbreak]; rfl⟩)
      rw [hsign] at hfalse
      cases hfalse
  constructor
  · cases hquery : u.query with
    | none => rfl
    | some query =>
      have hmem : '?' ∈ u.tailText := by simp [tailText, hquery, partText]
      cases hnot '?' hmem
  · cases hfragment : u.fragment with
    | none => rfl
    | some fragment =>
      have hmem : '#' ∈ u.tailText := by simp [tailText, hfragment, partText]
      cases hnot '#' hmem

/-! ## Reading against a URL -/

theorem scheme?_word {word : String} (h : IsScheme word) (rest : List Char) :
    scheme? (word.toList ++ '/' :: rest) = none := by
  obtain ⟨c, cs, hcs, hc⟩ := h.head
  have hname := takeWhile_scheme h (d := '/') (by decide) rest
  unfold scheme?
  rw [hcs, List.cons_append]
  dsimp only
  rw [if_pos hc, ← List.cons_append, ← hcs, hname, List.drop_left]
  rfl

theorem trim_word {word : String} (h : IsScheme word) (rest : List Char) :
    trim (word.toList ++ '/' :: rest) = word.toList ++ '/' :: dropEndWhile (·.toNat ≤ 0x20) rest := by
  obtain ⟨c, cs, hcs, hc⟩ := h.head
  rw [hcs]
  exact trim_append (lt_toNat_of_isAlpha hc) cs (by decide) rest

theorem dropBreaks_word {word : String} (h : IsScheme word) (rest : List Char) :
    dropBreaks (word.toList ++ '/' :: rest) = word.toList ++ '/' :: dropBreaks rest := by
  have hself := dropBreaks_eq_self fun c hc => isBreak_of_inScheme (h.all c hc)
  unfold dropBreaks at hself ⊢
  rw [List.filter_append, hself, List.filter_cons_of_pos (by decide)]

/-- A reference that begins with neither a sign nor a slash is read in place of the last segment. -/
theorem resolve?_of_endsAuthority {base : Url} {c : Char} (hc : endsAuthority true c = false) (rest : List Char) :
    resolve? base (c :: rest) = some (withTail base.scheme base.authority base.segments.dropLast (c :: rest)) := by
  rw [endsAuthority, Bool.or_eq_false_iff] at hc
  obtain ⟨hends, hslash⟩ := hc
  unfold resolve?
  split
  · rename_i heq
    cases heq
  · rename_i heq
    cases heq
    cases hends
  · rename_i heq
    cases heq
    cases hends
  · rename_i heq
    cases heq
    rw [hslash]
    rfl

/-- **A path that begins with a word is read in place of the last segment** of a URL that it is read against. -/
theorem read?_word {word : String} (hword : IsScheme word) {base : Url}
    (hpath : ∃ segments, base.path = .segments segments)
    (hkind : base.kind ≠ .file) (rest : List Char) :
    read? (some base) (word.toList ++ '/' :: rest) =
      some (withTail base.scheme base.authority base.segments.dropLast
        (dropBreaks (dropEndWhile (·.toNat ≤ 0x20) (word.toList ++ '/' :: rest)))) := by
  obtain ⟨segments, hsegments⟩ := hpath
  obtain ⟨c, cs, hcs, hc⟩ := hword.head
  have hends := endsAuthority_of_isPlain (isPlain_of_class (p := Char.isAlpha) (by decide) hc) true
  have hsign : c ≠ '#' := by
    rintro rfl
    cases hc
  rw [dropEndWhile_append (by decide)]
  unfold read?
  dsimp only
  rw [trim_word hword, scheme?_word hword, dropBreaks_word hword, hcs, List.cons_append]
  dsimp only
  rw [hsegments]
  split
  · rename_i heq
    exact absurd (List.cons.inj heq).1 hsign
  · rename_i hrootless _
    cases hrootless
  · rw [if_neg hkind, resolve?_of_endsAuthority hends]

end ChatClient.Url
