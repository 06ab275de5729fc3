import ChatClient.Proofs.Url.Hosted
import ChatClient.Text.Blank
/-!
# Texts below a URL with a host

The text of a URL with a host begins with its scheme and its authority (`front`).  A text that goes on behind them in
any way leads to the same scheme, host and port (`staysAt_of_front`): neither trimming nor the rules for tabs and line
breaks reach into that front.  Files are the exception that the rules for them make: a drive in the path takes the
host away, and nothing is put in its place.
-/
namespace ChatClient
namespace Url

/-! ## The front of a URL's text -/

def front (scheme : String) (a : Authority) (tail : List Char) : List Char :=
  scheme.toList ++ ':' :: '/' :: '/' :: (a.text.toList ++ tail)

theorem startsTail_segments (s : String) (segments : List String) (after : List Char) :
    StartsTail (("".intercalate ((s :: segments).map ("/" ++ ·))).toList ++ after) := by
  cases segments with
  | nil =>
    refine ⟨'/', s.toList ++ after, ?_, .inl rfl⟩
    rw [List.map_cons, List.map_nil, String.intercalate_singleton, String.toList_append]
    rfl
  | cons t segments =>
    refine ⟨'/', s.toList ++ ("".intercalate ((t :: segments).map ("/" ++ ·))).toList ++ after, ?_, .inl rfl⟩
    rw [List.map_cons, List.map_cons, String.intercalate_cons_cons, String.append_empty, String.toList_append,
      String.toList_append]
    rfl

theorem startsTail_part {sign : String} {c : Char} (hsign : sign.toList = [c]) (hc : c = '/' ∨ c = '?' ∨ c = '#')
    (part : String) (after : List Char) : StartsTail ((partText sign (some part)).toList ++ after) := by
  refine ⟨c, part.toList ++ after, ?_, hc⟩
  rw [partText, String.toList_append, hsign]
  rfl

def tailText (u : Url) : List Char :=
  u.pathText.toList ++ ((partText "?" u.query).toList ++ (partText "#" u.fragment).toList)

theorem text_of_hosted {u : Url} {a : Authority} (h : Hosted u a) : u.text.toList = front u.scheme a u.tailText := by
  obtain ⟨segments, hpath⟩ := h.path
  simp only [text, authorityText, h.authority, String.toList_append, front, tailText, List.append_assoc]
  rfl

theorem startsTail_tailText {u : Url} {a : Authority} (h : Hosted u a) : u.tailText = [] ∨ StartsTail u.tailText := by
  obtain ⟨segments, hpath⟩ := h.path
  unfold tailText pathText
  rw [hpath]
  cases segments with
  | cons s segments => exact .inr (startsTail_segments s segments _)
  | nil =>
    cases u.query with
    | some query => exact .inr (startsTail_part rfl (.inr (.inl rfl)) query _)
    | none =>
      cases u.fragment with
      | some fragment =>
        have hsign : "#".toList = ['#'] := rfl
        have htail := startsTail_part hsign (.inr (.inr rfl)) fragment []
        rw [List.append_nil] at htail
        exact .inr htail
      | none => exact .inl rfl

/-! ## Cutting the end -/

open Text (dropEndWhile)

theorem dropEndWhile_append {p : Char → Bool} {c : Char} (hc : p c = false) (before after : List Char) :
    dropEndWhile p (before ++ c :: after) = before ++ c :: dropEndWhile p after := by
  unfold dropEndWhile
  rw [List.reverse_append, List.reverse_cons, List.append_assoc, List.dropWhile_append]
  split
  · rename_i hempty
    rw [List.isEmpty_iff] at hempty
    rw [hempty, List.singleton_append, List.dropWhile_cons_of_neg (by simp [hc])]
    simp
  · simp

theorem isPrefix_dropEndWhile (p : Char → Bool) (cs : List Char) : dropEndWhile p cs <+: cs := by
  unfold dropEndWhile
  rw [← List.reverse_suffix, List.reverse_reverse]
  exact List.dropWhile_suffix p

theorem dropEndWhile_eq_self_iff {p : Char → Bool} {cs : List Char} :
    dropEndWhile p cs = cs ↔ ∀ c, cs.getLast? = some c → p c = false := by
  have hlast : dropEndWhile p cs = cs ↔ ∀ hne : cs ≠ [], ¬p (cs.getLast hne) = true := List.rdropWhile_eq_self_iff
  rw [hlast]
  constructor
  · intro h c hc
    have hne : cs ≠ [] := by rintro rfl; cases hc
    rw [List.getLast?_eq_some_getLast hne] at hc
    cases hc
    exact eq_false_of_ne_true (h hne)
  · intro h hne
    rw [h _ (List.getLast?_eq_some_getLast hne)]
    exact Bool.false_ne_true

theorem startsTail_append {tail : List Char} (h : tail = [] ∨ StartsTail tail) {kept : List Char}
    (hkept : kept <+: tail) (rest : List Char) : StartsTail (kept ++ '/' :: rest) := by
  cases kept with
  | nil => exact ⟨'/', rest, rfl, .inl rfl⟩
  | cons d kept =>
    obtain ⟨more, rfl⟩ := hkept
    rcases h with hempty | ⟨c, cs, hcs, hc⟩
    · cases hempty
    · cases hcs
      exact ⟨d, kept ++ '/' :: rest, rfl, hc⟩

/-- The slashes at the end of a URL's text are none of its scheme and authority. -/
theorem dropEndWhile_front {scheme : String} {a : Authority} (ha : a.Written scheme) (tail : List Char) :
    dropEndWhile (· == '/') (front scheme a tail) = front scheme a (dropEndWhile (· == '/') tail) := by
  obtain ⟨init, c, hc⟩ : ∃ init c, a.text.toList = init ++ [c] :=
    ⟨_, _, (List.dropLast_concat_getLast ha.text_ne).symm⟩
  have hslash : (c == '/') = false := by
    rw [beq_eq_false_iff_ne]
    rintro rfl
    have hends := ha.endsAuthority true (c := '/') (by rw [hc]; simp)
    cases hends
  have hcut := dropEndWhile_append (p := (· == '/')) hslash (scheme.toList ++ ':' :: '/' :: '/' :: init) tail
  simp only [front, hc, List.append_assoc, List.cons_append, List.nil_append] at hcut ⊢
  rw [hcut]

theorem toNat_of_isAlpha {c : Char} (h : c.isAlpha = true) : 65 ≤ c.toNat ∧ c.toNat ≤ 122 := by
  simp only [Char.isAlpha, Char.isUpper, Char.isLower, Bool.or_eq_true, Bool.and_eq_true, decide_eq_true_eq, ge_iff_le,
    UInt32.le_iff_toNat_le] at h
  have hupper : ('A').val.toNat = 65 ∧ ('Z').val.toNat = 90 := ⟨rfl, rfl⟩
  have hlower : ('a').val.toNat = 97 ∧ ('z').val.toNat = 122 := ⟨rfl, rfl⟩
  have hval : c.toNat = c.val.toNat := rfl
  omega

theorem lt_toNat_of_isAlpha {c : Char} (h : c.isAlpha = true) : 0x20 < c.toNat :=
  Nat.lt_of_lt_of_le (by decide) (toNat_of_isAlpha h).1

/-- Trimming does not reach beyond a character at either end that is not trimmed. -/
theorem trim_append {c : Char} (hc : 0x20 < c.toNat) (before : List Char) {d : Char} (hd : 0x20 < d.toNat)
    (rest : List Char) :
    trim (c :: (before ++ d :: rest)) = c :: (before ++ d :: dropEndWhile (·.toNat ≤ 0x20) rest) := by
  unfold trim
  rw [List.dropWhile_cons_of_neg (by simpa using hc)]
  exact dropEndWhile_append (by simpa using hd) (c :: before) rest

theorem trim_front {scheme : String} (hscheme : IsScheme scheme) (a : Authority) (before : List Char) {d : Char}
    (hd : 0x20 < d.toNat) (rest : List Char) :
    trim (front scheme a (before ++ d :: rest)) =
      front scheme a (before ++ d :: dropEndWhile (·.toNat ≤ 0x20) rest) := by
  obtain ⟨c, cs, hcs, hc⟩ := hscheme.head
  have hcut := trim_append (lt_toNat_of_isAlpha hc) (cs ++ ':' :: '/' :: '/' :: (a.text.toList ++ before)) hd rest
  simpa only [front, hcs, List.append_assoc, List.cons_append] using hcut

theorem trim_startsTail {scheme : String} (hscheme : IsScheme scheme) (a : Authority) {tail : List Char}
    (htail : StartsTail tail) : ∃ more, trim (front scheme a tail) = front scheme a more ∧ StartsTail more := by
  obtain ⟨d, rest, rfl, hd⟩ := htail
  have hsign : 0x20 < d.toNat := by rcases hd with rfl | rfl | rfl <;> decide
  exact ⟨_, trim_front hscheme a [] hsign rest, d, _, rfl, hd⟩

theorem dropBreaks_tail {tail : List Char} (htail : StartsTail tail) : StartsTail (dropBreaks tail) := by
  obtain ⟨c, rest, rfl, hc⟩ := htail
  refine ⟨c, dropBreaks rest, ?_, hc⟩
  rcases hc with rfl | rfl | rfl <;> rfl

theorem dropBreaks_address {scheme : String} {a : Authority} (ha : a.Written scheme) (tail : List Char) :
    dropBreaks ('/' :: '/' :: (a.text.toList ++ tail)) = '/' :: '/' :: (a.text.toList ++ dropBreaks tail) := by
  have hself := dropBreaks_eq_self fun c hc => ha.isBreak hc
  unfold dropBreaks at hself ⊢
  rw [List.filter_cons_of_pos (by decide), List.filter_cons_of_pos (by decide), List.filter_append, hself]

/-! ## The text of a file -/

theorem split_ne_nil (p : Char → Bool) (cs : List Char) : Text.split p cs ≠ [] := by
  cases cs with
  | nil => simp [Text.split]
  | cons c cs =>
    unfold Text.split
    split
    · simp
    · split <;> simp

theorem split_of_none {p : Char → Bool} : ∀ {cs : List Char}, (∀ c ∈ cs, p c = false) → Text.split p cs = [cs]
  | [], _ => rfl
  | c :: cs, h => by
    have hcs := split_of_none fun d hd => h d (List.mem_cons_of_mem c hd)
    have hc := h c List.mem_cons_self
    simp only [Text.split, hc, Bool.false_eq_true, if_false, hcs]

theorem split_append {p : Char → Bool} {c : Char} (hc : p c = true) (after : List Char) :
    ∀ {before : List Char}, (∀ d ∈ before, p d = false) →
      Text.split p (before ++ c :: after) = before :: Text.split p after
  | [], _ => by simp only [List.nil_append, Text.split, hc, if_true]
  | b :: before, h => by
    have ih := split_append hc after fun d hd => h d (List.mem_cons_of_mem b hd)
    have hb := h b List.mem_cons_self
    simp only [List.cons_append, Text.split, hb, Bool.false_eq_true, if_false, ih]

theorem intercalate_cons (piece : List Char) {pieces : List (List Char)} (h : pieces ≠ []) :
    ['/'].intercalate (piece :: pieces) = piece ++ '/' :: ['/'].intercalate pieces := by
  cases pieces with
  | nil => exact absurd rfl h
  | cons next pieces => rw [List.intercalate_cons_cons, List.append_assoc, List.singleton_append]

theorem keepDivision_eq_self {cs : List Char} (h : ∀ c ∈ cs, isBreak c = false) : keepDivision cs = cs := by
  unfold keepDivision
  rw [dropBreaks_eq_self h]
  split
  · rename_i c d rest
    have hnone : (((c :: ':' :: d :: rest).dropWhile (· != ':')).drop 1).head?.any isBreak = false := by
      cases hhead : (((c :: ':' :: d :: rest).dropWhile (· != ':')).drop 1).head? with
      | none => rfl
      | some e =>
        have he := List.mem_of_mem_drop (List.mem_of_head? hhead)
        exact h e ((List.dropWhile_suffix _).mem he)
    dsimp only
    rw [hnone, Bool.and_false]
    rfl
  · rfl

variable {scheme : String} {a : Authority}

theorem endsPath_of_authority (ha : a.Written scheme) {c : Char} (hc : c ∈ a.text.toList) : endsPath c = false := by
  have hends := ha.endsAuthority true hc
  rw [endsAuthority, Bool.or_eq_false_iff] at hends
  exact hends.1

theorem isSlash_of_authority (ha : a.Written scheme) (isSpecial : Bool) {c : Char} (hc : c ∈ a.text.toList) :
    isSlash isSpecial c = false := by
  have hends := ha.endsAuthority isSpecial hc
  rw [endsAuthority, Bool.or_eq_false_iff] at hends
  exact hends.2

/-- What a file's text keeps of an authority: all of it. -/
theorem fileText_address (ha : a.Written scheme) {tail : List Char} (htail : StartsTail tail) :
    ∃ more, fileText ('/' :: '/' :: (a.text.toList ++ tail)) = '/' :: '/' :: (a.text.toList ++ more) ∧
      StartsTail more := by
  have hself := keepDivision_eq_self fun c hc => ha.isBreak hc
  have hslash : ∀ c ∈ a.text.toList, isSlash true c = false := fun c hc => isSlash_of_authority ha true hc
  have hpath : ∀ c ∈ a.text.toList, (!endsPath c) = true := fun c hc => by rw [endsPath_of_authority ha hc]; rfl
  have hroot : ∀ cs, Text.split (isSlash true) ('/' :: cs) = [] :: Text.split (isSlash true) cs :=
    fun cs => by simp [Text.split, isSlash]
  obtain ⟨c, rest, rfl, hc⟩ := htail
  by_cases hend : endsPath c = true
  · -- nothing stands between the authority and the end of the path
    have htake : ('/' :: '/' :: (a.text.toList ++ c :: rest)).takeWhile (!endsPath ·) =
        '/' :: '/' :: a.text.toList := by
      rw [List.takeWhile_cons_of_pos (by decide), List.takeWhile_cons_of_pos (by decide),
        List.takeWhile_append_of_pos hpath, List.takeWhile_cons_of_neg (by simp [hend]), List.append_nil]
    have hdrop : ('/' :: '/' :: (a.text.toList ++ c :: rest)).dropWhile (!endsPath ·) = c :: rest := by
      rw [List.dropWhile_cons_of_pos (by decide), List.dropWhile_cons_of_pos (by decide),
        List.dropWhile_append_of_pos hpath, List.dropWhile_cons_of_neg (by simp [hend])]
    refine ⟨dropBreaks (c :: rest), ?_, dropBreaks_tail ⟨c, rest, rfl, hc⟩⟩
    unfold fileText
    rw [htake, hdrop, hroot, hroot, split_of_none hslash]
    simp only [List.map_cons, List.map_nil, hself]
    rw [intercalate_cons _ (by simp), intercalate_cons _ (by simp), List.intercalate_singleton]
    simp only [List.append_assoc, List.cons_append]
    rfl
  · -- the path goes on behind a slash
    have hc : c = '/' := by
      rcases hc with rfl | rfl | rfl
      · rfl
      · exact absurd rfl hend
      · exact absurd rfl hend
    subst hc
    have htake : ('/' :: '/' :: (a.text.toList ++ '/' :: rest)).takeWhile (!endsPath ·) =
        '/' :: '/' :: (a.text.toList ++ '/' :: rest.takeWhile (!endsPath ·)) := by
      rw [List.takeWhile_cons_of_pos (by decide), List.takeWhile_cons_of_pos (by decide),
        List.takeWhile_append_of_pos hpath, List.takeWhile_cons_of_pos (by decide)]
    have hsome : (Text.split (isSlash true) (rest.takeWhile (!endsPath ·))).map keepDivision ≠ [] := by
      simp [split_ne_nil]
    refine ⟨'/' :: (['/'].intercalate ((Text.split (isSlash true) (rest.takeWhile (!endsPath ·))).map keepDivision) ++
      dropBreaks (('/' :: '/' :: (a.text.toList ++ '/' :: rest)).dropWhile (!endsPath ·))), ?_, '/', _, rfl, .inl rfl⟩
    unfold fileText
    dsimp only
    rw [htake, hroot, hroot, split_append rfl _ hslash]
    simp only [List.map_cons, hself]
    rw [intercalate_cons _ (by simp), intercalate_cons _ (by simp), intercalate_cons _ hsome]
    simp only [List.append_assoc, List.cons_append]
    rfl

/-! ## Reading behind the front -/

theorem not_isDrive_of_hasForm {host : List Char} (h : Host.HasForm host) : isDrive host = false := by
  unfold isDrive
  split
  · rename_i c d
    rcases h with hfree | ⟨address, hhost, -⟩
    · have hcolon : d ≠ ':' := by rintro rfl; simp [Host.isForbidden] at hfree
      have hbar : d ≠ '|' := by rintro rfl; simp [Host.isForbidden] at hfree
      simp [hcolon, hbar]
    · have hopen : c = '[' := by simpa using congrArg List.head? hhost
      subst hopen
      rfl
  · rfl

/-- Where a text leads that goes on behind a scheme and an authority: to the same scheme, host and port, or, where
that is a file, to no host at all. -/
def StaysAt (scheme : String) (a : Authority) (u : Url) : Prop :=
  u.scheme = scheme ∧
    ((∃ username password, u.authority = some ⟨username, password, a.host, a.port⟩) ∨
      scheme = "file" ∧ u.authority = some localHost)

theorem staysAt_ofAuthority? (ha : a.Written scheme) {tail : List Char} (htail : StartsTail tail) {u : Url}
    (h : ofAuthority? scheme (a.text.toList ++ tail) = some u) : StaysAt scheme a u := by
  obtain ⟨b, rest, hb, hscheme, hu, -⟩ := ofAuthority?_eq_some h
  obtain ⟨username, password, hread⟩ := authority?_text ha htail
  rw [hread] at hb
  cases hb
  exact ⟨hscheme, .inl ⟨username, password, hu⟩⟩

theorem staysAt_ofFile? (ha : a.Written "file") (hfile : a.text = a.host ∧ a.port = none ∧ a.host ≠ "localhost")
    {tail : List Char} (htail : StartsTail tail) {u : Url}
    (h : ofFile? none ('/' :: '/' :: (a.text.toList ++ tail)) = some u) : StaysAt "file" a u := by
  have hslash : isSlash true '/' = true := rfl
  have hhost : fileHost? a.host.toList = some a.host.toList := by
    rw [fileHost?, if_neg fun hempty => ha.host_ne (String.toList_eq_nil_iff.1 hempty)]
    exact ha.settled
  simp only [ofFile?, hslash, if_true, ofFileHost?_eq,
    takeWhile_front (fun c hc => ha.endsAuthority true hc) htail] at h
  rw [hfile.1, not_isDrive_of_hasForm ha.hasForm, hhost] at h
  cases h
  refine ⟨rfl, ?_⟩
  rcases onHost_authority _ a.host.toList with hlocal | ⟨-, hu⟩
  · exact .inr ⟨rfl, hlocal⟩
  · refine .inl ⟨"", "", ?_⟩
    rw [hfile.2.1, hu, String.ofList_toList]
    rfl

/-- What follows the scheme and the authority of a URL is read behind these. -/
theorem read?_front {u : Url} (h : Hosted u a) (hkind : u.kind ≠ .file) {tail more : List Char}
    (htrim : trim (front u.scheme a tail) = front u.scheme a more) :
    read? none (front u.scheme a tail) = ofAuthority? u.scheme (a.text.toList ++ dropBreaks more) := by
  have ha := h.written
  unfold read?
  dsimp only
  rw [htrim, front, scheme?_append h.scheme]
  unfold ofScheme?
  dsimp only
  rw [dropBreaks_address ha]
  cases hscheme : SchemeKind.ofScheme u.scheme with
  | file => exact absurd hscheme hkind
  | common =>
    have hdrop : ('/' :: '/' :: (a.text.toList ++ dropBreaks more)).dropWhile (isSlash true) =
        a.text.toList ++ dropBreaks more := by
      obtain ⟨c, cs, hc⟩ := List.exists_cons_of_ne_nil ha.text_ne
      have hslash := isSlash_of_authority ha true (c := c) (by rw [hc]; exact List.mem_cons_self)
      rw [List.dropWhile_cons_of_pos rfl, List.dropWhile_cons_of_pos rfl, hc, List.cons_append,
        List.dropWhile_cons_of_neg (by simp [hslash])]
    dsimp only
    rw [hdrop]
  | other => rfl

/-- **What follows a URL's scheme and authority does not lead to another host**, however the rest of the text goes
on. -/
theorem staysAt_of_front {u v : Url} (h : Hosted u a) {tail : List Char} (htail : StartsTail tail)
    (hv : read? none (front u.scheme a tail) = some v) : StaysAt u.scheme a v := by
  have ha := h.written
  obtain ⟨more, htrim, hmore⟩ := trim_startsTail h.scheme a htail
  by_cases hkind : u.kind = .file
  · obtain ⟨kept, hkept, hstarts⟩ := fileText_address ha hmore
    have hscheme := ofScheme_eq_file hkind
    have hfile : SchemeKind.ofScheme u.scheme = .file := hkind
    unfold read? at hv
    dsimp only at hv
    rw [htrim, front, scheme?_append h.scheme] at hv
    unfold ofScheme? at hv
    dsimp only at hv
    rw [hfile] at hv
    dsimp only [Option.filter_none] at hv
    rw [hkept] at hv
    rw [hscheme] at ha ⊢
    exact staysAt_ofFile? ha (h.ofFile hkind) hstarts hv
  · rw [read?_front h hkind htrim] at hv
    exact staysAt_ofAuthority? ha (dropBreaks_tail hmore) hv

end Url
end ChatClient
