import ChatClient.Proofs.Url.Reread
import Mathlib
/-!
# URLs with a host

What reading leaves in a URL that has a host (`Hosted`): a scheme as it is kept, an authority as it is written, and
segments behind it.  Whatever text is read, a URL with a host is one of these (`hosted_of_parse?`).
-/
namespace ChatClient
namespace Url

/-! ## Schemes -/

def inScheme (c : Char) : Bool :=
  c.isAlphanum || ['+', '-', '.'].contains c

theorem not_isUpper_of_isDigit {c : Char} (h : c.isDigit = true) : ¬ c.isUpper = true := by
  simp only [Char.isDigit, Char.isUpper, Bool.and_eq_true, decide_eq_true_eq, ge_iff_le, UInt32.le_iff_toNat_le] at h ⊢
  have hdigit : ('9').val.toNat = 57 := rfl
  have hupper : ('A').val.toNat = 65 := rfl
  omega

theorem inScheme_toLower {c : Char} (h : inScheme c = true) : inScheme c.toLower = true := by
  have hkept : ¬ c.isUpper = true → inScheme c.toLower = true := fun hupper => by
    rw [Char.toLower_eq_of_not_isUpper hupper]
    exact h
  simp only [inScheme, Char.isAlphanum, Bool.or_eq_true, List.contains_iff_mem, List.mem_cons, List.not_mem_nil,
    or_false] at h
  rcases h with (halpha | hdigit) | rfl | rfl | rfl
  · rw [← Char.isAlpha_toLower_eq_isAlpha] at halpha
    simp [inScheme, Char.isAlphanum, halpha]
  · exact hkept (not_isUpper_of_isDigit hdigit)
  all_goals exact hkept (by decide)

theorem inScheme_of_isAlpha {c : Char} (h : c.isAlpha = true) : inScheme c = true := by
  simp [inScheme, Char.isAlphanum, h]

theorem isBreak_of_inScheme {c : Char} (h : inScheme c = true) : isBreak c = false :=
  isBreak_of_isPlain (isPlain_of_class (by decide) h)

theorem dropBreaks_eq_self {cs : List Char} (h : ∀ c ∈ cs, isBreak c = false) : dropBreaks cs = cs := by
  unfold dropBreaks
  rw [List.filter_eq_self]
  intro c hc
  rw [h c hc]
  rfl

/-- **A scheme as it is kept**: a letter, then letters, digits and three signs, and nothing in upper case. -/
structure IsScheme (scheme : String) : Prop where
  head : ∃ c rest, scheme.toList = c :: rest ∧ c.isAlpha = true
  all : ∀ c ∈ scheme.toList, inScheme c = true
  lower : scheme.toList.map Char.toLower = scheme.toList

theorem isScheme_of_scheme? {cs rest : List Char} {scheme : String} (h : scheme? cs = some (scheme, rest)) :
    IsScheme scheme := by
  unfold scheme? at h
  cases cs with
  | nil => cases h
  | cons c cs =>
    dsimp only at h
    split at h
    · rename_i hc
      split at h
      · cases h
        have hbreak := isBreak_of_inScheme (inScheme_of_isAlpha hc)
        -- what is kept of the name, before it is put in lower case
        have hall : ∀ d ∈ dropBreaks
            ((c :: cs).takeWhile fun c => c.isAlphanum || ['+', '-', '.'].contains c || isBreak c),
            inScheme d = true := by
          intro d hd
          obtain ⟨hd, hnot⟩ := List.mem_filter.1 hd
          have hname := List.all_eq_true.1 List.all_takeWhile d hd
          rw [Bool.not_eq_true'] at hnot
          rw [hnot, Bool.or_false] at hname
          exact hname
        refine ⟨?_, ?_, ?_⟩
        · rw [String.toList_ofList, List.takeWhile_cons_of_pos (by simp [Char.isAlphanum, hc]), dropBreaks,
            List.filter_cons_of_pos (by simp [hbreak]), List.map_cons]
          exact ⟨_, _, rfl, (Char.isAlpha_toLower_eq_isAlpha c).trans hc⟩
        · intro d hd
          rw [String.toList_ofList] at hd
          obtain ⟨e, he, rfl⟩ := List.mem_map.1 hd
          exact inScheme_toLower (hall e he)
        · rw [String.toList_ofList, List.map_map]
          exact List.map_congr_left fun e _ => Char.toLower_toLower_eq_toLower e
      · cases h
    · cases h

theorem isScheme_of_toList {scheme : String} {c : Char} {cs : List Char} (h : scheme.toList = c :: cs)
    (hc : c.isAlpha = true)
    (hall : (c :: cs).all inScheme = true) (hlower : (c :: cs).map Char.toLower = c :: cs) : IsScheme scheme where
  head := ⟨c, cs, h, hc⟩
  all := by
    rw [h]
    exact List.all_eq_true.1 hall
  lower := by
    rw [h]
    exact hlower

theorem isScheme_file : IsScheme "file" :=
  isScheme_of_toList rfl rfl (by decide) (by decide)

/-- The name of a scheme is found in front of any character that it cannot go on with. -/
theorem takeWhile_scheme {scheme : String} (h : IsScheme scheme) {d : Char} (hd : (inScheme d || isBreak d) = false)
    (rest : List Char) :
    (scheme.toList ++ d :: rest).takeWhile
      (fun c => c.isAlphanum || ['+', '-', '.'].contains c || isBreak c) = scheme.toList := by
  have hname : ∀ c ∈ scheme.toList, (inScheme c || isBreak c) = true := fun c hc => by rw [h.all c hc, Bool.true_or]
  change (scheme.toList ++ d :: rest).takeWhile (fun c => inScheme c || isBreak c) = scheme.toList
  rw [List.takeWhile_append_of_pos hname, List.takeWhile_cons_of_neg (by simp [hd]), List.append_nil]

/-- A scheme as it is kept is found again in front of its colon. -/
theorem scheme?_append {scheme : String} (h : IsScheme scheme) (rest : List Char) :
    scheme? (scheme.toList ++ ':' :: rest) = some (scheme, rest) := by
  obtain ⟨c, cs, hcs, hc⟩ := h.head
  have hname := takeWhile_scheme h (d := ':') (by decide) rest
  have hbreaks : dropBreaks scheme.toList = scheme.toList :=
    dropBreaks_eq_self fun d hd => isBreak_of_inScheme (h.all d hd)
  unfold scheme?
  rw [hcs, List.cons_append]
  dsimp only
  rw [if_pos hc, ← List.cons_append, ← hcs, hname, List.drop_left, hbreaks, h.lower, String.ofList_toList]
  rfl

/-! ## URLs with a host -/

/-- **A URL that was read with a host**: an authority as it is written, and segments behind it.  A file's host has
neither user nor port, and this machine is not named. -/
structure Hosted (u : Url) (a : Authority) : Prop where
  scheme : IsScheme u.scheme
  authority : u.authority = some a
  written : a.Written u.scheme
  path : ∃ segments, u.path = .segments segments
  ofFile : SchemeKind.ofScheme u.scheme = .file → a.text = a.host ∧ a.port = none ∧ a.host ≠ "localhost"

theorem hostText?_eq_some {u : Url} (h : u.hostText?.isSome = true) : ∃ a, u.authority = some a ∧ a.host ≠ "" := by
  cases ha : u.authority with
  | none => simp [hostText?, ha] at h
  | some a =>
    refine ⟨a, rfl, fun hempty => ?_⟩
    simp [hostText?, ha, hempty] at h

theorem ofScheme_eq_file {scheme : String} (h : SchemeKind.ofScheme scheme = .file) : scheme = "file" := by
  unfold SchemeKind.ofScheme at h
  split at h
  · cases h
  · split at h
    · assumption
    · cases h

/-- The shapes of a URL that is read behind the two slashes of an authority. -/
theorem ofAuthority?_eq_some {scheme : String} {cs : List Char} {u : Url} (h : ofAuthority? scheme cs = some u) :
    ∃ a rest, authority? scheme cs = some (a, rest) ∧ u.scheme = scheme ∧ u.authority = some a ∧
      ∃ segments, u.path = .segments segments := by
  simp only [ofAuthority?, Option.bind_eq_bind, Option.bind_eq_some_iff] at h
  obtain ⟨⟨a, rest⟩, ha, h⟩ := h
  refine ⟨a, rest, ha, ?_⟩
  dsimp only at h
  split at h
  · split at h <;> (cases h; exact ⟨rfl, rfl, _, rfl⟩)
  · split at h
    · cases h
      exact ⟨rfl, rfl, _, rfl⟩
    · split at h <;> (cases h; exact ⟨rfl, rfl, _, rfl⟩)

/-! ## Files on a host -/

def fileHost? (cs : List Char) : Option (List Char) :=
  if cs = [] then some [] else Host.settle? true cs

/-- A text without the slash that ends the host in front of it. -/
def behindHost (cs : List Char) : List Char :=
  match cs with
  | c :: after => if isSlash true c then after else c :: after
  | [] => []

def onHost (rest host : List Char) : Url :=
  let isLocal := host == "localhost".toList || namesDrive [] (Text.split (isSlash true) (rest.takeWhile (!endsPath ·)))
  withTail "file" (some (if isLocal then localHost else { localHost with host := String.ofList host })) [] rest

theorem ofFileHost?_eq (cs : List Char) :
    ofFileHost? cs =
      if isDrive (cs.takeWhile (!endsAuthority true ·)) then some (withTail "file" localHost [] cs)
      else (fileHost? (cs.takeWhile (!endsAuthority true ·))).map
        (onHost (behindHost (cs.drop (cs.takeWhile (!endsAuthority true ·)).length))) := by
  unfold ofFileHost? fileHost?
  dsimp only
  split
  · rfl
  · split
    · rfl
    · cases Host.settle? true (cs.takeWhile (!endsAuthority true ·)) <;> rfl

/-- A file on a host is there or, if the host is this machine or the path names a drive, on no host. -/
theorem onHost_authority (rest host : List Char) :
    (onHost rest host).authority = some localHost ∨
      host ≠ "localhost".toList ∧
        (onHost rest host).authority = some { localHost with host := String.ofList host } := by
  unfold onHost withTail
  dsimp only
  split
  · exact .inl rfl
  · rename_i hlocal
    rw [Bool.or_eq_true, not_or] at hlocal
    exact .inr ⟨by simpa using hlocal.1, rfl⟩

theorem not_isSome_hostText? {u : Url} (h : u.authority = none ∨ u.authority = some localHost) :
    u.hostText? = none := by
  unfold hostText?
  rcases h with h | h <;> rw [h] <;> rfl

theorem hosted_onHost {cs rest host : List Char} (hhost : fileHost? cs = some host)
    (h : (onHost rest host).hostText?.isSome = true) : ∃ a, Hosted (onHost rest host) a := by
  rcases onHost_authority rest host with hlocal | ⟨hne, ha⟩
  · rw [not_isSome_hostText? (.inr hlocal)] at h
    cases h
  · obtain ⟨a, ha', hsome⟩ := hostText?_eq_some h
    rw [ha] at ha'
    cases ha'
    unfold fileHost? at hhost
    split at hhost
    · cases hhost
      exact absurd rfl hsome
    · refine ⟨_, isScheme_file, ha, ⟨rfl, rfl, hsome, ?_, fun p hp => nomatch hp⟩, ⟨_, rfl⟩,
        fun _ => ⟨?_, rfl, ?_⟩⟩
      · rw [String.toList_ofList]
        exact (Host.settle?_eq_some hhost).1
      · simp [Authority.text, Authority.userText, Authority.portText, localHost]
      · intro hlocal
        exact hne (by rw [← hlocal, String.toList_ofList])

/-! ## Reading a URL with a host -/

theorem hosted_ofFile? {cs : List Char} {u : Url} (h : ofFile? none cs = some u) (hsome : u.hostText?.isSome = true) :
    ∃ a, Hosted u a := by
  unfold ofFile? at h
  split at h
  · split at h
    · split at h
      · split at h
        · rw [ofFileHost?_eq] at h
          split at h
          · cases h
            cases hsome
          · obtain ⟨host, hhost, rfl⟩ := Option.map_eq_some_iff.1 h
            exact hosted_onHost hhost hsome
        · cases h
          cases hsome
      · cases h
        cases hsome
    · cases h
      cases hsome
  · cases h
    cases hsome

theorem hosted_ofAuthority? {scheme : String} {cs : List Char} {u : Url} (hscheme : IsScheme scheme)
    (hkind : SchemeKind.ofScheme scheme ≠ .file) (h : ofAuthority? scheme cs = some u)
    (hsome : u.hostText?.isSome = true) : ∃ a, Hosted u a := by
  obtain ⟨a, rest, ha, rfl, hu, hpath⟩ := ofAuthority?_eq_some h
  obtain ⟨b, hb, hne⟩ := hostText?_eq_some hsome
  rw [hu] at hb
  cases hb
  exact ⟨a, hscheme, hu, written_of_authority? ha hne, hpath, fun hfile => absurd hfile hkind⟩

/-- **A text that is read as a URL with a host gives one as it is written.** -/
theorem hosted_of_parse? {s : String} {u : Url} (h : parse? s = some u) (hsome : u.hostText?.isSome = true) :
    ∃ a, Hosted u a := by
  unfold parse? read? at h
  dsimp only at h
  split at h
  · rename_i scheme rest hscheme
    have hscheme := isScheme_of_scheme? hscheme
    unfold ofScheme? at h
    dsimp only at h
    cases hkind : SchemeKind.ofScheme scheme with
    | file =>
      rw [hkind] at h
      exact hosted_ofFile? h hsome
    | common =>
      rw [hkind] at h
      exact hosted_ofAuthority? hscheme (by rw [hkind]; decide) h hsome
    | other =>
      rw [hkind] at h
      dsimp only at h
      split at h
      · exact hosted_ofAuthority? hscheme (by rw [hkind]; decide) h hsome
      · cases h
        cases hsome
      · cases h
        cases hsome
  · cases h
  · rename_i hbase
    cases hbase

end Url
end ChatClient
