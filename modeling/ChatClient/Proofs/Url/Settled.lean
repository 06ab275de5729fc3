import ChatClient.Proofs.Url.Path
import ChatClient.Proofs.Url.Segments
/-!
# Settled segments

What is kept of a piece of a path would be kept again as it is (`IsSettled.kept_eq`): nothing is left in it that
divides segments, is encoded or is dots.  So it is with all segments of a URL that was read, save that of a file,
whose first segment has rules of its own (`isSettled_of_parse?`).
-/
namespace ChatClient.Url

variable {kind : SchemeKind}

/-! ## Settled segments -/

/-- **A segment as it is kept**: nothing in it divides segments or would be encoded, and it is no dots. -/
structure IsSettled (kind : SchemeKind) (s : String) : Prop where
  undivided : ∀ c ∈ s.toList, isSlash kind.isSpecial c = false
  encoded : ∀ c ∈ s.toList, Percent.inPath c = false
  noDots : ¬IsDots s.toList

theorem isBreak_of_inPath {c : Char} (h : Percent.inPath c = false) : isBreak c = false := by
  cases hbreak : isBreak c with
  | false => rfl
  | true =>
    unfold isBreak at hbreak
    simp only [Bool.or_eq_true, beq_iff_eq] at hbreak
    rcases hbreak with (rfl | rfl) | rfl <;> cases h

theorem endsPath_of_inPath {c : Char} (h : Percent.inPath c = false) : endsPath c = false := by
  cases hends : endsPath c with
  | false => rfl
  | true =>
    unfold endsPath at hends
    simp only [Bool.or_eq_true, beq_iff_eq] at hends
    rcases hends with rfl | rfl <;> cases h

theorem IsSettled.kept_eq {s : String} (h : IsSettled kind s) : kept s.toList = s := by
  rw [kept, dropBreaks_eq_self fun c hc => isBreak_of_inPath (h.encoded c hc), Percent.encode_eq_self h.encoded,
    String.ofList_toList]

theorem isSettled_empty : IsSettled kind "" :=
  ⟨nofun, nofun, by decide⟩

theorem isSettled_kept {cs : List Char} (hslash : ∀ c ∈ cs, isSlash kind.isSpecial c = false)
    (hbreak : ∀ c ∈ cs, isBreak c = false) (hdots : ¬IsDots cs) : IsSettled kind (kept cs) := by
  rw [kept, dropBreaks_eq_self hbreak]
  refine ⟨fun c hc => ?_, fun c hc => ?_, ?_⟩
  · rw [String.toList_ofList] at hc
    rcases Percent.mem_encode hc with ⟨hmem, -⟩ | ⟨b, hb⟩
    · exact hslash c hmem
    · have hends := endsAuthority_of_isPlain (List.all_eq_true.1 (isPlain_encodeByte b) c hb) kind.isSpecial
      rw [endsAuthority, Bool.or_eq_false_iff] at hends
      exact hends.2
  · rw [String.toList_ofList] at hc
    exact Percent.encodable_inPath.of_mem_encode hc
  · rw [String.toList_ofList, isDots_encode Percent.encodable_inPath]
    exact hdots

/-- **Settled segments stay so, whatever pieces are read onto them.** -/
theorem isSettled_pushSegments (hkind : kind ≠ .file) {segments : List String} (h : ∀ s ∈ segments, IsSettled kind s)
    {pieces : List (List Char)} (hslash : ∀ cs ∈ pieces, ∀ c ∈ cs, isSlash kind.isSpecial c = false)
    (hbreak : ∀ cs ∈ pieces, ∀ c ∈ cs, isBreak c = false) :
    ∀ s ∈ pushSegments kind segments pieces, IsSettled kind s := by
  obtain ⟨k, more, hpush, hmore⟩ := exists_pushSegments_eq hkind segments pieces
  rw [hpush]
  intro s hs
  rcases List.mem_append.1 hs with hs | hs
  · exact h s (List.mem_of_mem_take hs)
  · obtain ⟨cs, hcs, rfl⟩ := List.mem_map.1 (hmore.subset hs)
    unfold added
    split
    · exact isSettled_empty
    · rename_i hdots
      exact isSettled_kept (hslash cs hcs) (hbreak cs hcs) hdots

/-! ## The segments of a URL that was read -/

theorem isBreak_of_mem_dropBreaks {cs : List Char} {c : Char} (h : c ∈ dropBreaks cs) : isBreak c = false := by
  simpa using (List.mem_filter.1 h).2

/-- **A text without tabs and line breaks is read onto settled segments as settled ones.** -/
theorem isSettled_withTail {scheme : String} (hkind : SchemeKind.ofScheme scheme ≠ .file) (authority : Option Authority)
    {segments : List String} (h : ∀ s ∈ segments, IsSettled (.ofScheme scheme) s) {cs : List Char}
    (hcs : ∀ c ∈ cs, isBreak c = false) :
    ∀ s ∈ (withTail scheme authority segments cs).segments, IsSettled (.ofScheme scheme) s := by
  unfold withTail readSegments
  dsimp only [Url.segments]
  rw [if_neg hkind]
  refine isSettled_pushSegments hkind h (fun piece hpiece c hc => (of_mem_split hpiece hc).2)
    fun piece hpiece c hc => ?_
  exact hcs c ((List.takeWhile_prefix _).subset (of_mem_split hpiece hc).1)

/-- What follows an authority is a part of the text in which it was read. -/
theorem subset_of_port? {scheme : String} {cs rest : List Char} {port : Option Nat}
    (h : port? scheme cs = some (port, rest)) : rest ⊆ cs := by
  unfold port? at h
  split at h
  · dsimp only at h
    split at h
    · cases h
      exact List.subset_cons_of_subset _ (List.dropWhile_suffix _).subset
    · cases h
  · cases h
    exact List.Subset.refl _

theorem subset_of_splitLast? {p : Char → Bool} : ∀ {cs before after : List Char},
    Text.splitLast? p cs = some (before, after) → after ⊆ cs
  | [], _, _, h => nomatch h
  | c :: cs, before, after, h => by
    unfold Text.splitLast? at h
    split at h
    · rename_i found hfound
      cases h
      exact List.subset_cons_of_subset c (subset_of_splitLast? hfound)
    · split at h
      · cases h
        exact List.subset_cons_self c _
      · cases h

theorem subset_of_userAndAddress? {front back : List Char} {parts : List Char × List Char}
    (h : userAndAddress? front back = some parts) : parts.2 ⊆ front := by
  unfold userAndAddress? at h
  split at h
  · cases h
    exact List.Subset.refl _
  · rename_i hsplit
    split at h
    · cases h
    · cases h
      exact subset_of_splitLast? hsplit
  · rename_i hsplit
    cases h
    exact subset_of_splitLast? hsplit

theorem spanHost_subset (cs : List Char) (inBrackets : Bool) : (spanHost inBrackets cs).2 ⊆ cs := by
  induction cs generalizing inBrackets with
  | nil => exact List.Subset.refl _
  | cons c cs ih =>
    unfold spanHost
    split
    · exact List.Subset.refl _
    · exact List.subset_cons_of_subset c (ih _)

theorem subset_of_addressed? {scheme : String} {back rest : List Char} {parts : List Char × List Char} {a : Authority}
    (h : addressed? scheme back parts = some (a, rest)) : rest ⊆ parts.2 ++ back := by
  unfold addressed? at h
  dsimp only at h
  split at h
  · cases h
  · split at h
    · cases h
    · obtain ⟨⟨port, after⟩, hport, heq⟩ := Option.map_eq_some_iff.1 h
      cases heq
      refine List.Subset.trans (subset_of_port? hport) (List.append_subset.2 ⟨?_, List.subset_append_right _ _⟩)
      exact List.subset_append_of_subset_left _ (spanHost_subset parts.2 false)

theorem subset_of_authority? {scheme : String} {cs rest : List Char} {a : Authority}
    (h : authority? scheme cs = some (a, rest)) : rest ⊆ cs := by
  rw [authority?_eq, Option.bind_eq_some_iff] at h
  obtain ⟨parts, hparts, h⟩ := h
  have hfront := (List.takeWhile_prefix (!endsAuthority (SchemeKind.ofScheme scheme).isSpecial ·) (l := cs)).subset
  refine List.Subset.trans (subset_of_addressed? h) (List.append_subset.2 ⟨?_, List.drop_subset _ _⟩)
  exact List.Subset.trans (subset_of_userAndAddress? hparts) hfront

theorem isSettled_ofAuthority? {scheme : String} (hkind : SchemeKind.ofScheme scheme ≠ .file) {cs : List Char}
    (hcs : ∀ c ∈ cs, isBreak c = false) {u : Url} (h : ofAuthority? scheme cs = some u) :
    ∀ s ∈ u.segments, IsSettled (.ofScheme scheme) s := by
  simp only [ofAuthority?, Option.bind_eq_bind, Option.bind_eq_some_iff] at h
  obtain ⟨⟨a, rest⟩, ha, h⟩ := h
  have hrest : ∀ c ∈ rest, isBreak c = false := fun c hc => hcs c (subset_of_authority? ha hc)
  dsimp only at h
  split at h
  · split at h
    · cases h
      exact isSettled_withTail hkind _ (List.forall_mem_nil _) (List.forall_mem_nil _)
    · cases h
      exact List.forall_mem_nil _
  · split at h
    · cases h
      exact isSettled_withTail hkind _ (List.forall_mem_nil _) fun c hc => hrest c (List.mem_cons_of_mem _ hc)
    · split at h
      · cases h
        exact List.forall_mem_nil _
      · cases h
        exact isSettled_withTail hkind _ (List.forall_mem_nil _) hrest

theorem scheme_of_ofFile? {cs : List Char} {u : Url} (h : ofFile? none cs = some u) : u.scheme = "file" := by
  unfold ofFile? at h
  split at h
  · split at h
    · split at h
      · split at h
        · rw [ofFileHost?_eq] at h
          split at h
          · cases h
            rfl
          · obtain ⟨host, -, rfl⟩ := Option.map_eq_some_iff.1 h
            rfl
        · cases h
          rfl
      · cases h
        rfl
    · cases h
      rfl
  · cases h
    rfl

/-- **The segments of a URL are settled**, save that of a file. -/
theorem isSettled_of_parse? {s : String} {u : Url} (h : parse? s = some u) (hkind : u.kind ≠ .file) :
    ∀ s ∈ u.segments, IsSettled u.kind s := by
  unfold parse? read? at h
  dsimp only at h
  split at h
  · rename_i scheme rest hscheme
    have hbreaks : ∀ c ∈ dropBreaks rest, isBreak c = false := fun c hc => isBreak_of_mem_dropBreaks hc
    unfold ofScheme? at h
    dsimp only at h
    cases hofScheme : SchemeKind.ofScheme scheme with
    | file =>
      rw [hofScheme] at h
      exact absurd (congrArg SchemeKind.ofScheme (scheme_of_ofFile? h)) hkind
    | common =>
      rw [hofScheme] at h
      obtain ⟨-, -, -, rfl, -⟩ := ofAuthority?_eq_some h
      exact isSettled_ofAuthority? hkind (fun c hc => hbreaks c ((List.dropWhile_suffix _).subset hc)) h
    | other =>
      rw [hofScheme] at h
      dsimp only at h
      split at h
      · rename_i after hafter
        obtain ⟨-, -, -, rfl, -⟩ := ofAuthority?_eq_some h
        exact isSettled_ofAuthority? hkind (fun c hc => hbreaks c (by rw [hafter]; simp [hc])) h
      · rename_i after _ hafter
        cases h
        exact isSettled_withTail hkind _ (List.forall_mem_nil _) fun c hc => hbreaks c (by rw [hafter]; simp [hc])
      · cases h
        exact List.forall_mem_nil _
  · cases h
  · rename_i hbase
    cases hbase

end ChatClient.Url
