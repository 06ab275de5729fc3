import ChatClient.Proofs.Url.Hosted
import ChatClient.Proofs.Url.Percent
/-!
# Paths and queries

A question mark ends the path of a text, and one that comes into a path in any other way would be encoded there.  So
no path that is read holds a question mark (`Url.hasPlainPath_of_read?`): the query is never a part of it.
-/
namespace ChatClient.Url

/-! ## Segments -/

theorem not_mem_encode {set : Char → Bool} {cs : List Char} (h : set '?' = true ∨ '?' ∉ cs) :
    '?' ∉ Percent.encode set cs := by
  intro hmem
  rcases Percent.mem_encode hmem with ⟨hcs, hset⟩ | ⟨b, hb⟩
  · exact h.elim (fun hin => absurd hin (by simp [hset])) fun hnot => hnot hcs
  · exact absurd (List.all_eq_true.1 (isPlain_encodeByte b) '?' hb) (by decide)

def Markless (segments : List String) : Prop :=
  ∀ s ∈ segments, '?' ∉ s.toList

theorem Markless.append {segments segments' : List String} (h : Markless segments) (h' : Markless segments') :
    Markless (segments ++ segments') :=
  fun s hs => (List.mem_append.1 hs).elim (h s) (h' s)

theorem Markless.subset {segments segments' : List String} (h : Markless segments) (hsub : segments' ⊆ segments) :
    Markless segments' :=
  fun s hs => h s (hsub hs)

theorem markless_nil : Markless [] := nofun

theorem markless_singleton {s : String} (h : '?' ∉ s.toList) : Markless [s] := by
  intro t ht
  rwa [List.mem_singleton.1 ht]

theorem markless_empty : Markless [""] := markless_singleton nofun

theorem markless_kept (cs : List Char) : Markless [kept cs] := by
  refine markless_singleton ?_
  rw [kept, String.toList_ofList]
  exact not_mem_encode (.inl (by decide))

theorem markless_stepBack {segments : List String} (h : Markless segments) : Markless (stepBack segments) := by
  unfold stepBack
  split
  · split
    · exact h
    · exact h.subset (List.dropLast_subset segments)
  · exact markless_nil

theorem markless_drive {c : Char} (h : '?' ≠ c) : Markless [String.ofList [c, ':']] := by
  refine markless_singleton ?_
  rw [String.toList_ofList]
  simp [h]

theorem markless_firstOfFile {cs : List Char} (h : '?' ∉ cs) : Markless (firstOfFile cs) := by
  unfold firstOfFile
  split
  · split
    · exact markless_drive (List.ne_of_not_mem_cons h)
    · exact markless_kept _
  · exact (markless_drive (List.ne_of_not_mem_cons h)).append (markless_kept _)
  · exact markless_kept _

theorem markless_pushSegment {kind : SchemeKind} {segments : List String} {isLast : Bool} {cs : List Char}
    (h : Markless segments) (hcs : '?' ∉ cs) : Markless (pushSegment kind segments isLast cs) := by
  have hlast : Markless (if isLast then [""] else []) := by
    cases isLast
    · exact markless_nil
    · exact markless_empty
  unfold pushSegment
  dsimp only
  split
  · exact (markless_stepBack h).append hlast
  · split
    · exact h.append hlast
    · split
      · exact markless_firstOfFile hcs
      · exact h.append (markless_kept cs)

theorem markless_pushSegments {kind : SchemeKind} {segments : List String} {pieces : List (List Char)}
    (h : Markless segments) (hpieces : ∀ cs ∈ pieces, '?' ∉ cs) : Markless (pushSegments kind segments pieces) := by
  induction pieces generalizing segments with
  | nil => exact h
  | cons cs rest ih =>
    have hcs := hpieces cs List.mem_cons_self
    cases rest with
    | nil => exact markless_pushSegment h hcs
    | cons next rest => exact ih (markless_pushSegment h hcs) fun cs hmem => hpieces cs (List.mem_cons_of_mem _ hmem)

/-- The pieces of a text are made of its characters, without those that divide it. -/
theorem of_mem_split {p : Char → Bool} {c : Char} :
    ∀ {cs piece : List Char}, piece ∈ Text.split p cs → c ∈ piece → c ∈ cs ∧ p c = false
  | [], piece, hpiece, hc => by
    rw [List.mem_singleton.1 hpiece] at hc
    cases hc
  | d :: cs, piece, hpiece, hc => by
    unfold Text.split at hpiece
    split at hpiece
    · rcases List.mem_cons.1 hpiece with rfl | hpiece
      · cases hc
      · exact (of_mem_split hpiece hc).imp (List.mem_cons_of_mem d) id
    · rename_i hd
      have hd := eq_false_of_ne_true hd
      split at hpiece
      · rename_i first pieces hsplit
        rcases List.mem_cons.1 hpiece with rfl | hpiece
        · rcases List.mem_cons.1 hc with rfl | hc
          · exact ⟨List.mem_cons_self, hd⟩
          · exact (of_mem_split (hsplit ▸ List.mem_cons_self) hc).imp (List.mem_cons_of_mem d) id
        · exact (of_mem_split (hsplit ▸ List.mem_cons_of_mem _ hpiece) hc).imp (List.mem_cons_of_mem d) id
      · rw [List.mem_singleton.1 hpiece] at hc
        rw [List.mem_singleton.1 hc]
        exact ⟨List.mem_cons_self, hd⟩

theorem markless_dropEmpty {segments : List String} (h : Markless segments) : Markless (dropEmpty segments) := by
  unfold dropEmpty
  split
  · exact markless_empty
  · exact h.subset (List.dropWhile_suffix _).subset

theorem markless_readSegments {kind : SchemeKind} {segments : List String} {cs : List Char} (h : Markless segments)
    (hcs : '?' ∉ cs) : Markless (readSegments kind segments cs) := by
  have hpushed : Markless (pushSegments kind segments (Text.split (isSlash kind.isSpecial) cs)) :=
    markless_pushSegments h fun _ hpiece hmem => hcs (of_mem_split hpiece hmem).1
  unfold readSegments
  dsimp only
  split
  · exact markless_dropEmpty hpushed
  · exact hpushed

/-! ## URLs -/

def HasPlainPath (u : Url) : Prop :=
  match u.path with
  | .segments segments => Markless segments
  | .rootless text => '?' ∉ text.toList

theorem HasPlainPath.segments {u : Url} (h : u.HasPlainPath) : Markless u.segments := by
  unfold HasPlainPath at h
  unfold Url.segments
  cases hpath : u.path with
  | segments segments =>
    rw [hpath] at h
    exact h
  | rootless text => exact markless_nil

theorem HasPlainPath.of_path {u v : Url} (h : u.HasPlainPath) (hpath : v.path = u.path) : v.HasPlainPath := by
  unfold HasPlainPath
  rw [hpath]
  exact h

theorem not_mem_takeWhile_endsPath (cs : List Char) : '?' ∉ cs.takeWhile (!endsPath ·) := by
  intro hmem
  have hends := List.all_eq_true.1 List.all_takeWhile '?' hmem
  cases hends

theorem hasPlainPath_withTail {scheme : String} {authority : Option Authority} {segments : List String} (cs : List Char)
    (h : Markless segments) : (withTail scheme authority segments cs).HasPlainPath :=
  markless_readSegments h (not_mem_takeWhile_endsPath cs)

theorem hasPlainPath_ofAuthority? {scheme : String} {cs : List Char} {u : Url} (h : ofAuthority? scheme cs = some u) :
    u.HasPlainPath := by
  simp only [ofAuthority?, Option.bind_eq_bind, Option.bind_eq_some_iff] at h
  obtain ⟨⟨a, rest⟩, -, h⟩ := h
  dsimp only at h
  split at h
  · split at h
    · cases h
      exact hasPlainPath_withTail _ markless_nil
    · cases h
      exact markless_nil
  · split at h
    · cases h
      exact hasPlainPath_withTail _ markless_nil
    · split at h
      · cases h
        exact markless_nil
      · cases h
        exact hasPlainPath_withTail _ markless_nil

theorem hasPlainPath_resolve? {base : Url} (hbase : base.HasPlainPath) {cs : List Char} {u : Url}
    (h : resolve? base cs = some u) : u.HasPlainPath := by
  unfold resolve? at h
  split at h
  · cases h
    exact hbase.of_path rfl
  · cases h
    exact hbase.of_path rfl
  · cases h
    exact hbase.of_path rfl
  · split at h
    · split at h
      · split at h
        · exact hasPlainPath_ofAuthority? h
        · cases h
          exact hasPlainPath_withTail _ markless_nil
      · cases h
        exact hasPlainPath_withTail _ markless_nil
    · cases h
      exact hasPlainPath_withTail _ (hbase.segments.subset (List.dropLast_subset _))

theorem hasPlainPath_ofFileHost? {cs : List Char} {u : Url} (h : ofFileHost? cs = some u) : u.HasPlainPath := by
  rw [ofFileHost?_eq] at h
  split at h
  · cases h
    exact hasPlainPath_withTail _ markless_nil
  · obtain ⟨host, -, rfl⟩ := Option.map_eq_some_iff.1 h
    exact hasPlainPath_withTail _ markless_nil

theorem hasPlainPath_fromRoot {base : Option Url} (hbase : ∀ b ∈ base, b.HasPlainPath) (rest : List Char) :
    (ofFile?.fromRoot base rest).HasPlainPath := by
  unfold ofFile?.fromRoot
  split
  · rename_i b
    split
    · exact hasPlainPath_withTail _ markless_nil
    · split
      · rename_i first segments hsegments
        have hfirst : Markless [first] := by
          refine (hbase b rfl).segments.subset ?_
          rw [hsegments]
          simp
        split
        · exact hasPlainPath_withTail _ hfirst
        · exact hasPlainPath_withTail _ markless_nil
      · exact hasPlainPath_withTail _ markless_nil
  · exact hasPlainPath_withTail _ markless_nil

theorem markless_fromFolder {segments : List String} (h : Markless segments) (cs : List Char) :
    Markless (fromFolder segments cs).1 := by
  unfold fromFolder
  dsimp only
  have hfolder : Markless segments.dropLast := h.subset (List.dropLast_subset segments)
  split
  · exact hfolder
  · split
    · exact h
    · split <;> exact hfolder

theorem hasPlainPath_fromHere {base : Option Url} (hbase : ∀ b ∈ base, b.HasPlainPath) {cs : List Char} {u : Url}
    (h : ofFile?.fromHere base cs = some u) : u.HasPlainPath := by
  unfold ofFile?.fromHere at h
  split at h
  · cases h
    exact hasPlainPath_withTail _ markless_nil
  · rename_i b
    have hb : b.HasPlainPath := hbase b rfl
    split at h
    · cases h
      exact hb.of_path rfl
    · cases h
      exact hb.of_path rfl
    · cases h
      exact hb.of_path rfl
    · split at h
      · cases h
        exact hasPlainPath_withTail _ markless_nil
      · cases h
        exact hasPlainPath_withTail _ (markless_fromFolder hb.segments _)

theorem hasPlainPath_ofFile? {base : Option Url} (hbase : ∀ b ∈ base, b.HasPlainPath) {cs : List Char} {u : Url}
    (h : ofFile? base cs = some u) : u.HasPlainPath := by
  unfold ofFile? at h
  split at h
  · split at h
    · split at h
      · split at h
        · exact hasPlainPath_ofFileHost? h
        · cases h
          exact hasPlainPath_fromRoot hbase _
      · cases h
        exact hasPlainPath_fromRoot hbase _
    · exact hasPlainPath_fromHere hbase h
  · exact hasPlainPath_fromHere hbase h

theorem hasPlainPath_ofScheme? {base : Option Url} (hbase : ∀ b ∈ base, b.HasPlainPath) {scheme : String}
    {cs : List Char} {u : Url} (h : ofScheme? base scheme cs = some u) : u.HasPlainPath := by
  unfold ofScheme? at h
  dsimp only at h
  split at h
  · exact hasPlainPath_ofFile? (fun b hb => hbase b (Option.mem_filter_iff.1 hb).1) h
  · split at h
    · split at h
      · exact hasPlainPath_resolve? (hbase _ rfl) h
      · exact hasPlainPath_ofAuthority? h
    · exact hasPlainPath_ofAuthority? h
  · split at h
    · exact hasPlainPath_ofAuthority? h
    · cases h
      exact hasPlainPath_withTail _ markless_nil
    · cases h
      change '?' ∉ (String.ofList _).toList
      rw [String.toList_ofList]
      exact not_mem_encode (.inr (not_mem_takeWhile_endsPath _))

/-- **No path that is read holds a question mark**, if none of the base does. -/
theorem hasPlainPath_of_read? {base : Option Url} (hbase : ∀ b ∈ base, b.HasPlainPath) {cs : List Char} {u : Url}
    (h : read? base cs = some u) : u.HasPlainPath := by
  unfold read? at h
  dsimp only at h
  split at h
  · exact hasPlainPath_ofScheme? hbase h
  · cases h
  · rename_i b _
    have hb : b.HasPlainPath := hbase b rfl
    split at h
    · cases h
      exact hb.of_path rfl
    · cases h
    · split at h
      · exact hasPlainPath_ofFile? hbase h
      · exact hasPlainPath_resolve? hb h

theorem hasPlainPath_of_parse? {s : String} {u : Url} (h : parse? s = some u) : u.HasPlainPath :=
  hasPlainPath_of_read? (fun b hb => absurd hb (Option.not_mem_none b)) h

/-! ## The text of a path -/

theorem not_mem_intercalate {segments : List String} (h : Markless segments) :
    '?' ∉ ("".intercalate (segments.map ("/" ++ ·))).toList := by
  induction segments with
  | nil => nofun
  | cons s segments ih =>
    have hs : '?' ∉ ("/" ++ s).toList := by
      rw [String.toList_append]
      exact fun hmem => (List.mem_append.1 hmem).elim (by decide) (h s List.mem_cons_self)
    cases segments with
    | nil =>
      rw [List.map_cons, List.map_nil, String.intercalate_singleton]
      exact hs
    | cons t segments =>
      rw [List.map_cons, List.map_cons, String.intercalate_cons_cons, String.append_empty, String.toList_append]
      exact fun hmem => (List.mem_append.1 hmem).elim hs (ih fun s hmem => h s (List.mem_cons_of_mem _ hmem))

theorem HasPlainPath.pathText {u : Url} (h : u.HasPlainPath) : '?' ∉ u.pathText.toList := by
  unfold HasPlainPath at h
  unfold Url.pathText
  cases hpath : u.path with
  | segments segments =>
    rw [hpath] at h
    exact not_mem_intercalate h
  | rootless text =>
    rw [hpath] at h
    exact h

end ChatClient.Url
