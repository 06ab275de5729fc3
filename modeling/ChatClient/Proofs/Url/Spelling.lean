import ChatClient.Proofs.Url.Stem
/-!
# Names in a path

A path is put together from names, with slashes between them, and it is read with a segment for each name exactly if
the names are plain ones (`PlainName`).  That plain names are enough is seen by reading them.  That they are needed is
seen by counting bytes: a piece of a path spells no more bytes than it has, so that segments which spell all the names
leave nothing in the path that divides a name, ends the path, is passed over, steps back or stands for something else
(`names_of_spelled`).
-/
namespace ChatClient.Url

open Text.Utf8 (bytes)

/-! ## Names and segments -/

/-- **A segment that spells a name**: it is decoded as the name, and it is one segment. -/
def Spells (segment name : String) : Prop :=
  Percent.decode segment.toList = Text.Utf8.encode name ∧ '/' ∉ segment.toList

/-- **A name that is read as it stands**: nothing in it divides a path, ends it or is passed over, it has no escape,
and it is not dots. -/
structure PlainName (kind : SchemeKind) (name : String) : Prop where
  undivided : ∀ c ∈ name.toList, isSlash kind.isSpecial c = false
  endless : ∀ c ∈ name.toList, endsPath c = false
  unbroken : ∀ c ∈ name.toList, isBreak c = false
  unescaped : ¬Percent.HasEscape name.toList
  noDots : name ≠ "." ∧ name ≠ ".."

def pathOf (names : List String) : List Char :=
  ['/'].intercalate (names.map String.toList)

theorem pathOf_cons (name : String) {names : List String} (h : names ≠ []) :
    pathOf (name :: names) = name.toList ++ '/' :: pathOf names :=
  intercalate_cons name.toList (by simpa using h)

theorem exists_pathOf_eq_append (name : String) (names : List String) :
    ∃ more, pathOf (name :: names) = name.toList ++ more := by
  cases names with
  | nil => exact ⟨[], by rw [pathOf, List.map_cons, List.map_nil, List.intercalate_singleton, List.append_nil]⟩
  | cons next names => exact ⟨_, pathOf_cons name (List.cons_ne_nil next names)⟩

variable {kind : SchemeKind} {names : List String}

theorem isDots_toList_iff {name : String} (h : ¬Percent.HasEscape name.toList) :
    IsDots name.toList ↔ name = "." ∨ name = ".." := by
  have hone : ".".toList = ['.'] := rfl
  have htwo : "..".toList = ['.', '.'] := rfl
  rw [isDots_of_not_hasEscape h, ← htwo, ← hone, String.toList_inj, String.toList_inj]

/-! ## Plain names -/

theorem split_pathOf {p : Char → Bool} (hp : p '/' = true) (hnames : names ≠ [])
    (h : ∀ name ∈ names, ∀ c ∈ name.toList, p c = false) :
    Text.split p (pathOf names) = names.map String.toList := by
  induction names with
  | nil => exact absurd rfl hnames
  | cons name names ih =>
    have hname := h name List.mem_cons_self
    cases names with
    | nil =>
      rw [pathOf, List.map_cons, List.map_nil, List.intercalate_singleton]
      exact split_of_none hname
    | cons next names =>
      rw [pathOf_cons name (List.cons_ne_nil _ _), split_append hp _ hname,
        ih (List.cons_ne_nil _ _) fun name hmem => h name (List.mem_cons_of_mem _ hmem)]
      rfl

theorem mem_pathOf {c : Char} (h : c ∈ pathOf names) : c = '/' ∨ ∃ name ∈ names, c ∈ name.toList := by
  induction names with
  | nil => cases h
  | cons name names ih =>
    cases names with
    | nil =>
      rw [pathOf, List.map_cons, List.map_nil, List.intercalate_singleton] at h
      exact .inr ⟨name, List.mem_cons_self, h⟩
    | cons next names =>
      rw [pathOf_cons name (List.cons_ne_nil _ _)] at h
      rcases List.mem_append.1 h with hname | hrest
      · exact .inr ⟨name, List.mem_cons_self, hname⟩
      · rcases List.mem_cons.1 hrest with hslash | hrest
        · exact .inl hslash
        · exact (ih hrest).imp id fun ⟨name, hmem, hc⟩ => ⟨name, List.mem_cons_of_mem _ hmem, hc⟩

theorem mem_pathOf_of_mem {name : String} {c : Char} (hname : name ∈ names) (hc : c ∈ name.toList) :
    c ∈ pathOf names := by
  induction names with
  | nil => cases hname
  | cons first names ih =>
    rcases List.mem_cons.1 hname with rfl | hname
    · obtain ⟨more, hmore⟩ := exists_pathOf_eq_append name names
      rw [hmore]
      exact List.mem_append_left more hc
    · rw [pathOf_cons first (List.ne_nil_of_mem hname)]
      exact List.mem_append_right _ (List.mem_cons_of_mem '/' (ih hname))

theorem decode_kept {cs : List Char} (hbreak : ∀ c ∈ cs, isBreak c = false) (hescape : ¬Percent.HasEscape cs) :
    Percent.decode (kept cs).toList = bytes cs := by
  rw [kept, dropBreaks_eq_self hbreak, String.toList_ofList, Percent.decode_encode Percent.encodable_inPath,
    Percent.decode_eq_bytes_iff.2 hescape]

theorem not_mem_kept {cs : List Char} (h : '/' ∉ cs) : '/' ∉ (kept cs).toList := by
  rw [kept, String.toList_ofList]
  intro hmem
  rcases Percent.mem_encode hmem with ⟨hcs, -⟩ | ⟨b, hb⟩
  · exact h (List.mem_filter.1 hcs).1
  · exact absurd (List.all_eq_true.1 (isPlain_encodeByte b) '/' hb) (by decide)

theorem PlainName.spells {name : String} (h : PlainName kind name) : Spells (kept name.toList) name := by
  have hslash : '/' ∉ name.toList := fun hmem => by cases h.undivided '/' hmem
  exact ⟨(decode_kept h.unbroken h.unescaped).trans (Text.Utf8.encode_eq name).symm, not_mem_kept hslash⟩

/-- **Plain names are read as segments of their own**, behind those that are there. -/
theorem withTail_pathOf {scheme : String} (hkind : SchemeKind.ofScheme scheme ≠ .file) (authority : Option Authority)
    (segments : List String) (hnames : names ≠ []) (h : ∀ name ∈ names, PlainName (.ofScheme scheme) name) :
    (withTail scheme authority segments (pathOf names)).path =
        .segments (segments ++ names.map fun name => kept name.toList) ∧
      (withTail scheme authority segments (pathOf names)).EndsWithPath := by
  have hends : ∀ c ∈ pathOf names, endsPath c = false := by
    intro c hc
    rcases mem_pathOf hc with rfl | ⟨name, hmem, hc⟩
    · rfl
    · exact (h name hmem).endless c hc
  have hdots : ∀ cs ∈ names.map String.toList, ¬IsDots cs := by
    intro cs hcs
    obtain ⟨name, hmem, rfl⟩ := List.mem_map.1 hcs
    rw [isDots_toList_iff (h name hmem).unescaped, not_or]
    exact (h name hmem).noDots
  refine ⟨?_, withTail_endsWithPath.2 hends⟩
  rw [path_withTail hkind hends, split_pathOf rfl hnames fun name hmem => (h name hmem).undivided,
    pushSegments_of_not_isDots hkind hdots, List.map_map]
  rfl

/-! ## Counting -/

theorem eq_of_sublist {α : Type} {f : α → Nat} (hf : ∀ x, 0 < f x) {l l' : List α} (h : l.Sublist l')
    (hsum : (l'.map f).sum ≤ (l.map f).sum) : l = l' := by
  induction h with
  | slnil => rfl
  | @cons l l' x h ih =>
    have hle : (l.map f).sum ≤ (l'.map f).sum := (h.map f).sum_le_sum fun _ _ => Nat.zero_le _
    have hx := hf x
    rw [List.map_cons, List.sum_cons] at hsum
    omega
  | @cons_cons l l' x h ih =>
    rw [List.map_cons, List.map_cons, List.sum_cons, List.sum_cons] at hsum
    rw [ih (by omega)]

theorem eq_of_sublist_of_bytes {cs ds : List Char} (h : cs.Sublist ds) (hle : (bytes ds).length ≤ (bytes cs).length) :
    cs = ds := by
  have hpos : ∀ c : Char, 0 < (String.utf8EncodeChar c).length :=
    fun c => List.length_pos_iff.2 String.utf8EncodeChar_ne_nil
  rw [bytes, bytes, List.length_flatMap, List.length_flatMap] at hle
  exact eq_of_sublist hpos h hle

theorem length_bytes_of_sublist {cs ds : List Char} (h : cs.Sublist ds) : (bytes cs).length ≤ (bytes ds).length := by
  rw [bytes, bytes, List.length_flatMap, List.length_flatMap]
  exact (h.map _).sum_le_sum fun _ _ => Nat.zero_le _

/-- The pieces of a text have all the bytes of the text but those of the separators. -/
theorem sum_split {p : Char → Bool} (hp : ∀ c, p c = true → (String.utf8EncodeChar c).length = 1) (cs : List Char) :
    ((Text.split p cs).map fun piece => (bytes piece).length + 1).sum = (bytes cs).length + 1 := by
  induction cs with
  | nil => rfl
  | cons c cs ih =>
    rw [Text.Utf8.bytes_cons, List.length_append]
    unfold Text.split
    split
    · rename_i hc
      rw [List.map_cons, List.sum_cons, ih, hp c hc]
      change 0 + 1 + _ = _
      omega
    · split
      · rename_i piece pieces hsplit
        rw [hsplit, List.map_cons, List.sum_cons] at ih
        rw [List.map_cons, List.sum_cons, Text.Utf8.bytes_cons, List.length_append]
        omega
      · rename_i hsplit
        exact absurd hsplit (split_ne_nil p cs)

theorem sum_names (hnames : names ≠ []) :
    (names.map fun name => (bytes name.toList).length + 1).sum = (bytes (pathOf names)).length + 1 := by
  induction names with
  | nil => exact absurd rfl hnames
  | cons name names ih =>
    cases names with
    | nil =>
      rw [pathOf, List.map_cons, List.map_nil, List.map_cons, List.map_nil, List.intercalate_singleton]
      rfl
    | cons next names =>
      have hslash : String.utf8EncodeChar '/' = [0x2f] := by decide
      rw [List.map_cons, List.sum_cons, ih (List.cons_ne_nil _ _), pathOf_cons name (List.cons_ne_nil _ _),
        Text.Utf8.bytes_append, Text.Utf8.bytes_cons, hslash, List.length_append, List.length_append,
        List.length_singleton]
      omega

theorem le_of_sum_le {α : Type} {f g : α → Nat} {l : List α} (hle : ∀ x ∈ l, f x ≤ g x)
    (hsum : (l.map g).sum ≤ (l.map f).sum) : ∀ x ∈ l, g x ≤ f x := by
  intro x hx
  by_contra hlt
  exact absurd (List.sum_lt_sum f g hle ⟨x, hx, Nat.not_le.1 hlt⟩) (Nat.not_lt.2 hsum)

/-! ## Segments that spell the names of a path -/

theorem length_decode_added_le (piece : List Char) :
    (Percent.decode (added piece).toList).length ≤ (bytes piece).length := by
  unfold added
  split
  · exact Nat.zero_le _
  · rw [kept, String.toList_ofList, Percent.decode_encode Percent.encodable_inPath]
    exact Nat.le_trans (Percent.length_decode_le _) (length_bytes_of_sublist List.filter_sublist)

/-- A piece that adds all its bytes is no dots and has nothing in it that is passed over or stands for something
else. -/
theorem of_length_le_decode_added {piece : List Char}
    (h : (bytes piece).length ≤ (Percent.decode (added piece).toList).length) :
    ¬IsDots piece ∧ (∀ c ∈ piece, isBreak c = false) ∧ ¬Percent.HasEscape piece := by
  unfold added at h
  split at h
  · rename_i hdots
    have hempty : piece = [] := (eq_of_sublist_of_bytes (List.nil_sublist piece) h).symm
    rw [hempty] at hdots
    exact absurd hdots (by decide)
  · rename_i hdots
    rw [kept, String.toList_ofList, Percent.decode_encode Percent.encodable_inPath] at h
    have hself : dropBreaks piece = piece :=
      eq_of_sublist_of_bytes List.filter_sublist (Nat.le_trans h (Percent.length_decode_le _))
    rw [hself] at h
    refine ⟨hdots, fun c hc => ?_, Percent.not_hasEscape_of_length_le h⟩
    rw [← hself] at hc
    exact isBreak_of_mem_dropBreaks hc

theorem bytes_of_spells {spelled : List String} (h : List.Forall₂ Spells spelled names) :
    spelled.map (fun s => Percent.decode s.toList) = names.map fun name => bytes name.toList := by
  rw [← List.forall₂_eq_eq_eq, List.forall₂_map_left_iff, List.forall₂_map_right_iff]
  exact h.imp fun _ _ h => h.1.trans (Text.Utf8.encode_eq _)

theorem not_mem_of_spells {spelled : List String} (h : List.Forall₂ Spells spelled names) :
    ∀ s ∈ spelled, '/' ∉ s.toList := by
  induction h with
  | nil => exact List.forall_mem_nil _
  | cons hs _ ih => exact List.forall_mem_cons.2 ⟨hs.2, ih⟩

theorem Spells.names_unique {spelled names names' : List String} (h : List.Forall₂ Spells spelled names)
    (h' : List.Forall₂ Spells spelled names') : names = names' := by
  have hbytes := (bytes_of_spells h).symm.trans (bytes_of_spells h')
  exact List.map_injective_iff.2 (fun _ _ heq => String.toList_inj.1 (Text.Utf8.bytes_inj.1 heq)) hbytes

/-- **Segments that spell all the names of a path** took in all of it: the text of the path was whole, and each of its
names made its own segment. -/
theorem names_of_spelled {cs : List Char} {spelled : List String} (hnames : names ≠ [])
    (hcs : cs.Sublist (pathOf names))
    (hspelled : spelled.Sublist ((Text.split (isSlash kind.isSpecial) cs).map added))
    (hspells : List.Forall₂ Spells spelled names) :
    cs = pathOf names ∧ ∀ name ∈ names, (∀ c ∈ name.toList, isSlash kind.isSpecial c = false) ∧
      ¬IsDots name.toList ∧ (∀ c ∈ name.toList, isBreak c = false) ∧ ¬Percent.HasEscape name.toList := by
  generalize hpieces : Text.split (isSlash kind.isSpecial) cs = pieces at hspelled
  have hbytes := bytes_of_spells hspells
  -- the bytes of the segments, of the names, of the text and of its pieces
  have hsegments : (spelled.map fun s => (Percent.decode s.toList).length + 1).sum =
      (bytes (pathOf names)).length + 1 := by
    rw [← sum_names hnames]
    have hlengths := congrArg (List.map fun bs : List UInt8 => bs.length + 1) hbytes
    rw [List.map_map, List.map_map] at hlengths
    exact congrArg List.sum hlengths
  have hone : ∀ c, isSlash kind.isSpecial c = true → (String.utf8EncodeChar c).length = 1 := by
    intro c hc
    unfold isSlash at hc
    simp only [Bool.or_eq_true, Bool.and_eq_true, beq_iff_eq] at hc
    rcases hc with rfl | ⟨-, rfl⟩ <;> decide
  have htext := sum_split hone cs
  rw [hpieces] at htext
  have hadded := List.sum_le_sum (l := pieces) fun piece _ => Nat.add_le_add_right (length_decode_added_le piece) 1
  have hle := length_bytes_of_sublist hcs
  -- so all of them are the same
  have hall : spelled = pieces.map added := by
    refine eq_of_sublist (f := fun s => (Percent.decode s.toList).length + 1) (fun _ => Nat.succ_pos _) hspelled ?_
    rw [List.map_map]
    change (pieces.map fun piece => (Percent.decode (added piece).toList).length + 1).sum ≤ _
    omega
  rw [hall, List.map_map] at hsegments hbytes
  have hspelt : (pieces.map fun piece => (Percent.decode (added piece).toList).length + 1).sum =
      (bytes (pathOf names)).length + 1 :=
    hsegments
  have heach : ∀ piece ∈ pieces, ¬IsDots piece ∧ (∀ c ∈ piece, isBreak c = false) ∧
      ¬Percent.HasEscape piece := by
    intro piece hpiece
    have hcount := le_of_sum_le (g := fun piece => (bytes piece).length + 1)
      (fun piece _ => Nat.add_le_add_right (length_decode_added_le piece) 1) (by omega) piece hpiece
    exact of_length_le_decode_added (Nat.le_of_add_le_add_right hcount)
  have hsame : pieces = names.map String.toList := by
    have hpiece : ∀ piece ∈ pieces, Percent.decode (added piece).toList = bytes piece := by
      intro piece hpiece
      obtain ⟨hdots, hbreak, hescape⟩ := heach piece hpiece
      rw [added, if_neg hdots, decode_kept hbreak hescape]
    have hmap : pieces.map bytes = (names.map String.toList).map bytes := by
      rw [List.map_map, ← List.map_congr_left hpiece]
      exact hbytes
    exact List.map_injective_iff.2 (fun _ _ => Text.Utf8.bytes_inj.1) hmap
  refine ⟨eq_of_sublist_of_bytes hcs (by omega), fun name hname => ?_⟩
  have hmem : name.toList ∈ pieces := hsame ▸ List.mem_map_of_mem hname
  exact ⟨fun c hc => (of_mem_split (hpieces ▸ hmem) hc).2, heach _ hmem⟩

end ChatClient.Url
