import ChatClient.Proofs.Url.Below
import ChatClient.Proofs.Url.Path
import ChatClient.Proofs.Url.Percent
/-!
# Segments

What becomes of the pieces of a path.  One that is no dots is kept as a segment behind those that are there already
(`pushSegments_of_not_isDots`).  No piece does more than take some of these away and put one behind them
(`exists_pushSegments_eq`).  Dots are known by what they are decoded as, whether they are encoded or not (`isDots_iff`).
-/
namespace ChatClient.Url

open Percent (escaped? value?_cases)
open Text.Utf8 (bytes)

/-! ## Dots -/

/-- **The texts for no step and for a step back**, with their dots encoded or not. -/
def IsDots (cs : List Char) : Prop :=
  plainDots cs = ['.'] ∨ plainDots cs = ['.', '.']

instance (cs : List Char) : Decidable (IsDots cs) := inferInstanceAs (Decidable (_ ∨ _))

theorem escaped?_dot {cs rest : List Char} :
    escaped? cs = some (0x2e, rest) ↔ cs = '2' :: 'e' :: rest ∨ cs = '2' :: 'E' :: rest := by
  constructor
  · intro h
    unfold Percent.escaped? at h
    split at h
    · rename_i a b cs
      obtain ⟨byte, hbyte, h⟩ := Option.map_eq_some_iff.1 h
      cases h
      unfold Text.Hexadecimal.byte? at hbyte
      split at hbyte
      · rename_i x y hx hy
        have hnumber : x * 16 + y = 0x2e := by
          obtain ⟨hx, -⟩ := value?_cases hx
          obtain ⟨hy, -⟩ := value?_cases hy
          have hsame := congrArg UInt8.toNat (Option.some.inj hbyte)
          rw [Text.Utf8.toNat_ofNat_of_lt (by omega)] at hsame
          exact hsame
        obtain ⟨hx, hplace⟩ := value?_cases hx
        obtain ⟨hy, hplace'⟩ := value?_cases hy
        have ha : a = '2' := Char.toNat_inj.1 (by change a.toNat = 50; omega)
        have hb : b = 'e' ∨ b = 'E' := by
          rcases hplace' with h | h | h
          · omega
          · exact .inl (Char.toNat_inj.1 (by change b.toNat = 101; omega))
          · exact .inr (Char.toNat_inj.1 (by change b.toNat = 69; omega))
        rcases hb with rfl | rfl
        · exact .inl (by rw [ha])
        · exact .inr (by rw [ha])
      · cases hbyte
    · cases h
  · rintro (rfl | rfl) <;> rfl

theorem plainDots_escaped {cs rest : List Char} (h : escaped? cs = some (0x2e, rest)) :
    plainDots ('%' :: cs) = '.' :: plainDots rest := by
  rcases escaped?_dot.1 h with rfl | rfl <;> rfl

theorem plainDots_cons {c : Char} {cs : List Char} (h : c = '%' → ∀ rest, escaped? cs ≠ some (0x2e, rest)) :
    plainDots (c :: cs) = c :: plainDots cs := by
  rw [plainDots]
  · rintro rest rfl rfl
    exact h rfl rest (escaped?_dot.2 (.inl rfl))
  · rintro rest rfl rfl
    exact h rfl rest (escaped?_dot.2 (.inr rfl))

/-- No character but the dot has the byte of a dot at its front. -/
theorem eq_dot_of_utf8EncodeChar {c : Char} {more more' : List UInt8}
    (h : String.utf8EncodeChar c ++ more = 0x2e :: more') :
    c = '.' := by
  have hspell := Text.Utf8.spell_utf8EncodeChar c
  generalize String.utf8EncodeChar c = spelled at h hspell
  cases hspell with
  | one hone hc =>
    cases h
    exact Char.toNat_inj.1 hc.symm
  | two hlow =>
    cases h
    exact absurd hlow (by decide)
  | three hlow =>
    cases h
    exact absurd hlow (by decide)
  | four hlow =>
    cases h
    exact absurd hlow (by decide)

/-- **Dots are known by what they are decoded as.** -/
theorem decode_eq_replicate_iff (cs : List Char) (n : Nat) :
    Percent.decode cs = List.replicate n 0x2e ↔ plainDots cs = List.replicate n '.' := by
  -- on the length, as an encoded dot takes three characters at once
  induction hn : cs.length using Nat.strongRecOn generalizing cs n with
  | ind m ih =>
    cases cs with
    | nil => cases n <;> simp [Percent.decode, plainDots, List.replicate_succ]
    | cons c cs =>
      rw [List.length_cons] at hn
      by_cases hc : c = '%'
      · subst hc
        rw [Percent.decode_percent]
        cases hescaped : escaped? cs with
        | none =>
          rw [plainDots_cons (by simp [hescaped])]
          cases n <;> simp [List.replicate_succ]
        | some found =>
          obtain ⟨b, rest⟩ := found
          by_cases hb : b = 0x2e
          · subst hb
            have hlength := Percent.length_of_escaped? hescaped
            rw [plainDots_escaped hescaped]
            cases n with
            | zero => simp
            | succ n => simpa [List.replicate_succ] using ih rest.length (by omega) rest n rfl
          · rw [plainDots_cons (by simp [hescaped, hb])]
            cases n <;> simp [List.replicate_succ, hb]
      · rw [Percent.decode_cons hc, plainDots_cons fun h => absurd h hc]
        cases n with
        | zero => simp [String.utf8EncodeChar_ne_nil]
        | succ n =>
          rw [List.replicate_succ, List.replicate_succ]
          by_cases hdot : c = '.'
          · subst hdot
            have hbyte : String.utf8EncodeChar '.' = [0x2e] := by decide
            rw [hbyte]
            simpa using ih cs.length (by omega) cs n rfl
          · exact iff_of_false (fun h => hdot (eq_dot_of_utf8EncodeChar h)) fun h => hdot (List.cons.inj h).1

theorem isDots_iff {cs : List Char} : IsDots cs ↔ Percent.decode cs = [0x2e] ∨ Percent.decode cs = [0x2e, 0x2e] :=
  or_congr (decode_eq_replicate_iff cs 1).symm (decode_eq_replicate_iff cs 2).symm

/-- No dots come about where a text is encoded, and none are lost. -/
theorem isDots_encode {set : Char → Bool} (hset : Percent.Encodable set) (cs : List Char) :
    IsDots (Percent.encode set cs) ↔ IsDots cs := by
  rw [isDots_iff, isDots_iff, Percent.decode_encode hset]

theorem isDots_of_not_hasEscape {cs : List Char} (h : ¬Percent.HasEscape cs) :
    IsDots cs ↔ cs = ['.'] ∨ cs = ['.', '.'] := by
  have hone : bytes ['.'] = [0x2e] := by decide
  have htwo : bytes ['.', '.'] = [0x2e, 0x2e] := by decide
  rw [isDots_iff, Percent.decode_eq_bytes_iff.2 h, ← htwo, ← hone, Text.Utf8.bytes_inj, Text.Utf8.bytes_inj]

/-! ## Pieces -/

variable {kind : SchemeKind}

theorem pushSegment_of_not_isDots (hkind : kind ≠ .file) {cs : List Char} (h : ¬IsDots cs) (segments : List String)
    (isLast : Bool) : pushSegment kind segments isLast cs = segments ++ [kept cs] := by
  obtain ⟨hone, htwo⟩ := not_or.1 h
  unfold pushSegment
  dsimp only
  rw [if_neg htwo, if_neg hone, if_neg fun hfile => hkind hfile.1]

/-- Pieces that are no dots are kept one by one, save at the front of a file's path. -/
theorem pushSegments_of_not_isDots (hkind : kind ≠ .file) {pieces : List (List Char)} (h : ∀ cs ∈ pieces, ¬IsDots cs)
    (segments : List String) : pushSegments kind segments pieces = segments ++ pieces.map kept := by
  induction pieces generalizing segments with
  | nil => rw [pushSegments, List.map_nil, List.append_nil]
  | cons cs rest ih =>
    have hcs := pushSegment_of_not_isDots hkind (h cs List.mem_cons_self) segments
    cases rest with
    | nil => exact hcs true
    | cons next rest =>
      rw [pushSegments, hcs, ih fun cs hmem => h cs (List.mem_cons_of_mem _ hmem), List.append_assoc, List.map_cons]
      · rfl
      · exact nofun

/-- What one piece can add: itself, or an empty segment if it is dots. -/
def added (cs : List Char) : String :=
  if IsDots cs then "" else kept cs

theorem exists_stepBack_eq_take (segments : List String) : ∃ k, stepBack segments = segments.take k := by
  unfold stepBack
  split
  · split
    · exact ⟨segments.length, segments.take_length.symm⟩
    · exact ⟨segments.length - 1, List.dropLast_eq_take⟩
  · exact ⟨0, rfl⟩

theorem exists_pushSegment_eq (hkind : kind ≠ .file) (segments : List String) (isLast : Bool) (cs : List Char) :
    ∃ k more, pushSegment kind segments isLast cs = segments.take k ++ more ∧ more.Sublist [added cs] := by
  have hlast : IsDots cs → (if isLast then [""] else []).Sublist [added cs] := by
    intro h
    rw [added, if_pos h]
    cases isLast
    · exact List.nil_sublist _
    · exact List.Sublist.refl _
  have hall := segments.take_length.symm
  unfold pushSegment
  dsimp only
  split
  · rename_i hdots
    obtain ⟨k, hk⟩ := exists_stepBack_eq_take segments
    exact ⟨k, _, by rw [hk], hlast (.inr hdots)⟩
  · rename_i hnot
    split
    · rename_i hdots
      exact ⟨segments.length, _, by rw [← hall], hlast (.inl hdots)⟩
    · rename_i hnot'
      rw [if_neg fun hfile => hkind hfile.1]
      refine ⟨segments.length, [kept cs], by rw [← hall], ?_⟩
      rw [added, if_neg fun hdots => hdots.elim hnot' hnot]

/-- **Pieces do no more than take away segments that were there and add one each.** -/
theorem exists_pushSegments_eq (hkind : kind ≠ .file) (segments : List String) (pieces : List (List Char)) :
    ∃ k more, pushSegments kind segments pieces = segments.take k ++ more ∧ more.Sublist (pieces.map added) := by
  induction pieces generalizing segments with
  | nil => exact ⟨segments.length, [], by rw [pushSegments, segments.take_length, List.append_nil], List.Sublist.refl _⟩
  | cons cs rest ih =>
    cases rest with
    | nil => exact exists_pushSegment_eq hkind segments true cs
    | cons next rest =>
      obtain ⟨k, more, hfirst, hmore⟩ := exists_pushSegment_eq hkind segments false cs
      obtain ⟨j, more', hrest, hmore'⟩ := ih (segments.take k ++ more)
      -- what is taken away later may have been added by the first piece
      refine ⟨min j k, more.take (j - (segments.take k).length) ++ more', ?_, ?_⟩
      · rw [pushSegments, hfirst, hrest, List.take_append, List.take_take, List.append_assoc]
        exact nofun
      · exact ((List.take_sublist _ _).trans hmore).append hmore'

end ChatClient.Url
