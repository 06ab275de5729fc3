import ChatClient.Proofs.Text.Decimal
import Mathlib
/-!
# Words between blanks

A text that is looked at without the blanks around it is what stands between them (`Surrounds`).  A text that is
compared without regard to case is a word if each of its letters is the one of the word or its capital (`IsWord`).
-/
namespace ChatClient.Text

/-- A text with nothing but blanks before and after a part of it. -/
def Surrounds (cs body : List Char) : Prop :=
  ∃ front back, cs = front ++ body ++ back ∧ (∀ c ∈ front, isBlank c = true) ∧ ∀ c ∈ back, isBlank c = true

theorem surrounds_trimChars (cs : List Char) : Surrounds cs (trimChars cs) :=
  exists_trimChars cs

theorem Surrounds.trimChars_eq {cs body : List Char} (h : Surrounds cs body) (hne : body ≠ [])
    (hbody : ∀ c ∈ body, isBlank c = false) : trimChars cs = body := by
  obtain ⟨front, back, rfl, hfront, hback⟩ := h
  exact trimChars_append hne hfront hbody hback

/-- Nothing is left of a text between its blanks exactly if it holds nothing else. -/
theorem trimChars_eq_nil_iff {cs : List Char} : trimChars cs = [] ↔ ∀ c ∈ cs, isBlank c = true := by
  constructor
  · intro h
    obtain ⟨front, back, hcs, hfront, hback⟩ := exists_trimChars cs
    rw [h, List.append_nil] at hcs
    rw [hcs]
    exact List.forall_mem_append.2 ⟨hfront, hback⟩
  · intro h
    rw [trimChars, dropBlank, List.dropWhile_eq_nil_iff.2 h]
    rfl

/-- **A text is a word in letters of either case.** -/
def IsWord (word : String) (cs : List Char) : Prop :=
  List.Forall₂ (fun c l => c = l ∨ c = l.toUpper) cs word.toList

theorem toLower_eq_iff {c l : Char} (hl : l.toLower = l) : c.toLower = l ↔ c = l ∨ c = l.toUpper := by
  constructor
  · rintro rfl
    by_cases hupper : c.isUpper = true
    · right
      rw [Char.toUpper_toLower_eq_toUpper, Char.toUpper_eq_of_not_isLower (Char.not_isLower_of_isUpper hupper)]
    · exact .inl (Char.toLower_eq_of_not_isUpper hupper).symm
  · rintro (rfl | rfl)
    · exact hl
    · rw [Char.toLower_toUpper_eq_toLower, hl]

/-- A text is a word exactly if it is that word once its letters are made small. -/
theorem isWord_iff {word : String} {cs : List Char} (hword : ∀ l ∈ word.toList, l.toLower = l) :
    IsWord word cs ↔ String.ofList (cs.map Char.toLower) = word := by
  rw [← String.toList_inj, String.toList_ofList]
  unfold IsWord
  generalize word.toList = ls at hword
  induction cs generalizing ls with
  | nil => cases ls <;> simp
  | cons c cs ih =>
    cases ls with
    | nil => simp
    | cons l ls =>
      obtain ⟨hl, hls⟩ := List.forall_mem_cons.1 hword
      rw [List.forall₂_cons, List.map_cons, List.cons.injEq, toLower_eq_iff hl, ih ls hls]

end ChatClient.Text
