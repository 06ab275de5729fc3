import Mathlib.Data.List.TakeWhile
/-!
# Texts with a separator

Two halves with a separator between them can be told apart again where the first half holds no separator: the first
one divides.  The second half may hold it.
-/
namespace ChatClient

variable {α : Type} [DecidableEq α] {c : α} {as as' bs bs' : List α}

theorem takeWhile_separator (h : c ∉ as) : (as ++ c :: bs).takeWhile (· != c) = as := by
  have hne : ∀ a ∈ as, (a != c) = true := fun a ha => bne_iff_ne.2 fun heq => h (heq ▸ ha)
  rw [List.takeWhile_append_of_pos hne, List.takeWhile_cons_of_neg (by simp), List.append_nil]

theorem dropWhile_separator (h : c ∉ as) : (as ++ c :: bs).dropWhile (· != c) = c :: bs := by
  have hne : ∀ a ∈ as, (a != c) = true := fun a ha => bne_iff_ne.2 fun heq => h (heq ▸ ha)
  rw [List.dropWhile_append_of_pos hne, List.dropWhile_cons_of_neg (by simp)]

/-- A separator that the first half holds nowhere tells two halves apart; the second half may hold it. -/
theorem append_separator_inj (has : c ∉ as) (has' : c ∉ as') :
    as ++ c :: bs = as' ++ c :: bs' ↔ as = as' ∧ bs = bs' := by
  constructor
  · intro h
    have hsame : as = as' := by
      have htake := congrArg (List.takeWhile (· != c)) h
      rwa [takeWhile_separator has, takeWhile_separator has'] at htake
    subst hsame
    exact ⟨rfl, List.tail_eq_of_cons_eq (List.append_cancel_left h)⟩
  · rintro ⟨rfl, rfl⟩
    rfl

end ChatClient
