/-!
# Lists that grow at their end

What is kept of events, first to last.  A statement about such a list speaks of an entry and of those before it
(`AtEach`) or after it (`exists_split_append`), and is proved by adding one more.
-/
namespace ChatClient

def AtEach {α : Type} (P : List α → α → Prop) (log : List α) : Prop :=
  ∀ pre x post, log = pre ++ x :: post → P pre x

namespace AtEach

variable {α : Type} {P : List α → α → Prop} {log more : List α}

theorem nil : AtEach P [] := fun pre x post h => by simp at h

theorem append (h : AtEach P log) (hmore : AtEach (fun pre => P (log ++ pre)) more) : AtEach P (log ++ more) := by
  intro pre x post hlog
  rcases List.append_eq_append_iff.1 hlog with ⟨between, hpre, hpost⟩ | ⟨between, hpre, hpost⟩
  · rw [hpre]
    exact hmore between x post hpost
  · cases between with
    | nil =>
      rw [List.append_nil] at hpre
      rw [← hpre]
      have hfirst : P (log ++ []) x := hmore [] x post hpost.symm
      rw [List.append_nil] at hfirst
      exact hfirst
    | cons y between =>
      rw [List.cons_append, List.cons.injEq] at hpost
      obtain ⟨rfl, -⟩ := hpost
      exact h pre x between hpre

theorem concat (h : AtEach P log) {x : α} (hx : P log x) : AtEach P (log ++ [x]) := by
  refine h.append fun pre y post hlog => ?_
  cases pre with
  | nil =>
    rw [List.nil_append, List.cons.injEq] at hlog
    obtain ⟨rfl, -⟩ := hlog
    rw [List.append_nil]
    exact hx
  | cons z pre => simp at hlog

end AtEach

/-- What an entry of a list brought about and no later one undid, with one entry more. -/
theorem exists_split_append {α : Type} {brings keeps : α → Prop} (l : List α) (a : α) :
    (∃ before x after, l ++ [a] = before ++ x :: after ∧ brings x ∧ ∀ later ∈ after, keeps later) ↔
      brings a ∨ (∃ before x after, l = before ++ x :: after ∧ brings x ∧ ∀ later ∈ after, keeps later) ∧
        keeps a := by
  constructor
  · rintro ⟨before, x, after, hl, hx, hafter⟩
    rcases List.eq_nil_or_concat after with rfl | ⟨after, last, rfl⟩
    · cases (List.append_inj' hl rfl).2
      exact .inl hx
    · rw [List.concat_eq_append, ← List.cons_append, ← List.append_assoc] at hl
      obtain ⟨hbefore, hlast⟩ := List.append_inj' hl rfl
      cases hlast
      refine .inr ⟨⟨before, x, after, hbefore, hx, fun later hlater => hafter later ?_⟩, hafter a ?_⟩
      · simp [hlater]
      · simp
  · rintro (ha | ⟨⟨before, x, after, rfl, hx, hafter⟩, ha⟩)
    · exact ⟨l, a, [], rfl, ha, nofun⟩
    · refine ⟨before, x, after ++ [a], by simp, hx, fun later hlater => ?_⟩
      rcases List.mem_append.1 hlater with hlater | hlater
      · exact hafter later hlater
      · rw [List.mem_singleton.1 hlater]
        exact ha

end ChatClient
