import ChatClient.Text.Blank
import ChatClient.Text.Decimal
import Mathlib.Algebra.Group.Nat.Defs
import Mathlib.Data.List.Basic
import Mathlib.Data.List.TakeWhile
/-!
# Numerals

What is written of a number is digits, with zeros in front or not, and their value is the number.  What is read is
digits behind at most one sign, where a minus sign is only for numbers that may be negative; blanks around them are
cut off before.
-/
namespace ChatClient.Text

theorem isDigit_iff (c : Char) : c.isDigit = true ↔ 48 ≤ c.toNat ∧ c.toNat ≤ 57 := by
  simp only [Char.isDigit, ge_iff_le, Bool.and_eq_true, decide_eq_true_eq, UInt32.le_iff_toNat_le, Char.toNat]
  rfl

theorem isBlank_of_isDigit {c : Char} (h : c.isDigit = true) : isBlank c = false := by
  have hbounds := (isDigit_iff c).1 h
  simp only [isBlank, Bool.or_eq_false_iff, Bool.and_eq_false_iff, decide_eq_false_iff_not, beq_eq_false_iff_ne]
  omega

theorem dropBlank_cons {c : Char} (h : isBlank c = false) (cs : List Char) : dropBlank (c :: cs) = c :: cs := by
  unfold dropBlank
  rw [List.dropWhile_cons, if_neg (by simp [h])]

namespace Decimal

theorem exists_digit {ds : List Char} (hne : ds ≠ []) (hds : ∀ c ∈ ds, c.isDigit = true) :
    ∃ c cs, ds = c :: cs ∧ c.isDigit = true := by
  obtain ⟨c, cs, rfl⟩ := List.exists_cons_of_ne_nil hne
  exact ⟨c, cs, rfl, hds c List.mem_cons_self⟩

theorem isDigit_of_mem_ofNat {n : Nat} {c : Char} (h : c ∈ ofNat n) : c.isDigit = true :=
  Nat.isDigit_of_mem_toDigits (by decide) (by decide) h

theorem value_ofNat (n : Nat) : value (ofNat n) = n :=
  Nat.ofDigitChars_ten_toDigits

theorem ofNat_ne_nil (n : Nat) : ofNat n ≠ [] :=
  Nat.toDigits_ne_nil

theorem eq_zero_of_ofNat {n : Nat} {cs : List Char} (h : ofNat n = '0' :: cs) : n = 0 := by
  induction n using Nat.strong_induction_on generalizing cs with
  | _ n ih =>
    unfold ofNat at h ih
    rcases Nat.lt_or_ge n 10 with hlt | hge
    · rw [Nat.toDigits_of_lt_base hlt] at h
      exact Nat.digitChar_eq_zero.1 (List.cons.inj h).1
    · obtain ⟨c, front, hfront⟩ := List.exists_cons_of_ne_nil (ofNat_ne_nil (n / 10))
      unfold ofNat at hfront
      rw [Nat.toDigits_of_base_le (by decide) hge, hfront] at h
      have hquotient := ih (n / 10) (by omega) (hfront.trans (congrArg (· :: front) (List.cons.inj h).1))
      omega

theorem exists_ofNat (n : Nat) : ∃ c cs, ofNat n = c :: cs ∧ c.isDigit = true :=
  exists_digit (ofNat_ne_nil n) fun _ => isDigit_of_mem_ofNat

theorem isDigit_of_mem_padded {width n : Nat} {c : Char} (h : c ∈ padded width n) : c.isDigit = true := by
  rcases List.mem_append.1 h with h | h
  · rw [(List.mem_replicate.1 h).2]
    rfl
  · exact isDigit_of_mem_ofNat h

theorem value_padded (width n : Nat) : value (padded width n) = n := by
  unfold value padded
  rw [Nat.ofDigitChars_append, Nat.ofDigitChars_replicate_zero, Nat.mul_zero]
  exact value_ofNat n

theorem padded_ne_nil (width n : Nat) : padded width n ≠ [] :=
  List.append_ne_nil_of_right_ne_nil _ (ofNat_ne_nil n)

theorem length_padded {width n : Nat} (hwidth : 0 < width) (h : n < 10 ^ width) : (padded width n).length = width := by
  have hfits : (ofNat n).length ≤ width := (Nat.length_toDigits_le_iff (by decide) hwidth).2 h
  unfold padded
  rw [List.length_append, List.length_replicate]
  omega

/-! ## Numerals that are read -/

variable {cs : List Char}

theorem digits?_eq_some_iff {n : Nat} :
    digits? cs = some n ↔ cs ≠ [] ∧ (∀ c ∈ cs, c.isDigit = true) ∧ value cs = n := by
  unfold digits?
  by_cases h : cs ≠ [] ∧ cs.all Char.isDigit
  · rw [if_pos h]
    exact ⟨fun hn => ⟨h.1, List.all_eq_true.1 h.2, Option.some.inj hn⟩, fun hn => congrArg some hn.2.2⟩
  · rw [if_neg h]
    exact ⟨nofun, fun hn => absurd ⟨hn.1, List.all_eq_true.2 hn.2.1⟩ h⟩

theorem parseNat?_of_ne {c : Char} (h : c ≠ '+') (cs : List Char) : parseNat? (c :: cs) = digits? (c :: cs) := by
  unfold parseNat?
  split
  · rename_i heq
    exact absurd (List.cons.inj heq).1 h
  · rfl

theorem parseInt?_minus (cs : List Char) : parseInt? ('-' :: cs) = (digits? cs).map fun m : Nat => -(m : Int) := by
  rw [parseInt?]
  cases digits? cs <;> rfl

theorem parseInt?_of_ne {c : Char} (h : c ≠ '-') (cs : List Char) :
    parseInt? (c :: cs) = (parseNat? (c :: cs)).map fun m : Nat => (m : Int) := by
  unfold parseInt?
  split
  · rename_i heq
    exact absurd (List.cons.inj heq).1 h
  · cases parseNat? (c :: cs) <;> rfl

theorem ne_of_isDigit {c d : Char} (hc : c.isDigit = true) (hd : d.isDigit = false) : c ≠ d := by
  rintro rfl
  rw [hc] at hd
  cases hd

theorem parseNat?_eq_some_iff {n : Nat} :
    parseNat? cs = some n ↔ ∃ (sign : Option Char) (ds : List Char), (∀ c ∈ sign, c = '+') ∧
      cs = sign.toList ++ ds ∧ digits? ds = some n := by
  constructor
  · intro h
    cases cs with
    | nil => cases h
    | cons c cs =>
      by_cases hc : c = '+'
      · subst hc
        exact ⟨some '+', cs, fun _ hmem => (Option.some.inj hmem).symm, rfl, h⟩
      · rw [parseNat?_of_ne hc] at h
        exact ⟨none, c :: cs, nofun, rfl, h⟩
  · rintro ⟨sign, ds, hsign, rfl, hds⟩
    cases sign with
    | none =>
      obtain ⟨hne, hdigits, -⟩ := digits?_eq_some_iff.1 hds
      obtain ⟨c, cs, rfl, hc⟩ := exists_digit hne hdigits
      exact (parseNat?_of_ne (ne_of_isDigit hc rfl) cs).trans hds
    | some c =>
      rw [hsign c rfl]
      exact hds

theorem parseInt?_eq_some_iff {n : Int} :
    parseInt? cs = some n ↔ ∃ (sign : Option Char) (ds : List Char) (m : Nat), (∀ c ∈ sign, c = '+' ∨ c = '-') ∧
      cs = sign.toList ++ ds ∧ digits? ds = some m ∧ n = if sign = some '-' then -(m : Int) else m := by
  constructor
  · intro h
    cases cs with
    | nil => cases h
    | cons c cs =>
      by_cases hc : c = '-'
      · subst hc
        rw [parseInt?_minus] at h
        obtain ⟨m, hm, rfl⟩ := Option.map_eq_some_iff.1 h
        exact ⟨some '-', cs, m, fun _ hmem => .inr (Option.some.inj hmem).symm, rfl, hm, rfl⟩
      · rw [parseInt?_of_ne hc] at h
        obtain ⟨m, hm, rfl⟩ := Option.map_eq_some_iff.1 h
        obtain ⟨sign, ds, hsign, hcs, hds⟩ := parseNat?_eq_some_iff.1 hm
        have hplus : sign ≠ some '-' := by
          rintro rfl
          exact absurd (hsign '-' rfl) (by decide)
        exact ⟨sign, ds, m, fun c hmem => .inl (hsign c hmem), hcs, hds, (if_neg hplus).symm⟩
  · rintro ⟨sign, ds, m, hsign, rfl, hds, rfl⟩
    by_cases hminus : sign = some '-'
    · subst hminus
      exact (parseInt?_minus ds).trans (by rw [hds]; rfl)
    · have hplus : ∀ c ∈ sign, c = '+' := by
        rintro c rfl
        exact (hsign c rfl).resolve_right fun hc => hminus (congrArg some hc)
      have hnat : parseNat? (sign.toList ++ ds) = some m := parseNat?_eq_some_iff.2 ⟨sign, ds, hplus, rfl, hds⟩
      have hne : ∀ c rest, sign.toList ++ ds = c :: rest → c ≠ '-' := by
        rintro c rest hcs rfl
        rw [hcs] at hnat
        cases hnat
      rw [if_neg hminus]
      cases hcs : sign.toList ++ ds with
      | nil =>
        rw [hcs] at hnat
        cases hnat
      | cons c rest =>
        rw [parseInt?_of_ne (hne c rest hcs), ← hcs, hnat]
        rfl

end Decimal

/-! ## Blanks cut off -/

variable {p : Char → Bool} {front body back cs : List Char}

theorem dropWhile_eq_self_of_forall (h : ∀ c ∈ cs, p c = false) : cs.dropWhile p = cs := by
  cases cs with
  | nil => rfl
  | cons c cs => rw [List.dropWhile_cons, if_neg (by simp [h c List.mem_cons_self])]

theorem trimChars_append (hne : body ≠ []) (hfront : ∀ c ∈ front, isBlank c = true)
    (hbody : ∀ c ∈ body, isBlank c = false)
    (hback : ∀ c ∈ back, isBlank c = true) : trimChars (front ++ body ++ back) = body := by
  have hdrop : dropBlank (front ++ body ++ back) = body ++ back := by
    obtain ⟨c, rest, rfl⟩ := List.exists_cons_of_ne_nil hne
    unfold dropBlank
    rw [List.append_assoc, List.dropWhile_append_of_pos hfront]
    exact dropBlank_cons (hbody c List.mem_cons_self) (rest ++ back)
  unfold trimChars
  rw [hdrop]
  unfold dropEndWhile
  rw [List.reverse_append, List.dropWhile_append_of_pos fun c hc => hback c (List.mem_reverse.1 hc),
    dropWhile_eq_self_of_forall fun c hc => hbody c (List.mem_reverse.1 hc), List.reverse_reverse]

/-- A text is what is left of it between the blanks that were cut off. -/
theorem exists_trimChars (cs : List Char) :
    ∃ front back, cs = front ++ trimChars cs ++ back ∧ (∀ c ∈ front, isBlank c = true) ∧
      ∀ c ∈ back, isBlank c = true := by
  refine ⟨cs.takeWhile isBlank, ((dropBlank cs).reverse.takeWhile isBlank).reverse, ?_, ?_, ?_⟩
  · have hend : trimChars cs ++ ((dropBlank cs).reverse.takeWhile isBlank).reverse = dropBlank cs := by
      unfold trimChars dropEndWhile
      rw [← List.reverse_append, List.takeWhile_append_dropWhile, List.reverse_reverse]
    rw [List.append_assoc, hend]
    exact List.takeWhile_append_dropWhile.symm
  · exact fun c hc => List.all_eq_true.1 List.all_takeWhile c hc
  · exact fun c hc => List.all_eq_true.1 List.all_takeWhile c (List.mem_reverse.1 hc)

end ChatClient.Text
