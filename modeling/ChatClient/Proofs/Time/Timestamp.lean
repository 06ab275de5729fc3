import ChatClient.Proofs.Text.Decimal
import ChatClient.Time.Timestamp
/-!
# Timestamps that are written

The text of a timestamp is read back as that timestamp, leap seconds and all years included
(`Timestamp.parse?_chars`): each part of the text is read as far as it goes, since what follows it is no digit.
-/
namespace ChatClient

open Text (dropBlank dropBlank_cons isBlank isBlank_of_isDigit)
open Text.Decimal (padded value value_padded isDigit_of_mem_padded padded_ne_nil length_padded exists_digit)

/-! ## Days and times -/

theorem Date.ofNumbers?_self (d : Date) : ofNumbers? d.year d.month d.day = some d :=
  dif_pos d.valid

theorem TimeOfDay.ofNumbers?_self (t : TimeOfDay) : ofNumbers? t.hour t.minute t.second t.nano = some t :=
  dif_pos t.valid

namespace Timestamp

def EndsNumber (cs : List Char) : Prop :=
  ∀ c ∈ cs.head?, c.isDigit = false

theorem endsNumber_cons {c : Char} (h : c.isDigit = false) (cs : List Char) : EndsNumber (c :: cs) := by
  intro c' hc'
  cases hc'
  exact h

theorem takeWhile_endsNumber {cs : List Char} (h : EndsNumber cs) (n : Nat) :
    (cs.take n).takeWhile Char.isDigit = [] := by
  cases n with
  | zero => rfl
  | succ n =>
    cases cs with
    | nil => rfl
    | cons c cs => rw [List.take_succ_cons, List.takeWhile_cons, h c rfl, if_neg Bool.false_ne_true]

/-! ## Numbers -/

/-- Digits are read as a number, if they are not too many. -/
theorem number?_append {limit : Nat} {ds rest : List Char} (hne : ds ≠ []) (hds : ∀ c ∈ ds, c.isDigit = true)
    (hlimit : ds.length ≤ limit) (hrest : EndsNumber rest) : number? limit (ds ++ rest) = some (value ds, rest) := by
  have htaken : ((ds ++ rest).take limit).takeWhile Char.isDigit = ds := by
    rw [List.take_append, List.take_of_length_le hlimit, List.takeWhile_append_of_pos hds, takeWhile_endsNumber hrest,
      List.append_nil]
  unfold number?
  rw [htaken, if_neg hne, List.drop_left]

theorem number?_padded {limit width n : Nat} {rest : List Char} (hlimit : (padded width n).length ≤ limit)
    (hrest : EndsNumber rest) : number? limit (padded width n ++ rest) = some (n, rest) := by
  rw [number?_append (padded_ne_nil width n) (fun _ => isDigit_of_mem_padded) hlimit hrest, value_padded]

theorem exists_padded_append (width n : Nat) (rest : List Char) :
    ∃ c cs, padded width n ++ rest = c :: cs ∧ c.isDigit = true := by
  obtain ⟨c, cs, hcs, hdigit⟩ := exists_digit (padded_ne_nil width n) fun _ => isDigit_of_mem_padded
  exact ⟨c, cs ++ rest, by rw [hcs]; rfl, hdigit⟩

theorem dropBlank_padded (width n : Nat) (rest : List Char) :
    dropBlank (padded width n ++ rest) = padded width n ++ rest := by
  obtain ⟨c, cs, hcs, hdigit⟩ := exists_padded_append width n rest
  rw [hcs]
  exact dropBlank_cons (isBlank_of_isDigit hdigit) cs

theorem twoDigits?_padded {n : Nat} {rest : List Char} (h : n < 100) (hrest : EndsNumber rest) :
    twoDigits? (padded 2 n ++ rest) = some (n, rest) := by
  have hlength : (padded 2 n).length = 2 := length_padded (by decide) h
  unfold twoDigits?
  rw [dropBlank_padded, number?_padded (Nat.le_of_eq hlength) hrest]
  rfl

theorem after?_cons {mark : Char} (h : isBlank mark = false) (cs : List Char) : after? mark (mark :: cs) = some cs := by
  unfold after?
  rw [dropBlank_cons h]
  exact if_pos rfl

/-! ## Years and fractions -/

theorem year?_yearText (year : Int) (rest : List Char) :
    year? (yearText year ++ '-' :: rest) = some (year, '-' :: rest) ∧
      dropBlank (yearText year ++ '-' :: rest) = yearText year ++ '-' :: rest := by
  have hrest : EndsNumber ('-' :: rest) := endsNumber_cons rfl rest
  unfold yearText
  by_cases hfour : 0 ≤ year ∧ year ≤ 9999
  · rw [if_pos hfour]
    have hlength : (padded 4 year.toNat).length = 4 := length_padded (by decide) (by omega)
    refine ⟨?_, dropBlank_padded _ _ _⟩
    obtain ⟨c, cs, hcs, hdigit⟩ := exists_padded_append 4 year.toNat ('-' :: rest)
    have hnumber := number?_padded (Nat.le_of_eq hlength) hrest
    rw [hcs] at hnumber ⊢
    unfold year?
    split
    · rename_i hsign
      cases hsign
      exact absurd hdigit (by decide)
    · rename_i hsign
      cases hsign
      exact absurd hdigit (by decide)
    · rw [hnumber]
      simp only [Option.map_some, Int.toNat_of_nonneg hfour.1]
  · rw [if_neg hfour]
    have hnumber : number? (padded 4 year.natAbs ++ '-' :: rest).length (padded 4 year.natAbs ++ '-' :: rest) =
        some (year.natAbs, '-' :: rest) := number?_padded (by simp) hrest
    by_cases hneg : year < 0
    · rw [if_pos hneg]
      refine ⟨?_, dropBlank_cons rfl _⟩
      rw [List.cons_append]
      unfold year?
      simp only [hnumber, Option.map_some]
      congr 2
      omega
    · rw [if_neg hneg]
      refine ⟨?_, dropBlank_cons rfl _⟩
      rw [List.cons_append]
      unfold year?
      simp only [hnumber, Option.map_some]
      congr 2
      omega

/-- A fraction in some places is read as the nanoseconds that it stands for. -/
theorem fraction?_padded {places n : Nat} {rest : List Char} (hplaces : 0 < places) (hnine : places ≤ 9)
    (h : n < 10 ^ places)
    (hrest : EndsNumber rest) : fraction? ('.' :: (padded places n ++ rest)) = some (n * 10 ^ (9 - places), rest) := by
  have hlength : (padded places n).length = places := length_padded hplaces h
  have hleft : rest.dropWhile Char.isDigit = rest := by
    cases rest with
    | nil => rfl
    | cons c cs => rw [List.dropWhile_cons, hrest c rfl, if_neg Bool.false_ne_true]
  unfold fraction?
  simp only [number?_padded (hlength.trans_le hnine) hrest, Option.map_some, hleft, List.length_append, hlength,
    Nat.add_sub_cancel]
  rfl

theorem fraction?_fractionText {nano : Nat} (h : nano < 1000000000) :
    fraction? (fractionText nano ++ ['Z']) = some (nano, ['Z']) ∧ EndsNumber (fractionText nano ++ ['Z']) := by
  have hrest : EndsNumber ['Z'] := endsNumber_cons rfl []
  unfold fractionText
  by_cases hzero : nano = 0
  · rw [if_pos hzero, hzero]
    exact ⟨rfl, hrest⟩
  rw [if_neg hzero]
  by_cases hmilli : nano % 1000000 = 0
  · rw [if_pos hmilli, List.cons_append, fraction?_padded (by decide) (by decide) (by omega) hrest]
    refine ⟨?_, endsNumber_cons rfl _⟩
    congr 2
    omega
  rw [if_neg hmilli]
  by_cases hmicro : nano % 1000 = 0
  · rw [if_pos hmicro, List.cons_append, fraction?_padded (by decide) (by decide) (by omega) hrest]
    refine ⟨?_, endsNumber_cons rfl _⟩
    congr 2
    omega
  · rw [if_neg hmicro, List.cons_append, fraction?_padded (by decide) (by decide) h hrest]
    exact ⟨by simp, endsNumber_cons rfl _⟩

/-! ## Whole timestamps -/

theorem ofLocal?_zero (t : Timestamp) : ofLocal? t.date t.time 0 = some t := by
  obtain ⟨hhour, hminute, hsecond, -, -⟩ := t.time.valid
  have hseconds : (t.time.seconds : Int) - 0 * 60 = t.time.seconds := by omega
  have hday : t.time.seconds < 86400 := by
    unfold TimeOfDay.seconds
    omega
  have hinDay : ((t.time.seconds : Int) % 86400).toNat = t.time.seconds := by omega
  have hhours : t.time.seconds / 3600 = t.time.hour := by
    unfold TimeOfDay.seconds
    omega
  have hminutes : t.time.seconds / 60 % 60 = t.time.minute := by
    unfold TimeOfDay.seconds
    omega
  have hsecondsIn : t.time.seconds % 60 = t.time.second := by
    unfold TimeOfDay.seconds
    omega
  have hnotBefore : ¬(t.time.seconds : Int) < 0 := by omega
  have hnotAfter : ¬(86400 : Int) ≤ t.time.seconds := by omega
  unfold ofLocal?
  simp only [hseconds, hinDay, hhours, hminutes, hsecondsIn, if_neg hnotBefore, if_neg hnotAfter,
    TimeOfDay.ofNumbers?_self]
  rfl

/-- The second and the nanoseconds that are written: a leap second is written as the second 60. -/
def written (t : TimeOfDay) : Nat × Nat :=
  if 1000000000 ≤ t.nano then (t.second + 1, t.nano - 1000000000) else (t.second, t.nano)

theorem written_bounds (t : TimeOfDay) : (written t).1 < 100 ∧ (written t).2 < 1000000000 := by
  obtain ⟨-, -, hsecond, hnano, -⟩ := t.valid
  unfold written
  split
  · exact ⟨by omega, by omega⟩
  · exact ⟨by omega, by omega⟩

theorem ofNumbers?_written (t : TimeOfDay) :
    (if (written t).1 = 60 then TimeOfDay.ofNumbers? t.hour t.minute 59 ((written t).2 + 1000000000)
      else TimeOfDay.ofNumbers? t.hour t.minute (written t).1 (written t).2) = some t := by
  obtain ⟨-, -, hsecond, -, hleap⟩ := t.valid
  unfold written
  split
  · rename_i h
    have hlast := hleap h
    have hnano : t.nano - 1000000000 + 1000000000 = t.nano := by omega
    simp only [hlast, hnano, if_pos]
    rw [← hlast]
    exact t.ofNumbers?_self
  · have hordinary : t.second ≠ 60 := by omega
    rw [if_neg hordinary]
    exact t.ofNumbers?_self

theorem chars_eq (t : Timestamp) :
    t.chars = yearText t.date.year ++ '-' :: (padded 2 t.date.month ++ '-' :: (padded 2 t.date.day ++ 'T' ::
      (padded 2 t.time.hour ++ ':' :: (padded 2 t.time.minute ++ ':' :: (padded 2 (written t.time).1 ++
        (fractionText (written t.time).2 ++ ['Z'])))))) := by
  unfold chars written
  by_cases h : 1000000000 ≤ t.time.nano
  · simp [h]
  · simp [h]

/-- **The text of a timestamp is read as that timestamp.** -/
theorem parse?_chars (t : Timestamp) : parse? t.chars = some t := by
  obtain ⟨-, hmonths, -, hdays⟩ := t.date.valid
  obtain ⟨hhours, hminutes, -, -, -⟩ := t.time.valid
  obtain ⟨hseconds, hnanos⟩ := written_bounds t.time
  obtain ⟨hfraction, hends⟩ := fraction?_fractionText hnanos
  have hmonthLength : daysInMonth t.date.year t.date.month ≤ 31 := by
    unfold daysInMonth
    split
    · split <;> decide
    · split <;> decide
  have hdash (rest : List Char) : after? '-' ('-' :: rest) = some rest := after?_cons rfl rest
  have hcolon (rest : List Char) : after? ':' (':' :: rest) = some rest := after?_cons rfl rest
  have hmonth (rest : List Char) : twoDigits? (padded 2 t.date.month ++ '-' :: rest) =
      some (t.date.month, '-' :: rest) :=
    twoDigits?_padded (by omega) (endsNumber_cons rfl rest)
  have hday (rest : List Char) : twoDigits? (padded 2 t.date.day ++ 'T' :: rest) = some (t.date.day, 'T' :: rest) :=
    twoDigits?_padded (by omega) (endsNumber_cons rfl rest)
  have hhour (rest : List Char) : twoDigits? (padded 2 t.time.hour ++ ':' :: rest) = some (t.time.hour, ':' :: rest) :=
    twoDigits?_padded (by omega) (endsNumber_cons rfl rest)
  have hminute (rest : List Char) : twoDigits? (padded 2 t.time.minute ++ ':' :: rest) =
      some (t.time.minute, ':' :: rest) :=
    twoDigits?_padded (by omega) (endsNumber_cons rfl rest)
  have hsecond := twoDigits?_padded hseconds hends
  have hzone : offset? (dropBlank ['Z']) = some (0, []) := by decide
  have hend : dropBlank [] = [] ∧ (0 : Int).natAbs < 1440 := by decide
  rw [chars_eq]
  unfold parse?
  rw [(year?_yearText t.date.year _).2]
  -- each part is read off the front, with its mark
  refine Option.bind_eq_some_iff.2 ⟨_, (year?_yearText t.date.year _).1, ?_⟩
  refine Option.bind_eq_some_iff.2 ⟨_, hdash _, ?_⟩
  refine Option.bind_eq_some_iff.2 ⟨_, hmonth _, ?_⟩
  refine Option.bind_eq_some_iff.2 ⟨_, hdash _, ?_⟩
  refine Option.bind_eq_some_iff.2 ⟨_, hday _, ?_⟩
  refine (if_pos (.inl rfl)).trans ?_
  refine Option.bind_eq_some_iff.2 ⟨_, rfl, ?_⟩
  refine Option.bind_eq_some_iff.2 ⟨_, hhour _, ?_⟩
  refine Option.bind_eq_some_iff.2 ⟨_, hcolon _, ?_⟩
  refine Option.bind_eq_some_iff.2 ⟨_, hminute _, ?_⟩
  refine Option.bind_eq_some_iff.2 ⟨_, hcolon _, ?_⟩
  refine Option.bind_eq_some_iff.2 ⟨_, hsecond, ?_⟩
  refine Option.bind_eq_some_iff.2 ⟨_, hfraction, ?_⟩
  refine Option.bind_eq_some_iff.2 ⟨_, hzone, ?_⟩
  refine (if_pos hend).trans ?_
  refine Option.bind_eq_some_iff.2 ⟨_, t.date.ofNumbers?_self, ?_⟩
  have htime := ofNumbers?_written t.time
  by_cases hleap : (written t.time).1 = 60
  · rw [if_pos hleap] at htime ⊢
    exact Option.bind_eq_some_iff.2 ⟨_, htime, ofLocal?_zero t⟩
  · rw [if_neg hleap] at htime ⊢
    exact Option.bind_eq_some_iff.2 ⟨_, htime, ofLocal?_zero t⟩

end Timestamp

end ChatClient
