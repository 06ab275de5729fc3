import ChatClient.Json.Document
import ChatClient.Json.Printer
import ChatClient.Proofs.Text.Decimal
/-!
# Printed strings and numbers

What is printed of a string or of a whole number is read off the front of any text that goes on with it.  A string
ends at its own closing quote, as every character inside is read from its own escape (`scanString_printChar`); a
number ends where what follows is nothing that a number could go on with (`EndsNumeral`).  Neither has a control
character in its text.
-/
namespace ChatClient.Json

open Document
  (Part scanString assemble partsText? hex4? faultMark spanDigits scanWhole scanFraction scanExponent takeDigits
  scanUnsigned scanNumber)
open Text.Decimal (ofNat ofInt value_ofNat ofNat_ne_nil isDigit_of_mem_ofNat eq_zero_of_ofNat exists_ofNat)

/-! ## Strings -/

def lettered : List Char :=
  ['"', '\\', '\x08', '\x0c', '\n', '\r', '\t']

theorem eq_of_mem_lettered {c : Char} (h : c ∈ lettered) :
    c = '"' ∨ c = '\\' ∨ c = '\x08' ∨ c = '\x0c' ∨ c = '\n' ∨ c = '\r' ∨ c = '\t' := by
  simpa [lettered] using h

/-- The three ways to print a character: an escape of two characters, one of six, and none. -/
theorem printChar_cases (c : Char) :
    c ∈ lettered ∨ c.toNat < 0x20 ∧ printChar c = controlEscape c ∨
      0x20 ≤ c.toNat ∧ c ≠ '"' ∧ c ≠ '\\' ∧ printChar c = [c] := by
  by_cases hlettered : c ∈ lettered
  · exact .inl hlettered
  have hother := hlettered
  simp only [lettered, List.mem_cons, List.not_mem_nil, or_false, not_or] at hother
  rcases Nat.lt_or_ge c.toNat 0x20 with hcontrol | hplain
  · exact .inr (.inl ⟨hcontrol, by simp [printChar, hother, hcontrol]⟩)
  · exact .inr (.inr ⟨hplain, hother.1, hother.2.1, by simp [printChar, hother, Nat.not_lt.2 hplain]⟩)

def part (c : Char) : Part :=
  if printChar c = controlEscape c then .unit c.toNat else .char c

theorem hex4?_controlEscape : ∀ n < 0x20, hex4? '0' '0' (Nat.digitChar (n / 16)) (Nat.digitChar (n % 16)) = some n := by
  decide

/-- **Each character is read from its own escape.** -/
theorem scanString_printChar (read : List Part) (c : Char) (rest : List Char) :
    scanString read (printChar c ++ rest) = scanString (part c :: read) rest := by
  rcases printChar_cases c with hlettered | ⟨hcontrol, hprint⟩ | ⟨hplain, hquote, hbackslash, hprint⟩
  · rcases eq_of_mem_lettered hlettered with rfl | rfl | rfl | rfl | rfl | rfl | rfl <;> rfl
  · have hhex := hex4?_controlEscape c.toNat hcontrol
    unfold part
    rw [if_pos hprint, hprint]
    simp only [controlEscape, List.cons_append, List.nil_append]
    rw [scanString, hhex]
  · have hchar : part c = .char c := if_neg (by rw [hprint]; exact nofun)
    have hfault : c ≠ faultMark := by
      rintro rfl
      exact absurd hplain (by decide)
    rw [hprint, hchar, List.singleton_append, scanString, if_neg hfault,
      if_neg (not_or.2 ⟨Nat.not_lt.2 hplain, hbackslash⟩)]
    · exact fun h => absurd h hquote
    · exact fun _ _ _ _ _ h => absurd h hbackslash
    · exact fun _ _ h => absurd h hbackslash

theorem scanString_flatMap (read : List Part) (cs rest : List Char) :
    scanString read (cs.flatMap printChar ++ '"' :: rest) = some (read.reverse ++ cs.map part, rest) := by
  induction cs generalizing read with
  | nil =>
    rw [List.map_nil, List.append_nil]
    rfl
  | cons c cs ih =>
    rw [List.flatMap_cons, List.append_assoc, scanString_printChar, ih, List.reverse_cons, List.append_assoc]
    rfl

/-- The number of a character below the surrogates is that character, whatever follows. -/
theorem assemble_unit {n : Nat} (hn : n < 0xd800) (ps : List Part) :
    assemble (.unit n :: ps) = (assemble ps).map (Char.ofNat n :: ·) := by
  by_cases hunit : ∃ m ps', ps = .unit m :: ps'
  · obtain ⟨m, ps', rfl⟩ := hunit
    rw [assemble, if_pos (.inl hn)]
  · rw [assemble, if_pos (.inl hn)]
    exact fun m ps' heq => hunit ⟨m, ps', heq⟩

theorem assemble_part (c : Char) (ps : List Part) : assemble (part c :: ps) = (assemble ps).map (c :: ·) := by
  rcases printChar_cases c with hlettered | ⟨hcontrol, hprint⟩ | ⟨-, -, -, hprint⟩
  · rcases eq_of_mem_lettered hlettered with rfl | rfl | rfl | rfl | rfl | rfl | rfl <;> rfl
  · unfold part
    rw [if_pos hprint, assemble_unit (by omega), Char.ofNat_toNat]
  · unfold part
    rw [if_neg (by rw [hprint]; exact nofun)]
    rfl

theorem assemble_map_part (cs : List Char) : assemble (cs.map part) = some cs := by
  induction cs with
  | nil => rfl
  | cons c cs ih => rw [List.map_cons, assemble_part, ih, Option.map_some]

/-- **What is printed between the quotes of a string is read as the string.** -/
theorem scanString_print (s : String) (rest : List Char) :
    ∃ ps, scanString [] (s.toList.flatMap printChar ++ '"' :: rest) = some (ps, rest) ∧ partsText? ps = some s := by
  refine ⟨_, scanString_flatMap [] s.toList rest, ?_⟩
  rw [List.reverse_nil, List.nil_append, partsText?, assemble_map_part, Option.map_some, String.ofList_toList]

/-! ## Numbers -/

/-- A text does not begin with what a number could go on with. -/
def EndsNumeral (cs : List Char) : Prop :=
  ∀ c ∈ cs.head?, c.isDigit = false ∧ c ≠ '.' ∧ c ≠ 'e' ∧ c ≠ 'E'

theorem endsNumeral_nil : EndsNumeral [] :=
  nofun

theorem endsNumeral_cons {c : Char} (hdigit : c.isDigit = false) (hletter : c ∉ ['.', 'e', 'E']) (cs : List Char) :
    EndsNumeral (c :: cs) := by
  intro c' hc'
  cases hc'
  simpa [hdigit] using hletter

theorem spanDigits_append {ds rest : List Char} (hds : ∀ c ∈ ds, c.isDigit = true) (hrest : EndsNumeral rest) :
    spanDigits (ds ++ rest) = (ds, rest) := by
  unfold spanDigits
  rw [List.takeWhile_append_of_pos hds, List.dropWhile_append_of_pos hds]
  cases rest with
  | nil => simp
  | cons c cs => simp [(hrest c rfl).1]

/-- The digits of a number are its whole part: none of them is a needless zero. -/
theorem scanWhole_ofNat (n : Nat) {rest : List Char} (hrest : EndsNumeral rest) :
    scanWhole (ofNat n ++ rest) = some (ofNat n, rest) := by
  unfold scanWhole
  rw [spanDigits_append (fun _ => isDigit_of_mem_ofNat) hrest]
  split
  case h_1 heq => exact absurd (congrArg Prod.fst heq) (ofNat_ne_nil n)
  case h_2 heq =>
    have hdigits := congrArg Prod.fst heq
    have hzero := eq_zero_of_ofNat hdigits
    subst hzero
    exact absurd hdigits nofun
  case h_3 heq =>
    cases heq
    rfl

theorem scanFraction_ends {rest : List Char} (hrest : EndsNumeral rest) : scanFraction rest = some ([], rest) := by
  unfold scanFraction
  split
  case h_1 cs => exact absurd rfl (hrest '.' rfl).2.1
  case h_2 => rfl

theorem scanExponent_ends {rest : List Char} (hrest : EndsNumeral rest) : scanExponent rest = some (none, rest) := by
  cases rest with
  | nil => rfl
  | cons c cs =>
    obtain ⟨-, -, hlower, hupper⟩ := hrest c rfl
    exact if_neg (not_or.2 ⟨hlower, hupper⟩)

theorem takeDigits_of_lt {cs : List Char} {n : Nat} (h : Nat.ofDigitChars 10 cs n < UInt64.size) :
    takeDigits n cs = (Nat.ofDigitChars 10 cs n, []) := by
  induction cs generalizing n with
  | nil => rfl
  | cons c cs ih =>
    rw [Nat.ofDigitChars_cons, Nat.mul_comm] at h ⊢
    have hfits : n * 10 + (c.toNat - '0'.toNat) < UInt64.size := by
      have hpow : 0 < 10 ^ cs.length := Nat.pow_pos (by decide)
      have hgrows := Nat.le_mul_of_pos_left (n * 10 + (c.toNat - '0'.toNat)) hpow
      rw [Nat.ofDigitChars_eq_ofDigitChars_zero] at h
      exact Nat.lt_of_le_of_lt (hgrows.trans (Nat.le_add_right ..)) h
    unfold takeDigits
    simp only [if_pos hfits]
    exact ih h

theorem scanUnsigned_ofNat (negative : Bool) {n : Nat} {rest : List Char} (hn : n < UInt64.size)
    (hrest : EndsNumeral rest) : scanUnsigned negative (ofNat n ++ rest) = some (⟨negative, n, 0, true⟩, rest) := by
  have hvalue : Nat.ofDigitChars 10 (ofNat n) 0 = n := value_ofNat n
  have htaken : takeDigits 0 (ofNat n) = (n, []) := by
    have hall := takeDigits_of_lt (hvalue.trans_lt hn)
    rwa [hvalue] at hall
  unfold scanUnsigned
  simp only [scanWhole_ofNat n hrest, scanFraction_ends hrest, scanExponent_ends hrest, htaken, Option.bind_eq_bind,
    Option.bind_some]
  rfl

def numeral (n : Int) : Numeral :=
  ⟨decide (n < 0), n.natAbs, 0, true⟩

def BeginsNumeral (c : Char) : Prop :=
  c = '-' ∨ c.isDigit = true

instance (c : Char) : Decidable (BeginsNumeral c) :=
  inferInstanceAs (Decidable (_ ∨ _))

theorem exists_ofInt (n : Int) : ∃ c cs, ofInt n = c :: cs ∧ BeginsNumeral c := by
  cases n with
  | ofNat n =>
    obtain ⟨c, cs, hcs, hdigit⟩ := exists_ofNat n
    exact ⟨c, cs, hcs, .inr hdigit⟩
  | negSucc n => exact ⟨'-', _, rfl, .inl rfl⟩

/-- **What is printed of a whole number is read as the number.** -/
theorem scanNumber_ofInt {n : Int} {rest : List Char} (hn : n.natAbs < UInt64.size) (hrest : EndsNumeral rest) :
    scanNumber (ofInt n ++ rest) = some (numeral n, rest) := by
  cases n with
  | ofNat n =>
    obtain ⟨c, cs, hcs, hdigit⟩ := exists_ofNat n
    have hread := scanUnsigned_ofNat false hn hrest
    change scanNumber (ofNat n ++ rest) = _
    unfold scanNumber
    split
    case h_1 heq =>
      rw [hcs] at heq
      rw [(List.cons.inj heq).1] at hdigit
      exact absurd hdigit (by decide)
    case h_2 => exact hread
  | negSucc n =>
    unfold numeral
    rw [decide_eq_true (Int.negSucc_lt_zero n)]
    exact scanUnsigned_ofNat true hn hrest

/-! ## Controls -/

def NoControl (cs : List Char) : Prop :=
  ∀ c ∈ cs, 0x20 ≤ c.toNat

instance (cs : List Char) : Decidable (NoControl cs) :=
  List.decidableBAll ..

theorem noControl_nil : NoControl [] :=
  nofun

theorem NoControl.cons {c : Char} {cs : List Char} (hc : 0x20 ≤ c.toNat) (hcs : NoControl cs) : NoControl (c :: cs) :=
  List.forall_mem_cons.2 ⟨hc, hcs⟩

theorem NoControl.append {cs ds : List Char} (hcs : NoControl cs) (hds : NoControl ds) : NoControl (cs ++ ds) :=
  List.forall_mem_append.2 ⟨hcs, hds⟩

theorem NoControl.not_mem_faultMark {cs : List Char} (h : NoControl cs) : faultMark ∉ cs :=
  fun hmem => absurd (h faultMark hmem) (by decide)

theorem noControl_printChar (c : Char) : NoControl (printChar c) := by
  rcases printChar_cases c with hlettered | ⟨hcontrol, hprint⟩ | ⟨hplain, -, -, hprint⟩
  · rcases eq_of_mem_lettered hlettered with rfl | rfl | rfl | rfl | rfl | rfl | rfl <;> decide
  · have hdigits : ∀ n < 0x20, NoControl ['\\', 'u', '0', '0', Nat.digitChar (n / 16), Nat.digitChar (n % 16)] := by
      decide
    rw [hprint]
    exact hdigits c.toNat hcontrol
  · rw [hprint]
    exact noControl_nil.cons hplain

theorem noControl_printString (s : String) : NoControl (printString s) := by
  have hinside : NoControl (s.toList.flatMap printChar) := fun d hd => by
    obtain ⟨c, -, hd⟩ := List.mem_flatMap.1 hd
    exact noControl_printChar c d hd
  exact (hinside.cons (by decide)).append (noControl_nil.cons (by decide))

theorem noControl_ofNat (n : Nat) : NoControl (ofNat n) := fun c hc => by
  have hbounds := (Text.isDigit_iff c).1 (isDigit_of_mem_ofNat hc)
  omega

theorem noControl_ofInt (n : Int) : NoControl (ofInt n) := by
  cases n with
  | ofNat n => exact noControl_ofNat n
  | negSucc n => exact (noControl_ofNat (n + 1)).cons (by decide)

end ChatClient.Json
