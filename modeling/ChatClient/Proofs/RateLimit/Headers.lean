import ChatClient.Proofs.RateLimit.Quota
import ChatClient.Proofs.Text.Decimal
/-!
# What a limiter reads in headers

A value of a header spells a number if it is a numeral: digits behind at most one sign, between spaces and tabs
(`Header.Numeral`).  The limiter reads those values as the numbers that they spell and takes no others
(`RateLimiter.number?_eq_some_iff`).  Of the two headers it wants the one that tells how many requests are left, then
the other to be there, and only then both to be read; and it has changed nothing when it finds fault with them
(`RateLimiter.observes`).
-/
namespace ChatClient

open Std (ExtTreeMap)

/-! ## Values of headers -/

structure Header.Numeral where
  front : List Char
  sign : Option Char
  digits : List Char
  back : List Char
  blank_front : ∀ c ∈ front, c = ' ' ∨ c = '\t'
  signed : ∀ c ∈ sign, c = '+' ∨ c = '-'
  digits_ne_nil : digits ≠ []
  isDigit_digits : ∀ c ∈ digits, c.isDigit = true
  blank_back : ∀ c ∈ back, c = ' ' ∨ c = '\t'

namespace Header.Numeral

def text (s : Numeral) : List Char :=
  s.front ++ (s.sign.toList ++ s.digits) ++ s.back

def bytes (s : Numeral) : List UInt8 :=
  s.text.map fun c => UInt8.ofNat c.toNat

def number (s : Numeral) : Int :=
  if s.sign = some '-' then -(Text.Decimal.value s.digits : Int) else Text.Decimal.value s.digits

end Header.Numeral

namespace Header

/-- A character that a value shows: of ASCII and no control, or a tab. -/
def Shown (c : Char) : Prop :=
  c.toNat = 9 ∨ 32 ≤ c.toNat ∧ c.toNat ≤ 126

theorem isVisible_iff (b : UInt8) : isVisible b = true ↔ b.toNat = 9 ∨ 32 ≤ b.toNat ∧ b.toNat ≤ 126 := by
  simp [isVisible, UInt8.le_iff_toNat_le, ← UInt8.toNat_inj]
  omega

theorem toNat_charOfNat (b : UInt8) : (Char.ofNat b.toNat).toNat = b.toNat := by
  have hvalid : b.toNat.isValidChar := .inl (by
    have hb := b.toNat_lt
    omega)
  rw [Char.ofNat, dif_pos hvalid]
  rfl

theorem toNat_ofNat_of_shown {c : Char} (h : Shown c) : (UInt8.ofNat c.toNat).toNat = c.toNat := by
  refine UInt8.toNat_ofNat_of_lt' ?_
  have hsize : UInt8.size = 256 := rfl
  unfold Shown at h
  omega

/-- **A value can be shown** if it is the bytes of a text of characters that are. -/
theorem visibleText?_eq_some_iff {value : List UInt8} {cs : List Char} :
    visibleText? value = some (String.ofList cs) ↔
      value = cs.map (fun c => UInt8.ofNat c.toNat) ∧ ∀ c ∈ cs, Shown c := by
  unfold visibleText?
  constructor
  · intro h
    split at h
    · rename_i hvisible
      obtain rfl := String.ofList_injective (Option.some.inj h)
      refine ⟨?_, fun c hc => ?_⟩
      · rw [List.map_map]
        refine (List.map_id'' (fun b => ?_) value).symm
        rw [Function.comp_apply, toNat_charOfNat, UInt8.ofNat_toNat]
      · obtain ⟨b, hb, rfl⟩ := List.mem_map.1 hc
        unfold Shown
        rw [toNat_charOfNat]
        exact (isVisible_iff b).1 (List.all_eq_true.1 hvisible b hb)
    · cases h
  · rintro ⟨rfl, hshown⟩
    have hvisible : (cs.map fun c => UInt8.ofNat c.toNat).all isVisible = true := by
      refine List.all_eq_true.2 fun b hb => ?_
      obtain ⟨c, hc, rfl⟩ := List.mem_map.1 hb
      rw [isVisible_iff, toNat_ofNat_of_shown (hshown c hc)]
      exact hshown c hc
    rw [if_pos hvisible, List.map_map]
    refine congrArg (fun cs => some (String.ofList cs)) ((List.map_congr_left fun c hc => ?_).trans (List.map_id cs))
    rw [Function.comp_apply, toNat_ofNat_of_shown (hshown c hc)]
    exact c.ofNat_toNat

end Header

namespace Header.Numeral

variable (s : Numeral)

theorem shown_of_blank {c : Char} (h : c = ' ' ∨ c = '\t') : Header.Shown c := by
  rcases h with rfl | rfl
  · exact .inr (by decide)
  · exact .inl rfl

theorem shown {c : Char} (h : c ∈ s.text) : Header.Shown c := by
  unfold text at h
  rcases List.mem_append.1 h with h | h
  · rcases List.mem_append.1 h with h | h
    · exact shown_of_blank (s.blank_front c h)
    · rcases List.mem_append.1 h with h | h
      · rcases s.signed c (Option.mem_toList.1 h) with rfl | rfl
        · exact .inr (by decide)
        · exact .inr (by decide)
      · have hdigit := (Text.isDigit_iff c).1 (s.isDigit_digits c h)
        unfold Header.Shown
        omega
  · exact shown_of_blank (s.blank_back c h)

theorem visibleText?_bytes : Header.visibleText? s.bytes = some (String.ofList s.text) :=
  Header.visibleText?_eq_some_iff.2 ⟨rfl, fun _ => s.shown⟩

theorem isBlank_of_blank {c : Char} (h : c = ' ' ∨ c = '\t') : Text.isBlank c = true := by
  rcases h with rfl | rfl <;> rfl

theorem blank_of_isBlank {c : Char} (hshown : Header.Shown c) (h : Text.isBlank c = true) : c = ' ' ∨ c = '\t' := by
  have hcode : c.toNat = 32 ∨ c.toNat = 9 := by
    unfold Header.Shown at hshown
    simp only [Text.isBlank, Bool.or_eq_true, Bool.and_eq_true, decide_eq_true_eq, beq_iff_eq] at h
    omega
  rcases hcode with hcode | hcode
  · exact .inl (Char.toNat_inj.1 hcode)
  · exact .inr (Char.toNat_inj.1 hcode)

theorem trimChars_text : Text.trimChars s.text = s.sign.toList ++ s.digits := by
  refine Text.trimChars_append ?_ (fun c hc => isBlank_of_blank (s.blank_front c hc)) (fun c hc => ?_)
    fun c hc => isBlank_of_blank (s.blank_back c hc)
  · exact List.append_ne_nil_of_right_ne_nil _ s.digits_ne_nil
  · rcases List.mem_append.1 hc with hc | hc
    · rcases s.signed c (Option.mem_toList.1 hc) with rfl | rfl <;> rfl
    · exact Text.isBlank_of_isDigit (s.isDigit_digits c hc)

theorem digits?_digits : Text.Decimal.digits? s.digits = some (Text.Decimal.value s.digits) :=
  Text.Decimal.digits?_eq_some_iff.2 ⟨s.digits_ne_nil, s.isDigit_digits, rfl⟩

/-- A text that can be shown, and is digits behind a sign once its blanks are cut off, is a numeral. -/
theorem exists_text {cs ds : List Char} {sign : Option Char} {m : Nat} (hshown : ∀ c ∈ cs, Header.Shown c)
    (htrim : Text.trimChars cs = sign.toList ++ ds) (hsign : ∀ c ∈ sign, c = '+' ∨ c = '-')
    (hds : Text.Decimal.digits? ds = some m) :
    ∃ s : Numeral, s.text = cs ∧ s.sign = sign ∧ s.number = if sign = some '-' then -(m : Int) else m := by
  obtain ⟨front, back, hcs, hfront, hback⟩ := Text.exists_trimChars cs
  obtain ⟨hne, hdigits, rfl⟩ := Text.Decimal.digits?_eq_some_iff.1 hds
  rw [htrim] at hcs
  have hfront' : ∀ c ∈ front, c = ' ' ∨ c = '\t' := fun c hc =>
    blank_of_isBlank (hshown c (hcs ▸ List.mem_append_left _ (List.mem_append_left _ hc))) (hfront c hc)
  have hback' : ∀ c ∈ back, c = ' ' ∨ c = '\t' := fun c hc =>
    blank_of_isBlank (hshown c (hcs ▸ List.mem_append_right _ hc)) (hback c hc)
  exact ⟨⟨front, sign, ds, back, hfront', hsign, hne, hdigits, hback'⟩, hcs.symm, rfl, rfl⟩

end Header.Numeral

namespace RateLimiter

/-- **A value spells a number between two bounds.**  A minus sign is for bounds that have negative numbers between
them. -/
structure Spells (low high : Int) (value : List UInt8) (n : Int) : Prop where
  lower : low ≤ n
  upper : n ≤ high
  numeral : ∃ s : Header.Numeral, s.bytes = value ∧ s.number = n ∧ (s.sign = some '-' → low < 0)

/-- What is read as a number of a text without blanks around it. -/
def unblanked? (low : Int) (cs : List Char) : Option Int :=
  if low < 0 then Text.Decimal.parseInt? cs else (Text.Decimal.parseNat? cs).map fun n : Nat => (n : Int)

theorem unblanked?_eq_some_iff {low n : Int} {cs : List Char} :
    unblanked? low cs = some n ↔
      ∃ (sign : Option Char) (ds : List Char) (m : Nat), (∀ c ∈ sign, c = '+' ∨ c = '-') ∧
      cs = sign.toList ++ ds ∧ Text.Decimal.digits? ds = some m ∧ (n = if sign = some '-' then -(m : Int) else m) ∧
      (sign = some '-' → low < 0) := by
  unfold unblanked?
  by_cases hlow : low < 0
  · rw [if_pos hlow, Text.Decimal.parseInt?_eq_some_iff]
    constructor
    · rintro ⟨sign, ds, m, hsign, hcs, hds, hn⟩
      exact ⟨sign, ds, m, hsign, hcs, hds, hn, fun _ => hlow⟩
    · rintro ⟨sign, ds, m, hsign, hcs, hds, hn, -⟩
      exact ⟨sign, ds, m, hsign, hcs, hds, hn⟩
  · rw [if_neg hlow, Option.map_eq_some_iff]
    constructor
    · rintro ⟨m, hm, rfl⟩
      obtain ⟨sign, ds, hsign, hcs, hds⟩ := Text.Decimal.parseNat?_eq_some_iff.1 hm
      have hplus : sign ≠ some '-' := by
        rintro rfl
        exact absurd (hsign '-' rfl) (by decide)
      exact ⟨sign, ds, m, fun c hc => .inl (hsign c hc), hcs, hds, (if_neg hplus).symm,
        fun hminus => absurd hminus hplus⟩
    · rintro ⟨sign, ds, m, hsign, hcs, hds, rfl, hminus⟩
      have hplus : ∀ c ∈ sign, c = '+' := by
        rintro c rfl
        exact (hsign c rfl).resolve_right fun hc => hlow (hminus (congrArg some hc))
      exact ⟨m, Text.Decimal.parseNat?_eq_some_iff.2 ⟨sign, ds, hplus, hcs, hds⟩,
        (if_neg fun h => hlow (hminus h)).symm⟩

theorem number?_eq (low high : Int) (value : List UInt8) :
    number? low high value =
      (Header.visibleText? value).bind fun s => (unblanked? low (Text.trimChars s.toList)).filter fun n => low ≤ n ∧
        n ≤ high := by
  unfold number?
  cases Header.visibleText? value with
  | none => rfl
  | some s =>
    unfold unblanked?
    by_cases hlow : low < 0
    · simp only [if_pos hlow, Option.bind_eq_bind, Option.bind_some]
      cases Text.Decimal.parseInt? (Text.trimChars s.toList) with
      | none => rfl
      | some n => simp [Option.filter_some]
    · simp only [if_neg hlow, Option.bind_eq_bind, Option.bind_some]
      cases Text.Decimal.parseNat? (Text.trimChars s.toList) with
      | none => rfl
      | some n => simp [Option.filter_some]

/-- **The limiter reads the values that spell a number** between the bounds, as that number. -/
theorem number?_eq_some_iff {low high n : Int} {value : List UInt8} :
    number? low high value = some n ↔ Spells low high value n := by
  rw [number?_eq, Option.bind_eq_some_iff]
  constructor
  · rintro ⟨s, hs, hn⟩
    obtain ⟨hn, hbounds⟩ := Option.filter_eq_some_iff.1 hn
    obtain ⟨hlower, hupper⟩ := of_decide_eq_true hbounds
    obtain ⟨sign, ds, m, hsign, htrim, hds, rfl, hminus⟩ := unblanked?_eq_some_iff.1 hn
    rw [← String.ofList_toList (s := s)] at hs
    obtain ⟨rfl, hshown⟩ := Header.visibleText?_eq_some_iff.1 hs
    obtain ⟨numeral, htext, rfl, hnumber⟩ := Header.Numeral.exists_text hshown htrim hsign hds
    exact ⟨hlower, hupper, numeral, congrArg _ htext, hnumber, hminus⟩
  · rintro ⟨hlower, hupper, numeral, rfl, rfl, hminus⟩
    refine ⟨_, numeral.visibleText?_bytes, Option.filter_eq_some_iff.2 ⟨?_, decide_eq_true ⟨hlower, hupper⟩⟩⟩
    rw [String.toList_ofList, numeral.trimChars_text]
    exact unblanked?_eq_some_iff.2
      ⟨numeral.sign, numeral.digits, _, numeral.signed, rfl, numeral.digits?_digits, rfl, hminus⟩

/-- A plus sign and blanks do no harm; a minus sign does where nothing negative is meant, even before a zero. -/
example : number? 0 0xffffffffffffffff [0x20, 0x2b, 0x37, 0x09] = some 7 ∧
    number? 0 0xffffffffffffffff [0x2d, 0x30] = none := by
  decide

theorem number?_eq_none_iff {low high : Int} {value : List UInt8} :
    number? low high value = none ↔ ∀ n, ¬Spells low high value n := by
  rw [Option.eq_none_iff_forall_ne_some]
  exact forall_congr' fun n => not_congr number?_eq_some_iff

/-! ## The two headers -/

/-- A value tells how many requests are left: a number of 64 bits, which may be negative. -/
abbrev SpellsLeft (value : List UInt8) (left : Int) : Prop :=
  Spells (-0x8000000000000000) 0x7fffffffffffffff value left

/-- A value tells a span in milliseconds: a number of 64 bits without a minus sign. -/
abbrev SpellsMillis (value : List UInt8) (millis : Int) : Prop :=
  Spells 0 0xffffffffffffffff value millis

/-- **Headers tell a quota**: how many requests are left, and in how many milliseconds the count starts anew. -/
structure TellQuota (headers : List Header) (left : Int) (millis : Nat) : Prop where
  remaining : ∃ value, Header.first? remainingHeader headers = some value ∧ SpellsLeft value left
  resetAfter : ∃ value, Header.first? resetAfterHeader headers = some value ∧ SpellsMillis value millis

variable {key : String} {headers : List Header} {remaining resetAfter : List UInt8}

theorem quota?_of_none (h : Header.first? remainingHeader headers = none) : quota? key headers = .ok none := by
  unfold quota?
  rw [h]

theorem quota?_of_missing (hremaining : Header.first? remainingHeader headers = some remaining)
    (hresetAfter : Header.first? resetAfterHeader headers = none) :
    quota? key headers = .error (.missingResetAfter key) := by
  unfold quota?
  rw [hremaining, hresetAfter]

theorem quota?_of_remaining (hremaining : Header.first? remainingHeader headers = some remaining)
    (hresetAfter : Header.first? resetAfterHeader headers = some resetAfter)
    (hleft : ∀ left, ¬SpellsLeft remaining left) :
    quota? key headers = .error (.invalidHeader key remainingHeader (Text.Utf8.decodeLossy remaining)) := by
  unfold quota?
  simp only [hremaining, hresetAfter, number?_eq_none_iff.2 hleft]

theorem quota?_of_resetAfter {left : Int} (hremaining : Header.first? remainingHeader headers = some remaining)
    (hresetAfter : Header.first? resetAfterHeader headers = some resetAfter) (hleft : SpellsLeft remaining left)
    (hmillis : ∀ millis, ¬SpellsMillis resetAfter millis) :
    quota? key headers = .error (.invalidHeader key resetAfterHeader (Text.Utf8.decodeLossy resetAfter)) := by
  unfold quota?
  simp only [hremaining, hresetAfter, number?_eq_some_iff.2 hleft, number?_eq_none_iff.2 hmillis]

theorem quota?_of_tellQuota {left : Int} {millis : Nat} (h : TellQuota headers left millis) :
    quota? key headers = .ok (some (left, .ofMillis millis)) := by
  obtain ⟨remaining, hremaining, hleft⟩ := h.remaining
  obtain ⟨resetAfter, hresetAfter, hmillis⟩ := h.resetAfter
  unfold quota?
  simp only [hremaining, hresetAfter, number?_eq_some_iff.2 hleft, number?_eq_some_iff.2 hmillis]
  rfl

/-- **Headers are malformed** if they begin to tell a quota and do not. -/
structure Malformed (headers : List Header) : Prop where
  begun : (Header.first? remainingHeader headers).isSome = true
  untold : ∀ left millis, ¬TellQuota headers left millis

/-- An error that names the key, and the header that it is about. -/
def Blames (key : String) (e : RateLimitError) : Prop :=
  e = .missingResetAfter key ∨ ∃ header value, e = .invalidHeader key header value

/-- **Headers say nothing, tell a quota or are malformed.** -/
theorem quota?_cases (key : String) (headers : List Header) :
    (Header.first? remainingHeader headers = none ∧ quota? key headers = .ok none) ∨
      (∃ left millis, TellQuota headers left millis ∧ quota? key headers = .ok (some (left, .ofMillis millis))) ∨
      ∃ e, Malformed headers ∧ Blames key e ∧ quota? key headers = .error e := by
  cases hremaining : Header.first? remainingHeader headers with
  | none => exact .inl ⟨rfl, quota?_of_none hremaining⟩
  | some remaining =>
    have hbegun : (Header.first? remainingHeader headers).isSome = true := by
      rw [hremaining]
      rfl
    refine .inr ?_
    by_cases htells : ∃ left millis, TellQuota headers left millis
    · obtain ⟨left, millis, htells⟩ := htells
      exact .inl ⟨left, millis, htells, quota?_of_tellQuota htells⟩
    have hmalformed : Malformed headers := ⟨hbegun, fun left millis h => htells ⟨left, millis, h⟩⟩
    cases hresetAfter : Header.first? resetAfterHeader headers with
    | none => exact .inr ⟨_, hmalformed, .inl rfl, quota?_of_missing hremaining hresetAfter⟩
    | some resetAfter =>
      by_cases hleft : ∃ left, SpellsLeft remaining left
      · obtain ⟨left, hleft⟩ := hleft
        refine .inr ⟨_, hmalformed, .inr ⟨_, _, rfl⟩,
          quota?_of_resetAfter hremaining hresetAfter hleft fun millis hmillis => ?_⟩
        have hnat : (millis.toNat : Int) = millis := Int.toNat_of_nonneg hmillis.lower
        exact htells ⟨left, millis.toNat, ⟨remaining, hremaining, hleft⟩, resetAfter, hresetAfter,
          hnat.symm ▸ hmillis⟩
      · exact .inr ⟨_, hmalformed, .inr ⟨_, _, rfl⟩,
          quota?_of_remaining hremaining hresetAfter (not_exists.1 hleft)⟩

/-! ## What follows from a response -/

/-- **What a limiter makes of a response.**

Headers that do not tell how many requests are left are passed over, whatever else they tell.  Of others the limiter
wants a second header, and then both to spell numbers, the first before the second; the error names what it misses or
cannot read.  From headers that tell a quota it sets the bucket under the key, and that bucket only.  With an error
nothing has changed. -/
structure Observes (l : RateLimiter) (key : String) (headers : List Header) (now : Instant) : Prop where
  silent : Header.first? remainingHeader headers = none → l.observe key headers now = (l, .ok ())
  missing : ∀ remaining, Header.first? remainingHeader headers = some remaining →
    Header.first? resetAfterHeader headers = none → l.observe key headers now = (l, .error (.missingResetAfter key))
  badRemaining : ∀ remaining resetAfter, Header.first? remainingHeader headers = some remaining →
    Header.first? resetAfterHeader headers = some resetAfter → (∀ left, ¬SpellsLeft remaining left) →
      l.observe key headers now = (l, .error (.invalidHeader key remainingHeader (Text.Utf8.decodeLossy remaining)))
  badResetAfter : ∀ remaining resetAfter left, Header.first? remainingHeader headers = some remaining →
    Header.first? resetAfterHeader headers = some resetAfter → SpellsLeft remaining left →
      (∀ millis, ¬SpellsMillis resetAfter millis) →
        l.observe key headers now = (l, .error (.invalidHeader key resetAfterHeader (Text.Utf8.decodeLossy resetAfter)))
  told : ∀ left millis, TellQuota headers left millis → (l.observe key headers now).2 = .ok () ∧
    (l.observe key headers now).1.buckets[key]? = some ⟨left, some (now.plus (.ofMillis millis))⟩ ∧
      ∀ other ≠ key, (l.observe key headers now).1.buckets[other]? = l.buckets[other]?
  failed : ∀ e, (l.observe key headers now).2 = .error e → (l.observe key headers now).1 = l

theorem observe_of_error {e : RateLimitError} (l : RateLimiter) (now : Instant) (h : quota? key headers = .error e) :
    l.observe key headers now = (l, .error e) := by
  unfold observe
  rw [h]

theorem observe_of_tellQuota (l : RateLimiter) (now : Instant) {left : Int} {millis : Nat}
    (h : TellQuota headers left millis) :
    l.observe key headers now = (⟨l.buckets.insert key ⟨left, some (now.plus (.ofMillis millis))⟩⟩, .ok ()) := by
  unfold observe
  rw [quota?_of_tellQuota h]
  rfl

theorem observe_fst_of_untold (l : RateLimiter) (key : String) (now : Instant)
    (h : ∀ left millis, ¬TellQuota headers left millis) : (l.observe key headers now).1 = l := by
  unfold observe
  rcases quota?_cases key headers with ⟨-, hq⟩ | ⟨left, millis, htells, -⟩ | ⟨e, -, -, hq⟩
  · rw [hq]
  · exact absurd htells (h left millis)
  · rw [hq]

theorem observe_of_malformed (l : RateLimiter) (key : String) (now : Instant) (h : Malformed headers) :
    ∃ e, Blames key e ∧ l.observe key headers now = (l, .error e) := by
  rcases quota?_cases key headers with ⟨hnone, -⟩ | ⟨left, millis, htells, -⟩ | ⟨e, -, hblames, hq⟩
  · have hbegun := h.begun
    rw [hnone] at hbegun
    cases hbegun
  · exact absurd htells (h.untold left millis)
  · exact ⟨e, hblames, l.observe_of_error now hq⟩

theorem observe_snd_of_not_malformed (l : RateLimiter) (key : String) (now : Instant) (h : ¬Malformed headers) :
    (l.observe key headers now).2 = .ok () := by
  unfold observe
  rcases quota?_cases key headers with ⟨-, hq⟩ | ⟨left, millis, -, hq⟩ | ⟨e, hmalformed, -, -⟩
  · rw [hq]
  · rw [hq]
  · exact absurd hmalformed h

theorem getElem?_insert_of_ne {α : Type} (t : Table α) {key other : String} (h : other ≠ key) (a : α) :
    (t.insert key a)[other]? = t[other]? :=
  ExtTreeMap.getElem?_insert.trans (if_neg (mt Std.LawfulEqCmp.eq_of_compare h.symm))

theorem getElem?_acquire_of_ne (l : RateLimiter) (now : Instant) {key other : String} (h : other ≠ key) :
    (l.acquire key now).1.buckets[other]? = l.buckets[other]? :=
  ExtTreeMap.getElem?_insertIfNew.trans (if_neg fun hkey => h (Std.LawfulEqCmp.eq_of_compare hkey.1).symm)

/-- **Responses are observed by their headers**, in whatever state the limiter is, for whatever endpoint they come and
at whatever time. -/
theorem observes (l : RateLimiter) (method path : String) (headers : List Header) (now : Instant) :
    l.Observes (bucketKey method path) headers now where
  silent hnone := by
    unfold observe
    rw [quota?_of_none hnone]
  missing _ hremaining hnone := l.observe_of_error now (quota?_of_missing hremaining hnone)
  badRemaining _ _ hremaining hresetAfter hleft :=
    l.observe_of_error now (quota?_of_remaining hremaining hresetAfter hleft)
  badResetAfter _ _ _ hremaining hresetAfter hleft hmillis :=
    l.observe_of_error now (quota?_of_resetAfter hremaining hresetAfter hleft hmillis)
  told left millis htells := by
    rw [l.observe_of_tellQuota now htells]
    exact ⟨rfl, ExtTreeMap.getElem?_insert_self, fun other hother => getElem?_insert_of_ne _ hother _⟩
  failed e he := by
    cases hquota : quota? (bucketKey method path) headers with
    | error e' => rw [l.observe_of_error now hquota]
    | ok quota =>
      unfold observe at he
      rw [hquota] at he
      cases quota <;> cases he

end RateLimiter

end ChatClient
