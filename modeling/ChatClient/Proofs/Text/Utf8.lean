import ChatClient.Text.Utf8
import Mathlib.Data.List.Basic
/-!
# Text as bytes and back

A text is read from its own bytes without a fault, whatever its characters: each one is written in as many bytes as
its first byte promises, and none of the forms that `isSecond` rules out is ever written.
-/
namespace ChatClient.Text.Utf8

/-! ## The bytes of one character -/

theorem between_iff (low high b : UInt8) :
    (low ≤ b && b ≤ high) = true ↔ low.toNat ≤ b.toNat ∧ b.toNat ≤ high.toNat := by
  simp only [Bool.and_eq_true, decide_eq_true_eq, UInt8.le_iff_toNat_le]

theorem not_between {low high b : UInt8} (h : high.toNat < b.toNat) : ¬(low ≤ b && b ≤ high) = true :=
  fun hb => absurd ((between_iff low high b).1 hb).2 (Nat.not_le.2 h)

theorem not_ascii {b : UInt8} (h : 0x80 ≤ b.toNat) : ¬b < 0x80 :=
  fun hb => absurd (UInt8.lt_iff_toNat_lt.1 hb) (Nat.not_lt.2 h)

theorem isTail_iff (b : UInt8) : isTail b = true ↔ 0x80 ≤ b.toNat ∧ b.toNat ≤ 0xbf :=
  between_iff 0x80 0xbf b

/-- A continuing byte may come second, but for four first bytes that leave out an end of the range. -/
theorem isSecond_of_isTail {a b : UInt8} (htail : isTail b = true) (hshort : a.toNat = 0xe0 → 0xa0 ≤ b.toNat)
    (hsurrogate : a.toNat = 0xed → b.toNat ≤ 0x9f) (hshort' : a.toNat = 0xf0 → 0x90 ≤ b.toNat)
    (hlast : a.toNat = 0xf4 → b.toNat ≤ 0x8f) : isSecond a b = true := by
  obtain ⟨hlow, hhigh⟩ := (isTail_iff b).1 htail
  unfold isSecond
  simp only [beq_iff_eq, ← UInt8.toNat_inj]
  split
  · rename_i h
    exact (between_iff 0xa0 0xbf b).2 ⟨hshort h, hhigh⟩
  · split
    · rename_i h
      exact (between_iff 0x80 0x9f b).2 ⟨hlow, hsurrogate h⟩
    · split
      · rename_i h
        exact (between_iff 0x90 0xbf b).2 ⟨hshort' h, hhigh⟩
      · split
        · rename_i h
          exact (between_iff 0x80 0x8f b).2 ⟨hlow, hlast h⟩
        · exact htail

section Reading

variable {a b c d : UInt8} (rest : List UInt8)

theorem chars_one (ha : a.toNat < 0x80) : chars (a :: rest) = some (Char.ofNat a.toNat) :: chars rest := by
  have hone : a < 0x80 := UInt8.lt_iff_toNat_lt.2 ha
  rw [chars.eq_def]
  exact if_pos hone

theorem chars_two (hlow : 0xc2 ≤ a.toNat) (hhigh : a.toNat ≤ 0xdf) (hb : isTail b = true) :
    chars (a :: b :: rest) = some (Char.ofNat (a.toNat % 32 * 64 + tailBits b)) :: chars rest := by
  have hone : ¬a < 0x80 := not_ascii (by omega)
  have htwo : (0xc2 ≤ a && a ≤ 0xdf) = true := (between_iff 0xc2 0xdf a).2 ⟨hlow, hhigh⟩
  rw [chars.eq_def]
  simp only [if_neg hone, if_pos htwo, if_pos hb]

theorem chars_three (hlow : 0xe0 ≤ a.toNat) (hhigh : a.toNat ≤ 0xef) (hb : isSecond a b = true) (hc : isTail c = true) :
    chars (a :: b :: c :: rest) =
      some (Char.ofNat ((a.toNat % 16 * 64 + tailBits b) * 64 + tailBits c)) :: chars rest := by
  have hone : ¬a < 0x80 := not_ascii (by omega)
  have htwo : ¬(0xc2 ≤ a && a ≤ 0xdf) = true := not_between (Nat.lt_of_lt_of_le (by decide) hlow)
  have hthree : (0xe0 ≤ a && a ≤ 0xef) = true := (between_iff 0xe0 0xef a).2 ⟨hlow, hhigh⟩
  rw [chars.eq_def]
  simp only [if_neg hone, if_neg htwo, if_pos hthree, if_pos hb, if_pos hc]

theorem chars_four (hlow : 0xf0 ≤ a.toNat) (hhigh : a.toNat ≤ 0xf4) (hb : isSecond a b = true) (hc : isTail c = true)
    (hd : isTail d = true) : chars (a :: b :: c :: d :: rest) =
      some (Char.ofNat (((a.toNat % 8 * 64 + tailBits b) * 64 + tailBits c) * 64 + tailBits d)) :: chars rest := by
  have hone : ¬a < 0x80 := not_ascii (by omega)
  have htwo : ¬(0xc2 ≤ a && a ≤ 0xdf) = true := not_between (Nat.lt_of_lt_of_le (by decide) hlow)
  have hthree : ¬(0xe0 ≤ a && a ≤ 0xef) = true := not_between (Nat.lt_of_lt_of_le (by decide) hlow)
  have hfour : (0xf0 ≤ a && a ≤ 0xf4) = true := (between_iff 0xf0 0xf4 a).2 ⟨hlow, hhigh⟩
  rw [chars.eq_def]
  simp only [if_neg hone, if_neg htwo, if_neg hthree, if_pos hfour, if_pos hb, if_pos hc, if_pos hd]

end Reading

theorem toNat_ofNat_of_lt {n : Nat} (h : n < 256) : (UInt8.ofNat n).toNat = n :=
  UInt8.toNat_ofNat_of_lt h

theorem isTail_ofNat (n : Nat) : isTail (UInt8.ofNat (n % 0x40 + 0x80)) = true := by
  rw [isTail_iff, toNat_ofNat_of_lt (by omega)]
  omega

theorem tailBits_ofNat (n : Nat) : tailBits (UInt8.ofNat (n % 0x40 + 0x80)) = n % 0x40 := by
  unfold tailBits
  rw [toNat_ofNat_of_lt (by omega)]
  omega

/-- **The bytes of a character**, as many as the first of them promises. -/
inductive Spell (c : Char) : List UInt8 → Prop where
  | one {a : UInt8} : a.toNat < 0x80 → a.toNat = c.toNat → Spell c [a]
  | two {a b : UInt8} : 0xc2 ≤ a.toNat → a.toNat ≤ 0xdf → isTail b = true →
      a.toNat % 32 * 64 + tailBits b = c.toNat → Spell c [a, b]
  | three {a b d : UInt8} : 0xe0 ≤ a.toNat → a.toNat ≤ 0xef → isSecond a b = true → isTail d = true →
      (a.toNat % 16 * 64 + tailBits b) * 64 + tailBits d = c.toNat → Spell c [a, b, d]
  | four {a b d e : UInt8} : 0xf0 ≤ a.toNat → a.toNat ≤ 0xf4 → isSecond a b = true → isTail d = true →
      isTail e = true →
      ((a.toNat % 8 * 64 + tailBits b) * 64 + tailBits d) * 64 + tailBits e = c.toNat → Spell c [a, b, d, e]

theorem spell_utf8EncodeChar (c : Char) : Spell c (String.utf8EncodeChar c) := by
  have hvalid : c.toNat < 0xd800 ∨ 0xdfff < c.toNat ∧ c.toNat < 0x110000 := c.valid
  have hval : c.val.toNat = c.toNat := rfl
  unfold String.utf8EncodeChar
  simp only [hval]
  split
  case isTrue h =>
    have ha : (UInt8.ofNat c.toNat).toNat = c.toNat := toNat_ofNat_of_lt (by omega)
    exact .one (by omega) ha
  split
  case isTrue h =>
    have ha := toNat_ofNat_of_lt (n := c.toNat / 64 % 0x20 + 0xc0) (by omega)
    refine .two (by omega) (by omega) (isTail_ofNat _) ?_
    rw [ha, tailBits_ofNat]
    omega
  split
  case isTrue h =>
    have ha := toNat_ofNat_of_lt (n := c.toNat / 4096 % 0x10 + 0xe0) (by omega)
    have hb := toNat_ofNat_of_lt (n := c.toNat / 64 % 0x40 + 0x80) (by omega)
    have hsecond := isSecond_of_isTail (a := UInt8.ofNat (c.toNat / 4096 % 0x10 + 0xe0)) (isTail_ofNat (c.toNat / 64))
      (by omega) (by omega) (by omega) (by omega)
    refine .three (by omega) (by omega) hsecond (isTail_ofNat _) ?_
    rw [ha, tailBits_ofNat, tailBits_ofNat]
    omega
  case isFalse h =>
    have ha := toNat_ofNat_of_lt (n := c.toNat / 262144 % 0x08 + 0xf0) (by omega)
    have hb := toNat_ofNat_of_lt (n := c.toNat / 4096 % 0x40 + 0x80) (by omega)
    have hsecond := isSecond_of_isTail (a := UInt8.ofNat (c.toNat / 262144 % 0x08 + 0xf0))
      (isTail_ofNat (c.toNat / 4096)) (by omega) (by omega) (by omega) (by omega)
    refine .four (by omega) (by omega) hsecond (isTail_ofNat _) (isTail_ofNat _) ?_
    rw [ha, tailBits_ofNat, tailBits_ofNat, tailBits_ofNat]
    omega

/-- The bytes of a character are read as that character, whatever follows. -/
theorem Spell.chars_append {c : Char} {bytes : List UInt8} (h : Spell c bytes) (rest : List UInt8) :
    chars (bytes ++ rest) = some c :: chars rest := by
  have hback {n : Nat} (h : n = c.toNat) : some (Char.ofNat n) :: chars rest = some c :: chars rest := by
    rw [h, Char.ofNat_toNat]
  cases h with
  | one hone h => exact (chars_one rest hone).trans (hback h)
  | two hlow hhigh hb h => exact (chars_two rest hlow hhigh hb).trans (hback h)
  | three hlow hhigh hb hd h => exact (chars_three rest hlow hhigh hb hd).trans (hback h)
  | four hlow hhigh hb hd he h => exact (chars_four rest hlow hhigh hb hd he).trans (hback h)

theorem chars_utf8EncodeChar (c : Char) (rest : List UInt8) :
    chars (String.utf8EncodeChar c ++ rest) = some c :: chars rest :=
  (spell_utf8EncodeChar c).chars_append rest

/-! ## The bytes of a text -/

def bytes (cs : List Char) : List UInt8 :=
  cs.flatMap String.utf8EncodeChar

theorem bytes_append (cs ds : List Char) : bytes (cs ++ ds) = bytes cs ++ bytes ds :=
  List.flatMap_append

theorem bytes_cons (c : Char) (cs : List Char) : bytes (c :: cs) = String.utf8EncodeChar c ++ bytes cs :=
  List.flatMap_cons

theorem encode_eq (s : String) : encode s = bytes s.toList := by
  unfold encode bytes
  rw [String.toUTF8_eq_toByteArray, ← String.utf8Encode_toList]
  exact List.toList_data_toByteArray

theorem encode_ofList (cs : List Char) : encode (String.ofList cs) = bytes cs := by
  rw [encode_eq, String.toList_ofList]

theorem chars_bytes_append (cs : List Char) (rest : List UInt8) :
    chars (bytes cs ++ rest) = cs.map some ++ chars rest := by
  induction cs with
  | nil => rfl
  | cons c cs ih =>
    rw [bytes_cons, List.append_assoc, chars_utf8EncodeChar, ih]
    rfl

theorem chars_bytes (cs : List Char) : chars (bytes cs) = cs.map some := by
  have h := chars_bytes_append cs []
  rwa [chars, List.append_nil, List.append_nil] at h

/-- **The characters of the bytes of a text are those of the text.** -/
theorem chars_encode (s : String) : chars (encode s) = s.toList.map some := by
  rw [encode_eq, chars_bytes]

/-- **The bytes of a text are read as that text.** -/
theorem decode?_encode (s : String) : decode? (encode s) = some s := by
  have hchars : ∀ cs : List Char, (cs.map some).mapM id = some cs := by
    intro cs
    induction cs with
    | nil => rfl
    | cons c cs ih => simp [List.mapM_cons, ih]
  rw [decode?, chars_encode, hchars, Option.map_some, String.ofList_toList]

theorem bytes_inj {cs ds : List Char} : bytes cs = bytes ds ↔ cs = ds := by
  refine ⟨fun h => ?_, congrArg bytes⟩
  have hchars := congrArg chars h
  rw [chars_bytes, chars_bytes] at hchars
  exact (List.map_inj_right fun _ _ h => Option.some.inj h).1 hchars

end ChatClient.Text.Utf8
