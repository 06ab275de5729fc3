import ChatClient.Proofs.Text.Utf8
import ChatClient.Url.Path
/-!
# Encoded texts read again

Encoding writes the bytes of some characters as digits, and decoding reads them back (`decode_encode`).  It leaves
percent signs as they are, so that a text comes back as its own bytes exactly if none of its percent signs has two
digits behind it (`decode_eq_bytes_iff`); otherwise fewer bytes come back.
-/
namespace ChatClient.Percent

open Text (Hexadecimal.value? Hexadecimal.byte?)
open Text.Utf8 (bytes)

/-! ## Percent signs -/

def escaped? : List Char → Option (UInt8 × List Char)
  | a :: b :: cs => (Hexadecimal.byte? a b).map (·, cs)
  | _ => none

/-- **A text with an escape**: a percent sign in it has two digits behind it. -/
def HasEscape (cs : List Char) : Prop :=
  ∃ front back, cs = front ++ '%' :: back ∧ (escaped? back).isSome = true

theorem not_hasEscape_of_not_mem {cs : List Char} (h : '%' ∉ cs) : ¬HasEscape cs := by
  rintro ⟨front, back, rfl, -⟩
  simp at h

theorem hasEscape_cons (c : Char) (cs : List Char) :
    HasEscape (c :: cs) ↔ (c = '%' ∧ (escaped? cs).isSome = true) ∨ HasEscape cs := by
  constructor
  · rintro ⟨front, back, h, hsome⟩
    cases front with
    | nil =>
      cases h
      exact .inl ⟨rfl, hsome⟩
    | cons d front =>
      cases h
      exact .inr ⟨front, back, rfl, hsome⟩
  · rintro (⟨rfl, hsome⟩ | ⟨front, back, rfl, hsome⟩)
    · exact ⟨[], cs, rfl, hsome⟩
    · exact ⟨c :: front, back, rfl, hsome⟩

theorem length_of_escaped? {cs rest : List Char} {b : UInt8} (h : escaped? cs = some (b, rest)) :
    rest.length + 2 = cs.length := by
  unfold escaped? at h
  split at h
  · obtain ⟨_, -, h⟩ := Option.map_eq_some_iff.1 h
    cases h
    rfl
  · cases h

theorem length_bytes_of_escaped? {cs rest : List Char} {b : UInt8} (h : escaped? cs = some (b, rest)) :
    (bytes rest).length + 2 ≤ (bytes cs).length := by
  unfold escaped? at h
  split at h
  · rename_i c d cs
    obtain ⟨_, -, h⟩ := Option.map_eq_some_iff.1 h
    cases h
    have hc := List.length_pos_iff.2 (String.utf8EncodeChar_ne_nil (c := c))
    have hd := List.length_pos_iff.2 (String.utf8EncodeChar_ne_nil (c := d))
    rw [Text.Utf8.bytes_cons, Text.Utf8.bytes_cons, List.length_append, List.length_append]
    omega
  · cases h

theorem decode_cons {c : Char} (h : c ≠ '%') (cs : List Char) :
    decode (c :: cs) = String.utf8EncodeChar c ++ decode cs := by
  rw [decode]
  intro a b rest hc
  exact absurd hc h

theorem decode_percent (cs : List Char) :
    decode ('%' :: cs) =
      match escaped? cs with
      | some (b, rest) => b :: decode rest
      | none => 0x25 :: decode cs := by
  match cs with
  | [] => rfl
  | [a] => rfl
  | a :: b :: cs =>
    rw [decode, escaped?]
    cases Hexadecimal.byte? a b <;> rfl

/-! ## Without encoding -/

/-- A text that has no escape is decoded as its own bytes, and any other as fewer. -/
theorem decode_cases (cs : List Char) :
    ¬HasEscape cs ∧ decode cs = bytes cs ∨ HasEscape cs ∧ (decode cs).length < (bytes cs).length := by
  -- on the length, since an escape takes three characters at once
  induction hn : cs.length using Nat.strongRecOn generalizing cs with
  | ind n ih =>
    cases cs with
    | nil => exact .inl ⟨not_hasEscape_of_not_mem List.not_mem_nil, rfl⟩
    | cons c cs =>
      rw [List.length_cons] at hn
      have hrest := ih cs.length (by omega) cs rfl
      rw [hasEscape_cons, Text.Utf8.bytes_cons]
      by_cases hc : c = '%'
      · subst hc
        rw [decode_percent]
        have hsign : String.utf8EncodeChar '%' = [0x25] := by decide
        rw [hsign]
        cases hescaped : escaped? cs with
        | none =>
          rcases hrest with ⟨hnot, heq⟩ | ⟨hescape, hlt⟩
          · refine .inl ⟨by simp [hnot], ?_⟩
            dsimp only
            rw [heq]
            rfl
          · exact .inr ⟨.inr hescape, by simpa using hlt⟩
        | some found =>
          obtain ⟨b, rest⟩ := found
          have hlength := length_of_escaped? hescaped
          have hfound : (decode rest).length ≤ (bytes rest).length := by
            rcases ih rest.length (by omega) rest rfl with ⟨-, heq⟩ | ⟨-, hlt⟩
            · exact Nat.le_of_eq (congrArg List.length heq)
            · exact Nat.le_of_lt hlt
          refine .inr ⟨.inl ⟨rfl, rfl⟩, ?_⟩
          have hbytes := length_bytes_of_escaped? hescaped
          simp only [List.length_cons, List.length_append, List.length_nil]
          omega
      · rw [decode_cons hc]
        rcases hrest with ⟨hnot, heq⟩ | ⟨hescape, hlt⟩
        · exact .inl ⟨by simp [hnot, hc], by rw [heq]⟩
        · exact .inr ⟨.inr hescape, by simpa using hlt⟩

theorem decode_eq_bytes_iff {cs : List Char} : decode cs = bytes cs ↔ ¬HasEscape cs := by
  rcases decode_cases cs with ⟨hnot, heq⟩ | ⟨hescape, hlt⟩
  · simp [hnot, heq]
  · refine ⟨fun heq => ?_, fun hnot => absurd hescape hnot⟩
    rw [heq] at hlt
    exact absurd hlt (Nat.lt_irrefl _)

theorem length_decode_le (cs : List Char) : (decode cs).length ≤ (bytes cs).length := by
  rcases decode_cases cs with ⟨-, heq⟩ | ⟨-, hlt⟩
  · exact Nat.le_of_eq (congrArg List.length heq)
  · exact Nat.le_of_lt hlt

theorem not_hasEscape_of_length_le {cs : List Char} (h : (bytes cs).length ≤ (decode cs).length) : ¬HasEscape cs := by
  rcases decode_cases cs with ⟨hnot, -⟩ | ⟨-, hlt⟩
  · exact hnot
  · exact absurd h (Nat.not_le.2 hlt)

/-! ## After encoding -/

/-- **A set of characters that can be encoded**: the percent sign is not in it, and no digit. -/
structure Encodable (set : Char → Bool) : Prop where
  sign : set '%' = false
  digit : ∀ c, set c = true → Hexadecimal.value? c = none

theorem value?_upperDigit : ∀ d, d < 16 → Hexadecimal.value? (Text.Hexadecimal.upperDigit d) = some d := by decide

theorem byte?_ofByte (b : UInt8) :
    Hexadecimal.byte? (Text.Hexadecimal.upperDigit (b.toNat / 16)) (Text.Hexadecimal.upperDigit (b.toNat % 16)) =
      some b := by
  have hb := b.toNat_lt
  rw [Text.Hexadecimal.byte?, value?_upperDigit _ (by omega), value?_upperDigit _ (by omega)]
  dsimp only
  rw [Nat.div_add_mod', UInt8.ofNat_toNat]

theorem decode_encodeByte (b : UInt8) (cs : List Char) : decode (encodeByte b ++ cs) = b :: decode cs := by
  rw [encodeByte, Text.Hexadecimal.ofByte, List.cons_append, decode_percent, List.cons_append, List.cons_append,
    List.nil_append, escaped?, byte?_ofByte]
  rfl

theorem decode_encodeBytes (bs : List UInt8) (cs : List Char) :
    decode (bs.flatMap encodeByte ++ cs) = bs ++ decode cs := by
  induction bs with
  | nil => rfl
  | cons b bs ih =>
    rw [List.flatMap_cons, List.append_assoc, decode_encodeByte, ih]
    rfl

theorem encode_cons_of_pos {set : Char → Bool} {c : Char} (h : set c = true) (cs : List Char) :
    encode set (c :: cs) = (String.utf8EncodeChar c).flatMap encodeByte ++ encode set cs := by
  rw [encode, List.flatMap_cons, if_pos h]
  rfl

theorem encode_cons_of_neg {set : Char → Bool} {c : Char} (h : set c = false) (cs : List Char) :
    encode set (c :: cs) = c :: encode set cs := by
  rw [encode, List.flatMap_cons, if_neg (by simp [h])]
  rfl

theorem exists_encode_cons {set : Char → Bool} {c : Char} (h : set c = true) (cs : List Char) :
    ∃ more, encode set (c :: cs) = '%' :: more := by
  rw [encode_cons_of_pos h]
  obtain ⟨b, bs, hbs⟩ := List.exists_cons_of_ne_nil (String.utf8EncodeChar_ne_nil (c := c))
  rw [hbs, List.flatMap_cons, encodeByte, List.cons_append, List.cons_append]
  exact ⟨_, rfl⟩

/-- No escape comes about where a text is encoded, and none is lost. -/
theorem escaped?_encode {set : Char → Bool} (hset : Encodable set) (cs : List Char) :
    escaped? (encode set cs) = (escaped? cs).map fun found => (found.1, encode set found.2) := by
  have hsign : Hexadecimal.value? '%' = none := by decide
  have hfirst : ∀ a (more : List Char), Hexadecimal.value? a = none → escaped? (a :: more) = none := by
    intro a more ha
    cases more with
    | nil => rfl
    | cons b more => rw [escaped?, Text.Hexadecimal.byte?, ha]; rfl
  have hsecond : ∀ a b (more : List Char), Hexadecimal.value? b = none → escaped? (a :: b :: more) = none := by
    intro a b more hb
    rw [escaped?, Text.Hexadecimal.byte?, hb]
    cases Hexadecimal.value? a <;> rfl
  match cs with
  | [] => rfl
  | a :: cs =>
    cases ha : set a with
    | true =>
      obtain ⟨more, hmore⟩ := exists_encode_cons ha cs
      rw [hmore, hfirst _ _ hsign, hfirst _ _ (hset.digit a ha)]
      rfl
    | false =>
      rw [encode_cons_of_neg ha]
      match cs with
      | [] => rfl
      | b :: cs =>
        cases hb : set b with
        | true =>
          obtain ⟨more, hmore⟩ := exists_encode_cons hb cs
          rw [hmore, hsecond _ _ _ hsign, hsecond _ _ _ (hset.digit b hb)]
          rfl
        | false =>
          rw [encode_cons_of_neg hb, escaped?, escaped?, Option.map_map]
          rfl

/-- **Decoding undoes encoding**, and goes on as if there had been none. -/
theorem decode_encode {set : Char → Bool} (hset : Encodable set) (cs : List Char) :
    decode (encode set cs) = decode cs := by
  -- on the length, as in `decode_cases`
  induction hn : cs.length using Nat.strongRecOn generalizing cs with
  | ind n ih =>
    cases cs with
    | nil => rfl
    | cons c cs =>
      rw [List.length_cons] at hn
      have hrest := ih cs.length (by omega) cs rfl
      cases hc : set c with
      | true =>
        have hne : c ≠ '%' := by
          rintro rfl
          rw [hset.sign] at hc
          cases hc
        rw [encode_cons_of_pos hc, decode_encodeBytes, decode_cons hne, hrest]
      | false =>
        rw [encode_cons_of_neg hc]
        by_cases hsign : c = '%'
        · -- a sign is kept, and whether it begins an escape does not depend on the encoding
          subst hsign
          rw [decode_percent, decode_percent, escaped?_encode hset]
          cases hescaped : escaped? cs with
          | none => exact congrArg (_ :: ·) hrest
          | some found =>
            have hlength := length_of_escaped? hescaped
            exact congrArg (_ :: ·) (ih found.2.length (by omega) found.2 rfl)
        · rw [decode_cons hsign, decode_cons hsign, hrest]

/-! ## The characters of an encoded text -/

theorem mem_encode {set : Char → Bool} {cs : List Char} {c : Char} (h : c ∈ encode set cs) :
    (c ∈ cs ∧ set c = false) ∨ ∃ b, c ∈ encodeByte b := by
  obtain ⟨d, hd, hmem⟩ := List.mem_flatMap.1 h
  split at hmem
  · obtain ⟨b, -, hb⟩ := List.mem_flatMap.1 hmem
    exact .inr ⟨b, hb⟩
  · rename_i hset
    rw [List.mem_singleton.1 hmem]
    exact .inl ⟨hd, eq_false_of_ne_true hset⟩

theorem encode_eq_self {set : Char → Bool} {cs : List Char} (h : ∀ c ∈ cs, set c = false) : encode set cs = cs := by
  induction cs with
  | nil => rfl
  | cons c cs ih =>
    rw [encode_cons_of_neg (h c List.mem_cons_self), ih fun d hd => h d (List.mem_cons_of_mem c hd)]

theorem Encodable.of_mem_encode {set : Char → Bool} (hset : Encodable set) {cs : List Char} {c : Char}
    (h : c ∈ encode set cs) : set c = false := by
  have hdigit : ∀ d, d < 16 → set (Text.Hexadecimal.upperDigit d) = false := by
    intro d hd
    cases hin : set (Text.Hexadecimal.upperDigit d) with
    | false => rfl
    | true =>
      have hnone := hset.digit _ hin
      rw [value?_upperDigit d hd] at hnone
      cases hnone
  rcases mem_encode h with ⟨-, hc⟩ | ⟨b, hb⟩
  · exact hc
  · have hlt := b.toNat_lt
    rw [encodeByte, Text.Hexadecimal.ofByte] at hb
    simp only [List.mem_cons, List.not_mem_nil, or_false] at hb
    rcases hb with rfl | rfl | rfl
    · exact hset.sign
    · exact hdigit _ (by omega)
    · exact hdigit _ (by omega)

/-! ## Digits -/

/-- The digits, by their places among the characters. -/
theorem value?_cases {c : Char} {x : Nat} (h : Hexadecimal.value? c = some x) :
    x < 16 ∧ (c.toNat = 48 + x ∧ x < 10 ∨ c.toNat = 87 + x ∧ 10 ≤ x ∨ c.toNat = 55 + x ∧ 10 ≤ x) := by
  simp only [Text.Hexadecimal.value?, Char.le_def, UInt32.le_iff_toNat_le, Char.reduceVal, UInt32.reduceToNat,
    Char.reduceToNat] at h
  have hval : c.val.toNat = c.toNat := rfl
  rw [hval] at h
  split at h
  · cases h
    omega
  · split at h
    · cases h
      omega
    · split at h
      · cases h
        omega
      · cases h

theorem encodable_inPath : Encodable inPath where
  sign := by decide
  digit c hc := by
    cases h : Hexadecimal.value? c with
    | none => rfl
    | some x =>
      obtain ⟨hx, hplace⟩ := value?_cases h
      simp only [inPath, inFragment, isControl, Bool.or_eq_true, decide_eq_true_eq,
        List.contains_iff_mem, List.mem_cons, List.not_mem_nil, or_false] at hc
      rcases hc with (hcontrol | rfl | rfl | rfl | rfl | rfl) | rfl | rfl | rfl | rfl
      · omega
      all_goals exact absurd h (by decide +revert)

end ChatClient.Percent
