import ChatClient.Proofs.Text.Utf8
/-!
# Texts that are cut behind a byte

What is left of a text when only so many of its bytes are kept and read again without a complaint.  The characters
that are kept whole are read as they are; of one that is cut in two, the bytes that are kept begin a character and do
not end it, and are read as one fault (`Spell.chars_start`), however many they are.
-/
namespace ChatClient.Text.Utf8

/-! ## The beginning of a character -/

section Reading

variable {a b c : UInt8}

theorem chars_start_one (hlow : 0xc2 ≤ a.toNat) (hhigh : a.toNat ≤ 0xf4) : chars [a] = [none] := by
  have hone : ¬a < 0x80 := not_ascii (by omega)
  rw [chars.eq_def]
  simp only [if_neg hone]
  split
  · rfl
  · split
    · rfl
    · rename_i htwo hthree
      have hfour : (0xf0 ≤ a && a ≤ 0xf4) = true := by
        rw [between_iff] at htwo hthree ⊢
        change ¬(0xc2 ≤ a.toNat ∧ a.toNat ≤ 0xdf) at htwo
        change ¬(0xe0 ≤ a.toNat ∧ a.toNat ≤ 0xef) at hthree
        change 0xf0 ≤ a.toNat ∧ a.toNat ≤ 0xf4
        omega
      rw [if_pos hfour]

theorem chars_start_two (hlow : 0xe0 ≤ a.toNat) (hhigh : a.toNat ≤ 0xf4) (hb : isSecond a b = true) :
    chars [a, b] = [none] := by
  have hone : ¬a < 0x80 := not_ascii (by omega)
  have htwo : ¬(0xc2 ≤ a && a ≤ 0xdf) = true := not_between (Nat.lt_of_lt_of_le (by decide) hlow)
  rw [chars.eq_def]
  simp only [if_neg hone, if_neg htwo, if_pos hb]
  split
  · rfl
  · rename_i hthree
    have hfour : (0xf0 ≤ a && a ≤ 0xf4) = true := by
      rw [between_iff] at hthree ⊢
      change ¬(0xe0 ≤ a.toNat ∧ a.toNat ≤ 0xef) at hthree
      change 0xf0 ≤ a.toNat ∧ a.toNat ≤ 0xf4
      omega
    rw [if_pos hfour]

theorem chars_start_three (hlow : 0xf0 ≤ a.toNat) (hhigh : a.toNat ≤ 0xf4) (hb : isSecond a b = true)
    (hc : isTail c = true) : chars [a, b, c] = [none] := by
  have hone : ¬a < 0x80 := not_ascii (by omega)
  have htwo : ¬(0xc2 ≤ a && a ≤ 0xdf) = true := not_between (Nat.lt_of_lt_of_le (by decide) hlow)
  have hthree : ¬(0xe0 ≤ a && a ≤ 0xef) = true := not_between (Nat.lt_of_lt_of_le (by decide) hlow)
  have hfour : (0xf0 ≤ a && a ≤ 0xf4) = true := (between_iff 0xf0 0xf4 a).2 ⟨hlow, hhigh⟩
  rw [chars.eq_def]
  simp only [if_neg hone, if_neg htwo, if_neg hthree, if_pos hfour, if_pos hb, if_pos hc]

end Reading

/-- **Bytes that begin a character and do not end it are read as one fault.** -/
theorem Spell.chars_start {c : Char} {start more : List UInt8} (h : Spell c (start ++ more)) (hstart : start ≠ [])
    (hmore : more ≠ []) : chars start = [none] := by
  obtain ⟨a, start, rfl⟩ := List.exists_cons_of_ne_nil hstart
  obtain ⟨m, more, rfl⟩ := List.exists_cons_of_ne_nil hmore
  generalize hbytes : a :: start ++ m :: more = bytes at h
  -- one case for each number of bytes that the character has, and in it one for each number that is left
  cases h with
  | one hone h => simp at hbytes
  | two hlow hhigh hb h =>
    obtain ⟨rfl, hbytes⟩ := List.cons.inj hbytes
    rcases start with _ | ⟨b, start⟩
    · exact chars_start_one hlow (by omega)
    · simp at hbytes
  | three hlow hhigh hb hd h =>
    obtain ⟨rfl, hbytes⟩ := List.cons.inj hbytes
    rcases start with _ | ⟨b, _ | ⟨d, start⟩⟩
    · exact chars_start_one (by omega) (by omega)
    · cases hbytes
      exact chars_start_two hlow (by omega) hb
    · simp at hbytes
  | four hlow hhigh hb hd he h =>
    obtain ⟨rfl, hbytes⟩ := List.cons.inj hbytes
    rcases start with _ | ⟨b, _ | ⟨d, _ | ⟨e, start⟩⟩⟩
    · exact chars_start_one (by omega) hhigh
    · cases hbytes
      exact chars_start_two (by omega) hhigh hb
    · cases hbytes
      exact chars_start_three hlow hhigh hb hd
    · simp at hbytes

/-! ## The bytes that are kept -/

/-- **What the first bytes of some characters are**: the characters in front, and behind these nothing or a part of
the next. -/
theorem take_bytes (n : Nat) (cs : List Char) :
    (∃ front rest, cs = front ++ rest ∧ (bytes cs).take n = bytes front) ∨
      ∃ front c rest start more, cs = front ++ c :: rest ∧ String.utf8EncodeChar c = start ++ more ∧
        start ≠ [] ∧ more ≠ [] ∧ (bytes cs).take n = bytes front ++ start := by
  induction cs generalizing n with
  | nil => exact .inl ⟨[], [], rfl, List.take_nil⟩
  | cons c cs ih =>
    rw [bytes_cons, List.take_append]
    rcases Nat.lt_or_ge n (String.utf8EncodeChar c).length with hlt | hge
    · rw [Nat.sub_eq_zero_of_le (Nat.le_of_lt hlt), List.take_zero, List.append_nil]
      rcases Nat.eq_zero_or_pos n with rfl | hpos
      · exact .inl ⟨[], c :: cs, rfl, rfl⟩
      · refine .inr ⟨[], c, cs, _, _, rfl, (List.take_append_drop n _).symm, ?_, ?_, rfl⟩
        · rw [← List.length_pos_iff, List.length_take]
          omega
        · rw [← List.length_pos_iff, List.length_drop]
          omega
    · rw [List.take_of_length_le hge]
      rcases ih (n - (String.utf8EncodeChar c).length) with
        ⟨front, rest, hcs, htake⟩ | ⟨front, d, rest, start, more, hcs, hd, hstart, hmore, htake⟩
      · exact .inl ⟨c :: front, rest, by rw [hcs]; rfl, by rw [htake, bytes_cons]⟩
      · refine .inr ⟨c :: front, d, rest, start, more, by rw [hcs]; rfl, hd, hstart, hmore, ?_⟩
        rw [htake, bytes_cons, List.append_assoc]

theorem decodeLossy_bytes (cs : List Char) : decodeLossy (bytes cs) = String.ofList cs := by
  unfold decodeLossy
  rw [chars_bytes, List.map_map]
  exact congrArg String.ofList (List.map_id cs)

def fault : Char := '\uFFFD'

theorem decodeLossy_start {c : Char} {start more : List UInt8} (hc : String.utf8EncodeChar c = start ++ more)
    (hstart : start ≠ [])
    (hmore : more ≠ []) (front : List Char) :
    decodeLossy (bytes front ++ start) = String.ofList (front ++ [fault]) := by
  have hspell := spell_utf8EncodeChar c
  rw [hc] at hspell
  unfold decodeLossy
  rw [chars_bytes_append, hspell.chars_start hstart hmore, List.map_append, List.map_map]
  exact congrArg (fun cs => String.ofList (cs ++ [fault])) (List.map_id front)

end ChatClient.Text.Utf8
