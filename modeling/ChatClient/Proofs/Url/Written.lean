import ChatClient.Url.Parser
/-!
# How authorities are written

The characters that the parts of an authority are written with.  None of them ends an authority, parts the user from
the host or is passed over in reading (`isPlain`), so that each part can be found again in the text; a host has no
colon outside of brackets, so that its port can be.
-/
namespace ChatClient

namespace Url

/-! ## Plain characters -/

/-- The characters that end an authority, that part the user from the host, or that are passed over in reading. -/
def signs : List Char := ['\t', '\n', '\r', '/', '\\', '?', '#', '@']

/-- **A character that reading takes as a piece of the part it stands in.** -/
def isPlain (c : Char) : Bool := !signs.contains c

/-- What holds of all characters of a list holds of one that the list contains. -/
theorem of_contains {l : List Char} {q : Char → Bool} (hq : l.all q = true) {c : Char} (h : l.contains c = true) :
    q c = true :=
  List.all_eq_true.1 hq c (List.contains_iff_mem.1 h)

theorem isPlain_of_class {p : Char → Bool} (hp : (signs.all fun s => !p s) = true) {c : Char} (h : p c = true) :
    isPlain c = true := by
  cases hc : signs.contains c with
  | false =>
    unfold isPlain
    rw [hc]
    rfl
  | true =>
    have hs := of_contains hp hc
    rw [h] at hs
    cases hs

theorem isBreak_of_isPlain {c : Char} (h : isPlain c = true) : isBreak c = false := by
  cases hb : isBreak c with
  | false => rfl
  | true =>
    simp only [isBreak, Bool.or_eq_true, beq_iff_eq] at hb
    rcases hb with (rfl | rfl) | rfl <;> cases h

theorem endsAuthority_of_isPlain {c : Char} (h : isPlain c = true) (isSpecial : Bool) :
    endsAuthority isSpecial c = false := by
  cases he : endsAuthority isSpecial c with
  | false => rfl
  | true =>
    simp only [endsAuthority, endsPath, isSlash, Bool.or_eq_true, Bool.and_eq_true, beq_iff_eq] at he
    rcases he with (rfl | rfl) | (rfl | ⟨-, rfl⟩) <;> cases h

theorem ne_at_of_isPlain {c : Char} (h : isPlain c = true) : (c == '@') = false := by
  cases ha : c == '@' with
  | false => rfl
  | true =>
    rw [beq_iff_eq] at ha
    subst ha
    cases h

/-! ## Digits -/

theorem exists_digit_of_mem_toDigits {b : Nat} (hb : 1 < b) {c : Char} : ∀ n, c ∈ Nat.toDigits b n →
    ∃ d, d < b ∧ c = d.digitChar := by
  intro n
  induction n using Nat.strongRecOn with
  | ind n ih =>
    intro hc
    rw [Nat.toDigits_eq_if hb] at hc
    split at hc
    · rename_i hn
      exact ⟨n, hn, List.mem_singleton.1 hc⟩
    · rename_i hn
      rcases List.mem_append.1 hc with hc | hc
      · exact ih (n / b) (Nat.div_lt_self (by omega) hb) hc
      · exact ⟨n % b, Nat.mod_lt n (by omega), List.mem_singleton.1 hc⟩

def isNumeral (c : Char) : Bool :=
  c.isDigit || ['a', 'b', 'c', 'd', 'e', 'f', ':', '.'].contains c

theorem isNumeral_digitChar : ∀ d, d < 16 → isNumeral d.digitChar = true := by decide

theorem isNumeral_hexadecimal (n : Nat) : (Text.Hexadecimal.ofNat n).all isNumeral = true := by
  rw [List.all_eq_true]
  intro c hc
  obtain ⟨d, hd, rfl⟩ := exists_digit_of_mem_toDigits (by omega) n hc
  exact isNumeral_digitChar d hd

theorem isDigit_decimal (n : Nat) : (Text.Decimal.ofNat n).all Char.isDigit = true := by
  rw [List.all_eq_true]
  intro c hc
  exact Nat.isDigit_of_mem_toDigits (by omega) (by omega) hc

theorem isPlain_digit {c : Char} (h : c.isDigit = true) : isPlain c = true :=
  isPlain_of_class (by decide) h

/-! ## Percent-encoded parts -/

theorem isPlain_upperDigit : ∀ d, d < 16 → isPlain (Text.Hexadecimal.upperDigit d) = true := by decide

theorem isPlain_encodeByte (b : UInt8) : (Percent.encodeByte b).all isPlain = true := by
  have hb := b.toNat_lt
  have hhigh := isPlain_upperDigit (b.toNat / 16) (by omega)
  have hlow := isPlain_upperDigit (b.toNat % 16) (by omega)
  simp only [Percent.encodeByte, Text.Hexadecimal.ofByte, List.all_cons, List.all_nil, hhigh, hlow]
  decide

theorem isPlain_encode_inUserinfo (cs : List Char) : (Percent.encode Percent.inUserinfo cs).all isPlain = true := by
  unfold Percent.encode
  rw [List.all_flatMap, List.all_eq_true]
  intro c _
  split
  · rw [List.all_flatMap, List.all_eq_true]
    exact fun b _ => isPlain_encodeByte b
  · rename_i hc
    have hkept : isPlain c = true :=
      isPlain_of_class (p := fun c => !Percent.inUserinfo c) (by decide) (by simpa using hc)
    simp [hkept]

end Url

/-! ## Hosts -/

namespace Host

open Url (isPlain isNumeral isPlain_of_class)

/-- **The two forms of a host**: free of the characters that hosts do not hold, or an address in brackets. -/
def HasForm (host : List Char) : Prop :=
  host.any isForbidden = false ∨ ∃ address, host = '[' :: address ++ [']'] ∧ address.all isNumeral = true

theorem isNumeral_join (pieces : List Nat) : (Ipv6.join pieces).all isNumeral = true := by
  unfold Ipv6.join
  induction pieces with
  | nil => rfl
  | cons n ns ih =>
    cases ns with
    | nil => simp [Url.isNumeral_hexadecimal]
    | cons m ns =>
      rw [List.map_cons, List.map_cons, List.intercalate_cons_cons]
      rw [List.map_cons] at ih
      simp only [List.all_append, Url.isNumeral_hexadecimal, ih]
      decide

theorem isNumeral_ipv6 (a : Ipv6) : a.text.all isNumeral = true := by
  unfold Ipv6.text
  dsimp only
  split
  · exact isNumeral_join a.pieces
  · simp only [List.all_append, isNumeral_join]
    decide

theorem not_isForbidden_digitChar : ∀ d, d < 10 → isForbidden d.digitChar = false := by decide

theorem any_isForbidden_ipv4 (a : Ipv4) : a.text.any isForbidden = false := by
  have hdigits : ∀ n, (Text.Decimal.ofNat n).any isForbidden = false := by
    intro n
    rw [List.any_eq_false]
    intro c hc
    obtain ⟨d, hd, rfl⟩ := Url.exists_digit_of_mem_toDigits (by omega) n hc
    simp [not_isForbidden_digitChar d hd]
  unfold Ipv4.text
  simp only [List.any_append, List.any_cons, hdigits]
  decide

theorem any_isForbidden_domain {bytes : List UInt8} {domain : List Char} (h : Domain.ofBytes? bytes = some domain) :
    domain.any isForbidden = false := by
  simp only [Domain.ofBytes?, Option.bind_eq_bind, Option.bind_eq_some_iff] at h
  obtain ⟨s, -, labels, -, h⟩ := h
  split at h
  · rename_i hok
    cases h
    rw [Bool.and_eq_true, Bool.not_eq_true'] at hok
    rw [List.any_eq_false]
    intro c hc hforbidden
    have hdomain : Domain.isForbidden c = true := Url.of_contains (by decide) hforbidden
    exact List.any_eq_false.1 hok.2 c hc hdomain
  · cases h

theorem hasForm_bracketed {cs host : List Char} (h : bracketed? cs = some host) : HasForm host := by
  unfold bracketed? at h
  split at h
  · obtain ⟨a, -, rfl⟩ := Option.map_eq_some_iff.1 h
    exact .inr ⟨a.text, rfl, isNumeral_ipv6 a⟩
  · cases h

theorem hasForm_common {cs host : List Char} (h : common? cs = some host) : HasForm host := by
  unfold common? at h
  split at h
  · exact hasForm_bracketed h
  · split at h
    · cases h
    · rename_i hdomain
      split at h
      · obtain ⟨a, -, rfl⟩ := Option.map_eq_some_iff.1 h
        exact .inl (any_isForbidden_ipv4 a)
      · cases h
        exact .inl (any_isForbidden_domain hdomain)
    · cases h

/-- A host that is taken as it is written and reads as itself holds nothing that hosts do not hold. -/
theorem hasForm_verbatim {host : List Char} (h : verbatim? host = some host) : HasForm host := by
  unfold verbatim? at h
  split at h
  · exact hasForm_bracketed h
  · split at h
    · cases h
    · rename_i hfree
      exact .inl (by simpa using hfree)

theorem settled_self {read : List Char → Option (List Char)} {cs host : List Char}
    (h : (match read cs with
      | some host => if read host = some host then some host else none
      | none => none) = some host) : read host = some host := by
  cases hcs : read cs with
  | none => rw [hcs] at h; cases h
  | some found =>
    rw [hcs] at h
    dsimp only at h
    split at h
    · rename_i hself
      cases h
      exact hself
    · cases h

/-- **A settled host reads as itself and has one of the two forms.** -/
theorem settle?_eq_some {isCommon : Bool} {cs host : List Char} (h : settle? isCommon cs = some host) :
    settle? isCommon host = some host ∧ HasForm host := by
  unfold settle? at h ⊢
  have hself := settled_self h
  dsimp only
  rw [hself]
  refine ⟨if_pos hself, ?_⟩
  cases isCommon with
  | true => exact hasForm_common hself
  | false => exact hasForm_verbatim hself

theorem isPlain_of_hasForm {host : List Char} (h : HasForm host) : host.all isPlain = true := by
  rw [List.all_eq_true]
  intro c hc
  rcases h with hfree | ⟨address, rfl, haddress⟩
  · refine isPlain_of_class (p := fun c => !isForbidden c) (by decide) ?_
    have := List.any_eq_false.1 hfree c hc
    simpa using this
  · simp only [List.cons_append, List.mem_cons, List.mem_append, List.not_mem_nil, or_false] at hc
    rcases hc with rfl | hc | rfl
    · decide
    · exact isPlain_of_class (p := isNumeral) (by decide) (List.all_eq_true.1 haddress c hc)
    · decide

end Host

namespace Url

/-! ## Where a host ends -/

/-- Whether a text is empty or begins with a colon, as what stands behind a host does. -/
def StartsPort (rest : List Char) : Prop := rest.head?.all (· == ':') = true

theorem spanHost_port {rest : List Char} (h : StartsPort rest) : spanHost false rest = ([], rest) := by
  cases rest with
  | nil => rfl
  | cons c cs =>
    have hc : c = ':' := by simpa [StartsPort] using h
    subst hc
    rfl

theorem spanHost_free : ∀ (host : List Char) {rest : List Char}, host.any Host.isForbidden = false → StartsPort rest →
    spanHost false (host ++ rest) = (host, rest)
  | [], _, _, hrest => spanHost_port hrest
  | c :: host, rest, hfree, hrest => by
    rw [List.any_cons, Bool.or_eq_false_iff] at hfree
    have ih := spanHost_free host hfree.2 hrest
    have hcolon : c ≠ ':' := by rintro rfl; cases hfree.1
    have hopen : c ≠ '[' := by rintro rfl; cases hfree.1
    have hclose : c ≠ ']' := by rintro rfl; cases hfree.1
    simp only [List.cons_append, spanHost, hcolon, hopen, hclose, false_and, if_false, ih]

theorem spanHost_address : ∀ (address : List Char) {rest : List Char}, address.all isNumeral = true →
    StartsPort rest → spanHost true (address ++ ']' :: rest) = (address ++ [']'], rest)
  | [], rest, _, hrest => by
    simp [spanHost, spanHost_port hrest]
  | c :: address, rest, hall, hrest => by
    rw [List.all_cons, Bool.and_eq_true] at hall
    have ih := spanHost_address address hall.2 hrest
    have hopen : c ≠ '[' := by rintro rfl; cases hall.1
    have hclose : c ≠ ']' := by rintro rfl; cases hall.1
    simp only [List.cons_append, spanHost, hopen, hclose, Bool.not_true, Bool.false_eq_true, and_false, if_false, ih]

/-- **A host ends at the colon in front of its port**, though an address has colons too. -/
theorem spanHost_append {host rest : List Char} (h : Host.HasForm host) (hrest : StartsPort rest) :
    spanHost false (host ++ rest) = (host, rest) := by
  rcases h with hfree | ⟨address, rfl, haddress⟩
  · exact spanHost_free host hfree hrest
  · have hspan := spanHost_address address haddress hrest
    rw [List.append_assoc, List.cons_append, List.cons_append, List.nil_append]
    simp only [spanHost, Bool.not_false, and_true, if_true, hspan]
    exact if_neg (by decide)

end Url
end ChatClient
