import ChatClient.Proofs.Url.Written
/-!
# Authorities read again

An authority that was read with a host is written so that reading it again finds the same host and the same port
(`authority?_text`), whatever follows, so long as that begins with a sign that ends an authority.  The user comes back
in some form or other, which does not move the host.
-/
namespace ChatClient
namespace Url

/-! ## Reading an authority in two parts -/

def userAndAddress? (front back : List Char) : Option (List Char × List Char) :=
  match Text.splitLast? (· == '@') front with
  | none => some ([], front)
  | some ([], address) => if address = [] ∧ back ≠ [] then none else some ([], address)
  | some (user, address) => some (user, address)

def addressed? (scheme : String) (back : List Char) (front : List Char × List Char) : Option (Authority × List Char) :=
  let (username, password) := userinfo front.1
  let (host, rest) := spanHost false front.2
  match Host.settle? (SchemeKind.ofScheme scheme).isSpecial host with
  | none => none
  | some host =>
    if host = [] ∧ (rest ≠ [] ∨ username ≠ "" ∨ password ≠ "") then none
    else (port? scheme (rest ++ back)).map fun p => (⟨username, password, String.ofList host, p.1⟩, p.2)

/-- The second half of reading, as `authority?` has it after either way into it. -/
theorem bind_settled (scheme : String) (back : List Char) (user address : List Char) :
    (do
      let (username, password) := userinfo user
      let (host, rest) := spanHost false address
      let host ← Host.settle? (SchemeKind.ofScheme scheme).isSpecial host
      if host = [] ∧ (rest ≠ [] ∨ username ≠ "" ∨ password ≠ "") then none
      let (port, rest) ← port? scheme (rest ++ back)
      return (⟨username, password, String.ofList host, port⟩, rest) : Option (Authority × List Char)) =
    addressed? scheme back (user, address) := by
  unfold addressed?
  dsimp only
  cases Host.settle? (SchemeKind.ofScheme scheme).isSpecial (spanHost false address).1 with
  | none => rfl
  | some host =>
    dsimp only [Option.bind_eq_bind, Option.bind_some]
    split
    · rfl
    · cases port? scheme ((spanHost false address).2 ++ back) <;> rfl

theorem authority?_eq (scheme : String) (cs : List Char) :
    authority? scheme cs =
      (userAndAddress? (cs.takeWhile (!endsAuthority (SchemeKind.ofScheme scheme).isSpecial ·))
        (cs.drop (cs.takeWhile (!endsAuthority (SchemeKind.ofScheme scheme).isSpecial ·)).length)).bind
        (addressed? scheme
          (cs.drop (cs.takeWhile (!endsAuthority (SchemeKind.ofScheme scheme).isSpecial ·)).length)) := by
  unfold authority? userAndAddress?
  dsimp only
  cases h : Text.splitLast? (· == '@') (cs.takeWhile (!endsAuthority (SchemeKind.ofScheme scheme).isSpecial ·)) with
  | none => exact bind_settled scheme _ _ _
  | some found =>
    obtain ⟨user, address⟩ := found
    cases user with
    | nil =>
      dsimp only
      split
      · rfl
      · exact bind_settled scheme _ _ _
    | cons c user => exact bind_settled scheme _ _ _
/-! ## Written authorities -/

end Url

open Url (isPlain)

/-- **What reading leaves in an authority with a host**: a user of plain characters, a host that reads as itself, and
a port only where the scheme does not stand for it. -/
structure Authority.Written (scheme : String) (a : Authority) : Prop where
  username : a.username.toList.all isPlain = true
  password : a.password.toList.all isPlain = true
  host_ne : a.host ≠ ""
  settled : Host.settle? (SchemeKind.ofScheme scheme).isSpecial a.host.toList = some a.host.toList
  port : ∀ p, a.port = some p → p < UInt16.size ∧ Url.defaultPort? scheme ≠ some p

namespace Url

theorem isPlain_userinfo (cs : List Char) :
    (userinfo cs).1.toList.all isPlain = true ∧ (userinfo cs).2.toList.all isPlain = true := by
  simp only [userinfo, String.toList_ofList, isPlain_encode_inUserinfo, and_self]

theorem port?_bounds {scheme : String} {cs rest : List Char} {port : Option Nat}
    (h : port? scheme cs = some (port, rest)) :
    ∀ p, port = some p → p < UInt16.size ∧ defaultPort? scheme ≠ some p := by
  intro p hp
  subst hp
  unfold port? at h
  split at h
  · dsimp only at h
    split at h
    · rename_i hbound
      split at h
      · cases h
      · rename_i hkept
        cases h
        exact ⟨hbound.1, fun hdefault => hkept (.inr hdefault)⟩
    · cases h
  · cases h

theorem written_of_addressed? {scheme : String} {back rest : List Char} {front : List Char × List Char} {a : Authority}
    (h : addressed? scheme back front = some (a, rest)) (hhost : a.host ≠ "") : a.Written scheme := by
  unfold addressed? at h
  dsimp only at h
  split at h
  · cases h
  · rename_i host hsettle
    split at h
    · cases h
    · obtain ⟨⟨port, after⟩, hport, heq⟩ := Option.map_eq_some_iff.1 h
      cases heq
      have hself := (Host.settle?_eq_some hsettle).1
      obtain ⟨husername, hpassword⟩ := isPlain_userinfo front.1
      refine ⟨husername, hpassword, hhost, ?_, port?_bounds hport⟩
      rw [String.toList_ofList]
      exact hself

/-- **An authority that was read with a host is a written one.** -/
theorem written_of_authority? {scheme : String} {cs rest : List Char} {a : Authority}
    (h : authority? scheme cs = some (a, rest)) (hhost : a.host ≠ "") : a.Written scheme := by
  rw [authority?_eq, Option.bind_eq_some_iff] at h
  obtain ⟨front, -, h⟩ := h
  exact written_of_addressed? h hhost

/-! ## The last user sign -/

theorem splitLast?_of_none {p : Char → Bool} :
    ∀ {cs : List Char}, (∀ c ∈ cs, p c = false) → Text.splitLast? p cs = none
  | [], _ => rfl
  | c :: cs, h => by
    have hcs := splitLast?_of_none fun d hd => h d (List.mem_cons_of_mem c hd)
    have hc := h c List.mem_cons_self
    simp only [Text.splitLast?, hcs, hc, Bool.false_eq_true, if_false]

theorem splitLast?_append {p : Char → Bool} {c : Char} {after : List Char} (hc : p c = true)
    (hafter : ∀ d ∈ after, p d = false) : ∀ before, Text.splitLast? p (before ++ c :: after) = some (before, after)
  | [] => by simp only [List.nil_append, Text.splitLast?, splitLast?_of_none hafter, hc, if_true]
  | b :: before => by simp only [List.cons_append, Text.splitLast?, splitLast?_append hc hafter before]

/-! ## The parts of a written text -/

end Url

namespace Authority

variable {scheme : String} {a : Authority}

theorem text_toList (a : Authority) : a.text.toList = a.userText.toList ++ (a.host.toList ++ a.portText.toList) := by
  simp only [text, String.toList_append, List.append_assoc]

theorem Written.userText (h : a.Written scheme) :
    a.userText.toList = [] ∨ ∃ user, a.userText.toList = user ++ ['@'] ∧ user ≠ [] ∧ user.all isPlain = true := by
  unfold Authority.userText
  split
  · exact .inl rfl
  · rename_i hsome
    refine .inr ⟨a.username.toList ++ (if a.password = "" then "" else ":" ++ a.password).toList, ?_, ?_, ?_⟩
    · simp only [String.toList_append]
      rfl
    · intro hempty
      rw [List.append_eq_nil_iff, String.toList_eq_nil_iff, String.toList_eq_nil_iff] at hempty
      obtain ⟨husername, hpassword⟩ := hempty
      split at hpassword
      · rename_i hnone
        exact hsome ⟨husername, hnone⟩
      · simp at hpassword
    · rw [List.all_append, h.username, Bool.true_and]
      split
      · rfl
      · rw [String.toList_append, List.all_append, h.password]
        decide

theorem Written.hasForm (h : a.Written scheme) : Host.HasForm a.host.toList :=
  (Host.settle?_eq_some h.settled).2

theorem portText_toList (a : Authority) :
    a.portText.toList = match a.port with
      | some p => ':' :: Text.Decimal.ofNat p
      | none => [] := by
  unfold portText
  cases a.port with
  | none => rfl
  | some p => simp only [String.toList_append, String.toList_ofList]; rfl

theorem isPlain_portText (a : Authority) : a.portText.toList.all isPlain = true := by
  rw [portText_toList]
  cases a.port with
  | none => rfl
  | some p =>
    have hdigits := Url.isDigit_decimal p
    rw [List.all_eq_true] at hdigits
    rw [List.all_cons, Bool.and_eq_true, List.all_eq_true]
    exact ⟨by decide, fun c hc => Url.isPlain_digit (hdigits c hc)⟩

theorem Written.isPlain_address (h : a.Written scheme) : (a.host.toList ++ a.portText.toList).all isPlain = true := by
  rw [List.all_append, Host.isPlain_of_hasForm h.hasForm, isPlain_portText a]
  rfl

theorem Written.mem_text (h : a.Written scheme) {c : Char} (hc : c ∈ a.text.toList) : isPlain c = true ∨ c = '@' := by
  have haddress := h.isPlain_address
  rw [List.all_eq_true] at haddress
  rw [text_toList, List.mem_append] at hc
  rcases hc with hc | hc
  · rcases h.userText with hnone | ⟨user, husers, -, hplain⟩
    · rw [hnone] at hc
      cases hc
    · rw [husers, List.mem_append, List.mem_singleton] at hc
      exact hc.imp (List.all_eq_true.1 hplain c) id
  · exact .inl (haddress c hc)

theorem Written.endsAuthority (h : a.Written scheme) (isSpecial : Bool) {c : Char} (hc : c ∈ a.text.toList) :
    Url.endsAuthority isSpecial c = false := by
  rcases h.mem_text hc with hplain | rfl
  · exact Url.endsAuthority_of_isPlain hplain isSpecial
  · cases isSpecial <;> decide

theorem Written.isBreak (h : a.Written scheme) {c : Char} (hc : c ∈ a.text.toList) : Url.isBreak c = false := by
  rcases h.mem_text hc with hplain | rfl
  · exact Url.isBreak_of_isPlain hplain
  · decide

theorem Written.text_ne (h : a.Written scheme) : a.text.toList ≠ [] := by
  intro hempty
  rw [text_toList, List.append_eq_nil_iff, List.append_eq_nil_iff] at hempty
  exact h.host_ne (String.toList_eq_nil_iff.1 hempty.2.1)

end Authority

namespace Url

/-! ## Reading a written text -/

/-- What may stand behind an authority: a path, a query or a fragment. -/
def StartsTail (cs : List Char) : Prop :=
  ∃ c rest, cs = c :: rest ∧ (c = '/' ∨ c = '?' ∨ c = '#')

theorem StartsTail.endsAuthority {c : Char} (h : c = '/' ∨ c = '?' ∨ c = '#') (isSpecial : Bool) :
    endsAuthority isSpecial c = true := by
  rcases h with rfl | rfl | rfl <;> cases isSpecial <;> decide

/-- A text of characters that do not end an authority stops where what follows does. -/
theorem takeWhile_front {isSpecial : Bool} {front tail : List Char}
    (hfront : ∀ c ∈ front, endsAuthority isSpecial c = false)
    (htail : StartsTail tail) : (front ++ tail).takeWhile (!endsAuthority isSpecial ·) = front := by
  obtain ⟨c, rest, rfl, hc⟩ := htail
  have hends := StartsTail.endsAuthority hc isSpecial
  rw [List.takeWhile_append_of_pos (by simpa using hfront), List.takeWhile_cons_of_neg (by simp [hends]),
    List.append_nil]

theorem port?_portText {scheme : String} {a : Authority} (h : a.Written scheme) {tail : List Char}
    (htail : StartsTail tail) : port? scheme (a.portText.toList ++ tail) = some (a.port, tail) := by
  obtain ⟨c, rest, rfl, hc⟩ := htail
  rw [Authority.portText_toList]
  cases hport : a.port with
  | none =>
    rw [List.nil_append]
    rcases hc with rfl | rfl | rfl <;> rfl
  | some p =>
    obtain ⟨hbound, hdefault⟩ := h.port p hport
    have hdigits := List.all_eq_true.1 (isDigit_decimal p)
    have hc' : ¬ c.isDigit = true := by rcases hc with rfl | rfl | rfl <;> decide
    have htake : (Text.Decimal.ofNat p ++ c :: rest).takeWhile Char.isDigit = Text.Decimal.ofNat p := by
      rw [List.takeWhile_append_of_pos hdigits, List.takeWhile_cons_of_neg hc', List.append_nil]
    have hdrop : (Text.Decimal.ofNat p ++ c :: rest).dropWhile Char.isDigit = c :: rest := by
      rw [List.dropWhile_append_of_pos hdigits, List.dropWhile_cons_of_neg hc']
    have hvalue : Text.Decimal.value (Text.Decimal.ofNat p) = p := Nat.ofDigitChars_toDigits (by omega) (by omega)
    have hsome : Text.Decimal.ofNat p ≠ [] := Nat.toDigits_ne_nil
    have hends := StartsTail.endsAuthority hc true
    rw [List.cons_append]
    simp only [port?, htake, hdrop, hvalue, List.head?_cons, Option.all_some, hends, and_true, hbound, if_true, hsome,
      hdefault, or_self, if_false]

theorem startsPort_portText (a : Authority) : StartsPort a.portText.toList := by
  rw [Authority.portText_toList]
  cases a.port <;> rfl

/-- An address reads as its host and port, whoever the user is. -/
theorem addressed?_text {scheme : String} {a : Authority} (h : a.Written scheme) (user : List Char) {tail : List Char}
    (htail : StartsTail tail) :
    addressed? scheme tail (user, a.host.toList ++ a.portText.toList) =
      some (⟨(userinfo user).1, (userinfo user).2, a.host, a.port⟩, tail) := by
  have hhost : a.host.toList ≠ [] := fun hempty => h.host_ne (String.toList_eq_nil_iff.1 hempty)
  unfold addressed?
  dsimp only
  rw [spanHost_append h.hasForm (startsPort_portText a)]
  dsimp only
  rw [h.settled]
  dsimp only
  rw [if_neg fun hempty => hhost hempty.1, port?_portText h htail, Option.map_some, String.ofList_toList]

theorem userAndAddress?_text {scheme : String} {a : Authority} (h : a.Written scheme) (tail : List Char) :
    ∃ user, userAndAddress? a.text.toList tail = some (user, a.host.toList ++ a.portText.toList) := by
  have haddress : ∀ c ∈ a.host.toList ++ a.portText.toList, (c == '@') = false :=
    fun c hc => ne_at_of_isPlain (List.all_eq_true.1 h.isPlain_address c hc)
  rw [Authority.text_toList]
  rcases h.userText with hnone | ⟨user, huser, hsome, -⟩
  · refine ⟨[], ?_⟩
    unfold userAndAddress?
    rw [hnone, List.nil_append, splitLast?_of_none haddress]
  · refine ⟨user, ?_⟩
    unfold userAndAddress?
    rw [huser, List.append_assoc, List.singleton_append, splitLast?_append rfl haddress]
    cases user with
    | nil => exact absurd rfl hsome
    | cons c user => rfl

/-- **The text of a written authority leads to the same host and port**, whatever tail follows it. -/
theorem authority?_text {scheme : String} {a : Authority} (h : a.Written scheme) {tail : List Char}
    (htail : StartsTail tail) :
    ∃ username password,
      authority? scheme (a.text.toList ++ tail) = some (⟨username, password, a.host, a.port⟩, tail) := by
  obtain ⟨user, huser⟩ := userAndAddress?_text h tail
  refine ⟨(userinfo user).1, (userinfo user).2, ?_⟩
  rw [authority?_eq, takeWhile_front (fun c hc => h.endsAuthority _ hc) htail, List.drop_left, huser, Option.bind_some,
    addressed?_text h user htail]

end Url
end ChatClient
