import ChatClient.Proofs.Http.Calls
import ChatClient.Proofs.Text.Cut
/-!
# What errors show of bodies

The error for a response of failure shows the beginning of the response's body.  The cut goes by bytes, so that of a
text it can fall into a character.  What is shown is an excerpt of the text (`Response.Excerpt`) exactly if it does
not (`Response.excerpt_iff`); if it does, the characters in front of the cut are shown and a fault behind them
(`Response.shownBody_of_not_endsBetween`).
-/
namespace ChatClient

open Text (Utf8.encode Utf8.bytes Utf8.fault)

namespace Response

/-- **An excerpt of a text**: its beginning, no longer than an error shows, and all of it where that is no longer. -/
structure Excerpt (shown text : String) : Prop where
  beginning : shown.toList <+: text.toList
  short : (Utf8.encode shown).length ≤ maxErrorBody
  whole : (Utf8.encode text).length ≤ maxErrorBody → shown = text

/-- **Whether the bytes of a text that an error shows end between two characters**, or are all there are. -/
def EndsBetween (text : String) : Prop :=
  (Utf8.encode text).length ≤ maxErrorBody ∨
    ∃ front, front <+: text.toList ∧ (Utf8.bytes front).length = maxErrorBody

variable {text : String}

theorem shownBody_of_le (h : (Utf8.encode text).length ≤ maxErrorBody) : shownBody (Utf8.encode text) = text := by
  unfold shownBody
  rw [List.take_of_length_le h, Text.Utf8.encode_eq, Text.Utf8.decodeLossy_bytes, String.ofList_toList]

theorem shownBody_of_front {front rest : List Char} (htext : text.toList = front ++ rest)
    (hfront : (Utf8.bytes front).length = maxErrorBody) : shownBody (Utf8.encode text) = String.ofList front := by
  unfold shownBody
  rw [Text.Utf8.encode_eq, htext, Text.Utf8.bytes_append, List.take_left' hfront, Text.Utf8.decodeLossy_bytes]

theorem shownBody_of_cut {front rest : List Char} {c : Char} {start more : List UInt8}
    (htext : text.toList = front ++ c :: rest)
    (hc : String.utf8EncodeChar c = start ++ more) (hstart : start ≠ []) (hmore : more ≠ [])
    (hlength : (Utf8.bytes front).length + start.length = maxErrorBody) :
    shownBody (Utf8.encode text) = String.ofList (front ++ [Utf8.fault]) := by
  have htake : (Utf8.encode text).take maxErrorBody = Utf8.bytes front ++ start := by
    rw [Text.Utf8.encode_eq, htext, Text.Utf8.bytes_append, Text.Utf8.bytes_cons, hc, List.append_assoc,
      ← List.append_assoc]
    exact List.take_left' (List.length_append.trans hlength)
  unfold shownBody
  rw [htake, Text.Utf8.decodeLossy_start hc hstart hmore]

theorem excerpt_of_endsBetween (h : EndsBetween text) : Excerpt (shownBody (Utf8.encode text)) text := by
  by_cases hle : (Utf8.encode text).length ≤ maxErrorBody
  · rw [shownBody_of_le hle]
    exact ⟨List.prefix_rfl, hle, fun _ => rfl⟩
  · obtain ⟨front, ⟨rest, htext⟩, hfront⟩ := h.resolve_left hle
    rw [shownBody_of_front htext.symm hfront]
    refine ⟨?_, ?_, fun hwhole => absurd hwhole hle⟩
    · rw [String.toList_ofList]
      exact ⟨rest, htext⟩
    · rw [Text.Utf8.encode_ofList]
      exact Nat.le_of_eq hfront

/-- **A character that is cut in two is shown as a fault** behind those in front of it. -/
theorem shownBody_of_not_endsBetween (h : ¬EndsBetween text) :
    ∃ front c rest, text.toList = front ++ c :: rest ∧ (Utf8.bytes front).length < maxErrorBody ∧
      maxErrorBody < (Utf8.bytes (front ++ [c])).length ∧
        shownBody (Utf8.encode text) = String.ofList (front ++ [Utf8.fault]) := by
  obtain ⟨hlong, hfronts⟩ := not_or.1 h
  rw [Nat.not_le] at hlong
  have hkept : ((Utf8.bytes text.toList).take maxErrorBody).length = maxErrorBody := by
    rw [List.length_take, ← Text.Utf8.encode_eq]
    omega
  rcases Text.Utf8.take_bytes maxErrorBody text.toList with
    ⟨front, rest, htext, htake⟩ | ⟨front, c, rest, start, more, htext, hc, hstart, hmore, htake⟩
  · rw [htake] at hkept
    exact absurd ⟨front, ⟨rest, htext.symm⟩, hkept⟩ hfronts
  · rw [htake, List.length_append] at hkept
    have hstart' := List.length_pos_iff.2 hstart
    have hmore' := List.length_pos_iff.2 hmore
    refine ⟨front, c, rest, htext, by omega, ?_, ?_⟩
    · rw [Text.Utf8.bytes_append, List.length_append, Text.Utf8.bytes_cons, hc, List.length_append, List.length_append]
      omega
    · exact shownBody_of_cut htext hc hstart hmore hkept

/-- A fault is longer than all that is cut off the bytes of one. -/
theorem not_excerpt_of_not_endsBetween (h : ¬EndsBetween text) : ¬Excerpt (shownBody (Utf8.encode text)) text := by
  obtain ⟨front, c, rest, htext, hshort, hlong, hshown⟩ := shownBody_of_not_endsBetween h
  intro hexcerpt
  have hbeginning := hexcerpt.beginning
  have hlength := hexcerpt.short
  rw [hshown, String.toList_ofList, htext, List.prefix_append_right_inj, List.cons_prefix_cons] at hbeginning
  -- the character that was cut would be the fault itself, with all of its bytes shown
  rw [hshown, Text.Utf8.encode_ofList, hbeginning.1] at hlength
  omega

theorem excerpt_iff : Excerpt (shownBody (Utf8.encode text)) text ↔ EndsBetween text :=
  ⟨fun h => by_contra fun hnot => not_excerpt_of_not_endsBetween hnot h, excerpt_of_endsBetween⟩

end Response

namespace HttpCall

/-- **What a call shows of the bodies of failures** that are texts: an excerpt exactly if the cut falls between two
characters; and else the characters in front of the cut and a fault. -/
def ShowsBodies (r : HttpCall) : Prop :=
  ∀ arrived response text, r.answer? = some (arrived, response) → response.status < 200 ∨ 299 < response.status →
    response.body = Utf8.encode text →
      ∃ shown, r.exchange.result = .error (.status response.status shown) ∧
        (Response.Excerpt shown text ↔ Response.EndsBetween text) ∧
        (¬Response.EndsBetween text → ∃ front c rest, text.toList = front ++ c :: rest ∧
          (Utf8.bytes front).length < Response.maxErrorBody ∧
          Response.maxErrorBody < (Utf8.bytes (front ++ [c])).length ∧ shown = String.ofList (front ++ [Utf8.fault]))

/-- **Every call shows an excerpt of the body of a failure exactly if the cut falls between two characters.** -/
theorem showsBodies (r : HttpCall) : r.ShowsBodies := by
  intro arrived response text hanswer hstatus hbody
  obtain ⟨url, hurl⟩ := exists_url_of_answer? hanswer
  have hresult := ((reaches hurl).answered arrived response hanswer).2.1
  refine ⟨Response.shownBody (Utf8.encode text), ?_, Response.excerpt_iff, Response.shownBody_of_not_endsBetween⟩
  rw [hresult, ← hbody]
  exact if_neg fun h => by omega

theorem network_of_answer? {r : HttpCall} {answer : Instant × Response} (h : r.answer? = some answer) :
    ∃ sentAt request after, r.network sentAt request = .response after answer.2 := by
  unfold answer? at h
  obtain ⟨request, -, h⟩ := Option.bind_eq_some_iff.1 h
  split at h
  · rename_i after response hreply
    split at h
    · cases h
      exact ⟨_, request, after, hreply⟩
    · cases h
  · cases h

/-- A body of 1025 bytes, of which the last two are one character. -/
def longBody : String := String.ofList (List.replicate 1023 'a' ++ ['é'])

def failingCall (c : HttpClient) : HttpCall where
  client := c
  network := fun _ _ => .response (.ofMillis 100) ⟨500, [], Utf8.encode longBody⟩
  made := ⟨0⟩
  method := "GET"
  destination := "/users/@me"
  body := none

theorem length_bytes_replicate : (Utf8.bytes (List.replicate 1023 'a')).length = 1023 := by decide +kernel

/-- What is shown of the long body is neither a part of it nor short enough. -/
theorem showsFault_longBody :
    ∃ c shown, HttpClient.ofConfig (.bot "token") {} ⟨0⟩ = .ok c ∧
      (failingCall c).exchange.result = .error (.status 500 shown) ∧ ¬shown.toList <+: longBody.toList ∧
        Response.maxErrorBody < (Utf8.encode shown).length := by
  have hok : ((HttpClient.ofConfig (.bot "token") {} ⟨0⟩).toOption.any fun c => (failingCall c).answer?.isSome) =
      true := by
    decide +kernel
  have hlast : String.utf8EncodeChar 'é' = [0xc3] ++ [0xa9] := by decide
  have htext : longBody.toList = List.replicate 1023 'a' ++ 'é' :: [] := String.toList_ofList
  have hshown := Response.shownBody_of_cut htext hlast (by simp) (by simp) (by rw [length_bytes_replicate]; rfl)
  cases hc : HttpClient.ofConfig (.bot "token") {} ⟨0⟩ with
  | error e =>
    rw [hc] at hok
    cases hok
  | ok c =>
    rw [hc] at hok
    obtain ⟨⟨arrived, response⟩, hanswer⟩ := Option.isSome_iff_exists.1 hok
    obtain ⟨_, _, _, hreply⟩ := network_of_answer? hanswer
    cases hreply
    obtain ⟨url, hurl⟩ := exists_url_of_answer? hanswer
    refine ⟨c, _, rfl, ((reaches hurl).answered arrived _ hanswer).2.1, ?_, ?_⟩
    · rw [hshown, htext, String.toList_ofList, List.prefix_append_right_inj, List.cons_prefix_cons]
      exact fun h => absurd h.1 (by decide)
    · rw [hshown, Text.Utf8.encode_ofList, Text.Utf8.bytes_append, List.length_append, length_bytes_replicate]
      decide

end HttpCall

end ChatClient
