import ChatClient.Entity.MemberId
import ChatClient.Proofs.Text.Separator
/-!
# Identities of members as texts

The text of an identity is read again as that identity exactly if both halves are there and the server holds no colon
(`Legible`); a colon of the user does no harm, since the first one divides.  Every text that is read at all is the
text of what it is read as, so that no two texts stand for one identity.
-/
namespace ChatClient.MemberId

/-- **An identity that its text tells**: both halves are there, and the server holds no colon. -/
structure Legible (id : MemberId) : Prop where
  server_ne : id.server ≠ ""
  user_ne : id.user ≠ ""
  not_mem : ':' ∉ id.server.toList

variable {id id' : MemberId} {s : String}

theorem toList_text (id : MemberId) : id.text.toList = id.server.toList ++ ':' :: id.user.toList := by
  rw [text, String.toList_append, String.toList_append, List.append_assoc]
  rfl

theorem parse_of_halves {server user : List Char} (hs : s.toList = server ++ ':' :: user) (hcolon : ':' ∉ server) :
    parse s = if server ≠ [] ∧ user ≠ [] then .ok ⟨String.ofList server, String.ofList user⟩
      else .error .invalidFormat := by
  unfold parse
  rw [hs, takeWhile_separator hcolon, dropWhile_separator hcolon]
  rfl

theorem parse_of_not_mem (h : ':' ∉ s.toList) : parse s = .error .invalidFormat := by
  have hall : ∀ c ∈ s.toList, (c != ':') = true := fun c hc => bne_iff_ne.2 fun heq => h (heq ▸ hc)
  unfold parse
  rw [List.dropWhile_eq_nil_iff.2 hall]

/-- **What is read is an identity that its text tells, from that text.** -/
theorem parse_eq_ok_iff : parse s = .ok id ↔ id.Legible ∧ id.text = s := by
  constructor
  · intro h
    by_cases hmem : ':' ∈ s.toList
    · obtain ⟨server, user, hs, hcolon⟩ := List.eq_append_cons_of_mem hmem
      rw [parse_of_halves hs hcolon] at h
      split at h
      · rename_i hhalves
        cases h
        refine ⟨⟨?_, ?_, ?_⟩, String.toList_inj.1 ?_⟩
        · exact fun hnil => hhalves.1 (String.ofList_eq_empty_iff.1 hnil)
        · exact fun hnil => hhalves.2 (String.ofList_eq_empty_iff.1 hnil)
        · rwa [String.toList_ofList]
        · rw [toList_text, String.toList_ofList, String.toList_ofList, hs]
      · cases h
    · rw [parse_of_not_mem hmem] at h
      cases h
  · rintro ⟨⟨hserver, huser, hcolon⟩, rfl⟩
    have hhalves : id.server.toList ≠ [] ∧ id.user.toList ≠ [] :=
      ⟨mt String.toList_eq_nil_iff.1 hserver, mt String.toList_eq_nil_iff.1 huser⟩
    rw [parse_of_halves id.toList_text hcolon, if_pos hhalves, String.ofList_toList, String.ofList_toList]

/-- **Texts that stand for no identity**: without a colon, or with nothing before or nothing after the first one. -/
theorem parse_eq_error_iff : parse s = .error .invalidFormat ↔
    ':' ∉ s.toList ∨ ∃ before after, s.toList = before ++ ':' :: after ∧ ':' ∉ before ∧
      (before = [] ∨ after = []) := by
  by_cases hmem : ':' ∈ s.toList
  · obtain ⟨server, user, hs, hcolon⟩ := List.eq_append_cons_of_mem hmem
    -- the halves at the first colon are the only ones
    have hhalves : (∃ before after, s.toList = before ++ ':' :: after ∧ ':' ∉ before ∧
        (before = [] ∨ after = [])) ↔ server = [] ∨ user = [] := by
      constructor
      · rintro ⟨before, after, hs', hcolon', hempty⟩
        obtain ⟨rfl, rfl⟩ := (append_separator_inj hcolon hcolon').1 (hs.symm.trans hs')
        exact hempty
      · exact fun hempty => ⟨server, user, hs, hcolon, hempty⟩
    rw [hhalves, parse_of_halves hs hcolon, or_iff_right (not_not_intro hmem)]
    by_cases hboth : server ≠ [] ∧ user ≠ []
    · rw [if_pos hboth]
      exact iff_of_false nofun fun hempty => hempty.elim hboth.1 hboth.2
    · rw [if_neg hboth]
      exact iff_of_true rfl (by rwa [not_and_or, not_not, not_not] at hboth)
  · exact iff_of_true (parse_of_not_mem hmem) (.inl hmem)

/-- **Reading and showing.**  Every text that is read is shown again as it was; an identity is read from its own text
exactly if both halves are there and the server holds no colon, and no two such identities have one text; and what is
not read has no colon, or nothing on one side of the first. -/
theorem reads_what_is_shown :
    (∀ s id, parse s = .ok id → id.text = s) ∧
      (∀ id : MemberId, parse id.text = .ok id ↔ id.server ≠ "" ∧ id.user ≠ "" ∧ ':' ∉ id.server.toList) ∧
      (∀ id id' : MemberId, id.Legible → id'.Legible → id.text = id'.text → id = id') ∧
      ∀ s, (∃ e, parse s = .error e) ↔
        ':' ∉ s.toList ∨ ∃ before after, s.toList = before ++ ':' :: after ∧ ':' ∉ before ∧
          (before = [] ∨ after = []) := by
  refine ⟨fun s id h => (parse_eq_ok_iff.1 h).2, fun id => ?_, fun id id' hid hid' htext => ?_, fun s => ?_⟩
  · rw [parse_eq_ok_iff]
    exact ⟨fun h => ⟨h.1.server_ne, h.1.user_ne, h.1.not_mem⟩, fun h => ⟨⟨h.1, h.2.1, h.2.2⟩, rfl⟩⟩
  · have hread : parse id.text = .ok id := parse_eq_ok_iff.2 ⟨hid, rfl⟩
    have hread' : parse id.text = .ok id' := parse_eq_ok_iff.2 ⟨hid', htext.symm⟩
    exact Except.ok.inj (hread.symm.trans hread')
  · rw [← parse_eq_error_iff]
    exact ⟨fun ⟨.invalidFormat, h⟩ => h, fun h => ⟨_, h⟩⟩

/-- The colon may stand in a user, and in a server it leads to another identity with the same text. -/
example : parse (text ⟨"s", "u:v"⟩) = .ok ⟨"s", "u:v"⟩ ∧
    parse (text ⟨"s:u", "v"⟩) = .ok ⟨"s", "u:v"⟩ := by
  decide

end ChatClient.MemberId
