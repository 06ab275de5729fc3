import ChatClient.Proofs.Json.Tokens
import ChatClient.Proofs.Text.Utf8
import Mathlib.Data.List.Nodup
/-!
# What is printed is read

The text of a value is read as the value, if the value keeps within what a reader accepts (`Json.Plain`,
`Json.parse?_text`); doubles, whose digits are chosen by a rule of their own, are left out.  The text spells a
document first (`Json.document`), with just the members of the value and no others (`Plain.document_text`).  The fuel
of the reader lasts, since a value is longer than any value in it (`Reread`).
-/
namespace ChatClient.Json

open Document
  (scanString partsText? faultMark skip isSpace scanNumber parseValue parseItems parseMembers toJson? itemsToJson?
  membersToJson? maxDepth)

/-! ## Values -/

theorem skip_cons {c : Char} (h : isSpace c = false) (cs : List Char) : skip (c :: cs) = c :: cs := by
  unfold skip
  rw [List.dropWhile_cons, if_neg (by simp [h])]

theorem isSpace_of_beginsNumeral {c : Char} (h : BeginsNumeral c) : isSpace c = false := by
  rcases h with rfl | h
  · rfl
  · have hbounds := (Text.isDigit_iff c).1 h
    simp only [isSpace, Bool.or_eq_false_iff, beq_eq_false_iff_ne]
    refine ⟨⟨⟨?_, ?_⟩, ?_⟩, ?_⟩ <;> (rintro rfl; revert hbounds; decide)

theorem parseValue_number {c : Char} (h : BeginsNumeral c) (fuel : Nat) (cs : List Char) :
    parseValue (fuel + 1) (c :: cs) = (scanNumber (c :: cs)).map fun (n, rest) => (.number n, rest) := by
  have hother (d : Char) (hd : ¬BeginsNumeral d) : c ≠ d := fun heq => hd (heq ▸ h)
  unfold parseValue
  rw [skip_cons (isSpace_of_beginsNumeral h)]
  split
  case h_1 heq | h_2 heq | h_3 heq | h_4 heq | h_5 heq | h_6 heq =>
    exact absurd (List.cons.inj heq).1 (hother _ (by decide))
  case h_7 => cases scanNumber (c :: cs) <;> rfl

mutual
/-- The document that the text of a value spells; of a double, whatever its text is found to spell. -/
def document : Json → Document
  | .null => .null
  | .bool b => .bool b
  | .int n => .number (numeral n)
  | .float x => (Document.parseMarked? x.text).getD .null
  | .string s => .string (some s)
  | .array items => .array (documents items)
  | .object members => .object (memberDocuments members)

def documents : List Json → List Document
  | [] => []
  | v :: vs => document v :: documents vs

def memberDocuments : List (String × Json) → List (Option String × Document)
  | [] => []
  | (k, v) :: members => (some k, document v) :: memberDocuments members
end

/-- A value inside `depth` containers that keeps within what a reader accepts: machine integers and no doubles, no key
twice, not too many containers inside one another. -/
inductive Plain : Nat → Json → Prop where
  | null {depth : Nat} : Plain depth .null
  | bool {depth : Nat} (b : Bool) : Plain depth (.bool b)
  | int {depth : Nat} {n : Int} (hlow : -0x8000000000000000 ≤ n) (hhigh : n < 0x10000000000000000) :
      Plain depth (.int n)
  | string {depth : Nat} (s : String) : Plain depth (.string s)
  | array {depth : Nat} {items : List Json} (hdepth : depth < maxDepth) (hitems : ∀ v ∈ items, Plain (depth + 1) v) :
    Plain depth (.array items)
  | object {depth : Nat} {members : List (String × Json)} (hdepth : depth < maxDepth)
      (hkeys : (members.map Prod.fst).Nodup)
    (hmembers : ∀ m ∈ members, Plain (depth + 1) m.2) : Plain depth (.object members)

/-- A value that is read off the front of its own text, given more fuel than the text is long. -/
def Reread (v : Json) : Prop :=
  ∀ {fuel : Nat} {rest : List Char}, (print v).length ≤ fuel → EndsNumeral rest →
    parseValue (fuel + 1) (print v ++ rest) = some (document v, rest)

theorem Plain.exists_print {depth : Nat} {v : Json} (h : Plain depth v) :
    ∃ c cs, print v = c :: cs ∧ isSpace c = false ∧ c ≠ ']' := by
  cases h with
  | null => exact ⟨'n', _, by rw [print], rfl, by decide⟩
  | bool b =>
    cases b with
    | true => exact ⟨'t', _, by rw [print], rfl, by decide⟩
    | false => exact ⟨'f', _, by rw [print], rfl, by decide⟩
  | @int _ n _ _ =>
    obtain ⟨c, cs, hcs, hbegins⟩ := exists_ofInt n
    refine ⟨c, cs, by rw [print, hcs], isSpace_of_beginsNumeral hbegins, ?_⟩
    rintro rfl
    exact absurd hbegins (by decide)
  | string s => exact ⟨'"', _, by rw [print, printString]; rfl, rfl, by decide⟩
  | array => exact ⟨'[', _, by rw [print]; rfl, rfl, by decide⟩
  | object => exact ⟨'\x7b', _, by rw [print]; rfl, rfl, by decide⟩

theorem printItems_cons_cons (v w : Json) (ws : List Json) :
    printItems (v :: w :: ws) = print v ++ ',' :: printItems (w :: ws) := by
  rw [printItems]
  exact List.cons_ne_nil w ws

theorem printMembers_cons_cons (k : String) (v : Json) (m : String × Json) (ms : List (String × Json)) :
    printMembers ((k, v) :: m :: ms) = printString k ++ ':' :: print v ++ ',' :: printMembers (m :: ms) := by
  rw [printMembers]
  exact List.cons_ne_nil m ms

theorem parseItems_print {items : List Json} {fuel : Nat} (rest : List Char) (hne : items ≠ [])
    (hitems : ∀ v ∈ items, Reread v) (hfuel : (printItems items).length + 2 ≤ fuel) :
    parseItems fuel (printItems items ++ ']' :: rest) = some (documents items, rest) := by
  induction items generalizing fuel with
  | nil => exact absurd rfl hne
  | cons v vs ih =>
    obtain ⟨fuel, rfl⟩ : ∃ f, fuel = f + 2 := ⟨fuel - 2, by omega⟩
    have hv : Reread v := hitems v List.mem_cons_self
    cases vs with
    | nil =>
      rw [printItems] at hfuel ⊢
      unfold parseItems
      rw [hv (by omega) (endsNumeral_cons rfl (by decide) rest)]
      rfl
    | cons w ws =>
      rw [printItems_cons_cons, List.length_append, List.length_cons] at hfuel
      have hrest := ih (List.cons_ne_nil w ws) (fun u hu => hitems u (List.mem_cons_of_mem _ hu))
        (show _ ≤ fuel + 1 by omega)
      rw [printItems_cons_cons, List.append_assoc, List.cons_append]
      unfold parseItems
      rw [hv (by omega) (endsNumeral_cons rfl (by decide) _)]
      simp only [skip_cons (show isSpace ',' = false from rfl), hrest]
      rfl

/-- A member is read off the front of what is printed, and what follows its mark after it. -/
theorem parseMembers_printString (k : String) {v : Json} {fuel : Nat} {next rest : List Char}
    {ds : List (Option String × Document)} (hv : Reread v) (hfuel : (print v).length ≤ fuel)
    (hnext : next = '\x7d' :: rest ∧ ds = [] ∨ ∃ cs, next = ',' :: cs ∧
      parseMembers (fuel + 1) cs = some (ds, rest)) :
    parseMembers (fuel + 2) (printString k ++ ':' :: (print v ++ next)) = some ((some k, document v) :: ds, rest) := by
  obtain ⟨ps, hps, hkey⟩ := scanString_print k (':' :: (print v ++ next))
  have hends : EndsNumeral next := by
    rcases hnext with ⟨rfl, -⟩ | ⟨cs, rfl, -⟩
    · exact endsNumeral_cons rfl (by decide) rest
    · exact endsNumeral_cons rfl (by decide) cs
  have hshape : printString k ++ ':' :: (print v ++ next) =
      '"' :: (k.toList.flatMap printChar ++ '"' :: ':' :: (print v ++ next)) := by
    simp [printString]
  rw [hshape]
  unfold parseMembers
  simp only [skip_cons (show isSpace '"' = false from rfl), hps, skip_cons (show isSpace ':' = false from rfl)]
  rw [hv hfuel hends, hkey]
  rcases hnext with ⟨rfl, rfl⟩ | ⟨cs, rfl, hmore⟩
  · rfl
  · simp only [skip_cons (show isSpace ',' = false from rfl), hmore]

theorem parseMembers_print {members : List (String × Json)} {fuel : Nat} (rest : List Char) (hne : members ≠ [])
    (hmembers : ∀ m ∈ members, Reread m.2) (hfuel : (printMembers members).length + 2 ≤ fuel) :
    parseMembers fuel (printMembers members ++ '\x7d' :: rest) = some (memberDocuments members, rest) := by
  induction members generalizing fuel with
  | nil => exact absurd rfl hne
  | cons m ms ih =>
    obtain ⟨k, v⟩ := m
    obtain ⟨fuel, rfl⟩ : ∃ f, fuel = f + 2 := ⟨fuel - 2, by omega⟩
    have hv : Reread v := hmembers (k, v) List.mem_cons_self
    cases ms with
    | nil =>
      rw [printMembers, List.length_append, List.length_cons] at hfuel
      rw [printMembers, List.append_assoc, List.cons_append]
      exact parseMembers_printString k hv (by omega) (.inl ⟨rfl, rfl⟩)
    | cons m' ms =>
      rw [printMembers_cons_cons, List.length_append, List.length_append, List.length_cons, List.length_cons] at hfuel
      have hrest := ih (List.cons_ne_nil m' ms) (fun m hm => hmembers m (List.mem_cons_of_mem _ hm))
        (show _ ≤ fuel + 1 by omega)
      rw [printMembers_cons_cons, List.append_assoc, List.append_assoc, List.cons_append, List.cons_append]
      exact parseMembers_printString k hv (by omega) (.inr ⟨_, rfl, hrest⟩)

theorem reread_int {n : Int} (hlow : -0x8000000000000000 ≤ n) (hhigh : n < 0x10000000000000000) : Reread (.int n) := by
  intro fuel rest hfuel hrest
  have hsize : n.natAbs < UInt64.size := by
    unfold UInt64.size
    omega
  obtain ⟨c, cs, hcs, hbegins⟩ := exists_ofInt n
  have hread := scanNumber_ofInt hsize hrest
  rw [hcs, List.cons_append] at hread
  rw [print, hcs, List.cons_append, parseValue_number hbegins, hread]
  rfl

theorem reread_string (s : String) : Reread (.string s) := by
  intro fuel rest hfuel hrest
  obtain ⟨ps, hps, hs⟩ := scanString_print s rest
  have hshape : print (.string s) ++ rest = '"' :: (s.toList.flatMap printChar ++ '"' :: rest) := by
    simp [print, printString]
  rw [hshape]
  unfold parseValue
  simp only [skip_cons (show isSpace '"' = false from rfl), hps, hs]
  rfl

theorem reread_array {items : List Json}
    (hheads : ∀ v ∈ items, ∃ c cs, print v = c :: cs ∧ isSpace c = false ∧ c ≠ ']')
    (hitems : ∀ v ∈ items, Reread v) : Reread (.array items) := by
  intro fuel rest hfuel hrest
  cases items with
  | nil => rfl
  | cons v vs =>
    obtain ⟨c, cs, hcs, hspace, hclose⟩ := hheads v List.mem_cons_self
    have hfront : ∃ cs', printItems (v :: vs) = c :: cs' := by
      cases vs with
      | nil => exact ⟨cs, by rw [printItems, hcs]⟩
      | cons w ws => exact ⟨_, by rw [printItems_cons_cons, hcs, List.cons_append]⟩
    obtain ⟨cs', hcs'⟩ := hfront
    have hshape : print (.array (v :: vs)) ++ rest = '[' :: (printItems (v :: vs) ++ ']' :: rest) := by
      simp [print]
    have hfits : (printItems (v :: vs)).length + 2 ≤ fuel := by
      rw [print, List.length_append, List.length_cons, List.length_singleton] at hfuel
      exact hfuel
    have hread := parseItems_print rest (List.cons_ne_nil v vs) hitems hfits
    rw [hshape]
    unfold parseValue
    rw [hcs', List.cons_append] at hread ⊢
    simp only [skip_cons (show isSpace '[' = false from rfl), skip_cons hspace]
    split
    case h_1 heq => exact absurd (List.cons.inj heq).1 hclose
    case h_2 =>
      rw [hread]
      rfl

theorem reread_object {members : List (String × Json)} (hmembers : ∀ m ∈ members, Reread m.2) :
    Reread (.object members) := by
  intro fuel rest hfuel hrest
  cases members with
  | nil => rfl
  | cons m ms =>
    have hfront : ∃ cs', printMembers (m :: ms) = '"' :: cs' := by
      obtain ⟨k, v⟩ := m
      cases ms with
      | nil => exact ⟨_, by rw [printMembers, printString]; rfl⟩
      | cons m' ms' => exact ⟨_, by rw [printMembers_cons_cons, printString]; rfl⟩
    obtain ⟨cs', hcs'⟩ := hfront
    have hshape : print (.object (m :: ms)) ++ rest = '\x7b' :: (printMembers (m :: ms) ++ '\x7d' :: rest) := by
      simp [print]
    have hfits : (printMembers (m :: ms)).length + 2 ≤ fuel := by
      rw [print, List.length_append, List.length_cons, List.length_singleton] at hfuel
      exact hfuel
    have hread := parseMembers_print rest (List.cons_ne_nil m ms) hmembers hfits
    rw [hshape]
    unfold parseValue
    rw [hcs', List.cons_append] at hread ⊢
    simp only [skip_cons (show isSpace '\x7b' = false from rfl), skip_cons (show isSpace '"' = false from rfl)]
    split
    case h_1 heq => exact absurd (List.cons.inj heq).1 (by decide)
    case h_2 =>
      rw [hread]
      rfl

/-- **What is printed of a value is read as its document.** -/
theorem Plain.reread {depth : Nat} {v : Json} (h : Plain depth v) : Reread v := by
  induction h with
  | null => exact fun _ _ => rfl
  | bool b => exact fun _ _ => by cases b <;> rfl
  | int hlow hhigh => exact reread_int hlow hhigh
  | string s => exact reread_string s
  | array hdepth hitems ih => exact reread_array (fun v hv => (hitems v hv).exists_print) ih
  | object hdepth hkeys hmembers ih => exact reread_object ih

/-! ## Reading all of it -/

theorem numeralToJson?_numeral {n : Int} (hlow : -0x8000000000000000 ≤ n) :
    Document.numeralToJson? (numeral n) = some (.int n) := by
  have hwhole : (if (numeral n).negative then -((numeral n).digits : Int) else (numeral n).digits) = n := by
    simp only [numeral, decide_eq_true_eq]
    split <;> omega
  have hzero : ¬((numeral n).negative = true ∧ (numeral n).digits = 0) := by
    simp only [numeral, decide_eq_true_eq]
    omega
  unfold Document.numeralToJson?
  simp only [hwhole]
  exact if_pos ⟨rfl, rfl, hzero, hlow⟩

theorem insertMember_of_not_mem {key : String} (value : Json) {members : List (String × Json)}
    (h : key ∉ members.map Prod.fst) : insertMember key value members = members ++ [(key, value)] := by
  induction members with
  | nil => rfl
  | cons m ms ih =>
    rw [List.map_cons, List.mem_cons, not_or] at h
    obtain ⟨hhead, htail⟩ := h
    unfold insertMember
    rw [if_neg (Ne.symm hhead), ih htail, List.cons_append]

theorem itemsToJson?_documents {depth : Nat} {items : List Json}
    (h : ∀ v ∈ items, toJson? depth (document v) = some v) :
    itemsToJson? depth (documents items) = some items := by
  induction items with
  | nil => rfl
  | cons v vs ih =>
    rw [documents, itemsToJson?, h v List.mem_cons_self, ih fun u hu => h u (List.mem_cons_of_mem _ hu)]
    rfl

theorem membersToJson?_memberDocuments {depth : Nat} {members read : List (String × Json)}
    (h : ∀ m ∈ members, toJson? depth (document m.2) = some m.2) (hkeys : ((read ++ members).map Prod.fst).Nodup) :
    membersToJson? depth (memberDocuments members) read = some (read ++ members) := by
  induction members generalizing read with
  | nil =>
    rw [List.append_nil]
    rfl
  | cons m ms ih =>
    obtain ⟨k, v⟩ := m
    have hfresh : k ∉ read.map Prod.fst := by
      rw [List.map_append, List.map_cons] at hkeys
      exact fun hk => (List.nodup_append.1 hkeys).2.2 k hk k List.mem_cons_self rfl
    have hms : ((read ++ [(k, v)] ++ ms).map Prod.fst).Nodup := by
      rwa [List.append_assoc, List.singleton_append]
    have hrest := ih (fun m hm => h m (List.mem_cons_of_mem _ hm)) hms
    rw [List.append_assoc, List.singleton_append] at hrest
    rw [memberDocuments, membersToJson?]
    simp only [Option.bind_eq_bind, Option.bind_some, h (k, v) List.mem_cons_self, insertMember_of_not_mem v hfresh]
    exact hrest

theorem Plain.toJson?_document {depth : Nat} {v : Json} (h : Plain depth v) : toJson? depth (document v) = some v := by
  induction h with
  | null => rfl
  | bool b => rfl
  | int hlow hhigh => exact numeralToJson?_numeral hlow
  | string s => rfl
  | array hdepth hitems ih =>
    rw [document, toJson?, if_pos hdepth, itemsToJson?_documents ih]
    rfl
  | object hdepth hkeys hmembers ih =>
    rw [document, toJson?, if_pos hdepth, membersToJson?_memberDocuments ih (by rwa [List.nil_append])]
    rfl

/-! ## Whole texts -/

theorem noControl_printItems {items : List Json} (h : ∀ v ∈ items, NoControl (print v)) :
    NoControl (printItems items) := by
  induction items with
  | nil => exact noControl_nil
  | cons v vs ih =>
    have hv := h v List.mem_cons_self
    have hvs := ih fun u hu => h u (List.mem_cons_of_mem _ hu)
    cases vs with
    | nil => exact hv
    | cons w ws =>
      rw [printItems_cons_cons]
      exact hv.append (hvs.cons (by decide))

theorem noControl_printMembers {members : List (String × Json)} (h : ∀ m ∈ members, NoControl (print m.2)) :
    NoControl (printMembers members) := by
  induction members with
  | nil => exact noControl_nil
  | cons m ms ih =>
    obtain ⟨k, v⟩ := m
    have hmember := (noControl_printString k).append
      ((h (k, v) List.mem_cons_self).cons (show 0x20 ≤ ':'.toNat by decide))
    have hms := ih fun m hm => h m (List.mem_cons_of_mem _ hm)
    cases ms with
    | nil => exact hmember
    | cons m' ms' =>
      rw [printMembers_cons_cons]
      exact hmember.append (hms.cons (by decide))

theorem Plain.noControl {depth : Nat} {v : Json} (h : Plain depth v) : NoControl (print v) := by
  induction h with
  | null => exact (by decide : NoControl ['n', 'u', 'l', 'l'])
  | bool b =>
    cases b with
    | true => exact (by decide : NoControl ['t', 'r', 'u', 'e'])
    | false => exact (by decide : NoControl ['f', 'a', 'l', 's', 'e'])
  | @int _ n hlow hhigh => exact noControl_ofInt n
  | string s => exact noControl_printString s
  | array hdepth hitems ih =>
    exact ((noControl_printItems ih).cons (by decide)).append (noControl_nil.cons (by decide))
  | object hdepth hkeys hmembers ih =>
    exact ((noControl_printMembers ih).cons (by decide)).append (noControl_nil.cons (by decide))

theorem Plain.parseMarked?_print {depth : Nat} {v : Json} (h : Plain depth v) :
    Document.parseMarked? (print v) = some (document v) := by
  have hread : parseValue ((print v).length + 1) (print v ++ []) = some (document v, []) :=
    h.reread le_rfl endsNumeral_nil
  rw [List.append_nil] at hread
  unfold Document.parseMarked?
  rw [hread]
  rfl

/-- **The text of a value spells its document.** -/
theorem Plain.document_text {depth : Nat} {v : Json} (h : Plain depth v) :
    Document.parse? v.text.toList = some (document v) := by
  unfold Document.parse? text
  rw [String.toList_ofList, if_neg (by simpa using h.noControl.not_mem_faultMark)]
  exact h.parseMarked?_print

/-- **And so do its bytes.** -/
theorem Plain.document_bytes {depth : Nat} {v : Json} (h : Plain depth v) :
    Document.ofBytes? (Text.Utf8.encode v.text) = some (document v) := by
  have hchars : (print v).map ((·.getD faultMark) ∘ some) = print v := List.map_id _
  unfold Document.ofBytes? text
  simp only [Text.Utf8.chars_encode, String.toList_ofList, List.map_map, hchars]
  rw [if_neg (by simpa using h.noControl.not_mem_faultMark)]
  exact h.parseMarked?_print

/-- **A value is read from its own text.** -/
theorem parse?_text {v : Json} (h : Plain 0 v) : parse? v.text = some v := by
  unfold parse?
  rw [h.document_text, Option.bind_some, h.toJson?_document]

end ChatClient.Json
