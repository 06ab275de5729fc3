import ChatClient.Config.Environment
import ChatClient.Proofs.Text.Utf8
import ChatClient.Proofs.Text.Word
/-!
# What variables make of a configuration

Every setting of a configuration has a variable of its own (`ConfigSetting.all`).  A time is a numeral and a flag one
of eight words, in letters of either case and between blanks; an address is any text.  An environment describes a
configuration exactly if the token is there and not blank and every variable that is set can be read, and then each
setting is what its own variable stands for, or the standard value.  Otherwise the error is about the token, or about
the first variable in the order of the settings that cannot be read (`FollowsVariables`).
-/
namespace ChatClient

/-! ## What the text of a variable stands for -/

namespace Environment

/-- **A text spells a time in milliseconds**: digits behind at most a plus sign, of a number that fits 64 bits. -/
def SpellsMillis (raw : String) (d : Duration) : Prop :=
  ∃ (sign : Option Char) (digits : List Char), Text.Surrounds raw.toList (sign.toList ++ digits) ∧
    (∀ c ∈ sign, c = '+') ∧
    digits ≠ [] ∧ (∀ c ∈ digits, c.isDigit = true) ∧ Text.Decimal.value digits < UInt64.size ∧
    d = .ofMillis (Text.Decimal.value digits)

def flagWords : Bool → List String
  | true => ["1", "true", "yes", "on"]
  | false => ["0", "false", "no", "off"]

/-- **A text spells an answer**: one of its words. -/
def SpellsFlag (raw : String) (b : Bool) : Prop :=
  ∃ word ∈ flagWords b, ∃ body, Text.Surrounds raw.toList body ∧ Text.IsWord word body

def IsBlankText (raw : String) : Prop :=
  ∀ c ∈ raw.toList, Text.isBlank c = true

/-- **A reader fits what texts stand for**: given a text without the blanks around it, it reads what that stands for,
and nothing if it stands for nothing. -/
def Reads {α : Type} (read? : List Char → Option α) (Spells : String → α → Prop) : Prop :=
  ∀ raw a, read? (Text.trimChars raw.toList) = some a ↔ Spells raw a

theorem Reads.unique {α : Type} {read? : List Char → Option α} {Spells : String → α → Prop}
    (h : Reads read? Spells) (raw : String) (a b : α) (ha : Spells raw a) (hb : Spells raw b) : a = b :=
  Option.some.inj (((h raw a).2 ha).symm.trans ((h raw b).2 hb))

theorem millis?_eq_some_iff {cs : List Char} {d : Duration} :
    millis? cs = some d ↔ ∃ n, Text.Decimal.parseNat? cs = some n ∧ n < UInt64.size ∧ d = .ofMillis n := by
  unfold millis?
  rw [Option.bind_eq_some_iff]
  refine exists_congr fun n => and_congr_right fun _ => ?_
  by_cases hn : n < UInt64.size
  · rw [if_pos hn, Option.some_inj]
    exact ⟨fun h => ⟨hn, h.symm⟩, fun h => h.2.symm⟩
  · rw [if_neg hn]
    exact iff_of_false nofun fun h => hn h.1

theorem reads_millis : Reads millis? SpellsMillis := by
  intro raw d
  rw [millis?_eq_some_iff]
  constructor
  · rintro ⟨n, hn, hsize, rfl⟩
    obtain ⟨sign, digits, hsign, htrim, hdigits⟩ := Text.Decimal.parseNat?_eq_some_iff.1 hn
    obtain ⟨hne, hall, rfl⟩ := Text.Decimal.digits?_eq_some_iff.1 hdigits
    exact ⟨sign, digits, htrim ▸ Text.surrounds_trimChars raw.toList, hsign, hne, hall, hsize, rfl⟩
  · rintro ⟨sign, digits, hbody, hsign, hne, hall, hsize, rfl⟩
    refine ⟨Text.Decimal.value digits, ?_, hsize, rfl⟩
    have hblank : ∀ c ∈ sign.toList ++ digits, Text.isBlank c = false := by
      intro c hc
      rcases List.mem_append.1 hc with hc | hc
      · rw [hsign c (Option.mem_toList.1 hc)]
        rfl
      · exact Text.isBlank_of_isDigit (hall c hc)
    rw [hbody.trimChars_eq (List.append_ne_nil_of_right_ne_nil _ hne) hblank]
    exact Text.Decimal.parseNat?_eq_some_iff.2
      ⟨sign, digits, hsign, rfl, Text.Decimal.digits?_eq_some_iff.2 ⟨hne, hall, rfl⟩⟩

theorem flag?_eq_some_iff {cs : List Char} {b : Bool} :
    flag? cs = some b ↔ String.ofList (cs.map Char.toLower) ∈ flagWords b := by
  have hdisjoint : ∀ word ∈ flagWords true, word ∉ flagWords false := by decide
  have hflag : flag? cs = if String.ofList (cs.map Char.toLower) ∈ flagWords true then some true
      else if String.ofList (cs.map Char.toLower) ∈ flagWords false then some false else none := by
    simp [flag?, flagWords]
  rw [hflag]
  by_cases htrue : String.ofList (cs.map Char.toLower) ∈ flagWords true
  · rw [if_pos htrue]
    cases b with
    | true => exact iff_of_true rfl htrue
    | false => exact iff_of_false (by decide) (hdisjoint _ htrue)
  · rw [if_neg htrue]
    by_cases hfalse : String.ofList (cs.map Char.toLower) ∈ flagWords false
    · rw [if_pos hfalse]
      cases b with
      | true => exact iff_of_false (by decide) htrue
      | false => exact iff_of_true rfl hfalse
    · rw [if_neg hfalse]
      cases b with
      | true => exact iff_of_false (by decide) htrue
      | false => exact iff_of_false (by decide) hfalse

theorem flagWords_plain {b : Bool} {word : String} (h : word ∈ flagWords b) : word.toList ≠ [] ∧
    ∀ l ∈ word.toList, l.toLower = l ∧ Text.isBlank l = false ∧ Text.isBlank l.toUpper = false := by
  have hall : (flagWords b).all fun word => word.toList ≠ [] ∧
      word.toList.all fun l => l.toLower = l ∧ Text.isBlank l = false ∧ Text.isBlank l.toUpper = false := by
    cases b <;> decide
  have hword := List.all_eq_true.1 hall word h
  simpa only [decide_eq_true_eq, List.all_eq_true] using hword

theorem reads_flag : Reads flag? SpellsFlag := by
  intro raw b
  rw [flag?_eq_some_iff]
  constructor
  · intro hword
    have hplain := (flagWords_plain hword).2
    exact ⟨_, hword, _, Text.surrounds_trimChars raw.toList, (Text.isWord_iff fun l hl => (hplain l hl).1).2 rfl⟩
  · rintro ⟨word, hword, body, hbody, his⟩
    obtain ⟨hne, hplain⟩ := flagWords_plain hword
    have hsmall : String.ofList (body.map Char.toLower) = word := (Text.isWord_iff fun l hl => (hplain l hl).1).1 his
    rw [← hsmall, String.toList_ofList] at hne hplain
    have hblank : ∀ c ∈ body, Text.isBlank c = false := by
      intro c hc
      obtain ⟨hlower, hplain, hplain'⟩ := hplain _ (List.mem_map_of_mem hc)
      rcases (Text.toLower_eq_iff hlower).1 rfl with hc | hc
      · rwa [← hc] at hplain
      · rwa [← hc] at hplain'
    rw [hbody.trimChars_eq (mt List.map_eq_nil_iff.2 hne) hblank, hsmall]
    exact hword

/-- Blanks of any kind around a word, and capitals inside it, do no harm. -/
example : SpellsFlag "\u00a0yEs\t" true :=
  (reads_flag _ _).1 (by decide)

end Environment

/-! ## Environments of texts -/

namespace Environment

def ofTexts (texts : Table String) : Environment :=
  texts.map fun _ s => Text.Utf8.encode s

theorem text?_ofTexts (texts : Table String) (name : String) : (ofTexts texts).text? name = texts[name]? := by
  unfold Environment.text? ofTexts
  rw [Std.ExtTreeMap.getElem?_map]
  cases texts[name]? with
  | none => rfl
  | some s => exact Text.Utf8.decode?_encode s

end Environment

open Environment

/-! ## Settings and their variables -/

abbrev Variables : Type :=
  String → Option String

/-- A setting of a configuration: its variable, what the texts in it stand for, which is one value at most, the value
without it, and the value that it has. -/
structure ConfigSetting where
  Value : Type
  name : String
  Spells : String → Value → Prop
  spells_unique : ∀ raw a b, Spells raw a → Spells raw b → a = b
  standard : ClientConfig → Value
  get : ClientConfig → Value

namespace ConfigSetting

def text (name standard : String) (get : ClientConfig → String) : ConfigSetting :=
  ⟨String, name, fun raw a => a = raw, fun _ _ _ ha hb => ha.trans hb.symm, fun _ => standard, get⟩

def millis (name : String) (standard : ClientConfig → Duration) (get : ClientConfig → Duration) : ConfigSetting :=
  ⟨Duration, name, SpellsMillis, Environment.reads_millis.unique, standard, get⟩

def flag (name : String) (standard : Bool) (get : ClientConfig → Bool) : ConfigSetting :=
  ⟨Bool, name, SpellsFlag, Environment.reads_flag.unique, fun _ => standard, get⟩

/-- **A variable can be read**: it is not set, or its text stands for something. -/
def Readable (s : ConfigSetting) (vars : Variables) : Prop :=
  ∀ raw, vars s.name = some raw → ∃ a, s.Spells raw a

/-- **A value is what a variable says**: what its text stands for, or the standard value if it is not set. -/
def Is (s : ConfigSetting) (vars : Variables) (standard a : s.Value) : Prop :=
  match vars s.name with
  | some raw => s.Spells raw a
  | none => a = standard

def Holds (s : ConfigSetting) (vars : Variables) (c : ClientConfig) : Prop :=
  s.Is vars (s.standard c) (s.get c)

def heartbeatInterval : ConfigSetting :=
  .millis "REVOLT_HEARTBEAT_INTERVAL_MS" (fun _ => .ofSecs 30) (·.gateway.heartbeatInterval)

end ConfigSetting

/-- **All settings but the token**, in the order in which their variables are looked at. -/
def ConfigSetting.all : List ConfigSetting := [
  .heartbeatInterval,
  .flag "REVOLT_SELFBOT" false (·.selfbot),
  .text "REVOLT_API_URL" "https://api.revolt.chat" (·.http.apiUrl),
  .text "REVOLT_CDN_URL" "https://cdn.revoltusercontent.com" (·.http.cdnUrl),
  .text "REVOLT_USER_AGENT" "revolt-rs/0.1.0" (·.http.userAgent),
  .millis "REVOLT_REQUEST_TIMEOUT_MS" (fun _ => .ofSecs 10) (·.http.requestTimeout),
  .millis "REVOLT_RATELIMIT_SWEEP_MS" (fun _ => .ofSecs 60) (·.http.sweepInterval),
  .text "REVOLT_WS_URL" "wss://ws.revolt.chat?version=1&format=json" (·.gateway.url),
  .millis "REVOLT_HEARTBEAT_TIMEOUT_MS" (fun c => ⟨c.gateway.heartbeatInterval.nanos * 2⟩)
    (·.gateway.heartbeatTimeout),
  .millis "REVOLT_RECONNECT_INTERVAL_MS" (fun _ => .ofSecs 5) (·.gateway.reconnectInterval),
  .flag "REVOLT_TRACK_USERS" true (·.tracking.users),
  .flag "REVOLT_TRACK_SERVERS" true (·.tracking.servers),
  .flag "REVOLT_TRACK_CHANNELS" true (·.tracking.channels),
  .flag "REVOLT_TRACK_MEMBERS" true (·.tracking.members),
  .flag "REVOLT_TRACK_EMOJIS" true (·.tracking.emojis),
  .flag "REVOLT_TRACK_WEBHOOKS" false (·.tracking.webhooks)]

/-- **What is wrong with variables**: there is no token, it is blank, or a setting is the first that cannot be read. -/
inductive ConfigFault (vars : Variables) : ConfigError → Prop where
  | missing (htoken : vars "REVOLT_TOKEN" = none) : ConfigFault vars (.missingVariable "REVOLT_TOKEN")
  | blank {token : String} (htoken : vars "REVOLT_TOKEN" = some token) (hblank : IsBlankText token) :
      ConfigFault vars (.invalidValue "REVOLT_TOKEN" "empty token")
  | unreadable {token raw : String} {before after : List ConfigSetting} {s : ConfigSetting}
      (htoken : vars "REVOLT_TOKEN" = some token) (hblank : ¬ IsBlankText token)
      (hsettings : ConfigSetting.all = before ++ s :: after) (hbefore : ∀ r ∈ before, r.Readable vars)
      (hraw : vars s.name = some raw) (hspells : ∀ a, ¬ s.Spells raw a) : ConfigFault vars (.invalidValue s.name raw)

/-! ## One variable -/

namespace Environment

variable {α : Type} {env : Environment} {read? : List Char → Option α} {Spells : String → α → Prop}
    {name : String} {a : α}
  {e : ConfigError}

theorem read_eq_ok_iff (h : Reads read? Spells) {standard : α} : env.read read? name standard = .ok a ↔
    match env.text? name with
    | some raw => Spells raw a
    | none => a = standard := by
  unfold Environment.read
  cases env.text? name with
  | none => simp [eq_comm]
  | some raw =>
    simp only [← h raw a]
    cases read? (Text.trimChars raw.toList) <;> simp

theorem read_eq_error_iff (h : Reads read? Spells) (standard : α) : env.read read? name standard = .error e ↔
    ∃ raw, env.text? name = some raw ∧ (∀ a, ¬ Spells raw a) ∧ e = .invalidValue name raw := by
  unfold Environment.read
  cases env.text? name with
  | none => simp
  | some raw =>
    simp only [← h raw, Option.some_inj, exists_eq_left']
    cases read? (Text.trimChars raw.toList) <;> simp [eq_comm]

end Environment

/-! ## The first variable that cannot be read -/

def FirstUnreadable (vars : Variables) : List ConfigSetting → ConfigError → Prop
  | [], _ => False
  | s :: rest, e => (∃ raw, vars s.name = some raw ∧ (∀ a, ¬ s.Spells raw a) ∧ e = .invalidValue s.name raw) ∨
      s.Readable vars ∧ FirstUnreadable vars rest e

theorem firstUnreadable_iff {vars : Variables} {all : List ConfigSetting} {e : ConfigError} :
    FirstUnreadable vars all e ↔
    ∃ before s after raw, all = before ++ s :: after ∧ (∀ r ∈ before, r.Readable vars) ∧
      vars s.name = some raw ∧ (∀ a, ¬ s.Spells raw a) ∧ e = .invalidValue s.name raw := by
  induction all with
  | nil => simp [FirstUnreadable]
  | cons s rest ih =>
    unfold FirstUnreadable
    rw [ih]
    constructor
    · rintro (⟨raw, hraw, hspells, rfl⟩ | ⟨hs, before, r, after, raw, rfl, hbefore, hr⟩)
      · exact ⟨[], s, rest, raw, rfl, nofun, hraw, hspells, rfl⟩
      · exact ⟨s :: before, r, after, raw, rfl, List.forall_mem_cons.2 ⟨hs, hbefore⟩, hr⟩
    · rintro ⟨before, r, after, raw, hall, hbefore, hr⟩
      cases before with
      | nil =>
        cases hall
        exact .inl ⟨raw, hr⟩
      | cons t before =>
        cases hall
        obtain ⟨ht, hbefore⟩ := List.forall_mem_cons.1 hbefore
        exact .inr ⟨ht, before, r, after, raw, rfl, hbefore, hr⟩

theorem ConfigSetting.not_readable_iff {s : ConfigSetting} {vars : Variables} :
    ¬ s.Readable vars ↔ ∃ raw, vars s.name = some raw ∧ ∀ a, ¬ s.Spells raw a := by
  simp only [ConfigSetting.Readable, Classical.not_forall, exists_prop, not_exists]

theorem exists_firstUnreadable_iff {vars : Variables} {all : List ConfigSetting} :
    (∃ e, FirstUnreadable vars all e) ↔ ¬ ∀ s ∈ all, s.Readable vars := by
  induction all with
  | nil => simp [FirstUnreadable]
  | cons s rest ih =>
    rw [List.forall_mem_cons, not_and_or, ← ih, ConfigSetting.not_readable_iff]
    constructor
    · rintro ⟨e, ⟨raw, hraw, hspells, -⟩ | ⟨-, hrest⟩⟩
      · exact .inl ⟨raw, hraw, hspells⟩
      · exact .inr ⟨e, hrest⟩
    · rintro (⟨raw, hraw, hspells⟩ | ⟨e, hrest⟩)
      · exact ⟨_, .inl ⟨raw, hraw, hspells, rfl⟩⟩
      · by_cases hs : s.Readable vars
        · exact ⟨e, .inr ⟨hs, hrest⟩⟩
        · obtain ⟨raw, hraw, hspells⟩ := ConfigSetting.not_readable_iff.1 hs
          exact ⟨_, .inl ⟨raw, hraw, hspells, rfl⟩⟩

theorem firstUnreadable_text {vars : Variables} {name standard : String} {get : ClientConfig → String}
    {rest : List ConfigSetting}
    {e : ConfigError} : FirstUnreadable vars (.text name standard get :: rest) e ↔ FirstUnreadable vars rest e := by
  have hreadable : (ConfigSetting.text name standard get).Readable vars := fun raw _ => ⟨raw, rfl⟩
  have hnone : ¬ ∃ raw, vars name = some raw ∧ (∀ a : String, ¬ a = raw) ∧ e = .invalidValue name raw :=
    fun ⟨raw, _, hspells, _⟩ => hspells raw rfl
  exact (or_iff_right hnone).trans (and_iff_right hreadable)

namespace Environment

variable {env : Environment} {e : ConfigError} {rest : List ConfigSetting} {x : Except ConfigError ClientConfig}

theorem readable_iff {s : ConfigSetting} {read? : List Char → Option s.Value} (hreads : Reads read? s.Spells)
    (standard : s.Value) : s.Readable env.text? ↔ ∃ a, env.read read? s.name standard = .ok a := by
  unfold ConfigSetting.Readable
  simp only [read_eq_ok_iff hreads]
  cases env.text? s.name <;> simp

/-- **What reads a variable and goes on**: the error is about that variable, or it can be read and the error is one of
the rest. -/
theorem bind_eq_error_iff {s : ConfigSetting} {read? : List Char → Option s.Value} {standard : s.Value}
    {k : s.Value → Except ConfigError ClientConfig} (hreads : Reads read? s.Spells)
    (hrest : ∀ a, k a = .error e ↔ FirstUnreadable env.text? rest e) :
    (env.read read? s.name standard >>= k) = .error e ↔ FirstUnreadable env.text? (s :: rest) e := by
  unfold FirstUnreadable
  rw [← read_eq_error_iff hreads standard, readable_iff hreads standard]
  cases hread : env.read read? s.name standard with
  | error e' =>
    have herror : (Except.error e' >>= k) = .error e' := rfl
    rw [herror]
    simp only [Except.error.injEq, reduceCtorEq, exists_false, false_and, or_false]
  | ok a =>
    have hok : (Except.ok a >>= k) = k a := rfl
    rw [hok, hrest a, or_iff_right nofun, and_iff_right ⟨a, rfl⟩]

variable {name : String}

theorem bind_millis_eq_error_iff {standard : ClientConfig → Duration} {get : ClientConfig → Duration} {d : Duration}
    {k : Duration → Except ConfigError ClientConfig}
    (hrest : ∀ a, k a = .error e ↔ FirstUnreadable env.text? rest e) :
    (env.read millis? name d >>= k) = .error e ↔ FirstUnreadable env.text? (.millis name standard get :: rest) e :=
  bind_eq_error_iff (s := .millis name standard get) reads_millis hrest

theorem bind_flag_eq_error_iff {standard : Bool} {get : ClientConfig → Bool}
    {k : Bool → Except ConfigError ClientConfig} (hrest : ∀ a, k a = .error e ↔ FirstUnreadable env.text? rest e) :
    (env.read flag? name standard >>= k) = .error e ↔ FirstUnreadable env.text? (.flag name standard get :: rest) e :=
  bind_eq_error_iff (s := .flag name standard get) reads_flag hrest

theorem skip_text {standard : String} {get : ClientConfig → String}
    (hrest : x = .error e ↔ FirstUnreadable env.text? rest e) :
    x = .error e ↔ FirstUnreadable env.text? (.text name standard get :: rest) e :=
  hrest.trans firstUnreadable_text.symm

/-! ## The token -/

theorem token_eq_ok_iff {token : String} :
    env.token = .ok token ↔ env.text? "REVOLT_TOKEN" = some token ∧ ¬ IsBlankText token := by
  unfold Environment.token
  cases env.text? "REVOLT_TOKEN" with
  | none => exact iff_of_false nofun nofun
  | some raw =>
    by_cases hblank : IsBlankText raw
    · simp only [if_pos (Text.trimChars_eq_nil_iff.2 hblank)]
      exact iff_of_false nofun fun h => h.2 (Option.some.inj h.1 ▸ hblank)
    · simp only [if_neg (mt Text.trimChars_eq_nil_iff.1 hblank), Except.ok.injEq, Option.some_inj]
      exact ⟨fun h => ⟨h, h ▸ hblank⟩, fun h => h.1⟩

/-- The token is not there, or it is blank. -/
theorem token_eq_error_iff : env.token = .error e ↔
    (env.text? "REVOLT_TOKEN" = none ∧ e = .missingVariable "REVOLT_TOKEN") ∨
      ∃ token, env.text? "REVOLT_TOKEN" = some token ∧ IsBlankText token ∧
        e = .invalidValue "REVOLT_TOKEN" "empty token" := by
  unfold Environment.token
  cases env.text? "REVOLT_TOKEN" with
  | none => simp [eq_comm]
  | some raw =>
    by_cases hblank : IsBlankText raw
    · simp only [if_pos (Text.trimChars_eq_nil_iff.2 hblank)]
      simp [hblank, eq_comm]
    · simp only [if_neg (mt Text.trimChars_eq_nil_iff.1 hblank)]
      simp [hblank]

end Environment

/-! ## Whole environments -/

namespace ClientConfig

variable {env : Environment} {c : ClientConfig} {e : ConfigError}

/-- **With a token, the error is that of the first variable that cannot be read.** -/
theorem ofEnvironment_eq_error_iff {token : String} (htoken : env.token = .ok token) :
    ofEnvironment env = .error e ↔ FirstUnreadable env.text? ConfigSetting.all e := by
  unfold ofEnvironment
  rw [htoken]
  -- a step for each setting, in their order; those that are texts refuse nothing
  refine bind_millis_eq_error_iff fun interval => bind_flag_eq_error_iff fun selfbot =>
    skip_text <| skip_text <| skip_text <| bind_millis_eq_error_iff fun requestTimeout =>
    bind_millis_eq_error_iff fun sweep => skip_text <| bind_millis_eq_error_iff fun timeout =>
    bind_millis_eq_error_iff fun reconnect => bind_flag_eq_error_iff fun users =>
    bind_flag_eq_error_iff fun servers => bind_flag_eq_error_iff fun channels =>
    bind_flag_eq_error_iff fun members => bind_flag_eq_error_iff fun emojis =>
    bind_flag_eq_error_iff fun webhooks => ?_
  exact iff_of_false nofun id

theorem ofEnvironment_of_token_error (htoken : env.token = .error e) : ofEnvironment env = .error e := by
  unfold ofEnvironment
  rw [htoken]
  rfl

/-- **The error is what is wrong with the variables.** -/
theorem ofEnvironment_eq_error_iff_fault : ofEnvironment env = .error e ↔ ConfigFault env.text? e := by
  cases htoken : env.token with
  | error e' =>
    rw [ofEnvironment_of_token_error htoken, Except.error.injEq]
    rcases token_eq_error_iff.1 htoken with ⟨hnone, rfl⟩ | ⟨token, hsome, hblank, rfl⟩
    · constructor
      · rintro rfl
        exact .missing hnone
      · intro hfault
        cases hfault with
        | missing _ => rfl
        | blank hsome _ | unreadable hsome => cases hnone.symm.trans hsome
    · constructor
      · rintro rfl
        exact .blank hsome hblank
      · intro hfault
        cases hfault with
        | missing hnone => cases hnone.symm.trans hsome
        | blank _ _ => rfl
        | unreadable hsome' hfilled =>
          cases hsome.symm.trans hsome'
          exact (hfilled hblank).elim
  | ok token =>
    obtain ⟨hsome, hfilled⟩ := token_eq_ok_iff.1 htoken
    rw [ofEnvironment_eq_error_iff htoken, firstUnreadable_iff]
    constructor
    · rintro ⟨before, s, after, raw, hsettings, hbefore, hraw, hspells, rfl⟩
      exact .unreadable hsome hfilled hsettings hbefore hraw hspells
    · intro hfault
      cases hfault with
      | missing hnone => cases hnone.symm.trans hsome
      | blank hsome' hblank =>
        cases hsome.symm.trans hsome'
        exact (hfilled hblank).elim
      | unreadable _ _ hsettings hbefore hraw hspells => exact ⟨_, _, _, _, hsettings, hbefore, hraw, hspells, rfl⟩

theorem exists_of_bind_eq_ok {α β : Type} {x : Except ConfigError α} {f : α → Except ConfigError β} {b : β}
    (h : (x >>= f) = .ok b) : ∃ a, x = .ok a ∧ f a = .ok b := by
  cases x with
  | error e => cases h
  | ok a => exact ⟨a, rfl, h⟩

theorem holds_text {name standard : String} {get : ClientConfig → String} (h : get c = (env.text? name).getD standard) :
    (ConfigSetting.text name standard get).Holds env.text? c := by
  change match env.text? name with
    | some raw => get c = raw
    | none => get c = standard
  rw [h]
  cases env.text? name <;> rfl

theorem holds_millis {name : String} {standard get : ClientConfig → Duration}
    (h : env.read millis? name (standard c) = .ok (get c)) :
    (ConfigSetting.millis name standard get).Holds env.text? c :=
  (read_eq_ok_iff reads_millis).1 h

theorem holds_flag {name : String} {standard : Bool} {get : ClientConfig → Bool}
    (h : env.read flag? name standard = .ok (get c)) : (ConfigSetting.flag name standard get).Holds env.text? c :=
  (read_eq_ok_iff reads_flag).1 h

/-- **Each setting is what its own variable says.** -/
theorem holds_of_ofEnvironment (h : ofEnvironment env = .ok c) :
    env.token = .ok c.token ∧ c.gateway.outboxCapacity = 64 ∧
    ∀ s ∈ ConfigSetting.all, s.Holds env.text? c := by
  unfold ofEnvironment at h
  obtain ⟨token, htoken, h⟩ := exists_of_bind_eq_ok h
  obtain ⟨interval, hinterval, h⟩ := exists_of_bind_eq_ok h
  obtain ⟨selfbot, hselfbot, h⟩ := exists_of_bind_eq_ok h
  obtain ⟨requestTimeout, hrequestTimeout, h⟩ := exists_of_bind_eq_ok h
  obtain ⟨sweep, hsweep, h⟩ := exists_of_bind_eq_ok h
  obtain ⟨timeout, htimeout, h⟩ := exists_of_bind_eq_ok h
  obtain ⟨reconnect, hreconnect, h⟩ := exists_of_bind_eq_ok h
  obtain ⟨users, husers, h⟩ := exists_of_bind_eq_ok h
  obtain ⟨servers, hservers, h⟩ := exists_of_bind_eq_ok h
  obtain ⟨channels, hchannels, h⟩ := exists_of_bind_eq_ok h
  obtain ⟨members, hmembers, h⟩ := exists_of_bind_eq_ok h
  obtain ⟨emojis, hemojis, h⟩ := exists_of_bind_eq_ok h
  obtain ⟨webhooks, hwebhooks, h⟩ := exists_of_bind_eq_ok h
  cases h
  refine ⟨htoken, rfl, ?_⟩
  unfold ConfigSetting.all
  simp only [List.forall_mem_cons, List.not_mem_nil, false_implies, implies_true, and_true]
  exact ⟨holds_millis hinterval, holds_flag hselfbot, holds_text rfl, holds_text rfl, holds_text rfl,
    holds_millis hrequestTimeout, holds_millis hsweep, holds_text rfl, holds_millis htimeout, holds_millis hreconnect,
    holds_flag husers, holds_flag hservers, holds_flag hchannels, holds_flag hmembers, holds_flag hemojis,
      holds_flag hwebhooks⟩

end ClientConfig

/-! ## A variable of its own for each setting -/

theorem ConfigSetting.Is.unique {s : ConfigSetting} {vars vars' : Variables} {standard standard' a b : s.Value}
    (ha : s.Is vars standard a) (hb : s.Is vars' standard' b) (hvars : vars s.name = vars' s.name)
    (hstandard : vars s.name = none → standard = standard') : a = b := by
  unfold ConfigSetting.Is at ha hb
  rw [← hvars] at hb
  cases hraw : vars s.name with
  | some raw =>
    simp only [hraw] at ha hb
    exact s.spells_unique raw a b ha hb
  | none =>
    simp only [hraw] at ha hb
    rw [ha, hb, hstandard hraw]

/-- The standard values are the same everywhere, but for that of the timeout, which hangs on the interval. -/
theorem standard_eq {c c' : ClientConfig} : ∀ s ∈ ConfigSetting.all,
    (s.name = "REVOLT_HEARTBEAT_TIMEOUT_MS" → c.gateway.heartbeatInterval = c'.gateway.heartbeatInterval) →
      s.standard c = s.standard c' := by
  simpa [ConfigSetting.all, ConfigSetting.heartbeatInterval, ConfigSetting.millis, ConfigSetting.flag,
    ConfigSetting.text] using congrArg Duration.nanos

/-- **Two configurations differ by the variables of their settings only**: a setting whose variable is the same in
both is the same.  The timeout of the pings is the exception: where its variable is not set, it hangs on their
interval. -/
structure DifferByVariables (vars vars' : Variables) (c c' : ClientConfig) : Prop where
  token : vars "REVOLT_TOKEN" = vars' "REVOLT_TOKEN" → c.token = c'.token
  setting : ∀ s ∈ ConfigSetting.all, vars s.name = vars' s.name →
    (s.name = "REVOLT_HEARTBEAT_TIMEOUT_MS" → vars s.name = none →
      c.gateway.heartbeatInterval = c'.gateway.heartbeatInterval) →
    s.get c = s.get c'

/-- **What variables make of a configuration.**

There is one exactly if the token is there and not blank and all variables that are set can be read.  Then each
setting is what its own variable says.  Twice the interval of the pings, which is the standard value of their timeout,
never goes beyond the longest span.  An error is what is wrong with the variables first. -/
structure FollowsVariables (vars : Variables) (result : Except ConfigError ClientConfig) : Prop where
  ok_iff : (∃ c, result = .ok c) ↔
    (∃ token, vars "REVOLT_TOKEN" = some token ∧ ¬ IsBlankText token) ∧ ∀ s ∈ ConfigSetting.all, s.Readable vars
  holds : ∀ c, result = .ok c →
    vars "REVOLT_TOKEN" = some c.token ∧ c.gateway.outboxCapacity = 64 ∧ ∀ s ∈ ConfigSetting.all, s.Holds vars c
  doubles : ∀ interval, ConfigSetting.heartbeatInterval.Is vars (.ofSecs 30) interval →
    interval.add? interval = some ⟨interval.nanos * 2⟩
  error_iff : ∀ e, result = .error e ↔ ConfigFault vars e

theorem add?_self_of_millis {n : Nat} (h : n < UInt64.size) :
    (Duration.ofMillis n).add? (.ofMillis n) = some ⟨(Duration.ofMillis n).nanos * 2⟩ := by
  have hmax : Duration.max.nanos = 18446744073709551616 * 1000000000 - 1 := rfl
  have hsize : UInt64.size = 18446744073709551616 := rfl
  have hnanos : (Duration.ofMillis n).nanos = n * 1000000 := rfl
  rw [Duration.add?, if_pos (by omega), Nat.mul_two]

theorem add?_self_of_is {vars : Variables} {interval : Duration}
    (h : ConfigSetting.heartbeatInterval.Is vars (.ofSecs 30) interval) :
    interval.add? interval = some ⟨interval.nanos * 2⟩ := by
  unfold ConfigSetting.Is at h
  split at h
  · obtain ⟨sign, digits, -, -, -, -, hsize, rfl⟩ := h
    exact add?_self_of_millis hsize
  · cases h
    decide

namespace ClientConfig

variable {env : Environment}

theorem exists_ofEnvironment_eq_ok_iff : (∃ c, ofEnvironment env = .ok c) ↔
    (∃ token, env.text? "REVOLT_TOKEN" = some token ∧ ¬ IsBlankText token) ∧
      ∀ s ∈ ConfigSetting.all, s.Readable env.text? := by
  simp only [← token_eq_ok_iff]
  cases htoken : env.token with
  | error e =>
    rw [ofEnvironment_of_token_error htoken]
    exact iff_of_false nofun nofun
  | ok token =>
    -- with a token, there is a configuration exactly if no variable is the first that cannot be read
    rw [and_iff_right ⟨token, rfl⟩, ← not_iff_not, ← exists_firstUnreadable_iff]
    simp only [← ofEnvironment_eq_error_iff htoken]
    cases ofEnvironment env <;> simp

theorem followsVariables (env : Environment) : FollowsVariables env.text? (ofEnvironment env) where
  ok_iff := exists_ofEnvironment_eq_ok_iff
  holds c h := by
    obtain ⟨htoken, hcapacity, hsettings⟩ := holds_of_ofEnvironment h
    exact ⟨(token_eq_ok_iff.1 htoken).1, hcapacity, hsettings⟩
  doubles _ h := add?_self_of_is h
  error_iff _ := ofEnvironment_eq_error_iff_fault

theorem differByVariables {vars vars' : Variables} {result result' : Except ConfigError ClientConfig}
    (h : FollowsVariables vars result) (h' : FollowsVariables vars' result') {c c' : ClientConfig} (hc : result = .ok c)
    (hc' : result' = .ok c') : DifferByVariables vars vars' c c' := by
  obtain ⟨htoken, -, hsettings⟩ := h.holds c hc
  obtain ⟨htoken', -, hsettings'⟩ := h'.holds c' hc'
  refine ⟨fun hsame => ?_, fun s hs hsame hinterval => ?_⟩
  · rw [htoken, htoken'] at hsame
    exact Option.some.inj hsame
  · exact (hsettings s hs).unique (hsettings' s hs) hsame fun hunset => standard_eq s hs fun htimeout =>
      hinterval htimeout hunset

/-- **A configuration from the environment**: every environment is read as its variables say, whatever texts they
hold; two configurations differ in the settings of their own variables only, and no variable is that of two settings. -/
theorem ofEnvironment_byVariables :
    (∀ env, FollowsVariables env.text? (ofEnvironment env)) ∧
      (∀ texts : Table String, (ofTexts texts).text? = fun name => texts[name]?) ∧
      (∀ env env' c c', ofEnvironment env = .ok c → ofEnvironment env' = .ok c' →
        DifferByVariables env.text? env'.text? c c') ∧
      ("REVOLT_TOKEN" :: ConfigSetting.all.map (·.name)).Nodup :=
  ⟨followsVariables, fun texts => funext (text?_ofTexts texts),
    fun env env' _ _ hc hc' => differByVariables (followsVariables env) (followsVariables env') hc hc', by decide⟩

end ClientConfig

end ChatClient
