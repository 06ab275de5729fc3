import ChatClient.Proofs.Http.Signing
import ChatClient.Proofs.RateLimit.Headers
import ChatClient.Proofs.Text.Utf8
/-!
# Settings of a transport

The headers of a transport are a map from names in lower case to values, and its timeout is a value within bounds.
Both are read off the log of what was asked and answered: a name has the value that was stored under it last, if none
was taken away since, and the timeout is the one accepted last (`HttpClient.KeepsSettings`).  What was refused has
left no trace, so that the log without it leads to the same transport.
-/
namespace ChatClient

open Std (ExtTreeMap)

inductive Setting where
  | edit (edit : HeaderEdit)
  | timeout (timeout : Duration)

/-- What comes of it; a removal tells whether there was something to take away. -/
inductive SettingReply where
  | done
  | removed (was : Bool)
  | refused (error : RequestError)
deriving DecidableEq, Repr

def SettingReply.isRefused : SettingReply → Bool
  | .refused _ => true
  | _ => false

abbrev SettingLog : Type :=
  List (Setting × SettingReply)

namespace SettingLog

def stored? : Setting × SettingReply → Option (String × String)
  | (.edit (.add name value), .done) | (.edit (.set name value), .done) => some (Header.lower name, value)
  | _ => none

def taken? : Setting × SettingReply → Option String
  | (.edit (.remove name), _) => some (Header.lower name)
  | _ => none

def accepted? : Setting × SettingReply → Option Duration
  | (.timeout timeout, .done) => some timeout
  | _ => none

/-- **The value that a name has**: it was stored under the name, and since then no other was, nor was it taken away. -/
def Holds (log : SettingLog) (key value : String) : Prop :=
  ∃ before e after, log = before ++ e :: after ∧ stored? e = some (key, value) ∧
    ∀ later ∈ after, (∀ value, stored? later ≠ some (key, value)) ∧ taken? later ≠ some key

def Present (log : SettingLog) (key : String) : Prop :=
  ∃ value, log.Holds key value

def IsField (name value : String) : Prop :=
  (Header.name? name).isSome = true ∧ (Header.value? value).isSome = true

def InBounds (timeout : Duration) : Prop :=
  1000000000 ≤ timeout.nanos ∧ timeout.nanos ≤ 300000000000

/-- **What is answered, given what was asked and answered before.** -/
def Answers (log : SettingLog) : Setting → SettingReply → Prop
  | .edit (.add name value), reply =>
    (reply = .done ↔ IsField name value ∧ ¬log.Present (Header.lower name)) ∧
      (reply = .refused (.headerExists (Header.lower name)) ↔ IsField name value ∧ log.Present (Header.lower name)) ∧
      (reply = .refused (.invalidHeader name) ↔ ¬IsField name value)
  | .edit (.set name value), reply =>
    (reply = .done ↔ IsField name value) ∧ (reply = .refused (.invalidHeader name) ↔ ¬IsField name value)
  | .edit (.remove name), reply =>
    (reply = .removed true ↔ log.Present (Header.lower name)) ∧
      (reply = .removed false ↔ ¬log.Present (Header.lower name))
  | .timeout timeout, reply =>
    (reply = .done ↔ InBounds timeout) ∧ (reply = .refused (.invalidTimeout timeout) ↔ ¬InBounds timeout)

def opening (config : HttpConfig) : SettingLog :=
  [(.timeout config.requestTimeout, .done), (.edit (.set "user-agent" config.userAgent), .done)]

variable {log : SettingLog} {key name value : String}

/-! ## One entry more -/

theorem not_holds_nil : ¬Holds [] key value := by
  rintro ⟨before, e, after, hlog, -⟩
  cases before <;> cases hlog

theorem holds_append (e : Setting × SettingReply) :
    Holds (log ++ [e]) key value ↔
      stored? e = some (key, value) ∨ log.Holds key value ∧ (∀ value, stored? e ≠ some (key, value)) ∧
        taken? e ≠ some key :=
  exists_split_append log e

theorem holds_stored {e : Setting × SettingReply} (hstored : stored? e = some (name, value)) (htaken : taken? e = none)
    (key held : String) : Holds (log ++ [e]) key held ↔ if name = key then held = value else log.Holds key held := by
  rw [holds_append, hstored, htaken]
  by_cases h : name = key
  · simp [h, eq_comm]
  · simp [h]

theorem holds_taken {e : Setting × SettingReply} (hstored : stored? e = none) (htaken : taken? e = some name)
    (key held : String) : Holds (log ++ [e]) key held ↔ name ≠ key ∧ log.Holds key held := by
  rw [holds_append, hstored, htaken]
  simp [and_comm]

theorem holds_still {e : Setting × SettingReply} (hstored : stored? e = none) (htaken : taken? e = none)
    (key held : String) : Holds (log ++ [e]) key held ↔ log.Holds key held := by
  rw [holds_append, hstored, htaken]
  simp

end SettingLog

open SettingLog (Holds Present IsField InBounds Answers)

namespace Header

theorem bytes_of_shown {cs : List Char} (h : ∀ c ∈ cs, Shown c) :
    Text.Utf8.bytes cs = cs.map fun c => UInt8.ofNat c.toNat := by
  induction cs with
  | nil => rfl
  | cons c cs ih =>
    obtain ⟨hc, hcs⟩ := List.forall_mem_cons.1 h
    have hascii : c.toNat ≤ 0x7f := by
      unfold Shown at hc
      omega
    have hone : String.utf8EncodeChar c = [UInt8.ofNat c.toNat] := by simp [String.utf8EncodeChar, hascii]
    rw [Text.Utf8.bytes_cons, hone, ih hcs, List.map_cons, List.singleton_append]

/-- The bytes of a text can be shown exactly if its characters can, and then what is shown is the text. -/
theorem visibleText?_encode {value text : String} :
    visibleText? (Text.Utf8.encode value) = some text ↔ value = text ∧ ∀ c ∈ text.toList, Shown c := by
  have hiff := @visibleText?_eq_some_iff (Text.Utf8.encode value) text.toList
  rw [String.ofList_toList] at hiff
  rw [hiff, Text.Utf8.encode_eq]
  refine and_congr_left fun hshown => ?_
  rw [← bytes_of_shown hshown, Text.Utf8.bytes_inj, String.toList_inj]

end Header

/-! ## The table -/

namespace HeaderTable

/-- A name and a value make a field exactly if headers may have both. -/
theorem field_of_isField {name value : String} (h : IsField name value) :
    field name value = .ok ⟨Header.lower name, Text.Utf8.encode value⟩ := by
  obtain ⟨hname, hvalue⟩ := h
  unfold Header.name? at hname
  unfold Header.value? at hvalue
  split at hname
  · rename_i hn
    split at hvalue
    · rename_i hv
      simp only [field, Header.name?, Header.value?, if_pos hn, if_pos hv]
    · cases hvalue
  · cases hname

theorem field_of_not_isField {name value : String} (h : ¬IsField name value) :
    field name value = .error (.invalidHeader name) := by
  unfold field
  split
  · rename_i n v hname hvalue
    exact absurd ⟨by rw [hname]; rfl, by rw [hvalue]; rfl⟩ h
  · rfl

/-- **A table agrees with a log** if it has, under each name, the bytes of the value that the name has. -/
def Agrees (t : HeaderTable) (log : SettingLog) : Prop :=
  ∀ key bytes, t.entries[key]? = some bytes ↔ ∃ value, log.Holds key value ∧ Text.Utf8.encode value = bytes

variable {t : HeaderTable} {log : SettingLog} {name value : String} {e : Setting × SettingReply}

theorem agrees_empty : empty.Agrees [] := by
  intro key bytes
  have hnone : empty.entries[key]? = none := ExtTreeMap.getElem?_empty
  rw [hnone]
  refine iff_of_false nofun ?_
  rintro ⟨value, hholds, -⟩
  exact SettingLog.not_holds_nil hholds

theorem Agrees.mem_iff (h : t.Agrees log) (key : String) : key ∈ t.entries ↔ log.Present key := by
  rw [← ExtTreeMap.isSome_getElem?_iff_mem, Option.isSome_iff_exists]
  constructor
  · rintro ⟨bytes, hbytes⟩
    obtain ⟨value, hholds, -⟩ := (h key bytes).1 hbytes
    exact ⟨value, hholds⟩
  · rintro ⟨value, hholds⟩
    exact ⟨_, (h key _).2 ⟨value, hholds, rfl⟩⟩

theorem Agrees.still (h : t.Agrees log) (hstored : SettingLog.stored? e = none) (htaken : SettingLog.taken? e = none) :
    t.Agrees (log ++ [e]) := by
  intro key bytes
  rw [h key bytes]
  simp only [SettingLog.holds_still hstored htaken]

theorem Agrees.insert (h : t.Agrees log) (hstored : SettingLog.stored? e = some (name, value))
    (htaken : SettingLog.taken? e = none) :
    Agrees ⟨t.entries.insert name (Text.Utf8.encode value)⟩ (log ++ [e]) := by
  intro key bytes
  simp only [ExtTreeMap.getElem?_insert, SettingLog.holds_stored hstored htaken, Std.LawfulEqCmp.compare_eq_iff_eq]
  by_cases hkey : name = key
  · simp [hkey]
  · simp only [if_neg hkey]
    exact h key bytes

theorem Agrees.erase (h : t.Agrees log) (hstored : SettingLog.stored? e = none)
    (htaken : SettingLog.taken? e = some name) : Agrees ⟨t.entries.erase name⟩ (log ++ [e]) := by
  intro key bytes
  simp only [ExtTreeMap.getElem?_erase, SettingLog.holds_taken hstored htaken, Std.LawfulEqCmp.compare_eq_iff_eq]
  by_cases hkey : name = key
  · simp [hkey]
  · simp only [ne_eq, hkey, if_false, not_false_eq_true, true_and]
    exact h key bytes

theorem Agrees.shown?_eq_some_iff (h : t.Agrees log) (name text : String) :
    t.shown? name = some text ↔ log.Holds (Header.lower name) text ∧ ∀ c ∈ text.toList, Header.Shown c := by
  unfold shown?
  rw [Option.bind_eq_some_iff]
  constructor
  · rintro ⟨bytes, hbytes, hshown⟩
    obtain ⟨value, hholds, rfl⟩ := (h _ _).1 hbytes
    obtain ⟨rfl, hvisible⟩ := Header.visibleText?_encode.1 hshown
    exact ⟨hholds, hvisible⟩
  · rintro ⟨hholds, hvisible⟩
    exact ⟨_, (h _ _).2 ⟨text, hholds, rfl⟩, Header.visibleText?_encode.2 ⟨rfl, hvisible⟩⟩

end HeaderTable

/-! ## Transports -/

namespace HttpClient

def settle (c : HttpClient) : Except RequestError HttpClient → HttpClient × SettingReply
  | .ok c' => (c', .done)
  | .error e => (c, .refused e)

def adjust (c : HttpClient) : Setting → HttpClient × SettingReply
  | .edit (.add name value) => c.settle (c.addHeader name value)
  | .edit (.set name value) => c.settle (c.setHeader name value)
  | .edit (.remove name) => ((c.removeHeader name).1, .removed (c.removeHeader name).2)
  | .timeout timeout => c.settle (c.setTimeout timeout)

/-- **A transport in use and the log of its settings.** -/
inductive Adjusted : HttpClient → SettingLog → Prop where
  | ofConfig {credentials : Credentials} {config : HttpConfig} {now : Instant} {c : HttpClient} :
      HttpClient.ofConfig credentials config now = .ok c → Adjusted c (SettingLog.opening config)
  | adjust {c : HttpClient} {log : SettingLog} {s : Setting} :
      Adjusted c log → Adjusted (c.adjust s).1 (log ++ [(s, (c.adjust s).2)])
  | execute {c : HttpClient} {log : SettingLog} {network : Network} {now : Instant} {method destination : String}
      {body : Option Json} : Adjusted c log → Adjusted (c.execute network now method destination body).client log
  | tick {c : HttpClient} {log : SettingLog} {now : Instant} : Adjusted c log → Adjusted (c.tick now) log
  | close {c : HttpClient} {log : SettingLog} : Adjusted c log → Adjusted c.close log

variable {c : HttpClient} {log : SettingLog}

theorem checkTimeout_of_inBounds {timeout : Duration} (h : InBounds timeout) : checkTimeout timeout = .ok timeout :=
  if_pos h

theorem checkTimeout_of_not_inBounds {timeout : Duration} (h : ¬InBounds timeout) :
    checkTimeout timeout = .error (.invalidTimeout timeout) :=
  if_neg h

structure Tracks (c : HttpClient) (log : SettingLog) : Prop where
  agrees : c.headers.Agrees log
  inBounds : InBounds c.timeout
  accepted : (log.filterMap SettingLog.accepted?).getLast? = some c.timeout

theorem Tracks.unaccepted (h : c.Tracks log) {e : Setting × SettingReply} (he : SettingLog.accepted? e = none) :
    ((log ++ [e]).filterMap SettingLog.accepted?).getLast? = some c.timeout := by
  rw [List.filterMap_append, List.filterMap_cons_none he, List.filterMap_nil, List.append_nil]
  exact h.accepted

theorem Tracks.still (h : c.Tracks log) {e : Setting × SettingReply} (hstored : SettingLog.stored? e = none)
    (htaken : SettingLog.taken? e = none) (haccepted : SettingLog.accepted? e = none) : c.Tracks (log ++ [e]) :=
  ⟨h.agrees.still hstored htaken, h.inBounds, h.unaccepted haccepted⟩

/-- A setting that is answered by what was asked and answered before, and leaves a transport that tracks the longer
log. -/
def Heeds (c : HttpClient) (log : SettingLog) (s : Setting) : Prop :=
  log.Answers s (c.adjust s).2 ∧ (c.adjust s).1.Tracks (log ++ [(s, (c.adjust s).2)])

theorem Tracks.add (h : c.Tracks log) (name value : String) : c.Heeds log (.edit (.add name value)) := by
  unfold Heeds
  by_cases hfield : IsField name value
  · by_cases hpresent : log.Present (Header.lower name)
    · have hmem := (h.agrees.mem_iff (Header.lower name)).2 hpresent
      have hadjust : c.adjust (.edit (.add name value)) = (c, .refused (.headerExists (Header.lower name))) := by
        simp [HttpClient.adjust, addHeader, HeaderTable.add, HeaderTable.field_of_isField hfield, hmem, settle]
      rw [hadjust]
      exact ⟨by simp [SettingLog.Answers, hfield, hpresent], h.still rfl rfl rfl⟩
    · have hmem := mt (h.agrees.mem_iff (Header.lower name)).1 hpresent
      have hadjust : c.adjust (.edit (.add name value)) =
          ({ c with headers := ⟨c.headers.entries.insert (Header.lower name) (Text.Utf8.encode value)⟩ }, .done) := by
        simp [HttpClient.adjust, addHeader, HeaderTable.add, HeaderTable.field_of_isField hfield, hmem, settle]
      rw [hadjust]
      exact ⟨by simp [SettingLog.Answers, hfield, hpresent], h.agrees.insert rfl rfl, h.inBounds, h.unaccepted rfl⟩
  · have hadjust : c.adjust (.edit (.add name value)) = (c, .refused (.invalidHeader name)) := by
      simp [HttpClient.adjust, addHeader, HeaderTable.add, HeaderTable.field_of_not_isField hfield, settle]
    rw [hadjust]
    exact ⟨by simp [SettingLog.Answers, hfield], h.still rfl rfl rfl⟩

theorem Tracks.set (h : c.Tracks log) (name value : String) : c.Heeds log (.edit (.set name value)) := by
  unfold Heeds
  by_cases hfield : IsField name value
  · have hadjust : c.adjust (.edit (.set name value)) =
        ({ c with headers := ⟨c.headers.entries.insert (Header.lower name) (Text.Utf8.encode value)⟩ }, .done) := by
      simp [HttpClient.adjust, setHeader, HeaderTable.set, HeaderTable.field_of_isField hfield, settle]
    rw [hadjust]
    exact ⟨by simp [SettingLog.Answers, hfield], h.agrees.insert rfl rfl, h.inBounds, h.unaccepted rfl⟩
  · have hadjust : c.adjust (.edit (.set name value)) = (c, .refused (.invalidHeader name)) := by
      simp [HttpClient.adjust, setHeader, HeaderTable.set, HeaderTable.field_of_not_isField hfield, settle]
    rw [hadjust]
    exact ⟨by simp [SettingLog.Answers, hfield], h.still rfl rfl rfl⟩

theorem Tracks.remove (h : c.Tracks log) (name : String) : c.Heeds log (.edit (.remove name)) := by
  have hmem := h.agrees.mem_iff (Header.lower name)
  refine ⟨?_, h.agrees.erase rfl rfl, h.inBounds, h.unaccepted rfl⟩
  simp [SettingLog.Answers, HttpClient.adjust, removeHeader, HeaderTable.remove, hmem]

theorem Tracks.setTimeout (h : c.Tracks log) (timeout : Duration) : c.Heeds log (.timeout timeout) := by
  unfold Heeds
  by_cases hbounds : InBounds timeout
  · have hadjust : c.adjust (.timeout timeout) = ({ c with timeout }, .done) := by
      simp [HttpClient.adjust, HttpClient.setTimeout, checkTimeout_of_inBounds hbounds, settle]
    rw [hadjust]
    exact ⟨by simp [SettingLog.Answers, hbounds], h.agrees.still rfl rfl, hbounds, by simp [SettingLog.accepted?]⟩
  · have hadjust : c.adjust (.timeout timeout) = (c, .refused (.invalidTimeout timeout)) := by
      simp [HttpClient.adjust, HttpClient.setTimeout, checkTimeout_of_not_inBounds hbounds, settle]
    rw [hadjust]
    exact ⟨by simp [SettingLog.Answers, hbounds], h.still rfl rfl rfl⟩

/-- **Every setting is heeded.** -/
theorem Tracks.heeds (h : c.Tracks log) (s : Setting) : c.Heeds log s := by
  match s with
  | .edit (.add name value) => exact h.add name value
  | .edit (.set name value) => exact h.set name value
  | .edit (.remove name) => exact h.remove name
  | .timeout timeout => exact h.setTimeout timeout

theorem settle_of_refused {result : Except RequestError HttpClient} (h : (c.settle result).2.isRefused = true) :
    (c.settle result).1 = c := by
  cases result with
  | ok c' => cases h
  | error e => rfl

theorem adjust_of_refused {s : Setting} (h : (c.adjust s).2.isRefused = true) : (c.adjust s).1 = c := by
  match s with
  | .edit (.add _ _) => exact settle_of_refused h
  | .edit (.set _ _) => exact settle_of_refused h
  | .edit (.remove _) => cases h
  | .timeout _ => exact settle_of_refused h

/-! ## Transports in use -/

theorem checkTimeout_of_ofConfig {credentials : Credentials} {config : HttpConfig} {now : Instant}
    (h : HttpClient.ofConfig credentials config now = .ok c) : checkTimeout config.requestTimeout = .ok c.timeout := by
  unfold HttpClient.ofConfig at h
  simp only [bind, Except.bind, pure, Except.pure] at h
  split at h
  · cases h
  rename_i timeout htimeout
  split at h
  · cases h
  split at h
  · cases h
  split at h
  · cases h
  cases h
  exact htimeout

/-- A new transport has the timeout and the one header of its configuration, and both are as they may be. -/
theorem tracks_ofConfig {credentials : Credentials} {config : HttpConfig} {now : Instant}
    (h : HttpClient.ofConfig credentials config now = .ok c) :
    InBounds config.requestTimeout ∧ IsField "user-agent" config.userAgent ∧ c.Tracks (SettingLog.opening config) := by
  have htimeout := checkTimeout_of_ofConfig h
  have hheaders := (ofConfig_eq_ok h).2.2.2
  by_cases hbounds : InBounds config.requestTimeout
  · rw [checkTimeout_of_inBounds hbounds, Except.ok.injEq] at htimeout
    by_cases hfield : IsField "user-agent" config.userAgent
    · simp only [HeaderTable.set, HeaderTable.field_of_isField hfield, Except.ok.injEq] at hheaders
      have hagrees : c.headers.Agrees (SettingLog.opening config) := by
        rw [← hheaders]
        exact (HeaderTable.agrees_empty.still rfl rfl).insert rfl rfl
      exact ⟨hbounds, hfield, hagrees, htimeout ▸ hbounds, congrArg some htimeout⟩
    · simp only [HeaderTable.set, HeaderTable.field_of_not_isField hfield] at hheaders
      cases hheaders
  · rw [checkTimeout_of_not_inBounds hbounds] at htimeout
    cases htimeout

/-- **The settings of a transport, by the log of what was asked and answered.**

Each answer is the one that the log before it asks for.  The table has under each name the bytes of the value that the
name has, and shows the value under any spelling of the name exactly if it can be shown.  The timeout is the one
accepted last, and within bounds.  A setting that is refused changes nothing, so that without those the same transport
would have come about. -/
structure KeepsSettings (c : HttpClient) (log : SettingLog) : Prop where
  answered : AtEach (fun before e => SettingLog.Answers before e.1 e.2) log
  fields : ∀ key bytes, c.headers.entries[key]? = some bytes ↔
    ∃ value, log.Holds key value ∧ Text.Utf8.encode value = bytes
  shown : ∀ name text, c.headers.shown? name = some text ↔
    log.Holds (Header.lower name) text ∧ ∀ ch ∈ text.toList, Header.Shown ch
  accepted : (log.filterMap SettingLog.accepted?).getLast? = some c.timeout
  inBounds : InBounds c.timeout
  refused : ∀ s, (c.adjust s).2.isRefused = true → (c.adjust s).1 = c
  unrefused : Adjusted c (log.filter fun e => !e.2.isRefused)

theorem Adjusted.tracks (h : Adjusted c log) :
    AtEach (fun before e => SettingLog.Answers before e.1 e.2) log ∧ c.Tracks log := by
  induction h with
  | ofConfig h =>
    obtain ⟨hbounds, hfield, htracks⟩ := tracks_ofConfig h
    refine ⟨(AtEach.nil.concat ?_).concat ?_, htracks⟩
    · simp [SettingLog.Answers, hbounds]
    · simp [SettingLog.Answers, hfield]
  | @adjust c log s _ ih =>
    obtain ⟨hanswered, htracks⟩ := ih
    obtain ⟨hanswer, hlater⟩ := htracks.heeds s
    exact ⟨hanswered.concat hanswer, hlater⟩
  | @execute c log network now method destination body _ ih =>
    obtain ⟨hanswered, htracks⟩ := ih
    obtain ⟨limiter, hclient⟩ := c.exists_limiter_execute network now method destination body
    rw [hclient]
    exact ⟨hanswered, htracks.agrees, htracks.inBounds, htracks.accepted⟩
  | tick _ ih => exact ⟨ih.1, ih.2.agrees, ih.2.inBounds, ih.2.accepted⟩
  | close _ ih => exact ⟨ih.1, ih.2.agrees, ih.2.inBounds, ih.2.accepted⟩

theorem Adjusted.unrefused (h : Adjusted c log) : Adjusted c (log.filter fun e => !e.2.isRefused) := by
  induction h with
  | ofConfig h => exact .ofConfig h
  | @adjust c log s _ ih =>
    rw [List.filter_append]
    by_cases hrefused : (c.adjust s).2.isRefused = true
    · rw [adjust_of_refused hrefused, List.filter_cons_of_neg (by simp [hrefused]), List.filter_nil, List.append_nil]
      exact ih
    · rw [List.filter_cons_of_pos (by simp [hrefused]), List.filter_nil]
      exact ih.adjust
  | execute _ ih => exact ih.execute
  | tick _ ih => exact ih.tick
  | close _ ih => exact ih.close

theorem Adjusted.keepsSettings (h : Adjusted c log) : c.KeepsSettings log := by
  obtain ⟨hanswered, htracks⟩ := h.tracks
  exact ⟨hanswered, htracks.agrees, htracks.agrees.shown?_eq_some_iff, htracks.accepted, htracks.inBounds,
    fun _ => adjust_of_refused, h.unrefused⟩

def adjustAll (c : HttpClient) : List Setting → HttpClient × SettingLog
  | [] => (c, [])
  | s :: settings =>
    let (later, log) := adjustAll (c.adjust s).1 settings
    (later, (s, (c.adjust s).2) :: log)

theorem Adjusted.adjustAll (h : Adjusted c log) (settings : List Setting) :
    Adjusted (c.adjustAll settings).1 (log ++ (c.adjustAll settings).2) := by
  induction settings generalizing c log with
  | nil =>
    rw [HttpClient.adjustAll, List.append_nil]
    exact h
  | cons s settings ih =>
    have hrest := ih (h.adjust (s := s))
    rw [List.append_assoc] at hrest
    exact hrest

/-- A header that is added twice and then set, each time in another spelling, one that is taken away twice, and a
timeout that is too short before one that is as long as it may be. -/
def repeatedSettings : List Setting :=
  [.edit (.add "X-Trace" "one"), .edit (.add "x-trace" "two"), .edit (.set "bad header" "x"),
    .edit (.set "X-TRACE" "two"), .timeout (.ofMillis 999), .timeout (.ofSecs 300),
    .edit (.remove "User-Agent"), .edit (.remove "user-agent")]

theorem keepsSettings_repeatedSettings :
    ∃ c log, Adjusted c log ∧ c.KeepsSettings log ∧
      log.map (·.2) = [.done, .done, .done, .refused (.headerExists "x-trace"),
        .refused (.invalidHeader "bad header"), .done, .refused (.invalidTimeout (.ofMillis 999)), .done,
        .removed true, .removed false] ∧
      c.headers.shown? "x-Trace" = some "two" ∧ c.headers.shown? "user-agent" = none ∧ c.timeout = .ofSecs 300 := by
  have hok : ((HttpClient.ofConfig (.bot "token") {} ⟨0⟩).toOption.any fun c =>
      let (c, log) := c.adjustAll repeatedSettings
      (SettingLog.opening {} ++ log).map (·.2) =
          [.done, .done, .done, .refused (.headerExists "x-trace"), .refused (.invalidHeader "bad header"), .done,
            .refused (.invalidTimeout (.ofMillis 999)), .done, .removed true, .removed false] ∧
        c.headers.shown? "x-Trace" = some "two" ∧ c.headers.shown? "user-agent" = none ∧ c.timeout = .ofSecs 300) =
          true := by
    decide +kernel
  cases hc : HttpClient.ofConfig (.bot "token") {} ⟨0⟩ with
  | error e =>
    rw [hc] at hok
    cases hok
  | ok c =>
    rw [hc, Except.toOption, Option.any_some] at hok
    have hadjusted := (Adjusted.ofConfig hc).adjustAll repeatedSettings
    exact ⟨_, _, hadjusted, hadjusted.keepsSettings, of_decide_eq_true hok⟩

end HttpClient
end ChatClient
