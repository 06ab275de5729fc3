import ChatClient.Proofs.Http.Calls
import ChatClient.Rest.Call
/-!
# Calls that are wrong in themselves

A call is looked at before anything is done about it.  One that is wrong in itself (`RestCall.Valid` says which are
not) fails with what is wrong, and leaves no trace: nothing is sent, and the transport is as it was.  Any other is
handed to the transport once, with all that it carries (`RestCall.checkedFirst`).
-/
namespace ChatClient

/-! ## What is wrong with a call -/

/-- A content that messages have: of at least one and at most two thousand characters. -/
def Message.Fits (content : String) : Prop :=
  1 ≤ content.length ∧ content.length ≤ 2000

namespace RestCall

/-- **A call that is not wrong in itself**: the content of a message fits and it has at most five replies; an edit's
content fits, if it has one. -/
def Valid : RestCall → Prop
  | .sendMessage _ message => Message.Fits message.content ∧ message.replies.length ≤ 5
  | .editMessage _ _ edit => ∀ content, edit.content = some content → Message.Fits content
  | _ => True

theorem contentIssues_eq_nil_iff {content : String} : Message.contentIssues content = [] ↔ Message.Fits content := by
  unfold Message.contentIssues Message.Fits Message.maxLength
  split <;> simp_all

theorem issues_eq_nil_iff (call : RestCall) : call.issues = [] ↔ call.Valid := by
  cases call with
  | sendMessage channelId message =>
    rw [issues, SendMessage.issues, List.append_eq_nil_iff, contentIssues_eq_nil_iff, Valid, Message.maxReplies]
    refine and_congr_right fun _ => ?_
    split <;> simp_all
  | editMessage channelId messageId edit =>
    rw [issues, EditMessage.issues, Valid]
    cases edit.content with
    | none => simp
    | some content => simp [contentIssues_eq_nil_iff]
  | _ => simp [issues, Valid]

end RestCall

/-! ## What a call carries -/

def MessageReply.written (reply : MessageReply) : Json :=
  .object [("id", .string reply.id), ("mention", .bool reply.mention)]

def Json.ofText? : Option String → Json
  | some text => .string text
  | none => .null

def Masquerade.written (masquerade : Masquerade) : Json :=
  .object [("name", .ofText? masquerade.name), ("avatar", .ofText? masquerade.avatar),
    ("colour", .ofText? masquerade.colour)]

theorem Masquerade.write_eq (masquerade : Masquerade) : Wire.write masquerade = masquerade.written := by
  obtain ⟨name, avatar, colour⟩ := masquerade
  cases name <;> cases avatar <;> cases colour <;> rfl

/-- **What the body of a message's request carries**: the nonce, the content, and the replies and the masquerade if
there are any; each once and nothing else. -/
structure SendMessage.Carried (message : SendMessage) (nonce : String) (body : Json) : Prop where
  object : ∃ members, body = .object members ∧
    members.map Prod.fst = ["nonce", "content"] ++ (if message.replies = [] then [] else ["replies"]) ++
      if message.masquerade = none then [] else ["masquerade"]
  nonce : body.get? "nonce" = some (.string (message.nonce.getD nonce))
  content : body.get? "content" = some (.string message.content)
  replies : body.get? "replies" =
    if message.replies = [] then none else some (.array (message.replies.map MessageReply.written))
  masquerade : body.get? "masquerade" = message.masquerade.map Masquerade.written

theorem SendMessage.write_withNonce (message : SendMessage) (nonce : String) :
    Wire.write (message.withNonce nonce) = .object
      ([("nonce", .string (message.nonce.getD nonce)), ("content", .string message.content)] ++
        (if message.replies = [] then [] else [("replies", .array (message.replies.map MessageReply.written))]) ++
          (message.masquerade.map fun masquerade => ("masquerade", masquerade.written)).toList) := by
  obtain ⟨nonce?, content, replies, masquerade⟩ := message
  cases replies with
  | nil =>
    cases masquerade with
    | none => rfl
    | some masquerade => simp only [Option.map_some, ← Masquerade.write_eq]; rfl
  | cons reply replies =>
    cases masquerade with
    | none => rfl
    | some masquerade => simp only [Option.map_some, ← Masquerade.write_eq]; rfl

theorem SendMessage.carried (message : SendMessage) (nonce : String) :
    message.Carried nonce (Wire.write (message.withNonce nonce)) := by
  rw [write_withNonce]
  constructor
  · refine ⟨_, rfl, ?_⟩
    cases message.masquerade <;> by_cases h : message.replies = [] <;> simp [h]
  all_goals cases message.masquerade <;> by_cases h : message.replies = [] <;> simp [Json.get?, Json.lookup?, h]

namespace RestCall

/-- **What the body of a call's request carries**: what the message or the edit has to say, and nothing where there is
neither. -/
def Carries (nonce : String) (body? : Option Json) : RestCall → Prop
  | .sendMessage _ message => ∃ body, body? = some body ∧ message.Carried nonce body
  | .editMessage _ _ edit =>
      body? = some (.object (edit.content.toList.map fun content => ("content", .string content)))
  | _ => body? = none

theorem carries_body? (call : RestCall) (nonce : String) : call.Carries nonce (call.body? nonce) := by
  cases call with
  | sendMessage channelId message => exact ⟨_, rfl, message.carried nonce⟩
  | editMessage channelId messageId edit =>
    obtain ⟨content⟩ := edit
    cases content <;> rfl
  | _ => rfl

end RestCall

/-! ## What comes of a call -/

namespace RestOutcome

def client (o : RestOutcome) (c : HttpClient) : HttpClient :=
  (o.exchange.map Exchange.client).getD c

def sent (o : RestOutcome) : Option Request :=
  o.exchange.bind Exchange.request

end RestOutcome

namespace RestCall

variable {call : RestCall}

theorem run_of_not_valid (h : ¬call.Valid) (c : HttpClient) (network : Network) (now : Instant) (nonce : String) :
    call.run c network now nonce = ⟨none, .error (.validation call.issues)⟩ := by
  rw [← issues_eq_nil_iff] at h
  unfold run
  split
  · rename_i hnone
    exact absurd hnone h
  · rfl

theorem run_of_valid (h : call.Valid) (c : HttpClient) (network : Network) (now : Instant) (nonce : String) :
    call.run c network now nonce =
      let x := c.execute network now call.method call.endpoint.path (call.body? nonce)
      ⟨some x, call.result x.result⟩ := by
  rw [← issues_eq_nil_iff] at h
  unfold run
  rw [h]

/-- What comes back for a request is never taken for a fault of the call. -/
theorem result_ne_validation (call : RestCall) (result : Except RequestError (List UInt8))
    (issues : List ValidationIssue) : call.result result ≠ .error (.validation issues) := by
  unfold RestCall.result
  cases result with
  | error e => nofun
  | ok bytes =>
    dsimp only
    split <;> nofun

/-- **What comes of a call**: it fails for what is wrong with it exactly if it is not valid, and then nothing is sent
and the limits are as they were.  Otherwise, if its path leads to a URL, one request for it is handed to the network,
if the network takes it at all. -/
structure CheckedFirst (call : RestCall) (c : HttpClient) (network : Network) (now : Instant)
    (nonce : String) : Prop where
  rejected : (∃ issues, (call.run c network now nonce).result = .error (.validation issues)) ↔ ¬call.Valid
  unsent : ¬call.Valid → (call.run c network now nonce).sent = none
  untouched : ¬call.Valid → (call.run c network now nonce).client c = c
  sent : call.Valid → ∀ url, c.resolve call.endpoint.path = .ok url →
    ∃ body?, call.Carries nonce body? ∧
      (call.run c network now nonce).sent =
        if HttpClient.canSend (c.request call.method url body?) then some (c.request call.method url body?) else none

theorem checkedFirst (call : RestCall) (c : HttpClient) (network : Network) (now : Instant) (nonce : String) :
    call.CheckedFirst c network now nonce where
  rejected := by
    constructor
    · rintro ⟨issues, h⟩ hvalid
      rw [run_of_valid hvalid] at h
      exact result_ne_validation _ _ _ h
    · intro h
      exact ⟨call.issues, by rw [run_of_not_valid h]⟩
  unsent h := by
    rw [run_of_not_valid h]
    rfl
  untouched h := by
    rw [run_of_not_valid h]
    rfl
  sent h url hurl := by
    refine ⟨call.body? nonce, call.carries_body? nonce, ?_⟩
    rw [run_of_valid h]
    exact HttpCall.request_of_ok (r := ⟨c, network, now, call.method, call.endpoint.path, call.body? nonce⟩) hurl

end RestCall

end ChatClient
