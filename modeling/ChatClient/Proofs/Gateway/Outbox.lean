import ChatClient.Gateway.Shared
import ChatClient.Proofs.Dispatch.Leaves
import ChatClient.Proofs.Gateway.Path
/-!
# What a step does to the outbox

There is an outbox exactly as long as there is a socket (`Gateway.Wired`).  A step does one of nine things with it
(`Gateway.Handling`): it begins a new one or drops it, leaves it as it is, takes in a message of the owner, those of
observers or a ping, or lets a ping wait, or writes from it, whereupon a ping that waits may come in.
-/
namespace ChatClient

namespace Pulse

mutual

theorem route_blocked (now : Instant) : ∀ (p : Pulse) (e : Event),
    (Link.online (route now p e).1.beat).blocked? = (Link.online p.beat).blocked?
  | p, e => by
    cases e with
    | bulk events =>
      rw [route]
      exact routeAll_blocked now p events
    | authenticated => cases hp : p.beat <;> simp [route, start, hp, Link.blocked?]
    | pong pong => simp [route, Pulse.pong]
    | _ => simp [route]

theorem routeAll_blocked (now : Instant) : ∀ (p : Pulse) (es : List Event),
    (Link.online (routeAll now p es).1.beat).blocked? = (Link.online p.beat).blocked?
  | p, [] => by rw [routeAll]
  | p, e :: es => by
    rw [routeAll, ← route_blocked now p e]
    exact routeAll_blocked now _ es

end

end Pulse

namespace Outbox

theorem offer_eq_ok {o o' : Outbox} {m : ClientMessage} (h : offer (some o) m = .ok o') :
    o' = { o with accepted := o.accepted ++ [m] } := by
  unfold offer at h
  dsimp only at h
  split at h
  · cases h
    rfl
  · cases h

theorem write?_eq_some {o o' : Outbox} {m : ClientMessage} (h : o.write? = some (m, o')) :
    o.accepted[o.written]? = some m ∧ o' = { o with written := o.written + 1 } := by
  obtain ⟨m', hm, heq⟩ := Option.map_eq_some_iff.1 h
  cases heq
  rw [waiting, List.head?_drop] at hm
  exact ⟨hm, rfl⟩

theorem offerAll_of_ok {outbox? : Option Outbox} {o : Outbox} {m : ClientMessage} {ms : List ClientMessage}
    (h : offer outbox? m = .ok o) : offerAll outbox? (m :: ms) = offerAll (some o) ms := by
  rw [offerAll, List.foldl_cons, h]
  rfl

theorem offerAll_of_error {outbox? : Option Outbox} {e : GatewayError} {m : ClientMessage} {ms : List ClientMessage}
    (h : offer outbox? m = .error e) : offerAll outbox? (m :: ms) = offerAll outbox? ms := by
  rw [offerAll, List.foldl_cons, h]
  rfl

theorem offerAll_isSome (o : Outbox) (ms : List ClientMessage) : (offerAll (some o) ms).isSome = true := by
  induction ms generalizing o with
  | nil => rfl
  | cons m ms ih =>
    cases hoffer : offer (some o) m with
    | ok o' =>
      rw [offerAll_of_ok hoffer]
      exact ih o'
    | error e =>
      rw [offerAll_of_error hoffer]
      exact ih o

end Outbox

theorem Link.hasSocket_online (beat : Option Beat) : (Link.online beat).state.hasSocket = true := by
  cases beat <;> rfl

namespace Gateway

variable {ρ : Type} {g g' : Gateway ρ} {now : Instant} {input : GatewayInput} {notices : List Notice}

/-- There is an outbox as long as there is a socket. -/
structure Wired (g : Gateway ρ) : Prop where
  sound : g.Sound
  socket : g.isAttached = g.state.hasSocket

theorem wired_ofConfig (token : String) (config : GatewayConfig) (cache : Cache) (registry : Registry ρ) :
    (ofConfig token config (.ofCache cache registry)).Wired :=
  ⟨sound_ofConfig token config _, rfl⟩

theorem isAttached_of_some {o : Outbox} (ho : g.dispatcher.outbox = some o) : g.isAttached = true := by
  rw [isAttached, ho]
  rfl

theorem isAttached_of_none (ho : g.dispatcher.outbox = none) : g.isAttached = false := by
  rw [isAttached, ho]
  rfl

theorem outbox_of_isAttached (h : g.isAttached = false) : g.dispatcher.outbox = none :=
  Option.not_isSome_iff_eq_none.1 (Bool.eq_false_iff.1 h)

theorem Wired.attached (h : g.Wired) {beat : Option Beat} (hlink : g.link = .online beat) :
    ∃ o, g.dispatcher.outbox = some o := by
  have hsocket := h.socket
  rw [state, hlink, Link.hasSocket_online] at hsocket
  exact Option.isSome_iff_exists.1 hsocket

theorem Wired.detached (h : g.Wired) (hlink : g.link.state.hasSocket = false) : g.dispatcher.outbox = none := by
  have hsocket := h.socket
  rw [state, hlink] at hsocket
  exact outbox_of_isAttached hsocket

/-- What is said of commands, of the socket and of the outbox is all that matters. -/
theorem Wired.of_same (h : g.Wired) (hopened : g'.isOpened = g.isOpened) (hclosed : g'.isClosed = g.isClosed)
    (hidle : g'.link = .idle ↔ g.link = .idle) (hattached : g'.isAttached = g.isAttached)
    (hsocket : g'.state.hasSocket = g.state.hasSocket) : g'.Wired where
  sound := by
    refine ⟨fun hc => ?_, fun ho => ?_, fun ho hlink => ?_⟩
    · exact hidle.2 (h.sound.closed (hclosed ▸ hc))
    · exact hidle.2 (h.sound.unopened (hopened ▸ ho))
    · exact hclosed ▸ h.sound.idle (hopened ▸ ho) (hidle.1 hlink)
  socket := by rw [hattached, hsocket, h.socket]

/-- **What a step does to the outbox** of a gateway, what becomes of the ping that waits, and what is noticed of it. -/
inductive Handling (g : Gateway ρ) (now : Instant) : GatewayInput → Gateway ρ → List Notice → Prop where
  | begun {g' : Gateway ρ} : g.dispatcher.outbox = none →
      g'.dispatcher.outbox = some (.ofCapacity g.config.outboxCapacity) →
      g'.link = .online none → Handling g now .handshake g' [.entered .authenticating, .wrote (.authenticate g.token)]
  | dropped {input : GatewayInput} {g' : Gateway ρ} {notices : List Notice} : g'.dispatcher.outbox = none →
      g'.link.state.hasSocket = false → (∀ m, input ≠ .send m) → (input = .clock → g.isAttached = true) →
      (∀ m, .wrote m ∉ notices) → Handling g now input g' notices
  | left {input : GatewayInput} {g' : Gateway ρ} {notices : List Notice} : g'.dispatcher.outbox = g.dispatcher.outbox →
      g'.link.state.hasSocket = g.link.state.hasSocket → g'.link.blocked? = g.link.blocked? →
        (∀ m, input ≠ .send m) →
      (input = .clock → g.drawn? now = none) → (∀ m, .wrote m ∉ notices) → Handling g now input g' notices
  | sent {m : ClientMessage} {o : Outbox} : Outbox.offer g.dispatcher.outbox m = .ok o →
      Handling g now (.send m) (g.withOutbox (some o)) [.accepted m]
  | refused {m : ClientMessage} {e : GatewayError} : Outbox.offer g.dispatcher.outbox m = .error e →
      Handling g now (.send m) g [.refused m e]
  | heard {frame : Frame} {g' : Gateway ρ} {notices : List Notice} {ms : List ClientMessage} {beat : Option Beat} :
      g.link = .online beat → g'.dispatcher.outbox = Outbox.offerAll g.dispatcher.outbox ms →
      g'.link.state.hasSocket = true → g'.link.blocked? = g.link.blocked? → Handling g now (.frame frame) g' notices
  | ticked {g' : Gateway ρ} {m : ClientMessage} {o : Outbox} {beat : Option Beat} : g.link = .online beat →
      g.link.blocked? = none →
      g.drawn? now = some m → Outbox.offer g.dispatcher.outbox m = .ok o → g'.dispatcher.outbox = some o →
      g'.link.state.hasSocket = true → g'.link.blocked? = none → Handling g now .clock g' []
  | stalled {g' : Gateway ρ} {m : ClientMessage} {beat : Option Beat} : g.link = .online beat →
      g.link.blocked? = none →
      g.drawn? now = some m → g'.dispatcher.outbox = g.dispatcher.outbox → g'.link.state.hasSocket = true →
      g'.link.blocked? = some m → Handling g now .clock g' []
  | wrote {g' : Gateway ρ} {m : ClientMessage} {o o' : Outbox} {beat : Option Beat} : g.link = .online beat →
      g.dispatcher.outbox = some o → o.write? = some (m, o') → g'.dispatcher.outbox = some o' →
      g'.link.state.hasSocket = true → g'.link.blocked? = g.link.blocked? → Handling g now .write g' [.wrote m]
  | refilled {g' : Gateway ρ} {m ping : ClientMessage} {o o' o'' : Outbox} {beat : Option Beat} :
      g.link = .online beat → g.dispatcher.outbox = some o → o.write? = some (m, o') → g.link.blocked? = some ping →
      Outbox.offer (some o') ping = .ok o'' → g'.dispatcher.outbox = some o'' → g'.link.state.hasSocket = true →
      g'.link.blocked? = none → Handling g now .write g' [.wrote m]

/-! ## Each operation -/

theorem wrote_not_mem_entering (link link' : Link) (m : ClientMessage) : .wrote m ∉ entering link link' :=
  fun hm => nomatch eq_of_mem_entering hm

theorem Handling.idle (hsend : ∀ m, input ≠ .send m) (hclock : input = .clock → g.drawn? now = none) :
    Handling g now input g [] :=
  .left rfl rfl rfl hsend hclock fun _ hm => nomatch hm

theorem handling_launch (h : g.Wired) (now : Instant) (hasRuntime : Bool) :
    Handling g now (.launch hasRuntime) (g.launch hasRuntime).1 (g.launch hasRuntime).2 := by
  unfold launch
  cases hrefusal : g.refusal? hasRuntime with
  | some e => exact .left rfl rfl rfl (fun _ => nofun) nofun (by simp)
  | none =>
    -- a gateway that can be opened was never dialled
    obtain ⟨-, -, hopened⟩ := refusal?_eq_none hrefusal
    have hidle := h.sound.unopened hopened
    dsimp only
    rw [move_eq]
    refine .left rfl ?_ ?_ (fun _ => nofun) nofun ?_
    · rw [hidle]
      rfl
    · rw [hidle]
      rfl
    · simp [wrote_not_mem_entering]

theorem handling_close (g : Gateway ρ) (now : Instant) : Handling g now .close g.close.1 g.close.2 := by
  unfold close
  rw [move_eq]
  exact .dropped rfl rfl (fun _ => nofun) nofun (wrote_not_mem_entering _ _)

theorem handling_rest (hsend : ∀ m, input ≠ .send m) (hclock : input = .clock → g.isAttached = true) :
    Handling g now input (g.rest now).1 (g.rest now).2 := by
  unfold rest
  rw [move_eq]
  exact .dropped rfl rfl hsend hclock (wrote_not_mem_entering _ _)

theorem handling_send (g : Gateway ρ) (now : Instant) (m : ClientMessage) :
    Handling g now (.send m) (g.send m).1 (g.send m).2 := by
  unfold send
  cases hoffer : Outbox.offer g.dispatcher.outbox m with
  | ok o => exact .sent hoffer
  | error e => exact .refused hoffer

theorem handling_handshake (h : g.Wired) (hlink : g.link = .dialing) :
    Handling g now .handshake g.handshake.1 g.handshake.2 := by
  have hnone : g.dispatcher.outbox = none := h.detached (by rw [hlink]; rfl)
  unfold handshake
  rw [move_eq]
  dsimp only
  rw [hlink]
  exact .begun hnone rfl rfl

theorem handling_take {frame : Frame} {beat : Option Beat} (hlink : g.link = .online beat)
    (reports : List Diagnostic) (e : Event) :
    Handling g now (.frame frame) ((g.withReports reports).take now beat e).1
      ((g.withReports reports).take now beat e).2 := by
  unfold take
  simp only [move_eq, withReports]
  refine .heard hlink (Dispatcher.accounts_dispatch _ _ _).outbox (Link.hasSocket_online _) ?_
  rw [hlink]
  exact Pulse.route_blocked now ⟨g.heartbeat, beat⟩ e

theorem handling_read {frame : Frame} {beat : Option Beat} (hlink : g.link = .online beat) (bytes : List UInt8) :
    Handling g now (.frame frame) (g.read now beat bytes).1 (g.read now beat bytes).2 := by
  unfold read
  dsimp only
  cases (Event.ofBytes bytes).leniently.2 with
  | some e => exact handling_take hlink _ e
  | none => exact .left rfl rfl rfl (fun _ => nofun) nofun fun _ hm => nomatch hm

theorem handling_receive {beat : Option Beat} (hlink : g.link = .online beat) (frame : Frame) :
    Handling g now (.frame frame) (g.receive now beat frame).1 (g.receive now beat frame).2 := by
  unfold receive
  cases frame with
  | text bytes =>
    dsimp only
    split
    · exact handling_read hlink bytes
    · exact handling_rest (fun _ => nofun) nofun
  | binary bytes => exact handling_read hlink bytes
  | control => exact .idle (fun _ => nofun) nofun
  | close => exact handling_rest (fun _ => nofun) nofun

theorem ping_of_ok (ticker : Ticker) {data : Nat} {o : Outbox}
    (hoffer : Outbox.offer g.dispatcher.outbox (.pingOf data) = .ok o) :
    (g.ping ticker data).dispatcher.outbox = some o ∧ (g.ping ticker data).link = .online (some ⟨ticker, none⟩) := by
  unfold ping
  rw [← ClientMessage.pingOf, hoffer]
  exact ⟨rfl, rfl⟩

theorem ping_of_error (ticker : Ticker) {data : Nat} {e : GatewayError}
    (hoffer : Outbox.offer g.dispatcher.outbox (.pingOf data) = .error e) :
    (g.ping ticker data).dispatcher.outbox = g.dispatcher.outbox ∧
      (g.ping ticker data).link = .online (some ⟨ticker, some data⟩) := by
  unfold ping
  rw [← ClientMessage.pingOf, hoffer]
  exact ⟨rfl, rfl⟩

theorem handling_tick (h : g.Wired) {ticker : Ticker} (hlink : g.link = .online (some ⟨ticker, none⟩))
    (hdue : ticker.isDue now = true) : Handling g now .clock (g.tick now ticker).1 (g.tick now ticker).2 := by
  have hblocked : g.link.blocked? = none := by rw [hlink]; rfl
  unfold tick
  cases hoverdue : g.heartbeat.isOverdue now with
  | true =>
    rw [if_pos rfl]
    exact handling_rest (fun _ => nofun) fun _ => Option.isSome_iff_exists.2 (h.attached hlink)
  | false =>
    have hdrawn : g.drawn? now = some (.pingOf (g.heartbeat.nextPing now).2) := by
      simp [drawn?, hlink, hdue, hoverdue]
    rw [if_neg Bool.false_ne_true]
    dsimp only
    generalize hbeating : { g with heartbeat := (g.heartbeat.nextPing now).1 } = beating
    have hsame : beating.dispatcher.outbox = g.dispatcher.outbox := by rw [← hbeating]
    cases hoffer : Outbox.offer g.dispatcher.outbox (.pingOf (g.heartbeat.nextPing now).2) with
    | ok o =>
      obtain ⟨hout, hto⟩ := ping_of_ok (ticker.tick now) (hsame ▸ hoffer)
      exact .ticked hlink hblocked hdrawn hoffer hout (by rw [hto]; rfl) (by rw [hto]; rfl)
    | error e =>
      obtain ⟨hout, hto⟩ := ping_of_error (ticker.tick now) (hsame ▸ hoffer)
      exact .stalled hlink hblocked hdrawn (hout.trans hsame) (by rw [hto]; rfl) (by rw [hto]; rfl)

theorem handling_write {beat : Option Beat} (hlink : g.link = .online beat) :
    Handling g now .write (g.write beat).1 (g.write beat).2 := by
  unfold write
  cases hwrite : g.dispatcher.outbox.bind Outbox.write? with
  | none => exact .idle (fun _ => nofun) nofun
  | some written =>
    obtain ⟨m, o'⟩ := written
    obtain ⟨o, ho, hwritten⟩ := Option.bind_eq_some_iff.1 hwrite
    have hsocket := Link.hasSocket_online beat
    dsimp only
    split
    · rename_i ticker data
      have hblocked : g.link.blocked? = some (.pingOf data) := by rw [hlink]; rfl
      have hout' : (g.withOutbox (some o')).dispatcher.outbox = some o' := rfl
      cases hoffer : Outbox.offer (some o') (.pingOf data) with
      | ok o'' =>
        obtain ⟨hout, hto⟩ := ping_of_ok ticker (hout' ▸ hoffer)
        exact .refilled hlink ho hwritten hblocked hoffer hout (by rw [hto]; rfl) (by rw [hto]; rfl)
      | error e =>
        obtain ⟨hout, hto⟩ := ping_of_error ticker (hout' ▸ hoffer)
        exact .wrote hlink ho hwritten (hout.trans hout') (by rw [hto]; rfl) (by rw [hto, hblocked]; rfl)
    · exact .wrote hlink ho hwritten rfl (by rw [← hlink] at hsocket; exact hsocket) rfl

/-- **A step does one of these things to the outbox**, whatever the input. -/
theorem handling_step (h : g.Wired) (now : Instant) (input : GatewayInput) :
    Handling g now input (g.step now input).1 (g.step now input).2 := by
  unfold step
  split
  case h_1 _ hasRuntime => exact handling_launch h now hasRuntime
  case h_2 => exact handling_close g now
  case h_3 _ m => exact handling_send g now m
  case h_4 => exact handling_rest (fun _ => nofun) nofun
  case h_5 hlink => exact handling_handshake h hlink
  case h_6 frame beat hlink => exact handling_receive hlink frame
  case h_7 => exact handling_rest (fun _ => nofun) nofun
  case h_8 beat hlink => exact handling_write hlink
  case h_9 ticker hlink =>
    split
    · rename_i hdue
      exact handling_tick h hlink hdue
    · rename_i hdue
      exact .idle (fun _ => nofun) fun _ => by simp [drawn?, hlink, hdue]
  case h_10 deadline hlink =>
    have hdrawn : g.drawn? now = none := by simp [drawn?, hlink]
    split
    · rw [move_eq]
      exact .left rfl (by rw [hlink]; rfl) (by rw [hlink]; rfl) (fun _ => nofun) (fun _ => hdrawn)
        (wrote_not_mem_entering _ _)
    · exact .idle (fun _ => nofun) fun _ => hdrawn
  case h_11 _ _ hsend _ _ _ _ _ hclock _ =>
    -- any other input at any other place of the link comes to nothing
    refine .idle hsend fun hinput => ?_
    unfold drawn?
    split
    · rename_i ticker hlink
      exact (hclock ticker hinput hlink).elim
    · rfl

/-! ## What every step keeps -/

theorem Handling.socket (hhandling : Handling g now input g' notices) (h : g.Wired) :
    g'.isAttached = g'.state.hasSocket := by
  unfold isAttached state
  cases hhandling with
  | begun _ hout hlink => rw [hout, hlink]; rfl
  | dropped hout hlink => rw [hout, hlink]; rfl
  | left hout hlink =>
    rw [hout, hlink]
    exact h.socket
  | sent hoffer =>
    have hattached : g.isAttached = true := by
      cases hout : g.dispatcher.outbox with
      | some o => exact isAttached_of_some hout
      | none =>
        rw [hout] at hoffer
        cases hoffer
    exact hattached.symm.trans h.socket
  | refused _ => exact h.socket
  | heard hlink hout hsocket =>
    obtain ⟨o, ho⟩ := h.attached hlink
    rw [hout, ho, hsocket]
    exact Outbox.offerAll_isSome _ _
  | ticked _ _ _ _ hout hsocket => rw [hout, hsocket]; rfl
  | stalled hlink _ _ hout hsocket =>
    obtain ⟨o, ho⟩ := h.attached hlink
    rw [hout, ho, hsocket]
    rfl
  | wrote _ _ _ hout hsocket => rw [hout, hsocket]; rfl
  | refilled _ _ _ _ _ hout hsocket => rw [hout, hsocket]; rfl

theorem wired_step (h : g.Wired) (now : Instant) (input : GatewayInput) : (g.step now input).1.Wired :=
  ⟨sound_step h.sound now input, (handling_step h now input).socket h⟩

theorem token_ping (g : Gateway ρ) (ticker : Ticker) (data : Nat) : (g.ping ticker data).token = g.token := by
  unfold ping
  split <;> rfl

theorem token_read (g : Gateway ρ) (now : Instant) (beat : Option Beat) (bytes : List UInt8) :
    (g.read now beat bytes).1.token = g.token := by
  unfold read
  dsimp only
  split <;> rfl

theorem token_receive (g : Gateway ρ) (now : Instant) (beat : Option Beat) (frame : Frame) :
    (g.receive now beat frame).1.token = g.token := by
  unfold receive
  cases frame with
  | text bytes =>
    dsimp only
    split
    · exact token_read g now beat bytes
    · rfl
  | binary bytes => exact token_read g now beat bytes
  | _ => rfl

theorem token_write (g : Gateway ρ) (beat : Option Beat) : (g.write beat).1.token = g.token := by
  unfold write
  split
  · rfl
  · dsimp only
    split
    · exact token_ping _ _ _
    · rfl

theorem token_step (g : Gateway ρ) (now : Instant) (input : GatewayInput) : (g.step now input).1.token = g.token := by
  unfold step
  split
  case h_1 =>
    unfold launch
    split <;> rfl
  case h_3 =>
    unfold send
    split <;> rfl
  case h_6 => exact token_receive _ _ _ _
  case h_8 => exact token_write _ _
  case h_9 =>
    unfold tick
    split
    · split
      · rfl
      · exact token_ping _ _ _
    · rfl
  case h_10 => split <;> rfl
  all_goals rfl

end Gateway

end ChatClient
