/-
The order of the events of `TcpBackend`.

A peer handler announces the streams it reads, and keeps a list of them of its own.
`Connected` is sent before the handler is spawned and `Disconnected` is the last that
the handler says; the loop answers `CreateStream` and `CloseStream` by itself.
-/
import GameSockets.StreamHistory
import GameSockets.Tcp.Reachable

namespace GameSockets
namespace Tcp

open Library Handover

/-! ## One handler -/

namespace PeerHandler

/-- What an action of the handler of `uuid` does to stream `st` of connection `c`. -/
def act (uuid c : Uuid) (st : GameStream) (h : PeerHandler) : HandlerAction → Option StreamAct
  | .decode =>
    match decodeFrame h.readBuf with
    | .frame bytes _ =>
      if 2 ≤ bytes.length then receiptAct uuid (getU16 (bytes.take 2)) h.knownStreams c st
      else none
    | _ => none
  | _ => none

/-- The events of one step say of a stream what the step does to it. -/
theorem step_marks {uuid : Uuid} {h h' : PeerHandler} {b : HandlerAction}
    {events : List GameNetworkEvent} (hstep : h.step uuid b = some (h', events)) (c : Uuid)
    (st : GameStream) :
    streamMarks c st events = (h.act uuid c st b).toList.flatMap StreamAct.marks := by
  cases steps_of_step hstep with
  | read => rfl
  | @frame bytes rest known events hphase hdecode hreceive =>
    simp only [act, hdecode]
    unfold receive at hreceive
    dsimp only at hreceive
    split at hreceive
    · next hlen =>
      rw [if_pos hlen]
      split at hreceive
      · next hid =>
        cases hreceive
        exact marks_receive uuid hid _ c st
      · next hid =>
        cases hreceive
        exact marks_receiveNew uuid hid _ c st
    · next hlen =>
      cases hreceive
      rw [if_neg hlen]
      rfl
  | tooLong hphase hdecode =>
    simp only [act, hdecode]
    rfl
  | hangUp => rfl
  | refuse => rfl
  | take => rfl
  | write => rfl
  | writeFail => rfl

/-- What a step of a handler says, and what it makes of the handler's streams. -/
inductive Says (uuid : Uuid) (h h' : PeerHandler) : List GameNetworkEvent → Prop where
  | nothing (hknown : h'.knownStreams = h.knownStreams) (hphase : h'.phase ≠ .closed) :
    Says uuid h h' []
  | goodbye (hknown : h'.knownStreams = h.knownStreams) (hphase : h'.phase = .closed) :
    Says uuid h h' [.disconnected uuid]
  | again {id : UInt16} {data : Bytes} (hknown : h'.knownStreams = h.knownStreams)
    (hid : id ∈ h.knownStreams) (hphase : h'.phase ≠ .closed) :
    Says uuid h h' [.message uuid { streamId := id } data]
  | first {id : UInt16} {data : Bytes} (hknown : h'.knownStreams = h.knownStreams ++ [id])
    (hphase : h'.phase ≠ .closed) :
    Says uuid h h'
      [.streamCreated uuid { streamId := id }, .message uuid { streamId := id } data]

theorem says_of_step {uuid : Uuid} {h h' : PeerHandler} {b : HandlerAction}
    {events : List GameNetworkEvent} (hstep : h.step uuid b = some (h', events)) :
    h.phase ≠ .closed ∧ Says uuid h h' events := by
  have open_of : ∀ {phase : HandlerPhase}, h.phase = phase → phase ≠ .closed →
      h.phase ≠ .closed := fun heq hne => heq ▸ hne
  cases steps_of_step hstep with
  | read hphase => exact ⟨open_of hphase (by simp), .nothing rfl (open_of hphase (by simp))⟩
  | @frame bytes rest known events hphase hdecode hreceive =>
    have hopen := open_of hphase (by simp)
    refine ⟨hopen, ?_⟩
    unfold receive at hreceive
    dsimp only at hreceive
    split at hreceive
    · split at hreceive
      · next hid =>
        cases hreceive
        exact .again rfl hid hopen
      · cases hreceive
        exact .first rfl hopen
    · cases hreceive
      exact .nothing rfl hopen
  | tooLong hphase => exact ⟨open_of hphase (by simp), .goodbye rfl rfl⟩
  | hangUp hphase => exact ⟨open_of hphase (by simp), .goodbye rfl rfl⟩
  | refuse hphase => exact ⟨open_of hphase (by simp), .nothing rfl (open_of hphase (by simp))⟩
  | take hphase => exact ⟨open_of hphase (by simp), .nothing rfl (by simp)⟩
  | write hphase =>
    refine ⟨open_of hphase (by simp), .nothing rfl ?_⟩
    dsimp only
    split <;> simp
  | writeFail hphase => exact ⟨open_of hphase (by simp), .nothing rfl (by simp)⟩

theorem offer_keeps {h h' : PeerHandler} {p : Bytes} (hoffer : h.offer p = some h') :
    h'.phase = h.phase ∧ h'.knownStreams = h.knownStreams := by
  unfold offer at hoffer
  split at hoffer
  · cases hoffer
    exact ⟨rfl, rfl⟩
  · split at hoffer
    · cases hoffer
      exact ⟨rfl, rfl⟩
    · cases hoffer

end PeerHandler

namespace TcpBackend

/-! ## What is done to a stream -/

/-- What an action does to stream `st` of connection `c`. -/
def act (c : Uuid) (st : GameStream) (s : TcpBackend) : Action → Option StreamAct
  | .command _ => s.peer.cmdTx.recv.bind fun (cmd, _) => cmd.act c st
  | .handler uuid b => (s.handlers uuid).bind fun h => h.act uuid c st b
  | _ => none

/-- What the actions do to each stream. -/
def history (actions : List Action) (c : Uuid) (st : GameStream) : List StreamAct :=
  Run.observe step (fun s a => (act c st s a).toList) init actions

/-- What a step says, by the party that takes it. -/
inductive Voices (s t : TcpBackend) : Action → List GameNetworkEvent → Prop where
  | silent {a : Action} (hother : ∀ uuid b, a ≠ .handler uuid b)
    (hact : ∀ c st, act c st s a = none) : Voices s t a []
  | command {env : CommandEnv} {cmd : BackendCommand} {tx : Channel BackendCommand}
    {new : List GameNetworkEvent} (hrecv : s.peer.cmdTx.recv = some (cmd, tx))
    (hmarks : ∀ c st, streamMarks c st new = (cmd.act c st).toList.flatMap StreamAct.marks)
    (hquiet : ∀ e ∈ new, e.delivered = none ∧ ∀ u, e ≠ .disconnected u) :
    Voices s t (.command env) new
  | announce {k : Nat} {uuid : Uuid} : Voices s t (.announce k uuid) [.connected uuid]
  | handler {uuid : Uuid} {b : HandlerAction} {h h' : PeerHandler}
    {events : List GameNetworkEvent} (hs : s.handlers uuid = some h)
    (ht : t.handlers uuid = some h') (hb : h.step uuid b = some (h', events)) :
    Voices s t (.handler uuid b) events

theorem step_voices {s t : TcpBackend} {a : Action} (hstep : s.step a = some t) :
    ∃ new, t.peer.eventRx.log = s.peer.eventRx.log ++ new ∧ Voices s t a new := by
  cases steps_of_step hstep with
  | issue => exact ⟨[], (List.append_nil _).symm, .silent (by simp) fun c st => rfl⟩
  | poll hrecv =>
    refine ⟨[], ?_, .silent (by simp) fun c st => rfl⟩
    rw [List.append_nil]
    exact Channel.log_recv hrecv
  | register => exact ⟨[], (List.append_nil _).symm, .silent (by simp) fun c st => rfl⟩
  | @command env cmd tx t _ hrecv hcommand =>
    have mute : ∀ {u : TcpBackend}, u.peer.eventRx = s.peer.eventRx →
        (∀ c st, cmd.act c st = none) →
          ∃ new, u.peer.eventRx.log = s.peer.eventRx.log ++ new ∧
            Voices s u (.command env) new := by
      intro u hrx hact
      refine ⟨[], by rw [hrx, List.append_nil], .command hrecv (fun c st => ?_) (by simp)⟩
      rw [hact]
      rfl
    cases hcommand with
    | bind => exact mute rfl fun c st => rfl
    | bindFails => exact mute rfl fun c st => rfl
    | connect =>
      refine ⟨_, Channel.log_sendAll _ _, .command hrecv (fun c st => rfl) ?_⟩
      simp [GameNetworkEvent.delivered]
    | connectFails =>
      refine ⟨_, Channel.log_sendAll _ _, .command hrecv (fun c st => rfl) ?_⟩
      simp [GameNetworkEvent.delivered]
    | send => exact mute (by rw [peer_push]) fun c st => rfl
    | drop => exact mute rfl fun c st => rfl
    | shutdown => exact mute rfl fun c st => rfl
    | @createStream c' i r =>
      refine ⟨_, Channel.log_sendAll _ _,
        .command hrecv (fun c st => marks_createStream c st c' i r) ?_⟩
      simp [GameNetworkEvent.delivered]
    | @closeStream c' i =>
      refine ⟨_, Channel.log_sendAll _ _,
        .command hrecv (fun c st => marks_closeStream c st c' i) ?_⟩
      simp [GameNetworkEvent.delivered]
  | resume => exact ⟨[], (List.append_nil _).symm, .silent (by simp) fun c st => rfl⟩
  | announce => exact ⟨_, Channel.log_sendAll _ _, .announce⟩
  | spawn => exact ⟨[], (List.append_nil _).symm, .silent (by simp) fun c st => rfl⟩
  | handOver => exact ⟨[], (List.append_nil _).symm, .silent (by simp) fun c st => rfl⟩
  | handler _ hhandler hb =>
    exact ⟨_, Channel.log_sendAll _ _, .handler hhandler (handlers_setHandler_self _ _ _) hb⟩

/-- The events of one step say of a stream what the step does to it. -/
theorem step_marks {s t : TcpBackend} {a : Action} (hstep : s.step a = some t) :
    ∃ new, t.peer.eventRx.log = s.peer.eventRx.log ++ new ∧
      ∀ c st, streamMarks c st new = (act c st s a).toList.flatMap StreamAct.marks := by
  obtain ⟨new, hlog, hvoice⟩ := step_voices hstep
  refine ⟨new, hlog, fun c st => ?_⟩
  cases hvoice with
  | silent _ hact =>
    rw [hact]
    rfl
  | command hrecv hmarks =>
    rw [hmarks, act, hrecv]
    rfl
  | announce => rfl
  | handler hhandler _ hb =>
    rw [PeerHandler.step_marks hb, act, hhandler, Option.bind_some]

theorem enacts_of_run {actions : List Action} {s : TcpBackend}
    (hrun : Run.run step init actions = some s) :
    Enacts (history actions) s.peer.eventRx.log := by
  have hstep : ∀ (s : TcpBackend) a t, s.step a = some t →
      ∃ new, t.peer.eventRx.log = s.peer.eventRx.log ++ new ∧
        ∀ c st, streamMarks c st new = (act c st s a).toList.flatMap StreamAct.marks :=
    fun _ _ _ => step_marks
  exact enacts_of_steps hstep rfl hrun

/-! ## Every message is introduced -/

/-- What a step that says `new` can do to the handler of a connection, as far as its
streams and its end go. -/
inductive Moves (s t : TcpBackend) (c : Uuid) (new : List GameNetworkEvent) : Prop where
  | absent (hs : s.handlers c = none) (ht : t.handlers c = none) (hquiet : .disconnected c ∉ new)
  | spawned (hs : s.handlers c = none) (ht : t.handlers c = some PeerHandler.new)
    (hquiet : .disconnected c ∉ new)
  | kept {h h' : PeerHandler} (hs : s.handlers c = some h) (ht : t.handlers c = some h')
    (hphase : h'.phase = h.phase) (hknown : h'.knownStreams = h.knownStreams)
    (hquiet : .disconnected c ∉ new)
  | stepped {h h' : PeerHandler} (hs : s.handlers c = some h) (ht : t.handlers c = some h')
    (hopen : h.phase ≠ .closed) (hsaid : PeerHandler.Says c h h' new)

/-- A step of no handler of `c` leaves the streams and the end of that handler alone. -/
theorem moves_of_other {s t : TcpBackend} {a : Action} (hreg : Registered s)
    (hstep : s.step a = some t) {c : Uuid} (hother : a.atHandler c = none)
    {new : List GameNetworkEvent} (hquiet : .disconnected c ∉ new) : Moves s t c new := by
  have hev := step_evolves hreg hstep c
  rw [hother] at hev
  generalize hs : s.handlers c = old at hev
  generalize ht : t.handlers c = now at hev
  generalize s.sendOf c a = sent at hev
  generalize s.held c = before at hev
  generalize t.held c = after at hev
  cases hev with
  | same =>
    cases old with
    | none => exact .absent hs ht hquiet
    | some h => exact .kept hs ht rfl rfl hquiet
  | spawned => exact .spawned hs ht hquiet
  | pushed hoffer =>
    obtain ⟨hphase, hknown⟩ := PeerHandler.offer_keeps hoffer
    exact .kept hs ht hphase hknown hquiet
  | waits => exact .kept hs ht rfl rfl hquiet
  | resumed hoffer =>
    obtain ⟨hphase, hknown⟩ := PeerHandler.offer_keeps hoffer
    exact .kept hs ht hphase hknown hquiet

theorem moves_of_voices {s t : TcpBackend} {a : Action} (hreg : Registered s)
    (hstep : s.step a = some t) {new : List GameNetworkEvent} (hvoice : Voices s t a new)
    (c : Uuid) : Moves s t c new := by
  cases hvoice with
  | silent hother =>
    refine moves_of_other hreg hstep ?_ (by simp)
    cases a with
    | handler uuid b => exact absurd rfl (hother uuid b)
    | _ => rfl
  | command _ _ hquiet => exact moves_of_other hreg hstep rfl fun hc => (hquiet _ hc).2 c rfl
  | announce => exact moves_of_other hreg hstep rfl (by simp)
  | @handler uuid b h h' events hs ht hb =>
    by_cases hc : uuid = c
    · subst hc
      obtain ⟨hopen, hsaid⟩ := PeerHandler.says_of_step hb
      exact .stepped hs ht hopen hsaid
    · refine moves_of_other hreg hstep (if_neg hc) fun he => hc ?_
      exact (PeerHandler.step_events hb _ he).symm

/-- A UUID gets a place with its `Connected`. -/
theorem place_of_step {s t : TcpBackend} {a : Action} (hstep : s.step a = some t) {c : Uuid}
    (hc : c ∈ t.places) : c ∈ s.places ∨ .connected c ∈ t.peer.eventRx.log := by
  cases steps_of_step hstep with
  | issue => exact Or.inl hc
  | poll => exact Or.inl hc
  | register _ hrecv => exact Or.inl ((mem_iff_of_count (gather_recv _ _ _ hrecv c)).mp hc)
  | command _ _ hcommand =>
    cases hcommand with
    | bind =>
      refine Or.inl ?_
      simpa [places, gather, AcceptPhase.held] using hc
    | bindFails => exact Or.inl hc
    | connect =>
      rcases List.mem_append.mp hc with hc | hc
      · rcases List.mem_cons.mp hc with rfl | hc
        · refine Or.inr ?_
          simp [emit, setHandler]
        · exact Or.inl (List.mem_append_left _ hc)
      · exact Or.inl (List.mem_append_right _ hc)
    | connectFails => exact Or.inl hc
    | @send c' stream data =>
      rw [(push_spec _ c' (packet stream data)).1.places] at hc
      exact Or.inl hc
    | drop => exact Or.inl hc
    | shutdown => exact Or.inl hc
    | createStream => exact Or.inl hc
    | closeStream => exact Or.inl hc
  | resume => exact Or.inl hc
  | @announce k uuid _ hphase =>
    have hset := gather_set AcceptPhase.held s.peers (.announced uuid) s.peerReg s.peerReg hphase c
    simp only [AcceptPhase.held, List.count_nil] at hset
    have hadd : (s.emit [.connected uuid]).places.count c = s.places.count c := rfl
    by_cases heq : c = uuid
    · refine Or.inr ?_
      simp [emit, heq]
    · refine Or.inl ?_
      have hone : [uuid].count c = 0 := List.count_eq_zero.mpr (by simpa using heq)
      have hpos := List.count_pos_iff.mpr hc
      refine List.count_pos_iff.mp ?_
      simp only [places, emit] at hpos ⊢
      omega
  | @spawn k uuid _ hphase =>
    have hset := gather_set AcceptPhase.held s.peers (.spawned uuid) s.peerReg s.peerReg hphase c
    exact Or.inl ((mem_iff_of_count (Nat.add_right_cancel hset)).mp hc)
  | @handOver k uuid _ hphase =>
    have hset := gather_set AcceptPhase.held s.peers .accepting s.peerReg (s.peerReg.send uuid)
      hphase c
    simp only [AcceptPhase.held, List.count_nil, Channel.pending_send,
      List.count_append] at hset
    refine Or.inl ((mem_iff_of_count ?_).mp hc)
    simp only [places]
    omega
  | handler => exact Or.inl hc

/-- What has a place has been announced, and so has what a handler knows; the end of a
connection is the end of its handler. -/
structure Announced (s : TcpBackend) : Prop where
  registered : Registered s
  connected : ∀ c ∈ s.places, .connected c ∈ s.peer.eventRx.log
  created : ∀ c h, s.handlers c = some h → ∀ id ∈ h.knownStreams,
    .streamCreated c { streamId := id } ∈ s.peer.eventRx.log
  ended : ∀ c, .disconnected c ∈ s.peer.eventRx.log →
    ∃ h, s.handlers c = some h ∧ h.phase = .closed
  introduces : Introduces s.peer.eventRx.log

theorem announced_init : Announced init := by
  refine ⟨registered_init, fun c hc => ?_, fun c h hh => ?_, fun c hc => ?_,
    fun before c st data after hlog => ?_⟩
  · cases hc
  · cases hh
  · cases hc
  · cases before <;> cases hlog

/-- A handler that has not ended has not said so. -/
theorem Announced.stays {s : TcpBackend} (h : Announced s) {c : Uuid} {hd : PeerHandler}
    (hhandler : s.handlers c = some hd) (hopen : hd.phase ≠ .closed) :
    .disconnected c ∉ s.peer.eventRx.log := by
  intro hc
  obtain ⟨hd', hhandler', hclosed⟩ := h.ended c hc
  rw [hhandler] at hhandler'
  cases hhandler'
  exact hopen hclosed

/-- What a handler delivers has been introduced. -/
theorem introduces_says {s : TcpBackend} {c : Uuid} {hd hd' : PeerHandler}
    {new : List GameNetworkEvent} (h : Announced s) (hhandler : s.handlers c = some hd)
    (hopen : hd.phase ≠ .closed) (hsaid : PeerHandler.Says c hd hd' new) :
    Introduces (s.peer.eventRx.log ++ new) := by
  have hconnected : .connected c ∈ s.peer.eventRx.log := by
    refine h.connected c (h.registered.place ?_)
    rw [hhandler]
    exact Option.some_ne_none hd
  have hstays := h.stays hhandler hopen
  cases hsaid with
  | nothing => exact introduces_append h.introduces (by simp)
  | goodbye => exact introduces_append h.introduces (by simp [GameNetworkEvent.delivered])
  | again _ hid =>
    exact introduces_append_message _ h.introduces hconnected (h.created c hd hhandler _ hid) hstays
  | first => exact introduces_append_first _ h.introduces hconnected hstays

theorem announced_step {s t : TcpBackend} {a : Action} (h : Announced s)
    (hstep : s.step a = some t) : Announced t := by
  obtain ⟨new, hlog, hvoice⟩ := step_voices hstep
  have hmoves := moves_of_voices h.registered hstep hvoice
  have hgrow : ∀ {e}, e ∈ s.peer.eventRx.log → e ∈ t.peer.eventRx.log :=
    fun he => hlog ▸ List.mem_append_left _ he
  refine ⟨registered_step h.registered hstep, fun c hc => ?_, fun c hd hhandler id hid => ?_,
    fun c hc => ?_, ?_⟩
  · rcases place_of_step hstep hc with hc | hc
    · exact hgrow (h.connected c hc)
    · exact hc
  · cases hmoves c with
    | absent _ ht =>
      rw [ht] at hhandler
      cases hhandler
    | spawned _ ht =>
      rw [ht] at hhandler
      cases hhandler
      cases hid
    | kept hs ht _ hknown =>
      rw [ht] at hhandler
      cases hhandler
      exact hgrow (h.created c _ hs id (hknown ▸ hid))
    | stepped hs ht _ hsaid =>
      rw [ht] at hhandler
      cases hhandler
      cases hsaid with
      | nothing hknown => exact hgrow (h.created c _ hs id (hknown ▸ hid))
      | goodbye hknown => exact hgrow (h.created c _ hs id (hknown ▸ hid))
      | again hknown => exact hgrow (h.created c _ hs id (hknown ▸ hid))
      | first hknown =>
        rw [hknown, List.mem_append, List.mem_singleton] at hid
        rcases hid with hid | rfl
        · exact hgrow (h.created c _ hs id hid)
        · rw [hlog]
          exact List.mem_append_right _ List.mem_cons_self
  · rw [hlog, List.mem_append] at hc
    rcases hc with hc | hc
    · obtain ⟨hd, hs, hclosed⟩ := h.ended c hc
      cases hmoves c with
      | absent hs' =>
        rw [hs] at hs'
        cases hs'
      | spawned hs' =>
        rw [hs] at hs'
        cases hs'
      | kept hs' ht hphase =>
        rw [hs] at hs'
        cases hs'
        exact ⟨_, ht, hphase.trans hclosed⟩
      | stepped hs' _ hopen =>
        rw [hs] at hs'
        cases hs'
        exact absurd hclosed hopen
    · cases hmoves c with
      | absent _ _ hquiet => exact absurd hc hquiet
      | spawned _ _ hquiet => exact absurd hc hquiet
      | kept _ _ _ _ hquiet => exact absurd hc hquiet
      | stepped _ ht _ hsaid =>
        cases hsaid with
        | nothing => cases hc
        | goodbye _ hphase => exact ⟨_, ht, hphase⟩
        | again => simp at hc
        | first => simp at hc
  · rw [hlog]
    cases hvoice with
    | silent => exact introduces_append h.introduces (by simp)
    | command _ _ hquiet => exact introduces_append h.introduces fun e he => (hquiet e he).1
    | announce => exact introduces_append h.introduces (by simp [GameNetworkEvent.delivered])
    | handler hs _ hb =>
      obtain ⟨hopen, hsaid⟩ := PeerHandler.says_of_step hb
      exact introduces_says h hs hopen hsaid

theorem announced_of_run {actions : List Action} {s : TcpBackend}
    (hrun : Run.run step init actions = some s) : Announced s :=
  Run.invariant_of_run (fun _ _ _ => announced_step) announced_init hrun

end TcpBackend

end Tcp
end GameSockets
