/-
The order of the events of `QuicBackend`.

The loop announces a stream when it takes the stream's registration; a reader sends the
registration to the loop and the `Message`s to the application, over two channels.
-/
import GameSockets.Quic.StreamFormat
import GameSockets.StreamHistory

namespace GameSockets
namespace Quic

open Library History

theorem StreamRegistration.key_eq_iff {r : StreamRegistration} {c : Uuid} {st : GameStream} :
    r.key = (c, st.streamId) ↔ r.connection = c ∧ r.stream = st := by
  obtain ⟨id⟩ := st
  obtain ⟨c', ⟨id'⟩, half⟩ := r
  simp [StreamRegistration.key]

namespace QuicBackend

/-- The branches of `processRegistration`. -/
inductive Takes (s : QuicBackend) (r : StreamRegistration) : QuicBackend → Prop where
  | reliable {sendStream : SendStream} (hreliable : r.stream.isReliable = true)
    (hhalf : r.sendStream = some sendStream) :
    Takes s r
      { s.emit [.streamCreated r.connection r.stream] with
        reliableSendStreams := Function.update s.reliableSendStreams r.key (some sendStream) }
  | known (hother : r.stream.isReliable = true → r.sendStream = none)
    (hkey : r.key ∈ s.unreliableSendStreams) : Takes s r s
  | unreliable (hother : r.stream.isReliable = true → r.sendStream = none)
    (hkey : r.key ∉ s.unreliableSendStreams) :
    Takes s r
      { s.emit [.streamCreated r.connection r.stream] with
        unreliableSendStreams := s.unreliableSendStreams ++ [r.key] }

theorem takes_processRegistration (s : QuicBackend) (r : StreamRegistration) :
    Takes s r (s.processRegistration r) := by
  unfold processRegistration
  split
  · next sendStream hreliable hhalf => exact .reliable hreliable hhalf
  · next hnot =>
    have hother : r.stream.isReliable = true → r.sendStream = none := by
      intro hreliable
      by_contra hne
      obtain ⟨sendStream, hhalf⟩ := Option.ne_none_iff_exists'.mp hne
      exact hnot sendStream hreliable hhalf
    split
    · next hkey => exact .known hother hkey
    · next hkey => exact .unreliable hother hkey

/-! ## What is said of a stream -/

/-- The loop announces the stream of a registration that it takes, unless it has the
stream among its unreliable ones already. -/
def Announces (s : QuicBackend) (r : StreamRegistration) : Prop :=
  (r.stream.isReliable = true ∧ r.sendStream ≠ none) ∨ r.key ∉ s.unreliableSendStreams

instance (s : QuicBackend) (r : StreamRegistration) : Decidable (s.Announces r) :=
  inferInstanceAs (Decidable (_ ∨ _))

/-- What an action does to stream `st` of connection `c`. -/
def act (c : Uuid) (st : GameStream) (s : QuicBackend) : Action → List StreamAct
  | .registerStream =>
    match s.streamReg.recv with
    | some (r, _) => if (r.connection = c ∧ r.stream = st) ∧ s.Announces r then [.create] else []
    | none => []
  | .command _ =>
    match s.peer.cmdTx.recv with
    | some (.closeStream c' i, _) => if c' = c ∧ { streamId := i } = st then [.close] else []
    | _ => []
  | .sendDatagram uuid =>
    match s.readers uuid with
    | some { knownStreams := _, current := some (streamId, _) } =>
      if uuid = c ∧ { streamId := streamId } = st then [.again] else []
    | _ => []
  | .readStream k chunk =>
    match s.streamReaders[k]? with
    | some reader =>
      if reader.uuid = c ∧ GameStream.new reader.streamId .reliable = st then
        (streamReadingLoop reader.uuid reader.streamId (reader.buf ++ chunk)).1.map fun _ => .again
      else []
    | none => []
  | _ => []

/-- What the actions do to each stream. -/
def history (actions : List Action) (c : Uuid) (st : GameStream) : List StreamAct :=
  Run.observe step (act c st) init actions

/-- The action is a reader's, and may deliver something. -/
def delivers : Action → Bool
  | .sendDatagram _ => true
  | .readStream _ _ => true
  | _ => false

/-- What a step says, by the party that takes it. -/
inductive Voices (s : QuicBackend) : Action → List GameNetworkEvent → Prop where
  | silent {a : Action} (hother : delivers a = false) (hact : ∀ c st, act c st s a = []) :
    Voices s a []
  | registers {r : StreamRegistration} {reg : Channel StreamRegistration}
    (hrecv : s.streamReg.recv = some (r, reg)) :
    Voices s .registerStream (if s.Announces r then [.streamCreated r.connection r.stream] else [])
  | closes {env : CommandEnv} {c : Uuid} {i : UInt16} {tx : Channel BackendCommand}
    (hrecv : s.peer.cmdTx.recv = some (.closeStream c i, tx)) :
    Voices s (.command env) [.streamClosed c { streamId := i }]
  | speaks {a : Action} {e : GameNetworkEvent} (hother : delivers a = false)
    (hact : ∀ c st, act c st s a = []) (hmark : ∀ c st, e.mark c st = none) : Voices s a [e]
  | datagram {uuid : Uuid} {known : List UInt16} {streamId : UInt16} {data : Bytes}
    (hreader : s.readers uuid = some { knownStreams := known, current := some (streamId, data) }) :
    Voices s (.sendDatagram uuid) [.message uuid { streamId := streamId } data]
  | frames {k : Nat} {chunk : Bytes} {reader : StreamReader}
    (hreader : s.streamReaders[k]? = some reader) :
    Voices s (.readStream k chunk)
      (streamReadingLoop reader.uuid reader.streamId (reader.buf ++ chunk)).1

theorem processRegistration_log (s : QuicBackend) (r : StreamRegistration) :
    (s.processRegistration r).peer.eventRx.log = s.peer.eventRx.log ++
      (if s.Announces r then [.streamCreated r.connection r.stream] else []) := by
  have htakes := takes_processRegistration s r
  generalize s.processRegistration r = t at htakes ⊢
  cases htakes with
  | reliable hreliable hhalf =>
    have hannounces : s.Announces r :=
      Or.inl ⟨hreliable, by rw [hhalf]; exact Option.some_ne_none _⟩
    rw [if_pos hannounces]
    exact Channel.log_sendAll _ _
  | known hother hkey =>
    have hquiet : ¬ s.Announces r := by
      rintro (⟨hreliable, hhalf⟩ | hnew)
      · exact hhalf (hother hreliable)
      · exact hnew hkey
    rw [if_neg hquiet, List.append_nil]
  | unreliable _ hkey =>
    have hannounces : s.Announces r := Or.inr hkey
    rw [if_pos hannounces]
    exact Channel.log_sendAll _ _

theorem step_voices {s t : QuicBackend} {a : Action} (hstep : s.step a = some t) :
    ∃ new, t.peer.eventRx.log = s.peer.eventRx.log ++ new ∧ Voices s a new := by
  have mute : delivers a = false → (∀ c st, act c st s a = []) → ∀ {u : QuicBackend},
      u.peer.eventRx.log = s.peer.eventRx.log →
        ∃ new, u.peer.eventRx.log = s.peer.eventRx.log ++ new ∧ Voices s a new :=
    fun hother hact _ hlog => ⟨[], by rw [hlog, List.append_nil], .silent hother hact⟩
  cases steps_of_step hstep with
  | issue => exact mute rfl (fun c st => rfl) rfl
  | poll hrecv => exact mute rfl (fun c st => rfl) (Channel.log_recv hrecv)
  | registerConnection => exact mute rfl (fun c st => rfl) rfl
  | registerStream _ hrecv => exact ⟨_, processRegistration_log _ _, .registers hrecv⟩
  | @command env cmd tx t _ hrecv hcommand =>
    have hother : (∀ c i, cmd ≠ .closeStream c i) → ∀ c st, act c st s (.command env) = [] := by
      intro hne c st
      simp only [act, hrecv]
      split
      · next heq =>
        cases heq
        exact absurd rfl (hne _ _)
      · rfl
    cases hcommand with
    | bind => exact mute rfl (hother (by simp)) rfl
    | bindFails => exact mute rfl (hother (by simp)) rfl
    | connect => exact ⟨_, Channel.log_sendAll _ _, .speaks rfl (hother (by simp)) fun c st => rfl⟩
    | connectFails => exact mute rfl (hother (by simp)) rfl
    | send =>
      cases env.sendError with
      | none => exact mute rfl (hother (by simp)) rfl
      | some e => exact ⟨_, Channel.log_sendAll _ _, .speaks rfl (hother (by simp)) fun c st => rfl⟩
    | noStream => exact mute rfl (hother (by simp)) rfl
    | datagram => exact mute rfl (hother (by simp)) rfl
    | datagramFails =>
      exact ⟨_, Channel.log_sendAll _ _, .speaks rfl (hother (by simp)) fun c st => rfl⟩
    | noConnection => exact mute rfl (hother (by simp)) rfl
    | shutdown => exact mute rfl (hother (by simp)) rfl
    | openStream => exact mute rfl (hother (by simp)) rfl
    | openFails => exact mute rfl (hother (by simp)) rfl
    | openUnconnected => exact mute rfl (hother (by simp)) rfl
    | createStream => exact mute rfl (hother (by simp)) rfl
    | closeStream => exact ⟨_, Channel.log_sendAll _ _, .closes hrecv⟩
  | announce => exact ⟨_, Channel.log_sendAll _ _, .speaks rfl (fun c st => rfl) fun c st => rfl⟩
  | handOver => exact mute rfl (fun c st => rfl) rfl
  | shortDatagram => exact mute rfl (fun c st => rfl) rfl
  | readDatagram => exact mute rfl (fun c st => rfl) rfl
  | newDatagram => exact mute rfl (fun c st => rfl) rfl
  | sendDatagram _ hreader => exact ⟨_, Channel.log_sendAll _ _, .datagram hreader⟩
  | acceptStream => exact mute rfl (fun c st => rfl) rfl
  | @readStream k chunk rest reader events _ hreader hread =>
    have hevents : (streamReadingLoop reader.uuid reader.streamId (reader.buf ++ chunk)).1 =
        events := by rw [hread]
    exact ⟨_, Channel.log_sendAll _ _, hevents ▸ .frames hreader⟩

theorem marks_payloads (c : Uuid) (st : GameStream) (payloads : List Bytes) :
    streamMarks c st (payloads.map fun data => .message c st data) =
      (payloads.map fun _ => StreamAct.again).flatMap StreamAct.marks := by
  induction payloads with
  | nil => rfl
  | cons data payloads ih =>
    rw [streamMarks] at ih
    simp [streamMarks, GameNetworkEvent.mark, StreamAct.marks, ih]

/-- The events of one step say of a stream what the step does to it. -/
theorem voices_marks {s : QuicBackend} {a : Action} {new : List GameNetworkEvent}
    (h : Voices s a new) (c : Uuid) (st : GameStream) :
    streamMarks c st new = (act c st s a).flatMap StreamAct.marks := by
  cases h with
  | silent _ hact =>
    rw [hact]
    rfl
  | @registers r reg hrecv =>
    simp only [act, hrecv]
    by_cases hannounces : s.Announces r
    · by_cases hc : r.connection = c ∧ r.stream = st
      · simp [hannounces, hc, streamMarks, GameNetworkEvent.mark, StreamAct.marks]
      · simp [hannounces, hc, streamMarks, GameNetworkEvent.mark]
    · simp [hannounces, streamMarks]
  | @closes env c' i tx hrecv =>
    simp only [act, hrecv]
    by_cases hc : c' = c ∧ { streamId := i } = st
    · simp [hc, streamMarks, GameNetworkEvent.mark, StreamAct.marks]
    · simp [hc, streamMarks, GameNetworkEvent.mark]
  | speaks _ hact hmark =>
    rw [hact, streamMarks, List.filterMap_cons_none (hmark c st)]
    rfl
  | @datagram uuid known streamId data hreader =>
    simp only [act, hreader]
    by_cases hc : uuid = c ∧ { streamId := streamId } = st
    · simp [hc, streamMarks, GameNetworkEvent.mark, StreamAct.marks]
    · simp [hc, streamMarks, GameNetworkEvent.mark]
  | @frames k chunk reader hreader =>
    simp only [act, hreader, streamReadingLoop]
    by_cases hc : reader.uuid = c ∧ GameStream.new reader.streamId .reliable = st
    · obtain ⟨rfl, rfl⟩ := hc
      rw [if_pos ⟨rfl, rfl⟩, List.map_map]
      exact marks_payloads _ _ _
    · simp [hc, streamMarks, GameNetworkEvent.mark, List.filterMap_map]

theorem enacts_of_run {actions : List Action} {s : QuicBackend}
    (hrun : Run.run step init actions = some s) :
    Enacts (history actions) s.peer.eventRx.log := by
  have hstep : ∀ (s : QuicBackend) a t, s.step a = some t →
      ∃ new, t.peer.eventRx.log = s.peer.eventRx.log ++ new ∧
        ∀ c st, streamMarks c st new = (act c st s a).flatMap StreamAct.marks := by
    intro s a t hstep
    obtain ⟨new, hlog, hvoice⟩ := step_voices hstep
    exact ⟨new, hlog, voices_marks hvoice⟩
  exact enacts_of_steps hstep rfl hrun

/-! ## Which streams have been announced -/

/-- The loop has taken a registration of the stream. -/
def Taken (s : QuicBackend) (key : Uuid × UInt16) : Prop :=
  ∃ r ∈ s.streamReg.received, r.key = key

instance (s : QuicBackend) (key : Uuid × UInt16) : Decidable (s.Taken key) :=
  inferInstanceAs (Decidable (∃ r ∈ _, _))

/-- What a step does to the tables of streams, and what it says of them. -/
inductive Files (s t : QuicBackend) : Action → Prop where
  | other {a : Action} {new : List GameNetworkEvent} (hother : a ≠ .registerStream)
    (hlog : t.peer.eventRx.log = s.peer.eventRx.log ++ new)
    (hquiet : ∀ e ∈ new, ∀ c st, e ≠ .streamCreated c st ∧ e ≠ .streamClosed c st)
    (hreg : t.streamReg.received = s.streamReg.received)
    (htable : ∀ key, t.reliableSendStreams key = none ↔ s.reliableSendStreams key = none)
    (hkeys : t.unreliableSendStreams = s.unreliableSendStreams) : Files s t a
  | reliable {r : StreamRegistration} {reg : Channel StreamRegistration} {sendStream : SendStream}
    (hrecv : s.streamReg.recv = some (r, reg)) (hreliable : r.stream.isReliable = true)
    (hhalf : r.sendStream = some sendStream)
    (hlog : t.peer.eventRx.log = s.peer.eventRx.log ++ [.streamCreated r.connection r.stream])
    (hreg : t.streamReg = reg)
    (htable : t.reliableSendStreams =
      Function.update s.reliableSendStreams r.key (some sendStream))
    (hkeys : t.unreliableSendStreams = s.unreliableSendStreams) : Files s t .registerStream
  | known {r : StreamRegistration} {reg : Channel StreamRegistration}
    (hrecv : s.streamReg.recv = some (r, reg))
    (hother : r.stream.isReliable = true → r.sendStream = none)
    (hkey : r.key ∈ s.unreliableSendStreams) (hlog : t.peer.eventRx.log = s.peer.eventRx.log)
    (hreg : t.streamReg = reg) (htable : t.reliableSendStreams = s.reliableSendStreams)
    (hkeys : t.unreliableSendStreams = s.unreliableSendStreams) : Files s t .registerStream
  | unreliable {r : StreamRegistration} {reg : Channel StreamRegistration}
    (hrecv : s.streamReg.recv = some (r, reg))
    (hother : r.stream.isReliable = true → r.sendStream = none)
    (hkey : r.key ∉ s.unreliableSendStreams)
    (hlog : t.peer.eventRx.log = s.peer.eventRx.log ++ [.streamCreated r.connection r.stream])
    (hreg : t.streamReg = reg) (htable : t.reliableSendStreams = s.reliableSendStreams)
    (hkeys : t.unreliableSendStreams = s.unreliableSendStreams ++ [r.key]) :
    Files s t .registerStream
  | closes {env : CommandEnv} {c : Uuid} {i : UInt16} {tx : Channel BackendCommand}
    (hrecv : s.peer.cmdTx.recv = some (.closeStream c i, tx))
    (hlog : t.peer.eventRx.log = s.peer.eventRx.log ++ [.streamClosed c { streamId := i }])
    (hreg : t.streamReg.received = s.streamReg.received)
    (htable : t.reliableSendStreams = Function.update s.reliableSendStreams (c, i) none)
    (hkeys : t.unreliableSendStreams = s.unreliableSendStreams.filter (· ≠ (c, i))) :
    Files s t (.command env)

theorem files_of_step {s t : QuicBackend} {a : Action} (hstep : s.step a = some t) :
    Files s t a := by
  have mute : ∀ {a : Action}, a ≠ .registerStream → ∀ {u : QuicBackend},
      u.peer.eventRx.log = s.peer.eventRx.log → u.streamReg.received = s.streamReg.received →
      u.reliableSendStreams = s.reliableSendStreams →
      u.unreliableSendStreams = s.unreliableSendStreams → Files s u a := by
    intro a hother u hlog hreg htable hkeys
    exact .other hother (hlog.trans (List.append_nil _).symm) (by simp) hreg
      (fun key => by rw [htable]) hkeys
  cases steps_of_step hstep with
  | @registerStream r reg _ hrecv =>
    have htakes := takes_processRegistration { s with streamReg := reg } r
    generalize processRegistration { s with streamReg := reg } r = t at htakes ⊢
    cases htakes with
    | reliable hreliable hhalf =>
      exact .reliable hrecv hreliable hhalf (Channel.log_sendAll _ _) rfl rfl rfl
    | known hother hkey => exact .known hrecv hother hkey rfl rfl rfl rfl
    | unreliable hother hkey =>
      exact .unreliable hrecv hother hkey (Channel.log_sendAll _ _) rfl rfl rfl
  | @command env cmd tx t _ hrecv hcommand =>
    cases hcommand with
    | bind => exact mute (by simp) rfl rfl rfl rfl
    | bindFails => exact mute (by simp) rfl rfl rfl rfl
    | connect =>
      exact .other (by simp) (Channel.log_sendAll _ _) (by simp) rfl (fun key => Iff.rfl) rfl
    | connectFails => exact mute (by simp) rfl rfl rfl rfl
    | @send c stream data half _ _ hstream =>
      have hdomain : ∀ (new : SendStream) key,
          Function.update s.reliableSendStreams (c, stream.streamId) (some new) key = none ↔
            s.reliableSendStreams key = none := by
        intro new key
        by_cases heq : key = (c, stream.streamId)
        · subst heq
          exact iff_of_false (by simp) (by rw [hstream]; exact Option.some_ne_none half)
        · rw [Function.update_of_ne heq]
      cases env.sendError with
      | none =>
        exact .other (by simp) (List.append_nil _).symm (by simp) rfl (hdomain _) rfl
      | some e =>
        exact .other (by simp) (Channel.log_sendAll _ _) (by simp) rfl (hdomain _) rfl
    | noStream => exact mute (by simp) rfl rfl rfl rfl
    | datagram => exact mute (by simp) rfl rfl rfl rfl
    | datagramFails =>
      exact .other (by simp) (Channel.log_sendAll _ _) (by simp) rfl (fun key => Iff.rfl) rfl
    | noConnection => exact mute (by simp) rfl rfl rfl rfl
    | shutdown => exact mute (by simp) rfl rfl rfl rfl
    | openStream => exact mute (by simp) rfl rfl rfl rfl
    | openFails => exact mute (by simp) rfl rfl rfl rfl
    | openUnconnected => exact mute (by simp) rfl rfl rfl rfl
    | createStream => exact mute (by simp) rfl rfl rfl rfl
    | closeStream => exact .closes hrecv (Channel.log_sendAll _ _) rfl rfl rfl
  | issue => exact mute (by simp) rfl rfl rfl rfl
  | poll hrecv => exact mute (by simp) (Channel.log_recv hrecv) rfl rfl rfl
  | registerConnection => exact mute (by simp) rfl rfl rfl rfl
  | announce =>
    exact .other (by simp) (Channel.log_sendAll _ _) (by simp) rfl (fun key => Iff.rfl) rfl
  | handOver => exact mute (by simp) rfl rfl rfl rfl
  | shortDatagram => exact mute (by simp) rfl rfl rfl rfl
  | readDatagram => exact mute (by simp) rfl rfl rfl rfl
  | newDatagram => exact mute (by simp) rfl rfl rfl rfl
  | sendDatagram =>
    exact .other (by simp) (Channel.log_sendAll _ _) (by simp) rfl (fun key => Iff.rfl) rfl
  | acceptStream => exact mute (by simp) rfl rfl rfl rfl
  | readStream _ _ hread =>
    refine .other (by simp) (Channel.log_sendAll _ _) (fun e he c st => ?_) rfl
      (fun key => Iff.rfl) rfl
    obtain ⟨data, rfl⟩ := streamReadingLoop_events hread e he
    simp

/-- The streams announced are those of which a registration has been taken. -/
structure Announced (s : QuicBackend) : Prop where
  taken : ∀ c st, .streamCreated c st ∈ s.peer.eventRx.log ↔ s.Taken (c, st.streamId)
  unreliable : ∀ key ∈ s.unreliableSendStreams, s.Taken key

theorem announced_init : Announced init := by
  refine ⟨fun c st => ⟨fun h => ?_, fun h => ?_⟩, fun key hkey => ?_⟩
  · cases h
  · obtain ⟨r, hr, -⟩ := h
    cases hr
  · cases hkey

/-- A step that takes no registration. -/
theorem announced_of_same {s t : QuicBackend} (h : Announced s) {new : List GameNetworkEvent}
    (hlog : t.peer.eventRx.log = s.peer.eventRx.log ++ new)
    (hquiet : ∀ c st, .streamCreated c st ∉ new)
    (hreg : t.streamReg.received = s.streamReg.received)
    (hkeys : t.unreliableSendStreams ⊆ s.unreliableSendStreams) : Announced t := by
  have htaken : ∀ key, t.Taken key ↔ s.Taken key := fun key => by rw [Taken, hreg, Taken]
  refine ⟨fun c st => ?_, fun key hkey => (htaken key).mpr (h.unreliable key (hkeys hkey))⟩
  rw [htaken, ← h.taken, hlog, List.mem_append]
  exact or_iff_left (hquiet c st)

/-- A step that takes a registration, and announces its stream or has it announced. -/
theorem announced_of_takes {s t : QuicBackend} (h : Announced s) {r : StreamRegistration}
    {reg : Channel StreamRegistration} (hrecv : s.streamReg.recv = some (r, reg))
    (hreg : t.streamReg = reg)
    (hlog : t.peer.eventRx.log = s.peer.eventRx.log ++ [.streamCreated r.connection r.stream] ∨
      t.peer.eventRx.log = s.peer.eventRx.log ∧ s.Taken r.key)
    (hkeys : ∀ key ∈ t.unreliableSendStreams, key ∈ s.unreliableSendStreams ∨ r.key = key) :
    Announced t := by
  have hreceived : reg.received = s.streamReg.received ++ [r] := (Channel.recv_eq_some hrecv).2
  have htaken : ∀ key, t.Taken key ↔ s.Taken key ∨ r.key = key := by
    intro key
    simp only [Taken, hreg, hreceived, List.mem_append, List.mem_singleton, or_and_right,
      exists_or, exists_eq_left]
  refine ⟨fun c st => ?_, fun key hkey => (htaken key).mpr ((hkeys key hkey).imp_left ?_)⟩
  · rw [htaken, ← h.taken]
    rcases hlog with hlog | ⟨hlog, hold⟩
    · rw [hlog, List.mem_append, List.mem_singleton, GameNetworkEvent.streamCreated.injEq,
        StreamRegistration.key_eq_iff, eq_comm (a := c), eq_comm (a := st)]
    · rw [hlog]
      exact ⟨Or.inl, fun hor => hor.elim id fun heq => (h.taken c st).mpr (heq ▸ hold)⟩
  · exact h.unreliable key

theorem announced_step {s t : QuicBackend} {a : Action} (h : Announced s)
    (hstep : s.step a = some t) : Announced t := by
  cases files_of_step hstep with
  | other _ hlog hquiet hreg _ hkeys =>
    exact announced_of_same h hlog (fun c st he => (hquiet _ he c st).1 rfl) hreg
      (hkeys ▸ List.Subset.refl _)
  | closes _ hlog hreg _ hkeys =>
    refine announced_of_same h hlog (by simp) hreg fun key hkey => ?_
    rw [hkeys] at hkey
    exact (List.mem_filter.mp hkey).1
  | reliable hrecv _ _ hlog hreg _ hkeys =>
    exact announced_of_takes h hrecv hreg (Or.inl hlog) fun key hkey => Or.inl (hkeys ▸ hkey)
  | known hrecv _ hmem hlog hreg _ hkeys =>
    exact announced_of_takes h hrecv hreg (Or.inr ⟨hlog, h.unreliable _ hmem⟩)
      fun key hkey => Or.inl (hkeys ▸ hkey)
  | unreliable hrecv _ _ hlog hreg _ hkeys =>
    refine announced_of_takes h hrecv hreg (Or.inl hlog) fun key hkey => ?_
    rw [hkeys, List.mem_append, List.mem_singleton] at hkey
    exact hkey.imp_right Eq.symm

/-! ## Every message is announced -/

/-- A reader that sends a `Message` does so after the loop has taken a registration of
its stream. -/
def Heralded (s : QuicBackend) : Action → Prop
  | .sendDatagram uuid =>
    match s.readers uuid with
    | some { knownStreams := _, current := some (streamId, _) } => s.Taken (uuid, streamId)
    | _ => True
  | .readStream k chunk =>
    match s.streamReaders[k]? with
    | some reader =>
      Framing.split lengthSize (reader.buf ++ chunk) ≠ none →
        s.Taken (reader.uuid, (GameStream.new reader.streamId .reliable).streamId)
    | none => True
  | _ => True

/-- Messages of one stream alone come after its announcement exactly when it has been
announced already, or there is none. -/
theorem always_announced_iff {log new : List GameNetworkEvent} {c : Uuid} {st : GameStream}
    (hnew : ∀ e ∈ new, ∃ data, e = .message c st data) :
    Always (fun before e => ∀ c' st' data, e = .message c' st' data →
        .streamCreated c' st' ∈ log ++ before) new ↔
      (new ≠ [] → .streamCreated c st ∈ log) := by
  constructor
  · intro h hne
    obtain ⟨e, rest, rfl⟩ := List.exists_cons_of_ne_nil hne
    obtain ⟨data, rfl⟩ := hnew e List.mem_cons_self
    have hcreated := h [] _ rest rfl c st data rfl
    rwa [List.append_nil] at hcreated
  · rintro h before e after rfl c' st' data rfl
    obtain ⟨data', heq⟩ := hnew _ (List.mem_append_right _ List.mem_cons_self)
    cases heq
    exact List.mem_append_left _ (h (by simp))

theorem always_of_silent {log new : List GameNetworkEvent}
    (hnew : ∀ e ∈ new, e.delivered = none) :
    Always (fun before e => ∀ c st data, e = .message c st data →
      .streamCreated c st ∈ log ++ before) new := by
  rintro before e after rfl c st data rfl
  cases hnew _ (List.mem_append_right _ List.mem_cons_self)

theorem heralded_of_other {s : QuicBackend} {a : Action} (h : delivers a = false) :
    Heralded s a := by
  cases a with
  | sendDatagram => cases h
  | readStream => cases h
  | _ => trivial

theorem delivered_of_marks {e : GameNetworkEvent} (h : ∀ c st, e.mark c st = none) :
    e.delivered = none := by
  cases e with
  | message c st data =>
    have hmark := h c st
    simp [GameNetworkEvent.mark] at hmark
  | _ => rfl

theorem announcesFirst_step_iff {s t : QuicBackend} {a : Action} (h : Announced s)
    (hstep : s.step a = some t) :
    AnnouncesFirst t.peer.eventRx.log ↔ AnnouncesFirst s.peer.eventRx.log ∧ Heralded s a := by
  obtain ⟨new, hlog, hvoice⟩ := step_voices hstep
  rw [hlog, announcesFirst_iff_always, always_append, ← announcesFirst_iff_always]
  refine and_congr_right fun _ => ?_
  cases hvoice with
  | silent hother => exact iff_of_true (always_of_silent (by simp)) (heralded_of_other hother)
  | registers =>
    refine iff_of_true (always_of_silent fun e he => ?_) trivial
    split at he
    · rw [List.mem_singleton.mp he]
      rfl
    · cases he
  | closes => exact iff_of_true (always_of_silent (by simp [GameNetworkEvent.delivered])) trivial
  | speaks hother _ hmark =>
    refine iff_of_true (always_of_silent fun e he => ?_) (heralded_of_other hother)
    rw [List.mem_singleton.mp he]
    exact delivered_of_marks hmark
  | @datagram uuid known streamId data hreader =>
    have honly : ∀ e ∈ [GameNetworkEvent.message uuid { streamId := streamId } data],
        ∃ data, e = .message uuid { streamId := streamId } data := by simp
    rw [always_announced_iff honly, h.taken]
    simp [Heralded, hreader]
  | @frames k chunk reader hreader =>
    have hparse := Framing.parse_eq_nil_iff (w := lengthSize) (by decide)
      (Nat.le_refl (reader.buf ++ chunk).length)
    have honly := streamReadingLoop_events
      (Prod.eta (streamReadingLoop reader.uuid reader.streamId (reader.buf ++ chunk))).symm
    rw [always_announced_iff honly, h.taken]
    simp only [Heralded, hreader, streamReadingLoop, ne_eq, List.map_eq_nil_iff, hparse]

/-- The `Message`s of a run come after the `StreamCreated` of their streams exactly when no
reader sends one of a stream that the loop has taken no registration of. -/
theorem announced_first_iff (actions : List Action) (s : QuicBackend)
    (hrun : Run.run step init actions = some s) :
    AnnouncesFirst s.peer.eventRx.log ↔ Run.Along step Heralded init actions := by
  have hstart : AnnouncesFirst init.peer.eventRx.log := by
    intro before c st data after hlog
    cases before <;> cases hlog
  have hiff : ∀ (s : QuicBackend) a t, Announced s → s.step a = some t →
      (AnnouncesFirst t.peer.eventRx.log ↔
        AnnouncesFirst s.peer.eventRx.log ∧ Heralded s a) :=
    fun _ _ _ h hstep => announcesFirst_step_iff h hstep
  rw [Run.along_iff (fun _ _ _ => announced_step) hiff actions announced_init hrun]
  exact and_iff_right hstart

instance decidableHeralded (s : QuicBackend) (a : Action) : Decidable (Heralded s a) := by
  unfold Heralded
  split
  · split <;> infer_instance
  · split <;> infer_instance
  · infer_instance

/-- The loop takes the registration of a datagram's stream before the reader sends the
`Message`. -/
def quickLoop : List Action :=
  [.issue (.connect "127.0.0.1" 8080), .command .allOk, .readDatagram Uuid.nil [0, 4, 9],
    .registerStream, .sendDatagram Uuid.nil]

theorem announced_first_quickLoop :
    ∃ s, Run.run step init quickLoop = some s ∧
      .message Uuid.nil { streamId := 4 } [9] ∈ s.peer.eventRx.log ∧
      AnnouncesFirst s.peer.eventRx.log :=
  ⟨_, rfl, by decide +kernel, (announced_first_iff quickLoop _ rfl).mpr (by decide +kernel)⟩

/-- The reader sends the `Message` of a datagram before the loop takes the registration
of its stream. -/
theorem message_before_created :
    ∃ s, Run.run step init
        [.issue (.connect "127.0.0.1" 8080), .command .allOk, .readDatagram Uuid.nil [0, 4, 9],
          .sendDatagram Uuid.nil, .registerStream] = some s ∧
      s.peer.eventRx.log = [.connected Uuid.nil, .message Uuid.nil { streamId := 4 } [9],
        .streamCreated Uuid.nil { streamId := 4 }] ∧
      ¬ AnnouncesFirst s.peer.eventRx.log := by
  refine ⟨_, rfl, by decide +kernel, fun h => ?_⟩
  have hcreated := h [.connected Uuid.nil] Uuid.nil { streamId := 4 } [9]
    [.streamCreated Uuid.nil { streamId := 4 }] (by decide +kernel)
  exact absurd hcreated (by decide)

end QuicBackend

end Quic
end GameSockets
