/-
What a pacing block does: which of its two sends come about, and how each of them can end.

A send ends in one of four ways.  The packet does not fit into the entropy pool, the backend is
gone, the packet is on its way and the counter overflows, or the packet is on its way and
counted.  Only after the last does the block go on.
-/
import GameSockets.Client

namespace GameSockets
namespace Client

open Library

/-- `packet_sequences.entry(..).or_insert(0)`. -/
def counter (st : ClientState) (stream : GameStream) : UInt64 :=
  (st.packetSequences stream).getD 0

abbrev Due60hz (r : PaceReading) (st : ClientState) : Prop :=
  r.now - st.last60hzTick ≥ interval60hz

abbrev Due20hz (r : PaceReading) (st : ClientState) : Prop :=
  r.now - st.last20hzTick ≥ interval20hz

/-- The loop has ended. -/
def Phase.over : Phase → Bool
  | .polling => false
  | .pacing => false
  | .returned _ => true
  | .panicked => true

theorem live_of_polling {st : ClientState} (h : st.phase = .polling) : st.phase.over = false := by
  rw [h]
  rfl

theorem live_of_pacing {st : ClientState} (h : st.phase = .pacing) : st.phase.over = false := by
  rw [h]
  rfl

section Pacing

variable (crc : Bytes → UInt32) (entropy : Bytes) (args : CliArgs)

/-- The entropy pool holds a payload. -/
def Fits : Prop := args.packetSize ≤ entropy.length

instance : Decidable (Fits entropy args) := inferInstanceAs (Decidable (_ ≤ _))

/-- The next packet of a stream. -/
def nextPacket (stream : GameStream) (micros : UInt64) (st : ClientState) : BenchmarkPacket :=
  { id := counter st stream, timestamp := micros, payload := entropy.take args.packetSize }

/-- The next packet of a stream is with the backend. -/
def post (conn : GameConnection) (stream : GameStream) (micros : UInt64) (st : ClientState) :
    ClientState :=
  { st with
    peer := { st.peer with
      cmdTx := st.peer.cmdTx.send
        (.send conn stream ((nextPacket entropy args stream micros st).toBytes crc)) } }

/-- A stream's counter goes up by one. -/
def count (stream : GameStream) (st : ClientState) : ClientState :=
  { st with
    packetSequences := Function.update st.packetSequences stream (some (counter st stream + 1)) }

theorem counter_count_of_ne {stream other : GameStream} (h : other ≠ stream) (st : ClientState) :
    counter (count stream st) other = counter st other := by
  simp only [counter, count, Function.update_of_ne h]

theorem toNat_counter_count {stream : GameStream} {st : ClientState}
    (h : (counter st stream).toNat + 1 < UInt64.size) :
    (counter (count stream st) stream).toNat = (counter st stream).toNat + 1 := by
  have hself : counter (count stream st) stream = counter st stream + 1 := by
    simp only [counter, count, Function.update_self, Option.getD_some]
  rw [hself, UInt64.toNat_add, UInt64.toNat_one, Nat.mod_eq_of_lt h]

/-- The packet goes out and is counted. -/
def Sendable (stream : GameStream) (st : ClientState) : Prop :=
  Fits entropy args ∧ st.peer.alive = true ∧ (counter st stream).toNat + 1 < UInt64.size

instance (stream : GameStream) (st : ClientState) : Decidable (Sendable entropy args stream st) :=
  inferInstanceAs (Decidable (_ ∧ _ ∧ _))

variable {crc entropy args}

theorem sendPacket_eq (conn : GameConnection) (stream : GameStream) (micros : UInt64)
    (st : ClientState) :
    sendPacket crc entropy args conn stream micros st =
      if Fits entropy args then
        if st.peer.alive then
          if (counter st stream).toNat + 1 < UInt64.size then
            count stream (post crc entropy args conn stream micros st)
          else { post crc entropy args conn stream micros st with phase := .panicked }
        else { st with phase := .returned (.error .connectionError) }
      else { st with phase := .panicked } := by
  unfold sendPacket
  by_cases hfits : Fits entropy args
  · have hnew : BenchmarkPacket.new entropy micros ((st.packetSequences stream).getD 0)
        args.packetSize = some (nextPacket entropy args stream micros st) := if_pos hfits
    dsimp only
    rw [hnew, if_pos hfits]
    dsimp only
    by_cases halive : st.peer.alive = true
    · rw [GamePeer.send, GamePeer.sendCmd, if_pos halive, if_pos halive]
      rfl
    · rw [GamePeer.send, GamePeer.sendCmd, if_neg halive, if_neg halive]
      rfl
  · have hnew : BenchmarkPacket.new entropy micros ((st.packetSequences stream).getD 0)
        args.packetSize = none := if_neg hfits
    dsimp only
    rw [hnew, if_neg hfits]

theorem sendPacket_of_sendable {stream : GameStream} {st : ClientState}
    (h : Sendable entropy args stream st) (conn : GameConnection) (micros : UInt64) :
    sendPacket crc entropy args conn stream micros st =
      count stream (post crc entropy args conn stream micros st) := by
  rw [sendPacket_eq, if_pos h.1, if_pos h.2.1, if_pos h.2.2]

/-- After a packet that was not counted the client does not go on. -/
theorem phase_sendPacket {stream : GameStream} {st : ClientState}
    (h : ¬ Sendable entropy args stream st) (conn : GameConnection) (micros : UInt64) :
    (sendPacket crc entropy args conn stream micros st).phase =
      if Fits entropy args ∧ st.peer.alive = false then .returned (.error .connectionError)
      else .panicked := by
  rw [sendPacket_eq]
  by_cases hfits : Fits entropy args
  · cases halive : st.peer.alive with
    | true =>
      have hcount : ¬ (counter st stream).toNat + 1 < UInt64.size :=
        fun hcount => h ⟨hfits, halive, hcount⟩
      simp [hfits, hcount]
    | false => simp [hfits]
  · simp [hfits]

theorem phase_sendPacket_ne {stream : GameStream} {st : ClientState}
    (h : ¬ Sendable entropy args stream st) (conn : GameConnection) (micros : UInt64) :
    (sendPacket crc entropy args conn stream micros st).phase ≠ .pacing := by
  rw [phase_sendPacket h]
  split <;> exact fun h => by cases h

/-! ## The two blocks -/

def tick60hz (st : ClientState) : ClientState :=
  { st with last60hzTick := st.last60hzTick + interval60hz }

def tick20hz (st : ClientState) : ClientState :=
  { st with last20hzTick := st.last20hzTick + interval20hz }

theorem pace20hz_cases (r : PaceReading) (conn : GameConnection) {st : ClientState}
    (hphase : st.phase = .pacing) :
    (¬ Due20hz r st ∧ pace20hz crc entropy args r conn st = checkStop st) ∨
      Due20hz r st ∧
        ((st.reliableGameStream = none ∧
            pace20hz crc entropy args r conn st = { st with phase := .polling }) ∨
          ∃ stream, st.reliableGameStream = some stream ∧
            ((Sendable entropy args stream st ∧
                pace20hz crc entropy args r conn st = checkStop (tick20hz (count stream
                  (post crc entropy args conn stream r.micros20hz st)))) ∨
              (¬ Sendable entropy args stream st ∧
                pace20hz crc entropy args r conn st =
                  sendPacket crc entropy args conn stream r.micros20hz st))) := by
  by_cases hdue : Due20hz r st
  · refine Or.inr ⟨hdue, ?_⟩
    cases hstream : st.reliableGameStream with
    | none => exact Or.inl ⟨rfl, by rw [pace20hz, if_pos hdue, hstream]⟩
    | some stream =>
      refine Or.inr ⟨stream, rfl, ?_⟩
      by_cases hsend : Sendable entropy args stream st
      · have hp : (count stream (post crc entropy args conn stream r.micros20hz st)).phase =
          .pacing := hphase
        refine Or.inl ⟨hsend, ?_⟩
        rw [pace20hz, if_pos hdue, hstream]
        dsimp only
        rw [sendPacket_of_sendable hsend]
        split
        · rfl
        · next hne => exact absurd hp hne
      · have hne := @phase_sendPacket_ne crc entropy args stream st hsend conn r.micros20hz
        refine Or.inr ⟨hsend, ?_⟩
        simp only [pace20hz, if_pos hdue, hstream]
  · exact Or.inl ⟨hdue, if_neg hdue⟩

theorem pace60hz_cases (r : PaceReading) (conn : GameConnection) {st : ClientState}
    (hphase : st.phase = .pacing) :
    (¬ Due60hz r st ∧
        pace60hz crc entropy args r conn st = pace20hz crc entropy args r conn st) ∨
      Due60hz r st ∧
        ((st.unreliableGameStream = none ∧
            pace60hz crc entropy args r conn st = { st with phase := .polling }) ∨
          ∃ stream, st.unreliableGameStream = some stream ∧
            ((Sendable entropy args stream st ∧
                pace60hz crc entropy args r conn st =
                  pace20hz crc entropy args r conn (tick60hz (count stream
                    (post crc entropy args conn stream r.micros60hz st)))) ∨
              (¬ Sendable entropy args stream st ∧
                pace60hz crc entropy args r conn st =
                  sendPacket crc entropy args conn stream r.micros60hz st))) := by
  by_cases hdue : Due60hz r st
  · refine Or.inr ⟨hdue, ?_⟩
    cases hstream : st.unreliableGameStream with
    | none => exact Or.inl ⟨rfl, by rw [pace60hz, if_pos hdue, hstream]⟩
    | some stream =>
      refine Or.inr ⟨stream, rfl, ?_⟩
      by_cases hsend : Sendable entropy args stream st
      · have hp : (count stream (post crc entropy args conn stream r.micros60hz st)).phase =
          .pacing := hphase
        refine Or.inl ⟨hsend, ?_⟩
        rw [pace60hz, if_pos hdue, hstream]
        dsimp only
        rw [sendPacket_of_sendable hsend]
        split
        · rfl
        · next hne => exact absurd hp hne
      · have hne := @phase_sendPacket_ne crc entropy args stream st hsend conn r.micros60hz
        refine Or.inr ⟨hsend, ?_⟩
        simp only [pace60hz, if_pos hdue, hstream]
  · exact Or.inl ⟨hdue, if_neg hdue⟩

/-! ## What every piece of a block does, the block does -/

/-- The duration check only sets the flag. -/
theorem checkDuration_eq (r : PaceReading) (st : ClientState) :
    ∃ stop, checkDuration args r st = { st with needStop := stop } := by
  unfold checkDuration
  split
  · split
    · exact ⟨true, rfl⟩
    · exact ⟨st.needStop, rfl⟩
  · exact ⟨st.needStop, rfl⟩

variable (crc entropy args)

/-- A relation that follows a pacing block piece by piece: a packet, or a change of the flag,
the timers and the phase. -/
structure Pieces (P : ClientState → ClientState → Prop) : Prop where
  trans : ∀ {st st' st'' : ClientState}, P st st' → P st' st'' → P st st''
  send : ∀ {st : ClientState}, st.phase = .pacing → ∀ conn stream micros,
    P st (sendPacket crc entropy args conn stream micros st)
  adjust : ∀ {st : ClientState}, st.phase = .pacing → ∀ stop t60 t20 phase, phase ≠ .panicked →
    P st { st with needStop := stop, last60hzTick := t60, last20hzTick := t20, phase := phase }

variable {crc entropy args}

section Pieces

variable {P : ClientState → ClientState → Prop} (h : Pieces crc entropy args P)
include h

theorem Pieces.checkStop {st : ClientState} (hphase : st.phase = .pacing) :
    P st (checkStop st) := by
  unfold Client.checkStop
  split
  · exact h.adjust hphase _ _ _ _ nofun
  · exact h.adjust hphase _ _ _ _ nofun

theorem Pieces.pace20hz (r : PaceReading) (conn : GameConnection) {st : ClientState}
    (hphase : st.phase = .pacing) : P st (pace20hz crc entropy args r conn st) := by
  rcases @pace20hz_cases crc entropy args r conn st hphase with
    ⟨-, heq⟩ | ⟨-, ⟨-, heq⟩ | ⟨stream, -, ⟨hsend, heq⟩ | ⟨-, heq⟩⟩⟩
  · rw [heq]
    exact h.checkStop hphase
  · rw [heq]
    exact h.adjust hphase _ _ _ _ nofun
  · let sent := count stream (post crc entropy args conn stream r.micros20hz st)
    have hp : sent.phase = .pacing := hphase
    have hsent : P st sent := by
      have hpiece := h.send hphase conn stream r.micros20hz
      rwa [sendPacket_of_sendable hsend] at hpiece
    have htick : P sent (tick20hz sent) := h.adjust hp _ _ _ sent.phase (by rw [hp]; exact nofun)
    rw [heq]
    exact h.trans (h.trans hsent htick) (h.checkStop hp)
  · rw [heq]
    exact h.send hphase conn stream _

theorem Pieces.pace60hz (r : PaceReading) (conn : GameConnection) {st : ClientState}
    (hphase : st.phase = .pacing) : P st (pace60hz crc entropy args r conn st) := by
  rcases @pace60hz_cases crc entropy args r conn st hphase with
    ⟨-, heq⟩ | ⟨-, ⟨-, heq⟩ | ⟨stream, -, ⟨hsend, heq⟩ | ⟨-, heq⟩⟩⟩
  · rw [heq]
    exact h.pace20hz r conn hphase
  · rw [heq]
    exact h.adjust hphase _ _ _ _ nofun
  · let sent := count stream (post crc entropy args conn stream r.micros60hz st)
    have hp : sent.phase = .pacing := hphase
    have hsent : P st sent := by
      have hpiece := h.send hphase conn stream r.micros60hz
      rwa [sendPacket_of_sendable hsend] at hpiece
    have htick : P sent (tick60hz sent) := h.adjust hp _ _ _ sent.phase (by rw [hp]; exact nofun)
    have hp' : (tick60hz sent).phase = .pacing := hphase
    rw [heq]
    exact h.trans (h.trans hsent htick) (h.pace20hz r conn hp')
  · rw [heq]
    exact h.send hphase conn stream _

theorem Pieces.pace (r : PaceReading) {st : ClientState} (hphase : st.phase = .pacing) :
    P st (pace crc entropy args r st) := by
  unfold Client.pace
  split
  · next conn _ =>
    obtain ⟨stop, hcheck⟩ := @checkDuration_eq args r st
    have hflag : P st { st with needStop := stop } :=
      h.adjust hphase stop _ _ st.phase (by rw [hphase]; exact nofun)
    have hp : { st with needStop := stop }.phase = .pacing := hphase
    rw [hcheck]
    exact h.trans hflag (h.pace60hz r conn hp)
  · exact h.checkStop hphase

end Pieces

/-! ## The fields that a block keeps -/

/-- What a pacing block does not touch. -/
structure Frame (st st' : ClientState) : Prop where
  recorder : st'.recorder = st.recorder
  eventRx : st'.peer.eventRx = st.peer.eventRx
  nextStreamId : st'.peer.nextStreamId = st.peer.nextStreamId
  alive : st'.peer.alive = st.peer.alive
  serverId : st'.serverId = st.serverId
  benchmarkStartTime : st'.benchmarkStartTime = st.benchmarkStartTime
  unreliableGameStream : st'.unreliableGameStream = st.unreliableGameStream
  reliableGameStream : st'.reliableGameStream = st.reliableGameStream

theorem Frame.trans {st st' st'' : ClientState} (h : Frame st st') (h' : Frame st' st'') :
    Frame st st'' :=
  ⟨h'.recorder.trans h.recorder, h'.eventRx.trans h.eventRx, h'.nextStreamId.trans h.nextStreamId,
    h'.alive.trans h.alive, h'.serverId.trans h.serverId,
    h'.benchmarkStartTime.trans h.benchmarkStartTime,
    h'.unreliableGameStream.trans h.unreliableGameStream,
    h'.reliableGameStream.trans h.reliableGameStream⟩

theorem frame_sendPacket (conn : GameConnection) (stream : GameStream) (micros : UInt64)
    (st : ClientState) : Frame st (sendPacket crc entropy args conn stream micros st) := by
  rw [sendPacket_eq]
  split_ifs <;> exact ⟨rfl, rfl, rfl, rfl, rfl, rfl, rfl, rfl⟩

theorem frame_pieces : Pieces crc entropy args Frame where
  trans := Frame.trans
  send := fun _ conn stream micros => frame_sendPacket conn stream micros _
  adjust := fun _ _ _ _ _ _ => ⟨rfl, rfl, rfl, rfl, rfl, rfl, rfl, rfl⟩

theorem frame_pace (r : PaceReading) {st : ClientState} (hphase : st.phase = .pacing) :
    Frame st (pace crc entropy args r st) := frame_pieces.pace r hphase

/-! ## Which packets go out -/

variable (entropy args)

/-- The 60 Hz block passes its packet, if one is due, to the backend. -/
def Sends60hz (r : PaceReading) (st : ClientState) : Prop :=
  Due60hz r st ∧ st.unreliableGameStream.isSome = true ∧ Fits entropy args ∧ st.peer.alive = true

/-- The 60 Hz block lets the iteration reach the 20 Hz block. -/
def Passes60hz (r : PaceReading) (st : ClientState) : Prop :=
  Due60hz r st →
    ∃ stream, st.unreliableGameStream = some stream ∧ Sendable entropy args stream st

/-- The 20 Hz block would pass a packet to the backend. -/
def Wants20hz (r : PaceReading) (st : ClientState) : Prop :=
  Due20hz r st ∧ st.reliableGameStream.isSome = true ∧ Fits entropy args ∧ st.peer.alive = true

instance (r : PaceReading) (st : ClientState) : Decidable (Sends60hz entropy args r st) :=
  inferInstanceAs (Decidable (_ ∧ _ ∧ _ ∧ _))

instance (r : PaceReading) (st : ClientState) : Decidable (Wants20hz entropy args r st) :=
  inferInstanceAs (Decidable (_ ∧ _ ∧ _ ∧ _))

instance (r : PaceReading) (st : ClientState) : Decidable (Passes60hz entropy args r st) :=
  match h : st.unreliableGameStream with
  | none => decidable_of_iff (¬ Due60hz r st) (by simp [Passes60hz, h])
  | some stream =>
    decidable_of_iff (Due60hz r st → Sendable entropy args stream st) (by simp [Passes60hz, h])

variable {entropy args}

/-! ## A connection -/

/-- Both streams of a connection can be asked for. -/
def Connectable (st : ClientState) : Prop :=
  st.peer.nextStreamId.toNat + 2 < UInt16.size ∧ st.peer.alive = true

theorem createStream_eq {p : GamePeer} (hid : p.nextStreamId.toNat + 1 < UInt16.size)
    (halive : p.alive = true) (conn : GameConnection) (reliability : GameStreamReliability) :
    p.createStream conn reliability =
      .ok { p with
        nextStreamId := p.nextStreamId + 1,
        cmdTx := p.cmdTx.send (.createStream conn (p.nextStreamId + 1) reliability) } := by
  rw [GamePeer.createStream, if_pos hid, GamePeer.sendCmd, if_pos halive]

theorem can_createStream {p p' : GamePeer} {conn : GameConnection}
    {reliability : GameStreamReliability} (h : p.createStream conn reliability = .ok p') :
    p.nextStreamId.toNat + 1 < UInt16.size ∧ p.alive = true := by
  unfold GamePeer.createStream at h
  split at h
  · next hid => exact ⟨hid, (GamePeer.sendCmd_eq_ok h).1⟩
  · cases h

theorem toNat_succ {id : UInt16} (h : id.toNat + 1 < UInt16.size) :
    (id + 1).toNat = id.toNat + 1 := by
  rw [UInt16.toNat_add, UInt16.toNat_one, Nat.mod_eq_of_lt h]

/-- The peer has asked for streams, and for nothing else. -/
structure Asks (p p' : GamePeer) : Prop where
  sent : p'.cmdTx.log.filterMap BackendCommand.sent = p.cmdTx.log.filterMap BackendCommand.sent
  eventRx : p'.eventRx = p.eventRx

theorem Asks.refl (p : GamePeer) : Asks p p := ⟨rfl, rfl⟩

theorem Asks.createStream {p p' p'' : GamePeer} (h : Asks p p') {conn : GameConnection}
    {reliability : GameStreamReliability} (hcall : p'.createStream conn reliability = .ok p'') :
    Asks p p'' := by
  have hpeer := GamePeer.createStream_eq_ok hcall
  subst hpeer
  refine ⟨?_, h.eventRx⟩
  rw [Channel.log_send, List.filterMap_append, h.sent]
  exact List.append_nil _

/-! ## An event -/

section Handles

variable (crc args)

/-- The branches of `handleEvent`. -/
inductive Handles (r : PollReading) (st : ClientState) : GameNetworkEvent → ClientState → Prop where
  | connected {c : GameConnection} {peer : GamePeer} (hcan : Connectable st)
    (hasks : Asks st.peer peer) (hnext : peer.nextStreamId = st.peer.nextStreamId + 1 + 1) :
    Handles r st (.connected c)
      { st with
        peer := peer, serverId := some c,
        benchmarkStartTime := st.benchmarkStartTime.or (some r.instant) }
  | refused {c : GameConnection} {peer : GamePeer} {phase : Phase} (hcan : ¬ Connectable st)
    (hasks : Asks st.peer peer) (hover : phase.over = true) :
    Handles r st (.connected c) { st with peer := peer, serverId := some c, phase := phase }
  | disconnected {c : GameConnection} :
    Handles r st (.disconnected c) { st with serverId := none, needStop := true, phase := .pacing }
  | garbled {c : GameConnection} {stream : GameStream} {data : Bytes}
    (hnone : BenchmarkPacket.fromBytes crc data = none) : Handles r st (.message c stream data) st
  | early {c : GameConnection} {stream : GameStream} {data : Bytes} {packet : BenchmarkPacket}
    (hpacket : BenchmarkPacket.fromBytes crc data = some packet)
    (hearly : ¬ pastWarmup args st.benchmarkStartTime r.instant = true) :
    Handles r st (.message c stream data) st
  | recorded {c : GameConnection} {stream : GameStream} {data : Bytes} {packet : BenchmarkPacket}
    (hpacket : BenchmarkPacket.fromBytes crc data = some packet)
    (hlate : pastWarmup args st.benchmarkStartTime r.instant = true) :
    Handles r st (.message c stream data)
      { st with recorder := st.recorder ++ [toRecord r stream packet] }
  | error {c : GameConnection} {inner : GameSocketError} : Handles r st (.error c inner) st
  | reliableCreated {c : GameConnection} {stream : GameStream} (hkind : stream.isReliable = true) :
    Handles r st (.streamCreated c stream) { st with reliableGameStream := some stream }
  | unreliableCreated {c : GameConnection} {stream : GameStream}
    (hkind : ¬ stream.isReliable = true) :
    Handles r st (.streamCreated c stream) { st with unreliableGameStream := some stream }
  | reliableClosed {c : GameConnection} {stream : GameStream} (hkind : stream.isReliable = true) :
    Handles r st (.streamClosed c stream) { st with reliableGameStream := none }
  | unreliableClosed {c : GameConnection} {stream : GameStream}
    (hkind : ¬ stream.isReliable = true) :
    Handles r st (.streamClosed c stream) { st with unreliableGameStream := none }

variable {crc args}

/-- A connection is taken over.  Its two streams are asked for and the time starts, or the client
does not go on. -/
theorem handles_connected (r : PollReading) (st : ClientState) (conn : GameConnection) :
    Handles crc args r st (.connected conn) (handleEvent crc args r st (.connected conn)) := by
  by_cases hcan : Connectable st
  · obtain ⟨hid, halive⟩ := hcan
    have hid' : st.peer.nextStreamId.toNat + 1 < UInt16.size := by omega
    let first : GamePeer :=
      { st.peer with
        nextStreamId := st.peer.nextStreamId + 1,
        cmdTx := st.peer.cmdTx.send (.createStream conn (st.peer.nextStreamId + 1) .unreliable) }
    have hfirst : st.peer.createStream conn .unreliable = .ok first :=
      createStream_eq hid' halive conn .unreliable
    have hnext : first.nextStreamId.toNat + 1 < UInt16.size := by
      show (st.peer.nextStreamId + 1).toNat + 1 < UInt16.size
      rw [toNat_succ hid']
      exact hid
    have hsecond := @createStream_eq first hnext halive conn .reliable
    simp only [handleEvent, after, hfirst, hsecond]
    exact .connected ⟨hid, halive⟩ (((Asks.refl _).createStream hfirst).createStream hsecond) rfl
  · simp only [handleEvent, after]
    cases hfirst : st.peer.createStream conn .unreliable with
    | err e => exact .refused hcan (.refl _) rfl
    | panic => exact .refused hcan (.refl _) rfl
    | ok first =>
      have hasks := (Asks.refl _).createStream hfirst
      dsimp only
      cases hsecond : first.createStream conn .reliable with
      | err e => exact .refused hcan hasks rfl
      | panic => exact .refused hcan hasks rfl
      | ok second =>
        -- both calls went through, so both ids were free
        obtain ⟨hid, halive⟩ := can_createStream hfirst
        have hid' := (can_createStream hsecond).1
        rw [GamePeer.createStream_eq_ok hfirst, toNat_succ hid] at hid'
        exact absurd ⟨hid', halive⟩ hcan

theorem handles_of_handleEvent {r : PollReading} {st st' : ClientState} {e : GameNetworkEvent}
    (h : handleEvent crc args r st e = st') : Handles crc args r st e st' := by
  subst h
  cases e with
  | connected c => exact handles_connected r st c
  | disconnected c => exact .disconnected
  | message c stream data =>
    rw [handleEvent]
    split
    · next packet hpacket =>
      split
      · next hlate => exact .recorded hpacket hlate
      · next hearly => exact .early hpacket hearly
    · next hnone => exact .garbled hnone
  | error c inner => exact .error
  | streamCreated c stream =>
    rw [handleEvent]
    split
    · next hkind => exact .reliableCreated hkind
    · next hkind => exact .unreliableCreated hkind
  | streamClosed c stream =>
    rw [handleEvent]
    split
    · next hkind => exact .reliableClosed hkind
    · next hkind => exact .unreliableClosed hkind

end Handles

/-! ## The two streams -/

/-- Each stream of the loop is of its kind. -/
structure StreamKinds (st : ClientState) : Prop where
  unreliable : ∀ s, st.unreliableGameStream = some s → s.isReliable = false
  reliable : ∀ s, st.reliableGameStream = some s → s.isReliable = true

theorem StreamKinds.ne {st : ClientState} (h : StreamKinds st) {s s' : GameStream}
    (hs : st.unreliableGameStream = some s) (hs' : st.reliableGameStream = some s') : s' ≠ s := by
  rintro rfl
  have := (h.unreliable _ hs).symm.trans (h.reliable _ hs')
  cases this

theorem streamKinds_init (t60 t20 : Nat) : StreamKinds (init args t60 t20) := ⟨nofun, nofun⟩

theorem streamKinds_handleEvent {st : ClientState} (h : StreamKinds st) (r : PollReading)
    (e : GameNetworkEvent) : StreamKinds (handleEvent crc args r st e) := by
  generalize hst : handleEvent crc args r st e = st'
  cases handles_of_handleEvent hst with
  | reliableCreated hkind => exact ⟨h.unreliable, fun s hs => Option.some.inj hs ▸ hkind⟩
  | unreliableCreated hkind =>
    exact ⟨fun s hs => Option.some.inj hs ▸ Bool.eq_false_iff.mpr hkind, h.reliable⟩
  | reliableClosed hkind => exact ⟨h.unreliable, nofun⟩
  | unreliableClosed hkind => exact ⟨nofun, h.reliable⟩
  | _ => exact ⟨h.unreliable, h.reliable⟩

theorem streamKinds_poll {st : ClientState} (h : StreamKinds st) (r : PollReading) :
    StreamKinds (poll crc args r st) := by
  unfold poll
  split
  · next e peer _ =>
    have hpeer : StreamKinds { st with peer := peer } := ⟨h.unreliable, h.reliable⟩
    exact streamKinds_handleEvent hpeer r e
  · exact ⟨h.unreliable, h.reliable⟩
  · exact ⟨h.unreliable, h.reliable⟩

theorem streamKinds_step {st st' : ClientState} {a : Action} (h : StreamKinds st)
    (hstep : step crc entropy args st a = some st') : StreamKinds st' := by
  cases steps_of_step hstep with
  | @poll r _ =>
    exact streamKinds_poll h r
  | @pace r hphase =>
    have hframe := @frame_pace crc entropy args r st hphase
    exact ⟨hframe.unreliableGameStream ▸ h.unreliable, hframe.reliableGameStream ▸ h.reliable⟩
  | emits =>
    exact ⟨h.unreliable, h.reliable⟩
  | stops =>
    exact ⟨h.unreliable, h.reliable⟩

end Pacing

end Client
end GameSockets
