/-
`QuicBackend`: the select loop, the accept tasks, and the reader tasks of each
connection and of each stream.

Every step is one action of one party, so a run is an interleaving of the tasks.
The awaits inside the loop (connecting, opening a stream, writing) keep the loop from
its other branches but not the tasks from theirs, which share only channels with it.
-/
import GameSockets.Library.Framing
import GameSockets.Library.Run
import GameSockets.Basic
import Mathlib.Logic.Function.Basic

namespace GameSockets
namespace Quic

open Library

/-- The bytes of a frame's length. -/
def lengthSize : Nat := 4

/-- The frame that a `Send` writes; `data.len() as u32` drops the high bits. -/
def frame (data : Bytes) : Bytes := putU32 (UInt32.ofNat data.length) ++ data

/-- The sending half of a stream, as the bytes written to it. -/
structure SendStream where
  written : Bytes
deriving DecidableEq

/-- What goes over the stream registration channel. -/
structure StreamRegistration where
  connection : Uuid
  stream : GameStream
  sendStream : Option SendStream
deriving DecidableEq

def StreamRegistration.key (r : StreamRegistration) : Uuid × UInt16 :=
  (r.connection, r.stream.streamId)

inductive LoopPhase where
  /-- in the `select!` -/
  | selecting
  | stopped
  /-- an `unwrap` has failed -/
  | panicked
deriving DecidableEq

/-- Where an accept task stands. -/
inductive AcceptPhase where
  /-- in `endpoint.accept().await` or `conn.await` -/
  | accepting
  /-- `Connected` is sent, the connection not yet -/
  | announced (uuid : Uuid)
deriving DecidableEq

/-- The UUID whose connection the task holds. -/
def AcceptPhase.held : AcceptPhase → List Uuid
  | .accepting => []
  | .announced uuid => [uuid]

/-- The task that reads the datagrams of a connection. -/
structure DatagramReader where
  knownStreams : List UInt16
  /-- a datagram whose `Message` is yet to be sent -/
  current : Option (UInt16 × Bytes)

/-- `stream_reading_loop`: a task that reads one stream. -/
structure StreamReader where
  uuid : Uuid
  streamId : UInt16
  /-- bytes that have arrived and belong to no complete frame -/
  buf : Bytes

/-- The system's answers while a command is processed. -/
structure CommandEnv where
  /-- the address parses and `Endpoint::server` succeeds -/
  bindOk : Bool
  /-- the address parses and `endpoint.connect` succeeds -/
  connectOk : Bool
  /-- the result of `Uuid::new_v4()` -/
  newV4 : Uuid
  /-- `open_bi` succeeds -/
  openOk : Bool
  /-- the error of a send, and how many bytes a stream has taken before it -/
  sendError : Option (Nat × String)

/-- Nothing fails. -/
def CommandEnv.allOk : CommandEnv :=
  { bindOk := true, connectOk := true, newV4 := Uuid.nil, openOk := true, sendError := none }

/-- The backend while it runs.  The tasks that accept the streams of a connection and
that read its datagrams are spawned together. -/
structure QuicBackend where
  peer : GamePeer
  connections : List Uuid
  reliableSendStreams : Uuid × UInt16 → Option SendStream
  unreliableSendStreams : List (Uuid × UInt16)
  connReg : Channel Uuid
  streamReg : Channel StreamRegistration
  loop : LoopPhase
  accepts : List AcceptPhase
  readers : Uuid → Option DatagramReader
  streamReaders : List StreamReader
  /-- the datagrams sent -/
  datagrams : List (Uuid × Bytes)

inductive Action where
  /-- the application issues a command -/
  | issue (cmd : BackendCommand)
  /-- the application polls -/
  | poll
  /-- the loop takes a connection registration -/
  | registerConnection
  /-- the loop takes a stream registration -/
  | registerStream
  /-- the loop takes a command -/
  | command (env : CommandEnv)
  /-- accept task `k` accepts a connection -/
  | announce (k : Nat) (uuid : Uuid)
  /-- accept task `k` sends the connection to the loop and spawns its readers -/
  | handOver (k : Nat)
  /-- a connection's reader gets a datagram -/
  | readDatagram (uuid : Uuid) (bytes : Bytes)
  /-- a connection's reader sends the `Message` of its datagram -/
  | sendDatagram (uuid : Uuid)
  /-- a stream of a connection is accepted, and the bytes of its index have arrived -/
  | acceptStream (uuid : Uuid) (bytes : Bytes)
  /-- bytes arrive on the stream of reader `k` -/
  | readStream (k : Nat) (chunk : Bytes)

/-! ## Reading a stream -/

/-- `read_u16`, when two bytes have arrived. -/
def readU16 (bytes : Bytes) : Option (UInt16 × Bytes) :=
  if 2 ≤ bytes.length then some (getU16 (bytes.take 2), bytes.drop 2) else none

/-- What `stream_reading_loop` emits for the bytes that have arrived, and what it
keeps: it waits in `read_u32` or `read_exact` for the rest of a frame. -/
def streamReadingLoop (uuid : Uuid) (streamId : UInt16) (bytes : Bytes) :
    List GameNetworkEvent × Bytes :=
  let (payloads, rest) := Framing.parse lengthSize bytes.length bytes
  (payloads.map fun data => .message uuid (GameStream.new streamId .reliable) data, rest)

/-- A stream reader emits `Message`s of its own stream alone. -/
theorem streamReadingLoop_events {uuid : Uuid} {streamId : UInt16} {bytes rest : Bytes}
    {events : List GameNetworkEvent} (h : streamReadingLoop uuid streamId bytes = (events, rest)) :
    ∀ e ∈ events, ∃ data, e = .message uuid (GameStream.new streamId .reliable) data := by
  intro e he
  cases h
  obtain ⟨data, -, rfl⟩ := List.mem_map.mp he
  exact ⟨data, rfl⟩

namespace QuicBackend

def init : QuicBackend :=
  { peer := GamePeer.new, connections := [], reliableSendStreams := fun _ => none,
    unreliableSendStreams := [], connReg := Channel.empty, streamReg := Channel.empty,
    loop := .selecting, accepts := [], readers := fun _ => none, streamReaders := [],
    datagrams := [] }

/-- The loop has not ended, so the runtime and its tasks live. -/
def running (s : QuicBackend) : Bool := s.loop = .selecting

/-- A UUID that `Uuid::new_v4()` can still draw. -/
def Fresh (s : QuicBackend) (uuid : Uuid) : Prop :=
  uuid ∉ s.connections ∧ uuid ∉ s.accepts.flatMap AcceptPhase.held ++ s.connReg.pending

instance (s : QuicBackend) (uuid : Uuid) : Decidable (s.Fresh uuid) :=
  inferInstanceAs (Decidable (_ ∧ _))

def emit (s : QuicBackend) (events : List GameNetworkEvent) : QuicBackend :=
  { s with peer := { s.peer with eventRx := s.peer.eventRx.sendAll events } }

/-- The loop ends, and with it the runtime and the thread. -/
def stop (s : QuicBackend) (phase : LoopPhase) : QuicBackend :=
  { s with loop := phase, peer := { s.peer with alive := false } }

/-- `spawn_reader` -/
def spawnReader (s : QuicBackend) (uuid : Uuid) : QuicBackend :=
  { s with
    readers := Function.update s.readers uuid (some { knownStreams := [], current := none }) }

def setReader (s : QuicBackend) (uuid : Uuid) (r : DatagramReader) : QuicBackend :=
  { s with readers := Function.update s.readers uuid (some r) }

/-- `stream_reg_tx.send` -/
def sendRegistration (s : QuicBackend) (r : StreamRegistration) : QuicBackend :=
  { s with streamReg := s.streamReg.send r }

/-- `write_all` on the stream of a key, and its result. -/
def writeAll (s : QuicBackend) (key : Uuid × UInt16) (stream : SendStream) (bytes : Bytes) :
    Option (Nat × String) → QuicBackend
  | none =>
    { s with
      reliableSendStreams :=
        Function.update s.reliableSendStreams key (some { written := stream.written ++ bytes }) }
  | some (n, msg) =>
    { s.emit [.error key.1 (.sendFailed msg)] with
      reliableSendStreams :=
        Function.update s.reliableSendStreams key
          (some { written := stream.written ++ bytes.take n }) }

def processCommand (env : CommandEnv) (s : QuicBackend) : BackendCommand → Option QuicBackend
  | .bind _ _ =>
    if env.bindOk then some { s with accepts := s.accepts ++ [.accepting] }
    else some (s.stop .panicked)
  | .connect _ _ =>
    if env.connectOk then
      if s.Fresh env.newV4 then
        some
          { (s.emit [.connected env.newV4]).spawnReader env.newV4 with
            connections := env.newV4 :: s.connections }
      else none
    else some (s.stop .panicked)
  | .send connection stream data =>
    if connection ∈ s.connections then
      if stream.isReliable then
        match s.reliableSendStreams (connection, stream.streamId) with
        | none => some s
        | some sendStream =>
          some (s.writeAll (connection, stream.streamId) sendStream (frame data) env.sendError)
      else
        match env.sendError with
        | none =>
          some
            { s with datagrams := s.datagrams ++ [(connection, putU16 stream.streamId ++ data)] }
        | some (_, msg) => some (s.emit [.error connection (.sendFailed msg)])
    else some s
  | .shutdown => some (s.stop .stopped)
  | .createStream connection stream reliability =>
    if reliability = .reliable then
      if connection ∈ s.connections then
        if env.openOk then
          let sendStream : SendStream := { written := putU16 stream }
          some
            { s.sendRegistration
                { connection := connection, stream := GameStream.new stream reliability,
                  sendStream := some sendStream } with
              streamReaders :=
                s.streamReaders ++ [{ uuid := connection, streamId := stream, buf := [] }] }
        else some (s.stop .panicked)
      else some s
    else
      some
        (s.sendRegistration
          { connection := connection, stream := GameStream.new stream reliability,
            sendStream := none })
  | .closeStream connection stream =>
    some
      { s.emit [.streamClosed connection { streamId := stream }] with
        reliableSendStreams := Function.update s.reliableSendStreams (connection, stream) none,
        unreliableSendStreams := s.unreliableSendStreams.filter (· ≠ (connection, stream)) }

/-- The loop takes a stream registration. -/
def processRegistration (s : QuicBackend) (r : StreamRegistration) : QuicBackend :=
  match r.stream.isReliable, r.sendStream with
  | true, some sendStream =>
    { s.emit [.streamCreated r.connection r.stream] with
      reliableSendStreams := Function.update s.reliableSendStreams r.key (some sendStream) }
  | _, _ =>
    if r.key ∈ s.unreliableSendStreams then s
    else
      { s.emit [.streamCreated r.connection r.stream] with
        unreliableSendStreams := s.unreliableSendStreams ++ [r.key] }

/-- A registration concerns the stream tables and the events alone. -/
theorem processRegistration_eq (s : QuicBackend) (r : StreamRegistration) :
    ∃ events reliable unreliable,
      s.processRegistration r =
        { s.emit events with
          reliableSendStreams := reliable, unreliableSendStreams := unreliable } := by
  unfold processRegistration
  split
  · exact ⟨_, _, _, rfl⟩
  · split
    · exact ⟨[], s.reliableSendStreams, s.unreliableSendStreams, by simp [emit, Channel.sendAll]⟩
    · exact ⟨_, _, _, rfl⟩

@[simp] theorem loop_processRegistration (s : QuicBackend) (r : StreamRegistration) :
    (s.processRegistration r).loop = s.loop := by
  obtain ⟨_, _, _, h⟩ := processRegistration_eq s r
  rw [h]
  rfl

@[simp] theorem streamReg_processRegistration (s : QuicBackend) (r : StreamRegistration) :
    (s.processRegistration r).streamReg = s.streamReg := by
  obtain ⟨_, _, _, h⟩ := processRegistration_eq s r
  rw [h]
  rfl

@[simp] theorem connections_processRegistration (s : QuicBackend) (r : StreamRegistration) :
    (s.processRegistration r).connections = s.connections := by
  obtain ⟨_, _, _, h⟩ := processRegistration_eq s r
  rw [h]
  rfl

@[simp] theorem accepts_processRegistration (s : QuicBackend) (r : StreamRegistration) :
    (s.processRegistration r).accepts = s.accepts := by
  obtain ⟨_, _, _, h⟩ := processRegistration_eq s r
  rw [h]
  rfl

@[simp] theorem readers_processRegistration (s : QuicBackend) (r : StreamRegistration) :
    (s.processRegistration r).readers = s.readers := by
  obtain ⟨_, _, _, h⟩ := processRegistration_eq s r
  rw [h]
  rfl

@[simp] theorem cmdTx_processRegistration (s : QuicBackend) (r : StreamRegistration) :
    (s.processRegistration r).peer.cmdTx = s.peer.cmdTx := by
  obtain ⟨_, _, _, h⟩ := processRegistration_eq s r
  rw [h]
  rfl

@[simp] theorem nextStreamId_processRegistration (s : QuicBackend) (r : StreamRegistration) :
    (s.processRegistration r).peer.nextStreamId = s.peer.nextStreamId := by
  obtain ⟨_, _, _, h⟩ := processRegistration_eq s r
  rw [h]
  rfl

def step (s : QuicBackend) : Action → Option QuicBackend
  | .issue cmd =>
    match s.peer.sendCmd cmd with
    | .ok peer => some { s with peer := peer }
    | _ => none
  | .poll =>
    match s.peer.poll with
    | .ok (some (_, peer)) => some { s with peer := peer }
    | _ => none
  | .registerConnection =>
    match s.loop, s.connReg.recv with
    | .selecting, some (uuid, reg) =>
      some { s with connections := uuid :: s.connections, connReg := reg }
    | _, _ => none
  | .registerStream =>
    match s.loop, s.streamReg.recv with
    | .selecting, some (r, reg) => some (processRegistration { s with streamReg := reg } r)
    | _, _ => none
  | .command env =>
    match s.loop, s.peer.cmdTx.recv with
    | .selecting, some (cmd, tx) =>
      processCommand env { s with peer := { s.peer with cmdTx := tx } } cmd
    | _, _ => none
  | .announce k uuid =>
    if s.running ∧ s.accepts[k]? = some .accepting ∧ s.Fresh uuid then
      some { s.emit [.connected uuid] with accepts := s.accepts.set k (.announced uuid) }
    else none
  | .handOver k =>
    match s.running, s.accepts[k]? with
    | true, some (.announced uuid) =>
      some
        { s.spawnReader uuid with
          accepts := s.accepts.set k .accepting, connReg := s.connReg.send uuid }
    | _, _ => none
  | .readDatagram uuid bytes =>
    match s.running, s.readers uuid with
    | true, some { knownStreams := known, current := none } =>
      match readU16 bytes with
      | none => some s
      | some (streamId, data) =>
        let reader := { knownStreams := known, current := some (streamId, data) }
        if streamId ∈ known then some (s.setReader uuid reader)
        else
          some
            ((s.setReader uuid { reader with knownStreams := known ++ [streamId] }).sendRegistration
              { connection := uuid, stream := { streamId := streamId }, sendStream := none })
    | _, _ => none
  | .sendDatagram uuid =>
    match s.running, s.readers uuid with
    | true, some { knownStreams := known, current := some (streamId, data) } =>
      some
        ((s.emit [.message uuid { streamId := streamId } data]).setReader uuid
          { knownStreams := known, current := none })
    | _, _ => none
  | .acceptStream uuid bytes =>
    match s.running, s.readers uuid, readU16 bytes with
    | true, some _, some (streamId, []) =>
      some
        { s.sendRegistration
            { connection := uuid, stream := GameStream.new streamId .reliable,
              sendStream := some { written := [] } } with
          streamReaders :=
            s.streamReaders ++ [{ uuid := uuid, streamId := streamId, buf := [] }] }
    | _, _, _ => none
  | .readStream k chunk =>
    match s.running, s.streamReaders[k]? with
    | true, some reader =>
      let (events, rest) := streamReadingLoop reader.uuid reader.streamId (reader.buf ++ chunk)
      some
        { s.emit events with
          streamReaders := s.streamReaders.set k { reader with buf := rest } }
    | _, _ => none

/-- The branches of `processCommand`: what each asks of the state, and what it makes
of it. -/
inductive Processes (env : CommandEnv) (s : QuicBackend) : BackendCommand → QuicBackend → Prop where
  | bind {addr : String} {port : UInt16} (hok : env.bindOk = true) :
    Processes env s (.bind addr port) { s with accepts := s.accepts ++ [.accepting] }
  | bindFails {addr : String} {port : UInt16} (hfails : ¬ env.bindOk = true) :
    Processes env s (.bind addr port) (s.stop .panicked)
  | connect {addr : String} {port : UInt16} (hok : env.connectOk = true)
    (hfresh : s.Fresh env.newV4) :
    Processes env s (.connect addr port)
      { (s.emit [.connected env.newV4]).spawnReader env.newV4 with
        connections := env.newV4 :: s.connections }
  | connectFails {addr : String} {port : UInt16} (hfails : ¬ env.connectOk = true) :
    Processes env s (.connect addr port) (s.stop .panicked)
  | send {c : Uuid} {stream : GameStream} {data : Bytes} {sendStream : SendStream}
    (hconn : c ∈ s.connections) (hreliable : stream.isReliable = true)
    (hstream : s.reliableSendStreams (c, stream.streamId) = some sendStream) :
    Processes env s (.send c stream data)
      (s.writeAll (c, stream.streamId) sendStream (frame data) env.sendError)
  | noStream {c : Uuid} {stream : GameStream} {data : Bytes} (hconn : c ∈ s.connections)
    (hreliable : stream.isReliable = true)
    (hstream : s.reliableSendStreams (c, stream.streamId) = none) :
    Processes env s (.send c stream data) s
  | datagram {c : Uuid} {stream : GameStream} {data : Bytes} (hconn : c ∈ s.connections)
    (hunreliable : ¬ stream.isReliable = true) (hok : env.sendError = none) :
    Processes env s (.send c stream data)
      { s with datagrams := s.datagrams ++ [(c, putU16 stream.streamId ++ data)] }
  | datagramFails {c : Uuid} {stream : GameStream} {data : Bytes} {n : Nat} {msg : String}
    (hconn : c ∈ s.connections) (hunreliable : ¬ stream.isReliable = true)
    (hfails : env.sendError = some (n, msg)) :
    Processes env s (.send c stream data) (s.emit [.error c (.sendFailed msg)])
  | noConnection {c : Uuid} {stream : GameStream} {data : Bytes} (hconn : c ∉ s.connections) :
    Processes env s (.send c stream data) s
  | shutdown : Processes env s .shutdown (s.stop .stopped)
  | openStream {c : Uuid} {i : UInt16} (hconn : c ∈ s.connections) (hok : env.openOk = true) :
    Processes env s (.createStream c i .reliable)
      { s.sendRegistration
          { connection := c, stream := GameStream.new i .reliable,
            sendStream := some { written := putU16 i } } with
        streamReaders := s.streamReaders ++ [{ uuid := c, streamId := i, buf := [] }] }
  | openFails {c : Uuid} {i : UInt16} (hconn : c ∈ s.connections)
    (hfails : ¬ env.openOk = true) :
    Processes env s (.createStream c i .reliable) (s.stop .panicked)
  | openUnconnected {c : Uuid} {i : UInt16} (hconn : c ∉ s.connections) :
    Processes env s (.createStream c i .reliable) s
  | createStream {c : Uuid} {i : UInt16} {reliability : GameStreamReliability}
    (hunreliable : reliability ≠ .reliable) :
    Processes env s (.createStream c i reliability)
      (s.sendRegistration
        { connection := c, stream := GameStream.new i reliability, sendStream := none })
  | closeStream {c : Uuid} {i : UInt16} :
    Processes env s (.closeStream c i)
      { s.emit [.streamClosed c { streamId := i }] with
        reliableSendStreams := Function.update s.reliableSendStreams (c, i) none,
        unreliableSendStreams := s.unreliableSendStreams.filter (· ≠ (c, i)) }

theorem processes_of_processCommand {env : CommandEnv} {s t : QuicBackend} {cmd : BackendCommand}
    (h : processCommand env s cmd = some t) : Processes env s cmd t := by
  cases cmd with
  | bind addr port =>
    simp only [processCommand] at h
    split at h
    · next hok =>
      cases h
      exact .bind hok
    · next hfails =>
      cases h
      exact .bindFails hfails
  | connect addr port =>
    simp only [processCommand] at h
    split at h
    · next hok =>
      split at h
      · next hfresh =>
        cases h
        exact .connect hok hfresh
      · cases h
    · next hfails =>
      cases h
      exact .connectFails hfails
  | send c stream data =>
    simp only [processCommand] at h
    split at h
    · next hconn =>
      split at h
      · next hreliable =>
        split at h
        · next hstream =>
          cases h
          exact .noStream hconn hreliable hstream
        · next sendStream hstream =>
          cases h
          exact .send hconn hreliable hstream
      · next hunreliable =>
        split at h
        · next hok =>
          cases h
          exact .datagram hconn hunreliable hok
        · next n msg hfails =>
          cases h
          exact .datagramFails hconn hunreliable hfails
    · next hconn =>
      cases h
      exact .noConnection hconn
  | shutdown =>
    cases h
    exact .shutdown
  | createStream c i reliability =>
    simp only [processCommand] at h
    split at h
    · next hreliable =>
      subst hreliable
      split at h
      · next hconn =>
        split at h
        · next hok =>
          cases h
          exact .openStream hconn hok
        · next hfails =>
          cases h
          exact .openFails hconn hfails
      · next hconn =>
        cases h
        exact .openUnconnected hconn
    · next hunreliable =>
      cases h
      exact .createStream hunreliable
  | closeStream c i =>
    cases h
    exact .closeStream

/-- The branches of `step`. -/
inductive Steps (s : QuicBackend) : Action → QuicBackend → Prop where
  | issue {cmd : BackendCommand} (halive : s.peer.alive = true) :
    Steps s (.issue cmd) { s with peer := { s.peer with cmdTx := s.peer.cmdTx.send cmd } }
  | poll {e : GameNetworkEvent} {rx : Channel GameNetworkEvent}
    (hrecv : s.peer.eventRx.recv = some (e, rx)) :
    Steps s .poll { s with peer := { s.peer with eventRx := rx } }
  | registerConnection {uuid : Uuid} {reg : Channel Uuid} (hloop : s.loop = .selecting)
    (hrecv : s.connReg.recv = some (uuid, reg)) :
    Steps s .registerConnection { s with connections := uuid :: s.connections, connReg := reg }
  | registerStream {r : StreamRegistration} {reg : Channel StreamRegistration}
    (hloop : s.loop = .selecting) (hrecv : s.streamReg.recv = some (r, reg)) :
    Steps s .registerStream (processRegistration { s with streamReg := reg } r)
  | command {env : CommandEnv} {cmd : BackendCommand} {tx : Channel BackendCommand}
    {t : QuicBackend} (hloop : s.loop = .selecting) (hrecv : s.peer.cmdTx.recv = some (cmd, tx))
    (hcommand : Processes env { s with peer := { s.peer with cmdTx := tx } } cmd t) :
    Steps s (.command env) t
  | announce {k : Nat} {uuid : Uuid} (hrunning : s.running = true)
    (hphase : s.accepts[k]? = some .accepting) (hfresh : s.Fresh uuid) :
    Steps s (.announce k uuid)
      { s.emit [.connected uuid] with accepts := s.accepts.set k (.announced uuid) }
  | handOver {k : Nat} {uuid : Uuid} (hrunning : s.running = true)
    (hphase : s.accepts[k]? = some (.announced uuid)) :
    Steps s (.handOver k)
      { s.spawnReader uuid with
        accepts := s.accepts.set k .accepting, connReg := s.connReg.send uuid }
  | shortDatagram {uuid : Uuid} {bytes : Bytes} {known : List UInt16} (hrunning : s.running = true)
    (hreader : s.readers uuid = some { knownStreams := known, current := none })
    (hread : readU16 bytes = none) :
    Steps s (.readDatagram uuid bytes) s
  | readDatagram {uuid : Uuid} {bytes data : Bytes} {known : List UInt16} {streamId : UInt16}
    (hrunning : s.running = true)
    (hreader : s.readers uuid = some { knownStreams := known, current := none })
    (hread : readU16 bytes = some (streamId, data)) (hknown : streamId ∈ known) :
    Steps s (.readDatagram uuid bytes)
      (s.setReader uuid { knownStreams := known, current := some (streamId, data) })
  | newDatagram {uuid : Uuid} {bytes data : Bytes} {known : List UInt16} {streamId : UInt16}
    (hrunning : s.running = true)
    (hreader : s.readers uuid = some { knownStreams := known, current := none })
    (hread : readU16 bytes = some (streamId, data)) (hnew : streamId ∉ known) :
    Steps s (.readDatagram uuid bytes)
      ((s.setReader uuid
          { knownStreams := known ++ [streamId],
            current := some (streamId, data) }).sendRegistration
        { connection := uuid, stream := { streamId := streamId }, sendStream := none })
  | sendDatagram {uuid : Uuid} {data : Bytes} {known : List UInt16} {streamId : UInt16}
    (hrunning : s.running = true)
    (hreader : s.readers uuid =
      some { knownStreams := known, current := some (streamId, data) }) :
    Steps s (.sendDatagram uuid)
      ((s.emit [.message uuid { streamId := streamId } data]).setReader uuid
        { knownStreams := known, current := none })
  | acceptStream {uuid : Uuid} {bytes : Bytes} {streamId : UInt16} (hrunning : s.running = true)
    (hreader : s.readers uuid ≠ none) (hread : readU16 bytes = some (streamId, [])) :
    Steps s (.acceptStream uuid bytes)
      { s.sendRegistration
          { connection := uuid, stream := GameStream.new streamId .reliable,
            sendStream := some { written := [] } } with
        streamReaders :=
          s.streamReaders ++ [{ uuid := uuid, streamId := streamId, buf := [] }] }
  | readStream {k : Nat} {chunk rest : Bytes} {reader : StreamReader}
    {events : List GameNetworkEvent} (hrunning : s.running = true)
    (hreader : s.streamReaders[k]? = some reader)
    (hread : streamReadingLoop reader.uuid reader.streamId (reader.buf ++ chunk) = (events, rest)) :
    Steps s (.readStream k chunk)
      { s.emit events with streamReaders := s.streamReaders.set k { reader with buf := rest } }

theorem steps_of_step {s t : QuicBackend} {a : Action} (h : s.step a = some t) : Steps s a t := by
  cases a with
  | issue cmd =>
    simp only [step] at h
    split at h
    · next peer hsend =>
      cases h
      obtain ⟨halive, rfl⟩ := GamePeer.sendCmd_eq_ok hsend
      exact .issue halive
    · cases h
  | poll =>
    simp only [step] at h
    split at h
    · next e peer hpoll =>
      cases h
      obtain ⟨rx, hrecv, rfl⟩ := GamePeer.poll_eq_some hpoll
      exact .poll hrecv
    · cases h
  | registerConnection =>
    simp only [step] at h
    split at h
    · next uuid reg hloop hrecv =>
      cases h
      exact .registerConnection hloop hrecv
    · cases h
  | registerStream =>
    simp only [step] at h
    split at h
    · next r reg hloop hrecv =>
      cases h
      exact .registerStream hloop hrecv
    · cases h
  | command env =>
    simp only [step] at h
    split at h
    · next cmd tx hloop hrecv =>
      exact .command hloop hrecv (processes_of_processCommand h)
    · cases h
  | announce k uuid =>
    simp only [step] at h
    split at h
    · next hcond =>
      cases h
      exact .announce hcond.1 hcond.2.1 hcond.2.2
    · cases h
  | handOver k =>
    simp only [step] at h
    split at h
    · next uuid hrunning hphase =>
      cases h
      exact .handOver hrunning hphase
    · cases h
  | readDatagram uuid bytes =>
    simp only [step] at h
    split at h
    · next known hrunning hreader =>
      split at h
      · next hread =>
        cases h
        exact .shortDatagram hrunning hreader hread
      · next streamId data hread =>
        split at h
        · next hknown =>
          cases h
          exact .readDatagram hrunning hreader hread hknown
        · next hnew =>
          cases h
          exact .newDatagram hrunning hreader hread hnew
    · cases h
  | sendDatagram uuid =>
    simp only [step] at h
    split at h
    · next known streamId data hrunning hreader =>
      cases h
      exact .sendDatagram hrunning hreader
    · cases h
  | acceptStream uuid bytes =>
    simp only [step] at h
    split at h
    · next reader streamId hrunning hreader hread =>
      cases h
      refine .acceptStream hrunning ?_ hread
      rw [hreader]
      exact Option.some_ne_none _
    · cases h
  | readStream k chunk =>
    simp only [step] at h
    split at h
    · next reader hrunning hreader =>
      cases h
      exact .readStream hrunning hreader rfl
    · cases h

end QuicBackend

end Quic
end GameSockets
