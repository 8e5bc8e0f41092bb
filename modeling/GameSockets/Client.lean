/-
`client.rs`: the benchmark loop.

The loop alternates between polling events until none is left and a pacing block
that sends the packets that are due.  An action of the model is one poll or one
pacing block; the clock readings it takes are part of the action.  Instants are
nanoseconds, and `duration_since` saturates at zero as subtraction of naturals
does.
-/
import GameSockets.BenchmarkPacket
import GameSockets.Library.Run
import Mathlib.Logic.Function.Basic

namespace GameSockets
namespace Client

open Library

/-- The arguments that the loop reads, with their `default_value`s. -/
structure CliArgs where
  ip : String := "127.0.0.1"
  port : UInt16 := 8080
  packetSize : Nat := 1000
  /-- seconds -/
  duration : UInt64 := 30
  /-- seconds -/
  warmup : UInt64 := 0

/-- The defaults, with packets that are only a header. -/
def emptyPackets : CliArgs := { packetSize := 0 }

/-- One row of the results file. -/
structure BenchmarkRecord where
  packetId : UInt64
  streamId : UInt16
  rttUs : UInt64
  payloadSize : UInt64
  recvTimestamp : UInt64
deriving DecidableEq

/-- Where the loop stands. -/
inductive Phase where
  /-- in `while let Some(event) = client.poll()?` -/
  | polling
  /-- at the pacing block -/
  | pacing
  | returned (result : Except GameSocketError Unit)
  | panicked
deriving DecidableEq

structure ClientState where
  peer : GamePeer
  recorder : List BenchmarkRecord
  needStop : Bool
  serverId : Option GameConnection
  packetSequences : GameStream → Option UInt64
  benchmarkStartTime : Option Nat
  last60hzTick : Nat
  unreliableGameStream : Option GameStream
  last20hzTick : Nat
  reliableGameStream : Option GameStream
  phase : Phase

def interval60hz : Nat := 16666 * 1000

def interval20hz : Nat := 50 * 1000000

def nanosPerSec : Nat := 1000000000

/-- The clock readings a poll may take. -/
structure PollReading where
  /-- `Instant::now()` -/
  instant : Nat
  /-- `SystemTime::now()`, in microseconds -/
  micros : UInt64

/-- The clock readings of a pacing block. -/
structure PaceReading where
  /-- the `Instant::now()` of `start.elapsed()` -/
  elapsedAt : Nat
  /-- `now` -/
  now : Nat
  /-- the timestamps of the two packets, in microseconds -/
  micros60hz : UInt64
  micros20hz : UInt64

section Loop

variable (crc : Bytes → UInt32) (entropy : Bytes) (args : CliArgs)

/-- The warmup filter. -/
def pastWarmup (start : Option Nat) (now : Nat) : Bool :=
  match start with
  | some t => (now - t) / nanosPerSec > args.warmup.toNat
  | none => false

/-- The row for a packet polled at `r`. -/
def toRecord (r : PollReading) (stream : GameStream) (packet : BenchmarkPacket) :
    BenchmarkRecord :=
  { packetId := packet.id,
    streamId := stream.streamId,
    rttUs := saturatingSub r.micros packet.timestamp,
    payloadSize := UInt64.ofNat packet.payload.length,
    recvTimestamp := r.micros }

/-- `?` on a call of the peer. -/
def after (st : ClientState) (result : Outcome GamePeer) (next : ClientState → ClientState) :
    ClientState :=
  match result with
  | .ok peer => next { st with peer := peer }
  | .err e => { st with phase := .returned (.error e) }
  | .panic => { st with phase := .panicked }

def handleEvent (r : PollReading) (st : ClientState) : GameNetworkEvent → ClientState
  | .connected connection =>
    let st := { st with serverId := some connection }
    after st (st.peer.createStream connection .unreliable) fun st =>
      after st (st.peer.createStream connection .reliable) fun st =>
        { st with benchmarkStartTime := st.benchmarkStartTime.or (some r.instant) }
  | .disconnected _ => { st with serverId := none, needStop := true, phase := .pacing }
  | .message _ stream data =>
    match BenchmarkPacket.fromBytes crc data with
    | some packet =>
      if pastWarmup args st.benchmarkStartTime r.instant then
        { st with recorder := st.recorder ++ [toRecord r stream packet] }
      else st
    | none => st
  | .error _ _ => st
  | .streamCreated _ stream =>
    if stream.isReliable then { st with reliableGameStream := some stream }
    else { st with unreliableGameStream := some stream }
  | .streamClosed _ stream =>
    if stream.isReliable then { st with reliableGameStream := none }
    else { st with unreliableGameStream := none }

/-- Number and send the next packet of a stream.  The entry of a new stream is 0,
and the increment panics when the counter overflows. -/
def sendPacket (conn : GameConnection) (stream : GameStream) (micros : UInt64)
    (st : ClientState) : ClientState :=
  let seq := (st.packetSequences stream).getD 0
  match BenchmarkPacket.new entropy micros seq args.packetSize with
  | none => { st with phase := .panicked }
  | some packet =>
    after st (st.peer.send conn stream (packet.toBytes crc)) fun st =>
      if seq.toNat + 1 < UInt64.size then
        { st with packetSequences := Function.update st.packetSequences stream (some (seq + 1)) }
      else { st with phase := .panicked }

/-- The end of an iteration. -/
def checkStop (st : ClientState) : ClientState :=
  if st.needStop then { st with phase := .returned (.ok ()) } else { st with phase := .polling }

/-- The 20 Hz block.  Without a reliable stream it is `continue`, which skips the
stop check. -/
def pace20hz (r : PaceReading) (conn : GameConnection) (st : ClientState) : ClientState :=
  if r.now - st.last20hzTick ≥ interval20hz then
    match st.reliableGameStream with
    | none => { st with phase := .polling }
    | some stream =>
      let st := sendPacket crc entropy args conn stream r.micros20hz st
      match st.phase with
      | .pacing => checkStop { st with last20hzTick := st.last20hzTick + interval20hz }
      | _ => st
  else checkStop st

/-- The 60 Hz block. -/
def pace60hz (r : PaceReading) (conn : GameConnection) (st : ClientState) : ClientState :=
  if r.now - st.last60hzTick ≥ interval60hz then
    match st.unreliableGameStream with
    | none => { st with phase := .polling }
    | some stream =>
      let st := sendPacket crc entropy args conn stream r.micros60hz st
      match st.phase with
      | .pacing =>
        pace20hz crc entropy args r conn { st with last60hzTick := st.last60hzTick + interval60hz }
      | _ => st
  else pace20hz crc entropy args r conn st

/-- The duration check. -/
def checkDuration (r : PaceReading) (st : ClientState) : ClientState :=
  match st.benchmarkStartTime with
  | some start =>
    if r.elapsedAt - start ≥ args.duration.toNat * nanosPerSec then { st with needStop := true }
    else st
  | none => st

/-- The pacing block. -/
def pace (r : PaceReading) (st : ClientState) : ClientState :=
  match st.serverId with
  | some conn => pace60hz crc entropy args r conn (checkDuration args r st)
  | none => checkStop st

/-- `while let Some(event) = client.poll()?`. -/
def poll (r : PollReading) (st : ClientState) : ClientState :=
  match st.peer.poll with
  | .ok (some (event, peer)) => handleEvent crc args r { st with peer := peer } event
  | .ok none => { st with phase := .pacing }
  | .error e => { st with phase := .returned (.error e) }

/-- The state at the head of the loop.  `t60` and `t20` are the readings that start
the two timers. -/
def init (t60 t20 : Nat) : ClientState :=
  { peer :=
      { GamePeer.new with cmdTx := GamePeer.new.cmdTx.send (.connect args.ip args.port) },
    recorder := [],
    needStop := false,
    serverId := none,
    packetSequences := fun _ => none,
    benchmarkStartTime := none,
    last60hzTick := t60,
    unreliableGameStream := none,
    last20hzTick := t20,
    reliableGameStream := none,
    phase := .polling }

/-- The loop's own actions, and those of the backend at the other end of the
channels. -/
inductive Action where
  | poll (r : PollReading)
  | pace (r : PaceReading)
  | backendEmits (event : GameNetworkEvent)
  | backendStops

def step (st : ClientState) : Action → Option ClientState
  | .poll r =>
    match st.phase with
    | .polling => some (poll crc args r st)
    | _ => none
  | .pace r =>
    match st.phase with
    | .pacing => some (pace crc entropy args r st)
    | _ => none
  | .backendEmits event =>
    if st.peer.alive then
      some { st with peer := { st.peer with eventRx := st.peer.eventRx.send event } }
    else none
  | .backendStops => some { st with peer := { st.peer with alive := false } }

/-- The branches of `step`. -/
inductive Steps (st : ClientState) : Action → ClientState → Prop where
  | poll {r : PollReading} (hphase : st.phase = .polling) :
    Steps st (.poll r) (poll crc args r st)
  | pace {r : PaceReading} (hphase : st.phase = .pacing) :
    Steps st (.pace r) (pace crc entropy args r st)
  | emits {event : GameNetworkEvent} (halive : st.peer.alive = true) :
    Steps st (.backendEmits event)
      { st with peer := { st.peer with eventRx := st.peer.eventRx.send event } }
  | stops : Steps st .backendStops { st with peer := { st.peer with alive := false } }

variable {crc entropy args}

theorem steps_of_step {st st' : ClientState} {a : Action}
    (h : step crc entropy args st a = some st') : Steps crc entropy args st a st' := by
  cases a with
  | poll r =>
    simp only [step] at h
    split at h
    · next hphase =>
      cases h
      exact .poll hphase
    · cases h
  | pace r =>
    simp only [step] at h
    split at h
    · next hphase =>
      cases h
      exact .pace hphase
    · cases h
  | backendEmits e =>
    simp only [step] at h
    split at h
    · next halive =>
      cases h
      exact .emits halive
    · cases h
  | backendStops =>
    cases h
    exact .stops

end Loop

end Client
end GameSockets
