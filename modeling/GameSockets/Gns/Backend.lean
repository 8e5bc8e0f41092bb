/-
`GnsBackend`: a polling loop over commands, connection events and messages, and the
tables between the handles of GNS and the UUIDs of the application.

GNS calls the loop back with what happens to a handle.  What it reports, what it
answers to a call and which UUID is drawn are arguments; the calls made on the socket
are part of what a step puts out.
-/
import GameSockets.Basic
import GameSockets.Library.Run
import Mathlib.Logic.Function.Basic

namespace GameSockets
namespace Gns

open Library

/-- `ESteamNetworkingConnectionState`. -/
inductive ConnectionState where
  | none
  | connecting
  | findingRoute
  | connected
  | closedByPeer
  | problemDetectedLocally
  | finWait
  | linger
  | dead
deriving DecidableEq

structure Ipv4Addr where
  a : UInt8
  b : UInt8
  c : UInt8
  d : UInt8
deriving DecidableEq

def Ipv4Addr.localhost : Ipv4Addr := { a := 127, b := 0, c := 0, d := 1 }

/-- A socket, and the address it listens on or connects to. -/
inductive ActiveSocket where
  | server (ip : Ipv4Addr) (port : UInt16)
  | client (ip : Ipv4Addr) (port : UInt16)
deriving DecidableEq

/-- `k_nSteamNetworkingSend_Reliable` and `k_nSteamNetworkingSend_Unreliable`. -/
inductive SendFlags where
  | reliable
  | unreliable
deriving DecidableEq

/-- A lane is defined by a priority and a weight. -/
abbrev GnsLane := Nat × Nat

def reliableLane : GnsLane := (1, 1)

def unreliableLane : GnsLane := (1, 1)

/-- What the backend asks of its socket. -/
inductive SocketCall (Handle : Type) where
  | accept (conn : Handle)
  | configureConnectionLanes (conn : Handle) (lanes : List GnsLane)
  | closeConnection (conn : Handle)
  | sendMessage (conn : Handle) (flags : SendFlags) (lane : Nat) (bytes : Bytes)
deriving DecidableEq

structure GnsBackend (Handle : Type) where
  socket : Option ActiveSocket
  handleToUuid : Handle → Option Uuid
  uuidToHandle : Uuid → Option Handle
  knownStreams : Uuid → Option (List UInt16)

/-- What a call puts out. -/
structure Output (Handle : Type) where
  events : List GameNetworkEvent := []
  calls : List (SocketCall Handle) := []

/-- The system's answers while a command is processed. -/
structure CommandEnv where
  /-- `socket.listen` succeeds -/
  listenOk : Bool
  /-- `socket.connect` succeeds -/
  connectOk : Bool

/-- The system's answers while a connection event is handled. -/
structure EventEnv where
  /-- `s.accept` succeeds -/
  acceptOk : Bool
  /-- the result of `Uuid::new_v4()` -/
  newV4 : Uuid

/-- The framed message of a `Send`. -/
def packet (stream : GameStream) (data : Bytes) : Bytes := putU16 stream.streamId ++ data

section Backend

variable {Handle : Type}

/-- Whether the connection is accepted, and the calls made for it: a client accepts
without a call. -/
def ActiveSocket.tryAccept (socket : ActiveSocket) (acceptOk : Bool) (conn : Handle) :
    Bool × List (SocketCall Handle) :=
  match socket with
  | .server _ _ => (acceptOk, [.accept conn])
  | .client _ _ => (true, [])

namespace GnsBackend

def new : GnsBackend Handle :=
  { socket := none, handleToUuid := fun _ => none, uuidToHandle := fun _ => none,
    knownStreams := fun _ => none }

/-- The streams that the backend knows of a UUID. -/
def known (s : GnsBackend Handle) (u : Uuid) : List UInt16 := (s.knownStreams u).getD []

end GnsBackend

variable (parse : String → Option Ipv4Addr)

/-- There is no result where `run` returns.  `parse` is `Ipv4Addr::from_str`. -/
def processCommand (env : CommandEnv) (s : GnsBackend Handle) :
    BackendCommand → Option (GnsBackend Handle × Output Handle)
  | .bind addr port =>
    let ip := (parse addr).getD Ipv4Addr.localhost
    if env.listenOk then some ({ s with socket := some (.server ip port) }, {}) else none
  | .connect addr port =>
    let ip := (parse addr).getD Ipv4Addr.localhost
    if env.connectOk then some ({ s with socket := some (.client ip port) }, {}) else some (s, {})
  | .send connection stream data =>
    match s.uuidToHandle connection, s.socket with
    | some conn, some _ =>
      let flags := if stream.isReliable then .reliable else .unreliable
      let lane := if stream.isReliable then 0 else 1
      some (s, { calls := [.sendMessage conn flags lane (packet stream data)] })
    | _, _ => some (s, {})
  | .shutdown => none
  | .createStream connection stream reliability =>
    some (s, { events := [.streamCreated connection (GameStream.new stream reliability)] })
  | .closeStream connection stream =>
    some (s, { events := [.streamClosed connection { streamId := stream }] })

variable [DecidableEq Handle]

namespace GnsBackend

/-- The new UUID of a handle. -/
def register (s : GnsBackend Handle) (conn : Handle) (uuid : Uuid) : GnsBackend Handle :=
  { s with
    handleToUuid := Function.update s.handleToUuid conn (some uuid),
    uuidToHandle := Function.update s.uuidToHandle uuid (some conn) }

/-- A UUID leaves all three tables. -/
def unregister (s : GnsBackend Handle) (conn : Handle) (uuid : Uuid) : GnsBackend Handle :=
  { s with
    handleToUuid := Function.update s.handleToUuid conn none,
    uuidToHandle := Function.update s.uuidToHandle uuid none,
    knownStreams := Function.update s.knownStreams uuid none }

end GnsBackend

def handleEvent (env : EventEnv) (s : GnsBackend Handle) (socket : ActiveSocket) (conn : Handle)
    (oldState newState : ConnectionState) : GnsBackend Handle × Output Handle :=
  match oldState, newState with
  | .none, .connecting =>
    match socket.tryAccept env.acceptOk conn with
    | (false, calls) => (s, { calls := calls })
    | (true, calls) =>
      (s.register conn env.newV4, { events := [.connected env.newV4], calls := calls })
  | .connecting, .connected =>
    let calls := [.configureConnectionLanes conn [reliableLane, unreliableLane]]
    if s.handleToUuid conn = none then
      (s.register conn env.newV4, { events := [.connected env.newV4], calls := calls })
    else (s, { calls := calls })
  | _, .closedByPeer
  | _, .problemDetectedLocally =>
    match s.handleToUuid conn with
    | some uuid =>
      (s.unregister conn uuid,
        { events := [.disconnected uuid], calls := [.closeConnection conn] })
    | none => (s, { calls := [.closeConnection conn] })
  | _, _ => (s, {})

def handleMessage (s : GnsBackend Handle) (conn : Handle) (payload : Bytes) :
    GnsBackend Handle × Output Handle :=
  match s.handleToUuid conn with
  | some uuid =>
    if 2 ≤ payload.length then
      let streamId := getU16 (payload.take 2)
      let message : GameNetworkEvent := .message uuid { streamId := streamId } (payload.drop 2)
      let streams := s.known uuid
      if streamId ∈ streams then
        ({ s with knownStreams := Function.update s.knownStreams uuid (some streams) },
          { events := [message] })
      else
        ({ s with
            knownStreams := Function.update s.knownStreams uuid (some (streams ++ [streamId])) },
          { events := [.streamCreated uuid { streamId := streamId }, message] })
    else (s, {})
  | none => (s, {})

/-! ## The run loop -/

/-- The loop's state and everything it has put out. -/
structure GnsRun (Handle : Type) where
  backend : GnsBackend Handle
  running : Bool
  events : List GameNetworkEvent
  calls : List (SocketCall Handle)

/-- What the loop polls: commands always, the rest while there is a socket. -/
inductive Input (Handle : Type) where
  | command (env : CommandEnv) (cmd : BackendCommand)
  | event (env : EventEnv) (conn : Handle) (oldState newState : ConnectionState)
  | message (conn : Handle) (payload : Bytes)

namespace GnsRun

def init : GnsRun Handle :=
  { backend := GnsBackend.new, running := true, events := [], calls := [] }

def put (s : GnsRun Handle) (r : GnsBackend Handle × Output Handle) : GnsRun Handle :=
  { s with backend := r.1, events := s.events ++ r.2.events, calls := s.calls ++ r.2.calls }

def step (s : GnsRun Handle) : Input Handle → Option (GnsRun Handle)
  | .command env cmd =>
    if s.running then
      match processCommand parse env s.backend cmd with
      | some r => some (s.put r)
      | none => some { s with running := false }
    else none
  | .event env conn oldState newState =>
    match s.running, s.backend.socket with
    | true, some socket => some (s.put (handleEvent env s.backend socket conn oldState newState))
    | _, _ => none
  | .message conn payload =>
    match s.running, s.backend.socket with
    | true, some _ => some (s.put (handleMessage s.backend conn payload))
    | _, _ => none

/-- The branches of `step`, as far as the tables and the events go. -/
inductive Steps (s : GnsRun Handle) : Input Handle → GnsRun Handle → Prop where
  | stop {env : CommandEnv} {cmd : BackendCommand}
    (hreturns : processCommand parse env s.backend cmd = none) :
    Steps s (.command env cmd) { s with running := false }
  | command {env : CommandEnv} {cmd : BackendCommand} {r : GnsBackend Handle × Output Handle}
    (hcommand : processCommand parse env s.backend cmd = some r) :
    Steps s (.command env cmd) (s.put r)
  | register {env : EventEnv} {socket : ActiveSocket} {conn : Handle} {old new : ConnectionState}
    {calls : List (SocketCall Handle)} (hsocket : s.backend.socket = some socket)
    (hdraws : (old = .none ∧ new = .connecting ∧
        (socket.tryAccept env.acceptOk conn).1 = true) ∨
      old = .connecting ∧ new = .connected ∧ s.backend.handleToUuid conn = none) :
    Steps s (.event env conn old new)
      (s.put (s.backend.register conn env.newV4,
        { events := [.connected env.newV4], calls := calls }))
  | disconnect {env : EventEnv} {conn : Handle} {old new : ConnectionState} {uuid : Uuid}
    (hends : new = .closedByPeer ∨ new = .problemDetectedLocally)
    (hconn : s.backend.handleToUuid conn = some uuid) :
    Steps s (.event env conn old new)
      (s.put (s.backend.unregister conn uuid,
        { events := [.disconnected uuid], calls := [.closeConnection conn] }))
  | quiet {env : EventEnv} {conn : Handle} {old new : ConnectionState}
    {calls : List (SocketCall Handle)} :
    Steps s (.event env conn old new) (s.put (s.backend, { calls := calls }))
  | drop {conn : Handle} {payload : Bytes}
    (hdrop : s.backend.handleToUuid conn = none ∨ payload.length < 2) :
    Steps s (.message conn payload) (s.put (s.backend, {}))
  | receive {conn : Handle} {payload : Bytes} {uuid : Uuid}
    (hconn : s.backend.handleToUuid conn = some uuid) (hlen : 2 ≤ payload.length)
    (hknown : getU16 (payload.take 2) ∈ s.backend.known uuid) :
    Steps s (.message conn payload)
      (s.put
        ({ s.backend with
            knownStreams :=
              Function.update s.backend.knownStreams uuid (some (s.backend.known uuid)) },
          { events := [.message uuid { streamId := getU16 (payload.take 2) } (payload.drop 2)] }))
  | receiveNew {conn : Handle} {payload : Bytes} {uuid : Uuid}
    (hconn : s.backend.handleToUuid conn = some uuid) (hlen : 2 ≤ payload.length)
    (hnew : getU16 (payload.take 2) ∉ s.backend.known uuid) :
    Steps s (.message conn payload)
      (s.put
        ({ s.backend with
            knownStreams :=
              Function.update s.backend.knownStreams uuid
                (some (s.backend.known uuid ++ [getU16 (payload.take 2)])) },
          { events :=
              [.streamCreated uuid { streamId := getU16 (payload.take 2) },
                .message uuid { streamId := getU16 (payload.take 2) } (payload.drop 2)] }))

variable {parse}

theorem steps_of_step {s t : GnsRun Handle} {a : Input Handle} (h : step parse s a = some t) :
    Steps parse s a t := by
  cases a with
  | command env cmd =>
    simp only [step] at h
    split at h
    · split at h
      · next hcommand =>
        cases h
        exact .command hcommand
      · next hreturns =>
        cases h
        exact .stop hreturns
    · cases h
  | event env conn old new =>
    simp only [step] at h
    split at h
    · next socket _ hsocket =>
      cases h
      unfold handleEvent
      split
      · split
        · exact .quiet
        · next haccept => exact .register hsocket (Or.inl ⟨rfl, rfl, by rw [haccept]⟩)
      · dsimp only
        split
        · next hnone => exact .register hsocket (Or.inr ⟨rfl, rfl, hnone⟩)
        · exact .quiet
      · split
        · next hconn => exact .disconnect (Or.inl rfl) hconn
        · exact .quiet
      · split
        · next hconn => exact .disconnect (Or.inr rfl) hconn
        · exact .quiet
      · exact .quiet
    · cases h
  | message conn payload =>
    simp only [step] at h
    split at h
    · cases h
      unfold handleMessage
      split
      · next hconn =>
        split
        · next hlen =>
          dsimp only
          split
          · next hknown => exact .receive hconn hlen hknown
          · next hnew => exact .receiveNew hconn hlen hnew
        · next hlen => exact .drop (Or.inr (Nat.lt_of_not_le hlen))
      · next hnone => exact .drop (Or.inl hnone)
    · cases h

end GnsRun

end Backend

end Gns
end GameSockets
