/-
`UdpBackend`: one socket, and two tables keyed by the UUID each datagram carries.

A call returns the new state and what it puts out: the events for the
application and the datagrams handed to the socket.  What the operating system
decides (whether a bind succeeds, which UUID is drawn, who a datagram claims to
come from) is an argument.
-/
import GameSockets.Basic
import GameSockets.Library.Run
import Mathlib.Logic.Function.Basic

namespace GameSockets
namespace Udp

open Library

/-- 16 bytes of UUID and 2 bytes of stream id. -/
def headerSize : Nat := 18

/-- The receive buffer of the run loop. -/
def bufferSize : Nat := 2048

structure UdpBackend (Addr : Type) where
  /-- whether `socket` is `Some` -/
  socket : Bool
  connections : Uuid → Option Addr
  knownStreams : Uuid → Option (List UInt16)

/-- What a call puts out. -/
structure Output (Addr : Type) where
  events : List GameNetworkEvent := []
  datagrams : List (Addr × Bytes) := []

/-- The system's answers while a command is processed. -/
structure CommandEnv where
  /-- `UdpSocket::bind` succeeds -/
  bindOk : Bool
  /-- the result of `Uuid::new_v4()` -/
  newV4 : Uuid

/-- The datagram that carries a message. -/
def packet (connection : Uuid) (stream : GameStream) (data : Bytes) : Bytes :=
  connection.asBytes ++ putU16 stream.streamId ++ data

@[simp] theorem length_packet (c : Uuid) (st : GameStream) (data : Bytes) :
    (packet c st data).length = headerSize + data.length := by
  rw [packet, List.length_append, List.length_append, c.size, length_putU16, headerSize]

section Backend

variable {Addr : Type}

def UdpBackend.new : UdpBackend Addr :=
  { socket := false, connections := fun _ => none, knownStreams := fun _ => none }

variable (parse : String → Option Addr)

/-- `parse` is `str::parse::<SocketAddr>`. -/
def processCommand (env : CommandEnv) (s : UdpBackend Addr) :
    BackendCommand → UdpBackend Addr × Output Addr
  | .bind _ _ => ({ s with socket := s.socket || env.bindOk }, {})
  | .connect addr port =>
    let s := { s with socket := s.socket || env.bindOk }
    match parse (addr ++ ":" ++ toString port.toNat) with
    | some socketAddr =>
      ({ s with connections := Function.update s.connections env.newV4 (some socketAddr) },
        { events := [.connected env.newV4] })
    | none => (s, {})
  | .send connection stream data =>
    if s.socket then
      match s.connections connection with
      | some remoteAddr => (s, { datagrams := [(remoteAddr, packet connection stream data)] })
      | none => (s, {})
    else (s, {})
  | .createStream connection stream reliability =>
    (s, { events := [.streamCreated connection (GameStream.new stream reliability)] })
  | .closeStream connection stream =>
    (s, { events := [.streamClosed connection { streamId := stream }] })
  | .shutdown => (s, {})

/-- The branches of `processCommand`. -/
inductive Processes (env : CommandEnv) (s : UdpBackend Addr) :
    BackendCommand → UdpBackend Addr × Output Addr → Prop where
  | bind {addr : String} {port : UInt16} :
    Processes env s (.bind addr port) ({ s with socket := s.socket || env.bindOk }, {})
  | connect {addr : String} {port : UInt16} {remote : Addr}
    (hparse : parse (addr ++ ":" ++ toString port.toNat) = some remote) :
    Processes env s (.connect addr port)
      ({ s with
         socket := s.socket || env.bindOk,
         connections := Function.update s.connections env.newV4 (some remote) },
        { events := [.connected env.newV4] })
  | unparsed {addr : String} {port : UInt16}
    (hparse : parse (addr ++ ":" ++ toString port.toNat) = none) :
    Processes env s (.connect addr port) ({ s with socket := s.socket || env.bindOk }, {})
  | send {c : Uuid} {stream : GameStream} {data : Bytes} {remote : Addr}
    (hsocket : s.socket = true) (hremote : s.connections c = some remote) :
    Processes env s (.send c stream data) (s, { datagrams := [(remote, packet c stream data)] })
  | dropped {c : Uuid} {stream : GameStream} {data : Bytes}
    (hdrop : s.socket = true → s.connections c = none) :
    Processes env s (.send c stream data) (s, {})
  | createStream {c : Uuid} {i : UInt16} {r : GameStreamReliability} :
    Processes env s (.createStream c i r)
      (s, { events := [.streamCreated c (GameStream.new i r)] })
  | closeStream {c : Uuid} {i : UInt16} :
    Processes env s (.closeStream c i) (s, { events := [.streamClosed c { streamId := i }] })
  | shutdown : Processes env s .shutdown (s, {})

variable {parse}

theorem processes_of_processCommand {env : CommandEnv} {s : UdpBackend Addr}
    {cmd : BackendCommand} {out : UdpBackend Addr × Output Addr}
    (h : processCommand parse env s cmd = out) : Processes parse env s cmd out := by
  subst h
  cases cmd with
  | bind addr port => exact .bind
  | connect addr port =>
    rw [processCommand]
    cases hparse : parse (addr ++ ":" ++ toString port.toNat) with
    | none => exact .unparsed hparse
    | some remote => exact .connect hparse
  | send c stream data =>
    rw [processCommand]
    split
    · next hsocket =>
      cases hremote : s.connections c with
      | none => exact .dropped fun _ => hremote
      | some remote => exact .send hsocket hremote
    · next hsocket => exact .dropped fun h => absurd h hsocket
  | createStream c i r => exact .createStream
  | closeStream c i => exact .closeStream
  | shutdown => exact .shutdown

variable (parse)

/-- The `known_streams` half of `process_packet`. -/
def noteStream (s : UdpBackend Addr) (u : Uuid) (streamId : UInt16) :
    UdpBackend Addr × List GameNetworkEvent :=
  let streams := (s.knownStreams u).getD []
  if streamId ∈ streams then
    ({ s with knownStreams := Function.update s.knownStreams u (some streams) }, [])
  else
    ({ s with knownStreams := Function.update s.knownStreams u (some (streams ++ [streamId])) },
      [.streamCreated u { streamId := streamId }])

@[simp] theorem noteStream_connections (s : UdpBackend Addr) (u : Uuid) (id : UInt16) :
    (noteStream s u id).1.connections = s.connections := by
  unfold noteStream
  dsimp only
  split <;> rfl

theorem noteStream_knownStreams_of_ne (s : UdpBackend Addr) {u v : Uuid} (h : v ≠ u)
    (id : UInt16) : (noteStream s u id).1.knownStreams v = s.knownStreams v := by
  unfold noteStream
  dsimp only
  split <;> exact Function.update_of_ne h _ _

theorem eq_of_mem_noteStream {s : UdpBackend Addr} {u : Uuid} {id : UInt16}
    {e : GameNetworkEvent} (h : e ∈ (noteStream s u id).2) :
    e = .streamCreated u { streamId := id } := by
  unfold noteStream at h
  dsimp only at h
  split at h
  · cases h
  · exact List.mem_singleton.mp h

/-- The `connections` half of `process_packet`: accept an unknown UUID, follow a
known one to its new address. -/
def noteAddress (s : UdpBackend Addr) (u : Uuid) (addr : Addr) :
    UdpBackend Addr × List GameNetworkEvent :=
  ({ s with connections := Function.update s.connections u (some addr) },
    if s.connections u = none then [.connected u] else [])

theorem eq_of_mem_noteAddress {s : UdpBackend Addr} {u : Uuid} {addr : Addr}
    {e : GameNetworkEvent} (h : e ∈ (noteAddress s u addr).2) : e = .connected u := by
  unfold noteAddress at h
  split at h
  · exact List.mem_singleton.mp h
  · cases h

def processPacket (s : UdpBackend Addr) (buf : Bytes) (addr : Addr) :
    UdpBackend Addr × Output Addr :=
  if buf.length < headerSize then (s, {})
  else
    match Uuid.fromSlice (buf.take 16) with
    | none => (s, {})
    | some incomingUuid =>
      let streamId := getU16 ((buf.drop 16).take 2)
      let (s, accepted) := noteAddress s incomingUuid addr
      let (s, created) := noteStream s incomingUuid streamId
      (s, { events := accepted ++ created ++
              [.message incomingUuid { streamId := streamId } (buf.drop headerSize)] })

/-! ## The run loop -/

/-- The loop's state and everything it has put out. -/
structure UdpRun (Addr : Type) where
  backend : UdpBackend Addr
  running : Bool
  events : List GameNetworkEvent
  datagrams : List (Addr × Bytes)

/-- The two branches of the `select!`. -/
inductive Input (Addr : Type) where
  | command (env : CommandEnv) (cmd : BackendCommand)
  /-- a datagram reaches the socket -/
  | datagram (bytes : Bytes) (src : Addr)
  /-- `recv_from` fails -/
  | recvError

namespace UdpRun

def init : UdpRun Addr :=
  { backend := UdpBackend.new, running := true, events := [], datagrams := [] }

def put (s : UdpRun Addr) (r : UdpBackend Addr × Output Addr) : UdpRun Addr :=
  { s with
    backend := r.1,
    events := s.events ++ r.2.events,
    datagrams := s.datagrams ++ r.2.datagrams }

/-- `recv_from` keeps the first `bufferSize` bytes of a longer datagram. -/
def step (s : UdpRun Addr) : Input Addr → Option (UdpRun Addr)
  | .command env cmd =>
    if s.running then
      if cmd = .shutdown then some { s with running := false }
      else some (s.put (processCommand parse env s.backend cmd))
    else none
  | .datagram bytes src =>
    if s.running && s.backend.socket then
      some (s.put (processPacket s.backend (bytes.take bufferSize) src))
    else none
  | .recvError => if s.running && s.backend.socket then some s else none

end UdpRun

end Backend

end Udp
end GameSockets
