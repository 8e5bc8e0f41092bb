/-
A benchmark over UDP: one client, one echo server, and the network between them.

The network keeps every datagram that was ever sent and may deliver any of them, at
any time, any number of times and from any address, so that it drops, duplicates,
delays and reorders.  It does not make datagrams up.
-/
import GameSockets.Client.Numbering
import GameSockets.Server
import GameSockets.Stats
import GameSockets.Udp.Datagram

namespace GameSockets
namespace Udp

open Library Client

/-! ## A backend behind its handle -/

/-- The steps of a backend thread. -/
inductive HostAction (Addr : Type) where
  /-- take the next command off the channel -/
  | command (env : CommandEnv)
  | datagram (bytes : Bytes) (src : Addr)
  | recvError

section Host

variable {Addr : Type} (parse : String → Option Addr)

/-- Put the events of a step on the channel to the application. -/
def deliver (p : GamePeer) (old new : UdpRun Addr) : GamePeer :=
  { p with eventRx := p.eventRx.sendAll (new.events.drop old.events.length) }

def hostStep (p : GamePeer) (b : UdpRun Addr) : HostAction Addr → Option (GamePeer × UdpRun Addr)
  | .command env =>
    match p.cmdTx.recv with
    | none => none
    | some (cmd, tx) =>
      (UdpRun.step parse b (.command env cmd)).map fun b' =>
        (deliver { p with cmdTx := tx } b b', b')
  | .datagram bytes src =>
    (UdpRun.step parse b (.datagram bytes src)).map fun b' => (deliver p b b', b')
  | .recvError => (UdpRun.step parse b .recvError).map fun b' => (deliver p b b', b')

/-- Every payload that the handle or its backend holds satisfies `ok`. -/
structure Carried (ok : Transfer → Prop) (p : GamePeer) (b : UdpRun Addr) : Prop where
  commands : ∀ m ∈ p.cmdTx.log.filterMap BackendCommand.sent, ok m
  datagrams : ∀ d ∈ b.datagrams, ∃ m, ok m ∧ d.2 = packet m.connection m.stream m.data
  events : ∀ m ∈ p.eventRx.log.filterMap GameNetworkEvent.delivered, ok m

variable {parse}

theorem Carried.mono {ok ok' : Transfer → Prop} {p : GamePeer} {b : UdpRun Addr}
    (h : Carried ok p b) (hok : ∀ m, ok m → ok' m) : Carried ok' p b := by
  refine ⟨fun m hm => hok m (h.commands m hm), fun d hd => ?_, fun m hm => hok m (h.events m hm)⟩
  obtain ⟨m, hm, hpacket⟩ := h.datagrams d hd
  exact ⟨m, hok m hm, hpacket⟩

/-- A command sends at most the packet of its `Send`, and delivers nothing. -/
theorem step_command {b b' : UdpRun Addr} {env : CommandEnv} {cmd : BackendCommand}
    (h : UdpRun.step parse b (.command env cmd) = some b') :
    ∃ new out, b'.events = b.events ++ new ∧ b'.datagrams = b.datagrams ++ out ∧
      new.filterMap GameNetworkEvent.delivered = [] ∧
        ∀ d ∈ out, ∃ m, cmd.sent = some m ∧ d.2 = packet m.connection m.stream m.data := by
  cases UdpRun.steps_of_step h with
  | shutdown => exact ⟨[], [], by simp, by simp, rfl, by simp⟩
  | command hcmd =>
    refine ⟨_, _, rfl, rfl, ?_⟩
    generalize hout : processCommand parse env b.backend cmd = out
    cases processes_of_processCommand hout with
    | send hsocket hremote =>
      refine ⟨rfl, fun d hd => ?_⟩
      rw [List.mem_singleton.mp hd]
      exact ⟨_, rfl, rfl⟩
    | _ => exact ⟨rfl, by simp⟩

/-- The packet of a `Send` is delivered cut to the receive buffer, and nothing else
is. -/
theorem step_datagram {b b' : UdpRun Addr} {m : Transfer} {src : Addr}
    (h : UdpRun.step parse b (.datagram (packet m.connection m.stream m.data) src) = some b') :
    ∃ new, b'.events = b.events ++ new ∧ b'.datagrams = b.datagrams ∧
      ∀ m' ∈ new.filterMap GameNetworkEvent.delivered,
        m' = { m with data := m.data.take maxPayload } := by
  simp only [UdpRun.step] at h
  split at h
  · cases h
    refine ⟨_, rfl, ?_, fun m' hm' => ?_⟩
    · rw [take_packet, UdpRun.put, processPacket_packet]
      exact List.append_nil _
    · obtain ⟨e, he, hm⟩ := List.mem_filterMap.mp hm'
      rw [GameNetworkEvent.delivered_eq_some] at hm
      rw [hm, take_packet, message_mem_processPacket_iff] at he
      exact Transfer.ext he.1 he.2.1 he.2.2
  · cases h

theorem deliver_log {p : GamePeer} {b b' : UdpRun Addr} {new : List GameNetworkEvent}
    (h : b'.events = b.events ++ new) : (deliver p b b').eventRx.log = p.eventRx.log ++ new := by
  rw [deliver, Channel.log_sendAll, h, List.drop_left]

/-- A backend passes on what it carries, cut to its receive buffer. -/
theorem carried_hostStep {ok : Transfer → Prop} {p p' : GamePeer} {b b' : UdpRun Addr}
    {a : HostAction Addr} (h : Carried ok p b)
    (hcut : ∀ m, ok m → ok { m with data := m.data.take maxPayload })
    (hnet : ∀ bytes src, a = .datagram bytes src →
      ∃ m, ok m ∧ bytes = packet m.connection m.stream m.data)
    (hstep : hostStep parse p b a = some (p', b')) :
    Carried ok p' b' ∧ p'.cmdTx.log = p.cmdTx.log ∧
      p'.eventRx.received = p.eventRx.received := by
  cases a with
  | command env =>
    simp only [hostStep] at hstep
    split at hstep
    · cases hstep
    · next cmd tx hrecv =>
      obtain ⟨b'', hb, heq⟩ := Option.map_eq_some_iff.mp hstep
      cases heq
      obtain ⟨new, out, hev, hdg, hnone, hout⟩ := step_command hb
      have hlog : tx.log = p.cmdTx.log := Channel.log_recv hrecv
      refine ⟨⟨?_, ?_, ?_⟩, hlog, rfl⟩
      · show ∀ m ∈ tx.log.filterMap BackendCommand.sent, ok m
        rw [hlog]
        exact h.commands
      · intro d hd
        rw [hdg, List.mem_append] at hd
        rcases hd with hd | hd
        · exact h.datagrams d hd
        · obtain ⟨m, hm, hpacket⟩ := hout d hd
          have hmem := Channel.mem_log_of_recv hrecv
          exact ⟨m, h.commands m (List.mem_filterMap.mpr ⟨cmd, hmem, hm⟩), hpacket⟩
      · rw [deliver_log hev, List.filterMap_append, hnone, List.append_nil]
        exact h.events
  | datagram bytes src =>
    obtain ⟨b'', hb, heq⟩ := Option.map_eq_some_iff.mp hstep
    cases heq
    obtain ⟨m, hm, rfl⟩ := hnet bytes src rfl
    obtain ⟨new, hev, hdg, hnew⟩ := step_datagram hb
    refine ⟨⟨h.commands, by rw [hdg]; exact h.datagrams, fun m' hm' => ?_⟩, rfl, rfl⟩
    rw [deliver_log hev, List.filterMap_append, List.mem_append] at hm'
    rcases hm' with hm' | hm'
    · exact h.events m' hm'
    · rw [hnew m' hm']
      exact hcut m hm
  | recvError =>
    obtain ⟨b'', hb, heq⟩ := Option.map_eq_some_iff.mp hstep
    cases heq
    have hb' : b' = b := by
      simp only [UdpRun.step] at hb
      split at hb <;> cases hb
      rfl
    subst hb'
    have hlog := deliver_log (p := p) (List.append_nil b'.events).symm
    refine ⟨⟨h.commands, h.datagrams, ?_⟩, rfl, rfl⟩
    rw [hlog, List.append_nil]
    exact h.events

end Host

/-! ## The whole system -/

structure EchoSystem (Addr : Type) where
  client : ClientState
  clientBackend : UdpRun Addr
  server : Server.ServerState
  serverBackend : UdpRun Addr

/-- The steps of the four parties and of the network.  A delivery names the datagram
by its place among those that its sender has sent. -/
inductive EchoAction (Addr : Type) where
  | clientPoll (r : PollReading)
  | clientPace (r : PaceReading)
  | clientCommand (env : CommandEnv)
  | clientReceives (sent : Nat) (src : Addr)
  | clientRecvError
  | serverPoll
  | serverCommand (env : CommandEnv)
  | serverReceives (sent : Nat) (src : Addr)
  | serverRecvError

namespace EchoSystem

variable {Addr : Type} (parse : String → Option Addr) (crc : Bytes → UInt32) (entropy : Bytes)
  (args : CliArgs)

def clientHost (s : EchoSystem Addr) (a : HostAction Addr) : Option (EchoSystem Addr) :=
  (hostStep parse s.client.peer s.clientBackend a).map fun (peer, backend) =>
    { s with client := { s.client with peer := peer }, clientBackend := backend }

def serverHost (s : EchoSystem Addr) (a : HostAction Addr) : Option (EchoSystem Addr) :=
  (hostStep parse s.server.peer s.serverBackend a).map fun (peer, backend) =>
    { s with server := { s.server with peer := peer }, serverBackend := backend }

def step (s : EchoSystem Addr) : EchoAction Addr → Option (EchoSystem Addr)
  | .clientPoll r =>
    (Client.step crc entropy args s.client (.poll r)).map fun st => { s with client := st }
  | .clientPace r =>
    (Client.step crc entropy args s.client (.pace r)).map fun st => { s with client := st }
  | .clientCommand env => s.clientHost parse (.command env)
  | .clientReceives sent src =>
    s.serverBackend.datagrams[sent]?.bind fun d => s.clientHost parse (.datagram d.2 src)
  | .clientRecvError => s.clientHost parse .recvError
  | .serverPoll => (Server.step crc s.server).map fun st => { s with server := st }
  | .serverCommand env => s.serverHost parse (.command env)
  | .serverReceives sent src =>
    s.clientBackend.datagrams[sent]?.bind fun d => s.serverHost parse (.datagram d.2 src)
  | .serverRecvError => s.serverHost parse .recvError

/-- The two programs at the heads of their loops. -/
def init (t60 t20 : Nat) (ip : String) (port : UInt16) : EchoSystem Addr :=
  { client := Client.init args t60 t20,
    clientBackend := UdpRun.init,
    server := Server.init ip port,
    serverBackend := UdpRun.init }

/-- A payload long enough to have an id has the id of a packet that the client sent
on the stream. -/
def Genuine (ms : List Transfer) (m : Transfer) : Prop :=
  8 ≤ m.data.length → packetId m.data ∈ idsOn m.stream ms

theorem genuine_take {ms : List Transfer} {m : Transfer} (h : Genuine ms m) :
    Genuine ms { m with data := m.data.take maxPayload } := by
  intro hlen
  rw [List.length_take] at hlen
  have hid : packetId (m.data.take maxPayload) = packetId m.data := by
    rw [packetId, packetId, List.take_take]
    rfl
  rw [hid]
  exact h (by omega)

theorem genuine_of_mem {ms : List Transfer} {m : Transfer} (h : m ∈ ms) : Genuine ms m := by
  intro _
  rw [idsOn, List.mem_map]
  exact ⟨m, List.mem_filter.mpr ⟨h, by simp⟩, rfl⟩

/-- The invariant: only payloads of the client are under way, and it has recorded
only ids of its own. -/
structure Sound (s : EchoSystem Addr) : Prop where
  numbered : Numbered crc s.client
  client : Carried (Genuine (sends s.client)) s.client.peer s.clientBackend
  server : Carried (Genuine (sends s.client)) s.server.peer s.serverBackend
  rows : ∀ r ∈ s.client.recorder, r.packetId ∈ idsOn { streamId := r.streamId } (sends s.client)

variable {parse crc entropy args}

theorem idsOn_mono {ms ms' : List Transfer} (h : ms <+: ms') {stream : GameStream} {id : UInt64}
    (hid : id ∈ idsOn stream ms) : id ∈ idsOn stream ms' := by
  obtain ⟨more, rfl⟩ := h
  rw [idsOn_append]
  exact List.mem_append_left _ hid

theorem Genuine.mono {ms ms' : List Transfer} (h : ms <+: ms') {m : Transfer}
    (hm : Genuine ms m) : Genuine ms' m :=
  fun hlen => idsOn_mono h (hm hlen)

/-- The id of a row is the id of the message it comes from. -/
theorem row_genuine {ms : List Transfer} {r : PollReading} {start : Option Nat} {m : Transfer}
    {row : BenchmarkRecord} (hm : Genuine ms m) (hrow : rowOf args crc r start m = some row) :
    row.packetId ∈ idsOn { streamId := row.streamId } ms := by
  obtain ⟨p, hp, hrow⟩ := Option.bind_eq_some_iff.mp hrow
  obtain ⟨hlen, hid, -⟩ := BenchmarkPacket.fromBytes_eq_some hp
  split at hrow
  · cases hrow
    have hlen' : 20 ≤ m.data.length := hlen
    have h := hm (by omega)
    rw [packetId, ← hid] at h
    exact h
  · cases hrow

theorem sound_init (t60 t20 : Nat) (ip : String) (port : UInt16) :
    Sound crc (init args t60 t20 ip port : EchoSystem Addr) := by
  refine ⟨numbered_init args t60 t20, ⟨?_, ?_, ?_⟩, ⟨?_, ?_, ?_⟩, ?_⟩
  · exact fun m hm => genuine_of_mem hm
  · intro d hd
    cases hd
  · intro m hm
    cases hm
  · intro m hm
    cases hm
  · intro d hd
    cases hd
  · intro m hm
    cases hm
  · intro r hr
    cases hr

/-- A step of the client's backend. -/
theorem sound_clientHost {s t : EchoSystem Addr} {a : HostAction Addr} (h : Sound crc s)
    (hnet : ∀ bytes src, a = .datagram bytes src →
      ∃ m, Genuine (sends s.client) m ∧ bytes = packet m.connection m.stream m.data)
    (hstep : s.clientHost parse a = some t) : Sound crc t := by
  obtain ⟨⟨peer, backend⟩, hhost, rfl⟩ := Option.map_eq_some_iff.mp hstep
  obtain ⟨hcarried, hlog, -⟩ := carried_hostStep h.client (fun _ => genuine_take) hnet hhost
  have hs : sends { s.client with peer := peer } = sends s.client := by
    rw [sends, hlog, sends]
  refine ⟨numbered_of_eq h.numbered hs rfl id, ?_, ?_, ?_⟩
  · rw [hs]
    exact hcarried
  · rw [hs]
    exact h.server
  · rw [hs]
    exact h.rows

/-- A step of the server's backend. -/
theorem sound_serverHost {s t : EchoSystem Addr} {a : HostAction Addr} (h : Sound crc s)
    (hnet : ∀ bytes src, a = .datagram bytes src →
      ∃ m, Genuine (sends s.client) m ∧ bytes = packet m.connection m.stream m.data)
    (hstep : s.serverHost parse a = some t) : Sound crc t := by
  obtain ⟨⟨peer, backend⟩, hhost, rfl⟩ := Option.map_eq_some_iff.mp hstep
  obtain ⟨hcarried, -, -⟩ := carried_hostStep h.server (fun _ => genuine_take) hnet hhost
  exact ⟨h.numbered, h.client, hcarried, h.rows⟩

/-- A datagram that the network delivers was sent. -/
theorem genuine_of_sent {ok : Transfer → Prop} {p : GamePeer} {b : UdpRun Addr} {i : Nat}
    {d : Addr × Bytes} {src : Addr} (h : Carried ok p b) (hd : b.datagrams[i]? = some d) :
    ∀ bytes src', (.datagram d.2 src : HostAction Addr) = .datagram bytes src' →
      ∃ m, ok m ∧ bytes = packet m.connection m.stream m.data := by
  intro bytes src' heq
  cases heq
  exact h.datagrams d (List.mem_of_getElem? hd)

theorem sound_step {s t : EchoSystem Addr} {a : EchoAction Addr} (h : Sound crc s)
    (hstep : step parse crc entropy args s a = some t) : Sound crc t := by
  cases a with
  | clientPoll r =>
    obtain ⟨st, hclient, rfl⟩ := Option.map_eq_some_iff.mp hstep
    have hnum := numbered_step entropy args h.numbered hclient
    cases Client.steps_of_step hclient with
    | poll =>
      obtain ⟨hs, hlog, hrows⟩ := poll_spec crc args r s.client
      refine ⟨hnum, ⟨?_, ?_, ?_⟩, ?_, ?_⟩
      · exact fun m hm => genuine_of_mem hm
      · rw [hs]
        exact h.client.datagrams
      · rw [hs, hlog]
        exact h.client.events
      · rw [hs]
        exact h.server
      · intro row hrow
        rw [hs]
        rcases hrows row hrow with hrow | ⟨m, hm, hrow⟩
        · exact h.rows row hrow
        · exact row_genuine (h.client.events m hm) hrow
  | clientPace r =>
    obtain ⟨st, hclient, rfl⟩ := Option.map_eq_some_iff.mp hstep
    have hnum := numbered_step entropy args h.numbered hclient
    cases Client.steps_of_step hclient with
    | pace hphase =>
      have hpaced := paced_pace crc entropy args hphase r
      have hclient := h.client.mono fun _ => Genuine.mono hpaced.sends
      refine ⟨hnum, ⟨?_, hclient.datagrams, ?_⟩, ?_, ?_⟩
      · exact fun m hm => genuine_of_mem hm
      · rw [hpaced.eventRx]
        exact hclient.events
      · exact h.server.mono fun _ => Genuine.mono hpaced.sends
      · intro row hrow
        rw [hpaced.recorder] at hrow
        exact idsOn_mono hpaced.sends (h.rows row hrow)
  | clientCommand env => exact sound_clientHost h (fun _ _ heq => by cases heq) hstep
  | clientReceives sent src =>
    obtain ⟨d, hd, hhost⟩ := Option.bind_eq_some_iff.mp hstep
    exact sound_clientHost h (genuine_of_sent h.server hd) hhost
  | clientRecvError => exact sound_clientHost h (fun _ _ heq => by cases heq) hstep
  | serverPoll =>
    obtain ⟨st, hserver, rfl⟩ := Option.map_eq_some_iff.mp hstep
    obtain ⟨hlog, hsends⟩ := Server.step_sends hserver
    refine ⟨h.numbered, h.client, ⟨?_, h.server.datagrams, ?_⟩, h.rows⟩
    · intro m hm
      rcases hsends m hm with hm | hm
      · exact h.server.commands m hm
      · exact h.server.events m hm
    · rw [hlog]
      exact h.server.events
  | serverCommand env => exact sound_serverHost h (fun _ _ heq => by cases heq) hstep
  | serverReceives sent src =>
    obtain ⟨d, hd, hhost⟩ := Option.bind_eq_some_iff.mp hstep
    exact sound_serverHost h (genuine_of_sent h.client hd) hhost
  | serverRecvError => exact sound_serverHost h (fun _ _ heq => by cases heq) hstep

/-- The statistics take no stream to have sent more than `k` when every id is below
`k`. -/
theorem countStream_sent_le {records : List BenchmarkRecord} {k : Nat}
    (h : ∀ r ∈ records, r.packetId.toNat < k) : (Stats.countStream records).sent.toNat ≤ k := by
  simp only [Stats.countStream]
  split
  · cases hmax : (records.map (·.packetId)).max? with
    | none =>
      rw [List.max?_eq_none_iff, List.map_eq_nil_iff] at hmax
      subst hmax
      next hpos => exact absurd hpos (by decide)
    | some m =>
      obtain ⟨hm, -⟩ := List.max?_eq_some_iff.mp hmax
      obtain ⟨r, hr, rfl⟩ := List.mem_map.mp hm
      have hlt := h r hr
      rw [Option.getD_some, UInt64.toNat_add, UInt64.toNat_one]
      exact Nat.le_trans (Nat.mod_le _ _) hlt
  · exact Nat.zero_le _

variable (parse crc entropy args)

/-- However the network treats the datagrams, every recorded packet was sent exactly
once on its stream, the ids of a stream are consecutive, and the statistics count no
more packets than were sent. -/
theorem recorded_sent (t60 t20 : Nat) (ip : String) (port : UInt16)
    (actions : List (EchoAction Addr)) (s : EchoSystem Addr)
    (hrun : Run.run (step parse crc entropy args) (init args t60 t20 ip port) actions = some s) :
    (∀ row ∈ s.client.recorder,
        (idsOn { streamId := row.streamId } (sends s.client)).count row.packetId = 1) ∧
      ∀ stream : GameStream, ∃ k, idsOn stream (sends s.client) = firstIds k ∧
        (Stats.countStream (Stats.streamRecords s.client.recorder stream.streamId)).sent.toNat ≤
          k := by
  have h : Sound crc s :=
    Run.invariant_of_run (fun _ _ _ => sound_step) (sound_init t60 t20 ip port) hrun
  refine ⟨fun row hrow => ?_, fun stream => ?_⟩
  · obtain ⟨k, hk, hids, -⟩ := h.numbered.ids { streamId := row.streamId }
    have hnodup : (idsOn { streamId := row.streamId } (sends s.client)).Nodup := by
      rw [hids]
      exact nodup_firstIds hk
    exact List.count_eq_one_of_mem hnodup (h.rows row hrow)
  · obtain ⟨k, hk, hids, -⟩ := h.numbered.ids stream
    refine ⟨k, hids, countStream_sent_le fun r hr => ?_⟩
    rw [Stats.streamRecords, List.mem_filter, decide_eq_true_eq] at hr
    have hmem := h.rows r hr.1
    rw [hr.2, hids] at hmem
    exact (mem_firstIds hk).mp hmem

/-- The client's first packet is echoed, and the network delivers the echo twice. -/
def duplicatedEcho : List (EchoAction Nat) :=
  let env : CommandEnv := { bindOk := true, newV4 := Uuid.nil }
  let pollAt (instant : Nat) : EchoAction Nat := .clientPoll { instant := instant, micros := 0 }
  [.serverCommand env, .clientCommand env, pollAt 0, .clientCommand env, .clientCommand env,
    pollAt 0, pollAt 0, pollAt 0,
    .clientPace
      { elapsedAt := interval60hz, now := interval60hz, micros60hz := 0, micros20hz := 0 },
    .clientCommand env, .serverReceives 0 2, .serverPoll, .serverPoll, .serverPoll,
    .serverCommand env, .clientReceives 0 1, .clientReceives 0 1,
    pollAt nanosPerSec, pollAt nanosPerSec, pollAt nanosPerSec]

theorem recorded_sent_twice :
    ∃ s, Run.run (step (fun _ => some 1) crc32 [] emptyPackets)
        (init emptyPackets 0 0 "0.0.0.0" 8080) duplicatedEcho = some s ∧
      s.client.recorder.map (·.packetId) = [0, 0] ∧
      ∃ k, idsOn { streamId := 4 } (sends s.client) = firstIds k ∧
        (Stats.countStream (Stats.streamRecords s.client.recorder 4)).sent.toNat ≤ k := by
  have hrows : (Run.run (step (fun _ => some 1) crc32 [] emptyPackets)
      (init emptyPackets 0 0 "0.0.0.0" 8080) duplicatedEcho).map
        (fun s => s.client.recorder.map (·.packetId)) = some [0, 0] := by
    decide +kernel
  obtain ⟨s, hrun, hids⟩ := Option.map_eq_some_iff.mp hrows
  exact ⟨s, hrun, hids,
    (recorded_sent (fun _ => some 1) crc32 [] emptyPackets 0 0 "0.0.0.0" 8080 duplicatedEcho s
      hrun).2 { streamId := 4 }⟩

end EchoSystem

end Udp
end GameSockets
