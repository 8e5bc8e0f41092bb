/-
One datagram, from the `Send` that builds it to the `Message` it becomes.

The sender puts no bound on the payload.  The receiver reads into a buffer of
`bufferSize` bytes, so what it decodes is a prefix of what was sent.
-/
import GameSockets.Udp.Backend

namespace GameSockets
namespace Udp

open Library

/-- The UUID a datagram carries, if it is long enough to carry one. -/
def datagramUuid (bytes : Bytes) : Option Uuid :=
  if bytes.length < headerSize then none else Uuid.fromSlice (bytes.take 16)

/-- The longest payload that the receive buffer holds whole. -/
def maxPayload : Nat := bufferSize - headerSize

theorem datagramUuid_take (bytes : Bytes) :
    datagramUuid (bytes.take bufferSize) = datagramUuid bytes := by
  have hlen : (bytes.take bufferSize).length < headerSize ↔ bytes.length < headerSize := by
    rw [List.length_take, headerSize, bufferSize]
    omega
  have htake : (bytes.take bufferSize).take 16 = bytes.take 16 := by
    rw [List.take_take, bufferSize]
    rfl
  rw [datagramUuid, datagramUuid, htake, if_congr hlen rfl rfl]

section Datagram

variable {Addr : Type}

theorem processPacket_of_none {s : UdpBackend Addr} {buf : Bytes} {addr : Addr}
    (h : datagramUuid buf = none) : processPacket s buf addr = (s, {}) := by
  unfold processPacket
  unfold datagramUuid at h
  split at h
  · rw [if_pos (by assumption)]
  · rw [if_neg (by assumption), h]

/-- All that a datagram carrying `u` does. -/
theorem processPacket_of_some (s : UdpBackend Addr) {buf : Bytes} (addr : Addr) {u : Uuid}
    (h : datagramUuid buf = some u) :
    let id := getU16 ((buf.drop 16).take 2)
    let s₁ := noteAddress s u addr
    let s₂ := noteStream s₁.1 u id
    processPacket s buf addr =
      (s₂.1, { events := s₁.2 ++ s₂.2 ++
        [.message u { streamId := id } (buf.drop headerSize)] }) := by
  unfold datagramUuid at h
  split at h
  · cases h
  · next hlen => simp only [processPacket, if_neg hlen, h]

/-! ## The branches of a step -/

/-- The stream id a datagram carries. -/
def datagramStream (bytes : Bytes) : UInt16 := getU16 ((bytes.drop 16).take 2)

theorem datagramStream_take (bytes : Bytes) :
    datagramStream (bytes.take bufferSize) = datagramStream bytes := by
  rw [datagramStream, datagramStream, List.drop_take, List.take_take, bufferSize]
  rfl

namespace UdpRun

section Steps

variable (parse : String → Option Addr)

/-- The branches of `step`. -/
inductive Steps (s : UdpRun Addr) : Input Addr → UdpRun Addr → Prop where
  | shutdown {env : CommandEnv} : Steps s (.command env .shutdown) { s with running := false }
  | command {env : CommandEnv} {cmd : BackendCommand} (hcmd : cmd ≠ .shutdown) :
    Steps s (.command env cmd) (s.put (processCommand parse env s.backend cmd))
  | noise {bytes : Bytes} {src : Addr} (hnone : datagramUuid bytes = none) :
    Steps s (.datagram bytes src) s
  | packet {bytes : Bytes} {src : Addr} {u : Uuid} {data : Bytes}
    (hu : datagramUuid bytes = some u) :
    Steps s (.datagram bytes src)
      (s.put
        ((noteStream (noteAddress s.backend u src).1 u (datagramStream bytes)).1,
          { events := (noteAddress s.backend u src).2 ++
              (noteStream (noteAddress s.backend u src).1 u (datagramStream bytes)).2 ++
              [.message u { streamId := datagramStream bytes } data] }))
  | recvError : Steps s .recvError s

variable {parse}

theorem steps_of_step {s t : UdpRun Addr} {a : Input Addr} (h : step parse s a = some t) :
    Steps parse s a t := by
  cases a with
  | command env cmd =>
    simp only [step] at h
    split at h
    · split at h
      · next hcmd =>
        cases h
        subst hcmd
        exact .shutdown
      · next hcmd =>
        cases h
        exact .command hcmd
    · cases h
  | datagram bytes src =>
    simp only [step] at h
    split at h
    · cases h
      cases hd : datagramUuid bytes with
      | none =>
        have hput : s.put (s.backend, {}) = s := by simp [put]
        rw [processPacket_of_none (by rw [datagramUuid_take, hd]), hput]
        exact .noise hd
      | some u =>
        rw [processPacket_of_some _ _ (by rw [datagramUuid_take, hd])]
        have hid : getU16 (((bytes.take bufferSize).drop 16).take 2) = datagramStream bytes :=
          datagramStream_take bytes
        rw [hid]
        exact .packet hd
    · cases h
  | recvError =>
    simp only [step] at h
    split at h <;> cases h
    exact .recvError

end Steps

end UdpRun

/-! ## The packet of a `Send` -/

theorem take_packet (c : Uuid) (st : GameStream) (data : Bytes) :
    (packet c st data).take bufferSize = packet c st (data.take maxPayload) := by
  have hhead : (c.asBytes ++ putU16 st.streamId).length = headerSize := by
    rw [List.length_append, c.size, length_putU16, headerSize]
  have hsize : bufferSize = (c.asBytes ++ putU16 st.streamId).length + maxPayload := by
    rw [hhead]
    rfl
  rw [packet, packet, hsize, List.take_length_add_append]

theorem datagramUuid_packet (c : Uuid) (st : GameStream) (data : Bytes) :
    datagramUuid (packet c st data) = some c := by
  have htake : (packet c st data).take 16 = c.asBytes := by
    rw [packet, List.append_assoc, List.take_left' c.size]
  rw [datagramUuid, if_neg (by rw [length_packet]; omega), htake, Uuid.fromSlice_asBytes]

/-- What a packet of a `Send` does to the backend that reads it whole. -/
theorem processPacket_packet (s : UdpBackend Addr) (c : Uuid) (st : GameStream) (data : Bytes)
    (addr : Addr) :
    let s₁ := noteAddress s c addr
    let s₂ := noteStream s₁.1 c st.streamId
    processPacket s (packet c st data) addr =
      (s₂.1, { events := s₁.2 ++ s₂.2 ++ [.message c st data] }) := by
  have hrest : (packet c st data).drop 16 = putU16 st.streamId ++ data := by
    rw [packet, List.append_assoc, List.drop_left' c.size]
  have hid : getU16 (((packet c st data).drop 16).take 2) = st.streamId := by
    rw [hrest, List.take_left' (length_putU16 _), getU16_putU16]
  have hdata : (packet c st data).drop headerSize = data := by
    rw [show headerSize = 16 + 2 from rfl, ← List.drop_drop, hrest,
      List.drop_left' (length_putU16 _)]
  have h := processPacket_of_some s addr (datagramUuid_packet c st data)
  rw [hid, hdata] at h
  exact h

/-- The only `Message` that a packet of a `Send` becomes. -/
theorem message_mem_processPacket_iff {s : UdpBackend Addr} {c c' : Uuid} {st st' : GameStream}
    {data data' : Bytes} {addr : Addr} :
    .message c' st' data' ∈ (processPacket s (packet c st data) addr).2.events ↔
      c' = c ∧ st' = st ∧ data' = data := by
  rw [processPacket_packet]
  simp only [List.mem_append, List.mem_singleton, GameNetworkEvent.message.injEq]
  constructor
  · rintro ((h | h) | h)
    · cases eq_of_mem_noteAddress h
    · cases eq_of_mem_noteStream h
    · exact h
  · exact Or.inr

theorem take_maxPayload_eq_iff (data : Bytes) :
    data = data.take maxPayload ↔ data.length ≤ maxPayload := by
  constructor
  · intro h
    rw [h, List.length_take]
    exact Nat.min_le_left _ _
  · intro h
    rw [List.take_of_length_le h]

/-- A datagram built by `Send` becomes the `Message` that was sent exactly when
its payload fits the receive buffer behind the header. -/
theorem message_delivered_iff (parse : String → Option Addr) (sender : UdpBackend Addr)
    (env : CommandEnv) (c : Uuid) (st : GameStream) (data : Bytes) (remote src : Addr)
    (datagram : Bytes)
    (hsend : (remote, datagram) ∈ (processCommand parse env sender (.send c st data)).2.datagrams)
    (s : UdpRun Addr) (hrunning : s.running = true) (hsocket : s.backend.socket = true) :
    ∃ t new, UdpRun.step parse s (.datagram datagram src) = some t ∧
      t.events = s.events ++ new ∧
      (.message c st data ∈ new ↔ data.length ≤ maxPayload) := by
  have hpacket : datagram = packet c st data := by
    simp only [processCommand] at hsend
    split at hsend
    · split at hsend
      · simp only [List.mem_singleton, Prod.mk.injEq] at hsend
        exact hsend.2
      · cases hsend
    · cases hsend
  refine ⟨s.put (processPacket s.backend (datagram.take bufferSize) src), _, ?_, rfl, ?_⟩
  · rw [UdpRun.step, hrunning, hsocket]
    rfl
  · rw [hpacket, take_packet, message_mem_processPacket_iff, ← take_maxPayload_eq_iff]
    simp

end Datagram

/-- A backend bound to a socket and connected to the peer `1`. -/
def boundBackend : UdpBackend Nat :=
  { socket := true,
    connections := fun u => if u = Uuid.nil then some 1 else none,
    knownStreams := fun _ => none }

def boundRun : UdpRun Nat := { UdpRun.init with backend := boundBackend }

theorem message_delivered_short :
    ∃ t new, UdpRun.step (fun _ => some 1) boundRun
        (.datagram (packet Uuid.nil { streamId := 4 } [7]) 1) = some t ∧
      t.events = boundRun.events ++ new ∧
      (.message Uuid.nil { streamId := 4 } [7] ∈ new ↔ [(7 : UInt8)].length ≤ maxPayload) :=
  message_delivered_iff (fun _ => some 1) boundBackend { bindOk := true, newV4 := Uuid.nil }
    Uuid.nil { streamId := 4 } [7] 1 1 _ (by simp [processCommand, boundBackend]) boundRun rfl rfl

/-- A payload of 2031 bytes fits a UDP datagram and is not delivered. -/
theorem message_truncated :
    let data : Bytes := List.replicate 2031 0
    headerSize + data.length ≤ 65507 ∧
      ∃ s, Run.run (UdpRun.step fun _ => some 1) (UdpRun.init : UdpRun Nat)
          [.command { bindOk := true, newV4 := Uuid.nil } (.bind "0.0.0.0" 8080),
            .datagram (packet Uuid.nil { streamId := 4 } data) 1] = some s ∧
        .message Uuid.nil { streamId := 4 } data ∉ s.events := by
  intro data
  have hlen : data.length = 2031 := List.length_replicate
  refine ⟨by rw [hlen]; decide, _, rfl, ?_⟩
  intro h
  have hsize : data.length ≤ maxPayload := by
    simp only [UdpRun.put, List.mem_append, take_packet, message_mem_processPacket_iff] at h
    rcases h with (h | h) | h
    · cases h
    · cases h
    · exact (take_maxPayload_eq_iff data).mp h.2.2
  rw [hlen] at hsize
  exact absurd hsize (by decide)

end Udp
end GameSockets
