/-
`spawn_peer_handler`: the task that reads and writes one socket.

`Framed` with the length-delimited codec is modelled by its two buffers.  A frame is
a big-endian `u32` length and that many bytes; the codec refuses frames longer than
8 MiB in both directions.
-/
import GameSockets.Basic
import GameSockets.Library.Framing

namespace GameSockets
namespace Tcp

open Library

/-- `mpsc::channel(100)`. -/
def queueCapacity : Nat := 100

/-- The codec's default `max_frame_length`. -/
def maxFrame : Nat := 8 * 1024 * 1024

/-- The bytes of a frame's length. -/
def lengthSize : Nat := 4

/-- What the codec makes of the bytes read so far. -/
inductive Decoded where
  | incomplete
  | tooLong
  | frame (bytes rest : Bytes)

def decodeFrame (buf : Bytes) : Decoded :=
  if lengthSize ≤ buf.length ∧ maxFrame < BigEndian.decode (buf.take lengthSize) then .tooLong
  else
    match Framing.split lengthSize buf with
    | none => .incomplete
    | some (bytes, rest) => .frame bytes rest

theorem split_of_decodeFrame {buf bytes rest : Bytes} (h : decodeFrame buf = .frame bytes rest) :
    Framing.split lengthSize buf = some (bytes, rest) := by
  unfold decodeFrame at h
  split at h
  · cases h
  · split at h
    · cases h
    · next heq =>
      cases h
      exact heq

inductive HandlerPhase where
  /-- in the `select!` -/
  | selecting
  /-- in `framed.send(packet).await` -/
  | sending
  /-- the task has ended -/
  | closed
deriving DecidableEq

structure PeerHandler where
  phase : HandlerPhase
  writeRx : Channel Bytes
  /-- bytes read from the socket and not yet decoded -/
  readBuf : Bytes
  /-- encoded bytes that the socket has not accepted yet -/
  writeBuf : Bytes
  /-- a write to the socket has failed; no later one succeeds -/
  broken : Bool
  knownStreams : List UInt16

inductive HandlerAction where
  /-- `framed.next()` reads bytes from the socket -/
  | read (chunk : Bytes)
  /-- `framed.next()` yields a frame, or an error for its length -/
  | decode
  /-- `framed.next()` finds the end of the stream, or an error of the socket -/
  | hangUp
  /-- `write_rx.recv()` -/
  | take
  /-- the socket accepts the next bytes of the packet -/
  | write (n : Nat)
  /-- `framed.send` fails -/
  | writeFail

namespace PeerHandler

def new : PeerHandler :=
  { phase := .selecting, writeRx := Channel.empty, readBuf := [], writeBuf := [], broken := false,
    knownStreams := [] }

/-- The events of one frame: a stream id and a payload, if it holds a stream id. -/
def receive (uuid : Uuid) (h : PeerHandler) (bytes : Bytes) : PeerHandler × List GameNetworkEvent :=
  if 2 ≤ bytes.length then
    let streamId := getU16 (bytes.take 2)
    let message : GameNetworkEvent := .message uuid { streamId := streamId } (bytes.drop 2)
    if streamId ∈ h.knownStreams then (h, [message])
    else
      ({ h with knownStreams := h.knownStreams ++ [streamId] },
        [.streamCreated uuid { streamId := streamId }, message])
  else (h, [])

/-- One step of the task, and the events it sends. -/
def step (uuid : Uuid) (h : PeerHandler) :
    HandlerAction → Option (PeerHandler × List GameNetworkEvent)
  | .read chunk =>
    match h.phase, decodeFrame h.readBuf, chunk with
    | .selecting, .incomplete, _ :: _ => some ({ h with readBuf := h.readBuf ++ chunk }, [])
    | _, _, _ => none
  | .decode =>
    match h.phase, decodeFrame h.readBuf with
    | .selecting, .frame bytes rest => some (receive uuid { h with readBuf := rest } bytes)
    | .selecting, .tooLong => some ({ h with phase := .closed }, [.disconnected uuid])
    | _, _ => none
  | .hangUp =>
    match h.phase, decodeFrame h.readBuf with
    | .selecting, .incomplete => some ({ h with phase := .closed }, [.disconnected uuid])
    | _, _ => none
  | .take =>
    match h.phase, h.writeRx.recv with
    | .selecting, some (packet, rx) =>
      -- the result of `framed.send` is ignored
      if h.broken ∨ maxFrame < packet.length then some ({ h with writeRx := rx }, [])
      else
        some
          ({ h with
              phase := .sending, writeRx := rx, writeBuf := Framing.frame lengthSize packet }, [])
    | _, _ => none
  | .write n =>
    if h.phase = .sending ∧ 0 < n ∧ n ≤ h.writeBuf.length then
      some
        ({ h with
            phase := if n = h.writeBuf.length then .selecting else .sending,
            writeBuf := h.writeBuf.drop n }, [])
    else none
  | .writeFail =>
    if h.phase = .sending then
      some ({ h with phase := .selecting, writeBuf := [], broken := true }, [])
    else none

/-- `tx.send(packet)` on the task's queue.  There is no result while the queue is
full; once the task has ended the packet is dropped. -/
def offer (h : PeerHandler) (packet : Bytes) : Option PeerHandler :=
  if h.phase = .closed then some h
  else if h.writeRx.pending.length < queueCapacity then
    some { h with writeRx := h.writeRx.send packet }
  else none

/-- A frame changes no more than the known streams. -/
theorem receive_keeps (uuid : Uuid) (h : PeerHandler) (bytes : Bytes) :
    ∃ known, (receive uuid h bytes).1 = { h with knownStreams := known } := by
  unfold receive
  dsimp only
  split
  · split
    · exact ⟨_, rfl⟩
    · exact ⟨_, rfl⟩
  · exact ⟨_, rfl⟩

theorem receive_events {uuid : Uuid} {h h' : PeerHandler} {bytes : Bytes}
    {events : List GameNetworkEvent} (hreceive : receive uuid h bytes = (h', events)) :
    ∀ e ∈ events, e.connection = uuid := by
  intro e he
  unfold receive at hreceive
  dsimp only at hreceive
  split at hreceive
  · split at hreceive
    · cases hreceive
      rw [List.mem_singleton.mp he]
      rfl
    · cases hreceive
      simp only [List.mem_cons, List.not_mem_nil, or_false] at he
      rcases he with rfl | rfl
      · rfl
      · rfl
  · cases hreceive
    cases he

/-- The branches of `step`: what each asks of the handler, and what it makes of it. -/
inductive Steps (uuid : Uuid) (h : PeerHandler) :
    HandlerAction → PeerHandler → List GameNetworkEvent → Prop where
  | read {chunk : Bytes} (hphase : h.phase = .selecting)
    (hdecode : decodeFrame h.readBuf = .incomplete) (hchunk : chunk ≠ []) :
    Steps uuid h (.read chunk) { h with readBuf := h.readBuf ++ chunk } []
  | frame {bytes rest : Bytes} {known : List UInt16} {events : List GameNetworkEvent}
    (hphase : h.phase = .selecting) (hdecode : decodeFrame h.readBuf = .frame bytes rest)
    (hreceive : receive uuid { h with readBuf := rest } bytes =
      ({ h with readBuf := rest, knownStreams := known }, events)) :
    Steps uuid h .decode { h with readBuf := rest, knownStreams := known } events
  | tooLong (hphase : h.phase = .selecting) (hdecode : decodeFrame h.readBuf = .tooLong) :
    Steps uuid h .decode { h with phase := .closed } [.disconnected uuid]
  | hangUp (hphase : h.phase = .selecting) (hdecode : decodeFrame h.readBuf = .incomplete) :
    Steps uuid h .hangUp { h with phase := .closed } [.disconnected uuid]
  | refuse {p : Bytes} {rx : Channel Bytes} (hphase : h.phase = .selecting)
    (hrecv : h.writeRx.recv = some (p, rx)) (hrefused : h.broken = true ∨ maxFrame < p.length) :
    Steps uuid h .take { h with writeRx := rx } []
  | take {p : Bytes} {rx : Channel Bytes} (hphase : h.phase = .selecting)
    (hrecv : h.writeRx.recv = some (p, rx))
    (haccepted : ¬ (h.broken = true ∨ maxFrame < p.length)) :
    Steps uuid h .take
      { h with phase := .sending, writeRx := rx, writeBuf := Framing.frame lengthSize p } []
  | write {n : Nat} (hphase : h.phase = .sending) (hpos : 0 < n) (hle : n ≤ h.writeBuf.length) :
    Steps uuid h (.write n)
      { h with
        phase := if n = h.writeBuf.length then .selecting else .sending,
        writeBuf := h.writeBuf.drop n } []
  | writeFail (hphase : h.phase = .sending) :
    Steps uuid h .writeFail { h with phase := .selecting, writeBuf := [], broken := true } []

theorem steps_of_step {uuid : Uuid} {h h' : PeerHandler} {a : HandlerAction}
    {events : List GameNetworkEvent} (hstep : h.step uuid a = some (h', events)) :
    Steps uuid h a h' events := by
  cases a with
  | read chunk =>
    simp only [step] at hstep
    split at hstep
    · next hphase hdecode =>
      cases hstep
      exact .read hphase hdecode (List.cons_ne_nil _ _)
    · cases hstep
  | decode =>
    simp only [step] at hstep
    split at hstep
    · next bytes rest hphase hdecode =>
      have hreceive := Option.some.inj hstep
      obtain ⟨known, hkeep⟩ := receive_keeps uuid { h with readBuf := rest } bytes
      rw [hreceive] at hkeep
      dsimp only at hkeep
      subst hkeep
      exact .frame hphase hdecode hreceive
    · next hphase hdecode =>
      cases hstep
      exact .tooLong hphase hdecode
    · cases hstep
  | hangUp =>
    simp only [step] at hstep
    split at hstep
    · next hphase hdecode =>
      cases hstep
      exact .hangUp hphase hdecode
    · cases hstep
  | take =>
    simp only [step] at hstep
    split at hstep
    · next p rx hphase hrecv =>
      split at hstep
      · next hrefused =>
        cases hstep
        exact .refuse hphase hrecv hrefused
      · next haccepted =>
        cases hstep
        exact .take hphase hrecv haccepted
    · cases hstep
  | write n =>
    simp only [step] at hstep
    split at hstep
    · next hcond =>
      cases hstep
      exact .write hcond.1 hcond.2.1 hcond.2.2
    · cases hstep
  | writeFail =>
    simp only [step] at hstep
    split at hstep
    · next hphase =>
      cases hstep
      exact .writeFail hphase
    · cases hstep

/-- A step takes at most the first packet off the queue. -/
theorem step_pending {uuid : Uuid} {h h' : PeerHandler} {a : HandlerAction}
    {events : List GameNetworkEvent} (hstep : h.step uuid a = some (h', events)) :
    h'.writeRx.pending <:+ h.writeRx.pending := by
  have shorter : ∀ {p : Bytes} {rx : Channel Bytes}, h.writeRx.recv = some (p, rx) →
      rx.pending <:+ h.writeRx.pending := by
    intro p rx hrecv
    rw [(Channel.recv_eq_some hrecv).1]
    exact List.suffix_cons _ _
  cases steps_of_step hstep with
  | refuse _ hrecv => exact shorter hrecv
  | take _ hrecv => exact shorter hrecv
  | read => exact List.suffix_refl _
  | frame => exact List.suffix_refl _
  | tooLong => exact List.suffix_refl _
  | hangUp => exact List.suffix_refl _
  | write => exact List.suffix_refl _
  | writeFail => exact List.suffix_refl _

/-- A handler speaks only of its own connection. -/
theorem step_events {uuid : Uuid} {h h' : PeerHandler} {a : HandlerAction}
    {events : List GameNetworkEvent} (hstep : h.step uuid a = some (h', events)) :
    ∀ e ∈ events, e.connection = uuid := by
  have silent : ∀ e ∈ ([] : List GameNetworkEvent), e.connection = uuid := List.forall_mem_nil _
  have closes : ∀ e ∈ [GameNetworkEvent.disconnected uuid], e.connection = uuid := by
    intro e he
    rw [List.mem_singleton.mp he]
    rfl
  cases steps_of_step hstep with
  | frame _ _ hreceive => exact receive_events hreceive
  | tooLong => exact closes
  | hangUp => exact closes
  | read => exact silent
  | refuse => exact silent
  | take => exact silent
  | write => exact silent
  | writeFail => exact silent

end PeerHandler

end Tcp
end GameSockets
