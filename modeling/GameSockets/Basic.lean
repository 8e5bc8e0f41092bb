/-
The types of `lib.rs`: streams, commands, events, and the application's handle on
a backend.
-/
import GameSockets.Library.BigEndian
import GameSockets.Library.Channel

namespace GameSockets

open Library

abbrev Bytes := List UInt8

/-! ## Machine words on the wire -/

def putU16 (n : UInt16) : Bytes := BigEndian.encode 2 n.toNat

def putU32 (n : UInt32) : Bytes := BigEndian.encode 4 n.toNat

def putU64 (n : UInt64) : Bytes := BigEndian.encode 8 n.toNat

def getU16 (b : Bytes) : UInt16 := UInt16.ofNat (BigEndian.decode b)

def getU32 (b : Bytes) : UInt32 := UInt32.ofNat (BigEndian.decode b)

def getU64 (b : Bytes) : UInt64 := UInt64.ofNat (BigEndian.decode b)

@[simp] theorem length_putU16 (n : UInt16) : (putU16 n).length = 2 := BigEndian.length_encode _ _

@[simp] theorem length_putU32 (n : UInt32) : (putU32 n).length = 4 := BigEndian.length_encode _ _

@[simp] theorem length_putU64 (n : UInt64) : (putU64 n).length = 8 := BigEndian.length_encode _ _

@[simp] theorem getU16_putU16 (n : UInt16) : getU16 (putU16 n) = n := by
  rw [getU16, putU16, BigEndian.decode_encode_of_lt n.toNat_lt, UInt16.ofNat_toNat]

@[simp] theorem getU32_putU32 (n : UInt32) : getU32 (putU32 n) = n := by
  rw [getU32, putU32, BigEndian.decode_encode_of_lt n.toNat_lt, UInt32.ofNat_toNat]

@[simp] theorem getU64_putU64 (n : UInt64) : getU64 (putU64 n) = n := by
  rw [getU64, putU64, BigEndian.decode_encode_of_lt n.toNat_lt, UInt64.ofNat_toNat]

theorem putU32_getU32 {b : Bytes} (h : b.length = 4) : putU32 (getU32 b) = b := by
  have hlt : BigEndian.decode b < 2 ^ 32 := by
    have := BigEndian.decode_lt b
    rw [h] at this
    exact this
  rw [putU32, getU32, UInt32.toNat_ofNat_of_lt' hlt, BigEndian.encode_decode_of_length h]

theorem putU64_getU64 {b : Bytes} (h : b.length = 8) : putU64 (getU64 b) = b := by
  have hlt : BigEndian.decode b < 2 ^ 64 := by
    have := BigEndian.decode_lt b
    rw [h] at this
    exact this
  rw [putU64, getU64, UInt64.toNat_ofNat_of_lt' hlt, BigEndian.encode_decode_of_length h]

/-- `u64::saturating_sub`. -/
def saturatingSub (a b : UInt64) : UInt64 := if b ≤ a then a - b else 0

theorem toNat_saturatingSub (a b : UInt64) : (saturatingSub a b).toNat = a.toNat - b.toNat := by
  unfold saturatingSub
  split
  · next h => exact UInt64.toNat_sub_of_le a b h
  · next h =>
    have hlt : a.toNat < b.toNat := by
      rw [UInt64.le_iff_toNat_le] at h
      omega
    rw [Nat.sub_eq_zero_of_le (Nat.le_of_lt hlt)]
    rfl

instance instLawfulOrderMaxUInt64 : Std.LawfulOrderMax UInt64 where
  max_eq_or a b := by
    show (if a ≤ b then b else a) = a ∨ (if a ≤ b then b else a) = b
    split
    · exact Or.inr rfl
    · exact Or.inl rfl
  max_le_iff a b c := by
    show (if a ≤ b then b else a) ≤ c ↔ a ≤ c ∧ b ≤ c
    split
    · next h => exact ⟨fun h' => ⟨UInt64.le_trans h h', h'⟩, And.right⟩
    · next h =>
      have hba : b ≤ a := UInt64.le_of_lt (UInt64.not_le.mp h)
      exact ⟨fun h' => ⟨h', UInt64.le_trans hba h'⟩, And.left⟩

/-! ## Identifiers -/

/-- A UUID is its sixteen bytes. -/
structure Uuid where
  asBytes : Bytes
  size : asBytes.length = 16
deriving DecidableEq

/-- `Uuid::from_slice`, which rejects every length but sixteen. -/
def Uuid.fromSlice (b : Bytes) : Option Uuid :=
  if h : b.length = 16 then some { asBytes := b, size := h } else none

/-- The all-zero UUID, `Uuid::default()`. -/
def Uuid.nil : Uuid := { asBytes := List.replicate 16 0, size := rfl }

@[simp] theorem Uuid.fromSlice_asBytes (u : Uuid) : Uuid.fromSlice u.asBytes = some u := by
  rw [fromSlice, dif_pos u.size]

/-- A connection wraps its UUID. -/
abbrev GameConnection := Uuid

inductive GameStreamReliability where
  | reliable
  | unreliable
  | ordered
deriving DecidableEq, Repr

structure GameStream where
  streamId : UInt16
deriving DecidableEq, Repr

def reliabilityMask : UInt16 := 0b11

def orderingMask : UInt16 := 0b10

namespace GameStream

/-- The index shifted left by two, with the reliability in the two low bits.  The
shift drops the index's two high bits. -/
def new (streamId : UInt16) (reliability : GameStreamReliability) : GameStream :=
  let id := streamId <<< 2
  let id := if reliability = .ordered then id ||| orderingMask else id
  let id := if reliability = .reliable then id ||| reliabilityMask else id
  { streamId := id }

def isReliable (s : GameStream) : Bool := s.streamId &&& reliabilityMask != 0

def isOrdered (s : GameStream) : Bool := s.streamId &&& orderingMask != 0

end GameStream

/-! ## Commands, errors and events -/

inductive BackendCommand where
  | bind (addr : String) (port : UInt16)
  | connect (addr : String) (port : UInt16)
  | send (connection : Uuid) (stream : GameStream) (data : Bytes)
  | createStream (connection : Uuid) (stream : UInt16) (reliability : GameStreamReliability)
  | closeStream (connection : Uuid) (stream : UInt16)
  | shutdown
deriving DecidableEq

inductive GameSocketError where
  | protocolError (innerMsg : String)
  | connectionError
  | sendFailed (innerMsg : String)
deriving DecidableEq

inductive GameNetworkEvent where
  | connected (connection : GameConnection)
  | disconnected (connection : GameConnection)
  | message (connection : GameConnection) (stream : GameStream) (data : Bytes)
  | error (connection : GameConnection) (inner : GameSocketError)
  | streamCreated (connection : GameConnection) (stream : GameStream)
  | streamClosed (connection : GameConnection) (stream : GameStream)
deriving DecidableEq

/-- The connection an event is about. -/
def GameNetworkEvent.connection : GameNetworkEvent → GameConnection
  | .connected c => c
  | .disconnected c => c
  | .message c _ _ => c
  | .error c _ => c
  | .streamCreated c _ => c
  | .streamClosed c _ => c

/-- A payload on its way over a stream of a connection. -/
@[ext]
structure Transfer where
  connection : GameConnection
  stream : GameStream
  data : Bytes
deriving DecidableEq

/-- What a command asks to send. -/
def BackendCommand.sent : BackendCommand → Option Transfer
  | .send c s data => some { connection := c, stream := s, data := data }
  | _ => none

/-- What an event delivers. -/
def GameNetworkEvent.delivered : GameNetworkEvent → Option Transfer
  | .message c s data => some { connection := c, stream := s, data := data }
  | _ => none

theorem BackendCommand.sent_eq_some {cmd : BackendCommand} {m : Transfer} :
    cmd.sent = some m ↔ cmd = .send m.connection m.stream m.data := by
  cases cmd <;> simp [sent, Transfer.ext_iff]

theorem GameNetworkEvent.delivered_eq_some {e : GameNetworkEvent} {m : Transfer} :
    e.delivered = some m ↔ e = .message m.connection m.stream m.data := by
  cases e <;> simp [delivered, Transfer.ext_iff]

/-- An error has been reported since. -/
def AddsError (before after : List GameNetworkEvent) : Prop :=
  ∃ new, after = before ++ new ∧ ∃ c inner, .error c inner ∈ new

theorem addsError_append {before new : List GameNetworkEvent} :
    AddsError before (before ++ new) ↔ ∃ c inner, .error c inner ∈ new := by
  constructor
  · rintro ⟨new', happend, herror⟩
    rwa [List.append_cancel_left happend]
  · exact fun herror => ⟨new, rfl, herror⟩

theorem not_addsError_self (before : List GameNetworkEvent) : ¬ AddsError before before := by
  rintro ⟨new, happend, c, inner, herror⟩
  rw [List.append_right_eq_self.mp happend.symm] at herror
  cases herror

/-! ## The application's handle -/

/-- The profile of the build, as far as it says what a panic and an overflow do. -/
inductive Profile where
  /-- a panic unwinds its thread or task, and an overflowing `+=` is a panic -/
  | dev
  /-- `panic = "abort"`, and `+=` wraps -/
  | release
deriving DecidableEq

/-- How a call ends.  An overflowing `+=` is a panic. -/
inductive Outcome (α : Type) where
  | ok (value : α)
  | err (error : GameSocketError)
  | panic
deriving DecidableEq

/-- The two channels to the backend thread, and the counter of created streams.
`alive` says that the backend thread still holds its ends of the channels. -/
structure GamePeer where
  cmdTx : Channel BackendCommand
  eventRx : Channel GameNetworkEvent
  nextStreamId : UInt16
  alive : Bool

namespace GamePeer

def new : GamePeer :=
  { cmdTx := Channel.empty, eventRx := Channel.empty, nextStreamId := 0, alive := true }

def sendCmd (p : GamePeer) (cmd : BackendCommand) : Outcome GamePeer :=
  if p.alive then .ok { p with cmdTx := p.cmdTx.send cmd } else .err .connectionError

def listen (p : GamePeer) (ip : String) (port : UInt16) : Outcome GamePeer :=
  p.sendCmd (.bind ip port)

def connect (p : GamePeer) (addr : String) (port : UInt16) : Outcome GamePeer :=
  p.sendCmd (.connect addr port)

def createStream (p : GamePeer) (conn : GameConnection) (reliability : GameStreamReliability) :
    Outcome GamePeer :=
  if p.nextStreamId.toNat + 1 < UInt16.size then
    let p := { p with nextStreamId := p.nextStreamId + 1 }
    p.sendCmd (.createStream conn p.nextStreamId reliability)
  else .panic

def closeStream (p : GamePeer) (conn : GameConnection) (stream : GameStream) : Outcome GamePeer :=
  p.sendCmd (.closeStream conn stream.streamId)

def send (p : GamePeer) (conn : GameConnection) (stream : GameStream) (msg : Bytes) :
    Outcome GamePeer :=
  p.sendCmd (.send conn stream msg)

/-- `try_recv` on the event channel: an empty channel is no event while the
backend lives and an error once it is gone. -/
def poll (p : GamePeer) : Except GameSocketError (Option (GameNetworkEvent × GamePeer)) :=
  match p.eventRx.recv with
  | some (e, rx) => .ok (some (e, { p with eventRx := rx }))
  | none => if p.alive then .ok none else .error .connectionError

theorem sendCmd_eq_ok {p p' : GamePeer} {cmd : BackendCommand} (h : p.sendCmd cmd = .ok p') :
    p.alive = true ∧ p' = { p with cmdTx := p.cmdTx.send cmd } := by
  unfold sendCmd at h
  split at h
  · next halive =>
    cases h
    exact ⟨halive, rfl⟩
  · cases h

theorem createStream_eq_ok {p p' : GamePeer} {conn : GameConnection}
    {reliability : GameStreamReliability} (h : p.createStream conn reliability = .ok p') :
    p' = { p with
      nextStreamId := p.nextStreamId + 1,
      cmdTx := p.cmdTx.send (.createStream conn (p.nextStreamId + 1) reliability) } := by
  unfold createStream at h
  split at h
  · exact (sendCmd_eq_ok h).2
  · cases h

theorem poll_eq_some {p p' : GamePeer} {e : GameNetworkEvent} (h : p.poll = .ok (some (e, p'))) :
    ∃ rx, p.eventRx.recv = some (e, rx) ∧ p' = { p with eventRx := rx } := by
  unfold poll at h
  split at h
  · next e rx hrecv =>
    cases h
    exact ⟨rx, hrecv, rfl⟩
  · split at h <;> cases h

end GamePeer

end GameSockets
