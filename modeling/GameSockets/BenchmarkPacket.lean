/-
The benchmark packet: id, timestamp, checksum, payload.

The checksum is a parameter `crc` of the bytes hashed.  The source feeds them to
`crc32fast` in three updates, which is one pass over their concatenation.
-/
import GameSockets.Basic

namespace GameSockets

/-- The checksum that `crc32fast` computes. -/
def crc32 (data : Bytes) : UInt32 :=
  let shift (c : UInt32) : UInt32 := if c &&& 1 = 1 then (c >>> 1) ^^^ 0xEDB88320 else c >>> 1
  ~~~(data.foldl (fun c b => Nat.repeat shift 8 (c ^^^ b.toUInt32)) 0xFFFFFFFF)

/-- The check value of the digits one to nine. -/
example : crc32 [49, 50, 51, 52, 53, 54, 55, 56, 57] = 0xCBF43926 := by decide +kernel

structure BenchmarkPacket where
  id : UInt64
  timestamp : UInt64
  payload : Bytes
deriving DecidableEq

namespace BenchmarkPacket

def headerSize : Nat := 20

/-- A packet of `size` bytes of the entropy pool.  `slice` panics past the end of
the pool. -/
def new (entropy : Bytes) (timestamp : UInt64) (id : UInt64) (size : Nat) :
    Option BenchmarkPacket :=
  if size ≤ entropy.length then
    some { id := id, timestamp := timestamp, payload := entropy.take size }
  else none

section Codec

variable (crc : Bytes → UInt32)

/-- The checksum over id, timestamp and payload. -/
def checksum (id timestamp : UInt64) (payload : Bytes) : UInt32 :=
  crc (putU64 id ++ putU64 timestamp ++ payload)

def toBytes (p : BenchmarkPacket) : Bytes :=
  putU64 p.id ++ putU64 p.timestamp ++ putU32 (checksum crc p.id p.timestamp p.payload) ++ p.payload

def fromBytes (data : Bytes) : Option BenchmarkPacket :=
  if data.length < headerSize then none
  else
    let id := getU64 (data.take 8)
    let timestamp := getU64 ((data.drop 8).take 8)
    let check := getU32 ((data.drop 16).take 4)
    let payload := data.drop 20
    if checksum crc id timestamp payload ≠ check then none
    else some { id := id, timestamp := timestamp, payload := payload }

variable {crc}

@[simp] theorem length_toBytes (p : BenchmarkPacket) :
    (toBytes crc p).length = headerSize + p.payload.length := by
  simp only [toBytes, List.length_append, length_putU64, length_putU32, headerSize]

theorem fromBytes_toBytes (p : BenchmarkPacket) : fromBytes crc (toBytes crc p) = some p := by
  have hlen : ¬ (toBytes crc p).length < headerSize := by
    rw [length_toBytes]
    omega
  have hid : (toBytes crc p).take 8 = putU64 p.id := by
    simp only [toBytes, List.append_assoc]
    exact List.take_left' (length_putU64 _)
  have hrest : (toBytes crc p).drop 8 =
      putU64 p.timestamp ++ (putU32 (checksum crc p.id p.timestamp p.payload) ++ p.payload) := by
    simp only [toBytes, List.append_assoc]
    exact List.drop_left' (length_putU64 _)
  have hts : ((toBytes crc p).drop 8).take 8 = putU64 p.timestamp := by
    rw [hrest]
    exact List.take_left' (length_putU64 _)
  have hrest' : (toBytes crc p).drop 16 =
      putU32 (checksum crc p.id p.timestamp p.payload) ++ p.payload := by
    rw [show 16 = 8 + 8 from rfl, ← List.drop_drop, hrest]
    exact List.drop_left' (length_putU64 _)
  have hcheck : ((toBytes crc p).drop 16).take 4 =
      putU32 (checksum crc p.id p.timestamp p.payload) := by
    rw [hrest']
    exact List.take_left' (length_putU32 _)
  have hpayload : (toBytes crc p).drop 20 = p.payload := by
    rw [show 20 = 16 + 4 from rfl, ← List.drop_drop, hrest']
    exact List.drop_left' (length_putU32 _)
  simp only [fromBytes, if_neg hlen, hid, hts, hcheck, hpayload, getU64_putU64, getU32_putU32,
    ne_eq, not_true_eq_false, if_false]

theorem fromBytes_eq_some {data : Bytes} {p : BenchmarkPacket} (h : fromBytes crc data = some p) :
    headerSize ≤ data.length ∧ p.id = getU64 (data.take 8) ∧
      p.timestamp = getU64 ((data.drop 8).take 8) ∧ p.payload = data.drop 20 ∧
      checksum crc p.id p.timestamp p.payload = getU32 ((data.drop 16).take 4) := by
  unfold fromBytes at h
  split at h
  · cases h
  · simp only at h
    split at h
    · cases h
    · next hcheck =>
      cases h
      exact ⟨by omega, rfl, rfl, rfl, not_not.mp hcheck⟩

/-- An accepted string is the encoding of the packet read from it. -/
theorem toBytes_of_fromBytes {data : Bytes} {p : BenchmarkPacket}
    (h : fromBytes crc data = some p) : toBytes crc p = data := by
  obtain ⟨hlen, hid, hts, hpayload, hcheck⟩ := fromBytes_eq_some h
  have hlen' : 20 ≤ data.length := hlen
  have hid' : putU64 p.id = data.take 8 := by
    rw [hid, putU64_getU64 (by rw [List.length_take]; omega)]
  have hts' : putU64 p.timestamp = (data.drop 8).take 8 := by
    rw [hts, putU64_getU64 (by rw [List.length_take, List.length_drop]; omega)]
  have hcheck' : putU32 (checksum crc p.id p.timestamp p.payload) = (data.drop 16).take 4 := by
    rw [hcheck, putU32_getU32 (by rw [List.length_take, List.length_drop]; omega)]
  rw [toBytes, hid', hts', hcheck', hpayload, List.append_assoc, List.append_assoc,
    show data.drop 20 = (data.drop 16).drop 4 by rw [List.drop_drop],
    List.take_append_drop, show data.drop 16 = (data.drop 8).drop 8 by rw [List.drop_drop],
    List.take_append_drop, List.take_append_drop]

end Codec

end BenchmarkPacket

end GameSockets
