/-
What the server sends back.

The encodings of packets are exactly the strings that are accepted, so reading a packet and
writing it again gives the bytes it came in.
-/
import GameSockets.Server

namespace GameSockets

open Library

namespace BenchmarkPacket

/-- Any function of the three fields is the checksum for some hash of their bytes. -/
theorem exists_checksum (f : UInt64 → UInt64 → Bytes → UInt32) :
    ∃ crc, ∀ id timestamp payload, checksum crc id timestamp payload = f id timestamp payload := by
  let crc : Bytes → UInt32 := fun data =>
    f (getU64 (data.take 8)) (getU64 ((data.drop 8).take 8)) (data.drop 16)
  refine ⟨crc, fun id timestamp payload => ?_⟩
  have hid : (putU64 id ++ putU64 timestamp ++ payload).take 8 = putU64 id := by
    rw [List.append_assoc]
    exact List.take_left' (length_putU64 _)
  have hrest : (putU64 id ++ putU64 timestamp ++ payload).drop 8 =
      putU64 timestamp ++ payload := by
    rw [List.append_assoc]
    exact List.drop_left' (length_putU64 _)
  have hpayload : (putU64 id ++ putU64 timestamp ++ payload).drop 16 = payload :=
    List.drop_left' (by simp)
  show f _ _ _ = _
  rw [hid, hrest, hpayload, List.take_left' (length_putU64 _), getU64_putU64, getU64_putU64]

end BenchmarkPacket

namespace Server

open BenchmarkPacket

theorem handleEvent_accepted {crc : Bytes → UInt32} {st : ServerState} {p : BenchmarkPacket}
    {data : Bytes} (halive : st.peer.alive = true) (h : fromBytes crc data = some p)
    (conn : GameConnection) (stream : GameStream) :
    handleEvent crc st (.message conn stream data) =
      { st with
        peer := { st.peer with cmdTx := st.peer.cmdTx.send (.send conn stream data) } } := by
  simp only [handleEvent, h, GamePeer.send, GamePeer.sendCmd, if_pos halive,
    toBytes_of_fromBytes h]

/-- A packet is read from its encoding and from no other string, and the server answers a
message with the bytes of the message, or not at all. -/
theorem echo_exact (crc : Bytes → UInt32) :
    (∀ p, fromBytes crc (toBytes crc p) = some p) ∧
      (∀ data p, fromBytes crc data = some p → toBytes crc p = data) ∧
      (∀ (st : ServerState) conn stream p, st.peer.alive = true →
        handleEvent crc st (.message conn stream (toBytes crc p)) =
          { st with
            peer := { st.peer with
              cmdTx := st.peer.cmdTx.send (.send conn stream (toBytes crc p)) } }) ∧
      ∀ (st : ServerState) conn stream data, (∀ p, data ≠ toBytes crc p) →
        handleEvent crc st (.message conn stream data) = st := by
  refine ⟨fromBytes_toBytes, fun data p => toBytes_of_fromBytes, ?_, ?_⟩
  · intro st conn stream p halive
    exact handleEvent_accepted halive (fromBytes_toBytes p) conn stream
  · intro st conn stream data hdata
    cases hfrom : fromBytes crc data with
    | none => simp only [handleEvent, hfrom]
    | some p => exact absurd (toBytes_of_fromBytes hfrom).symm (hdata p)

/-- An empty string is no packet, and a packet with two bytes of payload goes back. -/
theorem echo_exact_short :
    fromBytes crc32 (toBytes crc32 { id := 7, timestamp := 8, payload := [1, 2] }) =
        some { id := 7, timestamp := 8, payload := [1, 2] } ∧
      (handleEvent crc32 (init "0.0.0.0" 8080) (.message Uuid.nil { streamId := 4 }
          (toBytes crc32 { id := 7, timestamp := 8, payload := [1, 2] }))).peer.cmdTx =
        (init "0.0.0.0" 8080).peer.cmdTx.send (.send Uuid.nil { streamId := 4 }
          (toBytes crc32 { id := 7, timestamp := 8, payload := [1, 2] })) ∧
      handleEvent crc32 (init "0.0.0.0" 8080) (.message Uuid.nil { streamId := 4 } []) =
        init "0.0.0.0" 8080 := by
  obtain ⟨hround, -, hecho, hreject⟩ := echo_exact crc32
  refine ⟨hround _, ?_, hreject _ _ _ _ fun p hp => ?_⟩
  · rw [hecho _ _ _ _ rfl]
  · have hlen := congrArg List.length hp
    rw [length_toBytes, headerSize, List.length_nil] at hlen
    omega

end Server

end GameSockets
