/-
Which corruptions of a benchmark packet the checksum finds.

The bytes of a packet are the hashed bytes with the checksum between the first sixteen of
them and the payload.  A change inside one of the three parts is a change of the hashed
bytes at one place, or of the checksum alone.
-/
import GameSockets.BenchmarkPacket
import GameSockets.Library.Crc

namespace GameSockets

open Library

/-! ## The hasher -/

/-- `crc32fast::Hasher`, as its register. -/
structure Hasher where
  register : UInt32

namespace Hasher

def polynomial : UInt32 := 0xEDB88320

def new : Hasher := { register := 0xFFFFFFFF }

def shift (c : UInt32) : UInt32 := if c &&& 1 = 1 then (c >>> 1) ^^^ polynomial else c >>> 1

def update (h : Hasher) (data : Bytes) : Hasher :=
  { register := data.foldl (fun c b => Nat.repeat shift 8 (c ^^^ b.toUInt32)) h.register }

def finalize (h : Hasher) : UInt32 := ~~~h.register

/-- Two updates are one over both. -/
theorem update_update (h : Hasher) (data more : Bytes) :
    (h.update data).update more = h.update (data ++ more) := by
  rw [update, update, update, List.foldl_append]

theorem crc32_eq (data : Bytes) : crc32 data = (new.update data).finalize := rfl

/-- The three updates of `to_bytes` and `from_bytes`. -/
theorem checksum_crc32 (id timestamp : UInt64) (payload : Bytes) :
    BenchmarkPacket.checksum crc32 id timestamp payload =
      (((new.update (putU64 id)).update (putU64 timestamp)).update payload).finalize := by
  rw [update_update, update_update, ← crc32_eq, BenchmarkPacket.checksum, List.append_assoc]

theorem low_bit (c : UInt32) : (c &&& 1 = 1) ↔ c.toBitVec.getLsbD 0 = true := by
  rw [← UInt32.toBitVec_inj, UInt32.toBitVec_and]
  show c.toBitVec &&& 1#32 = 1#32 ↔ _
  rw [BitVec.and_one_eq_setWidth_ofBool_getLsbD]
  cases c.toBitVec.getLsbD 0 <;> decide

theorem toBitVec_shift (c : UInt32) :
    (shift c).toBitVec = Crc.shift polynomial.toBitVec c.toBitVec := by
  unfold shift Crc.shift
  by_cases h : c &&& 1 = 1
  · rw [if_pos h, if_pos ((low_bit c).mp h)]
    rfl
  · rw [if_neg h, if_neg fun hbit => h ((low_bit c).mpr hbit)]
    rfl

theorem toBitVec_shifts (n : Nat) (c : UInt32) :
    (Nat.repeat shift n c).toBitVec = (Crc.shift polynomial.toBitVec)^[n] c.toBitVec := by
  induction n with
  | zero => rfl
  | succ n ih => rw [Nat.repeat, toBitVec_shift, ih, Function.iterate_succ_apply']

theorem toBitVec_update (h : Hasher) (data : Bytes) :
    (h.update data).register.toBitVec =
      Crc.register polynomial.toBitVec h.register.toBitVec data := by
  induction data generalizing h with
  | nil => rfl
  | cons b data ih =>
    let stepped : Hasher := { register := Nat.repeat shift 8 (h.register ^^^ b.toUInt32) }
    have hstep : stepped.register.toBitVec =
        Crc.step polynomial.toBitVec h.register.toBitVec b := by
      show (Nat.repeat shift 8 (h.register ^^^ b.toUInt32)).toBitVec = _
      rw [toBitVec_shifts, UInt32.toBitVec_xor, Crc.step]
      rfl
    calc
      (h.update (b :: data)).register.toBitVec = (stepped.update data).register.toBitVec := rfl
      _ = Crc.register polynomial.toBitVec stepped.register.toBitVec data := ih stepped
      _ = Crc.register polynomial.toBitVec h.register.toBitVec (b :: data) := by
        rw [hstep]
        rfl

/-- Strings that agree outside four bytes have the same checksum only if they are equal. -/
theorem crc32_window {xs ys : Bytes} {i k : Nat} (hlen : xs.length = ys.length) (hk : k ≤ 4)
    (hsame : ∀ j, j < i ∨ i + k ≤ j → xs[j]? = ys[j]?) (h : crc32 xs = crc32 ys) : xs = ys := by
  rw [crc32_eq, crc32_eq, finalize, finalize, UInt32.not_inj, ← UInt32.toBitVec_inj,
    toBitVec_update, toBitVec_update] at h
  exact Crc.register_window (by decide) _ hlen (by omega) hsame h

end Hasher

/-! ## The parts of a packet -/

namespace BenchmarkPacket

/-- The bytes that are hashed. -/
def hashed (data : Bytes) : Bytes := data.take 16 ++ data.drop 20

/-- The stored checksum. -/
def stored (data : Bytes) : Bytes := (data.drop 16).take 4

variable {crc : Bytes → UInt32}

theorem hashed_toBytes (p : BenchmarkPacket) :
    hashed (toBytes crc p) = putU64 p.id ++ putU64 p.timestamp ++ p.payload := by
  have htake : (toBytes crc p).take 16 = putU64 p.id ++ putU64 p.timestamp := by
    rw [toBytes, List.append_assoc]
    exact List.take_left' (by simp)
  have hdrop : (toBytes crc p).drop 20 = p.payload := by
    rw [toBytes]
    exact List.drop_left' (by simp)
  rw [hashed, htake, hdrop]

theorem stored_toBytes (p : BenchmarkPacket) :
    stored (toBytes crc p) = putU32 (crc (hashed (toBytes crc p))) := by
  have hdrop : (toBytes crc p).drop 16 =
      putU32 (checksum crc p.id p.timestamp p.payload) ++ p.payload := by
    simp only [toBytes, List.append_assoc]
    rw [← List.append_assoc]
    exact List.drop_left' (by simp)
  rw [stored, hdrop, List.take_left' (length_putU32 _), hashed_toBytes, checksum]

/-- A string that is accepted stores the checksum of its hashed bytes. -/
theorem stored_of_fromBytes {data : Bytes} {p : BenchmarkPacket}
    (h : fromBytes crc data = some p) : stored data = putU32 (crc (hashed data)) := by
  rw [← toBytes_of_fromBytes h]
  exact stored_toBytes p

theorem eq_of_parts {a b : Bytes} (hhashed : hashed a = hashed b) (hstored : stored a = stored b)
    (hlen : a.length = b.length) : a = b := by
  have hsplit : ∀ l : Bytes, l = l.take 16 ++ (stored l ++ l.drop 20) := by
    intro l
    rw [stored, show l.drop 20 = (l.drop 16).drop 4 by rw [List.drop_drop],
      List.take_append_drop, List.take_append_drop]
  obtain ⟨htake, hdrop⟩ := List.append_inj hhashed (by simp [hlen])
  rw [hsplit a, hsplit b, htake, hdrop, hstored]

theorem getElem?_hashed (data : Bytes) (j : Nat) (h : 16 ≤ data.length) :
    (hashed data)[j]? = if j < 16 then data[j]? else data[j + 4]? := by
  have htake : (data.take 16).length = 16 := by
    rw [List.length_take]
    omega
  rw [hashed]
  split
  · next hj =>
    rw [List.getElem?_append_left (by omega), List.getElem?_take, if_pos hj]
  · next hj =>
    rw [List.getElem?_append_right (by omega), htake, List.getElem?_drop]
    congr 1
    omega

/-- A change of at most four consecutive bytes inside the id and the timestamp, inside the
checksum or inside the payload is found. -/
theorem corruption_detected (p : BenchmarkPacket) (b : Bytes) (i k : Nat)
    (hlen : b.length = (toBytes crc32 p).length) (hk : k ≤ 4)
    (hpart : i + k ≤ 16 ∨ 16 ≤ i ∧ i + k ≤ 20 ∨ 20 ≤ i)
    (hsame : ∀ j, j < i ∨ i + k ≤ j → b[j]? = (toBytes crc32 p)[j]?)
    (hne : b ≠ toBytes crc32 p) : fromBytes crc32 b = none := by
  cases hfrom : fromBytes crc32 b with
  | none => rfl
  | some q =>
    exfalso
    have hsize : 20 ≤ (toBytes crc32 p).length := by
      rw [length_toBytes, headerSize]
      omega
    have hb := stored_of_fromBytes hfrom
    have hp := @stored_toBytes crc32 p
    -- outside the checksum the hashed bytes tell the change, inside it the stored bytes do
    have hhashed : hashed b = hashed (toBytes crc32 p) := by
      have hlen' : (hashed b).length = (hashed (toBytes crc32 p)).length := by
        simp [hashed, hlen]
      have hcrc : stored b = stored (toBytes crc32 p) →
          crc32 (hashed b) = crc32 (hashed (toBytes crc32 p)) := by
        intro h
        rw [hb, hp] at h
        rw [← getU32_putU32 (crc32 (hashed b)), h, getU32_putU32]
      have hstored : i + k ≤ 16 ∨ 20 ≤ i → stored b = stored (toBytes crc32 p) := by
        intro hout
        apply List.ext_getElem?
        intro j
        rw [stored, stored, List.getElem?_take, List.getElem?_take, List.getElem?_drop,
          List.getElem?_drop]
        split
        · exact hsame _ (by omega)
        · rfl
      have hbyte : ∀ j, (j < 16 → j < i ∨ i + k ≤ j) → (16 ≤ j → j + 4 < i ∨ i + k ≤ j + 4) →
          (hashed b)[j]? = (hashed (toBytes crc32 p))[j]? := by
        intro j hlow hhigh
        rw [getElem?_hashed _ _ (by omega), getElem?_hashed _ _ (by omega)]
        split
        · next hj => exact hsame j (hlow hj)
        · next hj => exact hsame (j + 4) (hhigh (Nat.le_of_not_lt hj))
      rcases hpart with hhead | ⟨hlo, hhi⟩ | htail
      · have heq := hcrc (hstored (Or.inl hhead))
        refine Hasher.crc32_window (i := i) hlen' hk (fun j hj => ?_) heq
        exact hbyte j (fun _ => hj) (by omega)
      · apply List.ext_getElem?
        intro j
        exact hbyte j (by omega) (by omega)
      · refine Hasher.crc32_window (i := i - 4) hlen' hk (fun j hj => ?_)
          (hcrc (hstored (Or.inr htail)))
        exact hbyte j (by omega) (by omega)
    exact hne (eq_of_parts hhashed (by rw [hb, hp, hhashed]) hlen)

/-- A byte of the payload of a packet with three of them changes. -/
theorem corruption_detected_payload :
    fromBytes crc32
      ((toBytes crc32 { id := 1, timestamp := 2, payload := [3, 4, 5] }).set 21 6) = none := by
  refine corruption_detected { id := 1, timestamp := 2, payload := [3, 4, 5] } _ 21 1
    List.length_set (by decide) (Or.inr (Or.inr (by decide))) (fun j hj => ?_) ?_
  · exact List.getElem?_set_ne (by omega)
  · decide +kernel

end BenchmarkPacket

end GameSockets
