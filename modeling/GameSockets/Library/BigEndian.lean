/-
Big-endian words of a fixed number of bytes.
-/
import Mathlib.Data.List.Basic
import Mathlib.Tactic.Ring

namespace Library
namespace BigEndian

/-- The low `w` bytes of `n`, the most significant first. -/
def encode : Nat → Nat → List UInt8
  | 0, _ => []
  | w + 1, n => UInt8.ofNat (n / 256 ^ w) :: encode w n

/-- The number that a byte string spells. -/
def decode : List UInt8 → Nat
  | [] => 0
  | b :: bs => b.toNat * 256 ^ bs.length + decode bs

@[simp] theorem length_encode (w n : Nat) : (encode w n).length = w := by
  induction w with
  | zero => rfl
  | succ w ih => rw [encode, List.length_cons, ih]

theorem decode_encode (w n : Nat) : decode (encode w n) = n % 256 ^ w := by
  induction w with
  | zero => rw [encode, decode, Nat.pow_zero, Nat.mod_one]
  | succ w ih =>
    rw [encode, decode, length_encode, ih, Nat.pow_succ, Nat.mod_mul, UInt8.toNat_ofNat',
      Nat.add_comm, Nat.mul_comm]

theorem decode_encode_of_lt {w n : Nat} (h : n < 256 ^ w) : decode (encode w n) = n := by
  rw [decode_encode, Nat.mod_eq_of_lt h]

theorem decode_lt (bs : List UInt8) : decode bs < 256 ^ bs.length := by
  induction bs with
  | nil => exact Nat.one_pos
  | cons b bs ih =>
    have hb : b.toNat + 1 ≤ 256 := b.toNat_lt
    have hmul : (b.toNat + 1) * 256 ^ bs.length ≤ 256 * 256 ^ bs.length :=
      Nat.mul_le_mul_right _ hb
    rw [decode, List.length_cons, Nat.pow_succ, Nat.mul_comm (256 ^ bs.length) 256]
    rw [Nat.succ_mul] at hmul
    omega

/-- What lies above the low `w` bytes does not reach the encoding. -/
theorem encode_add_mul (w a n : Nat) : encode w (a * 256 ^ w + n) = encode w n := by
  induction w generalizing a with
  | zero => rfl
  | succ w ih =>
    have hpos : 0 < 256 ^ w := Nat.pow_pos (by decide)
    have hsplit : a * 256 ^ (w + 1) + n = a * 256 * 256 ^ w + n := by
      rw [Nat.pow_succ, Nat.mul_comm (256 ^ w) 256, Nat.mul_assoc]
    have hdiv : (a * 256 * 256 ^ w + n) / 256 ^ w = a * 256 + n / 256 ^ w := by
      rw [Nat.add_comm, Nat.add_mul_div_right _ _ hpos, Nat.add_comm]
    have hbyte : UInt8.ofNat (a * 256 + n / 256 ^ w) = UInt8.ofNat (n / 256 ^ w) := by
      apply UInt8.toNat_inj.mp
      rw [UInt8.toNat_ofNat', UInt8.toNat_ofNat']
      omega
    rw [encode, encode, hsplit, hdiv, hbyte, ih (a * 256)]

/-- Spelling the number that a byte string spells gives the string back. -/
theorem encode_decode (bs : List UInt8) : encode bs.length (decode bs) = bs := by
  induction bs with
  | nil => rfl
  | cons b bs ih =>
    have hpos : 0 < 256 ^ bs.length := Nat.pow_pos (by decide)
    have hdiv : (b.toNat * 256 ^ bs.length + decode bs) / 256 ^ bs.length = b.toNat := by
      rw [Nat.add_comm, Nat.add_mul_div_right _ _ hpos, Nat.div_eq_of_lt (decode_lt bs),
        Nat.zero_add]
    rw [List.length_cons, decode, encode, hdiv, encode_add_mul, ih, UInt8.ofNat_toNat]

theorem encode_decode_of_length {w : Nat} {bs : List UInt8} (h : bs.length = w) :
    encode w (decode bs) = bs := by
  subst h
  exact encode_decode bs

end BigEndian
end Library
