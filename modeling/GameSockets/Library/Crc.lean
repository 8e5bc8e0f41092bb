/-
Cyclic redundancy checks, bit-reflected.

The register is linear in the data, and a step of it loses nothing: the top bit of the
polynomial tells whether it has been added.  So a change of the data that fits into the
register changes the checksum, whatever comes before and after it.
-/
import Mathlib.Algebra.Group.Nat.Defs
import Mathlib.Data.List.Basic
import Mathlib.Logic.Function.Iterate

namespace Library
namespace Crc

section Crc

variable {w : Nat} (poly : BitVec w)

/-- One bit leaves the register. -/
def shift (c : BitVec w) : BitVec w :=
  if c.getLsbD 0 then (c >>> 1) ^^^ poly else c >>> 1

def step (c : BitVec w) (b : UInt8) : BitVec w :=
  (shift poly)^[8] (c ^^^ b.toBitVec.setWidth w)

/-- The register after a string of bytes. -/
def register (c : BitVec w) (bytes : List UInt8) : BitVec w := bytes.foldl (step poly) c

/-- The word that a string of bytes spells, the first byte in the low bits. -/
def value : List UInt8 → BitVec w
  | [] => 0#w
  | b :: bytes => b.toBitVec.setWidth w ^^^ (value bytes <<< 8)

variable {poly}

theorem register_append (c : BitVec w) (xs ys : List UInt8) :
    register poly c (xs ++ ys) = register poly (register poly c xs) ys :=
  List.foldl_append

/-! ## The register is linear -/

theorem xor_cancel (x y p : BitVec w) : (x ^^^ p) ^^^ (y ^^^ p) = x ^^^ y := by
  rw [BitVec.xor_comm y p, BitVec.xor_assoc, ← BitVec.xor_assoc p, BitVec.xor_self,
    BitVec.zero_xor]

theorem shift_xor (x y : BitVec w) : shift poly (x ^^^ y) = shift poly x ^^^ shift poly y := by
  simp only [shift, BitVec.getLsbD_xor, BitVec.ushiftRight_xor_distrib]
  cases x.getLsbD 0 <;> cases y.getLsbD 0
  · simp
  · simp [BitVec.xor_assoc]
  · simp [BitVec.xor_assoc, BitVec.xor_comm (y >>> 1) poly]
  · simp [xor_cancel]

theorem shifts_xor (n : Nat) (x y : BitVec w) :
    (shift poly)^[n] (x ^^^ y) = (shift poly)^[n] x ^^^ (shift poly)^[n] y := by
  induction n generalizing x y with
  | zero => rfl
  | succ n ih =>
    rw [Function.iterate_succ_apply, Function.iterate_succ_apply, Function.iterate_succ_apply,
      shift_xor, ih]

/-! ## A step loses nothing -/

theorem shift_eq_zero (hpoly : poly.msb = true) {c : BitVec w} (h : shift poly c = 0#w) :
    c = 0#w := by
  unfold shift at h
  split at h
  · -- the polynomial has its top bit, and what has been shifted has not
    rw [BitVec.xor_eq_zero_iff] at h
    rw [← h, BitVec.msb_ushiftRight] at hpoly
    simp at hpoly
  · next hlow =>
    apply BitVec.eq_of_getLsbD_eq
    intro i _
    cases i with
    | zero => simpa using hlow
    | succ i =>
      have hbit := congrArg (fun x : BitVec w => x.getLsbD i) h
      simpa [BitVec.getLsbD_ushiftRight, Nat.add_comm 1 i] using hbit

theorem shift_injective (hpoly : poly.msb = true) : Function.Injective (shift poly) := by
  intro x y h
  rw [← BitVec.xor_eq_zero_iff] at h ⊢
  rw [← shift_xor] at h
  exact shift_eq_zero hpoly h

theorem step_injective (hpoly : poly.msb = true) (b : UInt8) :
    Function.Injective fun c => step poly c b := by
  intro x y h
  exact (BitVec.xor_left_inj _).mp ((shift_injective hpoly).iterate 8 h)

theorem register_injective (hpoly : poly.msb = true) (bytes : List UInt8) :
    Function.Injective fun c => register poly c bytes := by
  induction bytes with
  | nil => exact fun _ _ h => h
  | cons b bytes ih => exact fun _ _ h => step_injective hpoly b (ih h)

/-! ## A short string is a word -/

theorem shift_shiftLeft {y : BitVec w} (h : y.toNat * 2 < 2 ^ w) : shift poly (y <<< 1) = y := by
  have hlow : (y <<< 1).getLsbD 0 = false := by simp
  rw [shift, hlow]
  apply BitVec.eq_of_toNat_eq
  simp only [Bool.false_eq_true, if_false, BitVec.toNat_ushiftRight, BitVec.toNat_shiftLeft,
    Nat.shiftLeft_eq, Nat.shiftRight_eq_div_pow, Nat.pow_one]
  rw [Nat.mod_eq_of_lt h]
  omega

theorem shifts_shiftLeft (n : Nat) {y : BitVec w} (h : y.toNat * 2 ^ n < 2 ^ w) :
    (shift poly)^[n] (y <<< n) = y := by
  induction n generalizing y with
  | zero => exact BitVec.shiftLeft_zero y
  | succ n ih =>
    have hsplit : y.toNat * 2 ^ (n + 1) = y.toNat * 2 * 2 ^ n := by
      rw [Nat.pow_succ]
      ac_rfl
    rw [hsplit] at h
    have htwo : y.toNat * 2 < 2 ^ w :=
      Nat.lt_of_le_of_lt (Nat.le_mul_of_pos_right _ (Nat.two_pow_pos n)) h
    have hone : (y <<< 1).toNat = y.toNat * 2 := by
      rw [BitVec.toNat_shiftLeft, Nat.shiftLeft_eq, Nat.pow_one, Nat.mod_eq_of_lt htwo]
    rw [Function.iterate_succ_apply', Nat.add_comm n 1, BitVec.shiftLeft_add, ih (hone ▸ h),
      shift_shiftLeft htwo]

theorem value_lt (bytes : List UInt8) (h : 8 * bytes.length ≤ w) :
    (value bytes : BitVec w).toNat < 2 ^ (8 * bytes.length) := by
  induction bytes with
  | nil => simp [value]
  | cons b bytes ih =>
    rw [List.length_cons, Nat.mul_succ] at h ⊢
    have hvalue := ih (by omega)
    have hbyte : b.toBitVec.toNat < 2 ^ 8 := b.toBitVec.isLt
    have hle : 2 ^ 8 ≤ 2 ^ (8 * bytes.length + 8) := Nat.pow_le_pow_right (by omega) (by omega)
    rw [value, BitVec.toNat_xor, BitVec.toNat_setWidth, BitVec.toNat_shiftLeft, Nat.shiftLeft_eq]
    apply Nat.xor_lt_two_pow
    · exact Nat.lt_of_le_of_lt (Nat.mod_le _ _) (Nat.lt_of_lt_of_le hbyte hle)
    · refine Nat.lt_of_le_of_lt (Nat.mod_le _ _) ?_
      rw [Nat.pow_add]
      omega

theorem shifts_value {bytes : List UInt8} (h : 8 * bytes.length + 8 ≤ w) :
    (shift poly)^[8] (value bytes <<< 8) = value bytes := by
  apply shifts_shiftLeft
  calc
    (value bytes : BitVec w).toNat * 2 ^ 8 < 2 ^ (8 * bytes.length) * 2 ^ 8 := by
      have hlt := value_lt (w := w) bytes (by omega)
      omega
    _ = 2 ^ (8 * bytes.length + 8) := (Nat.pow_add _ _ _).symm
    _ ≤ 2 ^ w := Nat.pow_le_pow_right (by omega) h

/-- A string that fits into the register goes through it as one word. -/
theorem register_eq_shifts (c : BitVec w) (bytes : List UInt8) (h : 8 * bytes.length ≤ w) :
    register poly c bytes = (shift poly)^[8 * bytes.length] (c ^^^ value bytes) := by
  induction bytes generalizing c with
  | nil => simp [register, value]
  | cons b bytes ih =>
    rw [List.length_cons, Nat.mul_succ] at h ⊢
    calc
      register poly c (b :: bytes) = register poly (step poly c b) bytes := rfl
      _ = (shift poly)^[8 * bytes.length] (step poly c b ^^^ value bytes) := ih _ (by omega)
      _ = (shift poly)^[8 * bytes.length]
          ((shift poly)^[8] (c ^^^ b.toBitVec.setWidth w ^^^ value bytes <<< 8)) := by
        rw [shifts_xor 8, shifts_value h, step]
      _ = (shift poly)^[8 * bytes.length + 8] (c ^^^ value (b :: bytes)) := by
        rw [← Function.iterate_add_apply, BitVec.xor_assoc, value]

theorem value_injective {xs ys : List UInt8} (hlen : xs.length = ys.length)
    (h : 8 * xs.length ≤ w) (heq : (value xs : BitVec w) = value ys) : xs = ys := by
  induction xs generalizing ys with
  | nil => exact (List.length_eq_zero_iff.mp hlen.symm).symm
  | cons b xs ih =>
    cases ys with
    | nil => cases hlen
    | cons b' ys =>
      rw [List.length_cons, List.length_cons, Nat.succ_inj] at hlen
      rw [List.length_cons, Nat.mul_succ] at h
      -- the low eight bits are the first byte
      have hbyte : b = b' := by
        apply UInt8.toBitVec_inj.mp
        apply BitVec.eq_of_getLsbD_eq
        intro i hi
        have hbit := congrArg (fun x : BitVec w => x.getLsbD i) heq
        have hiw : i < w := by omega
        simpa [value, hi, hiw] using hbit
      subst hbyte
      rw [value, value, BitVec.xor_right_inj] at heq
      have hrest : (value xs : BitVec w) = value ys := by
        have hxs := @shifts_value w 0#w xs h
        have hys := @shifts_value w 0#w ys (by rw [← hlen]; exact h)
        rw [← hxs, heq, hys]
      rw [ih hlen (by omega) hrest]

/-! ## Bursts -/

/-- Two strings that differ only where they fit into the register differ in the register,
whatever surrounds them. -/
theorem register_burst (hpoly : poly.msb = true) (c : BitVec w) (before after : List UInt8)
    {xs ys : List UInt8} (hlen : xs.length = ys.length) (hfit : 8 * xs.length ≤ w)
    (h : register poly c (before ++ xs ++ after) = register poly c (before ++ ys ++ after)) :
    xs = ys := by
  rw [register_append, register_append, register_append, register_append] at h
  have hmid := register_injective hpoly after h
  simp only [register_eq_shifts _ xs hfit, register_eq_shifts _ ys (hlen ▸ hfit), ← hlen] at hmid
  have hword := (shift_injective hpoly).iterate _ hmid
  exact value_injective hlen hfit ((BitVec.xor_right_inj _).mp hword)

/-- The same for strings that agree outside a window. -/
theorem register_window (hpoly : poly.msb = true) (c : BitVec w) {xs ys : List UInt8} {i k : Nat}
    (hlen : xs.length = ys.length) (hfit : 8 * k ≤ w)
    (hsame : ∀ j, j < i ∨ i + k ≤ j → xs[j]? = ys[j]?)
    (h : register poly c xs = register poly c ys) : xs = ys := by
  have hsplit : ∀ l : List UInt8, l = l.take i ++ (l.drop i).take k ++ l.drop (i + k) := by
    intro l
    rw [List.append_assoc, ← List.drop_drop, List.take_append_drop, List.take_append_drop]
  have hbefore : xs.take i = ys.take i := by
    apply List.ext_getElem?
    intro j
    rw [List.getElem?_take, List.getElem?_take]
    split
    · next hj => exact hsame j (Or.inl hj)
    · rfl
  have hafter : xs.drop (i + k) = ys.drop (i + k) := by
    apply List.ext_getElem?
    intro j
    rw [List.getElem?_drop, List.getElem?_drop]
    exact hsame (i + k + j) (Or.inr (Nat.le_add_right _ _))
  have hwindow : ((xs.drop i).take k).length = ((ys.drop i).take k).length := by
    rw [List.length_take, List.length_take, List.length_drop, List.length_drop, hlen]
  have hle : 8 * ((xs.drop i).take k).length ≤ w := by
    have := List.length_take_le k (xs.drop i)
    omega
  rw [hsplit xs, hsplit ys, hbefore, hafter] at h
  have hmid := register_burst hpoly c _ _ hwindow hle h
  rw [hsplit xs, hsplit ys, hbefore, hafter, hmid]

end Crc

end Crc
end Library
