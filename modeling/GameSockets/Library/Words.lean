/-
Sums of 64-bit words, with and without overflow checks.

The checks are made at each addition, and it is the total that decides: a sum of a list
passes all of them or its total does not fit.
-/
import Mathlib.Algebra.BigOperators.Group.List.Basic
import Mathlib.Data.UInt

namespace Library
namespace Words

/-- What an addition does when its result does not fit. -/
inductive Overflow where
  | panics
  | wraps
deriving DecidableEq

def Overflow.add : Overflow → UInt64 → UInt64 → Option UInt64
  | .panics, a, b => if a.toNat + b.toNat < UInt64.size then some (a + b) else none
  | .wraps, a, b => some (a + b)

def Overflow.sum (mode : Overflow) (l : List UInt64) : Option UInt64 := l.foldlM mode.add 0

/-- The number that the words add up to. -/
def total (l : List UInt64) : Nat := (l.map UInt64.toNat).sum

@[simp] theorem total_nil : total [] = 0 := rfl

@[simp] theorem total_cons (a : UInt64) (l : List UInt64) : total (a :: l) = a.toNat + total l :=
  List.sum_cons

theorem total_perm {l l' : List UInt64} (h : l.Perm l') : total l = total l' :=
  (h.map _).sum_eq

theorem toNat_add_of_lt {a b : UInt64} (h : a.toNat + b.toNat < UInt64.size) :
    (a + b).toNat = a.toNat + b.toNat := by
  rw [UInt64.toNat_add]
  exact Nat.mod_eq_of_lt h

/-- Wrapping does not show in a sum whose total fits. -/
theorem toNat_sum {l : List UInt64} (h : total l < UInt64.size) : l.sum.toNat = total l := by
  induction l with
  | nil => rfl
  | cons a l ih =>
    rw [total_cons] at h ⊢
    have hl : l.sum.toNat = total l := ih (by omega)
    rw [List.sum_cons, toNat_add_of_lt (by rwa [hl]), hl]

/-- Whether a result stands, or is let through as it is. -/
def Overflow.Fits : Overflow → Nat → Prop
  | .panics, n => n < UInt64.size
  | .wraps, _ => True

instance (mode : Overflow) (n : Nat) : Decidable (mode.Fits n) := by
  cases mode <;> unfold Overflow.Fits <;> infer_instance

@[simp] theorem fits_panics {n : Nat} : Overflow.panics.Fits n ↔ n < UInt64.size := Iff.rfl

@[simp] theorem fits_wraps {n : Nat} : Overflow.wraps.Fits n ↔ True := Iff.rfl

theorem fits_of_lt (mode : Overflow) {n : Nat} (h : n < UInt64.size) : mode.Fits n := by
  cases mode with
  | panics => exact h
  | wraps => trivial

theorem fits_mono {mode : Overflow} {m n : Nat} (hle : m ≤ n) (h : mode.Fits n) : mode.Fits m := by
  cases mode with
  | panics => exact Nat.lt_of_le_of_lt hle h
  | wraps => trivial

theorem add_eq (mode : Overflow) (a b : UInt64) :
    mode.add a b = if mode.Fits (a.toNat + b.toNat) then some (a + b) else none := by
  cases mode with
  | panics => rfl
  | wraps => exact (if_pos trivial).symm

theorem foldlM_add_panics (l : List UInt64) (a : UInt64) :
    l.foldlM Overflow.panics.add a =
      if a.toNat + total l < UInt64.size then some (a + l.sum) else none := by
  induction l generalizing a with
  | nil => simp [UInt64.toNat_lt_size]
  | cons b l ih =>
    rw [List.foldlM_cons, Overflow.add, total_cons, List.sum_cons]
    by_cases hadd : a.toNat + b.toNat < UInt64.size
    · rw [if_pos hadd]
      change l.foldlM _ _ = _
      rw [ih, toNat_add_of_lt hadd, add_assoc, add_assoc]
    · rw [if_neg hadd, if_neg (by omega)]
      rfl

theorem foldlM_add_wraps (l : List UInt64) (a : UInt64) :
    l.foldlM Overflow.wraps.add a = some (a + l.sum) := by
  induction l generalizing a with
  | nil => simp
  | cons b l ih =>
    rw [List.foldlM_cons, Overflow.add, List.sum_cons, ← add_assoc]
    exact ih (a + b)

/-- The total decides. -/
theorem sum_eq (mode : Overflow) (l : List UInt64) :
    mode.sum l = if mode.Fits (total l) then some l.sum else none := by
  cases mode with
  | panics =>
    rw [Overflow.sum, foldlM_add_panics, UInt64.toNat_zero, Nat.zero_add, zero_add]
    rfl
  | wraps =>
    rw [Overflow.sum, foldlM_add_wraps, zero_add]
    exact (if_pos trivial).symm

end Words
end Library
