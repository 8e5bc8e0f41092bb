/-
Slots of equal width, in groups around the natural numbers.

The slots of a group share out its width, which is at most 1, half of it on either side.
-/
import Mathlib.Algebra.Order.Field.Basic
import Mathlib.Tactic.Linarith
import Mathlib.Tactic.Positivity
import Mathlib.Tactic.Ring

namespace Library
namespace Slots

section Slots

variable {F : Type} [Field F]

/-- The left end of slot `k` of group `g`, and the right end of the slot before it. -/
def left (half width : F) (slots g k : Nat) : F := g - half + k * (width / slots)

variable {half width : F} {slots g g' k k' : Nat}

theorem left_zero : left half width slots g 0 = g - half := by simp [left]

/-- The end of a slot is a slot's width from its start. -/
theorem left_succ :
    left half width slots g (k + 1) = left half width slots g k + width / slots := by
  unfold left
  push_cast
  ring

variable [LinearOrder F] [IsStrictOrderedRing F]

theorem left_slots (hhalf : half + half = width) (h : 0 < slots) :
    left half width slots g slots = g + half := by
  have hslots : (slots : F) ≠ 0 := Nat.cast_ne_zero.mpr h.ne'
  rw [left, mul_div_cancel₀ _ hslots, ← hhalf]
  ring

theorem left_mono (hwidth : 0 ≤ width) (h : k ≤ k') :
    left half width slots g k ≤ left half width slots g k' := by
  have hcast : (k : F) ≤ k' := Nat.cast_le.mpr h
  have hslot : 0 ≤ width / (slots : F) := by positivity
  have hmul := mul_le_mul_of_nonneg_right hcast hslot
  unfold left
  linarith

/-- The slots of a group are no further from its middle than half its width. -/
theorem left_bounds (hhalf : half + half = width) (hwidth : 0 ≤ width) (hslots : 0 < slots)
    (hk : k ≤ slots) :
    (g : F) - half ≤ left half width slots g k ∧ left half width slots g k ≤ g + half := by
  constructor
  · rw [← @left_zero F _ half width slots g]
    exact left_mono hwidth k.zero_le
  · rw [← @left_slots F _ half width slots g _ _ hhalf hslots]
    exact left_mono hwidth hk

/-- A slot does not reach into the slots of a later group. -/
theorem left_le_of_group (hhalf : half + half = width) (hwidth : 0 ≤ width) (hone : width ≤ 1)
    (hslots : 0 < slots) (hk : k ≤ slots) (hk' : k' ≤ slots) (hg : g < g') :
    left half width slots g k ≤ left half width slots g' k' := by
  have hcast : (g : F) + 1 ≤ g' := by exact_mod_cast hg
  have hend := (@left_bounds F _ half width slots g k _ _ hhalf hwidth hslots hk).2
  have hstart := (@left_bounds F _ half width slots g' k' _ _ hhalf hwidth hslots hk').1
  linarith

end Slots

end Slots
end Library
