/-
Mean, median and deviations of a list of numbers, and how far the first two are apart.

More than half of the values lie on the far side of the median from the mean, which puts a
bound on the distance of the two against the deviations.
-/
import GameSockets.Library.Sorted
import Mathlib.Algebra.Order.BigOperators.Group.List
import Mathlib.Algebra.Order.Field.Basic
import Mathlib.Data.List.GetD
import Mathlib.Tactic.FieldSimp
import Mathlib.Tactic.Linarith
import Mathlib.Tactic.LinearCombination
import Mathlib.Tactic.Positivity
import Mathlib.Tactic.Ring

namespace Library
namespace Sample

section Sample

variable {F : Type} [Field F]

def mean (l : List F) : F := l.sum / (l.length : F)

theorem mean_pair (a b : F) : mean [a, b] = (a + b) / 2 := by simp [mean]

theorem mean_perm {l l' : List F} (h : l.Perm l') : mean l = mean l' := by
  rw [mean, mean, h.sum_eq, h.length_eq]

/-- The squares of the distances from `c`, summed. -/
def deviation (c : F) (l : List F) : F := (l.map fun v => (v - c) ^ 2).sum

@[simp] theorem deviation_nil (c : F) : deviation c [] = 0 := rfl

@[simp] theorem deviation_cons (c v : F) (l : List F) :
    deviation c (v :: l) = (v - c) ^ 2 + deviation c l :=
  List.sum_cons

theorem deviation_append (c : F) (l l' : List F) :
    deviation c (l ++ l') = deviation c l + deviation c l' := by
  simp [deviation]

theorem deviation_perm (c : F) {l l' : List F} (h : l.Perm l') : deviation c l = deviation c l' :=
  (h.map _).sum_eq

/-- Another centre. -/
theorem deviation_eq (c d : F) (l : List F) :
    deviation c l =
      deviation d l + 2 * (d - c) * (l.sum - l.length * d) + l.length * (d - c) ^ 2 := by
  induction l with
  | nil => simp
  | cons v l ih =>
    rw [deviation_cons, deviation_cons, ih, List.sum_cons, List.length_cons]
    push_cast
    ring

variable [LinearOrder F] [IsStrictOrderedRing F]

theorem le_mean {l : List F} (hne : l ≠ []) {a : F} (h : ∀ v ∈ l, a ≤ v) : a ≤ mean l := by
  rw [mean, le_div_iff₀ (Nat.cast_pos.mpr (List.length_pos_iff.mpr hne)), mul_comm,
    ← nsmul_eq_mul]
  exact List.card_nsmul_le_sum l a h

theorem mean_le {l : List F} (hne : l ≠ []) {a : F} (h : ∀ v ∈ l, v ≤ a) : mean l ≤ a := by
  rw [mean, div_le_iff₀ (Nat.cast_pos.mpr (List.length_pos_iff.mpr hne)), mul_comm,
    ← nsmul_eq_mul]
  exact List.sum_le_card_nsmul l a h

theorem deviation_nonneg (c : F) (l : List F) : 0 ≤ deviation c l := by
  refine List.sum_nonneg fun x hx => ?_
  obtain ⟨v, -, rfl⟩ := List.mem_map.mp hx
  exact sq_nonneg _

/-- The distance of the mean of a part from the centre. -/
theorem sq_le_length_mul_deviation (c : F) (l : List F) :
    (l.length * c - l.sum) ^ 2 ≤ l.length * deviation c l := by
  cases l with
  | nil => simp
  | cons v l =>
    have hpos : (0 : F) < (v :: l).length := by
      rw [List.length_cons]
      positivity
    have hcentre := deviation_eq c (mean (v :: l)) (v :: l)
    have hnonneg := deviation_nonneg (mean (v :: l)) (v :: l)
    have hsum : (v :: l).sum = (v :: l).length * mean (v :: l) := by
      rw [mean]
      field_simp
    rw [hsum] at hcentre ⊢
    have hsq : ((v :: l).length * c - (v :: l).length * mean (v :: l)) ^ 2 =
        (v :: l).length * ((v :: l).length * (mean (v :: l) - c) ^ 2) := by ring
    rw [hsq]
    refine mul_le_mul_of_nonneg_left ?_ hpos.le
    linarith

/-- Two parts of a list whose mean is the centre are as far from it, on either side. -/
theorem length_mul_sq_le {a b : List F} {c : F}
    (hmean : (a ++ b).sum = ((a ++ b).length : F) * c) :
    ((a ++ b).length : F) * (a.length * c - a.sum) ^ 2 ≤
      a.length * b.length * deviation c (a ++ b) := by
  rw [List.sum_append, List.length_append, Nat.cast_add] at hmean
  have hside : (a.length : F) * c - a.sum = -(b.length * c - b.sum) := by linarith
  have ha := mul_le_mul_of_nonneg_left (sq_le_length_mul_deviation c a)
    (Nat.cast_nonneg (α := F) b.length)
  have hb := mul_le_mul_of_nonneg_left (sq_le_length_mul_deviation c b)
    (Nat.cast_nonneg (α := F) a.length)
  have hb' : (a.length : F) * (a.length * c - a.sum) ^ 2 ≤
      a.length * (b.length * deviation c b) := by
    rw [hside, neg_sq]
    exact hb
  rw [deviation_append, List.length_append, Nat.cast_add]
  linarith

/-! ## Median -/

/-- The middle of a list in order, or the mean of the two in the middle. -/
def mid (sorted : List F) : F :=
  let half := sorted.length / 2
  if sorted.length % 2 = 0 then mean [sorted.getD (half - 1) 0, sorted.getD half 0]
  else sorted.getD half 0

def median (l : List F) : F := mid l.mergeSort

omit [LinearOrder F] [IsStrictOrderedRing F] in
theorem mid_eq (sorted : List F) :
    mid sorted =
      if sorted.length % 2 = 0 then
        (sorted.getD (sorted.length / 2 - 1) 0 + sorted.getD (sorted.length / 2) 0) / 2
      else sorted.getD (sorted.length / 2) 0 := by
  rw [← mean_pair]
  rfl

/-- What stands before an element of a list in order averages at most that element. -/
theorem sum_take_le_mul {s : List F} (hs : s.Pairwise (· ≤ ·)) {k : Nat} (hk : k < s.length) :
    (s.take k).sum ≤ k * s[k] := by
  have hle := List.sum_le_card_nsmul (s.take k) s[k] fun v hv => by
    obtain ⟨i, hi, rfl⟩ := List.getElem_of_mem hv
    rw [List.length_take] at hi
    rw [List.getElem_take]
    exact Sorted.getElem_le_getElem hs (by omega) hk
  rwa [List.length_take_of_le hk.le, nsmul_eq_mul] at hle

/-- What stands after an element of a list in order averages at least that element. -/
theorem mul_le_sum_drop {s : List F} (hs : s.Pairwise (· ≤ ·)) {k : Nat} (hk : k < s.length) :
    ((s.length - (k + 1) : Nat) : F) * s[k] ≤ (s.drop (k + 1)).sum := by
  have hle := List.card_nsmul_le_sum (s.drop (k + 1)) s[k] fun v hv => by
    obtain ⟨i, hi, rfl⟩ := List.getElem_of_mem hv
    rw [List.length_drop] at hi
    rw [List.getElem_drop]
    exact Sorted.getElem_le_getElem hs (by omega) (by omega)
  rwa [List.length_drop, nsmul_eq_mul] at hle

omit [LinearOrder F] [IsStrictOrderedRing F] in
theorem sum_drop_eq_add {s : List F} {k : Nat} (hk : k < s.length) :
    (s.drop k).sum = s[k] + (s.drop (k + 1)).sum := by
  rw [List.drop_eq_getElem_cons hk, List.sum_cons]

omit [IsStrictOrderedRing F] in
/-- The middle of a list in order: the element there, or half way from the one before. -/
theorem mid_cases {s : List F} (hs : s.Pairwise (· ≤ ·)) (hne : s ≠ []) :
    (∃ h : s.length / 2 < s.length, s.length - (s.length / 2 + 1) = s.length / 2 ∧
        mid s = s[s.length / 2]) ∨
      ∃ j, ∃ h : j + 1 < s.length, s.length / 2 = j + 1 ∧
        s.length - (j + 1 + 1) = j ∧ s[j] ≤ s[j + 1] ∧ mid s = (s[j] + s[j + 1]) / 2 := by
  have hpos : 0 < s.length := List.length_pos_iff.mpr hne
  rw [mid_eq]
  split
  · next heven =>
    obtain ⟨j, hj⟩ : ∃ j, s.length / 2 = j + 1 := ⟨s.length / 2 - 1, by omega⟩
    have hj1 : j + 1 < s.length := by omega
    refine Or.inr ⟨j, hj1, hj, by omega, Sorted.getElem_le_getElem hs (Nat.le_succ j) hj1, ?_⟩
    rw [hj, Nat.add_sub_cancel, List.getD_eq_getElem _ _ hj1, List.getD_eq_getElem _ _ (by omega)]
  · have hlt : s.length / 2 < s.length := by omega
    exact Or.inl ⟨hlt, by omega, List.getD_eq_getElem _ _ hlt⟩

/-- Half of a list is at most its median. -/
theorem length_le_two_mul_countP_le_median {l : List F} (hne : l ≠ []) :
    l.length ≤ 2 * l.countP (· ≤ median l) := by
  have hperm : l.mergeSort.Perm l := List.mergeSort_perm l _
  have hsorted := Sorted.pairwise_mergeSort l
  have hlen := hperm.length_eq
  rw [← hperm.countP_eq, median]
  obtain ⟨hlt, -, hmid⟩ | ⟨j, hj1, hj, hlen', hle, hmid⟩ :=
    mid_cases hsorted (Sorted.mergeSort_ne_nil hne)
  · have hcount := Sorted.lt_countP_le hsorted hlt hmid.ge
    omega
  · have hcount := Sorted.lt_countP_le hsorted (Nat.lt_of_succ_lt hj1)
      (v := mid l.mergeSort) (by rw [hmid]; linarith)
    omega

/-- Half of a list is at least its median. -/
theorem length_le_two_mul_countP_median_le {l : List F} (hne : l ≠ []) :
    l.length ≤ 2 * l.countP (median l ≤ ·) := by
  have hperm : l.mergeSort.Perm l := List.mergeSort_perm l _
  have hsorted := Sorted.pairwise_mergeSort l
  have hlen := hperm.length_eq
  rw [← hperm.countP_eq, median]
  obtain ⟨hlt, hlen', hmid⟩ | ⟨j, hj1, hj, hlen', hle, hmid⟩ :=
    mid_cases hsorted (Sorted.mergeSort_ne_nil hne)
  · have hcount := Sorted.length_sub_le_countP_ge hsorted hlt hmid.le
    omega
  · have hcount := Sorted.length_sub_le_countP_ge hsorted hj1
      (v := mid l.mergeSort) (by rw [hmid]; linarith)
    omega

omit [IsStrictOrderedRing F] in
theorem median_perm {l l' : List F} (h : l.Perm l') : median l = median l' := by
  rw [median, median, Sorted.mergeSort_congr h]

/-- A bound of the list is one of its median, which half of the list reaches. -/
theorem le_median {l : List F} (hne : l ≠ []) {a : F} (h : ∀ v ∈ l, a ≤ v) : a ≤ median l := by
  have hhalf := length_le_two_mul_countP_le_median hne
  have hpos := List.length_pos_iff.mpr hne
  have hcount : 0 < l.countP (· ≤ median l) := by omega
  obtain ⟨v, hv, hle⟩ := List.countP_pos_iff.mp hcount
  exact (h v hv).trans (of_decide_eq_true hle)

theorem median_le {l : List F} (hne : l ≠ []) {a : F} (h : ∀ v ∈ l, v ≤ a) : median l ≤ a := by
  have hhalf := length_le_two_mul_countP_median_le hne
  have hpos := List.length_pos_iff.mpr hne
  have hcount : 0 < l.countP (median l ≤ ·) := by omega
  obtain ⟨v, hv, hle⟩ := List.countP_pos_iff.mp hcount
  exact (of_decide_eq_true hle).trans (h v hv)

/-- The lower half, the middle included, averages at most the median. -/
theorem sum_take_le {s : List F} (hs : s.Pairwise (· ≤ ·)) (hne : s ≠ []) :
    (s.take (s.length / 2 + 1)).sum ≤ ((s.length / 2 + 1 : Nat) : F) * mid s := by
  obtain ⟨hlt, -, hmid⟩ | ⟨j, hj1, hj, -, hle, hmid⟩ := mid_cases hs hne
  · have hlow := sum_take_le_mul hs hlt
    rw [hmid, List.sum_take_succ s _ hlt]
    push_cast
    linarith
  · have hlow := sum_take_le_mul hs (Nat.lt_of_succ_lt hj1)
    have hmul : (j : F) * s[j] ≤ j * ((s[j] + s[j + 1]) / 2) :=
      mul_le_mul_of_nonneg_left (by linarith) (Nat.cast_nonneg j)
    rw [hmid, hj, List.sum_take_succ s _ hj1, List.sum_take_succ s _ (Nat.lt_of_succ_lt hj1)]
    push_cast
    linarith

/-- The upper half, the middle included, averages at least the median. -/
theorem le_sum_drop {s : List F} (hs : s.Pairwise (· ≤ ·)) (hne : s ≠ []) :
    ((s.length / 2 + 1 : Nat) : F) * mid s ≤
      (s.drop (s.length - (s.length / 2 + 1))).sum := by
  obtain ⟨hlt, hlen, hmid⟩ | ⟨j, hj1, hj, hlen, hle, hmid⟩ := mid_cases hs hne
  · have hhigh := mul_le_sum_drop hs hlt
    rw [hlen] at hhigh
    rw [hmid, hlen, sum_drop_eq_add hlt]
    push_cast
    linarith
  · have hhigh := mul_le_sum_drop hs hj1
    have hmul : (j : F) * ((s[j] + s[j + 1]) / 2) ≤ j * s[j + 1] :=
      mul_le_mul_of_nonneg_left (by linarith) (Nat.cast_nonneg j)
    rw [hlen] at hhigh
    rw [hmid, hj, hlen, sum_drop_eq_add (Nat.lt_of_succ_lt hj1), sum_drop_eq_add hj1]
    push_cast
    linarith

theorem sum_eq_length_mul_mean {l : List F} (hne : l ≠ []) : l.sum = l.length * mean l := by
  have hpos : (l.length : F) ≠ 0 := by simpa using hne
  rw [mean]
  field_simp

/-- A part of the list that averages as far from the mean as `d`. -/
theorem length_mul_sq_le_of_part {l a b : List F} (hperm : (a ++ b).Perm l) (hne : a ≠ []) {d : F}
    (hd : (a.length * d) ^ 2 ≤ (a.length * mean l - a.sum) ^ 2) :
    (l.length : F) * a.length * d ^ 2 ≤ b.length * deviation (mean l) l := by
  have hl : l ≠ [] := fun h => hne (List.append_eq_nil_iff.mp (h ▸ hperm).eq_nil).1
  have hpos : (0 : F) < a.length := Nat.cast_pos.mpr (List.length_pos_iff.mpr hne)
  have hparts := length_mul_sq_le (a := a) (b := b) (c := mean l) (by
    rw [hperm.sum_eq, hperm.length_eq]
    exact sum_eq_length_mul_mean hl)
  rw [hperm.length_eq, deviation_perm _ hperm] at hparts
  have hscaled := mul_le_mul_of_nonneg_left hd (Nat.cast_nonneg (α := F) l.length)
  refine le_of_mul_le_mul_left ?_ hpos
  calc (a.length : F) * (l.length * a.length * d ^ 2)
      = l.length * (a.length * d) ^ 2 := by ring
    _ ≤ a.length * b.length * deviation (mean l) l := hscaled.trans hparts
    _ = a.length * (b.length * deviation (mean l) l) := by ring

/-- The distance of mean and median against the deviations. -/
theorem sq_mean_sub_median_le {l : List F} (hne : l ≠ []) :
    (l.length : F) * (l.length / 2 + 1 : Nat) * (mean l - median l) ^ 2 ≤
      (l.length - (l.length / 2 + 1) : Nat) * deviation (mean l) l := by
  have hpos : 0 < l.length := List.length_pos_iff.mpr hne
  have hperm : l.mergeSort.Perm l := List.mergeSort_perm l _
  have hlen : l.mergeSort.length = l.length := hperm.length_eq
  have hsorted : l.mergeSort.Pairwise (· ≤ ·) := Sorted.pairwise_mergeSort l
  have hsne : l.mergeSort ≠ [] := Sorted.mergeSort_ne_nil hne
  have hlow := sum_take_le hsorted hsne
  have hhigh := le_sum_drop hsorted hsne
  rw [hlen] at hlow hhigh
  have hnonneg : (0 : F) ≤ ((l.length / 2 + 1 : Nat) : F) := Nat.cast_nonneg _
  rcases le_total (median l) (mean l) with hle | hle
  · have hlength : (l.mergeSort.take (l.length / 2 + 1)).length = l.length / 2 + 1 := by
      rw [List.length_take, hlen]
      omega
    have hpart := @length_mul_sq_le_of_part F _ _ _ l (l.mergeSort.take (l.length / 2 + 1))
      (l.mergeSort.drop (l.length / 2 + 1)) (by rwa [List.take_append_drop])
      (by rw [← List.length_pos_iff, hlength]; omega) (mean l - median l) (by
        rw [hlength]
        refine pow_le_pow_left₀ (mul_nonneg hnonneg (by linarith)) ?_ 2
        rw [mul_sub]
        exact sub_le_sub_left hlow _)
    rwa [hlength, List.length_drop, hlen] at hpart
  · have hlength : (l.mergeSort.drop (l.length - (l.length / 2 + 1))).length =
        l.length / 2 + 1 := by
      rw [List.length_drop, hlen]
      omega
    have hpart := @length_mul_sq_le_of_part F _ _ _ l
      (l.mergeSort.drop (l.length - (l.length / 2 + 1)))
      (l.mergeSort.take (l.length - (l.length / 2 + 1)))
      (List.perm_append_comm.trans (by rwa [List.take_append_drop]))
      (by rw [← List.length_pos_iff, hlength]; omega) (mean l - median l) (by
        rw [hlength, ← neg_sq, ← neg_sq ((_ : F) - _)]
        refine pow_le_pow_left₀ ?_ ?_ 2
        · rw [← mul_neg]
          exact mul_nonneg hnonneg (by linarith)
        · rw [mul_sub]
          have hhigh' : ((l.length / 2 + 1 : Nat) : F) * median l ≤ _ := hhigh
          linarith)
    rwa [hlength, List.length_take, hlen, min_eq_left (Nat.sub_le _ _)] at hpart

end Sample

end Sample
end Library
