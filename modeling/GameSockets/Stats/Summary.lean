/-
Where the figures of a summary lie.

The median has half of the values on either side, mean and median lie between the extremes,
and none of them depends on the order of the values.
-/
import GameSockets.Stats.Interval

namespace GameSockets
namespace Stats

open Library

section Fields

variable {F : Type} [Field F] [LinearOrder F] (sqrt : F → F)

theorem summarize_of_ne_nil {values : List F} (hne : values ≠ []) :
    summarize sqrt values =
      { median := Sample.median values, mean := Sample.mean values,
        stddev := sqrt (variance values),
        ci95Low := Sample.mean values - margin sqrt values,
        ci95High := Sample.mean values + margin sqrt values,
        min := values.min?.getD 0, max := values.max?.getD 0, values := values } := by
  cases values with
  | nil => exact absurd rfl hne
  | cons v values =>
    rw [← Sorted.head?_mergeSort, ← Sorted.getLast?_mergeSort, Sample.median, Sample.mid_eq]
    rfl

omit [LinearOrder F] in
theorem variance_perm {values values' : List F} (h : values.Perm values') :
    variance values = variance values' := by
  rw [variance, variance, Sample.mean_perm h, Sample.deviation_perm _ h, h.length_eq]

omit [LinearOrder F] in
theorem margin_perm {values values' : List F} (h : values.Perm values') :
    margin sqrt values = margin sqrt values' := by
  rw [margin, margin, variance_perm h, h.length_eq]

/-- The order of the values shows in `values` alone. -/
theorem summarize_perm {values values' : List F} (h : values.Perm values') :
    summarize sqrt values' = { summarize sqrt values with values := values' } := by
  by_cases hne : values = []
  · subst hne
    rw [h.nil_eq.symm]
    rfl
  · have hne' : values' ≠ [] := fun hnil => hne (hnil ▸ h).eq_nil
    rw [summarize_of_ne_nil sqrt hne, summarize_of_ne_nil sqrt hne', Sample.median_perm h,
      Sample.mean_perm h, variance_perm h, margin_perm sqrt h, Sorted.min?_congr h,
      Sorted.max?_congr h]

omit [LinearOrder F] in
theorem variance_mul [CharZero F] {values : List F} (h : 1 < values.length) :
    variance values * (values.length - 1) = Sample.deviation (Sample.mean values) values := by
  have hne : (values.length : F) - 1 ≠ 0 := by
    rw [sub_ne_zero]
    exact Nat.cast_ne_one.mpr h.ne'
  rw [variance, if_pos h, div_mul_cancel₀ _ hne]

end Fields

section Real

/-- What a summary says of its values. -/
structure SummaryStatistic.WellPlaced (s : SummaryStatistic ℝ) (values : List ℝ) : Prop where
  belowMedian : (values.length : ℝ) / 2 ≤ values.countP (· ≤ s.median)
  aboveMedian : (values.length : ℝ) / 2 ≤ values.countP (s.median ≤ ·)
  min : IsLeast {v | v ∈ values} s.min
  max : IsGreatest {v | v ∈ values} s.max
  median : s.min ≤ s.median ∧ s.median ≤ s.max
  mean : s.min ≤ s.mean ∧ s.mean ≤ s.max
  stddev : 1 < values.length →
    s.stddev ^ 2 * (values.length - 1) = (values.map fun v => (v - s.mean) ^ 2).sum

theorem half_le_of_le_two_mul {n k : Nat} (h : n ≤ 2 * k) : (n : ℝ) / 2 ≤ k := by
  rw [div_le_iff₀ two_pos, mul_comm]
  exact_mod_cast h

theorem wellPlaced_summarize {values : List ℝ} (hne : values ≠ []) :
    (summarize Real.sqrt values).WellPlaced values := by
  have hmin := Sorted.isLeast_min? hne 0
  have hmax := Sorted.isGreatest_max? hne 0
  rw [summarize_of_ne_nil Real.sqrt hne]
  exact
    { belowMedian := half_le_of_le_two_mul (Sample.length_le_two_mul_countP_le_median hne),
      aboveMedian := half_le_of_le_two_mul (Sample.length_le_two_mul_countP_median_le hne),
      min := hmin,
      max := hmax,
      median := ⟨Sample.le_median hne fun _ hv => hmin.2 hv,
        Sample.median_le hne fun _ hv => hmax.2 hv⟩,
      mean := ⟨Sample.le_mean hne fun _ hv => hmin.2 hv, Sample.mean_le hne fun _ hv => hmax.2 hv⟩,
      stddev := fun h => by
        rw [Real.sq_sqrt (variance_nonneg values), variance_mul h, Sample.deviation] }

/-- The figures of a summary lie among its values, wherever these stand in the list. -/
theorem summary_well_placed (values : List ℝ) (hne : values ≠ []) :
    (summarize Real.sqrt values).WellPlaced values ∧
      ∀ values', values.Perm values' →
        summarize Real.sqrt values' =
          { summarize Real.sqrt values with values := values' } :=
  ⟨wellPlaced_summarize hne, fun _ h => summarize_perm Real.sqrt h⟩

theorem summary_well_placed_ties :
    (summarize Real.sqrt [3, 1, 3, 2]).WellPlaced [3, 1, 3, 2] ∧
      ∀ values', [3, 1, 3, 2].Perm values' →
        summarize Real.sqrt values' =
          { summarize Real.sqrt [3, 1, 3, 2] with values := values' } :=
  summary_well_placed [3, 1, 3, 2] (List.cons_ne_nil _ _)

end Real

end Stats
end GameSockets
