/-
The interval of a summary and its median.

The interval is centred on the mean.  It reaches the median when mean and median are close
against the deviations, which all lists of up to eight values satisfy and some list of each
greater length does not.
-/
import GameSockets.Library.Sample
import GameSockets.Stats
import Mathlib.Analysis.Real.Sqrt
import Mathlib.Tactic.IntervalCases

namespace GameSockets
namespace Stats

open Library

section Fields

variable {F : Type} [Field F] [LinearOrder F] (sqrt : F → F)

/-- The point that is plotted lies in the bar that is plotted. -/
def SummaryStatistic.MedianInInterval (s : SummaryStatistic F) : Prop :=
  s.ci95Low ≤ s.median ∧ s.median ≤ s.ci95High

def variance (values : List F) : F :=
  if values.length > 1 then Sample.deviation (Sample.mean values) values / (values.length - 1)
  else 0

/-- Half the length of the interval. -/
def margin (values : List F) : F :=
  tCritical95 values.length * sqrt (variance values) / sqrt values.length

theorem summarize_mean (values : List F) : (summarize sqrt values).mean = Sample.mean values := by
  cases values with
  | nil => simp [summarize, Sample.mean]
  | cons v values => rfl

theorem summarize_median (values : List F) :
    (summarize sqrt values).median = Sample.median values := by
  cases values with
  | nil => simp [summarize, Sample.median, Sample.mid_eq]
  | cons v values =>
    rw [Sample.median, Sample.mid_eq]
    rfl

theorem summarize_ci95Low (values : List F) :
    (summarize sqrt values).ci95Low = Sample.mean values - margin sqrt values := by
  cases values with
  | nil => simp [summarize, Sample.mean, margin, tCritical95]
  | cons v values => rfl

theorem summarize_ci95High (values : List F) :
    (summarize sqrt values).ci95High = Sample.mean values + margin sqrt values := by
  cases values with
  | nil => simp [summarize, Sample.mean, margin, tCritical95]
  | cons v values => rfl

theorem variance_nonneg [IsStrictOrderedRing F] (values : List F) : 0 ≤ variance values := by
  unfold variance
  split
  · next h =>
    have hlen : (1 : F) < values.length := Nat.one_lt_cast.mpr h
    exact div_nonneg (Sample.deviation_nonneg _ _) (by linarith)
  · exact le_rfl

theorem tCritical95_nonneg [IsStrictOrderedRing F] (n : Nat) : (0 : F) ≤ tCritical95 n := by
  unfold tCritical95
  split <;> positivity

theorem tCritical95_le [IsStrictOrderedRing F] {n : Nat} (h : 9 ≤ n) :
    (tCritical95 n : F) ≤ 2.306 := by
  unfold tCritical95
  split
  all_goals first | omega | norm_num
  split_ifs <;> norm_num

/-- The table against the number of values, up to eight of them. -/
theorem tCritical95_sq_le [IsStrictOrderedRing F] {n : Nat} (hpos : 0 < n) (h : n ≤ 8) :
    ((n : F) - 1) * (n - (n / 2 + 1) : Nat) ≤ (tCritical95 n : F) ^ 2 * (n / 2 + 1 : Nat) := by
  interval_cases n <;> norm_num [tCritical95]

end Fields

section Real

/-- How close mean and median are to be. -/
def Close (values : List ℝ) : Prop :=
  values.length * (values.length - 1) * (Sample.mean values - Sample.median values) ^ 2 ≤
    tCritical95 values.length ^ 2 * Sample.deviation (Sample.mean values) values

theorem margin_nonneg (values : List ℝ) : 0 ≤ margin Real.sqrt values :=
  div_nonneg (mul_nonneg (tCritical95_nonneg _) (Real.sqrt_nonneg _)) (Real.sqrt_nonneg _)

theorem margin_sq {values : List ℝ} (h : 1 < values.length) :
    margin Real.sqrt values ^ 2 =
      tCritical95 values.length ^ 2 * Sample.deviation (Sample.mean values) values /
        (values.length * (values.length - 1)) := by
  have hn : (1 : ℝ) < values.length := Nat.one_lt_cast.mpr h
  rw [margin, div_pow, mul_pow, Real.sq_sqrt (variance_nonneg values),
    Real.sq_sqrt (by linarith), variance, if_pos h]
  field_simp

theorem mean_eq_median_of_singleton {values : List ℝ} (h : values.length = 1) :
    Sample.mean values = Sample.median values := by
  have hne : values ≠ [] := List.length_pos_iff.mp (by omega)
  have hbound := Sample.sq_mean_sub_median_le hne
  rw [h] at hbound
  norm_num at hbound
  exact sub_eq_zero.mp hbound

/-- The interval reaches the median when mean and median are close. -/
theorem medianInInterval_iff {values : List ℝ} (hne : values ≠ []) :
    (summarize Real.sqrt values).MedianInInterval ↔ Close values := by
  have habs : (summarize Real.sqrt values).MedianInInterval ↔
      (Sample.mean values - Sample.median values) ^ 2 ≤ margin Real.sqrt values ^ 2 := by
    rw [sq_le_sq, abs_of_nonneg (margin_nonneg values), abs_le,
      SummaryStatistic.MedianInInterval, summarize_median, summarize_ci95Low, summarize_ci95High]
    constructor
    · rintro ⟨hlow, hhigh⟩
      constructor <;> linarith
    · rintro ⟨hlow, hhigh⟩
      constructor <;> linarith
  rw [habs, Close]
  rcases Nat.lt_or_ge 1 values.length with hlt | hle
  · have hn : (1 : ℝ) < values.length := Nat.one_lt_cast.mpr hlt
    rw [margin_sq hlt, le_div_iff₀ (mul_pos (by linarith) (by linarith)), mul_comm]
  · have hone : values.length = 1 := by
      have := List.length_pos_iff.mpr hne
      omega
    rw [mean_eq_median_of_singleton hone, hone]
    have hzero : tCritical95 (F := ℝ) 1 = 0 := rfl
    rw [hzero]
    simp [sq_nonneg]

/-- Mean and median of up to eight values are close. -/
theorem close_of_length_le {values : List ℝ} (hne : values ≠ []) (h : values.length ≤ 8) :
    Close values := by
  have hpos : 0 < values.length := List.length_pos_iff.mpr hne
  have hbound := Sample.sq_mean_sub_median_le hne
  have htable := tCritical95_sq_le (F := ℝ) hpos h
  have hdev := Sample.deviation_nonneg (Sample.mean values) values
  have hhalf : (0 : ℝ) < (values.length / 2 + 1 : Nat) := by positivity
  have hn : (1 : ℝ) ≤ values.length := Nat.one_le_cast.mpr hpos
  refine le_of_mul_le_mul_left ?_ hhalf
  calc ((values.length / 2 + 1 : Nat) : ℝ) * (values.length * (values.length - 1) *
          (Sample.mean values - Sample.median values) ^ 2)
      = (values.length - 1) * (values.length * (values.length / 2 + 1 : Nat) *
          (Sample.mean values - Sample.median values) ^ 2) := by ring
    _ ≤ (values.length - 1) * ((values.length - (values.length / 2 + 1) : Nat) *
          Sample.deviation (Sample.mean values) values) :=
        mul_le_mul_of_nonneg_left hbound (by linarith)
    _ = (values.length - 1) * (values.length - (values.length / 2 + 1) : Nat) *
          Sample.deviation (Sample.mean values) values := by ring
    _ ≤ tCritical95 values.length ^ 2 * (values.length / 2 + 1 : Nat) *
          Sample.deviation (Sample.mean values) values :=
        mul_le_mul_of_nonneg_right htable hdev
    _ = (values.length / 2 + 1 : Nat) * (tCritical95 values.length ^ 2 *
          Sample.deviation (Sample.mean values) values) := by ring

/-! ## Lists whose mean and median are apart -/

/-- Just over half of the values are zero and the others one. -/
def lopsided (n : Nat) : List ℝ :=
  List.replicate (n / 2 + 1) 0 ++ List.replicate (n - (n / 2 + 1)) 1

theorem length_lopsided {n : Nat} (hpos : 0 < n) : (lopsided n).length = n := by
  rw [lopsided, List.length_append, List.length_replicate, List.length_replicate]
  omega

theorem median_lopsided {n : Nat} (hpos : 0 < n) : Sample.median (lopsided n) = 0 := by
  have hsorted : (lopsided n).Pairwise (· ≤ ·) := by
    rw [lopsided, List.pairwise_append]
    refine ⟨List.pairwise_replicate.mpr (Or.inr le_rfl),
      List.pairwise_replicate.mpr (Or.inr le_rfl), fun a ha b hb => ?_⟩
    rw [List.eq_of_mem_replicate ha, List.eq_of_mem_replicate hb]
    exact zero_le_one
  have hlow : ∀ i, i ≤ n / 2 → (lopsided n).getD i 0 = 0 := by
    intro i hi
    rw [lopsided, List.getD_append _ _ _ _ (by rw [List.length_replicate]; omega)]
    exact List.getD_replicate _ (by omega)
  rw [Sample.median, ← Sorted.eq_mergeSort (.refl _) hsorted, Sample.mid_eq, length_lopsided hpos,
    hlow _ le_rfl, hlow _ (Nat.sub_le _ _)]
  simp

theorem mean_lopsided {n : Nat} (hpos : 0 < n) :
    Sample.mean (lopsided n) = (n - (n / 2 + 1) : Nat) / (n : ℝ) := by
  rw [Sample.mean, length_lopsided hpos, lopsided, List.sum_append, List.sum_replicate,
    List.sum_replicate]
  simp

theorem deviation_replicate (c v : ℝ) (k : Nat) :
    Sample.deviation c (List.replicate k v) = k * (v - c) ^ 2 := by
  simp [Sample.deviation]

/-- The smaller half is long enough against the larger one. -/
theorem low_mul_lt {n : Nat} (h : 9 ≤ n) :
    5.4 * ((n / 2 + 1 : Nat) : ℝ) < (n - 1) * (n - (n / 2 + 1) : Nat) := by
  obtain ⟨k, hk⟩ := n.even_or_odd'
  rcases hk with rfl | rfl
  · have hhalf : 2 * k / 2 + 1 = k + 1 := by omega
    have hrest : 2 * k - (k + 1) = k - 1 := by omega
    have hk : (5 : ℝ) ≤ k := by exact_mod_cast (by omega : 5 ≤ k)
    rw [hhalf, hrest, Nat.cast_sub (by omega)]
    push_cast
    nlinarith
  · have hhalf : (2 * k + 1) / 2 + 1 = k + 1 := by omega
    have hrest : 2 * k + 1 - (k + 1) = k := by omega
    have hk : (4 : ℝ) ≤ k := by exact_mod_cast (by omega : 4 ≤ k)
    rw [hhalf, hrest]
    push_cast
    nlinarith

/-- From nine values on mean and median can be apart. -/
theorem not_close_lopsided {n : Nat} (h : 9 ≤ n) : ¬ Close (lopsided n) := by
  have hpos : 0 < n := by omega
  have hn : (0 : ℝ) < n := Nat.cast_pos.mpr hpos
  have hshape := low_mul_lt h
  have ht : (tCritical95 n : ℝ) ^ 2 ≤ 5.4 := by
    calc (tCritical95 n : ℝ) ^ 2 ≤ 2.306 ^ 2 :=
          pow_le_pow_left₀ (tCritical95_nonneg n) (tCritical95_le h) 2
      _ ≤ 5.4 := by norm_num
  rw [Close, length_lopsided hpos, median_lopsided hpos, mean_lopsided hpos, lopsided,
    Sample.deviation_append, deviation_replicate, deviation_replicate]
  have hsum : ((n / 2 + 1 : Nat) : ℝ) + (n - (n / 2 + 1) : Nat) = n := by
    exact_mod_cast (by omega : n / 2 + 1 + (n - (n / 2 + 1)) = n)
  have hhigh : (0 : ℝ) < (n - (n / 2 + 1) : Nat) := Nat.cast_pos.mpr (by omega)
  have hlow : (0 : ℝ) < (n / 2 + 1 : Nat) := by positivity
  generalize ((n / 2 + 1 : Nat) : ℝ) = low at hshape hsum hlow ⊢
  generalize ((n - (n / 2 + 1) : Nat) : ℝ) = high at hshape hsum hhigh ⊢
  have hdev : low * (0 - high / n) ^ 2 + high * (1 - high / n) ^ 2 = high * low / n := by
    have hlow' : low = n - high := by linarith
    rw [hlow']
    field_simp
    ring
  have hleft : (n : ℝ) * (n - 1) * (high / n - 0) ^ 2 = high * ((n - 1) * high) / n := by
    field_simp
    ring
  rw [hdev, hleft, not_le, ← mul_div_assoc, div_lt_div_iff_of_pos_right hn]
  have hbound : tCritical95 n ^ 2 * low < (n - 1) * high :=
    (mul_le_mul_of_nonneg_right ht hlow.le).trans_lt hshape
  calc tCritical95 n ^ 2 * (high * low) = high * (tCritical95 n ^ 2 * low) := by ring
    _ < high * ((n - 1) * high) := mul_lt_mul_of_pos_left hbound hhigh

/-- The interval is about the mean.  It reaches the median exactly when the two are close, and
eight values are the most of which this is certain. -/
theorem interval_about_mean :
    (∀ values : List ℝ, values ≠ [] →
        ((summarize Real.sqrt values).ci95Low ≤ (summarize Real.sqrt values).mean ∧
          (summarize Real.sqrt values).mean ≤ (summarize Real.sqrt values).ci95High) ∧
        ((summarize Real.sqrt values).MedianInInterval ↔ Close values)) ∧
      ∀ n, 0 < n →
        ((∀ values : List ℝ, values.length = n →
          (summarize Real.sqrt values).MedianInInterval) ↔ n ≤ 8) := by
  refine ⟨fun values hne => ⟨?_, medianInInterval_iff hne⟩, fun n hpos => ⟨fun hall => ?_, ?_⟩⟩
  · rw [summarize_mean, summarize_ci95Low, summarize_ci95High]
    have := margin_nonneg values
    constructor <;> linarith
  · by_contra hgt
    have hne : lopsided n ≠ [] := List.length_pos_iff.mp (by rwa [length_lopsided hpos])
    exact not_close_lopsided (by omega)
      ((medianInInterval_iff hne).mp (hall _ (length_lopsided hpos)))
  · rintro h values rfl
    have hne : values ≠ [] := List.length_pos_iff.mp hpos
    exact (medianInInterval_iff hne).mpr (close_of_length_le hne h)

theorem interval_about_mean_pair :
    ((summarize Real.sqrt [1, 2]).MedianInInterval ↔ Close [1, 2]) ∧
      (summarize Real.sqrt [1, 2]).MedianInInterval :=
  ⟨(interval_about_mean.1 [1, 2] (List.cons_ne_nil _ _)).2,
    (interval_about_mean.2 2 (by decide)).mpr (by decide) [1, 2] rfl⟩

/-- Ten runs, of which four lost a packet. -/
theorem median_outside_interval :
    ¬ (summarize Real.sqrt [0, 0, 0, 0, 0, 0, 1, 1, 1, 1]).MedianInInterval := by
  have hruns : ([0, 0, 0, 0, 0, 0, 1, 1, 1, 1] : List ℝ) = lopsided 10 := rfl
  intro hin
  rw [hruns, medianInInterval_iff (hruns ▸ List.cons_ne_nil _ _)] at hin
  exact not_close_lopsided (by decide) hin

end Real

end Stats
end GameSockets
