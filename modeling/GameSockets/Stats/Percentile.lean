/-
The percentiles of a run and their ranks.

A percentile is an element of the sorted round trip times, at a truncated index.  Its rank
is a pair of counts over the times in any order, so that equal times are no exception.
-/
import GameSockets.Stats.Consistency
import Mathlib.Data.List.GetD

namespace GameSockets
namespace Stats

open Client Library

section Percentile

variable {F : Type} [Field F] [LinearOrder F]

/-- One of the values, with at most `rank` values below it and more than `rank` up to it. -/
structure AtRank (values : List UInt64) (v : UInt64) (rank : F) : Prop where
  mem : v ∈ values
  below : (values.countP (· < v) : F) ≤ rank
  upTo : rank < (values.countP (· ≤ v) : F)

theorem AtRank.perm {values values' : List UInt64} {v : UInt64} {rank : F}
    (h : AtRank values v rank) (hperm : values.Perm values') : AtRank values' v rank :=
  { mem := hperm.mem_iff.mp h.mem,
    below := hperm.countP_eq _ ▸ h.below,
    upTo := hperm.countP_eq _ ▸ h.upTo }

variable [IsStrictOrderedRing F] [FloorSemiring F]

/-- The truncated index is one of the list. -/
theorem floor_rank_lt {l : List UInt64} (hne : l ≠ []) {pct : F} (h0 : 0 ≤ pct) (h1 : pct ≤ 1) :
    ⌊pct * ((l.length - 1 : Nat) : F)⌋₊ < l.length := by
  have hpos : 0 < l.length := List.length_pos_iff.mpr hne
  rw [Nat.floor_lt (mul_nonneg h0 (Nat.cast_nonneg _))]
  calc pct * ((l.length - 1 : Nat) : F) ≤ 1 * ((l.length - 1 : Nat) : F) :=
        mul_le_mul_of_nonneg_right h1 (Nat.cast_nonneg _)
    _ = ((l.length - 1 : Nat) : F) := one_mul _
    _ < l.length := Nat.cast_lt.mpr (by omega)

omit [IsStrictOrderedRing F] in
theorem percentile_eq_getElem {l : List UInt64} {pct : F}
    (hrank : ⌊pct * ((l.length - 1 : Nat) : F)⌋₊ < l.length) :
    percentile l pct = l[⌊pct * ((l.length - 1 : Nat) : F)⌋₊] :=
  List.getD_eq_getElem _ _ hrank

theorem atRank_percentile {l : List UInt64} (hsorted : l.Pairwise (· ≤ ·)) (hne : l ≠ [])
    {pct : F} (h0 : 0 ≤ pct) (h1 : pct ≤ 1) :
    AtRank l (percentile l pct) (pct * ((l.length - 1 : Nat) : F)) := by
  have hrank := floor_rank_lt hne h0 h1
  have hfloor : (⌊pct * ((l.length - 1 : Nat) : F)⌋₊ : F) ≤ pct * ((l.length - 1 : Nat) : F) :=
    Nat.floor_le (mul_nonneg h0 (Nat.cast_nonneg _))
  rw [percentile_eq_getElem hrank]
  constructor
  · exact List.getElem_mem hrank
  · have hbelow := Sorted.countP_lt_le hsorted hrank (Std.le_refl _)
    exact (Nat.cast_le.mpr hbelow).trans hfloor
  · have hupTo := Sorted.lt_countP_le hsorted hrank (Std.le_refl _)
    exact (Nat.floor_lt (mul_nonneg h0 (Nat.cast_nonneg _))).mp hupTo

/-- A larger percentile is further to the right. -/
theorem percentile_mono {l : List UInt64} (hsorted : l.Pairwise (· ≤ ·)) (hne : l ≠ [])
    {pct pct' : F} (h0 : 0 ≤ pct) (hle : pct ≤ pct') (h1 : pct' ≤ 1) :
    percentile l pct ≤ percentile l pct' := by
  rw [percentile_eq_getElem (floor_rank_lt hne h0 (hle.trans h1)),
    percentile_eq_getElem (floor_rank_lt hne (h0.trans hle) h1)]
  refine Sorted.getElem_le_getElem hsorted (Nat.floor_mono ?_) _
  exact mul_le_mul_of_nonneg_right hle (Nat.cast_nonneg _)

/-! ## The report of a run -/

structure SingleRunStats.Ordered (s : SingleRunStats F) : Prop where
  minUs : s.minUs ≤ s.p50Us
  p50Us : s.p50Us ≤ s.p90Us
  p90Us : s.p90Us ≤ s.p95Us
  p95Us : s.p95Us ≤ s.p99Us
  maxUs : s.p99Us ≤ s.maxUs

variable {sqrt : F → F} {c : Counts} {records : List BenchmarkRecord}

omit [IsStrictOrderedRing F] in
theorem computeSingleRun_percentiles (hne : records ≠ []) :
    (computeSingleRun sqrt c records).percentiles =
      [(50 / 100 : F), 90 / 100, 95 / 100, 99 / 100].map fun pct =>
        (pct, percentile (records.map (·.rttUs)).mergeSort pct) := by
  rw [computeSingleRun, if_neg (by simpa using hne)]
  rfl

theorem atRank_of_mem_percentiles (hne : records ≠ []) {p : F × UInt64}
    (hp : p ∈ (computeSingleRun sqrt c records).percentiles) :
    AtRank (records.map (·.rttUs)) p.2 (p.1 * ((records.length : F) - 1)) := by
  have hperm : (records.map (·.rttUs)).mergeSort.Perm (records.map (·.rttUs)) :=
    List.mergeSort_perm _ _
  have hrtts : (records.map (·.rttUs)).mergeSort ≠ [] :=
    Sorted.mergeSort_ne_nil (by simpa using hne)
  have hlen : (((records.map (·.rttUs)).mergeSort.length - 1 : Nat) : F) =
      (records.length : F) - 1 := by
    rw [hperm.length_eq, List.length_map, Nat.cast_pred (List.length_pos_iff.mpr hne)]
  rw [computeSingleRun_percentiles hne, List.mem_map] at hp
  obtain ⟨pct, hpct, rfl⟩ := hp
  have hunit : 0 ≤ pct ∧ pct ≤ 1 := by
    simp only [List.mem_cons, List.not_mem_nil, or_false] at hpct
    rcases hpct with rfl | rfl | rfl | rfl <;> norm_num
  have hat := atRank_percentile (Sorted.pairwise_mergeSort _) hrtts hunit.1 hunit.2
  rw [hlen] at hat
  exact hat.perm hperm

theorem ordered_computeSingleRun (hne : records ≠ []) :
    (computeSingleRun sqrt c records).Ordered := by
  have hrtts : records.map (·.rttUs) ≠ [] := by simpa using hne
  have hsorted := Sorted.pairwise_mergeSort (records.map (·.rttUs))
  have hmono : ∀ pct pct' : F, 0 ≤ pct → pct ≤ pct' → pct' ≤ 1 →
      percentile (records.map (·.rttUs)).mergeSort pct ≤
        percentile (records.map (·.rttUs)).mergeSort pct' :=
    fun _ _ => percentile_mono hsorted (Sorted.mergeSort_ne_nil hrtts)
  have hmem : ∀ p ∈ (computeSingleRun sqrt c records).percentiles,
      p.2 ∈ records.map (·.rttUs) := fun _ hp => (atRank_of_mem_percentiles hne hp).mem
  have hvalues : (computeSingleRun sqrt c records).percentiles = _ :=
    computeSingleRun_percentiles hne
  simp only [SingleRunStats.percentiles, List.map_cons, List.map_nil, List.cons.injEq,
    Prod.mk.injEq, true_and, and_true] at hvalues
  obtain ⟨h50, h90, h95, h99⟩ := hvalues
  constructor
  · rw [computeSingleRun_minUs]
    exact (Sorted.isLeast_min? hrtts 0).2 (hmem (50 / 100, _) List.mem_cons_self)
  · rw [h50, h90]
    exact hmono _ _ (by norm_num) (by norm_num) (by norm_num)
  · rw [h90, h95]
    exact hmono _ _ (by norm_num) (by norm_num) (by norm_num)
  · rw [h95, h99]
    exact hmono _ _ (by norm_num) (by norm_num) (by norm_num)
  · rw [computeSingleRun_maxUs]
    refine (Sorted.isGreatest_max? hrtts 0).2 (hmem (99 / 100, _) ?_)
    simp [SingleRunStats.percentiles]

/-- The percentiles of a run are round trip times of their ranks. -/
theorem percentiles_ranked (sqrt : F → F) (c : Counts) (records : List BenchmarkRecord)
    (hne : records ≠ []) :
    (∀ p ∈ (computeSingleRun sqrt c records).percentiles,
        AtRank (records.map (·.rttUs)) p.2 (p.1 * ((records.length : F) - 1))) ∧
      (computeSingleRun sqrt c records).Ordered :=
  ⟨fun _ hp => atRank_of_mem_percentiles hne hp, ordered_computeSingleRun hne⟩

theorem percentiles_ranked_mixedRows :
    (∀ p ∈ (computeSingleRun Rat.sqrt (countGlobal mixedRows) mixedRows).percentiles,
        AtRank (mixedRows.map (·.rttUs)) p.2 (p.1 * ((mixedRows.length : ℚ) - 1))) ∧
      (computeSingleRun Rat.sqrt (countGlobal mixedRows) mixedRows).Ordered :=
  percentiles_ranked Rat.sqrt _ mixedRows (List.cons_ne_nil _ _)

end Percentile

end Stats
end GameSockets
