/-
The statistics of a file depend on its rows and not on their order.
-/
import GameSockets.Library.Sorted
import GameSockets.Stats.Agreement

namespace GameSockets
namespace Stats

open Client Library

section Order

variable {records records' : List BenchmarkRecord}

theorem streamIds_congr (h : records.Perm records') : streamIds records = streamIds records' :=
  Sorted.mergeSort_congr (h.map _).dedup

theorem streamRecords_congr (h : records.Perm records') (id : UInt16) :
    (streamRecords records id).Perm (streamRecords records' id) :=
  h.filter _

theorem countStream_congr (h : records.Perm records') :
    countStream records = countStream records' := by
  unfold countStream
  rw [Sorted.max?_congr (h.map _), h.length_eq]

theorem countGlobal_congr (h : records.Perm records') :
    countGlobal records = countGlobal records' := by
  have hcounts : ∀ id, countStream (streamRecords records id) =
      countStream (streamRecords records' id) :=
    fun id => countStream_congr (streamRecords_congr h id)
  simp only [countGlobal, streamIds_congr h, hcounts]

variable {F : Type} [Field F] [LinearOrder F] [FloorSemiring F] {sqrt : F → F}

/-- What the percentiles are picked from is sorted, and the rest are extremes and sums. -/
theorem computeSingleRun_congr (h : records.Perm records') (c : Counts) :
    computeSingleRun sqrt c records = computeSingleRun sqrt c records' := by
  unfold computeSingleRun
  rw [h.isEmpty_eq, Sorted.min?_congr (h.map _), Sorted.max?_congr (h.map _), (h.map _).sum_eq,
    Sorted.mergeSort_congr (h.map _)]

theorem analyzeSingleFile_congr (h : records.Perm records') :
    analyzeSingleFile sqrt records = analyzeSingleFile sqrt records' := by
  have hstream : ∀ id, computeSingleRun sqrt (countStream (streamRecords records id))
        (streamRecords records id) =
      computeSingleRun sqrt (countStream (streamRecords records' id))
        (streamRecords records' id) := by
    intro id
    rw [countStream_congr (streamRecords_congr h id)]
    exact computeSingleRun_congr (streamRecords_congr h id) _
  simp only [analyzeSingleFile, h.isEmpty_eq, hstream, streamIds_congr h, countGlobal_congr h,
    computeSingleRun_congr h]

/-- Rows in another order, grouped in a table with another order of keys, give the same
report. -/
theorem report_independent_of_order (keyOrder keyOrder' : List UInt16 → List UInt16)
    (horder : ∀ l, (keyOrder l).Perm l) (horder' : ∀ l, (keyOrder' l).Perm l) (sqrt : F → F)
    (records records' : List BenchmarkRecord) (h : records.Perm records') :
    ∃ report, Tables.analyzeSingleFile keyOrder sqrt records = some report ∧
      Tables.analyzeSingleFile keyOrder' sqrt records' = some report := by
  refine ⟨_, Tables.analyzeSingleFile_eq horder records, ?_⟩
  rw [Tables.analyzeSingleFile_eq horder', analyzeSingleFile_congr h]

theorem report_independent_of_order_mixedRows :
    ∃ report, Tables.analyzeSingleFile List.reverse Rat.sqrt mixedRows = some report ∧
      Tables.analyzeSingleFile id Rat.sqrt mixedRows.reverse = some report :=
  report_independent_of_order List.reverse id List.reverse_perm (fun _ => .refl _) Rat.sqrt
    mixedRows mixedRows.reverse mixedRows.reverse_perm.symm

end Order

end Stats
end GameSockets
