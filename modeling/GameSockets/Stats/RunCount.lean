/-
The number of runs of a report, and the number of runs behind its intervals.

The loop over the files passes over those without rows, and the report counts all of them.
-/
import GameSockets.Stats.Agreement
import GameSockets.Stats.MissingIds

namespace GameSockets
namespace Stats

open Client

section RunCount

variable {F : Type}

/-- The metrics of a summary. -/
def AggregatedStats.metrics (a : AggregatedStats F) : List (SummaryStatistic F) :=
  [a.sent, a.received, a.lost, a.lossRatePercent, a.throughput.durationSec,
   a.throughput.packetRatePps, a.throughput.goodputMbps, a.latency.minUs, a.latency.avgUs,
   a.latency.maxUs, a.latency.jitterUs, a.latency.p50Us, a.latency.p90Us, a.latency.p95Us,
   a.latency.p99Us]

/-- Every global metric is a summary of the runs that the report counts. -/
def AggregatedReport.CountsRuns (r : AggregatedReport F) : Prop :=
  ∀ m ∈ r.global.metrics, m.values.length = r.numRuns

variable [Field F] [LinearOrder F] {sqrt : F → F}

/-- Each metric has one value a run. -/
theorem length_values (runs : List (SingleRunStats F)) :
    ∀ m ∈ (aggregateSingleRunRefs sqrt runs).metrics, m.values.length = runs.length := by
  simp [AggregatedStats.metrics, aggregateSingleRunRefs, summarize_values]

variable [FloorSemiring F]

theorem countsRuns_iff_length (scenario protocol : String) (files : List (List BenchmarkRecord)) :
    (aggregateRuns sqrt scenario protocol files).CountsRuns ↔
      (files.filter (!·.isEmpty)).length = files.length := by
  have hlength : ∀ m ∈ (aggregateRuns sqrt scenario protocol files).global.metrics,
      m.values.length = (files.filter (!·.isEmpty)).length := by
    intro m hm
    rw [length_values _ m hm, List.length_map, List.length_map]
  constructor
  · intro hcounts
    rw [← hlength _ List.mem_cons_self]
    exact hcounts _ List.mem_cons_self
  · intro hfiles m hm
    exact (hlength m hm).trans hfiles

/-- The runs of a report are those behind its metrics exactly when every file has rows. -/
theorem counts_runs_iff (keyOrder : List UInt16 → List UInt16)
    (horder : ∀ l, (keyOrder l).Perm l) (sqrt : F → F) (scenario protocol : String)
    (files : List (List BenchmarkRecord)) :
    ∃ report, Tables.aggregateRuns keyOrder sqrt scenario protocol files = some report ∧
      (report.CountsRuns ↔ ∀ file ∈ files, file ≠ []) := by
  refine ⟨_, Tables.aggregateRuns_eq horder scenario protocol files, ?_⟩
  rw [countsRuns_iff_length, List.length_filter_eq_length_iff]
  simp

theorem counts_runs_iff_mixedRows :
    ∃ report, Tables.aggregateRuns id Rat.sqrt "baseline" "udp" [mixedRows, mixedRows] =
        some report ∧
      (report.CountsRuns ↔ ∀ file ∈ [mixedRows, mixedRows], file ≠ []) :=
  counts_runs_iff id (fun _ => .refl _) Rat.sqrt "baseline" "udp" [mixedRows, mixedRows]

/-- A client that stopped before its first reply leaves a file without rows. -/
theorem counts_stopped_client :
    ∃ report, Tables.aggregateRuns id Rat.sqrt "baseline" "udp" [mixedRows, []] = some report ∧
      report.numRuns = 2 ∧ (∀ m ∈ report.global.metrics, m.values.length = 1) ∧
        ¬ report.CountsRuns := by
  refine ⟨_, Tables.aggregateRuns_eq (fun _ => .refl _) _ _ _, rfl, length_values _, ?_⟩
  rw [countsRuns_iff_length]
  decide

end RunCount

end Stats
end GameSockets
