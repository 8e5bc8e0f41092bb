/-
The aggregation of one run says what the analysis of its file says.

Each metric of the aggregation is summarized over the runs, and the summary of one value is
that value.
-/
import GameSockets.Stats.Tables
import Mathlib.Data.Rat.Sqrt
import Mathlib.Data.Rat.Floor

namespace GameSockets
namespace Stats

open Client

section Agreement

variable {F : Type} [Field F]

/-- The summary of a metric with one value. -/
structure SummaryStatistic.IsConst (s : SummaryStatistic F) (v : F) : Prop where
  median : s.median = v
  mean : s.mean = v
  stddev : s.stddev = 0
  ci95Low : s.ci95Low = v
  ci95High : s.ci95High = v
  min : s.min = v
  max : s.max = v
  values : s.values = [v]

/-- Each aggregated metric is the one that the analysis of the file reports. -/
structure AggregatedStats.Agrees (a : AggregatedStats F) (l : LegacyStats F) : Prop where
  sent : a.sent.IsConst (l.sent.toNat : F)
  received : a.received.IsConst (l.received.toNat : F)
  lost : a.lost.IsConst (l.lost.toNat : F)
  lossRatePercent : a.lossRatePercent.IsConst l.lossRatePercent
  durationSec : a.throughput.durationSec.IsConst l.throughput.durationSec
  packetRatePps : a.throughput.packetRatePps.IsConst l.throughput.packetRatePps
  goodputMbps : a.throughput.goodputMbps.IsConst l.throughput.goodputMbps
  minUs : a.latency.minUs.IsConst (l.latency.minUs.toNat : F)
  avgUs : a.latency.avgUs.IsConst l.latency.avgUs
  maxUs : a.latency.maxUs.IsConst (l.latency.maxUs.toNat : F)
  jitterUs : a.latency.jitterUs.IsConst l.latency.jitterUs
  p50Us : a.latency.p50Us.IsConst (l.latency.p50Us.toNat : F)
  p90Us : a.latency.p90Us.IsConst (l.latency.p90Us.toNat : F)
  p95Us : a.latency.p95Us.IsConst (l.latency.p95Us.toNat : F)
  p99Us : a.latency.p99Us.IsConst (l.latency.p99Us.toNat : F)

structure AggregatedStreamReport.Agrees (a : AggregatedStreamReport F)
    (l : LegacyStreamReport F) : Prop where
  streamId : a.streamId = l.streamId
  streamIndex : a.streamIndex = l.streamIndex
  streamType : a.streamType = l.streamType
  stats : a.stats.Agrees l.stats

/-- The same streams in the same order, with the same metrics. -/
structure AggregatedReport.Agrees (r : AggregatedReport F) (l : SingleFileReport F) : Prop where
  global : r.global.Agrees l.global
  streams : List.Forall₂ AggregatedStreamReport.Agrees r.streams l.streams

variable [LinearOrder F] {sqrt : F → F}

theorem isConst_summarize (hsqrt : sqrt 0 = 0) (v : F) : (summarize sqrt [v]).IsConst v := by
  constructor <;> simp [summarize, hsqrt, tCritical95]

theorem agrees_singleton (hsqrt : sqrt 0 = 0) (s : SingleRunStats F) :
    (aggregateSingleRunRefs sqrt [s]).Agrees (singleRunToLegacy s) := by
  constructor <;> exact isConst_summarize hsqrt _

variable [FloorSemiring F]

omit [Field F] [LinearOrder F] [FloorSemiring F] in
theorem nodup_streamIds (records : List BenchmarkRecord) : (streamIds records).Nodup :=
  (List.mergeSort_perm _ _).nodup_iff.mpr (List.nodup_dedup _)

/-- The streams are in order, each listed once. -/
theorem streamIds_dedup_mergeSort (records : List BenchmarkRecord) :
    (streamIds records).dedup.mergeSort = streamIds records := by
  rw [(nodup_streamIds records).dedup]
  exact List.mergeSort_eq_self (r := fun a b : UInt16 => a ≤ b) (List.pairwise_mergeSort' _ _)

/-- The streams of one run are the only ones that are aggregated. -/
theorem aggregateRuns_singleton {records : List BenchmarkRecord} (hne : records ≠ [])
    (scenario protocol : String) :
    aggregateRuns sqrt scenario protocol [records] =
      { scenario := scenario, protocol := protocol, numRuns := 1,
        global := aggregateSingleRunRefs sqrt
          [computeSingleRun sqrt (countGlobal records) records],
        streams := (streamIds records).map fun id =>
          { streamId := id, streamIndex := streamIndex id, streamType := streamType id,
            stats := aggregateSingleRunRefs sqrt
              [computeSingleRun sqrt (countStream (streamRecords records id))
                (streamRecords records id)] } } := by
  have hfiles : [records].filter (!·.isEmpty) = [records] := by simp [hne]
  have hids : ((computeRun sqrt records).streams.map (·.1)).dedup.mergeSort =
      streamIds records := by
    have hkeys : (computeRun sqrt records).streams.map (·.1) = streamIds records := by
      simp [computeRun, Function.comp_def]
    rw [hkeys, streamIds_dedup_mergeSort]
  unfold aggregateRuns
  rw [hfiles]
  simp only [List.map_cons, List.map_nil, List.flatMap_cons, List.flatMap_nil, List.append_nil,
    hids, List.length_singleton]
  congr 1
  rw [← List.filterMap_eq_map]
  apply List.filterMap_congr
  intro id hid
  rw [List.filterMap_cons, lookup_computeRun, if_pos hid]
  rfl

/-- The two analyses of a file that has rows agree. -/
theorem paths_agree (keyOrder keyOrder' : List UInt16 → List UInt16)
    (horder : ∀ l, (keyOrder l).Perm l) (horder' : ∀ l, (keyOrder' l).Perm l)
    (sqrt : F → F) (hsqrt : sqrt 0 = 0) (scenario protocol : String)
    (records : List BenchmarkRecord) (hne : records ≠ []) :
    ∃ report legacy,
      Tables.aggregateRuns keyOrder sqrt scenario protocol [records] = some report ∧
        Tables.analyzeSingleFile keyOrder' sqrt records = some (.ok legacy) ∧
          report.Agrees legacy := by
  have hempty : ¬ records.isEmpty = true := by simpa using hne
  let legacy : SingleFileReport F :=
    { global := singleRunToLegacy (computeSingleRun sqrt (countGlobal records) records),
      streams := (streamIds records).map fun id =>
        { streamId := id, streamIndex := streamIndex id, streamType := streamType id,
          stats := singleRunToLegacy
            (computeSingleRun sqrt (countStream (streamRecords records id))
              (streamRecords records id)) } }
  have hlegacy : analyzeSingleFile sqrt records = .ok legacy := if_neg hempty
  refine ⟨_, legacy, Tables.aggregateRuns_eq horder _ _ _, ?_, ?_, ?_⟩
  · exact (Tables.analyzeSingleFile_eq horder' records).trans (congrArg some hlegacy)
  · rw [aggregateRuns_singleton hne]
    exact agrees_singleton hsqrt _
  · rw [aggregateRuns_singleton hne]
    change List.Forall₂ _ (List.map _ _) (List.map _ _)
    rw [List.forall₂_map_left_iff, List.forall₂_map_right_iff, List.forall₂_same]
    intro id _
    exact { streamId := rfl, streamIndex := rfl, streamType := rfl,
            stats := agrees_singleton hsqrt _ }

/-- Rows of two streams, the later stream first. -/
def mixedRows : List BenchmarkRecord :=
  [{ streamId := 7, packetId := 2, recvTimestamp := 40, rttUs := 30, payloadSize := 64 },
   { streamId := 4, packetId := 0, recvTimestamp := 32, rttUs := 20, payloadSize := 64 },
   { streamId := 7, packetId := 0, recvTimestamp := 30, rttUs := 25, payloadSize := 64 }]

theorem paths_agree_mixedRows :
    ∃ report legacy,
      Tables.aggregateRuns id Rat.sqrt "baseline" "udp" [mixedRows] = some report ∧
        Tables.analyzeSingleFile List.reverse Rat.sqrt mixedRows = some (.ok legacy) ∧
          report.Agrees legacy :=
  paths_agree id List.reverse (fun _ => .refl _) List.reverse_perm Rat.sqrt (by decide)
    "baseline" "udp" mixedRows (by simp [mixedRows])

end Agreement

end Stats
end GameSockets
