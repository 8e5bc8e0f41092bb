/-
`stats.rs`: what the statistics program computes from the recorded rows.

The floating point numbers of the source are elements of a linearly ordered field
`F`, and its square root is a parameter.  Counters are machine words and wrap.  A
results file is the list of its rows: the recorder writes each of them as decimal
numbers and the reader gets them back.
-/
import GameSockets.Client
import Mathlib.Algebra.Order.Floor.Defs
import Mathlib.Data.UInt
import Mathlib.Data.List.Dedup

namespace GameSockets
namespace Stats

open Client

/-! ## Reports -/

/-- A metric summarized across runs. -/
structure SummaryStatistic (F : Type) where
  median : F
  mean : F
  stddev : F
  ci95Low : F
  ci95High : F
  min : F
  max : F
  values : List F

structure AggregatedThroughput (F : Type) where
  durationSec : SummaryStatistic F
  packetRatePps : SummaryStatistic F
  goodputMbps : SummaryStatistic F

structure AggregatedLatency (F : Type) where
  minUs : SummaryStatistic F
  avgUs : SummaryStatistic F
  maxUs : SummaryStatistic F
  jitterUs : SummaryStatistic F
  p50Us : SummaryStatistic F
  p90Us : SummaryStatistic F
  p95Us : SummaryStatistic F
  p99Us : SummaryStatistic F

structure AggregatedStats (F : Type) where
  sent : SummaryStatistic F
  received : SummaryStatistic F
  lost : SummaryStatistic F
  lossRatePercent : SummaryStatistic F
  throughput : AggregatedThroughput F
  latency : AggregatedLatency F

structure AggregatedStreamReport (F : Type) where
  streamId : UInt16
  streamIndex : UInt16
  streamType : String
  stats : AggregatedStats F

structure AggregatedReport (F : Type) where
  scenario : String
  protocol : String
  numRuns : Nat
  global : AggregatedStats F
  streams : List (AggregatedStreamReport F)

structure SingleRunStats (F : Type) where
  sent : UInt64
  received : UInt64
  lost : UInt64
  lossRatePercent : F
  durationSec : F
  packetRatePps : F
  goodputMbps : F
  minUs : UInt64
  avgUs : F
  maxUs : UInt64
  jitterUs : F
  p50Us : UInt64
  p90Us : UInt64
  p95Us : UInt64
  p99Us : UInt64

structure LegacyThroughput (F : Type) where
  durationSec : F
  packetRatePps : F
  goodputMbps : F

structure LegacyLatency (F : Type) where
  minUs : UInt64
  avgUs : F
  maxUs : UInt64
  jitterUs : F
  p50Us : UInt64
  p90Us : UInt64
  p95Us : UInt64
  p99Us : UInt64

structure LegacyStats (F : Type) where
  sent : UInt64
  received : UInt64
  lost : UInt64
  lossRatePercent : F
  throughput : LegacyThroughput F
  latency : LegacyLatency F

structure LegacyStreamReport (F : Type) where
  streamId : UInt16
  streamIndex : UInt16
  streamType : String
  stats : LegacyStats F

structure SingleFileReport (F : Type) where
  global : LegacyStats F
  streams : List (LegacyStreamReport F)

/-! ## Counting packets -/

/-- The streams that have rows, in order. -/
def streamIds (records : List BenchmarkRecord) : List UInt16 :=
  (records.map (·.streamId)).dedup.mergeSort

def streamRecords (records : List BenchmarkRecord) (streamId : UInt16) : List BenchmarkRecord :=
  records.filter (·.streamId = streamId)

/-- The three counters of one stream, or their totals. -/
structure Counts where
  sent : UInt64
  received : UInt64
  lost : UInt64

/-- A stream is taken to have sent every id up to the largest one recorded. -/
def countStream (records : List BenchmarkRecord) : Counts :=
  let maxId := (records.map (·.packetId)).max?.getD 0
  let received := UInt64.ofNat records.length
  let sent := if received > 0 then maxId + 1 else 0
  { sent := sent, received := received, lost := saturatingSub sent received }

/-- The global counters are the sums over the streams. -/
def countGlobal (records : List BenchmarkRecord) : Counts :=
  let counts := (streamIds records).map fun id => countStream (streamRecords records id)
  { sent := (counts.map (·.sent)).sum,
    received := (counts.map (·.received)).sum,
    lost := (counts.map (·.lost)).sum }

def streamIndex (streamId : UInt16) : UInt16 := streamId >>> 2

def streamType (streamId : UInt16) : String :=
  let isOrdered := streamId &&& orderingMask != 0
  let isReliableFlag := streamId &&& reliabilityMask == reliabilityMask
  if isReliableFlag then "Reliable" else if isOrdered then "Ordered" else "Unreliable"

theorem mem_streamIds {records : List BenchmarkRecord} {id : UInt16} :
    id ∈ streamIds records ↔ ∃ r ∈ records, r.streamId = id := by
  rw [streamIds, List.mem_mergeSort, List.mem_dedup, List.mem_map]

/-! ## One run -/

section Numbers

variable {F : Type} [Field F] [LinearOrder F] [FloorSemiring F] (sqrt : F → F)

def percentile (sortedData : List UInt64) (pct : F) : UInt64 :=
  sortedData.getD ⌊pct * ((sortedData.length - 1 : Nat) : F)⌋₊ 0

def lossRate (c : Counts) : F :=
  if c.sent > 0 then (c.lost.toNat : F) / (c.sent.toNat : F) * 100 else 0

def computeSingleRun (c : Counts) (records : List BenchmarkRecord) : SingleRunStats F :=
  if records.isEmpty then
    { sent := c.sent, received := c.received, lost := c.lost, lossRatePercent := lossRate c,
      durationSec := 0, packetRatePps := 0, goodputMbps := 0, minUs := 0, avgUs := 0, maxUs := 0,
      jitterUs := 0, p50Us := 0, p90Us := 0, p95Us := 0, p99Us := 0 }
  else
    let minTime := (records.map (·.recvTimestamp)).min?.getD 0
    let maxTime := (records.map (·.recvTimestamp)).max?.getD 0
    let durationUs := maxTime - minTime
    let durationSec : F := (durationUs.toNat : F) / 1000000
    let totalBytes := (records.map (·.payloadSize)).sum
    let goodputMbps : F :=
      if durationUs > 0 then (totalBytes.toNat : F) * 8 / (durationUs.toNat : F) else 0
    let pps := if durationSec > 0 then (c.received.toNat : F) / durationSec else 0
    let rtts := (records.map (·.rttUs)).mergeSort
    let avgRtt : F := (rtts.sum.toNat : F) / (c.received.toNat : F)
    let variance :=
      (rtts.map fun val =>
        let diff := avgRtt - (val.toNat : F)
        diff * diff).sum / (c.received.toNat : F)
    { sent := c.sent, received := c.received, lost := c.lost, lossRatePercent := lossRate c,
      durationSec := durationSec, packetRatePps := pps, goodputMbps := goodputMbps,
      minUs := rtts.head?.getD 0, avgUs := avgRtt, maxUs := rtts.getLast?.getD 0,
      jitterUs := sqrt variance,
      p50Us := percentile rtts (50 / 100 : F),
      p90Us := percentile rtts (90 / 100 : F),
      p95Us := percentile rtts (95 / 100 : F),
      p99Us := percentile rtts (99 / 100 : F) }

omit [LinearOrder F] [FloorSemiring F] in
/-- The percentiles of a run, with the fractions that they are for. -/
def SingleRunStats.percentiles (s : SingleRunStats F) : List (F × UInt64) :=
  [(50 / 100, s.p50Us), (90 / 100, s.p90Us), (95 / 100, s.p95Us), (99 / 100, s.p99Us)]

@[simp] theorem computeSingleRun_lost (c : Counts) (records : List BenchmarkRecord) :
    (computeSingleRun sqrt c records).lost = c.lost := by
  unfold computeSingleRun
  split <;> rfl

@[simp] theorem computeSingleRun_lossRatePercent (c : Counts) (records : List BenchmarkRecord) :
    (computeSingleRun sqrt c records).lossRatePercent = lossRate c := by
  unfold computeSingleRun
  split <;> rfl

def singleRunToLegacy (s : SingleRunStats F) : LegacyStats F :=
  { sent := s.sent, received := s.received, lost := s.lost,
    lossRatePercent := s.lossRatePercent,
    throughput :=
      { durationSec := s.durationSec, packetRatePps := s.packetRatePps,
        goodputMbps := s.goodputMbps },
    latency :=
      { minUs := s.minUs, avgUs := s.avgUs, maxUs := s.maxUs, jitterUs := s.jitterUs,
        p50Us := s.p50Us, p90Us := s.p90Us, p95Us := s.p95Us, p99Us := s.p99Us } }

def analyzeSingleFile (records : List BenchmarkRecord) : Except String (SingleFileReport F) :=
  if records.isEmpty then .error "No records found."
  else
    .ok
      { global := singleRunToLegacy (computeSingleRun sqrt (countGlobal records) records),
        streams := (streamIds records).map fun id =>
          let stream := streamRecords records id
          { streamId := id,
            streamIndex := streamIndex id,
            streamType := streamType id,
            stats := singleRunToLegacy (computeSingleRun sqrt (countStream stream) stream) } }

/-! ## Several runs -/

/-- Critical values of the t-distribution. -/
def tCritical95 (n : Nat) : F :=
  match n with
  | 0 | 1 => 0
  | 2 => 12.706
  | 3 => 4.303
  | 4 => 3.182
  | 5 => 2.776
  | 6 => 2.571
  | 7 => 2.447
  | 8 => 2.365
  | 9 => 2.306
  | 10 => 2.262
  | 11 => 2.228
  | 12 => 2.201
  | 13 => 2.179
  | 14 => 2.160
  | 15 => 2.145
  | _ => if n ≤ 20 then 2.086 else if n ≤ 30 then 2.042 else 1.960

def summarize (values : List F) : SummaryStatistic F :=
  if values.isEmpty then
    { median := 0, mean := 0, stddev := 0, ci95Low := 0, ci95High := 0, min := 0, max := 0,
      values := [] }
  else
    let n : F := values.length
    let mean := values.sum / n
    let variance :=
      if values.length > 1 then (values.map fun v => (v - mean) ^ 2).sum / (n - 1) else 0
    let stddev := sqrt variance
    let sorted := values.mergeSort
    let half := sorted.length / 2
    let median :=
      if sorted.length % 2 = 0 then (sorted.getD (half - 1) 0 + sorted.getD half 0) / 2
      else sorted.getD half 0
    let margin := tCritical95 values.length * stddev / sqrt n
    { median := median, mean := mean, stddev := stddev,
      ci95Low := mean - margin, ci95High := mean + margin,
      min := sorted.head?.getD 0, max := sorted.getLast?.getD 0, values := values }

def aggregateSingleRunRefs (runs : List (SingleRunStats F)) : AggregatedStats F :=
  let word (f : SingleRunStats F → UInt64) : SummaryStatistic F :=
    summarize sqrt (runs.map fun r => ((f r).toNat : F))
  let number (f : SingleRunStats F → F) : SummaryStatistic F := summarize sqrt (runs.map f)
  { sent := word (·.sent),
    received := word (·.received),
    lost := word (·.lost),
    lossRatePercent := number (·.lossRatePercent),
    throughput :=
      { durationSec := number (·.durationSec),
        packetRatePps := number (·.packetRatePps),
        goodputMbps := number (·.goodputMbps) },
    latency :=
      { minUs := word (·.minUs), avgUs := number (·.avgUs), maxUs := word (·.maxUs),
        jitterUs := number (·.jitterUs), p50Us := word (·.p50Us), p90Us := word (·.p90Us),
        p95Us := word (·.p95Us), p99Us := word (·.p99Us) } }

/-- The statistics of one file, for the run and for each of its streams. -/
structure RunStats (F : Type) where
  global : SingleRunStats F
  streams : List (UInt16 × SingleRunStats F)

def computeRun (records : List BenchmarkRecord) : RunStats F :=
  { global := computeSingleRun sqrt (countGlobal records) records,
    streams := (streamIds records).map fun id =>
      let stream := streamRecords records id
      (id, computeSingleRun sqrt (countStream stream) stream) }

/-- An empty file counts as a run and adds nothing. -/
def aggregateRuns (scenario protocol : String) (runFiles : List (List BenchmarkRecord)) :
    AggregatedReport F :=
  let runs := (runFiles.filter (!·.isEmpty)).map (computeRun sqrt)
  let allStreamIds := (runs.flatMap fun run => run.streams.map (·.1)).dedup.mergeSort
  { scenario := scenario,
    protocol := protocol,
    numRuns := runFiles.length,
    global := aggregateSingleRunRefs sqrt (runs.map (·.global)),
    streams := allStreamIds.filterMap fun id =>
      let perStreamRuns := runs.filterMap fun run => run.streams.lookup id
      if perStreamRuns.isEmpty then none
      else
        some
          { streamId := id,
            streamIndex := streamIndex id,
            streamType := streamType id,
            stats := aggregateSingleRunRefs sqrt perStreamRuns } }

end Numbers

end Stats
end GameSockets
