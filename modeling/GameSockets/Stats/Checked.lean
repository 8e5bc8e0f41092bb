/-
The statistics with every step that can fail.

`none` is a fault: a panic, or an operation whose result is not a number.  An addition of
words panics or wraps, as the program is built.  The other steps are at fault in every
build.
-/
import GameSockets.Library.Sample
import GameSockets.Library.Words
import GameSockets.Stats.Percentile
import Mathlib.Algebra.Order.Floor.Ring

namespace GameSockets
namespace Stats
namespace Checked

open Client Library

section Steps

variable {F : Type} [Field F] [LinearOrder F]

/-- A literal. -/
def literal (n : Nat) : F := n

def divide (a b : F) : Option F := if b = 0 then none else some (a / b)

def squareRoot (sqrt : F → F) (a : F) : Option F := if a < 0 then none else some (sqrt a)

def subtract (a b : UInt64) : Option UInt64 := if b ≤ a then some (a - b) else none

def subtractLen (a b : Nat) : Option Nat := if b ≤ a then some (a - b) else none

def partialCmp (a b : F) : Option Ordering :=
  if a < b then some .lt else if a = b then some .eq else if b < a then some .gt else none

/-- The sort unwraps the comparisons. -/
def sortBy (l : List F) : Option (List F) :=
  if ∀ a ∈ l, ∀ b ∈ l, (partialCmp a b).isSome then some l.mergeSort else none

end Steps

section Figures

variable {F : Type} [Field F] [LinearOrder F] [FloorSemiring F] (mode : Words.Overflow)
  (sqrt : F → F)

def percentile (sortedData : List UInt64) (pct : F) : Option UInt64 :=
  if sortedData.isEmpty then some 0
  else do
    let last ← subtractLen sortedData.length 1
    sortedData[⌊pct * (last : F)⌋₊]?

def lossRate (c : Counts) : Option F :=
  if c.sent > 0 then (divide (c.lost.toNat : F) (c.sent.toNat : F)).map (· * literal 100)
  else some 0

def computeSingleRun (c : Counts) (records : List BenchmarkRecord) :
    Option (SingleRunStats F) := do
  let rate ← lossRate c
  if records.isEmpty then
    some
      { sent := c.sent, received := c.received, lost := c.lost, lossRatePercent := rate,
        durationSec := 0, packetRatePps := 0, goodputMbps := 0, minUs := 0, avgUs := 0,
        maxUs := 0, jitterUs := 0, p50Us := 0, p90Us := 0, p95Us := 0, p99Us := 0 }
  else
    let minTime ← (records.map (·.recvTimestamp)).min?
    let maxTime ← (records.map (·.recvTimestamp)).max?
    let durationUs ← subtract maxTime minTime
    let durationSec : F ← divide (durationUs.toNat : F) (literal 1000000)
    let totalBytes ← mode.sum (records.map (·.payloadSize))
    let goodputMbps : F ←
      (if durationUs > 0 then divide ((totalBytes.toNat : F) * literal 8) (durationUs.toNat : F)
       else some 0)
    let pps ← (if durationSec > 0 then divide (c.received.toNat : F) durationSec else some 0)
    let rtts := (records.map (·.rttUs)).mergeSort
    let sumRtt ← mode.sum rtts
    let avgRtt : F ← divide (sumRtt.toNat : F) (c.received.toNat : F)
    let squares := rtts.map fun val =>
      let diff := avgRtt - (val.toNat : F)
      diff * diff
    let variance ← divide squares.sum (c.received.toNat : F)
    let jitter ← squareRoot sqrt variance
    let p50Us ← percentile rtts (literal 50 / literal 100 : F)
    let p90Us ← percentile rtts (literal 90 / literal 100 : F)
    let p95Us ← percentile rtts (literal 95 / literal 100 : F)
    let p99Us ← percentile rtts (literal 99 / literal 100 : F)
    some
      { sent := c.sent, received := c.received, lost := c.lost, lossRatePercent := rate,
        durationSec := durationSec, packetRatePps := pps, goodputMbps := goodputMbps,
        minUs := rtts.head?.getD 0, avgUs := avgRtt, maxUs := rtts.getLast?.getD 0,
        jitterUs := jitter, p50Us := p50Us, p90Us := p90Us, p95Us := p95Us, p99Us := p99Us }

/-- The element or elements in the middle. -/
def middle (sorted : List F) : Option F :=
  let half := sorted.length / 2
  if sorted.length % 2 = 0 then do
    let below ← subtractLen half 1
    let low ← sorted[below]?
    let high ← sorted[half]?
    divide (low + high) (literal 2)
  else sorted[half]?

def summarize (values : List F) : Option (SummaryStatistic F) :=
  if values.isEmpty then
    some
      { median := 0, mean := 0, stddev := 0, ci95Low := 0, ci95High := 0, min := 0, max := 0,
        values := [] }
  else do
    let n : F := values.length
    let mean ← divide values.sum n
    let variance ←
      (if values.length > 1 then divide (values.map fun v => (v - mean) ^ 2).sum (n - 1)
       else some 0)
    let stddev ← squareRoot sqrt variance
    let sorted ← sortBy values
    let median ← middle sorted
    let root ← squareRoot sqrt n
    let margin ← divide (tCritical95 values.length * stddev) root
    let min ← sorted.head?
    let max ← sorted.getLast?
    some
      { median := median, mean := mean, stddev := stddev, ci95Low := mean - margin,
        ci95High := mean + margin, min := min, max := max, values := values }

def aggregateSingleRunRefs (runs : List (SingleRunStats F)) : Option (AggregatedStats F) := do
  let word (f : SingleRunStats F → UInt64) : Option (SummaryStatistic F) :=
    summarize sqrt (runs.map fun r => ((f r).toNat : F))
  let number (f : SingleRunStats F → F) : Option (SummaryStatistic F) :=
    summarize sqrt (runs.map f)
  let sent ← word (·.sent)
  let received ← word (·.received)
  let lost ← word (·.lost)
  let lossRatePercent ← number (·.lossRatePercent)
  let durationSec ← number (·.durationSec)
  let packetRatePps ← number (·.packetRatePps)
  let goodputMbps ← number (·.goodputMbps)
  let minUs ← word (·.minUs)
  let avgUs ← number (·.avgUs)
  let maxUs ← word (·.maxUs)
  let jitterUs ← number (·.jitterUs)
  let p50Us ← word (·.p50Us)
  let p90Us ← word (·.p90Us)
  let p95Us ← word (·.p95Us)
  let p99Us ← word (·.p99Us)
  some
    { sent := sent, received := received, lost := lost, lossRatePercent := lossRatePercent,
      throughput :=
        { durationSec := durationSec, packetRatePps := packetRatePps,
          goodputMbps := goodputMbps },
      latency :=
        { minUs := minUs, avgUs := avgUs, maxUs := maxUs, jitterUs := jitterUs, p50Us := p50Us,
          p90Us := p90Us, p95Us := p95Us, p99Us := p99Us } }

/-! ## The loops -/

def countStream (streamRecords : List BenchmarkRecord) : Option Counts := do
  let maxId := (streamRecords.map (·.packetId)).max?.getD 0
  let received := UInt64.ofNat streamRecords.length
  let sent ← (if received > 0 then mode.add maxId 1 else some 0)
  some { sent := sent, received := received, lost := saturatingSub sent received }

def addTotals (t : Tables.Totals) (c : Counts) : Option Tables.Totals := do
  let globalSent ← mode.add t.globalSent c.sent
  let globalReceived ← mode.add t.globalReceived c.received
  let globalLost ← mode.add t.globalLost c.lost
  some { globalSent := globalSent, globalReceived := globalReceived, globalLost := globalLost }

/-- What one pass over a stream computes in either analysis. -/
def streamPass (totals : Tables.Totals) (streamRecords : List BenchmarkRecord) :
    Option (Tables.Totals × SingleRunStats F) := do
  let counts ← countStream mode streamRecords
  let totals ← addTotals mode totals counts
  let stats ← computeSingleRun mode sqrt counts streamRecords
  some (totals, stats)

def analyzeStream (streams : Tables.HashMap (List BenchmarkRecord))
    (acc : Tables.Totals × List (LegacyStreamReport F)) (streamId : UInt16) :
    Option (Tables.Totals × List (LegacyStreamReport F)) := do
  let streamRecords ← streams.lookup streamId
  let (totals, stats) ← streamPass mode sqrt acc.1 streamRecords
  some
    (totals,
      acc.2 ++
        [{ streamId := streamId, streamIndex := streamIndex streamId,
           streamType := streamType streamId, stats := singleRunToLegacy stats }])

variable (keyOrder : List UInt16 → List UInt16)

def analyzeSingleFile (records : List BenchmarkRecord) :
    Option (Except String (SingleFileReport F)) :=
  if records.isEmpty then some (.error "No records found.")
  else do
    let streams := Grouping.group BenchmarkRecord.streamId records
    let streamIds := Tables.sortedKeys keyOrder streams
    let (totals, streams) ← streamIds.foldlM (analyzeStream mode sqrt streams) (.zero, [])
    let global ← computeSingleRun mode sqrt totals.counts records
    some (.ok { global := singleRunToLegacy global, streams := streams })

def aggregateStream (streams : Tables.HashMap (List BenchmarkRecord)) (acc : Tables.FileLoop F)
    (streamId : UInt16) : Option (Tables.FileLoop F) := do
  let streamRecords ← streams.lookup streamId
  let (totals, stats) ← streamPass mode sqrt acc.totals streamRecords
  let streamMeta :=
    if streamId ∈ acc.streamMeta then acc.streamMeta
    else acc.streamMeta.insert streamId (streamIndex streamId, streamType streamId)
  some
    { totals := totals, streamMeta := streamMeta,
      runStreamStats := acc.runStreamStats.insert streamId stats }

def aggregateFile (acc : Tables.RunsLoop F) (records : List BenchmarkRecord) :
    Option (Tables.RunsLoop F) :=
  if records.isEmpty then some acc
  else do
    let streams := Grouping.group BenchmarkRecord.streamId records
    let streamIds := Tables.sortedKeys keyOrder streams
    let start : Tables.FileLoop F :=
      { totals := .zero, streamMeta := acc.streamMeta, runStreamStats := ∅ }
    let file ← streamIds.foldlM (aggregateStream mode sqrt streams) start
    let global ← computeSingleRun mode sqrt file.totals.counts records
    some
      { allRunStats := acc.allRunStats ++ [file.runStreamStats],
        allGlobalStats := acc.allGlobalStats ++ [global],
        streamMeta := file.streamMeta }

def reportStream (runs : Tables.RunsLoop F) (reports : List (AggregatedStreamReport F))
    (streamId : UInt16) : Option (List (AggregatedStreamReport F)) := do
  let (index, typeLabel) ← runs.streamMeta.lookup streamId
  let perStreamRuns := runs.allRunStats.filterMap fun run => run.lookup streamId
  if perStreamRuns.isEmpty then some reports
  else
    let stats ← aggregateSingleRunRefs sqrt perStreamRuns
    some
      (reports ++
        [{ streamId := streamId, streamIndex := index, streamType := typeLabel,
           stats := stats }])

def aggregateRuns (scenario protocol : String) (runFiles : List (List BenchmarkRecord)) :
    Option (AggregatedReport F) := do
  let runs ← runFiles.foldlM (aggregateFile mode sqrt keyOrder)
    { allRunStats := [], allGlobalStats := [], streamMeta := ∅ }
  let globalAgg ← aggregateSingleRunRefs sqrt runs.allGlobalStats
  let allStreamIds := Tables.sortedKeys keyOrder runs.streamMeta
  let streamReports ← allStreamIds.foldlM (reportStream sqrt runs) []
  some
    { scenario := scenario, protocol := protocol, numRuns := runFiles.length,
      global := globalAgg, streams := streamReports }

end Figures

/-! ## The figures of a run -/

section Steps

variable {F : Type} [Field F] [LinearOrder F]

theorem divide_eq {a b : F} (h : b ≠ 0) : divide a b = some (a / b) := if_neg h

/-- A guarded division. -/
theorem guarded_divide_eq {p : Prop} [Decidable p] {a b : F} (h : p → b ≠ 0) :
    (if p then divide a b else some 0) = some (if p then a / b else 0) := by
  split
  · next hp => exact divide_eq (h hp)
  · rfl

theorem squareRoot_eq (sqrt : F → F) {a : F} (h : 0 ≤ a) : squareRoot sqrt a = some (sqrt a) :=
  if_neg (not_lt.mpr h)

omit [Field F] in
theorem partialCmp_isSome (a b : F) : (partialCmp a b).isSome := by
  unfold partialCmp
  rcases lt_trichotomy a b with h | h | h
  · rw [if_pos h]
    rfl
  · rw [if_neg h.not_lt, if_pos h]
    rfl
  · rw [if_neg h.not_gt, if_neg h.ne', if_pos h]
    rfl

omit [Field F] in
theorem sortBy_eq (l : List F) : sortBy l = some l.mergeSort :=
  if_pos fun a _ b _ => partialCmp_isSome a b

omit [Field F] in
/-- An index within the list finds what the default does not replace. -/
theorem getElem?_eq_getD {α : Type} {l : List α} {i : Nat} (h : i < l.length) (d : α) :
    l[i]? = some (l.getD i d) := by
  rw [List.getD_eq_getElem?_getD, List.getElem?_eq_getElem h, Option.getD_some]

end Steps

section Figures

variable {F : Type} [Field F] [LinearOrder F] [IsStrictOrderedRing F] {sqrt : F → F}

theorem middle_eq {sorted : List F} (hne : sorted ≠ []) :
    middle sorted = some (Sample.mid sorted) := by
  have hpos : 0 < sorted.length := List.length_pos_iff.mpr hne
  have hhalf : sorted.length / 2 < sorted.length := by omega
  rw [middle, Sample.mid_eq]
  split
  · have hone : 1 ≤ sorted.length / 2 := by omega
    rw [subtractLen, if_pos hone, Option.bind_eq_bind, Option.bind_some,
      getElem?_eq_getD (by omega) 0, getElem?_eq_getD hhalf 0]
    exact divide_eq (by simp [literal])
  · exact getElem?_eq_getD hhalf 0

/-- A summary is never at fault. -/
theorem summarize_eq (hsqrt : ∀ x, 0 < x → 0 < sqrt x) (values : List F) :
    summarize sqrt values = some (Stats.summarize sqrt values) := by
  cases values with
  | nil => rfl
  | cons v rest =>
    unfold summarize Stats.summarize
    rw [if_neg (by simp), if_neg (by simp)]
    generalize hvalues : v :: rest = values
    have hne : values ≠ [] := hvalues ▸ List.cons_ne_nil v rest
    have hn : (0 : F) < values.length := Nat.cast_pos.mpr (List.length_pos_iff.mpr hne)
    have hsorted : values.mergeSort ≠ [] := Sorted.mergeSort_ne_nil hne
    have hguard : values.length > 1 → (values.length : F) - 1 ≠ 0 := fun h =>
      (sub_pos.mpr (Nat.one_lt_cast.mpr h)).ne'
    have hvariance : 0 ≤ (if values.length > 1 then
        (values.map fun v => (v - values.sum / values.length) ^ 2).sum / ((values.length : F) - 1)
        else 0) := by
      split
      · next h =>
        exact div_nonneg (Sample.deviation_nonneg _ values) (sub_pos.mpr (Nat.one_lt_cast.mpr h)).le
      · exact le_rfl
    have hmin : values.mergeSort.head? = some (values.mergeSort.head?.getD 0) :=
      (Option.getD_of_ne_none (mt List.head?_eq_none_iff.mp hsorted) 0).symm
    have hmax : values.mergeSort.getLast? = some (values.mergeSort.getLast?.getD 0) :=
      (Option.getD_of_ne_none (mt List.getLast?_eq_none_iff.mp hsorted) 0).symm
    simp only [Option.bind_eq_bind]
    rw [divide_eq hn.ne', Option.bind_some, guarded_divide_eq hguard, Option.bind_some,
      squareRoot_eq sqrt hvariance, Option.bind_some, sortBy_eq, Option.bind_some,
      middle_eq hsorted, Sample.mid_eq, Option.bind_some, squareRoot_eq sqrt hn.le,
      Option.bind_some, divide_eq (hsqrt _ hn).ne', Option.bind_some, hmin, Option.bind_some,
      hmax, Option.bind_some]
    rfl

/-- Neither is what is summarized over the runs. -/
theorem aggregateSingleRunRefs_eq (hsqrt : ∀ x, 0 < x → 0 < sqrt x)
    (runs : List (SingleRunStats F)) :
    aggregateSingleRunRefs sqrt runs = some (Stats.aggregateSingleRunRefs sqrt runs) := by
  simp only [aggregateSingleRunRefs, summarize_eq hsqrt, Option.bind_eq_bind, Option.bind_some]
  rfl

theorem reportStream_eq (hsqrt : ∀ x, 0 < x → 0 < sqrt x) (runs : Tables.RunsLoop F) :
    reportStream sqrt runs = Tables.reportStream sqrt runs := by
  funext reports id
  unfold reportStream Tables.reportStream
  simp only [aggregateSingleRunRefs_eq hsqrt]
  cases runs.streamMeta.lookup id with
  | none => rfl
  | some label =>
    rw [Option.bind_eq_bind, Option.bind_some, Option.map_some]
    split
    · rfl
    · rfl

variable [FloorSemiring F]

/-- The rank is an index of the list. -/
theorem percentile_eq {l : List UInt64} (hne : l ≠ []) {pct : F} (h0 : 0 ≤ pct) (h1 : pct ≤ 1) :
    percentile l pct = some (Stats.percentile l pct) := by
  have hpos : 1 ≤ l.length := List.length_pos_iff.mpr hne
  rw [percentile, if_neg (by simpa using hne), subtractLen, if_pos hpos, Option.bind_eq_bind,
    Option.bind_some]
  exact getElem?_eq_getD (floor_rank_lt hne h0 h1) 0

omit [FloorSemiring F] in
theorem toNat_cast_pos {w : UInt64} (h : w > 0) : (0 : F) < w.toNat :=
  Nat.cast_pos.mpr (UInt64.lt_iff_toNat_lt.mp h)

omit [FloorSemiring F] in
theorem lossRate_eq (c : Counts) : lossRate c = some (Stats.lossRate c : F) := by
  unfold lossRate Stats.lossRate
  split
  · next h => rw [divide_eq (toNat_cast_pos h).ne', Option.map_some, literal, Nat.cast_ofNat]
  · rfl

/-- The rows that a run is computed from add up. -/
def RowsFit (mode : Words.Overflow) (records : List BenchmarkRecord) : Prop :=
  mode.Fits (Words.total (records.map (·.payloadSize))) ∧
    mode.Fits (Words.total (records.map (·.rttUs)))

instance (mode : Words.Overflow) (records : List BenchmarkRecord) :
    Decidable (RowsFit mode records) :=
  inferInstanceAs (Decidable (_ ∧ _))

/-- Only its two sums can stop the computation of a run. -/
theorem computeSingleRun_eq (mode : Words.Overflow) (sqrt : F → F) {c : Counts}
    {records : List BenchmarkRecord} (hreceived : records ≠ [] → c.received > 0) :
    computeSingleRun mode sqrt c records =
      if RowsFit mode records then some (Stats.computeSingleRun sqrt c records) else none := by
  by_cases hne : records = []
  · subst hne
    have hzero : mode.Fits 0 := Words.fits_of_lt mode (by decide)
    rw [if_pos ⟨hzero, hzero⟩, computeSingleRun, lossRate_eq]
    rfl
  · have hempty : ¬ records.isEmpty = true := by simpa using hne
    have hc : (0 : F) < c.received.toNat := toNat_cast_pos (hreceived hne)
    have htimes : records.map (·.recvTimestamp) ≠ [] := by simpa using hne
    have hmin : (records.map (·.recvTimestamp)).min? =
        some ((records.map (·.recvTimestamp)).min?.getD 0) :=
      (Option.getD_of_ne_none (mt List.min?_eq_none_iff.mp htimes) 0).symm
    have hmax : (records.map (·.recvTimestamp)).max? =
        some ((records.map (·.recvTimestamp)).max?.getD 0) :=
      (Option.getD_of_ne_none (mt List.max?_eq_none_iff.mp htimes) 0).symm
    have horder := (Sorted.isLeast_min? htimes 0).2 (Sorted.isGreatest_max? htimes 0).1
    have hrtts : (records.map (·.rttUs)).mergeSort ≠ [] :=
      Sorted.mergeSort_ne_nil (by simpa using hne)
    have htotal : Words.total (records.map (·.rttUs)).mergeSort =
        Words.total (records.map (·.rttUs)) := Words.total_perm (List.mergeSort_perm _ _)
    have hsquares : ∀ a : F, 0 ≤ (((records.map (·.rttUs)).mergeSort.map fun val =>
        (a - (val.toNat : F)) * (a - (val.toNat : F))).sum) / (c.received.toNat : F) := by
      intro a
      refine div_nonneg (List.sum_nonneg fun x hx => ?_) hc.le
      obtain ⟨w, -, rfl⟩ := List.mem_map.mp hx
      exact mul_self_nonneg _
    rw [computeSingleRun, lossRate_eq, Stats.computeSingleRun, if_neg hempty, Option.bind_eq_bind,
      Option.bind_some, if_neg hempty]
    simp only [literal, Nat.cast_ofNat]
    rw [hmin, Option.bind_eq_bind, Option.bind_some, hmax, Option.bind_some, subtract,
      if_pos horder, Option.bind_some, divide_eq (by norm_num), Option.bind_some, Words.sum_eq]
    by_cases hbytes : mode.Fits (Words.total (records.map (·.payloadSize)))
    · rw [if_pos hbytes, Option.bind_some, guarded_divide_eq fun h => (toNat_cast_pos h).ne',
        Option.bind_some, guarded_divide_eq fun h => h.ne', Option.bind_some, Words.sum_eq,
        htotal]
      by_cases hsum : mode.Fits (Words.total (records.map (·.rttUs)))
      · have hfit : RowsFit mode records := ⟨hbytes, hsum⟩
        rw [if_pos hsum, Option.bind_some, divide_eq hc.ne', Option.bind_some, divide_eq hc.ne',
          Option.bind_some, squareRoot_eq sqrt (hsquares _), Option.bind_some,
          percentile_eq hrtts (by norm_num) (by norm_num), Option.bind_some,
          percentile_eq hrtts (by norm_num) (by norm_num), Option.bind_some,
          percentile_eq hrtts (by norm_num) (by norm_num), Option.bind_some,
          percentile_eq hrtts (by norm_num) (by norm_num), Option.bind_some,
          if_pos hfit]
        rfl
      · have hfit : ¬ RowsFit mode records := fun h => hsum h.2
        rw [if_neg hsum, if_neg hfit]
        rfl
    · have hfit : ¬ RowsFit mode records := fun h => hbytes h.1
      rw [if_neg hbytes, if_neg hfit]
      rfl

theorem computeSingleRun_eq_some_iff (mode : Words.Overflow) (sqrt : F → F) {c : Counts}
    {records : List BenchmarkRecord} (hreceived : records ≠ [] → c.received > 0)
    {stats : SingleRunStats F} :
    computeSingleRun mode sqrt c records = some stats ↔
      RowsFit mode records ∧ Stats.computeSingleRun sqrt c records = stats := by
  rw [computeSingleRun_eq mode sqrt hreceived, Option.ite_none_right_eq_some, Option.some.injEq]

end Figures

end Checked
end Stats
end GameSockets
