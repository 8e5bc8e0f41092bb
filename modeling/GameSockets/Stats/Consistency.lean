/-
The figures of a file and those of its streams.

The streams are a partition of the rows, so what is summed over the streams is summed over
the rows, and the extremes of the streams have the extremes of the file among them.
-/
import GameSockets.Library.Sorted
import GameSockets.Library.Words
import GameSockets.Stats.Agreement
import GameSockets.Stats.MissingIds
import Mathlib.Algebra.Order.BigOperators.Group.List
import Mathlib.Data.Nat.Cast.Basic
import Mathlib.Order.Bounds.Basic

namespace GameSockets
namespace Stats

open Client Library

/-- What a stream is taken to have sent. -/
def sentTotal (rows : List BenchmarkRecord) : Nat := (maxId rows).toNat + 1

/-- The sums over the rows of a file fit in words. -/
structure SumsFit (records : List BenchmarkRecord) : Prop where
  rows : records.length < UInt64.size
  sent : ((streamIds records).map fun id => sentTotal (streamRecords records id)).sum < UInt64.size
  rtts : Words.total (records.map (·.rttUs)) < UInt64.size
  bytes : Words.total (records.map (·.payloadSize)) < UInt64.size

section Consistency

variable {F : Type} [Field F] [LinearOrder F]

/-- The figures of the streams add up to those of the file. -/
structure SingleFileReport.Consistent (r : SingleFileReport F) (records : List BenchmarkRecord) :
    Prop where
  increasing : (r.streams.map (·.streamId)).Pairwise (· < ·)
  occurring : ∀ id, id ∈ r.streams.map (·.streamId) ↔ ∃ row ∈ records, row.streamId = id
  rows : r.global.received.toNat = records.length
  sent : (r.streams.map (·.stats.sent.toNat)).sum = r.global.sent.toNat
  received : (r.streams.map (·.stats.received.toNat)).sum = r.global.received.toNat
  lost : (r.streams.map (·.stats.lost.toNat)).sum = r.global.lost.toNat
  minUs : IsLeast {us | ∃ s ∈ r.streams, s.stats.latency.minUs = us} r.global.latency.minUs
  maxUs : IsGreatest {us | ∃ s ∈ r.streams, s.stats.latency.maxUs = us} r.global.latency.maxUs
  avgUs : (r.streams.map fun s => (s.stats.received.toNat : F) * s.stats.latency.avgUs).sum /
    (r.global.received.toNat : F) = r.global.latency.avgUs
  durationSec : ∀ s ∈ r.streams,
    s.stats.throughput.durationSec ≤ r.global.throughput.durationSec

/-! ## The streams of a file -/

theorem pairwise_streamIds (records : List BenchmarkRecord) :
    (streamIds records).Pairwise (· < ·) := by
  have hle : (streamIds records).Pairwise (· ≤ ·) := Sorted.pairwise_mergeSort _
  exact (hle.and (nodup_streamIds records)).imp fun ⟨hle, hne⟩ =>
    UInt16.lt_of_le_of_ne hle hne

theorem streamId_mem {records : List BenchmarkRecord} :
    ∀ r ∈ records, r.streamId ∈ streamIds records :=
  fun r hr => mem_streamIds.mpr ⟨r, hr, rfl⟩

theorem streamRecords_ne_nil {records : List BenchmarkRecord} {id : UInt16}
    (h : id ∈ streamIds records) : streamRecords records id ≠ [] :=
  fun hnil => streamRecords_eq_nil_iff.mp hnil h

/-- A sum over the rows is a sum over the streams. -/
theorem sum_streams {M : Type} [AddCommMonoid M] (f : BenchmarkRecord → M)
    (records : List BenchmarkRecord) :
    ((streamIds records).map fun id => ((streamRecords records id).map f).sum).sum =
      (records.map f).sum :=
  Grouping.sum_groups BenchmarkRecord.streamId f (nodup_streamIds records) streamId_mem

theorem sum_length_streams (records : List BenchmarkRecord) :
    ((streamIds records).map fun id => (streamRecords records id).length).sum =
      records.length := by
  have h := sum_streams (fun _ => 1) records
  simpa using h

/-! ## Counters -/

theorem toNat_countStream_received {rows : List BenchmarkRecord}
    (hlen : rows.length < UInt64.size) : (countStream rows).received.toNat = rows.length :=
  UInt64.toNat_ofNat_of_lt' hlen

theorem received_pos {rows : List BenchmarkRecord} (hne : rows ≠ [])
    (hlen : rows.length < UInt64.size) : UInt64.ofNat rows.length > 0 := by
  rw [gt_iff_lt, UInt64.lt_iff_toNat_lt, UInt64.toNat_ofNat_of_lt' hlen]
  exact List.length_pos_iff.mpr hne

theorem toNat_countStream_sent {rows : List BenchmarkRecord} (hne : rows ≠ [])
    (hlen : rows.length < UInt64.size) (hsent : sentTotal rows < UInt64.size) :
    (countStream rows).sent.toNat = sentTotal rows := by
  rw [countStream]
  dsimp only
  rw [if_pos (received_pos hne hlen)]
  exact Words.toNat_add_of_lt hsent

theorem toNat_countStream_lost_eq {rows : List BenchmarkRecord} (hne : rows ≠ [])
    (hlen : rows.length < UInt64.size) (hsent : sentTotal rows < UInt64.size) :
    (countStream rows).lost.toNat = sentTotal rows - rows.length := by
  have hlost : (countStream rows).lost =
      saturatingSub (countStream rows).sent (countStream rows).received := rfl
  rw [hlost, toNat_saturatingSub, toNat_countStream_sent hne hlen hsent,
    toNat_countStream_received hlen]

/-- The counters of a stream are its numbers. -/
structure Counts.OfStream (c : Counts) (rows : List BenchmarkRecord) : Prop where
  sent : c.sent.toNat = sentTotal rows
  received : c.received.toNat = rows.length
  lost : c.lost.toNat = sentTotal rows - rows.length

theorem SumsFit.stream {records : List BenchmarkRecord} (h : SumsFit records) {id : UInt16}
    (hid : id ∈ streamIds records) :
    (countStream (streamRecords records id)).OfStream (streamRecords records id) := by
  have hlen : (streamRecords records id).length < UInt64.size :=
    Nat.lt_of_le_of_lt (List.length_filter_le _ _) h.rows
  have hsent : sentTotal (streamRecords records id) < UInt64.size :=
    Nat.lt_of_le_of_lt (List.le_sum_of_mem (List.mem_map.mpr ⟨id, hid, rfl⟩)) h.sent
  have hne := streamRecords_ne_nil hid
  exact { sent := toNat_countStream_sent hne hlen hsent,
          received := toNat_countStream_received hlen,
          lost := toNat_countStream_lost_eq hne hlen hsent }

/-- The global counters are the sums of those numbers. -/
structure Counts.OfFile (c : Counts) (records : List BenchmarkRecord) : Prop where
  sent : c.sent.toNat =
    ((streamIds records).map fun id => sentTotal (streamRecords records id)).sum
  received : c.received.toNat = records.length
  lost : c.lost.toNat = ((streamIds records).map fun id =>
    sentTotal (streamRecords records id) - (streamRecords records id).length).sum

/-- A counter summed over the streams, from what it counts in each of them. -/
theorem total_counts {records : List BenchmarkRecord} (f : Counts → UInt64)
    (g : List BenchmarkRecord → Nat)
    (h : ∀ id ∈ streamIds records,
      (f (countStream (streamRecords records id))).toNat = g (streamRecords records id)) :
    Words.total (((streamIds records).map fun id =>
        countStream (streamRecords records id)).map f) =
      ((streamIds records).map fun id => g (streamRecords records id)).sum := by
  rw [Words.total, List.map_map, List.map_map]
  exact congrArg List.sum (List.map_congr_left h)

/-- All rows are received, whatever their ids. -/
theorem toNat_countGlobal_received {records : List BenchmarkRecord}
    (hlen : records.length < UInt64.size) :
    (countGlobal records).received.toNat = records.length := by
  have htotal := @total_counts records Counts.received List.length fun id _ =>
    toNat_countStream_received (Nat.lt_of_le_of_lt (List.length_filter_le _ _) hlen)
  rw [sum_length_streams] at htotal
  exact (Words.toNat_sum (htotal ▸ hlen)).trans htotal

theorem SumsFit.global {records : List BenchmarkRecord} (h : SumsFit records) :
    (countGlobal records).OfFile records := by
  have hsent := total_counts Counts.sent _ fun id hid => (h.stream hid).sent
  have hlost := total_counts Counts.lost
    (fun rows => sentTotal rows - rows.length) fun id hid => (h.stream hid).lost
  have hle : ((streamIds records).map fun id =>
        sentTotal (streamRecords records id) - (streamRecords records id).length).sum ≤
      ((streamIds records).map fun id => sentTotal (streamRecords records id)).sum :=
    List.sum_le_sum fun id _ => Nat.sub_le _ _
  exact
    { sent := (Words.toNat_sum (hsent ▸ h.sent)).trans hsent
      received := toNat_countGlobal_received h.rows
      lost := (Words.toNat_sum (hlost ▸ Nat.lt_of_le_of_lt hle h.sent)).trans hlost }

/-! ## Figures -/

section Figures

variable [FloorSemiring F] (sqrt : F → F) (c : Counts) (records : List BenchmarkRecord)

@[simp] theorem computeSingleRun_sent : (computeSingleRun sqrt c records).sent = c.sent := by
  unfold computeSingleRun
  split <;> rfl

@[simp] theorem computeSingleRun_received :
    (computeSingleRun sqrt c records).received = c.received := by
  unfold computeSingleRun
  split <;> rfl

theorem computeSingleRun_minUs :
    (computeSingleRun sqrt c records).minUs = (records.map (·.rttUs)).min?.getD 0 := by
  cases records with
  | nil => rfl
  | cons r rows => exact congrArg (Option.getD · 0) (Sorted.head?_mergeSort _)

theorem computeSingleRun_maxUs :
    (computeSingleRun sqrt c records).maxUs = (records.map (·.rttUs)).max?.getD 0 := by
  cases records with
  | nil => rfl
  | cons r rows => exact congrArg (Option.getD · 0) (Sorted.getLast?_mergeSort _)

theorem computeSingleRun_avgUs :
    (computeSingleRun sqrt c records).avgUs =
      ((records.map BenchmarkRecord.rttUs).sum.toNat : F) / (c.received.toNat : F) := by
  cases records with
  | nil => simp [computeSingleRun]
  | cons r rows =>
    have hsum := (List.mergeSort_perm ((r :: rows).map (·.rttUs)) (· ≤ ·)).sum_eq
    exact congrArg (fun w : UInt64 => (w.toNat : F) / (c.received.toNat : F)) hsum

/-- The time from the first row to the last. -/
def span (records : List BenchmarkRecord) : UInt64 :=
  (records.map (·.recvTimestamp)).max?.getD 0 - (records.map (·.recvTimestamp)).min?.getD 0

theorem computeSingleRun_durationSec :
    (computeSingleRun sqrt c records).durationSec = ((span records).toNat : F) / 1000000 := by
  cases records with
  | nil => simp [computeSingleRun, span]
  | cons r rows => rfl

end Figures

variable {records : List BenchmarkRecord}

/-- The rows of a file are the rows of its streams. -/
theorem mem_map_streams {β : Type} (f : BenchmarkRecord → β) (x : β) :
    x ∈ records.map f ↔ ∃ id ∈ streamIds records, x ∈ (streamRecords records id).map f := by
  constructor
  · intro hx
    obtain ⟨r, hr, rfl⟩ := List.mem_map.mp hx
    refine ⟨r.streamId, streamId_mem r hr, List.mem_map_of_mem ?_⟩
    exact List.mem_filter.mpr ⟨hr, decide_eq_true rfl⟩
  · rintro ⟨id, -, hx⟩
    obtain ⟨r, hr, rfl⟩ := List.mem_map.mp hx
    exact List.mem_map_of_mem (List.mem_filter.mp hr).1

theorem isLeast_streams (f : BenchmarkRecord → UInt64) (hne : records ≠ []) :
    IsLeast {x | ∃ id ∈ streamIds records,
        ((streamRecords records id).map f).min?.getD 0 = x} ((records.map f).min?.getD 0) := by
  refine Grouping.isLeast_groups (t := fun id => {x | x ∈ (streamRecords records id).map f})
    (Sorted.isLeast_min? (by simpa using hne) 0) (mem_map_streams f) fun id hid => ?_
  exact Sorted.isLeast_min? (by simpa using streamRecords_ne_nil hid) 0

theorem isGreatest_streams (f : BenchmarkRecord → UInt64) (hne : records ≠ []) :
    IsGreatest {x | ∃ id ∈ streamIds records,
        ((streamRecords records id).map f).max?.getD 0 = x} ((records.map f).max?.getD 0) := by
  refine Grouping.isGreatest_groups (t := fun id => {x | x ∈ (streamRecords records id).map f})
    (Sorted.isGreatest_max? (by simpa using hne) 0) (mem_map_streams f) fun id hid => ?_
  exact Sorted.isGreatest_max? (by simpa using streamRecords_ne_nil hid) 0

theorem toNat_span (hne : records ≠ []) :
    (span records).toNat = ((records.map BenchmarkRecord.recvTimestamp).max?.getD 0).toNat -
      ((records.map BenchmarkRecord.recvTimestamp).min?.getD 0).toNat := by
  refine UInt64.toNat_sub_of_le _ _ ?_
  have hne : records.map BenchmarkRecord.recvTimestamp ≠ [] := by simpa using hne
  exact (Sorted.isLeast_min? hne 0).2 (Sorted.isGreatest_max? hne 0).1

theorem span_stream_le {id : UInt16} (hid : id ∈ streamIds records) :
    (span (streamRecords records id)).toNat ≤ (span records).toNat := by
  have hne : records ≠ [] := by
    rintro rfl
    simp [streamIds] at hid
  have hmin := (isLeast_streams BenchmarkRecord.recvTimestamp hne).2 ⟨id, hid, rfl⟩
  have hmax := (isGreatest_streams BenchmarkRecord.recvTimestamp hne).2 ⟨id, hid, rfl⟩
  rw [UInt64.le_iff_toNat_le] at hmin hmax
  rw [toNat_span hne, toNat_span (streamRecords_ne_nil hid)]
  omega

/-! ## Averages -/

theorem total_streams (f : BenchmarkRecord → UInt64) (records : List BenchmarkRecord) :
    ((streamIds records).map fun id => Words.total ((streamRecords records id).map f)).sum =
      Words.total (records.map f) := by
  have h := sum_streams (fun r => (f r).toNat) records
  simpa only [Words.total, List.map_map, Function.comp_def] using h

theorem total_stream_le (f : BenchmarkRecord → UInt64) {id : UInt16}
    (hid : id ∈ streamIds records) :
    Words.total ((streamRecords records id).map f) ≤ Words.total (records.map f) :=
  (List.le_sum_of_mem (List.mem_map.mpr ⟨id, hid, rfl⟩)).trans_eq (total_streams f records)

theorem SumsFit.avgUs [FloorSemiring F] (h : SumsFit records) (sqrt : F → F) {c : Counts}
    (hc : c.received.toNat = records.length) :
    (computeSingleRun sqrt c records).avgUs =
      (Words.total (records.map (·.rttUs)) : F) / (records.length : F) := by
  rw [computeSingleRun_avgUs, Words.toNat_sum h.rtts, hc]

/-- What a stream adds to the sum of the averages is the sum of its times. -/
theorem SumsFit.received_mul_avgUs [FloorSemiring F] (h : SumsFit records) (sqrt : F → F)
    {id : UInt16} (hid : id ∈ streamIds records) {c : Counts}
    (hc : c.OfStream (streamRecords records id)) :
    (c.received.toNat : F) * (computeSingleRun sqrt c (streamRecords records id)).avgUs =
      (Words.total ((streamRecords records id).map (·.rttUs)) : F) := by
  have hfit := Nat.lt_of_le_of_lt (total_stream_le BenchmarkRecord.rttUs hid) h.rtts
  have hlen : ((streamRecords records id).length : F) ≠ 0 := by
    simpa using streamRecords_ne_nil hid
  rw [computeSingleRun_avgUs, Words.toNat_sum hfit, hc.received, mul_div_cancel₀ _ hlen]

/-! ## The report -/

section Report

variable [FloorSemiring F] {sqrt : F → F}

theorem analyzeSingleFile_of_ne_nil (hne : records ≠ []) :
    analyzeSingleFile sqrt records =
      .ok
        { global := singleRunToLegacy (computeSingleRun sqrt (countGlobal records) records),
          streams := (streamIds records).map fun id =>
            { streamId := id, streamIndex := streamIndex id, streamType := streamType id,
              stats := singleRunToLegacy
                (computeSingleRun sqrt (countStream (streamRecords records id))
                  (streamRecords records id)) } } :=
  if_neg (by simpa using hne)

/-- The figures of the streams of a report add up to its global ones. -/
theorem report_consistent [IsStrictOrderedRing F] (keyOrder : List UInt16 → List UInt16)
    (horder : ∀ l, (keyOrder l).Perm l) (sqrt : F → F) (records : List BenchmarkRecord)
    (hne : records ≠ []) (hfit : SumsFit records) :
    ∃ report, Tables.analyzeSingleFile keyOrder sqrt records = some (.ok report) ∧
      report.Consistent records := by
  refine ⟨_, (Tables.analyzeSingleFile_eq horder records).trans
    (congrArg some (analyzeSingleFile_of_ne_nil hne)), ?_⟩
  have hglobal := hfit.global
  have hids : ∀ g : UInt16 → LegacyStats F, ((streamIds records).map fun id =>
      ({ streamId := id, streamIndex := streamIndex id, streamType := streamType id,
         stats := g id } : LegacyStreamReport F)).map (·.streamId) = streamIds records := by
    intro g
    rw [List.map_map]
    exact List.map_id _
  constructor
  · rw [hids]
    exact pairwise_streamIds records
  · intro id
    rw [hids]
    exact mem_streamIds
  · simpa [singleRunToLegacy] using hglobal.received
  · simp only [singleRunToLegacy, computeSingleRun_sent, List.map_map, hglobal.sent]
    exact congrArg List.sum (List.map_congr_left fun id hid => (hfit.stream hid).sent)
  · simp only [singleRunToLegacy, computeSingleRun_received, List.map_map, hglobal.received]
    rw [← sum_length_streams]
    exact congrArg List.sum (List.map_congr_left fun id hid => (hfit.stream hid).received)
  · simp only [singleRunToLegacy, computeSingleRun_lost, List.map_map, hglobal.lost]
    exact congrArg List.sum (List.map_congr_left fun id hid => (hfit.stream hid).lost)
  · simpa [singleRunToLegacy, computeSingleRun_minUs] using
      isLeast_streams BenchmarkRecord.rttUs hne
  · simpa [singleRunToLegacy, computeSingleRun_maxUs] using
      isGreatest_streams BenchmarkRecord.rttUs hne
  · simp only [singleRunToLegacy, computeSingleRun_received, List.map_map]
    rw [hfit.avgUs sqrt hglobal.received, hglobal.received, ← total_streams]
    rw [← Nat.coe_castAddMonoidHom, map_list_sum, List.map_map]
    congr 2
    exact List.map_congr_left fun id hid =>
      hfit.received_mul_avgUs sqrt hid (hfit.stream hid)
  · intro s hs
    obtain ⟨id, hid, rfl⟩ := List.mem_map.mp hs
    simp only [singleRunToLegacy, computeSingleRun_durationSec]
    exact div_le_div_of_nonneg_right (Nat.cast_le.mpr (span_stream_le hid)) (by norm_num)

theorem streamIds_mixedRows : streamIds mixedRows = [4, 7] :=
  (Sorted.eq_mergeSort (by decide) (by decide)).symm

theorem report_consistent_mixedRows :
    ∃ report, Tables.analyzeSingleFile List.reverse Rat.sqrt mixedRows = some (.ok report) ∧
      report.Consistent mixedRows := by
  have hfit : SumsFit mixedRows := by
    refine { rows := by decide, sent := ?_, rtts := by decide, bytes := by decide }
    rw [streamIds_mixedRows]
    decide
  exact report_consistent List.reverse List.reverse_perm Rat.sqrt mixedRows (by simp [mixedRows])
    hfit

end Report

end Consistency

end Stats
end GameSockets
