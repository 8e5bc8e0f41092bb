/-
When a report shows no loss: exactly when every stream of every file has recorded
all ids up to its largest.
-/
import GameSockets.Stats
import Mathlib.Algebra.BigOperators.Group.List.Basic
import Mathlib.Algebra.Order.Floor.Semiring
import Mathlib.Algebra.Order.Field.Basic
import Mathlib.Data.Finset.Card
import Mathlib.Data.Finset.Range

namespace GameSockets
namespace Stats

open Client

/-! ## Reports of zero loss -/

section ZeroLoss

variable {F : Type} [Field F]

/-- A metric that was zero in every run. -/
structure SummaryStatistic.IsZero (s : SummaryStatistic F) : Prop where
  median : s.median = 0
  mean : s.mean = 0
  min : s.min = 0
  max : s.max = 0
  values : ∀ v ∈ s.values, v = 0

def AggregatedReport.ZeroLoss (r : AggregatedReport F) : Prop :=
  (r.global.lost.IsZero ∧ r.global.lossRatePercent.IsZero) ∧
    ∀ s ∈ r.streams, s.stats.lost.IsZero ∧ s.stats.lossRatePercent.IsZero

def SingleFileReport.ZeroLoss (r : SingleFileReport F) : Prop :=
  (r.global.lost = 0 ∧ r.global.lossRatePercent = 0) ∧
    ∀ s ∈ r.streams, s.stats.lost = 0 ∧ s.stats.lossRatePercent = 0

theorem getD_eq_zero {l : List F} (h : ∀ v ∈ l, v = 0) (i : Nat) : l.getD i 0 = 0 := by
  rw [List.getD_eq_getElem?_getD]
  cases hi : l[i]? with
  | none => rfl
  | some v => exact h v (List.mem_of_getElem? hi)

theorem lossRate_eq_zero {c : Counts} (h : c.lost = 0) : (lossRate c : F) = 0 := by
  rw [lossRate, h]
  simp

theorem sum_eq_zero_of_words {l : List UInt64} (h : ∀ v ∈ l, v = 0) : l.sum = 0 := by
  induction l with
  | nil => rfl
  | cons v l ih =>
    rw [List.sum_cons, h v List.mem_cons_self, ih fun w hw => h w (List.mem_cons_of_mem _ hw)]
    rfl

/-- No stream of the file lost a packet. -/
def NoneLost (records : List BenchmarkRecord) : Prop :=
  ∀ id ∈ streamIds records, (countStream (streamRecords records id)).lost = 0

theorem countGlobal_lost {records : List BenchmarkRecord} (h : NoneLost records) :
    (countGlobal records).lost = 0 := by
  refine sum_eq_zero_of_words fun v hv => ?_
  simp only [List.map_map, List.mem_map, Function.comp_apply] at hv
  obtain ⟨id, hid, rfl⟩ := hv
  exact h id hid

variable [LinearOrder F] (sqrt : F → F)

theorem isZero_summarize_iff {values : List F} :
    (summarize sqrt values).IsZero ↔ ∀ v ∈ values, v = 0 := by
  unfold summarize
  split
  · next hempty =>
    rw [List.isEmpty_iff] at hempty
    subst hempty
    constructor
    · intro _ v hv
      cases hv
    · intro h
      exact ⟨rfl, rfl, rfl, rfl, h⟩
  · constructor
    · exact fun h => h.values
    · intro h
      have hsorted : ∀ v ∈ values.mergeSort, v = 0 := fun v hv => h v (List.mem_mergeSort.mp hv)
      have hsum : values.sum = 0 := List.sum_eq_zero h
      refine ⟨?_, ?_, ?_, ?_, h⟩
      · dsimp only
        rw [getD_eq_zero hsorted, getD_eq_zero hsorted]
        simp
      · dsimp only
        rw [hsum, zero_div]
      · dsimp only
        rw [List.head?_eq_getElem?, ← List.getD_eq_getElem?_getD]
        exact getD_eq_zero hsorted _
      · dsimp only
        rw [List.getLast?_eq_getElem?, ← List.getD_eq_getElem?_getD]
        exact getD_eq_zero hsorted _

theorem lookup_map_pair {α β : Type} [BEq α] [LawfulBEq α] (f : α → β) (l : List α) (a : α) :
    (l.map fun x => (x, f x)).lookup a = if a ∈ l then some (f a) else none := by
  induction l with
  | nil => rfl
  | cons x l ih =>
    rw [List.map_cons, List.lookup_cons, ih]
    by_cases h : a = x
    · simp [h]
    · have hne : (a == x) = false := beq_false_of_ne h
      simp [h, hne]

variable [FloorSemiring F]

/-- The streams of one file, as the aggregation looks them up. -/
theorem lookup_computeRun (records : List BenchmarkRecord) (id : UInt16) :
    (computeRun sqrt records).streams.lookup id =
      if id ∈ streamIds records then
        some (computeSingleRun sqrt (countStream (streamRecords records id))
          (streamRecords records id))
      else none :=
  lookup_map_pair _ _ _

theorem analyzeSingleFile_zeroLoss_iff {records : List BenchmarkRecord}
    {report : SingleFileReport F} (h : analyzeSingleFile sqrt records = .ok report) :
    report.ZeroLoss ↔ NoneLost records := by
  unfold analyzeSingleFile at h
  split at h
  · cases h
  · cases h
    constructor
    · intro hzero id hid
      have hstream := (hzero.2 _ (List.mem_map_of_mem hid)).1
      simpa [singleRunToLegacy] using hstream
    · intro hnone
      refine ⟨⟨?_, ?_⟩, ?_⟩
      · simpa [singleRunToLegacy] using countGlobal_lost hnone
      · simpa [singleRunToLegacy] using lossRate_eq_zero (countGlobal_lost hnone)
      · intro s hs
        simp only [List.mem_map] at hs
        obtain ⟨id, hid, rfl⟩ := hs
        have hlost := hnone id hid
        exact ⟨by simpa [singleRunToLegacy] using hlost,
          by simpa [singleRunToLegacy] using lossRate_eq_zero hlost⟩

theorem aggregate_isZero_iff (runs : List (SingleRunStats F)) :
    (aggregateSingleRunRefs sqrt runs).lost.IsZero ↔ ∀ r ∈ runs, r.lost = 0 := by
  have hcast : ∀ w : UInt64, ((w.toNat : F) = 0 ↔ w = 0) := by
    intro w
    rw [Nat.cast_eq_zero, ← UInt64.toNat_inj]
    rfl
  simp only [aggregateSingleRunRefs, isZero_summarize_iff, List.forall_mem_map, hcast]

theorem aggregate_zero {runs : List (SingleRunStats F)}
    (h : ∀ r ∈ runs, r.lost = 0 ∧ r.lossRatePercent = 0) :
    (aggregateSingleRunRefs sqrt runs).lost.IsZero ∧
      (aggregateSingleRunRefs sqrt runs).lossRatePercent.IsZero := by
  refine ⟨(aggregate_isZero_iff sqrt runs).mpr fun r hr => (h r hr).1, ?_⟩
  simp only [aggregateSingleRunRefs, isZero_summarize_iff, List.forall_mem_map]
  exact fun r hr => (h r hr).2

theorem computeSingleRun_zero {c : Counts} (h : c.lost = 0) (records : List BenchmarkRecord) :
    (computeSingleRun sqrt c records).lost = 0 ∧
      (computeSingleRun sqrt c records).lossRatePercent = 0 := by
  rw [computeSingleRun_lost, computeSingleRun_lossRatePercent]
  exact ⟨h, lossRate_eq_zero h⟩

/-! ## The streams of an aggregation -/

/-- One run of the aggregation is one file that is not empty. -/
theorem mem_runs_iff {files : List (List BenchmarkRecord)} {run : RunStats F} :
    run ∈ (files.filter (!·.isEmpty)).map (computeRun sqrt) ↔
      ∃ file ∈ files, file ≠ [] ∧ computeRun sqrt file = run := by
  simp only [List.mem_map, List.mem_filter, Bool.not_eq_true', List.isEmpty_eq_false_iff,
    and_assoc]

/-- The streams of all runs are those of the files. -/
theorem mem_runIds_iff {files : List (List BenchmarkRecord)} {id : UInt16} :
    id ∈ ((files.filter (!·.isEmpty)).map (computeRun sqrt)).flatMap
        (fun run => run.streams.map (·.1)) ↔
      ∃ file ∈ files, id ∈ streamIds file := by
  have hids : ∀ file : List BenchmarkRecord,
      (computeRun sqrt file).streams.map (·.1) = streamIds file := by
    intro file
    rw [computeRun, List.map_map]
    exact List.map_id _
  rw [List.mem_flatMap]
  constructor
  · rintro ⟨run, hrun, hid⟩
    obtain ⟨file, hfile, -, rfl⟩ := (mem_runs_iff sqrt).mp hrun
    exact ⟨file, hfile, hids file ▸ hid⟩
  · rintro ⟨file, hfile, hid⟩
    have hne : file ≠ [] := by
      rintro rfl
      simp [streamIds] at hid
    exact ⟨_, (mem_runs_iff sqrt).mpr ⟨file, hfile, hne, rfl⟩, (hids file).symm ▸ hid⟩

theorem streamRecords_eq_nil_iff {records : List BenchmarkRecord} {id : UInt16} :
    streamRecords records id = [] ↔ id ∉ streamIds records := by
  rw [mem_streamIds, streamRecords, List.filter_eq_nil_iff]
  simp

/-- The rows of a stream, file by file. -/
theorem mem_streamRows_iff {files : List (List BenchmarkRecord)} {id : UInt16}
    {rows : List BenchmarkRecord} :
    rows ∈ (files.map (streamRecords · id)).filter (!·.isEmpty) ↔
      ∃ file ∈ files, id ∈ streamIds file ∧ streamRecords file id = rows := by
  rw [List.mem_filter, List.mem_map]
  constructor
  · rintro ⟨⟨file, hfile, rfl⟩, hne⟩
    refine ⟨file, hfile, ?_, rfl⟩
    by_contra hid
    rw [streamRecords_eq_nil_iff.mpr hid] at hne
    cases hne
  · rintro ⟨file, hfile, hid, rfl⟩
    refine ⟨⟨file, hfile, rfl⟩, ?_⟩
    simpa using fun h => streamRecords_eq_nil_iff.mp h hid

/-- The runs that have the stream are the files with rows of it. -/
theorem filterMap_lookup_computeRun (files : List (List BenchmarkRecord)) (id : UInt16) :
    ((files.filter (!·.isEmpty)).map (computeRun sqrt)).filterMap
        (fun run => run.streams.lookup id) =
      ((files.map (streamRecords · id)).filter (!·.isEmpty)).map fun rows =>
        computeSingleRun sqrt (countStream rows) rows := by
  induction files with
  | nil => rfl
  | cons file files ih =>
    have hlookup := lookup_computeRun sqrt file id
    by_cases hid : id ∈ streamIds file
    · have hrows : streamRecords file id ≠ [] := fun h => streamRecords_eq_nil_iff.mp h hid
      have hfile : file ≠ [] := by
        rintro rfl
        exact hrows rfl
      rw [if_pos hid] at hlookup
      simp [hfile, hrows, hlookup, ih]
    · have hrows := streamRecords_eq_nil_iff.mpr hid
      rw [if_neg hid] at hlookup
      by_cases hfile : file = []
      · subst hfile
        simpa [streamRecords] using ih
      · simp [hfile, hrows, hlookup, ih]

/-- The report of a stream summarizes the files with rows of it. -/
theorem mem_streams_iff {scenario protocol : String} {files : List (List BenchmarkRecord)}
    {a : AggregatedStreamReport F} :
    a ∈ (aggregateRuns sqrt scenario protocol files).streams ↔
      ∃ id, (∃ file ∈ files, id ∈ streamIds file) ∧
        a =
          { streamId := id, streamIndex := streamIndex id, streamType := streamType id,
            stats := aggregateSingleRunRefs sqrt
              (((files.map (streamRecords · id)).filter (!·.isEmpty)).map fun rows =>
                computeSingleRun sqrt (countStream rows) rows) } := by
  simp only [aggregateRuns, List.mem_filterMap, filterMap_lookup_computeRun, List.mem_mergeSort,
    List.mem_dedup, mem_runIds_iff]
  refine exists_congr fun id => and_congr_right ?_
  rintro ⟨file, hfile, hid⟩
  have hmem : streamRecords file id ∈ (files.map (streamRecords · id)).filter (!·.isEmpty) :=
    mem_streamRows_iff.mpr ⟨file, hfile, hid, rfl⟩
  rw [if_neg, Option.some.injEq, eq_comm]
  intro hempty
  rw [List.isEmpty_iff, List.map_eq_nil_iff] at hempty
  rw [hempty] at hmem
  cases hmem

theorem aggregateRuns_zeroLoss_iff (scenario protocol : String)
    (files : List (List BenchmarkRecord)) :
    (aggregateRuns sqrt scenario protocol files).ZeroLoss ↔ ∀ file ∈ files, NoneLost file := by
  constructor
  · intro hzero file hfile id hid
    have hstream := hzero.2 _ ((mem_streams_iff sqrt).mpr ⟨id, ⟨file, hfile, hid⟩, rfl⟩)
    -- the file's own statistics are among those its stream's report summarizes
    have hmem := List.mem_map_of_mem
      (f := fun rows => computeSingleRun sqrt (countStream rows) rows)
      (mem_streamRows_iff.mpr ⟨file, hfile, hid, rfl⟩)
    have hlost := (aggregate_isZero_iff sqrt _).mp hstream.1 _ hmem
    rwa [computeSingleRun_lost] at hlost
  · intro hnone
    refine ⟨aggregate_zero sqrt ?_, ?_⟩
    · intro r hr
      obtain ⟨run, hrun, rfl⟩ := List.mem_map.mp hr
      obtain ⟨file, hfile, -, rfl⟩ := (mem_runs_iff sqrt).mp hrun
      exact computeSingleRun_zero sqrt (countGlobal_lost (hnone file hfile)) file
    · intro s hs
      obtain ⟨id, -, rfl⟩ := (mem_streams_iff sqrt).mp hs
      refine aggregate_zero sqrt fun r hr => ?_
      obtain ⟨rows, hrows, rfl⟩ := List.mem_map.mp hr
      obtain ⟨file, hfile, hid, rfl⟩ := mem_streamRows_iff.mp hrows
      exact computeSingleRun_zero sqrt (hnone file hfile id hid) _

end ZeroLoss

/-! ## Counting against the largest id -/

/-- Distinct numbers up to `m` are at most `m + 1`, and as many only if none is
missing. -/
theorem succ_le_length_iff {ns : List Nat} {m : Nat} (hnodup : ns.Nodup) (hle : ∀ n ∈ ns, n ≤ m) :
    m + 1 ≤ ns.length ↔ ∀ j ≤ m, j ∈ ns := by
  have hsub : ns.toFinset ⊆ Finset.range (m + 1) := by
    intro n hn
    rw [List.mem_toFinset] at hn
    exact Finset.mem_range.mpr (Nat.lt_succ_of_le (hle n hn))
  rw [← List.toFinset_card_of_nodup hnodup]
  constructor
  · intro h j hj
    have heq := Finset.eq_of_subset_of_card_le hsub (by rwa [Finset.card_range])
    rw [← List.mem_toFinset, heq, Finset.mem_range]
    exact Nat.lt_succ_of_le hj
  · intro h
    rw [← Finset.card_range (m + 1)]
    refine Finset.card_le_card fun j hj => ?_
    rw [List.mem_toFinset]
    exact h j (Nat.le_of_lt_succ (Finset.mem_range.mp hj))

theorem length_le_succ {ns : List Nat} {m : Nat} (hnodup : ns.Nodup) (hle : ∀ n ∈ ns, n ≤ m) :
    ns.length ≤ m + 1 := by
  rw [← List.toFinset_card_of_nodup hnodup, ← Finset.card_range (m + 1)]
  refine Finset.card_le_card fun n hn => ?_
  rw [List.mem_toFinset] at hn
  exact Finset.mem_range.mpr (Nat.lt_succ_of_le (hle n hn))

/-- The rows are taken off the number of ids up to the largest one. -/
theorem toNat_countStream_lost {records : List BenchmarkRecord} {m : UInt64}
    (hmax : (records.map (·.packetId)).max? = some m) (hm : m.toNat + 1 < UInt64.size)
    (hlen : records.length < UInt64.size) :
    (countStream records).lost.toNat = m.toNat + 1 - records.length := by
  have hreceived : (UInt64.ofNat records.length).toNat = records.length :=
    UInt64.toNat_ofNat_of_lt' hlen
  have hpos : 0 < records.length := by
    rw [← List.length_map (·.packetId)]
    exact List.length_pos_of_mem (List.max?_eq_some_iff.mp hmax).1
  have hsent : (countStream records).sent.toNat = m.toNat + 1 := by
    have hgt : UInt64.ofNat records.length > 0 := by
      rw [gt_iff_lt, UInt64.lt_iff_toNat_lt, hreceived]
      exact hpos
    simp only [countStream, if_pos hgt, hmax, Option.getD_some]
    rw [UInt64.toNat_add, UInt64.toNat_one, Nat.mod_eq_of_lt hm]
  rw [← hsent, ← hreceived]
  exact toNat_saturatingSub _ _

/-- A stream with distinct ids loses nothing exactly when every id below a recorded
one is recorded. -/
theorem countStream_lost_eq_zero_iff {records : List BenchmarkRecord}
    (hnodup : (records.map (·.packetId)).Nodup)
    (hlt : ∀ id ∈ records.map (·.packetId), id.toNat + 1 < UInt64.size) :
    (countStream records).lost = 0 ↔
      ∀ id ∈ records.map (·.packetId), ∀ j < id, j ∈ records.map (·.packetId) := by
  cases hmax : (records.map (·.packetId)).max? with
  | none =>
    rw [List.max?_eq_none_iff, List.map_eq_nil_iff] at hmax
    subst hmax
    constructor
    · intro _ id hid
      cases hid
    · exact fun _ => rfl
  | some m =>
    obtain ⟨hm, hle⟩ := List.max?_eq_some_iff.mp hmax
    let ns := (records.map (·.packetId)).map UInt64.toNat
    have hmem : ∀ id, id ∈ records.map (·.packetId) ↔ id.toNat ∈ ns := by
      intro id
      rw [List.mem_map_of_injective fun _ _ => UInt64.toNat_inj.mp]
    have hns : ns.Nodup := hnodup.map fun _ _ => UInt64.toNat_inj.mp
    have hbound : ∀ n ∈ ns, n ≤ m.toNat := by
      intro n hn
      obtain ⟨id, hid, rfl⟩ := List.mem_map.mp hn
      exact UInt64.le_iff_toNat_le.mp (hle id hid)
    have hlen : ns.length = records.length := by simp [ns]
    have hcount := length_le_succ hns hbound
    have hm' := hlt m hm
    have hlost : (countStream records).lost.toNat = m.toNat + 1 - ns.length := by
      rw [hlen]
      exact toNat_countStream_lost hmax hm' (by omega)
    calc
      (countStream records).lost = 0 ↔ m.toNat + 1 ≤ ns.length := by
        rw [← UInt64.toNat_inj, hlost, UInt64.toNat_zero, Nat.sub_eq_zero_iff_le]
      _ ↔ ∀ j ≤ m.toNat, j ∈ ns := succ_le_length_iff hns hbound
      _ ↔ _ := by
        constructor
        · intro h id hid j hj
          rw [hmem]
          have hid' := UInt64.le_iff_toNat_le.mp (hle id hid)
          have hj' := UInt64.lt_iff_toNat_lt.mp hj
          exact h j.toNat (by omega)
        · intro h j hj
          rcases Nat.lt_or_eq_of_le hj with hlt' | rfl
          · have hj64 : (UInt64.ofNat j).toNat = j := UInt64.toNat_ofNat_of_lt' (by omega)
            rw [← hj64, ← hmem]
            refine h m hm _ ?_
            rw [UInt64.lt_iff_toNat_lt, hj64]
            exact hlt'
          · exact (hmem m).mp hm

end Stats
end GameSockets
