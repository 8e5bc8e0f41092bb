/-
What the reported losses count.

The rows of a stream are taken off the number of ids up to the largest one, so the
difference is the number of ids without a row unless a row that repeats an id stands in for
one of them.
-/
import GameSockets.Stats.Tables
import Mathlib.Data.Rat.Sqrt
import Mathlib.Data.Rat.Floor

namespace GameSockets
namespace Stats

open Client

/-- The largest id, from which both analyses take what was sent. -/
def maxId (rows : List BenchmarkRecord) : UInt64 := (rows.map (·.packetId)).max?.getD 0

/-- The number of ids up to the largest one that no row has. -/
def missing (rows : List BenchmarkRecord) : Nat :=
  ((List.range ((maxId rows).toNat + 1)).filter
    fun i => i ∉ rows.map (·.packetId.toNat)).length

/-- A report on one file gives the number of missing ids of the stream. -/
def SingleFileReport.CountsMissing {F : Type} (r : SingleFileReport F)
    (records : List BenchmarkRecord) (id : UInt16) : Prop :=
  ∀ s ∈ r.streams, s.streamId = id → s.stats.lost.toNat = missing (streamRecords records id)

/-- An aggregation gives, for each file with rows of the stream, the number of missing ids. -/
def AggregatedReport.CountsMissing {F : Type} [NatCast F] (r : AggregatedReport F)
    (files : List (List BenchmarkRecord)) (id : UInt16) : Prop :=
  ∀ a ∈ r.streams, a.streamId = id →
    a.stats.lost.values =
      ((files.map (streamRecords · id)).filter (!·.isEmpty)).map fun rows => (missing rows : F)

/-! ## Counting -/

/-- The numbers up to `m` are those of the list and the missing ones. -/
theorem length_filter_not_mem {ns : List Nat} {m : Nat} (hle : ∀ n ∈ ns, n ≤ m) :
    ((List.range (m + 1)).filter fun i => i ∉ ns).length = m + 1 - ns.toFinset.card := by
  have hsub : ns.toFinset ⊆ Finset.range (m + 1) := by
    intro n hn
    rw [List.mem_toFinset] at hn
    exact Finset.mem_range.mpr (Nat.lt_succ_of_le (hle n hn))
  have hset : ((List.range (m + 1)).filter fun i => i ∉ ns).toFinset =
      Finset.range (m + 1) \ ns.toFinset := by
    ext i
    simp
  have hnodup : ((List.range (m + 1)).filter fun i => i ∉ ns).Nodup := List.nodup_range.filter _
  rw [← List.toFinset_card_of_nodup hnodup, hset, Finset.card_sdiff_of_subset hsub,
    Finset.card_range]

theorem card_toFinset_eq_length_iff {ns : List Nat} : ns.toFinset.card = ns.length ↔ ns.Nodup := by
  rw [List.card_toFinset]
  constructor
  · intro h
    rw [← List.dedup_eq_self]
    exact ns.dedup_sublist.eq_of_length h
  · intro h
    rw [h.dedup]

/-- The difference of the lengths counts the missing numbers unless one is missing while
another is repeated. -/
theorem sub_length_eq_iff {ns : List Nat} {m : Nat} (hle : ∀ n ∈ ns, n ≤ m) :
    m + 1 - ns.length = ((List.range (m + 1)).filter fun i => i ∉ ns).length ↔
      ns.Nodup ∨ ∀ j ≤ m, j ∈ ns := by
  have hle' : ∀ n ∈ ns.dedup, n ≤ m := fun n hn => hle n (List.mem_dedup.mp hn)
  have hcard : ns.toFinset.card ≤ m + 1 := by
    rw [List.card_toFinset]
    exact length_le_succ ns.nodup_dedup hle'
  have hlen : ns.toFinset.card ≤ ns.length := List.toFinset_card_le ns
  have hfull : m + 1 ≤ ns.toFinset.card ↔ ∀ j ≤ m, j ∈ ns := by
    rw [List.card_toFinset, succ_le_length_iff ns.nodup_dedup hle']
    simp only [List.mem_dedup]
  rw [length_filter_not_mem hle, ← card_toFinset_eq_length_iff, ← hfull]
  omega

/-- No id is repeated, or none is missing. -/
def NoneMasked (rows : List BenchmarkRecord) : Prop :=
  (rows.map (·.packetId)).Nodup ∨ ∀ id ≤ maxId rows, id ∈ rows.map (·.packetId)

theorem lost_eq_missing_iff {rows : List BenchmarkRecord} (hne : rows ≠ [])
    (hlt : ∀ r ∈ rows, r.packetId.toNat + 1 < UInt64.size) (hlen : rows.length < UInt64.size) :
    (countStream rows).lost.toNat = missing rows ↔ NoneMasked rows := by
  cases hmax : (rows.map (·.packetId)).max? with
  | none =>
    rw [List.max?_eq_none_iff, List.map_eq_nil_iff] at hmax
    exact absurd hmax hne
  | some m =>
    obtain ⟨hm, hle⟩ := List.max?_eq_some_iff.mp hmax
    have hmaxId : maxId rows = m := by rw [maxId, hmax, Option.getD_some]
    have hm' : m.toNat + 1 < UInt64.size := by
      obtain ⟨r, hr, rfl⟩ := List.mem_map.mp hm
      exact hlt r hr
    let ns := rows.map (·.packetId.toNat)
    have hns : ns = (rows.map (·.packetId)).map UInt64.toNat := by
      rw [List.map_map]
      rfl
    have hmem : ∀ id, id ∈ rows.map (·.packetId) ↔ id.toNat ∈ ns := by
      intro id
      rw [hns, List.mem_map_of_injective fun _ _ => UInt64.toNat_inj.mp]
    have hbound : ∀ n ∈ ns, n ≤ m.toNat := by
      intro n hn
      rw [hns] at hn
      obtain ⟨id, hid, rfl⟩ := List.mem_map.mp hn
      exact UInt64.le_iff_toNat_le.mp (hle id hid)
    have hnodup : ns.Nodup ↔ (rows.map (·.packetId)).Nodup := by
      rw [hns]
      exact List.nodup_map_iff fun _ _ => UInt64.toNat_inj.mp
    have hfull : (∀ j ≤ m.toNat, j ∈ ns) ↔ ∀ id ≤ m, id ∈ rows.map (·.packetId) := by
      constructor
      · intro h id hid
        exact (hmem id).mpr (h _ (UInt64.le_iff_toNat_le.mp hid))
      · intro h j hj
        have hj64 : (UInt64.ofNat j).toNat = j := UInt64.toNat_ofNat_of_lt' (by omega)
        rw [← hj64]
        refine (hmem _).mp (h _ ?_)
        rw [UInt64.le_iff_toNat_le, hj64]
        exact hj
    have hcount := sub_length_eq_iff hbound
    rw [List.length_map] at hcount
    rw [NoneMasked, hmaxId, ← hnodup, ← hfull, toNat_countStream_lost hmax hm' hlen, missing,
      hmaxId]
    exact hcount

/-! ## Reports -/

section Reports

variable {F : Type} [Field F] [LinearOrder F] {sqrt : F → F}

theorem summarize_values (values : List F) : (summarize sqrt values).values = values := by
  unfold summarize
  split
  · next hempty => exact (List.isEmpty_iff.mp hempty).symm
  · rfl

variable [FloorSemiring F]

theorem countsMissing_iff_of_analyze {records : List BenchmarkRecord} {r : SingleFileReport F}
    (h : analyzeSingleFile sqrt records = .ok r) (id : UInt16) :
    r.CountsMissing records id ↔
      (id ∈ streamIds records →
        (countStream (streamRecords records id)).lost.toNat =
          missing (streamRecords records id)) := by
  unfold analyzeSingleFile at h
  split at h
  · cases h
  · cases h
    constructor
    · intro hcounts hid
      have hstream := hcounts _ (List.mem_map_of_mem hid) rfl
      simpa [singleRunToLegacy] using hstream
    · intro hlost s hs hsid
      obtain ⟨id', hid', rfl⟩ := List.mem_map.mp hs
      cases hsid
      simpa [singleRunToLegacy] using hlost hid'

/-- The losses of a stream in each file, as its report lists them. -/
theorem lost_values {scenario protocol : String} {files : List (List BenchmarkRecord)}
    {a : AggregatedStreamReport F} (ha : a ∈ (aggregateRuns sqrt scenario protocol files).streams) :
    a.stats.lost.values =
      ((files.map (streamRecords · a.streamId)).filter (!·.isEmpty)).map fun rows =>
        ((countStream rows).lost.toNat : F) := by
  obtain ⟨id, -, rfl⟩ := (mem_streams_iff sqrt).mp ha
  simp [aggregateSingleRunRefs, summarize_values, Function.comp_def]

/-- A stream with rows in a file has a report. -/
theorem exists_streamReport (scenario protocol : String) {files : List (List BenchmarkRecord)}
    {file : List BenchmarkRecord} (hfile : file ∈ files) {id : UInt16} (hid : id ∈ streamIds file) :
    ∃ a ∈ (aggregateRuns sqrt scenario protocol files).streams, a.streamId = id :=
  ⟨_, (mem_streams_iff sqrt).mpr ⟨id, ⟨file, hfile, hid⟩, rfl⟩, rfl⟩

theorem countsMissing_aggregateRuns_iff (scenario protocol : String)
    (files : List (List BenchmarkRecord)) (id : UInt16) :
    (aggregateRuns sqrt scenario protocol files).CountsMissing files id ↔
      ∀ file ∈ files, id ∈ streamIds file →
        (countStream (streamRecords file id)).lost.toNat =
          missing (streamRecords file id) := by
  constructor
  · intro hcounts file hfile hid
    obtain ⟨a, ha, rfl⟩ :
        ∃ a ∈ (aggregateRuns sqrt scenario protocol files).streams, a.streamId = id :=
      exists_streamReport scenario protocol hfile hid
    have hvalues := hcounts a ha rfl
    rw [lost_values ha, List.map_inj_left] at hvalues
    exact Nat.cast_injective (hvalues _ (mem_streamRows_iff.mpr ⟨file, hfile, hid, rfl⟩))
  · rintro hlost a ha rfl
    rw [lost_values ha, List.map_inj_left]
    intro rows hrows
    obtain ⟨file, hfile, hid, rfl⟩ := mem_streamRows_iff.mp hrows
    rw [hlost file hfile hid]

theorem missing_iff_noneMasked {file : List BenchmarkRecord} {id : UInt16}
    (hlt : ∀ r ∈ file, r.streamId = id → r.packetId.toNat + 1 < UInt64.size)
    (hlen : file.length < UInt64.size) :
    (id ∈ streamIds file →
        (countStream (streamRecords file id)).lost.toNat = missing (streamRecords file id)) ↔
      NoneMasked (streamRecords file id) := by
  have hrows : ∀ r ∈ streamRecords file id, r.packetId.toNat + 1 < UInt64.size := by
    intro r hr
    obtain ⟨hmem, hid⟩ := List.mem_filter.mp hr
    exact hlt r hmem (by simpa using hid)
  have hrowsLen : (streamRecords file id).length < UInt64.size :=
    Nat.lt_of_le_of_lt (List.length_filter_le _ _) hlen
  by_cases hid : id ∈ streamIds file
  · rw [← lost_eq_missing_iff (fun h => streamRecords_eq_nil_iff.mp h hid) hrows hrowsLen]
    exact ⟨fun h => h hid, fun h _ => h⟩
  · rw [streamRecords_eq_nil_iff.mpr hid]
    exact ⟨fun _ => Or.inl List.nodup_nil, fun _ h => absurd h hid⟩

/-- Both analyses count the missing ids of a stream exactly when no file masks a missing id of
it by a repeated one. -/
theorem counts_missing_iff (keyOrder keyOrder' : List UInt16 → List UInt16)
    (horder : ∀ l, (keyOrder l).Perm l) (horder' : ∀ l, (keyOrder' l).Perm l) (sqrt : F → F)
    (scenario protocol : String) (files : List (List BenchmarkRecord)) (id : UInt16)
    (hlt : ∀ file ∈ files, ∀ r ∈ file, r.streamId = id → r.packetId.toNat + 1 < UInt64.size)
    (hlen : ∀ file ∈ files, file.length < UInt64.size) :
    (∃ report, Tables.aggregateRuns keyOrder sqrt scenario protocol files = some report ∧
        (report.CountsMissing files id ↔ ∀ file ∈ files, NoneMasked (streamRecords file id))) ∧
      ∀ file ∈ files, ∀ report,
        Tables.analyzeSingleFile keyOrder' sqrt file = some (.ok report) →
          (report.CountsMissing file id ↔ NoneMasked (streamRecords file id)) := by
  refine ⟨⟨_, Tables.aggregateRuns_eq horder scenario protocol files, ?_⟩, ?_⟩
  · rw [countsMissing_aggregateRuns_iff]
    exact forall₂_congr fun file hfile => missing_iff_noneMasked (hlt file hfile) (hlen file hfile)
  · intro file hfile report hreport
    rw [Tables.analyzeSingleFile_eq horder', Option.some.injEq] at hreport
    rw [countsMissing_iff_of_analyze hreport]
    exact missing_iff_noneMasked (hlt file hfile) (hlen file hfile)

/-- The rows of a stream whose packet 2 overtook packet 0 and whose packet 1 is lost. -/
def overtakenRows : List BenchmarkRecord :=
  [{ streamId := 4, packetId := 2, recvTimestamp := 140, rttUs := 45, payloadSize := 64 },
   { streamId := 4, packetId := 0, recvTimestamp := 150, rttUs := 90, payloadSize := 64 }]

theorem counts_missing_overtakenRows :
    ∃ report, Tables.aggregateRuns id Rat.sqrt "baseline" "udp" [overtakenRows] = some report ∧
      report.CountsMissing [overtakenRows] 4 := by
  have hlt : ∀ file ∈ [overtakenRows], ∀ r ∈ file, r.streamId = 4 →
      r.packetId.toNat + 1 < UInt64.size := by decide
  have hlen : ∀ file ∈ [overtakenRows], file.length < UInt64.size := by decide
  obtain ⟨⟨report, hreport, hcounts⟩, -⟩ :=
    counts_missing_iff id id (fun _ => .refl _) (fun _ => .refl _) Rat.sqrt "baseline" "udp"
      [overtakenRows] 4 hlt hlen
  refine ⟨report, hreport, hcounts.mpr ?_⟩
  rw [List.forall_mem_singleton]
  exact Or.inl (by decide)

/-- The rows of a stream that lost packet 1 and received packet 2 twice. -/
def maskedRows : List BenchmarkRecord :=
  [{ streamId := 4, packetId := 0, recvTimestamp := 100, rttUs := 40, payloadSize := 64 },
   { streamId := 4, packetId := 2, recvTimestamp := 140, rttUs := 45, payloadSize := 64 },
   { streamId := 4, packetId := 2, recvTimestamp := 141, rttUs := 46, payloadSize := 64 }]

theorem lost_maskedRows :
    (∃ report, Tables.aggregateRuns id Rat.sqrt "baseline" "udp" [maskedRows] = some report ∧
        ∃ a ∈ report.streams, a.streamId = 4 ∧ a.stats.lost.values = [0]) ∧
      (∃ report, Tables.analyzeSingleFile id Rat.sqrt maskedRows = some (.ok report) ∧
        ∃ s ∈ report.streams, s.streamId = 4 ∧ s.stats.lost = 0) ∧
      missing maskedRows = 1 := by
  have hid : 4 ∈ streamIds maskedRows := by
    rw [mem_streamIds]
    decide
  have hrows : streamRecords maskedRows 4 = maskedRows := by decide
  have hlost : (countStream maskedRows).lost = 0 := by decide
  refine ⟨⟨_, Tables.aggregateRuns_eq (fun _ => .refl _) _ _ _, ?_⟩,
    ⟨_, Tables.analyzeSingleFile_eq (fun _ => .refl _) maskedRows, ?_⟩, by decide⟩
  · obtain ⟨a, ha, hid⟩ :
        ∃ a ∈ (aggregateRuns Rat.sqrt "baseline" "udp" [maskedRows]).streams, a.streamId = 4 :=
      exists_streamReport _ _ List.mem_cons_self hid
    refine ⟨a, ha, hid, ?_⟩
    have hfiles : ([maskedRows].map (streamRecords · 4)).filter (!·.isEmpty) = [maskedRows] := by
      decide
    rw [lost_values ha, hid, hfiles, List.map_singleton, hlost]
    rfl
  · refine ⟨_, List.mem_map_of_mem hid, rfl, ?_⟩
    simpa [singleRunToLegacy, hrows] using hlost

end Reports

end Stats
end GameSockets
