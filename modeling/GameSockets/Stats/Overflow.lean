/-
When the statistics are at fault, and when their words hold what they count.

A build with overflow checks stops exactly at files whose sums do not fit, where a build
without them goes on with other numbers.
-/
import GameSockets.Stats.Totals
import Mathlib.Analysis.Real.Sqrt

namespace GameSockets
namespace Stats

open Client Library

section Overflow

variable {F : Type} [Field F]

/-- Counters and mean are those of the numbers. -/
structure LegacyStats.Exact (s : LegacyStats F) (sent lost : Nat) (rows : List BenchmarkRecord) :
    Prop where
  sent : s.sent.toNat = sent
  lost : s.lost.toNat = lost
  avgUs : s.latency.avgUs = (Words.total (rows.map (·.rttUs)) : F) / (rows.length : F)

def lostTotal (rows : List BenchmarkRecord) : Nat := sentTotal rows - rows.length

/-- What the streams of a file are taken to have sent, and to have lost. -/
def sentByStreams (records : List BenchmarkRecord) : Nat :=
  ((streamIds records).map fun id => sentTotal (streamRecords records id)).sum

def lostByStreams (records : List BenchmarkRecord) : Nat :=
  ((streamIds records).map fun id => lostTotal (streamRecords records id)).sum

structure SingleFileReport.Exact (r : SingleFileReport F) (records : List BenchmarkRecord) :
    Prop where
  global : r.global.Exact (sentByStreams records) (lostByStreams records) records
  streams : ∀ s ∈ r.streams,
    s.stats.Exact (sentTotal (streamRecords records s.streamId))
      (lostTotal (streamRecords records s.streamId)) (streamRecords records s.streamId)

structure AggregatedStats.Exact (a : AggregatedStats F)
    (sent lost : List BenchmarkRecord → Nat) (runs : List (List BenchmarkRecord)) : Prop where
  sent : a.sent.values = runs.map fun rows => (sent rows : F)
  lost : a.lost.values = runs.map fun rows => (lost rows : F)
  avgUs : a.latency.avgUs.values =
    runs.map fun rows => (Words.total (rows.map (·.rttUs)) : F) / (rows.length : F)

structure AggregatedReport.Exact (r : AggregatedReport F) (files : List (List BenchmarkRecord)) :
    Prop where
  global : r.global.Exact sentByStreams lostByStreams (files.filter (!·.isEmpty))
  streams : ∀ s ∈ r.streams,
    s.stats.Exact sentTotal lostTotal
      ((files.map (streamRecords · s.streamId)).filter (!·.isEmpty))

variable [LinearOrder F] [FloorSemiring F] {sqrt : F → F} {records : List BenchmarkRecord}

theorem exact_computeSingleRun {c : Counts} {sent lost : Nat} {rows : List BenchmarkRecord}
    (hsent : c.sent.toNat = sent) (hreceived : c.received.toNat = rows.length)
    (hlost : c.lost.toNat = lost) (hrtts : Words.total (rows.map (·.rttUs)) < UInt64.size) :
    (singleRunToLegacy (computeSingleRun sqrt c rows)).Exact sent lost rows := by
  constructor
  · simpa [singleRunToLegacy] using hsent
  · simpa [singleRunToLegacy] using hlost
  · simp only [singleRunToLegacy]
    rw [computeSingleRun_avgUs, Words.toNat_sum hrtts, hreceived]

theorem SumsFit.exact_global (h : SumsFit records) (sqrt : F → F) :
    (singleRunToLegacy (computeSingleRun sqrt (countGlobal records) records)).Exact
      (sentByStreams records) (lostByStreams records) records :=
  exact_computeSingleRun h.global.sent h.global.received h.global.lost h.rtts

theorem SumsFit.exact_stream (h : SumsFit records) (sqrt : F → F) {id : UInt16}
    (hid : id ∈ streamIds records) :
    (singleRunToLegacy (computeSingleRun sqrt (countStream (streamRecords records id))
      (streamRecords records id))).Exact (sentTotal (streamRecords records id))
        (lostTotal (streamRecords records id)) (streamRecords records id) :=
  exact_computeSingleRun (h.stream hid).sent (h.stream hid).received (h.stream hid).lost
    (Nat.lt_of_le_of_lt (total_stream_le BenchmarkRecord.rttUs hid) h.rtts)

theorem SumsFit.exact_analyze (h : SumsFit records) {report : SingleFileReport F}
    (hreport : analyzeSingleFile sqrt records = .ok report) : report.Exact records := by
  by_cases hne : records = []
  · subst hne
    cases hreport
  · rw [analyzeSingleFile_of_ne_nil hne] at hreport
    cases hreport
    refine { global := h.exact_global sqrt, streams := fun s hs => ?_ }
    obtain ⟨id, hid, rfl⟩ := List.mem_map.mp hs
    exact h.exact_stream sqrt hid

/-- The summaries over runs list the numbers of each run. -/
theorem exact_aggregate {sent lost : List BenchmarkRecord → Nat}
    {counts : List BenchmarkRecord → Counts} {runs : List (List BenchmarkRecord)}
    (h : ∀ rows ∈ runs,
      (singleRunToLegacy (computeSingleRun sqrt (counts rows) rows)).Exact (sent rows) (lost rows)
        rows) :
    (aggregateSingleRunRefs sqrt (runs.map fun rows =>
      computeSingleRun sqrt (counts rows) rows)).Exact sent lost runs := by
  constructor
  · simp only [aggregateSingleRunRefs, summarize_values, List.map_map]
    exact List.map_congr_left fun rows hrows => congrArg Nat.cast (h rows hrows).sent
  · simp only [aggregateSingleRunRefs, summarize_values, List.map_map]
    exact List.map_congr_left fun rows hrows => congrArg Nat.cast (h rows hrows).lost
  · simp only [aggregateSingleRunRefs, summarize_values, List.map_map]
    exact List.map_congr_left fun rows hrows => (h rows hrows).avgUs

theorem exact_aggregateRuns {files : List (List BenchmarkRecord)}
    (h : ∀ file ∈ files, SumsFit file) (scenario protocol : String) :
    (aggregateRuns sqrt scenario protocol files).Exact files := by
  constructor
  · have hglobal := @exact_aggregate F _ _ _ sqrt sentByStreams lostByStreams countGlobal
      (files.filter (!·.isEmpty)) fun file hfile =>
        (h file (List.mem_filter.mp hfile).1).exact_global sqrt
    simpa [aggregateRuns, computeRun, Function.comp_def] using hglobal
  · intro s hs
    obtain ⟨id, -, rfl⟩ := (mem_streams_iff sqrt).mp hs
    refine exact_aggregate fun rows hrows => ?_
    obtain ⟨file, hfile, hid, rfl⟩ := mem_streamRows_iff.mp hrows
    exact (h file hfile).exact_stream sqrt hid

/-! ## Builds with and without overflow checks -/

/-- With the checks both analyses run to their ends, and their words hold the numbers. -/
structure NoOverflow (keyOrder : List UInt16 → List UInt16) (sqrt : F → F)
    (scenario protocol : String) (files : List (List BenchmarkRecord)) : Prop where
  aggregate : ∃ report,
    Checked.aggregateRuns .panics sqrt keyOrder scenario protocol files = some report ∧
      report.Exact files
  analyze : ∀ file ∈ files, ∃ result,
    Checked.analyzeSingleFile .panics sqrt keyOrder file = some result ∧
      ∀ report, result = .ok report → report.Exact file

theorem fileFits_panics_iff (hlen : records.length < UInt64.size) :
    Checked.FileFits .panics records ↔ SumsFit records := by
  constructor
  · rintro ⟨hsent, hbytes, hrtts⟩
    exact { rows := hlen, sent := hsent, rtts := hrtts, bytes := hbytes }
  · exact fun h => ⟨h.sent, h.bytes, h.rtts⟩

variable [IsStrictOrderedRing F]

/-- No addition overflows exactly when the sums over each file fit. -/
theorem no_overflow_iff (keyOrder : List UInt16 → List UInt16)
    (horder : ∀ l, (keyOrder l).Perm l) (sqrt : F → F) (hsqrt : ∀ x, 0 < x → 0 < sqrt x)
    (scenario protocol : String) (files : List (List BenchmarkRecord))
    (hlen : ∀ file ∈ files, file.length < UInt64.size) :
    NoOverflow keyOrder sqrt scenario protocol files ↔ ∀ file ∈ files, SumsFit file := by
  constructor
  · rintro ⟨⟨report, hreport, -⟩, -⟩ file hfile
    have hfits := ((Checked.aggregateRuns_eq_some_iff horder hsqrt hlen).mp hreport).1 file hfile
    exact (fileFits_panics_iff (hlen file hfile)).mp hfits
  · intro hfit
    have hfits : ∀ file ∈ files, Checked.FileFits .panics file :=
      fun file hfile => (fileFits_panics_iff (hlen file hfile)).mpr (hfit file hfile)
    refine { aggregate := ⟨_, (Checked.aggregateRuns_eq_some_iff horder hsqrt hlen).mpr
      ⟨hfits, rfl⟩, exact_aggregateRuns hfit scenario protocol⟩, analyze := fun file hfile => ?_ }
    exact ⟨_, (Checked.analyzeSingleFile_eq_some_iff horder (hlen file hfile)).mpr
      ⟨hfits file hfile, rfl⟩, fun report hreport => (hfit file hfile).exact_analyze hreport⟩

theorem no_overflow_iff_mixedRows :
    NoOverflow id Real.sqrt "baseline" "udp" [mixedRows] ↔ ∀ file ∈ [mixedRows], SumsFit file :=
  no_overflow_iff id (fun _ => .refl _) Real.sqrt (fun _ hx => Real.sqrt_pos.mpr hx) "baseline"
    "udp" [mixedRows] (by decide)

/-- A reply that carries the largest id. -/
def lastIdRows : List BenchmarkRecord :=
  [{ streamId := 7, packetId := 18446744073709551615, recvTimestamp := 40, rttUs := 30,
     payloadSize := 64 }]

/-- With the checks the program stops; without them it reports that nothing was sent. -/
theorem overflow_lastIdRows :
    ¬ NoOverflow id Real.sqrt "baseline" "udp" [lastIdRows] ∧
      Checked.aggregateRuns .panics Real.sqrt id "baseline" "udp" [lastIdRows] = none ∧
      Checked.analyzeSingleFile .panics Real.sqrt id lastIdRows = none ∧
      ∃ report, Checked.analyzeSingleFile .wraps Real.sqrt id lastIdRows = some (.ok report) ∧
        report.global.received = 1 ∧ report.global.sent = 0 ∧
          sentByStreams lastIdRows = 18446744073709551616 := by
  have hids : streamIds lastIdRows = [7] := (Sorted.eq_mergeSort (by decide) (by decide)).symm
  have horder : ∀ l : List UInt16, (id l).Perm l := fun l => .refl l
  have hlen : lastIdRows.length < UInt64.size := by decide
  have hsent : sentByStreams lastIdRows = 18446744073709551616 := by
    rw [sentByStreams, hids]
    decide
  have hfits : ¬ Checked.FileFits .panics lastIdRows := fun h =>
    Nat.lt_irrefl _ (hsent ▸ h.1 : 18446744073709551616 < UInt64.size)
  have haggregate : Checked.aggregateRuns .panics Real.sqrt id "baseline" "udp" [lastIdRows] =
      none := by
    rw [Option.eq_none_iff_forall_ne_some]
    intro report hreport
    have hroot : ∀ x : ℝ, 0 < x → 0 < Real.sqrt x := fun _ hx => Real.sqrt_pos.mpr hx
    have hlen : ∀ file ∈ [lastIdRows], file.length < UInt64.size := by decide
    have hfile := ((Checked.aggregateRuns_eq_some_iff horder hroot hlen).mp hreport).1
    exact hfits (hfile lastIdRows List.mem_cons_self)
  have hanalyze : Checked.analyzeSingleFile .panics Real.sqrt id lastIdRows = none := by
    rw [Option.eq_none_iff_forall_ne_some]
    intro result hresult
    exact hfits ((Checked.analyzeSingleFile_eq_some_iff horder hlen).mp hresult).1
  refine ⟨fun h => ?_, haggregate, hanalyze, _,
    (Checked.analyzeSingleFile_eq_some_iff horder hlen).mpr
      ⟨⟨trivial, trivial, trivial⟩, analyzeSingleFile_of_ne_nil (by simp [lastIdRows])⟩,
    ?_, ?_, hsent⟩
  · obtain ⟨report, hreport, -⟩ := h.aggregate
    rw [haggregate] at hreport
    cases hreport
  · simp only [singleRunToLegacy, computeSingleRun_received, countGlobal, hids]
    decide
  · simp only [singleRunToLegacy, computeSingleRun_sent, countGlobal, hids]
    decide

/-- Neither analysis is ever at fault: without overflow checks on no file, and with them on no
file whose sums fit. -/
theorem never_at_fault (keyOrder : List UInt16 → List UInt16)
    (horder : ∀ l, (keyOrder l).Perm l) (sqrt : F → F) (hsqrt : ∀ x, 0 < x → 0 < sqrt x)
    (mode : Words.Overflow) (scenario protocol : String) (files : List (List BenchmarkRecord))
    (hlen : ∀ file ∈ files, file.length < UInt64.size)
    (hmode : mode = .panics → ∀ file ∈ files, SumsFit file) :
    Checked.aggregateRuns mode sqrt keyOrder scenario protocol files =
        some (aggregateRuns sqrt scenario protocol files) ∧
      ∀ file ∈ files, Checked.analyzeSingleFile mode sqrt keyOrder file =
        some (analyzeSingleFile sqrt file) := by
  have hfits : ∀ file ∈ files, Checked.FileFits mode file := by
    intro file hfile
    cases mode with
    | panics => exact (fileFits_panics_iff (hlen file hfile)).mpr (hmode rfl file hfile)
    | wraps => exact ⟨trivial, trivial, trivial⟩
  refine ⟨(Checked.aggregateRuns_eq_some_iff horder hsqrt hlen).mpr ⟨hfits, rfl⟩, ?_⟩
  intro file hfile
  exact (Checked.analyzeSingleFile_eq_some_iff horder (hlen file hfile)).mpr
    ⟨hfits file hfile, rfl⟩

/-- A run without rows, and a run of rows with one timestamp. -/
theorem never_at_fault_lastIdRows :
    Checked.aggregateRuns .wraps Real.sqrt id "baseline" "udp" [[], lastIdRows, mixedRows] =
        some (aggregateRuns Real.sqrt "baseline" "udp" [[], lastIdRows, mixedRows]) ∧
      ∀ file ∈ [[], lastIdRows, mixedRows],
        Checked.analyzeSingleFile .wraps Real.sqrt id file =
          some (analyzeSingleFile Real.sqrt file) :=
  never_at_fault id (fun _ => .refl _) Real.sqrt (fun _ hx => Real.sqrt_pos.mpr hx) .wraps
    "baseline" "udp" [[], lastIdRows, mixedRows] (by decide) nofun

end Overflow

end Stats
end GameSockets
