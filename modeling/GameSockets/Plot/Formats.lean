/-
The two formats that the statistics are written in, and what is read of each.

Both readers try a text as the report of several runs first and as that of one run after it.
Neither takes the other's.  A floating point number need not be read back as it was printed:
`reread` is what becomes of it, and `ε` how far it may be off in relation to its size.
-/
import GameSockets.Plot
import GameSockets.Stats.Report

namespace GameSockets
namespace Plot

open Library Stats

variable {F Text : Type} [Field F]

/-! ## The report of several runs -/

/-- What is read back of a metric whose numbers have been rewritten. -/
def SummaryStatistic.reread (f : F → F) (s : Stats.SummaryStatistic F) : SummaryStatistic F :=
  { median := f s.median, mean := f s.mean, stddev := f s.stddev, ci95Low := f s.ci95Low,
    ci95High := f s.ci95High, min := f s.min, max := f s.max }

theorem SummaryStatistic.ofJson_toJson (f : F → F) (s : Stats.SummaryStatistic F) :
    SummaryStatistic.ofJson (s.toJson.map f) = some (.reread f s) := by
  rw [Stats.SummaryStatistic.toJson, Json.map, SummaryStatistic.ofJson,
    Json.record_object (by simp [Json.mapMembers]) (by simp [Json.mapMembers])]
  simp [Json.mapMembers, Json.map, Json.toFloat, SummaryStatistic.reread]

def AggregatedLatency.reread (f : F → F) (l : Stats.AggregatedLatency F) : AggregatedLatency F :=
  { avgUs := .reread f l.avgUs, p50Us := .reread f l.p50Us, p95Us := .reread f l.p95Us,
    p99Us := .reread f l.p99Us }

theorem AggregatedLatency.ofJson_toJson (f : F → F) (l : Stats.AggregatedLatency F) :
    AggregatedLatency.ofJson (l.toJson.map f) = some (.reread f l) := by
  rw [Stats.AggregatedLatency.toJson, Json.map, AggregatedLatency.ofJson,
    Json.record_object (by simp [Json.mapMembers]) (by simp [Json.mapMembers])]
  simp [Json.mapMembers, SummaryStatistic.ofJson_toJson, AggregatedLatency.reread]

def AggregatedReport.reread (f : F → F) (r : Stats.AggregatedReport F) : AggregatedReport F :=
  { scenario := r.scenario, protocol := r.protocol, numRuns := r.numRuns,
    global :=
      { latency := .reread f r.global.latency,
        lossRatePercent := .reread f r.global.lossRatePercent } }

theorem AggregatedReport.ofJson_toJson (f : F → F) (r : Stats.AggregatedReport F) :
    AggregatedReport.ofJson (r.toJson.map f) = some (.reread f r) := by
  have hstats : AggregatedStats.ofJson (r.global.toJson.map f) =
      some (AggregatedReport.reread f r).global := by
    rw [Stats.AggregatedStats.toJson, Json.map, AggregatedStats.ofJson,
      Json.record_object (by simp [Json.mapMembers]) (by simp [Json.mapMembers])]
    simp [Json.mapMembers, SummaryStatistic.ofJson_toJson, AggregatedLatency.ofJson_toJson,
      AggregatedReport.reread]
  rw [Stats.AggregatedReport.toJson, Json.map, AggregatedReport.ofJson,
    Json.record_object (by simp [Json.mapMembers]) (by simp [Json.mapMembers])]
  simp [Json.mapMembers, Json.map, Json.toString?, Json.toNat, hstats]
  rfl

/-- The latency of a report of several runs is no number. -/
theorem LegacyJson.ofJson_aggregated (f : F → F) (r : Stats.AggregatedReport F) :
    LegacyJson.ofJson (r.toJson.map f) = none := by
  have hlatency : LegacyLatency.ofJson (r.global.latency.toJson.map f) = none := by
    rw [Stats.AggregatedLatency.toJson, Json.map, LegacyLatency.ofJson,
      Json.record_object (by simp [Json.mapMembers]) (by simp [Json.mapMembers])]
    simp [Json.mapMembers, Stats.SummaryStatistic.toJson, Json.map, Json.toFloat]
  have hglobal : LegacyGlobal.ofJson (r.global.toJson.map f) = none := by
    rw [Stats.AggregatedStats.toJson, Json.map, LegacyGlobal.ofJson,
      Json.record_object (by simp [Json.mapMembers]) (by simp [Json.mapMembers])]
    simp [Json.mapMembers, hlatency]
  rw [Stats.AggregatedReport.toJson, Json.map, LegacyJson.ofJson,
    Json.record_object (by simp [Json.mapMembers]) (by simp [Json.mapMembers])]
  simp [Json.mapMembers, hglobal]

/-! ## The report of one run -/

/-- There is no scenario in the report of one run. -/
theorem AggregatedReport.ofJson_single (f : F → F) (r : SingleFileReport F) :
    AggregatedReport.ofJson (r.toJson.map f) = none := by
  rw [SingleFileReport.toJson, Json.map, AggregatedReport.ofJson,
    @Json.record_object_eq_none _ _ _ "scenario" (by simp) (by simp [Json.mapMembers])]
  rfl

/-- What is read back of the report of one run.  Its percentiles are whole numbers. -/
def LegacyJson.reread (f : F → F) (r : SingleFileReport F) : LegacyJson F :=
  { global :=
      { latency :=
          { avgUs := f r.global.latency.avgUs, p99Us := (r.global.latency.p99Us.toNat : F) } } }

theorem LegacyJson.ofJson_toJson (f : F → F) (r : SingleFileReport F) :
    LegacyJson.ofJson (r.toJson.map f) = some (.reread f r) := by
  have hlatency : LegacyLatency.ofJson (r.global.latency.toJson.map f) =
      some (LegacyJson.reread f r).global.latency := by
    rw [Stats.LegacyLatency.toJson, Json.map, LegacyLatency.ofJson,
      Json.record_object (by simp [Json.mapMembers]) (by simp [Json.mapMembers])]
    simp [Json.mapMembers, Json.map, Json.toFloat, word, LegacyJson.reread]
  have hglobal : LegacyGlobal.ofJson (r.global.toJson.map f) =
      some (LegacyJson.reread f r).global := by
    rw [LegacyStats.toJson, Json.map, LegacyGlobal.ofJson,
      Json.record_object (by simp [Json.mapMembers]) (by simp [Json.mapMembers])]
    simp [Json.mapMembers, hlatency]
  rw [SingleFileReport.toJson, Json.map, LegacyJson.ofJson,
    Json.record_object (by simp [Json.mapMembers]) (by simp [Json.mapMembers])]
  simp [Json.mapMembers, hglobal]

/-! ## Loading -/

/-- The texts of JSON: what is printed of a report is parsed, up to what becomes of a floating
point number. -/
structure Reparses (print : Json F → Text) (parse : Text → Option (Json F)) (reread : F → F) :
    Prop where
  aggregated : ∀ report : Stats.AggregatedReport F,
    parse (print report.toJson) = some (report.toJson.map reread)
  single : ∀ report : SingleFileReport F,
    parse (print report.toJson) = some (report.toJson.map reread)

section Load

variable {print : Json F → Text} {reread : F → F} {reports : Reports F Text} {path : Name}

theorem load_aggregated (hparse : Reparses print reports.parse reread)
    {report : Stats.AggregatedReport F} (hfile : reports.files path = some (print report.toJson)) :
    loadAggregated reports path = some (.reread reread report) ∧
      loadLegacy reports path = none := by
  simp [loadAggregated, loadLegacy, hfile, hparse.aggregated report,
    AggregatedReport.ofJson_toJson, LegacyJson.ofJson_aggregated]

theorem load_single (hparse : Reparses print reports.parse reread)
    {report : SingleFileReport F} (hfile : reports.files path = some (print report.toJson)) :
    loadAggregated reports path = none ∧
      loadLegacy reports path = some (.reread reread report) := by
  simp [loadAggregated, loadLegacy, hfile, hparse.single report,
    AggregatedReport.ofJson_single, LegacyJson.ofJson_toJson]

/-- A metric in milliseconds. -/
def inMillis (stat : Stats.SummaryStatistic F) : F × F × F :=
  (stat.median / (1000 : Nat), stat.ci95Low / (1000 : Nat), stat.ci95High / (1000 : Nat))

/-- A metric in milliseconds, as it is read back. -/
def shown (reread : F → F) (stat : Stats.SummaryStatistic F) : F × F × F :=
  (reread stat.median / (1000 : Nat), reread stat.ci95Low / (1000 : Nat),
    reread stat.ci95High / (1000 : Nat))

theorem loadP99WithCi_aggregated (hparse : Reparses print reports.parse reread)
    {report : Stats.AggregatedReport F} (hfile : reports.files path = some (print report.toJson)) :
    loadP99WithCi reports path = shown reread report.global.latency.p99Us := by
  simp only [loadP99WithCi, loadWithCi, (load_aggregated hparse hfile).1]
  rfl

theorem loadAvgWithCi_aggregated (hparse : Reparses print reports.parse reread)
    {report : Stats.AggregatedReport F} (hfile : reports.files path = some (print report.toJson)) :
    loadAvgWithCi reports path = shown reread report.global.latency.avgUs := by
  simp only [loadAvgWithCi, loadWithCi, (load_aggregated hparse hfile).1]
  rfl

theorem loadWithCi_single (hparse : Reparses print reports.parse reread)
    {report : SingleFileReport F} (hfile : reports.files path = some (print report.toJson))
    (stat : AggregatedLatency F → SummaryStatistic F) (val : LegacyLatency F → F) :
    let ms := val (LegacyJson.reread reread report).global.latency / (1000 : Nat)
    loadWithCi stat val reports path = (ms, ms, ms) := by
  simp only [loadWithCi, (load_single hparse hfile).1, (load_single hparse hfile).2]

theorem loadWithCi_missing (hfile : reports.files path = none)
    (stat : AggregatedLatency F → SummaryStatistic F) (val : LegacyLatency F → F) :
    loadWithCi stat val reports path = (0, 0, 0) := by
  simp [loadWithCi, loadAggregated, loadLegacy, hfile]

section Precision

variable [LinearOrder F]

/-- A number is read back with a relative error of at most `ε`. -/
def Precise (ε : F) (reread : F → F) : Prop := ∀ x, |reread x - x| ≤ ε * |x|

/-- The values of `p` are those of `q` with a relative error of at most `ε`. -/
def Near (ε : F) (p q : F × F × F) : Prop :=
  |p.1 - q.1| ≤ ε * |q.1| ∧ |p.2.1 - q.2.1| ≤ ε * |q.2.1| ∧ |p.2.2 - q.2.2| ≤ ε * |q.2.2|

variable [IsStrictOrderedRing F] {ε : F}

theorem Precise.millis (h : Precise ε reread) (x : F) :
    |reread x / (1000 : Nat) - x / (1000 : Nat)| ≤ ε * |x / (1000 : Nat)| := by
  have hpos : (0 : F) < |((1000 : Nat) : F)| := abs_pos.mpr (by norm_num)
  rw [← sub_div, abs_div, abs_div, ← mul_div_assoc]
  exact div_le_div_of_nonneg_right (h x) hpos.le

theorem near_shown (h : Precise ε reread) (stat : Stats.SummaryStatistic F) :
    Near ε (shown reread stat) (inMillis stat) :=
  ⟨h.millis stat.median, h.millis stat.ci95Low, h.millis stat.ci95High⟩

/-- Each format is read by its own reader alone, and gives its values in milliseconds, up to the
precision of a number that is read back: a report of several runs with its interval, the report of
one run without. -/
theorem formats_read (print : Json F → Text) (reread : F → F) (ε : F) (hprecise : Precise ε reread)
    (reports : Reports F Text) (hparse : Reparses print reports.parse reread) (path : Name) :
    (∀ report : Stats.AggregatedReport F, reports.files path = some (print report.toJson) →
        loadLegacy reports path = none ∧
          Near ε (loadP99WithCi reports path) (inMillis report.global.latency.p99Us) ∧
          Near ε (loadAvgWithCi reports path) (inMillis report.global.latency.avgUs)) ∧
      ∀ report : SingleFileReport F, reports.files path = some (print report.toJson) →
        let p99 := (report.global.latency.p99Us.toNat : F) / (1000 : Nat)
        let avg := report.global.latency.avgUs / (1000 : Nat)
        loadAggregated reports path = none ∧
          loadP99WithCi reports path = (p99, p99, p99) ∧
          ∃ ms, loadAvgWithCi reports path = (ms, ms, ms) ∧ |ms - avg| ≤ ε * |avg| := by
  constructor
  · intro report hfile
    refine ⟨(load_aggregated hparse hfile).2, ?_, ?_⟩
    · rw [loadP99WithCi_aggregated hparse hfile]
      exact near_shown hprecise _
    · rw [loadAvgWithCi_aggregated hparse hfile]
      exact near_shown hprecise _
  · intro report hfile
    exact ⟨(load_single hparse hfile).1, loadWithCi_single hparse hfile _ _, _,
      loadWithCi_single hparse hfile _ _, hprecise.millis _⟩

end Precision

end Load

/-- The values of JSON as their own texts. -/
theorem reparses_id : Reparses (fun j => j) (fun j => some (j.map fun x : ℚ => x)) fun x => x :=
  ⟨fun _ => rfl, fun _ => rfl⟩

theorem precise_id : Precise 0 fun x : ℚ => x := fun x => by simp

/-- The directory where there is the report of one run. -/
def singleReport (report : SingleFileReport ℚ) : Reports ℚ (Json ℚ) :=
  { parse := fun j => some (j.map fun x => x), files := fun _ => some report.toJson }

theorem formats_read_singleReport :
    ∃ report, analyzeSingleFile Rat.sqrt mixedRows = .ok report ∧
      loadAggregated (singleReport report) "01_baseline_udp.json".toList = none ∧
      loadP99WithCi (singleReport report) "01_baseline_udp.json".toList =
        ((report.global.latency.p99Us.toNat : ℚ) / (1000 : Nat),
          (report.global.latency.p99Us.toNat : ℚ) / (1000 : Nat),
          (report.global.latency.p99Us.toNat : ℚ) / (1000 : Nat)) := by
  refine ⟨_, rfl, ?_⟩
  obtain ⟨hformat, hp99, -⟩ :=
    (formats_read (fun j => j) (fun x : ℚ => x) 0 precise_id (singleReport _) reparses_id
      "01_baseline_udp.json".toList).2 _ rfl
  exact ⟨hformat, hp99⟩

end Plot
end GameSockets
