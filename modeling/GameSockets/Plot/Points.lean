/-
The points of the charts are what the recorded rows come to.

The sweep writes the reports, and the plots read them under the same names.  A pair that has
no runs is drawn at zero, and a run without rows does not count.
-/
import GameSockets.Plot.Formats

namespace GameSockets
namespace Plot

open Library Stats

variable {F Text : Type} [Field F]

/-! ## Reading the reports -/

/-- The `aggregated` directory after a sweep: `print` and `parse` are the texts of JSON. -/
def aggregated (print : Json F → Text) (parse : Text → Option (Json F)) (output : Output F) :
    Reports F Text :=
  { parse := parse, files := fun path => (output path).map fun report => print report.toJson }

omit [Field F] in
@[simp] theorem aggregated_files (print : Json F → Text) (parse : Text → Option (Json F))
    (output : Output F) (path : Name) :
    (aggregated print parse output).files path = (output path).map fun r => print r.toJson := rfl

/-- The point of a pair without a report. -/
def unmeasured (x : F) (proto : String) : DataPoint F := pointOf x proto (0, 0, 0)

section Point

variable {print : Json F → Text} {parse : Text → Option (Json F)} {output : Output F}
  {scenario : Name} {proto : String}

theorem point_some {reread : F → F} (hparse : Reparses print parse reread)
    {report : Stats.AggregatedReport F}
    (h : output (outFile scenario (toLowercase proto)) = some report) (x : F) :
    point (aggregated print parse output) x scenario proto =
      pointOf x proto (shown reread report.global.latency.p99Us) := by
  have hfile : (aggregated print parse output).files (outFile scenario (toLowercase proto)) =
      some (print report.toJson) := by simp [h]
  rw [point, loadP99WithCi_aggregated hparse hfile]

theorem point_none (h : output (outFile scenario (toLowercase proto)) = none) (x : F) :
    point (aggregated print parse output) x scenario proto = unmeasured x proto := by
  have hfile : (aggregated print parse output).files (outFile scenario (toLowercase proto)) =
      none := by simp [h]
  rw [point, loadP99WithCi, loadWithCi_missing hfile, unmeasured]

end Point

/-- What a chart has a point for: where it stands, and its scenario and protocol. -/
def Chart.axes (chart : Chart) : List (F × Name × String) :=
  chart.scenarios.flatMap fun (x, name) => chart.protocols.map fun proto => (x, name, proto)

theorem Chart.data_map (reports : Reports F Text) (chart : Chart) :
    chart.data reports = chart.axes.map fun (x, name, proto) => point reports x name proto := by
  rw [Chart.data_eq, buildData, Chart.axes, List.map_flatMap]
  simp only [List.map_map]
  rfl

theorem Chart.plain_of_mem_axes {chart : Chart} {a : F × Name × String} (ha : a ∈ chart.axes) :
    '_' ∉ toLowercase a.2.2 := by
  have hplain : ∀ proto ∈ chart.protocols, '_' ∉ toLowercase proto := by
    cases chart <;> decide
  obtain ⟨_, -, ha⟩ := List.mem_flatMap.mp ha
  obtain ⟨proto, hproto, rfl⟩ := List.mem_map.mp ha
  exact hplain proto hproto

/-! ## What a sweep leaves to be read -/

section Sweep

variable [LinearOrder F] [FloorSemiring F] {sqrt : F → F}

/-- Every report on disk is that of a pair. -/
def Stored (sqrt : F → F) (base : BaseDir) (output : Output F) : Prop :=
  ∀ out report, output out = some report →
    ∃ x ∈ base.pairs, outFile x.1.name x.2 = out ∧ reportOf sqrt x.1 x.2 = .ok report

theorem stored_processProtocol {write : Name → Except String Unit} {base : BaseDir}
    {x : Entry × Name} (hx : x ∈ base.pairs) {output : Output F}
    (h : Stored sqrt base output) :
    Stored sqrt base (Loop.reached (processProtocol sqrt write x.1 output x.2)) := by
  unfold processProtocol
  split
  · exact h
  · cases hreport : reportOf sqrt x.1 x.2 with
    | error e => exact h
    | ok report =>
      have hother : ∀ out, out ≠ outFile x.1.name x.2 → ∀ stored r,
          Function.update output (outFile x.1.name x.2) stored out = some r →
            ∃ y ∈ base.pairs, outFile y.1.name y.2 = out ∧ reportOf sqrt y.1 y.2 = .ok r := by
        intro out hout stored r hr
        rw [Function.update_of_ne hout] at hr
        exact h out r hr
      dsimp only
      split
      · intro out r hr
        by_cases hout : out = outFile x.1.name x.2
        · rw [hout] at hr
          simp [Loop.reached] at hr
        · exact hother out hout _ r hr
      · intro out r hr
        by_cases hout : out = outFile x.1.name x.2
        · rw [hout] at hr
          simp [Loop.reached] at hr
          exact ⟨x, hx, hout.symm, hr ▸ hreport⟩
        · exact hother out hout _ r hr

theorem stored_processSweepDir (sqrt : F → F) (createDir : Except String Unit)
    (write : Name → Except String Unit) (base : BaseDir) :
    Stored sqrt base (Loop.reached (processSweepDir sqrt createDir write base fun _ => none)) := by
  have hnone : Stored sqrt base fun _ => none := fun out r h => by cases h
  cases createDir with
  | error e => exact hnone
  | ok u =>
    rw [processSweepDir_eq]
    exact Loop.foldlM_reached (fun x hx _ => stored_processProtocol hx) hnone

/-- The rows of the runs of a pair. -/
def runsOf (base : BaseDir) (scenario protocol : Name) :
    Option (List (List Client.BenchmarkRecord)) :=
  (base.scenarios.find? (·.name = scenario)).bind fun e =>
    if protocol ∈ discoverProtocols e.listing then
      ((findRunFiles e.listing protocol).mapM e.loadCsv).toOption
    else none

theorem find?_scenarios {base : BaseDir} {e : Entry} (he : e ∈ base.scenarios) :
    base.scenarios.find? (·.name = e.name) = some e := by
  cases hfind : base.scenarios.find? (·.name = e.name) with
  | none =>
    have hnot := List.find?_eq_none.mp hfind e he
    simp at hnot
  | some e' =>
    have hname : e'.name = e.name := by simpa using List.find?_some hfind
    rw [BaseDir.scenario_inj (List.mem_of_find?_eq_some hfind) he hname]

theorem runsOf_pair {base : BaseDir} {x : Entry × Name} (hx : x ∈ base.pairs) :
    runsOf base x.1.name x.2 =
      ((findRunFiles x.1.listing x.2).mapM x.1.loadCsv).toOption := by
  obtain ⟨hscenario, hprotocol⟩ := BaseDir.mem_pairs.mp hx
  rw [runsOf, find?_scenarios hscenario, Option.bind_some, if_pos hprotocol]

/-- The runs of a pair are those of an entry that has it. -/
theorem exists_pair_of_runsOf {base : BaseDir} {scenario protocol : Name}
    {runs : List (List Client.BenchmarkRecord)} (h : runsOf base scenario protocol = some runs) :
    ∃ x ∈ base.pairs, x.1.name = scenario ∧ x.2 = protocol := by
  obtain ⟨e, hfind, he⟩ := Option.bind_eq_some_iff.mp h
  have hprotocol : protocol ∈ discoverProtocols e.listing := by
    by_contra hnot
    rw [if_neg hnot] at he
    cases he
  refine ⟨(e, protocol), BaseDir.mem_pairs.mpr ⟨List.mem_of_find?_eq_some hfind, hprotocol⟩,
    by simpa using List.find?_some hfind, rfl⟩

/-- The 99th percentiles of the runs that have rows. -/
def p99s (sqrt : F → F) (runs : List (List Client.BenchmarkRecord)) : List F :=
  (runs.filter (!·.isEmpty)).map fun rows =>
    ((computeSingleRun sqrt (countGlobal rows) rows).p99Us.toNat : F)

theorem p99Us_aggregateRuns (sqrt : F → F) (scenario protocol : String)
    (runs : List (List Client.BenchmarkRecord)) :
    (aggregateRuns sqrt scenario protocol runs).global.latency.p99Us =
      summarize sqrt (p99s sqrt runs) := by
  simp only [aggregateRuns, aggregateSingleRunRefs, p99s, List.map_map]
  rfl

theorem p99Us_reportOf {base : BaseDir} {x : Entry × Name} (hx : x ∈ base.pairs)
    {report : Stats.AggregatedReport F} (h : reportOf sqrt x.1 x.2 = .ok report) :
    ∃ runs, runsOf base x.1.name x.2 = some runs ∧
      report.global.latency.p99Us = summarize sqrt (p99s sqrt runs) := by
  rw [runsOf_pair hx]
  unfold reportOf at h
  cases hload : (findRunFiles x.1.listing x.2).mapM x.1.loadCsv with
  | error e =>
    rw [hload] at h
    cases h
  | ok runs =>
    rw [hload] at h
    cases h
    exact ⟨runs, rfl, p99Us_aggregateRuns sqrt _ _ runs⟩

/-! ## The points -/

/-- The point that the runs of a pair come to, in milliseconds. -/
def measured (sqrt : F → F) (base : BaseDir) (x : F) (scenario : Name) (proto : String) :
    DataPoint F :=
  match runsOf base scenario (toLowercase proto) with
  | some runs => pointOf x proto (inMillis (summarize sqrt (p99s sqrt runs)))
  | none => unmeasured x proto

/-- The point is the other one with a relative error of at most `ε` in what it shows. -/
structure DataPoint.Near (ε : F) (p q : DataPoint F) : Prop where
  x : p.x = q.x
  protocol : p.protocol = q.protocol
  shown : Plot.Near ε (p.median, p.ciLow, p.ciHigh) (q.median, q.ciLow, q.ciHigh)

omit [FloorSemiring F] in
theorem near_pointOf {ε : F} {values values' : F × F × F} (h : Near ε values values') (x : F)
    (proto : String) : (pointOf x proto values).Near ε (pointOf x proto values') :=
  ⟨rfl, rfl, h⟩

/-- No protocol that was found has an underscore in it. -/
def PlainProtocols (base : BaseDir) : Prop := ∀ x ∈ base.pairs, '_' ∉ x.2

theorem pair_of_outFile {base : BaseDir} (hplain : PlainProtocols base) {x : Entry × Name}
    (hx : x ∈ base.pairs) {scenario protocol : Name} (hprotocol : '_' ∉ protocol)
    (h : outFile x.1.name x.2 = outFile scenario protocol) :
    x.1.name = scenario ∧ x.2 = protocol := by
  rcases Separator.join_eq_join_iff.mp (outFile_eq_iff.mp h) with
    heq | ⟨t, -, hprotocol'⟩ | ⟨t, -, hprotocol'⟩
  · exact heq
  · exact absurd (hprotocol' ▸ by simp) (hplain x hx)
  · exact absurd (hprotocol' ▸ by simp) hprotocol

theorem distinctPaths_of_plain {base : BaseDir} (hplain : PlainProtocols base) :
    base.DistinctPaths := fun _ hx y hy h => pair_of_outFile hplain hx (hplain y hy) h

section Points

variable [IsStrictOrderedRing F] {print : Json F → Text} {parse : Text → Option (Json F)}
  {reread : F → F} {ε : F} {base : BaseDir} {output : Output F}

/-- A report that is read is that of the pair whose point it gives. -/
theorem point_stored (hparse : Reparses print parse reread) (hprecise : Precise ε reread)
    (hplain : PlainProtocols base) (hstored : Stored sqrt base output) (x : F) (scenario : Name)
    {proto : String} (hproto : '_' ∉ toLowercase proto) :
    (point (aggregated print parse output) x scenario proto).Near ε
        (measured sqrt base x scenario proto) ∨
      output (outFile scenario (toLowercase proto)) = none := by
  cases hreport : output (outFile scenario (toLowercase proto)) with
  | none => exact Or.inr rfl
  | some report =>
    obtain ⟨y, hy, hout, hof⟩ := hstored _ report hreport
    obtain ⟨hname, hprotocol⟩ := pair_of_outFile hplain hy hproto hout
    obtain ⟨runs, hruns, hstat⟩ := p99Us_reportOf hy hof
    rw [hname, hprotocol] at hruns
    refine Or.inl ?_
    rw [point_some hparse hreport, hstat, measured, hruns]
    exact near_pointOf (near_shown hprecise _) x proto

/-- After a sweep that has succeeded every pair is drawn as its runs are measured. -/
theorem point_ownReports (hparse : Reparses print parse reread) (hprecise : Precise ε reread)
    (hplain : PlainProtocols base) (hstored : Stored sqrt base output)
    (hown : base.OwnReports sqrt output) (x : F) (scenario : Name) {proto : String}
    (hproto : '_' ∉ toLowercase proto) :
    (point (aggregated print parse output) x scenario proto).Near ε
      (measured sqrt base x scenario proto) := by
  rcases point_stored hparse hprecise hplain hstored x scenario hproto with hmeasured | hnone
  · exact hmeasured
  · rw [point_none hnone, measured]
    cases hruns : runsOf base scenario (toLowercase proto) with
    | none => exact near_pointOf (by simp [Near]) x proto
    | some runs =>
      obtain ⟨y, hy, rfl, hprotocol⟩ := exists_pair_of_runsOf hruns
      obtain ⟨report, -, hreport⟩ := hown y hy
      rw [hprotocol, hnone] at hreport
      cases hreport

/-- However a sweep ends, a chart shows the runs of each pair as they are measured, or zero; and
after a sweep that has succeeded it shows every pair that has runs as these are measured. -/
theorem points_measured (sqrt : F → F) (print : Json F → Text) (parse : Text → Option (Json F))
    (reread : F → F) (hparse : Reparses print parse reread) (ε : F)
    (hprecise : Precise ε reread) (createDir : Except String Unit)
    (write : Name → Except String Unit) (base : BaseDir) (hplain : PlainProtocols base)
    (chart : Chart) :
    let outcome := processSweepDir sqrt createDir write base fun _ => none
    List.Forall₂
        (fun (x, scenario, proto) p =>
          p.Near ε (measured sqrt base x scenario proto) ∨ p = unmeasured x proto)
        chart.axes (chart.data (aggregated print parse (Loop.reached outcome))) ∧
      ∀ output, outcome = .ok output →
        List.Forall₂ (fun (x, scenario, proto) p => p.Near ε (measured sqrt base x scenario proto))
          chart.axes (chart.data (aggregated print parse output)) := by
  intro outcome
  have hstored := stored_processSweepDir sqrt createDir write base
  constructor
  · rw [Chart.data_map, List.forall₂_map_right_iff, List.forall₂_same]
    intro a ha
    rcases point_stored hparse hprecise hplain hstored a.1 a.2.1 (Chart.plain_of_mem_axes ha) with
      hmeasured | hnone
    · exact Or.inl hmeasured
    · exact Or.inr (point_none hnone a.1)
  · intro output houtput
    have hown := (ownReports_iff houtput).mpr (distinctPaths_of_plain hplain)
    change Stored sqrt base (Loop.reached outcome) at hstored
    rw [houtput] at hstored
    rw [Chart.data_map, List.forall₂_map_right_iff, List.forall₂_same]
    intro a ha
    exact point_ownReports hparse hprecise hplain hstored hown a.1 a.2.1
      (Chart.plain_of_mem_axes ha)

end Points

end Sweep

theorem plain_plainDir : PlainProtocols plainDir := by
  intro x hx
  obtain ⟨hscenario, hprotocol⟩ := BaseDir.mem_pairs.mp hx
  obtain ⟨file, hfile, hof⟩ := mem_discoverProtocols.mp hprotocol
  have hentry := List.mem_singleton.mp (List.mem_filter.mp (List.mem_mergeSort.mp hscenario)).1
  have hfiles : ∀ file ∈ ["udp_run01.csv".toList, "quic.csv".toList].filter isCsv,
      '_' ∉ fileProtocol file := by decide
  rw [hentry] at hfile
  exact hof ▸ hfiles file hfile

theorem points_measured_plainDir :
    ∃ output, processSweepDir Rat.sqrt (.ok ()) (fun _ => .ok ()) plainDir (fun _ => none) =
        .ok output ∧
      List.Forall₂
        (fun (x, scenario, proto) p => p.Near 0 (measured Rat.sqrt plainDir x scenario proto))
        Chart.latency.axes
        (Chart.latency.data
          (aggregated (fun j => j) (fun j => some (j.map fun x => x)) output)) := by
  have hload : ∀ e ∈ plainDir.scenarios, ∀ file ∈ e.listing,
      ∃ rows, e.loadCsv file = .ok rows := by
    intro e he file _
    rw [List.mem_singleton.mp (List.mem_filter.mp (List.mem_mergeSort.mp he)).1]
    exact ⟨mixedRows, rfl⟩
  obtain ⟨output, houtput⟩ :=
    @processSweepDir_succeeds ℚ _ _ _ Rat.sqrt plainDir _ (fun _ => rfl) hload fun _ => none
  exact ⟨output, houtput,
    (points_measured Rat.sqrt _ _ (fun x => x) reparses_id 0 precise_id (.ok ()) (fun _ => .ok ())
      plainDir plain_plainDir .latency).2 output houtput⟩

end Plot
end GameSockets
