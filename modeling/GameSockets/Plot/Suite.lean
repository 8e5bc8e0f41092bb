/-
The charts of a suite.

Every point of them is that of the runs of its scenario and protocol, of all that have recorded
something, whatever the order in which their files were found.
-/
import GameSockets.Plot.Points
import GameSockets.Stats.Interval
import GameSockets.Suite

namespace GameSockets
namespace Plot

open Client Library Stats

variable {F Text : Type} [Field F] [LinearOrder F] [FloorSemiring F] {sqrt : F → F}

omit [FloorSemiring F] in
/-- What is shown of a metric does not depend on the order of the runs. -/
theorem inMillis_summarize_congr {values values' : List F} (h : values.Perm values') :
    inMillis (summarize sqrt values) = inMillis (summarize sqrt values') := by
  have hmedian : Sample.median values = Sample.median values' := by
    rw [Sample.median, Sample.median, Sorted.mergeSort_congr h]
  have hmargin : margin sqrt values = margin sqrt values' := by
    rw [margin, margin, variance, variance, Sample.mean_perm h, Sample.deviation_perm _ h,
      h.length_eq]
  simp only [inMillis, summarize_median, summarize_ci95Low, summarize_ci95High, hmedian, hmargin,
    Sample.mean_perm h]

theorem p99s_congr {runs runs' : List (List BenchmarkRecord)} (h : runs.Perm runs') :
    (p99s sqrt runs).Perm (p99s sqrt runs') :=
  (h.filter _).map _

/-- If all runs have rows, all of them count. -/
theorem p99s_of_rows {runs : List (List BenchmarkRecord)} (h : ∀ rows ∈ runs, rows ≠ []) :
    p99s sqrt runs = runs.map fun rows =>
      ((computeSingleRun sqrt (countGlobal rows) rows).p99Us.toNat : F) := by
  rw [p99s, List.filter_eq_self.mpr]
  intro rows hrows
  simpa using h rows hrows

/-- The point of all the runs of a pair. -/
theorem measured_left {runs : Nat} {rows : Name → Name → Nat → List BenchmarkRecord}
    {base : BaseDir} (hleft : Suite.Left runs rows base) (hruns : 0 < runs) (x : F)
    {scenario : Name} (hscenario : scenario ∈ Suite.scenarios) {proto : String}
    (hproto : toLowercase proto ∈ Suite.protocols) :
    measured sqrt base x scenario proto =
      pointOf x proto (inMillis (summarize sqrt (p99s sqrt
        ((Suite.seq runs).map (rows scenario (toLowercase proto)))))) := by
  obtain ⟨e, he, rfl⟩ := hleft.scenario scenario hscenario
  obtain ⟨runFiles, hload, hperm⟩ := hleft.mapM_loadCsv he hproto
  have hpair : (e, toLowercase proto) ∈ base.pairs :=
    BaseDir.mem_pairs.mpr
      ⟨he, (Suite.mem_discoverProtocols_iff hruns (hleft.listing e he)).mpr hproto⟩
  have hshown := @inMillis_summarize_congr F _ _ sqrt _ _ (@p99s_congr F _ _ _ sqrt _ _ hperm)
  rw [measured, runsOf_pair hpair, hload]
  exact congrArg (pointOf x proto) hshown

omit [LinearOrder F] [FloorSemiring F] in
theorem Chart.mem_axes {chart : Chart} {a : F × Name × String} (ha : a ∈ chart.axes) :
    a.2.1 ∈ Suite.scenarios ∧ toLowercase a.2.2 ∈ Suite.protocols := by
  have hscenarios : ∀ y ∈ (chart.scenarios : List (F × Name)), y.2 ∈ Suite.scenarios := by
    cases chart <;>
      simp [Chart.scenarios, latencyScenarios, lossScenarios, scenarioScenarios, Suite.scenarios]
  have hprotocols : ∀ proto ∈ chart.protocols, toLowercase proto ∈ Suite.protocols := by
    cases chart <;> decide
  obtain ⟨y, hy, ha⟩ := List.mem_flatMap.mp ha
  obtain ⟨proto, hproto, rfl⟩ := List.mem_map.mp ha
  exact ⟨hscenarios y hy, hprotocols proto hproto⟩

/-- After a suite and a sweep that the file system lets write, the charts show the median and the
interval of the 99th percentiles of the runs with rows, for each scenario and protocol that they
name; these are all the runs where each of them has recorded something. -/
theorem suite_plotted [IsStrictOrderedRing F] (sqrt : F → F) (print : Json F → Text)
    (parse : Text → Option (Json F)) (reread : F → F) (hparse : Reparses print parse reread)
    (ε : F) (hprecise : Precise ε reread) (runs : Nat) (hruns : 0 < runs)
    (rows : Name → Name → Nat → List BenchmarkRecord) (base : BaseDir)
    (hleft : Suite.Left runs rows base) (write : Name → Except String Unit)
    (hwrite : ∀ out, write out = .ok ()) (chart : Chart) :
    ∃ output, processSweepDir sqrt (.ok ()) write base (fun _ => none) = .ok output ∧
      List.Forall₂
        (fun (x, scenario, proto) p =>
          let recorded := (Suite.seq runs).map (rows scenario (toLowercase proto))
          p.Near ε (pointOf x proto (inMillis (summarize sqrt (p99s sqrt recorded)))) ∧
            ((∀ run ∈ recorded, run ≠ []) → p99s sqrt recorded = recorded.map fun run =>
              ((computeSingleRun sqrt (countGlobal run) run).p99Us.toNat : F)))
        chart.axes (chart.data (aggregated print parse output)) := by
  have hplain : PlainProtocols base := fun x hx =>
    (Suite.plain_protocols x.2 (hleft.protocol hruns hx)).2
  obtain ⟨output, houtput⟩ :=
    @Suite.Left.sweep _ _ _ F _ _ _ sqrt hleft hruns _ hwrite fun _ => none
  have hstored := stored_processSweepDir sqrt (.ok ()) write base
  rw [houtput] at hstored
  have hown := (ownReports_iff houtput).mpr (distinctPaths_of_plain hplain)
  refine ⟨output, houtput, ?_⟩
  rw [Chart.data_map, List.forall₂_map_right_iff, List.forall₂_same]
  intro a ha
  obtain ⟨hscenario, hproto⟩ := Chart.mem_axes ha
  have hpoint := point_ownReports hparse hprecise hplain hstored hown a.1 a.2.1
    (Chart.plain_of_mem_axes ha)
  rw [measured_left hleft hruns a.1 hscenario hproto] at hpoint
  exact ⟨hpoint, p99s_of_rows⟩

theorem suite_plotted_twoRuns :
    ∃ output, processSweepDir Rat.sqrt (.ok ()) (fun _ => .ok ()) Suite.twoRuns (fun _ => none) =
        .ok output ∧
      List.Forall₂
        (fun (x, _, proto) p =>
          p.Near 0 (pointOf x proto
            (inMillis (summarize Rat.sqrt (p99s Rat.sqrt [mixedRows, mixedRows])))))
        Chart.scenario.axes
        (Chart.scenario.data
          (aggregated (fun j => j) (fun j => some (j.map fun x => x)) output)) := by
  obtain ⟨output, houtput, hpoints⟩ :=
    suite_plotted Rat.sqrt _ _ (fun x => x) reparses_id 0 precise_id 2 (by decide) _ Suite.twoRuns
      Suite.left_twoRuns (fun _ => .ok ()) (fun _ => rfl) .scenario
  exact ⟨output, houtput, hpoints.imp fun _ _ h => h.1⟩

end Plot
end GameSockets
