/-
The reports for a filter, and the reports that a sweep leaves.

Both go over the scenarios and their protocols.  The sweep leaves out the directory that it
writes to and puts each report in a file, the filter goes over that directory too and prints
the reports in one list.
-/
import GameSockets.Stats.Sweep

namespace GameSockets
namespace Stats

open Library

def eqIgnoreAsciiCase (a b : Name) : Bool := a.map Char.toLower = b.map Char.toLower

/-- The directories of the results directory, in the order of their names. -/
def BaseDir.dirs (base : BaseDir) : List Entry :=
  (base.entries.filter (·.isDir)).mergeSort fun e e' : Entry => e.name ≤ e'.name

section Filtered

variable {F : Type} [Field F] [LinearOrder F] [FloorSemiring F] (sqrt : F → F)

def processFiltered (base : BaseDir) (scenario protocol : Option Name) :
    Except String (List (AggregatedReport F)) :=
  let scenarios : List Entry :=
    match scenario with
    | some s => base.dirs.filter fun e => s <:+: e.name
    | none => base.dirs
  scenarios.foldlM
    (fun allReports scenario =>
      let protocols := discoverProtocols scenario.listing
      let protocols : List Name :=
        match protocol with
        | some p => protocols.filter (eqIgnoreAsciiCase · p)
        | none => protocols
      protocols.foldlM
        (fun allReports proto =>
          if (findRunFiles scenario.listing proto).isEmpty then .ok allReports
          else do return allReports ++ [← reportOf sqrt scenario proto])
        allReports)
    []

/-- The pair is one of those that the filter is for. -/
def selected (scenario protocol : Option Name) (x : Entry × Name) : Bool :=
  (scenario.all fun s => s <:+: x.1.name) && protocol.all (eqIgnoreAsciiCase x.2)

variable {sqrt}

theorem BaseDir.scenarios_eq (base : BaseDir) :
    base.scenarios = base.dirs.filter fun e => e.name ≠ "aggregated".toList := by
  have hnodup : ((base.entries.filter (·.isDir)).map (·.name)).Nodup :=
    base.nodup.sublist ((List.filter_sublist).map _)
  have hfilter := Sorted.filter_mergeSort Entry.name (fun e => e.name ≠ "aggregated".toList) hnodup
  rw [BaseDir.dirs, hfilter, List.filter_filter, BaseDir.scenarios]
  simp only [Bool.and_comm]

/-- The pairs that a filter goes over, in its order. -/
def BaseDir.filteredPairs (base : BaseDir) (scenario protocol : Option Name) :
    List (Entry × Name) :=
  (base.dirs.filter fun e => scenario.all (· <:+: e.name)).flatMap fun e =>
    ((discoverProtocols e.listing).filter fun p => protocol.all (eqIgnoreAsciiCase p)).map (e, ·)

theorem processFiltered_eq (base : BaseDir) (scenario protocol : Option Name) :
    processFiltered sqrt base scenario protocol =
      (base.filteredPairs scenario protocol).mapM fun x => reportOf sqrt x.1 x.2 := by
  have hscenarios : (match scenario with
      | some s => base.dirs.filter fun e => s <:+: e.name
      | none => base.dirs) = base.dirs.filter fun e => scenario.all (· <:+: e.name) := by
    cases scenario with
    | none => simp
    | some s => rfl
  have hprotocols : ∀ protocols : List Name, (match protocol with
      | some p => protocols.filter (eqIgnoreAsciiCase · p)
      | none => protocols) = protocols.filter fun q => protocol.all (eqIgnoreAsciiCase q) := by
    intro protocols
    cases protocol with
    | none => simp
    | some p => rfl
  have hpass : ∀ x ∈ base.filteredPairs scenario protocol, ∀ allReports : List (AggregatedReport F),
      (if (findRunFiles x.1.listing x.2).isEmpty then .ok allReports
        else do return allReports ++ [← reportOf sqrt x.1 x.2]) =
      (do return allReports ++ [← reportOf sqrt x.1 x.2]) := by
    intro x hx allReports
    obtain ⟨e, -, hx⟩ := List.mem_flatMap.mp hx
    obtain ⟨p, hp, rfl⟩ := List.mem_map.mp hx
    have hfiles := findRunFiles_ne_nil (.refl _) (List.mem_filter.mp hp).1
    rw [if_neg (by simpa using hfiles)]
  unfold processFiltered
  dsimp only
  simp only [hscenarios, hprotocols]
  refine (Loop.foldlM_nested _ _ _ _).trans ?_
  refine (Loop.foldlM_congr hpass).trans ?_
  rw [Loop.foldlM_mapM]
  simp

/-- The filter goes over the pairs that it is for, and over nothing else when there are no results
files in the directory of the reports. -/
theorem filteredPairs_eq {base : BaseDir}
    (hagg : ∀ e ∈ base.entries, e.name = "aggregated".toList → discoverProtocols e.listing = [])
    (scenario protocol : Option Name) :
    base.filteredPairs scenario protocol = base.pairs.filter (selected scenario protocol) := by
  have hentry : ∀ e ∈ base.dirs, e ∈ base.entries := fun e he =>
    (List.mem_filter.mp (List.mem_mergeSort.mp he)).1
  have hselected : ∀ e : Entry, ((discoverProtocols e.listing).map (e, ·)).filter
      (selected scenario protocol) =
      if scenario.all (· <:+: e.name) then
        ((discoverProtocols e.listing).filter fun p => protocol.all (eqIgnoreAsciiCase p)).map
          (e, ·)
      else [] := by
    intro e
    rw [List.filter_map]
    cases hall : scenario.all (· <:+: e.name) with
    | true => simp [selected, hall, Function.comp_def]
    | false => simp [selected, hall, Function.comp_def]
  have hdirs : base.pairs =
      base.dirs.flatMap fun e => (discoverProtocols e.listing).map (e, ·) := by
    rw [BaseDir.pairs, BaseDir.scenarios_eq]
    refine Loop.flatMap_filter fun e he hname => ?_
    rw [hagg e (hentry e he) (not_not.mp (of_decide_eq_false hname)), List.map_nil]
  have hskip := @Loop.flatMap_filter _ _ (fun e : Entry => scenario.all (· <:+: e.name))
    (fun e => ((discoverProtocols e.listing).map (e, ·)).filter (selected scenario protocol))
    base.dirs fun e _ hnot => by rw [hselected, hnot, if_neg Bool.false_ne_true]
  rw [hdirs, List.filter_flatMap, ← hskip, BaseDir.filteredPairs]
  refine List.flatMap_congr fun e he => ?_
  rw [hselected, if_pos (List.mem_filter.mp he).2]

theorem mapM_reportOf {base : BaseDir} {output : Output F} (hown : base.OwnReports sqrt output)
    {l : List (Entry × Name)} (hl : ∀ x ∈ l, x ∈ base.pairs) :
    ∃ reports, (l.mapM fun x => reportOf sqrt x.1 x.2) = .ok reports ∧
      reports.map some = l.map fun x => output (outFile x.1.name x.2) := by
  induction l with
  | nil => exact ⟨[], rfl, rfl⟩
  | cons x l ih =>
    obtain ⟨report, hreport, hstored⟩ := hown x (hl x List.mem_cons_self)
    obtain ⟨reports, hreports, hall⟩ := ih fun y hy => hl y (List.mem_cons_of_mem x hy)
    refine ⟨report :: reports, ?_, ?_⟩
    · rw [List.mapM_cons, hreport, hreports]
      rfl
    · rw [List.map_cons, List.map_cons, hall, hstored]

/-- After a sweep that has succeeded, a filter prints the reports that are stored for the pairs it
is for, in the order of the pairs. -/
theorem filtered_of_sweep (sqrt : F → F) (createDir : Except String Unit)
    (write : Name → Except String Unit) (base : BaseDir) (hbase : ¬ base.Ambiguous)
    (hagg : ∀ e ∈ base.entries, e.name = "aggregated".toList → discoverProtocols e.listing = [])
    (before output : Output F)
    (hsweep : processSweepDir sqrt createDir write base before = .ok output)
    (scenario protocol : Option Name) :
    ∃ reports, processFiltered sqrt base scenario protocol = .ok reports ∧
      reports.map some =
        (base.pairs.filter (selected scenario protocol)).map fun x =>
          output (outFile x.1.name x.2) := by
  have hown := (ownReports_iff hsweep).mpr ((distinctPaths_iff base).mpr hbase)
  rw [processFiltered_eq, filteredPairs_eq hagg]
  exact mapM_reportOf hown fun x hx => (List.mem_filter.mp hx).1

end Filtered

theorem filtered_of_sweep_plainDir :
    ∃ output reports,
      processSweepDir Rat.sqrt (.ok ()) (fun _ => .ok ()) plainDir (fun _ => none) = .ok output ∧
        processFiltered Rat.sqrt plainDir none (some "UDP".toList) = .ok reports ∧
        reports.map some = (plainDir.pairs.filter (selected none (some "UDP".toList))).map fun x =>
          output (outFile x.1.name x.2) := by
  have hentry : ∀ e ∈ plainDir.scenarios, e ∈ plainDir.entries := fun e he =>
    (List.mem_filter.mp (List.mem_mergeSort.mp he)).1
  have hload : ∀ e ∈ plainDir.scenarios, ∀ file ∈ e.listing,
      ∃ rows, e.loadCsv file = .ok rows := by
    intro e he file _
    rw [List.mem_singleton.mp (hentry e he)]
    exact ⟨mixedRows, rfl⟩
  have hplain : ¬ plainDir.Ambiguous := by
    rintro ⟨s, hs, s', hs', t, p, hname, -, -⟩
    rw [List.mem_singleton.mp (hentry s hs), List.mem_singleton.mp (hentry s' hs')] at hname
    exact absurd hname (by simp)
  have hagg : ∀ e ∈ plainDir.entries, e.name = "aggregated".toList →
      discoverProtocols e.listing = [] := by
    intro e he hname
    rw [List.mem_singleton.mp he] at hname
    exact absurd hname (by decide)
  obtain ⟨output, houtput⟩ :=
    @processSweepDir_succeeds ℚ _ _ _ Rat.sqrt plainDir _ (fun _ => rfl) hload fun _ => none
  obtain ⟨reports, hreports, hall⟩ :=
    filtered_of_sweep Rat.sqrt (.ok ()) (fun _ => .ok ()) plainDir hplain hagg _ output houtput none
      (some "UDP".toList)
  exact ⟨output, reports, houtput, hreports, hall⟩

end Stats
end GameSockets
