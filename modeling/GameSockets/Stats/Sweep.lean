/-
The sweep over a results directory, and which reports it leaves on disk.

The report of a pair of a scenario and a protocol goes in a file named after both.  The
names are joined with an underscore, which both of them may contain.
-/
import GameSockets.Library.Loop
import GameSockets.Stats.Agreement
import GameSockets.Stats.Discovery

namespace GameSockets
namespace Stats

open Client Library

/-- An entry of the results directory: what its listing gives, and what the loader makes of
each file in it. -/
structure Entry where
  name : Name
  isDir : Bool
  listing : List Name
  loadCsv : Name → Except String (List BenchmarkRecord)

/-- A results directory, in the order of its listing. -/
structure BaseDir where
  entries : List Entry
  nodup : (entries.map (·.name)).Nodup

def BaseDir.scenarios (base : BaseDir) : List Entry :=
  (base.entries.filter fun e => e.isDir && e.name ≠ "aggregated".toList).mergeSort
    fun e e' => e.name ≤ e'.name

/-- The name `{scenario}_{protocol}.json`. -/
def outFile (scenario protocol : Name) : Name :=
  scenario ++ '_' :: (protocol ++ ".json".toList)

/-- The reports in the output directory. -/
abbrev Output (F : Type) := Name → Option (AggregatedReport F)

section Sweep

variable {F : Type} [Field F] [LinearOrder F] [FloorSemiring F] (sqrt : F → F)

/-- `aggregate_runs` on the files of the pair. -/
def reportOf (scenario : Entry) (protocol : Name) : Except String (AggregatedReport F) := do
  let runFiles ← (findRunFiles scenario.listing protocol).mapM scenario.loadCsv
  return aggregateRuns sqrt (String.ofList scenario.name) (String.ofList protocol) runFiles

/-- One pass of the loop over the protocols.  An error comes with what is on disk then; a
write that fails leaves no report. -/
def processProtocol (write : Name → Except String Unit) (scenario : Entry) (output : Output F)
    (protocol : Name) : Except (String × Output F) (Output F) :=
  if (findRunFiles scenario.listing protocol).isEmpty then .ok output
  else
    match reportOf sqrt scenario protocol with
    | .error e => .error (e, output)
    | .ok report =>
      let out := outFile scenario.name protocol
      match write out with
      | .error e => .error (e, Function.update output out none)
      | .ok () => .ok (Function.update output out (some report))

def processScenario (write : Name → Except String Unit) (output : Output F) (scenario : Entry) :
    Except (String × Output F) (Output F) :=
  (discoverProtocols scenario.listing).foldlM (processProtocol sqrt write scenario) output

/-- `createDir` and `write` are the outcomes of the calls of the file system. -/
def processSweepDir (createDir : Except String Unit) (write : Name → Except String Unit)
    (base : BaseDir) (output : Output F) : Except (String × Output F) (Output F) :=
  match createDir with
  | .error e => .error (e, output)
  | .ok () => base.scenarios.foldlM (processScenario sqrt write) output

end Sweep

/-! ## Pairs and paths -/

/-- The pairs of a scenario and one of its protocols. -/
def BaseDir.pairs (base : BaseDir) : List (Entry × Name) :=
  base.scenarios.flatMap fun scenario => (discoverProtocols scenario.listing).map (scenario, ·)

/-- Different pairs have different paths. -/
def BaseDir.DistinctPaths (base : BaseDir) : Prop :=
  ∀ x ∈ base.pairs, ∀ y ∈ base.pairs,
    outFile x.1.name x.2 = outFile y.1.name y.2 → x.1.name = y.1.name ∧ x.2 = y.2

/-- Two scenarios `s` and `s_t` have the protocols `t_p` and `p`. -/
def BaseDir.Ambiguous (base : BaseDir) : Prop :=
  ∃ s ∈ base.scenarios, ∃ s' ∈ base.scenarios, ∃ t p,
    s'.name = s.name ++ '_' :: t ∧ t ++ '_' :: p ∈ discoverProtocols s.listing ∧
      p ∈ discoverProtocols s'.listing

theorem BaseDir.mem_pairs {base : BaseDir} {x : Entry × Name} :
    x ∈ base.pairs ↔ x.1 ∈ base.scenarios ∧ x.2 ∈ discoverProtocols x.1.listing := by
  rw [BaseDir.pairs, List.mem_flatMap]
  constructor
  · rintro ⟨scenario, hscenario, hx⟩
    obtain ⟨protocol, hprotocol, rfl⟩ := List.mem_map.mp hx
    exact ⟨hscenario, hprotocol⟩
  · rintro ⟨hscenario, hprotocol⟩
    exact ⟨x.1, hscenario, List.mem_map_of_mem hprotocol⟩

/-- A scenario is known by its name. -/
theorem BaseDir.scenario_inj {base : BaseDir} {s s' : Entry} (hs : s ∈ base.scenarios)
    (hs' : s' ∈ base.scenarios) (h : s.name = s'.name) : s = s' := by
  have hmem : ∀ e ∈ base.scenarios, e ∈ base.entries := fun e he =>
    (List.mem_filter.mp (List.mem_mergeSort.mp he)).1
  exact List.inj_on_of_nodup_map base.nodup (hmem s hs) (hmem s' hs') h

theorem outFile_eq_iff {scenario protocol scenario' protocol' : Name} :
    outFile scenario protocol = outFile scenario' protocol' ↔
      scenario ++ '_' :: protocol = scenario' ++ '_' :: protocol' := by
  have happend : ∀ a b : Name, outFile a b = (a ++ '_' :: b) ++ ".json".toList := by
    intro a b
    simp [outFile]
  rw [happend, happend, List.append_cancel_right_eq]

theorem distinctPaths_iff (base : BaseDir) : base.DistinctPaths ↔ ¬ base.Ambiguous := by
  constructor
  · rintro hdistinct ⟨s, hs, s', hs', t, p, hname, hp, hp'⟩
    have hpath : outFile s.name (t ++ '_' :: p) = outFile s'.name p := by
      rw [outFile_eq_iff, hname]
      simp
    have heq := (hdistinct (s, _) (BaseDir.mem_pairs.mpr ⟨hs, hp⟩) (s', p)
      (BaseDir.mem_pairs.mpr ⟨hs', hp'⟩) hpath).1
    rw [hname] at heq
    exact absurd heq (by simp)
  · intro hunambiguous x hx y hy hpath
    obtain ⟨hxs, hxp⟩ := BaseDir.mem_pairs.mp hx
    obtain ⟨hys, hyp⟩ := BaseDir.mem_pairs.mp hy
    rcases Separator.join_eq_join_iff.mp (outFile_eq_iff.mp hpath) with
      heq | ⟨t, hname, hprotocol⟩ | ⟨t, hname, hprotocol⟩
    · exact heq
    · exact absurd ⟨x.1, hxs, y.1, hys, t, y.2, hname, hprotocol ▸ hxp, hyp⟩ hunambiguous
    · exact absurd ⟨y.1, hys, x.1, hxs, t, x.2, hname, hprotocol ▸ hyp, hxp⟩ hunambiguous

/-! ## What a sweep leaves on disk -/

section Reports

variable {F : Type} [Field F] [LinearOrder F] [FloorSemiring F] (sqrt : F → F)

/-- Every pair has its report on disk. -/
def BaseDir.OwnReports (base : BaseDir) (output : Output F) : Prop :=
  ∀ x ∈ base.pairs, ∃ report, reportOf sqrt x.1 x.2 = .ok report ∧
    output (outFile x.1.name x.2) = some report

variable {sqrt}

/-- A report names its pair. -/
theorem reportOf_names {scenario : Entry} {protocol : Name} {report : AggregatedReport F}
    (h : reportOf sqrt scenario protocol = .ok report) :
    report.scenario = String.ofList scenario.name ∧ report.protocol = String.ofList protocol := by
  unfold reportOf at h
  cases hload : (findRunFiles scenario.listing protocol).mapM scenario.loadCsv with
  | error e =>
    rw [hload] at h
    cases h
  | ok runFiles =>
    rw [hload] at h
    cases h
    exact ⟨rfl, rfl⟩

theorem processProtocol_ok {write : Name → Except String Unit} {scenario : Entry}
    {protocol : Name} (hprotocol : protocol ∈ discoverProtocols scenario.listing)
    {output output' : Output F}
    (h : processProtocol sqrt write scenario output protocol = .ok output') :
    ∃ report, reportOf sqrt scenario protocol = .ok report ∧
      output' = Function.update output (outFile scenario.name protocol) (some report) := by
  have hfiles : ¬ (findRunFiles scenario.listing protocol).isEmpty = true := by
    rw [List.isEmpty_iff]
    exact findRunFiles_ne_nil (.refl _) hprotocol
  rw [processProtocol, if_neg hfiles] at h
  cases hreport : reportOf sqrt scenario protocol with
  | error e =>
    rw [hreport] at h
    cases h
  | ok report =>
    rw [hreport] at h
    dsimp only at h
    split at h
    · cases h
    · cases h
      exact ⟨report, rfl, rfl⟩

/-- A sweep is one loop over the pairs. -/
theorem processSweepDir_eq (write : Name → Except String Unit) (base : BaseDir)
    (output : Output F) :
    processSweepDir sqrt (.ok ()) write base output =
      base.pairs.foldlM (fun output x => processProtocol sqrt write x.1 output x.2) output :=
  Loop.foldlM_nested (fun scenario => processProtocol sqrt write scenario)
    (fun scenario => discoverProtocols scenario.listing) base.scenarios output

theorem ownReports_iff {createDir : Except String Unit} {write : Name → Except String Unit}
    {base : BaseDir} {output output' : Output F}
    (h : processSweepDir sqrt createDir write base output = .ok output') :
    base.OwnReports sqrt output' ↔ base.DistinctPaths := by
  have hcreate : createDir = .ok () := by
    cases createDir with
    | error e => cases h
    | ok u => rfl
  rw [hcreate, processSweepDir_eq] at h
  constructor
  · intro hown x hx y hy hpath
    obtain ⟨report, hreport, hx⟩ := hown x hx
    obtain ⟨report', hreport', hy⟩ := hown y hy
    rw [hpath, hy, Option.some.injEq] at hx
    subst hx
    have hnames := reportOf_names hreport
    rw [(reportOf_names hreport').1, (reportOf_names hreport').2] at hnames
    exact ⟨(String.ofList_inj.mp hnames.1).symm, (String.ofList_inj.mp hnames.2).symm⟩
  · intro hdistinct
    refine Loop.foldlM_update (fun x hx _ _ hpass =>
      processProtocol_ok (BaseDir.mem_pairs.mp hx).2 hpass) (fun x hx y hy hpath => ?_) h
    obtain ⟨hname, hprotocol⟩ := hdistinct x hx y hy hpath
    exact Prod.ext
      (BaseDir.scenario_inj (BaseDir.mem_pairs.mp hx).1 (BaseDir.mem_pairs.mp hy).1 hname)
      hprotocol

/-- A sweep succeeds when the file system lets it. -/
theorem processSweepDir_succeeds {base : BaseDir} {write : Name → Except String Unit}
    (hwrite : ∀ out, write out = .ok ())
    (hload : ∀ e ∈ base.scenarios, ∀ file ∈ e.listing, ∃ rows, e.loadCsv file = .ok rows)
    (output : Output F) :
    ∃ output', processSweepDir sqrt (.ok ()) write base output = .ok output' := by
  rw [processSweepDir_eq]
  refine Loop.exists_foldlM_ok (fun x hx before => ?_) output
  have hfiles : ∀ file ∈ findRunFiles x.1.listing x.2, ∃ rows, x.1.loadCsv file = .ok rows := by
    intro file hfile
    rw [findRunFiles, List.mem_mergeSort] at hfile
    exact hload x.1 (BaseDir.mem_pairs.mp hx).1 file (List.mem_filter.mp hfile).1
  obtain ⟨runFiles, hruns⟩ := Loop.exists_mapM_ok hfiles
  have hreport : ∃ report, reportOf sqrt x.1 x.2 = .ok report := by
    rw [reportOf, hruns]
    exact ⟨_, rfl⟩
  obtain ⟨report, hreport⟩ := hreport
  unfold processProtocol
  split
  · exact ⟨before, rfl⟩
  · rw [hreport]
    dsimp only
    rw [hwrite]
    exact ⟨_, rfl⟩

/-- The paths are distinct, and a sweep that succeeds leaves every pair its report, exactly
when no scenario is named after another one and the start of a protocol of that one. -/
theorem own_reports_iff (sqrt : F → F) (createDir : Except String Unit)
    (write : Name → Except String Unit) (base : BaseDir) (output : Output F) :
    (base.DistinctPaths ↔ ¬ base.Ambiguous) ∧
      ∀ output', processSweepDir sqrt createDir write base output = .ok output' →
        (base.OwnReports sqrt output' ↔ ¬ base.Ambiguous) :=
  ⟨distinctPaths_iff base, fun _ h => (ownReports_iff h).trans (distinctPaths_iff base)⟩

/-- A directory of one scenario, with the files of a directory that runs of two protocols
have left. -/
def plainDir : BaseDir :=
  { entries :=
      [{ name := "01_baseline".toList, isDir := true,
         listing := ["udp_run01.csv".toList, "quic.csv".toList],
         loadCsv := fun _ => .ok mixedRows }],
    nodup := by decide }

theorem own_reports_iff_plainDir :
    ∃ output, processSweepDir Rat.sqrt (.ok ()) (fun _ => .ok ()) plainDir (fun _ => none) =
        .ok output ∧ plainDir.OwnReports Rat.sqrt output := by
  have hmem : ∀ s ∈ plainDir.scenarios, s ∈ plainDir.entries := fun s hs =>
    (List.mem_filter.mp (List.mem_mergeSort.mp hs)).1
  have hload : ∀ e ∈ plainDir.scenarios, ∀ file ∈ e.listing,
      ∃ rows, e.loadCsv file = .ok rows := by
    intro e he file _
    rw [List.mem_singleton.mp (hmem e he)]
    exact ⟨mixedRows, rfl⟩
  have hplain : ¬ plainDir.Ambiguous := by
    rintro ⟨s, hs, s', hs', t, p, hname, -, -⟩
    rw [List.mem_singleton.mp (hmem s hs), List.mem_singleton.mp (hmem s' hs')] at hname
    exact absurd hname (by simp)
  obtain ⟨output, houtput⟩ :=
    @processSweepDir_succeeds ℚ _ _ _ Rat.sqrt plainDir _ (fun _ => rfl) hload fun _ => none
  exact ⟨output, houtput,
    ((own_reports_iff Rat.sqrt _ _ plainDir _).2 output houtput).mpr hplain⟩

/-- Two scenarios of which one goes on where the other's protocol begins. -/
def lanDir : BaseDir :=
  { entries :=
      [{ name := "01_baseline".toList, isDir := true, listing := ["lan_udp.csv".toList],
         loadCsv := fun _ => .ok mixedRows },
       { name := "01_baseline_lan".toList, isDir := true, listing := ["udp.csv".toList],
         loadCsv := fun _ => .ok mixedRows }],
    nodup := by decide }

theorem reports_lost_lanDir :
    ¬ lanDir.DistinctPaths ∧
      ∃ output, processSweepDir Rat.sqrt (.ok ()) (fun _ => .ok ()) lanDir (fun _ => none) =
          .ok output ∧ ¬ lanDir.OwnReports Rat.sqrt output := by
  have hmem : ∀ s ∈ lanDir.entries, s ∈ lanDir.scenarios := by
    intro s hs
    refine List.mem_mergeSort.mpr (List.mem_filter.mpr ⟨hs, ?_⟩)
    rcases List.mem_pair.mp hs with rfl | rfl
    · decide
    · decide
  have hload : ∀ e ∈ lanDir.scenarios, ∀ file ∈ e.listing,
      ∃ rows, e.loadCsv file = .ok rows := by
    intro e he file _
    have he := (List.mem_filter.mp (List.mem_mergeSort.mp he)).1
    rcases List.mem_pair.mp he with rfl | rfl
    · exact ⟨mixedRows, rfl⟩
    · exact ⟨mixedRows, rfl⟩
  have hclash : lanDir.Ambiguous :=
    ⟨_, hmem _ List.mem_cons_self, _, hmem _ (List.mem_cons_of_mem _ List.mem_cons_self),
      "lan".toList, "udp".toList, by decide,
      mem_discoverProtocols.mpr ⟨"lan_udp.csv".toList, by decide⟩,
      mem_discoverProtocols.mpr ⟨"udp.csv".toList, by decide⟩⟩
  have hpaths : ¬ lanDir.DistinctPaths := fun h => (distinctPaths_iff lanDir).mp h hclash
  obtain ⟨output, houtput⟩ :=
    @processSweepDir_succeeds ℚ _ _ _ Rat.sqrt lanDir _ (fun _ => rfl) hload fun _ => none
  exact ⟨hpaths, output, houtput, fun hown => hpaths ((ownReports_iff houtput).mp hown)⟩

end Reports

end Stats
end GameSockets
