/-
`run_full_suite.sh`: the results directory that the suite leaves.

A scenario has a directory, with a file for each run of each protocol in it.  The number of
a run is written with two digits, or more from 100 on.
-/
import GameSockets.Stats.Sweep

namespace GameSockets
namespace Suite

open Client Library Stats

def protocols : List Name := ["udp".toList, "tcp".toList, "quic".toList, "gns".toList]

def scenarios : List Name :=
  ["01_baseline".toList, "02_latency_10ms".toList, "03_latency_30ms".toList,
    "04_latency_50ms".toList, "05_loss_1p".toList, "06_loss_2p".toList, "07_loss_5p".toList,
    "08_full_fiber".toList, "09_full_good".toList, "10_full_bad".toList]

/-- The format `%02d`. -/
def padded (n : Nat) : Name :=
  if n < 10 then '0' :: Nat.toDigits 10 n else Nat.toDigits 10 n

/-- The numbers from 1 to the number of runs. -/
def seq (runs : Nat) : List Nat := (List.range runs).map (· + 1)

def outputFile (proto : Name) (run : Nat) : Name :=
  proto ++ runSeparator ++ padded run ++ ".csv".toList

/-- What `run_test_case` writes. -/
def scenarioFiles (runs : Nat) : List Name :=
  ["ping_validation.txt".toList, "config.txt".toList] ++
    protocols.flatMap fun proto => (seq runs).map (outputFile proto)

/-! ## Discovery -/

theorem rsplitFileAtDot_csv {stem : Name} (h : stem ≠ []) :
    rsplitFileAtDot (stem ++ ".csv".toList) = (some stem, some "csv".toList) := by
  have hdots : stem ++ ['.', 'c', 's', 'v'] ≠ ['.', '.'] := by
    intro heq
    have hlen := congrArg List.length heq
    simp at hlen
  simp [rsplitFileAtDot, hdots, h]

theorem isCsv_outputFile (proto : Name) (run : Nat) : isCsv (outputFile proto run) = true := by
  have hstem : proto ++ runSeparator ++ padded run ≠ [] := by simp [runSeparator]
  rw [isCsv, extension, outputFile, rsplitFileAtDot_csv hstem]
  rfl

theorem fileProtocol_outputFile {proto : Name} (h : ¬ runSeparator <:+: proto) (run : Nat) :
    fileProtocol (outputFile proto run) = proto := by
  have hstem : proto ++ runSeparator ++ padded run ≠ [] := by simp [runSeparator]
  have hfile : fileStem (outputFile proto run) = some (proto ++ runSeparator ++ padded run) := by
    rw [fileStem, outputFile, rsplitFileAtDot_csv hstem]
    rfl
  rw [fileProtocol, hfile]
  exact (protocolOf_eq_iff h _).mpr (Or.inr (List.prefix_append _ _))

theorem plain_protocols : ∀ proto ∈ protocols, ¬ runSeparator <:+: proto ∧ '_' ∉ proto := by
  decide

/-- The results files of a scenario are those of the runs. -/
theorem filter_isCsv (runs : Nat) :
    (scenarioFiles runs).filter isCsv =
      protocols.flatMap fun proto => (seq runs).map (outputFile proto) := by
  have htexts : ["ping_validation.txt".toList, "config.txt".toList].filter isCsv = [] := by decide
  have hcsv : ∀ file ∈ protocols.flatMap fun proto => (seq runs).map (outputFile proto),
      isCsv file = true := by
    intro file hfile
    obtain ⟨proto, -, hfile⟩ := List.mem_flatMap.mp hfile
    obtain ⟨run, -, rfl⟩ := List.mem_map.mp hfile
    exact isCsv_outputFile proto run
  rw [scenarioFiles, List.filter_append, htexts, List.nil_append]
  exact List.filter_eq_self.mpr hcsv

theorem seq_ne_nil {runs : Nat} (h : 0 < runs) : seq runs ≠ [] := by
  intro hnil
  have hlen := congrArg List.length hnil
  simp [seq] at hlen
  omega

theorem mem_discoverProtocols_iff {runs : Nat} (hruns : 0 < runs) {dir : List Name}
    (hdir : dir.Perm (scenarioFiles runs)) {proto : Name} :
    proto ∈ discoverProtocols dir ↔ proto ∈ protocols := by
  rw [mem_discoverProtocols]
  constructor
  · rintro ⟨file, hfile, rfl⟩
    rw [(hdir.filter isCsv).mem_iff, filter_isCsv] at hfile
    obtain ⟨proto, hproto, hfile⟩ := List.mem_flatMap.mp hfile
    obtain ⟨run, -, rfl⟩ := List.mem_map.mp hfile
    rwa [fileProtocol_outputFile (plain_protocols proto hproto).1]
  · intro hproto
    obtain ⟨run, hrun⟩ := List.exists_mem_of_ne_nil _ (seq_ne_nil hruns)
    refine ⟨outputFile proto run, ?_, fileProtocol_outputFile (plain_protocols proto hproto).1 run⟩
    rw [(hdir.filter isCsv).mem_iff, filter_isCsv]
    exact List.mem_flatMap.mpr ⟨proto, hproto, List.mem_map_of_mem hrun⟩

/-- The files of a protocol among those of all. -/
theorem filter_fileProtocol {proto : Name} (hproto : proto ∈ protocols) (numbers : List Nat) :
    (protocols.flatMap fun q => numbers.map (outputFile q)).filter (fileProtocol · = proto) =
      numbers.map (outputFile proto) := by
  have hother : ∀ q ∈ protocols, (numbers.map (outputFile q)).filter (fileProtocol · = proto) =
      if q = proto then numbers.map (outputFile proto) else [] := by
    intro q hq
    split
    · next heq =>
      subst heq
      refine List.filter_eq_self.mpr fun file hfile => ?_
      obtain ⟨run, -, rfl⟩ := List.mem_map.mp hfile
      exact decide_eq_true (fileProtocol_outputFile (plain_protocols q hq).1 run)
    · next hne =>
      refine List.filter_eq_nil_iff.mpr fun file hfile => ?_
      obtain ⟨run, -, rfl⟩ := List.mem_map.mp hfile
      rw [fileProtocol_outputFile (plain_protocols q hq).1, decide_eq_true_eq]
      exact hne
  rw [List.filter_flatMap, List.flatMap_congr hother]
  simp only [protocols, List.mem_cons, List.not_mem_nil, or_false] at hproto
  rcases hproto with rfl | rfl | rfl | rfl <;> simp [protocols]

theorem findRunFiles_suite {runs : Nat} {dir : List Name} (hdir : dir.Perm (scenarioFiles runs))
    {proto : Name} (hproto : proto ∈ protocols) :
    (findRunFiles dir proto).Perm ((seq runs).map (outputFile proto)) := by
  refine (findRunFiles_perm (plain_protocols proto hproto).1).trans ?_
  refine ((hdir.filter isCsv).filter _).trans (List.Perm.of_eq ?_)
  rw [filter_isCsv, filter_fileProtocol hproto]

/-! ## The order of the runs -/

theorem outputFile_succ : ∀ proto ∈ protocols, ∀ run < 99, 0 < run →
    outputFile proto run ≤ outputFile proto (run + 1) := by
  decide +kernel

theorem outputFile_mono {proto : Name} (hproto : proto ∈ protocols) {run run' : Nat}
    (hrun : 0 < run) (h : run ≤ run') (hlast : run' ≤ 99) :
    outputFile proto run ≤ outputFile proto run' := by
  induction run', h using Nat.le_induction with
  | base => exact le_refl _
  | succ run' hle ih =>
    exact (ih (by omega)).trans (outputFile_succ proto hproto run' (by omega) (by omega))

/-- The hundredth run comes before the eleventh. -/
theorem outputFile_hundred : ∀ proto ∈ protocols,
    ¬ outputFile proto 11 ≤ outputFile proto 100 := by
  decide +kernel

theorem pairwise_outputFile_iff {proto : Name} (hproto : proto ∈ protocols) (runs : Nat) :
    ((seq runs).map (outputFile proto)).Pairwise (· ≤ ·) ↔ runs ≤ 99 := by
  constructor
  · intro hsorted
    by_contra hmany
    have hlen : 99 < ((seq runs).map (outputFile proto)).length := by
      simp [seq]
      omega
    have hle := List.pairwise_iff_getElem.mp hsorted 10 99 (by omega) hlen (by decide)
    simp only [seq, List.getElem_map, List.getElem_range] at hle
    exact outputFile_hundred proto hproto hle
  · intro hfew
    rw [seq, List.map_map, List.pairwise_map]
    refine List.pairwise_lt_range.imp_of_mem fun {a b} _ hb hlt => ?_
    have hlast : b + 1 ≤ 99 := (List.mem_range.mp hb).trans_le hfew
    exact outputFile_mono hproto a.succ_pos (Nat.succ_le_succ hlt.le) hlast

theorem findRunFiles_eq_iff {runs : Nat} {dir : List Name} (hdir : dir.Perm (scenarioFiles runs))
    {proto : Name} (hproto : proto ∈ protocols) :
    findRunFiles dir proto = (seq runs).map (outputFile proto) ↔ runs ≤ 99 := by
  rw [← pairwise_outputFile_iff hproto runs]
  constructor
  · intro heq
    rw [← heq]
    exact Sorted.pairwise_mergeSort _
  · intro hsorted
    have hperm := findRunFiles_suite hdir hproto
    exact (Sorted.eq_mergeSort (hperm.symm.trans (List.mergeSort_perm _ _)) hsorted).symm

/-- In whatever order a scenario's directory is listed, its protocols are the four of the suite
and the files of each are those of its runs.  They come in the order of the runs up to 99 runs. -/
theorem suite_discovered (runs : Nat) (hruns : 0 < runs) (dir : List Name)
    (hdir : dir.Perm (scenarioFiles runs)) :
    (discoverProtocols dir).Perm protocols ∧
      ∀ proto ∈ protocols,
        (findRunFiles dir proto).Perm ((seq runs).map (outputFile proto)) ∧
          (findRunFiles dir proto = (seq runs).map (outputFile proto) ↔ runs ≤ 99) := by
  have hprotocols : (discoverProtocols dir).Perm protocols :=
    (List.perm_ext_iff_of_nodup (nodup_discoverProtocols dir) (by decide)).mpr fun _ =>
      mem_discoverProtocols_iff hruns hdir
  exact ⟨hprotocols, fun proto hproto =>
    ⟨findRunFiles_suite hdir hproto, findRunFiles_eq_iff hdir hproto⟩⟩

theorem suite_discovered_twoRuns :
    findRunFiles (scenarioFiles 2).reverse "quic".toList =
      ["quic_run01.csv".toList, "quic_run02.csv".toList] :=
  (((suite_discovered 2 (by decide) (scenarioFiles 2).reverse (List.reverse_perm _)).2
    "quic".toList (by decide)).2.mpr (by decide)).trans (by decide)

/-! ## The results of a suite -/

/-- A results directory in which the suite has recorded the rows. -/
structure Left (runs : Nat) (rows : Name → Name → Nat → List BenchmarkRecord) (base : BaseDir) :
    Prop where
  scenario : ∀ name ∈ scenarios, ∃ e ∈ base.scenarios, e.name = name
  listing : ∀ e ∈ base.scenarios, e.listing.Perm (scenarioFiles runs)
  loadCsv : ∀ e ∈ base.scenarios, ∀ proto ∈ protocols, ∀ run ∈ seq runs,
    e.loadCsv (outputFile proto run) = .ok (rows e.name proto run)

section Left

variable {runs : Nat} {rows : Name → Name → Nat → List BenchmarkRecord} {base : BaseDir}

theorem Left.protocol (h : Left runs rows base) (hruns : 0 < runs) {x : Entry × Name}
    (hx : x ∈ base.pairs) : x.2 ∈ protocols := by
  obtain ⟨hscenario, hprotocol⟩ := BaseDir.mem_pairs.mp hx
  exact (mem_discoverProtocols_iff hruns (h.listing x.1 hscenario)).mp hprotocol

/-- The rows of a pair are those of its runs, in the order of the names of their files. -/
theorem Left.mapM_loadCsv (h : Left runs rows base) {e : Entry} (he : e ∈ base.scenarios)
    {proto : Name} (hproto : proto ∈ protocols) :
    ∃ runFiles, (findRunFiles e.listing proto).mapM e.loadCsv = .ok runFiles ∧
      runFiles.Perm ((seq runs).map (rows e.name proto)) := by
  have hperm := findRunFiles_suite (h.listing e he) hproto
  let read (file : Name) : List BenchmarkRecord := (e.loadCsv file).toOption.getD []
  have hread : ∀ run ∈ seq runs, read (outputFile proto run) = rows e.name proto run := by
    intro run hrun
    simp only [read, h.loadCsv e he proto hproto run hrun]
    rfl
  refine ⟨(findRunFiles e.listing proto).map read, ?_, ?_⟩
  · refine Loop.mapM_eq_ok fun file hfile => ?_
    obtain ⟨run, hrun, rfl⟩ := List.mem_map.mp (hperm.mem_iff.mp hfile)
    rw [hread run hrun]
    exact h.loadCsv e he proto hproto run hrun
  · refine (hperm.map read).trans (List.Perm.of_eq ?_)
    rw [List.map_map]
    exact List.map_congr_left hread

variable {F : Type} [Field F] [LinearOrder F] [FloorSemiring F] {sqrt : F → F}

/-- Nothing but a write that fails stops the sweep. -/
theorem Left.sweep (h : Left runs rows base) (hruns : 0 < runs)
    {write : Name → Except String Unit} (hwrite : ∀ out, write out = .ok ()) (output : Output F) :
    ∃ output', processSweepDir sqrt (.ok ()) write base output = .ok output' := by
  rw [processSweepDir_eq]
  refine Loop.exists_foldlM_ok (fun x hx before => ?_) output
  obtain ⟨runFiles, hload, -⟩ :=
    h.mapM_loadCsv (BaseDir.mem_pairs.mp hx).1 (h.protocol hruns hx)
  have hreport : reportOf sqrt x.1 x.2 =
      .ok (aggregateRuns sqrt (String.ofList x.1.name) (String.ofList x.2) runFiles) := by
    rw [reportOf, hload]
    rfl
  unfold processProtocol
  split
  · exact ⟨before, rfl⟩
  · rw [hreport]
    dsimp only
    rw [hwrite]
    exact ⟨_, rfl⟩

end Left

/-- A scenario of two runs, with the same rows in each file. -/
def twoRunsOf (name : Name) : Entry :=
  { name := name, isDir := true, listing := (scenarioFiles 2).reverse,
    loadCsv := fun _ => .ok mixedRows }

def twoRuns : BaseDir where
  entries := scenarios.map twoRunsOf
  nodup := by decide

theorem left_twoRuns : Left 2 (fun _ _ _ => mixedRows) twoRuns := by
  have hscenarios : ∀ e, e ∈ twoRuns.scenarios ↔ ∃ name ∈ scenarios, twoRunsOf name = e := by
    intro e
    have hnames : ∀ name ∈ scenarios, name ≠ "aggregated".toList := by decide
    rw [BaseDir.scenarios, List.mem_mergeSort, List.mem_filter]
    constructor
    · exact fun he => List.mem_map.mp he.1
    · rintro ⟨name, hname, rfl⟩
      exact ⟨List.mem_map_of_mem hname, decide_eq_true (hnames name hname)⟩
  constructor
  · exact fun name hname => ⟨_, (hscenarios _).mpr ⟨name, hname, rfl⟩, rfl⟩
  · intro e he
    obtain ⟨name, -, rfl⟩ := (hscenarios e).mp he
    exact List.reverse_perm _
  · intro e he proto _ run _
    obtain ⟨name, -, rfl⟩ := (hscenarios e).mp he
    rfl

end Suite
end GameSockets
