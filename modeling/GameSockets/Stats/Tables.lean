/-
The two analyses as the source runs them: one pass that groups the rows in a table, a loop
over the sorted keys with running totals, and, across files, the tables of each run and the
table of what each stream is.

The order in which a table lists its keys is a parameter.  It does not matter, as the keys
are sorted, and the loops compute what `GameSockets.Stats` says without them.
-/
import GameSockets.Library.Grouping
import GameSockets.Library.Loop
import GameSockets.ZeroLoss

namespace GameSockets
namespace Stats
namespace Tables

open Client Library

abbrev HashMap (β : Type) := AList fun _ : UInt16 => β

section Loops

variable (keyOrder : List UInt16 → List UInt16)

/-- `keys().cloned().collect()`, and `sort()`. -/
def sortedKeys {β : Type} (table : HashMap β) : List UInt16 := (keyOrder table.keys).mergeSort

variable {F : Type} [Field F] [LinearOrder F] [FloorSemiring F] (sqrt : F → F)

/-- The running totals of a file. -/
structure Totals where
  globalSent : UInt64
  globalReceived : UInt64
  globalLost : UInt64

def Totals.zero : Totals := { globalSent := 0, globalReceived := 0, globalLost := 0 }

def Totals.add (t : Totals) (c : Counts) : Totals :=
  { globalSent := t.globalSent + c.sent,
    globalReceived := t.globalReceived + c.received,
    globalLost := t.globalLost + c.lost }

def Totals.counts (t : Totals) : Counts :=
  { sent := t.globalSent, received := t.globalReceived, lost := t.globalLost }

/-- One pass of the loop of `analyze_single_file`; `get(..).unwrap()` fails on a key that
the table does not have. -/
def analyzeStream (streams : HashMap (List BenchmarkRecord))
    (acc : Totals × List (LegacyStreamReport F)) (streamId : UInt16) :
    Option (Totals × List (LegacyStreamReport F)) :=
  (streams.lookup streamId).map fun streamRecords =>
    let maxId := (streamRecords.map (·.packetId)).max?.getD 0
    let received := UInt64.ofNat streamRecords.length
    let sent := if received > 0 then maxId + 1 else 0
    let lost := saturatingSub sent received
    let counts := { sent := sent, received := received, lost := lost }
    let index := streamId >>> 2
    let isOrdered := streamId &&& orderingMask != 0
    let isReliableFlag := streamId &&& reliabilityMask == reliabilityMask
    let typeLabel :=
      if isReliableFlag then "Reliable" else if isOrdered then "Ordered" else "Unreliable"
    let stats := computeSingleRun sqrt counts streamRecords
    (acc.1.add counts,
      acc.2 ++
        [{ streamId := streamId, streamIndex := index, streamType := typeLabel,
           stats := singleRunToLegacy stats }])

def analyzeSingleFile (records : List BenchmarkRecord) :
    Option (Except String (SingleFileReport F)) :=
  if records.isEmpty then some (.error "No records found.")
  else
    let streams := Grouping.group BenchmarkRecord.streamId records
    let streamIds := sortedKeys keyOrder streams
    (streamIds.foldlM (analyzeStream sqrt streams) (Totals.zero, [])).map fun acc =>
      let global := computeSingleRun sqrt acc.1.counts records
      .ok { global := singleRunToLegacy global, streams := acc.2 }

/-- What the loop over the streams of one file of `aggregate_runs` changes. -/
structure FileLoop (F : Type) where
  totals : Totals
  streamMeta : HashMap (UInt16 × String)
  runStreamStats : HashMap (SingleRunStats F)

/-- One pass of the loop of `aggregate_runs` over the streams of a file. -/
def aggregateStream (streams : HashMap (List BenchmarkRecord)) (acc : FileLoop F)
    (streamId : UInt16) : Option (FileLoop F) :=
  (streams.lookup streamId).map fun streamRecords =>
    let maxId := (streamRecords.map (·.packetId)).max?.getD 0
    let received := UInt64.ofNat streamRecords.length
    let sent := if received > 0 then maxId + 1 else 0
    let lost := saturatingSub sent received
    let counts := { sent := sent, received := received, lost := lost }
    let streamMeta :=
      if streamId ∈ acc.streamMeta then acc.streamMeta
      else
        let index := streamId >>> 2
        let isOrdered := streamId &&& orderingMask != 0
        let isReliableFlag := streamId &&& reliabilityMask == reliabilityMask
        let typeLabel :=
          if isReliableFlag then "Reliable" else if isOrdered then "Ordered" else "Unreliable"
        acc.streamMeta.insert streamId (index, typeLabel)
    let stats := computeSingleRun sqrt counts streamRecords
    { totals := acc.totals.add counts, streamMeta := streamMeta,
      runStreamStats := acc.runStreamStats.insert streamId stats }

/-- What the loop over the files changes. -/
structure RunsLoop (F : Type) where
  allRunStats : List (HashMap (SingleRunStats F))
  allGlobalStats : List (SingleRunStats F)
  streamMeta : HashMap (UInt16 × String)

/-- One pass of the loop over the files. -/
def aggregateFile (acc : RunsLoop F) (records : List BenchmarkRecord) : Option (RunsLoop F) :=
  if records.isEmpty then some acc
  else
    let streams := Grouping.group BenchmarkRecord.streamId records
    let streamIds := sortedKeys keyOrder streams
    let start : FileLoop F :=
      { totals := Totals.zero, streamMeta := acc.streamMeta, runStreamStats := ∅ }
    (streamIds.foldlM (aggregateStream sqrt streams) start).map fun file =>
      let global := computeSingleRun sqrt file.totals.counts records
      { allRunStats := acc.allRunStats ++ [file.runStreamStats],
        allGlobalStats := acc.allGlobalStats ++ [global],
        streamMeta := file.streamMeta }

/-- One pass of the loop over the streams of all runs. -/
def reportStream (runs : RunsLoop F) (reports : List (AggregatedStreamReport F))
    (streamId : UInt16) : Option (List (AggregatedStreamReport F)) :=
  (runs.streamMeta.lookup streamId).map fun (index, typeLabel) =>
    let perStreamRuns := runs.allRunStats.filterMap fun run => run.lookup streamId
    if perStreamRuns.isEmpty then reports
    else
      reports ++
        [{ streamId := streamId, streamIndex := index, streamType := typeLabel,
           stats := aggregateSingleRunRefs sqrt perStreamRuns }]

def aggregateRuns (scenario protocol : String) (runFiles : List (List BenchmarkRecord)) :
    Option (AggregatedReport F) := do
  let runs ← runFiles.foldlM (aggregateFile keyOrder sqrt)
    { allRunStats := [], allGlobalStats := [], streamMeta := ∅ }
  let globalAgg := aggregateSingleRunRefs sqrt runs.allGlobalStats
  let allStreamIds := sortedKeys keyOrder runs.streamMeta
  let streamReports ← allStreamIds.foldlM (reportStream sqrt runs) []
  some
    { scenario := scenario, protocol := protocol, numRuns := runFiles.length,
      global := globalAgg, streams := streamReports }

/-! ## What the loops compute -/

variable {keyOrder}

theorem sortedKeys_eq (horder : ∀ l, (keyOrder l).Perm l) {β : Type} {table : HashMap β}
    {l : List UInt16} (h : table.keys.Perm l) : sortedKeys keyOrder table = l.mergeSort := by
  have hperm : (sortedKeys keyOrder table).Perm l.mergeSort :=
    ((List.mergeSort_perm _ _).trans ((horder _).trans h)).trans (List.mergeSort_perm _ _).symm
  have hanti : ∀ a b : UInt16, a ∈ sortedKeys keyOrder table → b ∈ l.mergeSort → a ≤ b → b ≤ a →
      a = b := fun _ _ _ _ => UInt16.le_antisymm
  exact hperm.eq_of_pairwise hanti (List.pairwise_mergeSort' _ _) (List.pairwise_mergeSort' _ _)

theorem sortedKeys_group (horder : ∀ l, (keyOrder l).Perm l) (records : List BenchmarkRecord) :
    sortedKeys keyOrder (Grouping.group BenchmarkRecord.streamId records) = streamIds records :=
  sortedKeys_eq horder (Grouping.keys_group_perm _ _)

/-- The running totals are the sums. -/
theorem counts_foldl_add {α : Type} (f : α → Counts) (l : List α) (t : Totals) :
    (l.foldl (fun t x => t.add (f x)) t).counts =
      { sent := t.globalSent + ((l.map f).map (·.sent)).sum,
        received := t.globalReceived + ((l.map f).map (·.received)).sum,
        lost := t.globalLost + ((l.map f).map (·.lost)).sum } := by
  induction l generalizing t with
  | nil => simp [Totals.counts]
  | cons x l ih =>
    rw [List.foldl_cons, ih]
    simp [Totals.add, add_assoc]

theorem counts_totals (records : List BenchmarkRecord) :
    ((streamIds records).foldl
      (fun t id => t.add (countStream (streamRecords records id))) Totals.zero).counts =
      countGlobal records := by
  rw [counts_foldl_add]
  simp [Totals.zero, countGlobal]

theorem lookup_streams {records : List BenchmarkRecord} {id : UInt16}
    (h : id ∈ streamIds records) :
    (Grouping.group BenchmarkRecord.streamId records).lookup id =
      some (streamRecords records id) :=
  Grouping.lookup_group _ (mem_streamIds.mp h)

variable {sqrt}

/-- The loop over the streams of a file reports each of them once, in order. -/
theorem analyzeSingleFile_eq (horder : ∀ l, (keyOrder l).Perm l)
    (records : List BenchmarkRecord) :
    analyzeSingleFile keyOrder sqrt records = some (Stats.analyzeSingleFile sqrt records) := by
  unfold analyzeSingleFile Stats.analyzeSingleFile
  split
  · rfl
  · let report : UInt16 → LegacyStreamReport F := fun id =>
      let stream := streamRecords records id
      { streamId := id, streamIndex := streamIndex id, streamType := streamType id,
        stats := singleRunToLegacy (computeSingleRun sqrt (countStream stream) stream) }
    have hpass : ∀ id ∈ streamIds records, ∀ acc,
        analyzeStream sqrt (Grouping.group BenchmarkRecord.streamId records) acc id =
          some (acc.1.add (countStream (streamRecords records id)), acc.2 ++ [report id]) := by
      intro id hid acc
      rw [analyzeStream, lookup_streams hid]
      rfl
    have hpair := Loop.foldl_pair
      (fun (t : Totals) id => t.add (countStream (streamRecords records id)))
      (fun (acc : List (LegacyStreamReport F)) id => acc ++ [report id])
      (streamIds records) Totals.zero []
    dsimp only
    rw [sortedKeys_group horder, Loop.foldlM_eq_some hpass, hpair, Loop.foldl_append_singleton,
      Option.map_some, counts_totals, List.nil_append]

/-! ## The streams of one file, for the aggregation -/

/-- The table of what each stream is, with one more stream. -/
def noteStream (streamMeta : HashMap (UInt16 × String)) (id : UInt16) :
    HashMap (UInt16 × String) :=
  if id ∈ streamMeta then streamMeta else streamMeta.insert id (streamIndex id, streamType id)

/-- The table says of each stream what its id says. -/
def Labelled (streamMeta : HashMap (UInt16 × String)) : Prop :=
  ∀ id label, streamMeta.lookup id = some label → label = (streamIndex id, streamType id)

theorem labelled_noteStream {streamMeta : HashMap (UInt16 × String)} (h : Labelled streamMeta)
    (id : UInt16) : Labelled (noteStream streamMeta id) := by
  unfold noteStream
  split
  · exact h
  · intro id' label hlookup
    by_cases heq : id' = id
    · subst heq
      rw [AList.lookup_insert, Option.some.injEq] at hlookup
      exact hlookup.symm
    · rw [AList.lookup_insert_ne heq] at hlookup
      exact h id' label hlookup

theorem mem_noteStream {streamMeta : HashMap (UInt16 × String)} {id id' : UInt16} :
    id' ∈ noteStream streamMeta id ↔ id' = id ∨ id' ∈ streamMeta := by
  unfold noteStream
  split
  · next h => exact ⟨Or.inr, fun h' => h'.elim (fun heq => heq ▸ h) fun h' => h'⟩
  · exact AList.mem_insert _

theorem noteStreams_spec (ids : List UInt16) {streamMeta : HashMap (UInt16 × String)}
    (h : Labelled streamMeta) :
    Labelled (ids.foldl noteStream streamMeta) ∧
      ∀ id, id ∈ ids.foldl noteStream streamMeta ↔ id ∈ streamMeta ∨ id ∈ ids := by
  induction ids generalizing streamMeta with
  | nil => exact ⟨h, fun id => by simp⟩
  | cons id ids ih =>
    obtain ⟨hlabelled, hmem⟩ := ih (labelled_noteStream h id)
    refine ⟨hlabelled, fun id' => ?_⟩
    rw [List.foldl_cons, hmem, mem_noteStream, List.mem_cons]
    tauto

/-- A table with one entry for each key. -/
theorem lookup_foldl_insert {β : Type} (f : UInt16 → β) (ids : List UInt16) (table : HashMap β)
    (id : UInt16) :
    (ids.foldl (fun table id => table.insert id (f id)) table).lookup id =
      if id ∈ ids then some (f id) else table.lookup id := by
  induction ids generalizing table with
  | nil => rfl
  | cons id' ids ih =>
    rw [List.foldl_cons, ih]
    by_cases hmem : id ∈ ids
    · simp [hmem]
    · by_cases heq : id = id'
      · subst heq
        simp [hmem]
      · simp [hmem, heq, AList.lookup_insert_ne heq]

/-- The loop over the streams of a file, pass by pass. -/
theorem aggregateStreams_eq (records : List BenchmarkRecord) (acc : FileLoop F) :
    (streamIds records).foldlM
        (aggregateStream sqrt (Grouping.group BenchmarkRecord.streamId records)) acc =
      some
        { totals := (streamIds records).foldl
            (fun t id => t.add (countStream (streamRecords records id))) acc.totals,
          streamMeta := (streamIds records).foldl noteStream acc.streamMeta,
          runStreamStats := (streamIds records).foldl
            (fun table id => table.insert id
              (computeSingleRun sqrt (countStream (streamRecords records id))
                (streamRecords records id))) acc.runStreamStats } := by
  have hpass : ∀ id ∈ streamIds records, ∀ acc : FileLoop F,
      aggregateStream sqrt (Grouping.group BenchmarkRecord.streamId records) acc id =
        some
          { totals := acc.totals.add (countStream (streamRecords records id)),
            streamMeta := noteStream acc.streamMeta id,
            runStreamStats := acc.runStreamStats.insert id
              (computeSingleRun sqrt (countStream (streamRecords records id))
                (streamRecords records id)) } := by
    intro id hid acc
    rw [aggregateStream, lookup_streams hid]
    rfl
  rw [Loop.foldlM_eq_some hpass]
  congr 1
  generalize streamIds records = ids
  induction ids generalizing acc with
  | nil => rfl
  | cons id ids ih => exact ih _

/-! ## The files -/

/-- What the loop over the files has collected. -/
structure Collected (sqrt : F → F) (files : List (List BenchmarkRecord)) (acc : RunsLoop F) :
    Prop where
  streams : acc.allRunStats.map (fun table id => table.lookup id) =
    ((files.filter (!·.isEmpty)).map (computeRun sqrt)).map fun run id => run.streams.lookup id
  global : acc.allGlobalStats =
    ((files.filter (!·.isEmpty)).map (computeRun sqrt)).map RunStats.global
  labelled : Labelled acc.streamMeta
  known : ∀ id, id ∈ acc.streamMeta ↔ ∃ file ∈ files, id ∈ streamIds file

theorem collected_nil :
    Collected sqrt [] { allRunStats := [], allGlobalStats := [], streamMeta := ∅ } :=
  { streams := rfl, global := rfl, labelled := fun _ _ h => by simp at h,
    known := fun id => by simp }

theorem collected_append (horder : ∀ l, (keyOrder l).Perm l)
    {files : List (List BenchmarkRecord)} {acc : RunsLoop F} (h : Collected sqrt files acc)
    (records : List BenchmarkRecord) :
    ∃ acc', aggregateFile keyOrder sqrt acc records = some acc' ∧
      Collected sqrt (files ++ [records]) acc' := by
  by_cases hempty : records.isEmpty
  · refine ⟨acc, if_pos hempty, ?_⟩
    have hfilter : (files ++ [records]).filter (!·.isEmpty) = files.filter (!·.isEmpty) := by
      simp [List.filter_append, hempty]
    refine ⟨by rw [hfilter]; exact h.streams, by rw [hfilter]; exact h.global, h.labelled, ?_⟩
    intro id
    rw [List.isEmpty_iff] at hempty
    rw [h.known, hempty]
    simp [streamIds]
  · have hfilter : (files ++ [records]).filter (!·.isEmpty) =
        files.filter (!·.isEmpty) ++ [records] := by
      simp [List.filter_append, hempty]
    obtain ⟨hlabelled, hmem⟩ := noteStreams_spec (streamIds records) h.labelled
    let stats : UInt16 → SingleRunStats F := fun id =>
      computeSingleRun sqrt (countStream (streamRecords records id)) (streamRecords records id)
    let acc' : RunsLoop F :=
      { allRunStats := acc.allRunStats ++
          [(streamIds records).foldl (fun table id => table.insert id (stats id)) ∅],
        allGlobalStats :=
          acc.allGlobalStats ++ [computeSingleRun sqrt (countGlobal records) records],
        streamMeta := (streamIds records).foldl noteStream acc.streamMeta }
    refine ⟨acc', ?_, ?_, ?_, hlabelled, ?_⟩
    · rw [aggregateFile, if_neg hempty]
      dsimp only
      rw [sortedKeys_group horder, aggregateStreams_eq, Option.map_some, counts_totals]
    · rw [hfilter, List.map_append, List.map_append, List.map_append, h.streams]
      congr 1
      simp only [List.map_cons, List.map_nil, List.cons.injEq, and_true]
      funext id
      rw [lookup_foldl_insert, lookup_computeRun, AList.lookup_empty]
    · rw [hfilter, List.map_append, List.map_append, ← h.global]
      rfl
    · intro id
      rw [hmem, h.known]
      simp [or_and_right, exists_or]

theorem aggregateFiles_collected (horder : ∀ l, (keyOrder l).Perm l)
    (files : List (List BenchmarkRecord)) :
    ∃ acc, files.foldlM (aggregateFile keyOrder sqrt)
        { allRunStats := [], allGlobalStats := [], streamMeta := ∅ } = some acc ∧
      Collected sqrt files acc := by
  induction files using List.reverseRecOn with
  | nil => exact ⟨_, rfl, collected_nil⟩
  | append_singleton files records ih =>
    obtain ⟨acc, hloop, hacc⟩ := ih
    obtain ⟨acc', hpass, hacc'⟩ := collected_append horder hacc records
    refine ⟨acc', ?_, hacc'⟩
    rw [List.foldlM_append, hloop]
    simp [hpass]

/-- The keys of the table of streams, sorted, are the streams of all runs. -/
theorem sortedKeys_streamMeta (horder : ∀ l, (keyOrder l).Perm l)
    {files : List (List BenchmarkRecord)} {acc : RunsLoop F} (h : Collected sqrt files acc) :
    sortedKeys keyOrder acc.streamMeta =
      (((files.filter (!·.isEmpty)).map (computeRun sqrt)).flatMap
        fun run => run.streams.map (·.1)).dedup.mergeSort := by
  refine sortedKeys_eq horder ?_
  rw [List.perm_ext_iff_of_nodup acc.streamMeta.keys_nodup (List.nodup_dedup _)]
  intro id
  rw [← AList.mem_keys, h.known, List.mem_dedup, mem_runIds_iff]

/-- The loops over the files, and over the streams of all runs, report what the runs say. -/
theorem aggregateRuns_eq (horder : ∀ l, (keyOrder l).Perm l) (scenario protocol : String)
    (files : List (List BenchmarkRecord)) :
    aggregateRuns keyOrder sqrt scenario protocol files =
      some (Stats.aggregateRuns sqrt scenario protocol files) := by
  obtain ⟨acc, hloop, hacc⟩ := @aggregateFiles_collected keyOrder F _ _ _ sqrt horder files
  let report : UInt16 → Option (AggregatedStreamReport F) := fun id =>
    let perStreamRuns := ((files.filter (!·.isEmpty)).map (computeRun sqrt)).filterMap
      fun run => run.streams.lookup id
    if perStreamRuns.isEmpty then none
    else
      some
        { streamId := id, streamIndex := streamIndex id, streamType := streamType id,
          stats := aggregateSingleRunRefs sqrt perStreamRuns }
  have hpass : ∀ id ∈ sortedKeys keyOrder acc.streamMeta, ∀ reports,
      reportStream sqrt acc reports id = some (reports ++ (report id).toList) := by
    intro id hid reports
    have hmem : id ∈ acc.streamMeta := by
      rw [sortedKeys, List.mem_mergeSort, (horder _).mem_iff] at hid
      exact AList.mem_keys.mpr hid
    obtain ⟨label, hlabel⟩ := Option.isSome_iff_exists.mp (AList.lookup_isSome.mpr hmem)
    have hruns := congrArg (List.filterMap fun lookup => lookup id) hacc.streams
    rw [List.filterMap_map, List.filterMap_map] at hruns
    have hruns : (acc.allRunStats.filterMap fun table => table.lookup id) =
        ((files.filter (!·.isEmpty)).map (computeRun sqrt)).filterMap
          fun run => run.streams.lookup id := hruns
    rw [reportStream, hlabel, hacc.labelled id label hlabel, Option.map_some]
    dsimp only [report]
    rw [hruns]
    split
    · simp
    · simp
  unfold aggregateRuns Stats.aggregateRuns
  rw [hloop]
  simp only [Option.bind_eq_bind, Option.bind_some]
  rw [Loop.foldlM_eq_some hpass, Option.bind_some, Loop.foldl_append_toList,
    sortedKeys_streamMeta horder hacc, List.nil_append, hacc.global]

end Loops

end Tables
end Stats
end GameSockets
