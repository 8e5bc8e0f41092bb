/-
What stops the analyses: their sums, and nothing else.

The passes over the streams add up counters and stop at the first sum that does not fit.
The partial sums grow, so it is the totals over a file that decide.
-/
import GameSockets.Library.Loop
import GameSockets.Stats.Checked

namespace GameSockets
namespace Stats
namespace Checked

open Client Library

/-! ## The loop over the streams -/

section Streams

theorem countStream_eq_some_iff (mode : Words.Overflow) {rows : List BenchmarkRecord}
    (hne : rows ≠ []) (hlen : rows.length < UInt64.size) {c : Counts} :
    countStream mode rows = some c ↔ mode.Fits (sentTotal rows) ∧ Stats.countStream rows = c := by
  have hpos := received_pos hne hlen
  unfold countStream Stats.countStream
  dsimp only
  rw [if_pos hpos, if_pos hpos, Words.add_eq, Option.bind_eq_bind, Option.bind_eq_some_iff]
  simp only [Option.ite_none_right_eq_some, Option.some.injEq]
  constructor
  · rintro ⟨sent, ⟨hfits, rfl⟩, hc⟩
    exact ⟨hfits, hc⟩
  · rintro ⟨hfits, hc⟩
    exact ⟨_, ⟨hfits, rfl⟩, hc⟩

/-- The counters of a stream can be added to the running totals. -/
def TotalsFit (mode : Words.Overflow) (t : Tables.Totals) (c : Counts) : Prop :=
  mode.Fits (t.globalSent.toNat + c.sent.toNat) ∧
    mode.Fits (t.globalReceived.toNat + c.received.toNat) ∧
      mode.Fits (t.globalLost.toNat + c.lost.toNat)

theorem addTotals_eq_some_iff (mode : Words.Overflow) {t t' : Tables.Totals} {c : Counts} :
    addTotals mode t c = some t' ↔ TotalsFit mode t c ∧ t.add c = t' := by
  unfold addTotals TotalsFit
  simp only [Words.add_eq, Option.bind_eq_bind, Option.bind_eq_some_iff,
    Option.ite_none_right_eq_some, Option.some.injEq]
  constructor
  · rintro ⟨_, ⟨hsent, rfl⟩, _, ⟨hreceived, rfl⟩, _, ⟨hlost, rfl⟩, ht⟩
    exact ⟨⟨hsent, hreceived, hlost⟩, ht⟩
  · rintro ⟨⟨hsent, hreceived, hlost⟩, ht⟩
    exact ⟨_, ⟨hsent, rfl⟩, _, ⟨hreceived, rfl⟩, _, ⟨hlost, rfl⟩, ht⟩

/-- What a pass over a stream adds, fits. -/
def PassFits (mode : Words.Overflow) (t : Tables.Totals) (rows : List BenchmarkRecord) : Prop :=
  mode.Fits (sentTotal rows) ∧ TotalsFit mode t (Stats.countStream rows) ∧ RowsFit mode rows

/-- The running totals after a pass whose sum of packets sent fits. -/
theorem totals_add_countStream {rows : List BenchmarkRecord} (hne : rows ≠ []) {t : Tables.Totals}
    (hreceived : t.globalReceived.toNat + rows.length < UInt64.size)
    (hle : t.globalLost.toNat ≤ t.globalSent.toNat)
    (htotal : t.globalSent.toNat + sentTotal rows < UInt64.size) :
    TotalsFit .panics t (Stats.countStream rows) ∧
      (t.add (Stats.countStream rows)).globalSent.toNat = t.globalSent.toNat + sentTotal rows ∧
      (t.add (Stats.countStream rows)).globalReceived.toNat =
        t.globalReceived.toNat + rows.length ∧
      (t.add (Stats.countStream rows)).globalLost.toNat ≤
        (t.add (Stats.countStream rows)).globalSent.toNat := by
  have hrows : rows.length < UInt64.size := by omega
  have hsent : sentTotal rows < UInt64.size := by omega
  have hcr := toNat_countStream_received hrows
  have hcs := toNat_countStream_sent hne hrows hsent
  have hcl := toNat_countStream_lost_eq hne hrows hsent
  have hfit : TotalsFit .panics t (Stats.countStream rows) := by
    rw [TotalsFit, Words.fits_panics, Words.fits_panics, Words.fits_panics, hcs, hcr, hcl]
    omega
  have hs : (t.add (Stats.countStream rows)).globalSent.toNat =
      t.globalSent.toNat + sentTotal rows := by
    rw [← hcs]
    exact Words.toNat_add_of_lt hfit.1
  have hr : (t.add (Stats.countStream rows)).globalReceived.toNat =
      t.globalReceived.toNat + rows.length := by
    rw [← hcr]
    exact Words.toNat_add_of_lt hfit.2.1
  have hl : (t.add (Stats.countStream rows)).globalLost.toNat =
      t.globalLost.toNat + (sentTotal rows - rows.length) := by
    rw [← hcl]
    exact Words.toNat_add_of_lt hfit.2.2
  exact ⟨hfit, hs, hr, by omega⟩

variable {records : List BenchmarkRecord}

/-- What the loop over the streams adds, fits when the sum of what they sent does. -/
theorem along_panics (hlen : records.length < UInt64.size) {ids : List UInt16}
    (hids : ∀ id ∈ ids, id ∈ streamIds records) {t : Tables.Totals}
    (hreceived : t.globalReceived.toNat +
      (ids.map fun id => (streamRecords records id).length).sum < UInt64.size)
    (hle : t.globalLost.toNat ≤ t.globalSent.toNat) :
    Loop.Along (fun t id => PassFits .panics t (streamRecords records id))
        (fun t id => t.add (Stats.countStream (streamRecords records id))) t ids ↔
      t.globalSent.toNat + (ids.map fun id => sentTotal (streamRecords records id)).sum <
          UInt64.size ∧
        ∀ id ∈ ids, RowsFit .panics (streamRecords records id) := by
  induction ids generalizing t with
  | nil => simp [Loop.Along, UInt64.toNat_lt_size]
  | cons id ids ih =>
    obtain ⟨hid, hids⟩ := List.forall_mem_cons.mp hids
    have hne := streamRecords_ne_nil hid
    have hrows : (streamRecords records id).length < UInt64.size :=
      Nat.lt_of_le_of_lt (List.length_filter_le _ _) hlen
    rw [List.map_cons, List.sum_cons] at hreceived ⊢
    rw [Loop.Along, List.forall_mem_cons]
    have hnow := @totals_add_countStream _ hne t (by omega) hle
    constructor
    · rintro ⟨⟨hsent, htotals, hfit⟩, hrest⟩
      have htotal := htotals.1
      rw [Words.fits_panics, toNat_countStream_sent hne hrows hsent] at htotal
      obtain ⟨-, hs, hr, hl⟩ := hnow htotal
      obtain ⟨hsum, hall⟩ := (ih hids (by omega) hl).mp hrest
      exact ⟨by omega, hfit, hall⟩
    · rintro ⟨hsum, hfit, hall⟩
      obtain ⟨htotals, hs, hr, hl⟩ := hnow (by omega)
      refine ⟨⟨?_, htotals, hfit⟩, (ih hids (by omega) hl).mpr ⟨by omega, hall⟩⟩
      rw [Words.fits_panics]
      omega

/-- What both analyses add up over a file, fits. -/
def FileFits (mode : Words.Overflow) (records : List BenchmarkRecord) : Prop :=
  mode.Fits ((streamIds records).map fun id => sentTotal (streamRecords records id)).sum ∧
    RowsFit mode records

theorem fileFits_nil (mode : Words.Overflow) : FileFits mode [] := by
  have hzero : mode.Fits 0 := Words.fits_of_lt mode (by decide)
  exact ⟨by simpa [streamIds] using hzero, hzero, hzero⟩

theorem rowsFit_stream {mode : Words.Overflow} (h : RowsFit mode records) {id : UInt16}
    (hid : id ∈ streamIds records) : RowsFit mode (streamRecords records id) :=
  ⟨Words.fits_mono (total_stream_le _ hid) h.1, Words.fits_mono (total_stream_le _ hid) h.2⟩

theorem along_and_rowsFit_iff (mode : Words.Overflow) (hlen : records.length < UInt64.size) :
    Loop.Along (fun t id => PassFits mode t (streamRecords records id))
        (fun t id => t.add (Stats.countStream (streamRecords records id))) Tables.Totals.zero
        (streamIds records) ∧ RowsFit mode records ↔
      FileFits mode records := by
  cases mode with
  | panics =>
    have hstart := @along_panics records hlen (streamIds records) (fun _ hid => hid)
      Tables.Totals.zero (by simpa [Tables.Totals.zero, sum_length_streams] using hlen)
      (Nat.le_refl _)
    rw [hstart, FileFits, Words.fits_panics]
    constructor
    · rintro ⟨⟨hsum, -⟩, hrows⟩
      exact ⟨by simpa [Tables.Totals.zero] using hsum, hrows⟩
    · rintro ⟨hsum, hrows⟩
      exact ⟨⟨by simpa [Tables.Totals.zero] using hsum, fun id hid => rowsFit_stream hrows hid⟩,
        hrows⟩
  | wraps =>
    have hall : ∀ (ids : List UInt16) (t : Tables.Totals),
        Loop.Along (fun t id => PassFits .wraps t (streamRecords records id))
          (fun t id => t.add (Stats.countStream (streamRecords records id))) t ids := by
      intro ids
      induction ids with
      | nil => exact fun _ => trivial
      | cons id ids ih =>
        exact fun t => ⟨⟨trivial, ⟨trivial, trivial, trivial⟩, trivial, trivial⟩, ih _⟩
    exact ⟨fun h => ⟨trivial, h.2⟩, fun h => ⟨hall _ _, h.2⟩⟩

end Streams

/-! ## The analyses -/

section Analyses

variable {F : Type} [Field F] [LinearOrder F] [IsStrictOrderedRing F] [FloorSemiring F]
  {mode : Words.Overflow} {sqrt : F → F} {records : List BenchmarkRecord}

theorem streamPass_eq_some_iff {rows : List BenchmarkRecord} (hne : rows ≠ [])
    (hlen : rows.length < UInt64.size) {t : Tables.Totals} {r : Tables.Totals × SingleRunStats F} :
    streamPass mode sqrt t rows = some r ↔
      PassFits mode t rows ∧
        (t.add (Stats.countStream rows),
          Stats.computeSingleRun sqrt (Stats.countStream rows) rows) = r := by
  have hreceived : rows ≠ [] → (Stats.countStream rows).received > 0 :=
    fun hne => received_pos hne hlen
  unfold streamPass
  simp only [Option.bind_eq_bind, Option.bind_eq_some_iff, countStream_eq_some_iff mode hne hlen,
    addTotals_eq_some_iff]
  constructor
  · rintro ⟨_, ⟨hsent, rfl⟩, _, ⟨htotals, rfl⟩, _, hstats, hr⟩
    obtain ⟨hrows, rfl⟩ := (computeSingleRun_eq_some_iff mode sqrt hreceived).mp hstats
    exact ⟨⟨hsent, htotals, hrows⟩, Option.some.inj hr⟩
  · rintro ⟨⟨hsent, htotals, hrows⟩, rfl⟩
    exact ⟨_, ⟨hsent, rfl⟩, _, ⟨htotals, rfl⟩, _,
      (computeSingleRun_eq_some_iff mode sqrt hreceived).mpr ⟨hrows, rfl⟩, rfl⟩

/-- A pass over a stream that is in the table. -/
theorem streamPass_of_mem (hlen : records.length < UInt64.size) {id : UInt16}
    (hid : id ∈ streamIds records) {t : Tables.Totals} {r : Tables.Totals × SingleRunStats F} :
    streamPass mode sqrt t (streamRecords records id) = some r ↔
      PassFits mode t (streamRecords records id) ∧
        (t.add (Stats.countStream (streamRecords records id)),
          Stats.computeSingleRun sqrt (Stats.countStream (streamRecords records id))
            (streamRecords records id)) = r :=
  streamPass_eq_some_iff (streamRecords_ne_nil hid)
    (Nat.lt_of_le_of_lt (List.length_filter_le _ _) hlen)

/-- What a pass of the analysis of one file adds to the reports. -/
def passReport (sqrt : F → F) (records : List BenchmarkRecord) (id : UInt16) :
    LegacyStreamReport F :=
  { streamId := id, streamIndex := streamIndex id, streamType := streamType id,
    stats := singleRunToLegacy
      (Stats.computeSingleRun sqrt (Stats.countStream (streamRecords records id))
        (streamRecords records id)) }

theorem analyzeStream_eq_some_iff (hlen : records.length < UInt64.size) {id : UInt16}
    (hid : id ∈ streamIds records) {acc r : Tables.Totals × List (LegacyStreamReport F)} :
    analyzeStream mode sqrt (Grouping.group BenchmarkRecord.streamId records) acc id = some r ↔
      PassFits mode acc.1 (streamRecords records id) ∧
        (acc.1.add (Stats.countStream (streamRecords records id)),
          acc.2 ++ [passReport sqrt records id]) = r := by
  rw [analyzeStream, Tables.lookup_streams hid, Option.bind_eq_bind, Option.bind_some,
    Option.bind_eq_bind, Option.bind_eq_some_iff]
  constructor
  · rintro ⟨_, hpass, hr⟩
    obtain ⟨hfits, rfl⟩ := (streamPass_of_mem hlen hid).mp hpass
    exact ⟨hfits, Option.some.inj hr⟩
  · rintro ⟨hfits, rfl⟩
    exact ⟨_, (streamPass_of_mem hlen hid).mpr ⟨hfits, rfl⟩, rfl⟩

/-- The figures of the file itself. -/
theorem computeGlobal_eq_some_iff (hlen : records.length < UInt64.size)
    {stats : SingleRunStats F} :
    computeSingleRun mode sqrt (countGlobal records) records = some stats ↔
      RowsFit mode records ∧
        Stats.computeSingleRun sqrt (countGlobal records) records = stats := by
  refine computeSingleRun_eq_some_iff mode sqrt fun hne => ?_
  rw [gt_iff_lt, UInt64.lt_iff_toNat_lt, toNat_countGlobal_received hlen]
  exact List.length_pos_iff.mpr hne

/-- The analysis of a file succeeds exactly when its sums fit, and then says what it says
without the checks. -/
theorem analyzeSingleFile_eq_some_iff {keyOrder : List UInt16 → List UInt16}
    (horder : ∀ l, (keyOrder l).Perm l) (hlen : records.length < UInt64.size)
    {result : Except String (SingleFileReport F)} :
    analyzeSingleFile mode sqrt keyOrder records = some result ↔
      FileFits mode records ∧ Stats.analyzeSingleFile sqrt records = result := by
  by_cases hne : records = []
  · subst hne
    rw [and_iff_right (fileFits_nil mode)]
    exact Option.some_inj
  · have hloop := @Loop.foldlM_eq_some_iff _ _ _ _ _ (streamIds records)
      (fun id hid acc r => @analyzeStream_eq_some_iff F _ _ _ _ mode sqrt records hlen id hid acc r)
      (Tables.Totals.zero, [])
    have hproj := Loop.along_proj
      (p := fun (acc : Tables.Totals × List (LegacyStreamReport F)) id =>
        PassFits mode acc.1 (streamRecords records id))
      (g := fun acc id => (acc.1.add (Stats.countStream (streamRecords records id)),
        acc.2 ++ [passReport sqrt records id]))
      (q := fun t id => PassFits mode t (streamRecords records id))
      (h := fun t id => t.add (Stats.countStream (streamRecords records id)))
      Prod.fst (fun _ _ => Iff.rfl) (fun _ _ => rfl) (streamIds records) (Tables.Totals.zero, [])
    have hfold := Loop.foldl_pair
      (fun (t : Tables.Totals) id => t.add (Stats.countStream (streamRecords records id)))
      (fun (acc : List (LegacyStreamReport F)) id => acc ++ [passReport sqrt records id])
      (streamIds records) Tables.Totals.zero []
    rw [Loop.foldl_append_singleton, List.nil_append] at hfold
    rw [analyzeSingleFile, if_neg (by simpa using hne)]
    dsimp only
    rw [Tables.sortedKeys_group horder, ← along_and_rowsFit_iff mode hlen,
      analyzeSingleFile_of_ne_nil hne, Option.bind_eq_bind, Option.bind_eq_some_iff]
    constructor
    · rintro ⟨_, hrun, hrest⟩
      obtain ⟨halong, rfl⟩ := hloop.mp hrun
      rw [hfold] at hrest
      dsimp only at hrest
      rw [Tables.counts_totals, Option.bind_eq_bind, Option.bind_eq_some_iff] at hrest
      obtain ⟨_, hglobal, hresult⟩ := hrest
      obtain ⟨hrows, rfl⟩ := (computeGlobal_eq_some_iff hlen).mp hglobal
      exact ⟨⟨hproj.mp halong, hrows⟩, Option.some.inj hresult⟩
    · rintro ⟨⟨halong, hrows⟩, rfl⟩
      refine ⟨_, hloop.mpr ⟨hproj.mpr halong, rfl⟩, ?_⟩
      rw [hfold]
      dsimp only
      rw [Tables.counts_totals, Option.bind_eq_bind,
        (computeGlobal_eq_some_iff hlen).mpr ⟨hrows, rfl⟩]
      rfl

/-- What a pass of the aggregation changes. -/
def passFile (sqrt : F → F) (records : List BenchmarkRecord) (acc : Tables.FileLoop F)
    (id : UInt16) : Tables.FileLoop F :=
  { totals := acc.totals.add (Stats.countStream (streamRecords records id)),
    streamMeta :=
      if id ∈ acc.streamMeta then acc.streamMeta
      else acc.streamMeta.insert id (streamIndex id, streamType id),
    runStreamStats := acc.runStreamStats.insert id
      (Stats.computeSingleRun sqrt (Stats.countStream (streamRecords records id))
        (streamRecords records id)) }

theorem aggregateStream_eq_some_iff (hlen : records.length < UInt64.size) {id : UInt16}
    (hid : id ∈ streamIds records) {acc r : Tables.FileLoop F} :
    aggregateStream mode sqrt (Grouping.group BenchmarkRecord.streamId records) acc id = some r ↔
      PassFits mode acc.totals (streamRecords records id) ∧ passFile sqrt records acc id = r := by
  rw [aggregateStream, Tables.lookup_streams hid, Option.bind_eq_bind, Option.bind_some,
    Option.bind_eq_bind, Option.bind_eq_some_iff]
  constructor
  · rintro ⟨_, hpass, hr⟩
    obtain ⟨hfits, rfl⟩ := (streamPass_of_mem hlen hid).mp hpass
    exact ⟨hfits, Option.some.inj hr⟩
  · rintro ⟨hfits, rfl⟩
    exact ⟨_, (streamPass_of_mem hlen hid).mpr ⟨hfits, rfl⟩, rfl⟩

theorem aggregateFile_eq_some_iff {keyOrder : List UInt16 → List UInt16}
    (horder : ∀ l, (keyOrder l).Perm l) (hlen : records.length < UInt64.size)
    {acc r : Tables.RunsLoop F} :
    aggregateFile mode sqrt keyOrder acc records = some r ↔
      FileFits mode records ∧ Tables.aggregateFile keyOrder sqrt acc records = some r := by
  by_cases hne : records = []
  · subst hne
    rw [and_iff_right (fileFits_nil mode)]
    rfl
  · let start : Tables.FileLoop F :=
      { totals := .zero, streamMeta := acc.streamMeta, runStreamStats := ∅ }
    have hloop := @Loop.foldlM_eq_some_iff _ _ _ _ _ (streamIds records)
      (fun id hid acc r =>
        @aggregateStream_eq_some_iff F _ _ _ _ mode sqrt records hlen id hid acc r) start
    have hproj := Loop.along_proj
      (p := fun (acc : Tables.FileLoop F) id =>
        PassFits mode acc.totals (streamRecords records id))
      (g := passFile sqrt records) (q := fun t id => PassFits mode t (streamRecords records id))
      (h := fun t id => t.add (Stats.countStream (streamRecords records id)))
      Tables.FileLoop.totals (fun _ _ => Iff.rfl) (fun _ _ => rfl) (streamIds records) start
    -- the same loop without the checks
    have hplain : (streamIds records).foldlM
        (Tables.aggregateStream sqrt (Grouping.group BenchmarkRecord.streamId records)) start =
          some ((streamIds records).foldl (passFile sqrt records) start) := by
      refine Loop.foldlM_eq_some (fun id hid acc => ?_) start
      rw [Tables.aggregateStream, Tables.lookup_streams hid]
      rfl
    have htotals : ((streamIds records).foldl (passFile sqrt records) start).totals.counts =
        countGlobal records := by
      rw [← Tables.counts_totals]
      exact congrArg Tables.Totals.counts
        (List.foldl_hom Tables.FileLoop.totals fun _ _ => rfl).symm
    rw [aggregateFile, Tables.aggregateFile, if_neg (by simpa using hne),
      if_neg (by simpa using hne)]
    dsimp only
    rw [Tables.sortedKeys_group horder, ← along_and_rowsFit_iff mode hlen, hplain,
      Option.map_some, htotals, Option.bind_eq_bind, Option.bind_eq_some_iff, Option.some.injEq]
    constructor
    · rintro ⟨_, hrun, hrest⟩
      obtain ⟨halong, rfl⟩ := hloop.mp hrun
      rw [htotals, Option.bind_eq_bind, Option.bind_eq_some_iff] at hrest
      obtain ⟨_, hglobal, hresult⟩ := hrest
      obtain ⟨hrows, rfl⟩ := (computeGlobal_eq_some_iff hlen).mp hglobal
      exact ⟨⟨hproj.mp halong, hrows⟩, Option.some.inj hresult⟩
    · rintro ⟨⟨halong, hrows⟩, rfl⟩
      refine ⟨_, hloop.mpr ⟨hproj.mpr halong, rfl⟩, ?_⟩
      rw [htotals, (computeGlobal_eq_some_iff hlen).mpr ⟨hrows, rfl⟩]
      rfl

/-- The aggregation succeeds exactly when the sums over each file fit, and then says what it
says without the checks. -/
theorem aggregateRuns_eq_some_iff {keyOrder : List UInt16 → List UInt16}
    (horder : ∀ l, (keyOrder l).Perm l) (hsqrt : ∀ x, 0 < x → 0 < sqrt x)
    {scenario protocol : String} {files : List (List BenchmarkRecord)}
    (hlen : ∀ file ∈ files, file.length < UInt64.size) {report : AggregatedReport F} :
    aggregateRuns mode sqrt keyOrder scenario protocol files = some report ↔
      (∀ file ∈ files, FileFits mode file) ∧
        Stats.aggregateRuns sqrt scenario protocol files = report := by
  have hloop := @Loop.foldlM_checked_iff _ _ _ _ _ files
    (fun file hfile acc r =>
      @aggregateFile_eq_some_iff F _ _ _ _ mode sqrt file keyOrder horder (hlen file hfile) acc r)
    { allRunStats := [], allGlobalStats := [], streamMeta := ∅ }
  have hplain := @Tables.aggregateRuns_eq keyOrder F _ _ _ sqrt horder scenario protocol files
  rw [← Option.some_inj (b := report), ← hplain, aggregateRuns, Tables.aggregateRuns]
  simp only [aggregateSingleRunRefs_eq hsqrt, reportStream_eq hsqrt, Option.bind_eq_bind,
    Option.bind_some, Option.bind_eq_some_iff, hloop]
  constructor
  · rintro ⟨_, ⟨hfits, hrun⟩, hrest⟩
    exact ⟨hfits, _, hrun, hrest⟩
  · rintro ⟨hfits, _, hrun, hrest⟩
    exact ⟨_, ⟨hfits, hrun⟩, hrest⟩

end Analyses

end Checked
end Stats
end GameSockets
