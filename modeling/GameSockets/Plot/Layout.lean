/-
Where the lines and the bars of the charts are.

A protocol has one line, through one point for each scenario.  The bars of the scenarios stand
in slots next to each other, and what is drawn over them leaves the chart at its lower end only.
The coordinates are those given to the chart, which cuts them to its ranges.
-/
import GameSockets.Library.Loop
import GameSockets.Plot.Charts
import GameSockets.Plot.Points
import GameSockets.Stats.Interval

namespace GameSockets
namespace Plot

open Library Stats

section Lines

variable {F Text : Type} [Field F]

/-- The points of a protocol are one for each scenario. -/
theorem filter_buildData {scenarios : List (F × Name)} {protocols : List String}
    (hnodup : protocols.Nodup) {proto : String} (hproto : proto ∈ protocols)
    (reports : Reports F Text) :
    (buildData scenarios protocols reports).filter (·.protocol = proto) =
      scenarios.map fun (x, scenario) => point reports x scenario proto := by
  have hfilter : protocols.filter (· = proto) = [proto] := by
    rw [List.filter_eq, List.count_eq_one_of_mem hnodup hproto, List.replicate_one]
  rw [buildData, List.filter_flatMap, List.map_eq_flatMap]
  refine List.flatMap_congr fun y _ => ?_
  rw [List.filter_map]
  change (protocols.filter (· = proto)).map (fun proto => point reports y.1 y.2 proto) = _
  rw [hfilter]
  rfl

/-- The points and the color of a line. -/
def Element.line? : Element F → Option (List (F × F) × RGBColor)
  | .lineSeries points color _ => some (points, color)
  | _ => none

variable [LinearOrder F]

theorem line?_errorBar (color : RGBColor) (p : DataPoint F) :
    (errorBar color p).filterMap Element.line? = [] := by
  unfold errorBar
  split <;> rfl

theorem lines_drawLineChart (path caption : String) (xRange yRange : F × F) (xDesc yDesc : String)
    {scenarios : List (F × Name)} {protocols : List String} (hnodup : protocols.Nodup)
    (reports : Reports F Text) :
    (drawLineChartWithCi path caption xRange yRange xDesc yDesc protocols
        (buildData scenarios protocols reports)).elements.filterMap Element.line? =
      protocols.map fun proto =>
        (scenarios.map fun (x, scenario) => (x, (point reports x scenario proto).median),
          protoColor proto) := by
  simp only [drawLineChartWithCi, List.filterMap_flatMap]
  rw [List.map_eq_flatMap]
  refine List.flatMap_congr fun proto hproto => ?_
  have hbars : ∀ data : List (DataPoint F),
      (data.flatMap (errorBar (protoColor proto))).filterMap Element.line? = [] := by
    intro data
    rw [List.filterMap_flatMap]
    simp [line?_errorBar]
  rw [List.filterMap_cons, hbars, filter_buildData hnodup hproto, List.map_map]
  rfl

variable [FloorRing F]

/-- In every line chart a protocol of the legend has one line, in its own color, from scenario to
scenario and from left to right. -/
theorem lines_drawn [IsStrictOrderedRing F] (reports : Reports F Text) (chart : Chart)
    (hchart : chart ≠ .scenario) :
    ((chart.draw reports).elements.filterMap Element.line? =
        chart.protocols.map fun proto =>
          (chart.scenarios.map fun (x, scenario) => (x, (point reports x scenario proto).median),
            protoColor proto)) ∧
      (chart.scenarios.map Prod.fst : List F).Pairwise (· < ·) ∧
      (chart.draw reports).labels = chart.protocols.map (fun proto => (proto, protoColor proto)) ∧
      (chart.protocols.map protoColor).Nodup := by
  cases chart with
  | latency =>
    exact ⟨lines_drawLineChart _ _ _ _ _ _ (by decide) reports,
      by norm_num [Chart.scenarios, latencyScenarios], rfl, by decide⟩
  | lossTcp =>
    exact ⟨lines_drawLineChart _ _ _ _ _ _ (by decide) reports,
      by norm_num [Chart.scenarios, lossScenarios], rfl, by decide⟩
  | lossNoTcp =>
    exact ⟨lines_drawLineChart _ _ _ _ _ _ (by decide) reports,
      by norm_num [Chart.scenarios, lossScenarios], rfl, by decide⟩
  | scenario => exact absurd rfl hchart

end Lines

section Bars

variable {F Text : Type} [Field F] [LinearOrder F] [IsStrictOrderedRing F] [FloorRing F]

/-- The group of a point, and its place in the group. -/
def group (p : DataPoint F) : Nat := ⌊p.x⌋.toNat

def place (protocols : List String) (p : DataPoint F) : Nat :=
  (protocols.findIdx? (· = p.protocol)).getD 0

/-- The left end of a bar, and the right end. -/
def barStart (protocols : List String) (p : DataPoint F) : F :=
  Slots.left (totalWidthRatio / (2 : Nat)) totalWidthRatio protocols.length (group p)
    (place protocols p)

def barEnd (protocols : List String) (p : DataPoint F) : F :=
  Slots.left (totalWidthRatio / (2 : Nat)) totalWidthRatio protocols.length (group p)
    (place protocols p + 1)

/-- The interval of the point is drawn. -/
def HasBar (p : DataPoint F) : Prop := |p.ciHigh - p.ciLow| > ratio 1 1000

/-- The sides and the height of a bar. -/
def Element.bar? : Element F → Option (F × F × F)
  | .rectangle corner opposite _ => some (corner.1, opposite.1, opposite.2)
  | _ => none

omit [Field F] [LinearOrder F] [IsStrictOrderedRing F] [FloorRing F] in
theorem place_lt {protocols : List String} {p : DataPoint F} (h : p.protocol ∈ protocols) :
    place protocols p < protocols.length := by
  cases hfind : protocols.findIdx? (· = p.protocol) with
  | none =>
    have hnot := List.findIdx?_eq_none_iff.mp hfind p.protocol h
    simp at hnot
  | some k =>
    rw [place, hfind]
    exact (List.findIdx?_eq_some_iff_getElem.mp hfind).1

/-- The middle of the bar, and half the width of its caps. -/
def center (protocols : List String) (p : DataPoint F) : F :=
  (barStart protocols p + barEnd protocols p) / (2 : Nat)

def cap (protocols : List String) : F := totalWidthRatio / protocols.length * ratio 3 10

omit [IsStrictOrderedRing F] in
theorem drawBar_eq (protocols : List String) (p : DataPoint F) :
    drawBar protocols p =
      .rectangle (barStart protocols p, 0) (barEnd protocols p, p.median) (protoColor p.protocol) ::
        if |p.ciHigh - p.ciLow| > ratio 1 1000 then
          [.pathElement [(center protocols p, p.ciLow), (center protocols p, p.ciHigh)] black 2,
            .pathElement [(center protocols p - cap protocols, p.ciHigh),
              (center protocols p + cap protocols, p.ciHigh)] black 2,
            .pathElement [(center protocols p - cap protocols, p.ciLow),
              (center protocols p + cap protocols, p.ciLow)] black 2]
        else [] := by
  rw [center, barEnd, Slots.left_succ]
  rfl

omit [IsStrictOrderedRing F] in
theorem bar?_drawBar (protocols : List String) (p : DataPoint F) :
    (drawBar protocols p).filterMap Element.bar? =
      [(barStart protocols p, barEnd protocols p, p.median)] := by
  rw [drawBar_eq]
  split <;> rfl

omit [IsStrictOrderedRing F] in
theorem rectangle_mem_drawBar (protocols : List String) (p : DataPoint F) :
    .rectangle (barStart protocols p, 0) (barEnd protocols p, p.median) (protoColor p.protocol) ∈
      drawBar protocols p := by
  rw [drawBar_eq]
  exact List.mem_cons_self

omit [IsStrictOrderedRing F] in
theorem interval_mem_drawBar (protocols : List String) {p : DataPoint F} (h : HasBar p) :
    .pathElement [(center protocols p, p.ciLow), (center protocols p, p.ciHigh)] black 2 ∈
      drawBar protocols p := by
  unfold HasBar at h
  rw [drawBar_eq, if_pos h]
  exact List.mem_cons_of_mem _ List.mem_cons_self

/-- The caps are narrower than the bar. -/
theorem cap_le (protocols : List String) (p : DataPoint F) :
    (0 : F) ≤ cap protocols ∧ barStart protocols p + cap protocols ≤ center protocols p ∧
      center protocols p + cap protocols ≤ barEnd protocols p := by
  have hslot : (0 : F) ≤ totalWidthRatio / protocols.length := by
    unfold totalWidthRatio ratio
    positivity
  have hend : barEnd protocols p = barStart protocols p + totalWidthRatio / protocols.length :=
    Slots.left_succ
  rw [center, cap, hend]
  simp only [ratio, Nat.cast_ofNat]
  refine ⟨by linarith, by linarith, by linarith⟩

/-- A bar and its interval keep to its slot. -/
theorem points_drawBar {protocols : List String} {p : DataPoint F} {e : Element F}
    (he : e ∈ drawBar protocols p) {v : F × F} (hv : v ∈ e.points) :
    (barStart protocols p ≤ v.1 ∧ v.1 ≤ barEnd protocols p) ∧
      (v.2 = 0 ∨ v.2 = p.median ∨ HasBar p ∧ (v.2 = p.ciLow ∨ v.2 = p.ciHigh)) := by
  obtain ⟨hcap, hstart, hend⟩ := cap_le protocols p
  rw [drawBar_eq, List.mem_cons] at he
  rcases he with rfl | he
  · simp only [Element.points, List.mem_cons, List.not_mem_nil, or_false] at hv
    rcases hv with rfl | rfl
    · exact ⟨⟨le_refl _, by linarith⟩, Or.inl rfl⟩
    · exact ⟨⟨by linarith, le_refl _⟩, Or.inr (Or.inl rfl)⟩
  · split at he
    · next hbar =>
      simp only [List.mem_cons, List.not_mem_nil, or_false] at he
      rcases he with rfl | rfl | rfl <;>
        simp only [Element.points, List.mem_cons, List.not_mem_nil, or_false] at hv <;>
        rcases hv with rfl | rfl
      · exact ⟨⟨by linarith, by linarith⟩, Or.inr (Or.inr ⟨hbar, Or.inl rfl⟩)⟩
      · exact ⟨⟨by linarith, by linarith⟩, Or.inr (Or.inr ⟨hbar, Or.inr rfl⟩)⟩
      · exact ⟨⟨by linarith, by linarith⟩, Or.inr (Or.inr ⟨hbar, Or.inr rfl⟩)⟩
      · exact ⟨⟨by linarith, by linarith⟩, Or.inr (Or.inr ⟨hbar, Or.inr rfl⟩)⟩
      · exact ⟨⟨by linarith, by linarith⟩, Or.inr (Or.inr ⟨hbar, Or.inl rfl⟩)⟩
      · exact ⟨⟨by linarith, by linarith⟩, Or.inr (Or.inr ⟨hbar, Or.inl rfl⟩)⟩
    · exact absurd he List.not_mem_nil

/-- The one point is drawn to the left of the other. -/
def Before (protocols : List String) (p q : DataPoint F) : Prop :=
  group p < group q ∨ group p = group q ∧ place protocols p < place protocols q

omit [FloorRing F] in
theorem totalWidthRatio_bounds :
    (totalWidthRatio / (2 : Nat) + totalWidthRatio / (2 : Nat) : F) = totalWidthRatio ∧
      (0 : F) ≤ totalWidthRatio ∧ (totalWidthRatio : F) ≤ 1 := by
  unfold totalWidthRatio ratio
  norm_num

theorem barEnd_le_barStart {protocols : List String} {p q : DataPoint F}
    (hp : p.protocol ∈ protocols) (hq : q.protocol ∈ protocols) (h : Before protocols p q) :
    barEnd protocols p ≤ barStart protocols q := by
  have hplace := place_lt hp
  obtain ⟨hhalf, hwidth, hone⟩ := @totalWidthRatio_bounds F _ _ _
  rcases h with hgroup | ⟨hgroup, hlt⟩
  · exact Slots.left_le_of_group hhalf hwidth hone (by omega) hplace (place_lt hq).le hgroup
  · rw [barEnd, barStart, ← hgroup]
    exact Slots.left_mono hwidth hlt

/-- A slot of a group that the chart has is in the chart. -/
theorem slot_in_range {protocols : List String} {p : DataPoint F} {conditions : Nat}
    (hp : p.protocol ∈ protocols) (hgroup : group p < conditions) :
    -ratio 1 2 ≤ barStart protocols p ∧ barEnd protocols p ≤ (conditions : F) - ratio 1 2 := by
  have hplace := place_lt hp
  obtain ⟨hhalf, hwidth, hone⟩ := @totalWidthRatio_bounds F _ _ _
  have hhalves : (ratio 1 2 + ratio 1 2 : F) = 1 := by norm_num [ratio]
  have hslots : 0 < protocols.length := by omega
  have hstart := (@Slots.left_bounds F _ _ _ _ (group p) _ _ _ hhalf hwidth hslots hplace.le).1
  have hend := (@Slots.left_bounds F _ _ _ _ (group p) _ _ _ hhalf hwidth hslots hplace).2
  have hnonneg : (0 : F) ≤ group p := Nat.cast_nonneg _
  have hlast : (group p : F) + 1 ≤ conditions := by exact_mod_cast hgroup
  constructor
  · refine le_trans ?_ hstart
    linarith
  · refine hend.trans ?_
    linarith

theorem le_yMax {data : List (DataPoint F)} {p : DataPoint F} (hp : p ∈ data) :
    0 ≤ yMax data ∧ p.median ≤ yMax data ∧ p.ciHigh ≤ yMax data := by
  have hfold : ∀ (l : List F) (b : F), b ≤ l.foldl max b ∧ ∀ y ∈ l, y ≤ l.foldl max b := by
    intro l
    induction l with
    | nil => exact fun b => ⟨le_refl b, fun y hy => absurd hy List.not_mem_nil⟩
    | cons x l ih =>
      intro b
      obtain ⟨hb, hl⟩ := ih (max b x)
      refine ⟨(le_max_left b x).trans hb, fun y hy => ?_⟩
      rcases List.mem_cons.mp hy with rfl | hy
      · exact (le_max_right b y).trans hb
      · exact hl y hy
  obtain ⟨hzero, hall⟩ := hfold (data.map fun p => max p.ciHigh p.median) 0
  have hmax := hall _ (List.mem_map_of_mem hp)
  have hhigh := le_max_left p.ciHigh p.median
  have hmedian := le_max_right p.ciHigh p.median
  simp only [yMax, ratio, Nat.cast_ofNat]
  exact ⟨by linarith, by linarith, by linarith⟩

theorem mem_buildScenarioData {reports : Reports F Text} {p : DataPoint F}
    (hp : p ∈ buildScenarioData reports) :
    p.protocol ∈ allProtocols ∧ group p < conditionNames.length := by
  obtain ⟨y, hy, hp⟩ := List.mem_flatMap.mp hp
  obtain ⟨proto, hproto, rfl⟩ := List.mem_map.mp hp
  refine ⟨hproto, ?_⟩
  have hgroups : ∀ y ∈ (scenarioScenarios : List (F × Name)), ⌊y.1⌋.toNat < 3 := by
    simp [scenarioScenarios]
  exact hgroups y hy

/-- The points come in the order of their bars. -/
theorem pairwise_buildScenarioData (reports : Reports F Text) :
    (buildScenarioData reports).Pairwise (Before allProtocols) := by
  have hplaces : allProtocols.Pairwise fun a b =>
      (allProtocols.findIdx? (· = a)).getD 0 < (allProtocols.findIdx? (· = b)).getD 0 := by
    decide
  have hgroups : (scenarioScenarios : List (F × Name)).Pairwise fun y z =>
      ⌊y.1⌋.toNat < ⌊z.1⌋.toNat := by
    simp [scenarioScenarios]
  refine List.pairwise_flatMap.mpr ⟨fun y _ => ?_, ?_⟩
  · rw [List.pairwise_map]
    exact hplaces.imp fun hlt => Or.inr ⟨rfl, hlt⟩
  · refine hgroups.imp fun {y z} hlt p hp q hq => Or.inl ?_
    obtain ⟨_, -, rfl⟩ := List.mem_map.mp hp
    obtain ⟨_, -, rfl⟩ := List.mem_map.mp hq
    exact hlt

/-- What is drawn for a point stays below all that its values stay below. -/
theorem points_drawBar_le {protocols : List String} {p : DataPoint F} {top : F} (hzero : 0 ≤ top)
    (hmedian : p.median ≤ top) (hhigh : p.ciHigh ≤ top) (hordered : p.ciLow ≤ p.ciHigh) :
    ∀ e ∈ drawBar protocols p, ∀ v ∈ e.points, v.2 ≤ top := by
  intro e he v hv
  rcases (points_drawBar he hv).2 with hv | hv | ⟨-, hv | hv⟩ <;> rw [hv]
  · exact hzero
  · exact hmedian
  · exact hordered.trans hhigh
  · exact hhigh

/-- Nothing of a point is drawn below zero exactly when its median and the interval that is drawn
do not begin there. -/
theorem nonneg_points_drawBar_iff {protocols : List String} {p : DataPoint F}
    (hordered : p.ciLow ≤ p.ciHigh) :
    (∀ e ∈ drawBar protocols p, ∀ v ∈ e.points, 0 ≤ v.2) ↔
      0 ≤ p.median ∧ (HasBar p → 0 ≤ p.ciLow) := by
  constructor
  · intro hall
    refine ⟨?_, fun hbar => ?_⟩
    · exact hall _ (rectangle_mem_drawBar protocols p) (barEnd protocols p, p.median)
        (by simp [Element.points])
    · exact hall _ (interval_mem_drawBar protocols hbar) (center protocols p, p.ciLow)
        (by simp [Element.points])
  · rintro ⟨hmedian, hlow⟩ e he v hv
    rcases (points_drawBar he hv).2 with hv | hv | ⟨hbar, hv | hv⟩ <;> rw [hv]
    · exact hmedian
    · exact hlow hbar
    · exact (hlow hbar).trans hordered

/-- What is drawn for a point of the scenarios is between the sides of the chart. -/
theorem points_in_range {reports : Reports F Text} {p : DataPoint F}
    (hp : p ∈ buildScenarioData reports) :
    ∀ e ∈ drawBar allProtocols p, ∀ v ∈ e.points,
      -ratio 1 2 ≤ v.1 ∧ v.1 ≤ (conditionNames.length : F) - ratio 1 2 := by
  intro e he v hv
  obtain ⟨hproto, hgroup⟩ := mem_buildScenarioData hp
  obtain ⟨hstart, hend⟩ := slot_in_range hproto hgroup
  obtain ⟨hleft, hright⟩ := (points_drawBar he hv).1
  exact ⟨hstart.trans hleft, hright.trans hend⟩

/-- Each point of the scenarios has one bar, with its interval over it.  The bars stand next to each
other, in the order of the points and inside the chart.  Nothing is drawn above the chart when no
interval is upside down, and nothing below it when no median and no drawn interval begins below
zero. -/
theorem bars_drawn (reports : Reports F Text) :
    let data := buildScenarioData reports
    let drawing := Chart.scenario.draw reports
    drawing.elements = data.flatMap (drawBar allProtocols) ∧
      (∀ p ∈ data, ∃ left right,
        (drawBar allProtocols p).filterMap Element.bar? = [(left, right, p.median)] ∧
          ∀ e ∈ drawBar allProtocols p, ∀ v ∈ e.points, left ≤ v.1 ∧ v.1 ≤ right) ∧
      ((drawing.elements.filterMap Element.bar?).Pairwise fun a b => a.2.1 ≤ b.1) ∧
      (∀ e ∈ drawing.elements, ∀ v ∈ e.points,
        drawing.xRange.1 ≤ v.1 ∧ v.1 ≤ drawing.xRange.2) ∧
      ((∀ p ∈ data, p.ciLow ≤ p.ciHigh) →
        (∀ e ∈ drawing.elements, ∀ v ∈ e.points, v.2 ≤ drawing.yRange.2) ∧
          ((∀ e ∈ drawing.elements, ∀ v ∈ e.points, drawing.yRange.1 ≤ v.2) ↔
            ∀ p ∈ data, 0 ≤ p.median ∧ (HasBar p → 0 ≤ p.ciLow))) := by
  intro data drawing
  have helements : drawing.elements = data.flatMap (drawBar allProtocols) := rfl
  refine ⟨helements, ?_, ?_, ?_, fun hordered => ⟨?_, ?_⟩⟩
  · intro p _
    exact ⟨_, _, bar?_drawBar allProtocols p, fun e he v hv => (points_drawBar he hv).1⟩
  · rw [helements, List.filterMap_flatMap]
    simp only [bar?_drawBar]
    rw [← List.map_eq_flatMap, List.pairwise_map]
    exact (pairwise_buildScenarioData reports).imp_of_mem fun hp hq hbefore =>
      barEnd_le_barStart (mem_buildScenarioData hp).1 (mem_buildScenarioData hq).1 hbefore
  · rw [helements, List.forall_mem_flatMap]
    exact fun p hp => points_in_range hp
  · rw [helements, List.forall_mem_flatMap]
    intro p hp
    obtain ⟨hzero, hmedian, hhigh⟩ := le_yMax hp
    exact points_drawBar_le hzero hmedian hhigh (hordered p hp)
  · rw [helements, List.forall_mem_flatMap]
    exact forall₂_congr fun p hp => nonneg_points_drawBar_iff (hordered p hp)

end Bars

theorem lines_drawn_singleReport :
    ∃ report, analyzeSingleFile Rat.sqrt mixedRows = .ok report ∧
      ((Chart.lossNoTcp.draw (singleReport report)).elements.filterMap Element.line?).map Prod.snd =
        [colorUdp, colorQuic, colorGns] := by
  obtain ⟨report, hreport⟩ : ∃ report : SingleFileReport ℚ,
      analyzeSingleFile Rat.sqrt mixedRows = .ok report := ⟨_, rfl⟩
  refine ⟨report, hreport, ?_⟩
  rw [(lines_drawn (singleReport report) .lossNoTcp (by decide)).1, List.map_map]
  rfl

/-! ## Four runs, and their interval -/

/-- The directory where there is the report of several runs. -/
def severalRuns (report : Stats.AggregatedReport ℚ) : Reports ℚ (Json ℚ) :=
  { parse := fun j => some (j.map fun x => x), files := fun _ => some report.toJson }

def oneRow (rtt : UInt64) : List Client.BenchmarkRecord :=
  [{ streamId := 7, packetId := 0, recvTimestamp := rtt, rttUs := rtt, payloadSize := 64 }]

def fourRuns : List (List Client.BenchmarkRecord) :=
  [oneRow 3000, oneRow 3000, oneRow 3000, oneRow 3400]

theorem p99s_fourRuns : p99s Rat.sqrt fourRuns = [3000, 3000, 3000, 3400] := by
  simp [p99s, fourRuns, oneRow, computeSingleRun, percentile]

theorem margin_fourRuns : margin Rat.sqrt [3000, 3000, 3000, 3400] = 3182 / 10 := by
  have hvariance : variance [3000, 3000, 3000, (3400 : ℚ)] = 200 * 200 := by
    norm_num [variance, Sample.mean]
  have hfour : ((4 : Nat) : ℚ) = 2 * 2 := by norm_num
  rw [margin, hvariance, Rat.sqrt_eq]
  show tCritical95 4 * |(200 : ℚ)| / Rat.sqrt ((4 : Nat) : ℚ) = _
  rw [hfour, Rat.sqrt_eq]
  norm_num [tCritical95]

theorem inMillis_fourRuns :
    inMillis (summarize Rat.sqrt [3000, 3000, 3000, 3400]) =
      (3, 27818 / 10000, 34182 / 10000) := by
  have hmean : Sample.mean [3000, 3000, 3000, (3400 : ℚ)] = 3100 := by norm_num [Sample.mean]
  have hmedian : Sample.median [3000, 3000, 3000, (3400 : ℚ)] = 3000 := by
    rw [Sample.median, List.mergeSort_of_pairwise (by norm_num), Sample.mid_eq]
    norm_num
  rw [inMillis, summarize_median, summarize_ci95Low, summarize_ci95High, hmean, hmedian,
    margin_fourRuns]
  norm_num

theorem mem_scenarioData_fourRuns {scenario protocol : String} {p : DataPoint ℚ}
    (hp : p ∈ buildScenarioData
      (severalRuns (aggregateRuns Rat.sqrt scenario protocol fourRuns))) :
    p.median = 3 ∧ p.ciLow = 27818 / 10000 ∧ p.ciHigh = 34182 / 10000 := by
  obtain ⟨y, -, hp⟩ := List.mem_flatMap.mp hp
  obtain ⟨proto, -, rfl⟩ := List.mem_map.mp hp
  have hload := @loadP99WithCi_aggregated ℚ (Json ℚ) _ _ _
    (severalRuns (aggregateRuns Rat.sqrt scenario protocol fourRuns))
    (outFile y.2 (toLowercase proto)) reparses_id _ rfl
  rw [p99Us_aggregateRuns, p99s_fourRuns] at hload
  have hpoint := hload.trans inMillis_fourRuns
  dsimp only
  rw [hpoint]
  exact ⟨rfl, rfl, rfl⟩

theorem bars_drawn_fourRuns :
    ∃ reports : Reports ℚ (Json ℚ), (∀ p ∈ buildScenarioData reports, HasBar p) ∧
      (∀ p ∈ buildScenarioData reports, ∃ left right,
        (drawBar allProtocols p).filterMap Element.bar? = [(left, right, p.median)] ∧
          ∀ e ∈ drawBar allProtocols p, ∀ v ∈ e.points, left ≤ v.1 ∧ v.1 ≤ right) ∧
      ∀ e ∈ (Chart.scenario.draw reports).elements, ∀ v ∈ e.points, 0 ≤ v.2 := by
  let reports := severalRuns (aggregateRuns Rat.sqrt "08_full_fiber" "udp" fourRuns)
  obtain ⟨-, hbars, -, -, hheights⟩ := bars_drawn reports
  have hpoint : ∀ p ∈ buildScenarioData reports,
      p.median = 3 ∧ p.ciLow = 27818 / 10000 ∧ p.ciHigh = 34182 / 10000 :=
    fun p hp => mem_scenarioData_fourRuns hp
  refine ⟨reports, fun p hp => ?_, hbars, (hheights fun p hp => ?_).2.mpr fun p hp => ⟨?_, ?_⟩⟩
  · obtain ⟨-, hlow, hhigh⟩ := hpoint p hp
    rw [HasBar, hlow, hhigh]
    norm_num [ratio]
  · obtain ⟨-, hlow, hhigh⟩ := hpoint p hp
    rw [hlow, hhigh]
    norm_num
  · rw [(hpoint p hp).1]
    norm_num
  · rw [(hpoint p hp).2.1]
    norm_num

end Plot
end GameSockets
