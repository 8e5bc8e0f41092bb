/-
`plot.rs`: the data points of the charts, and what is drawn for them.

A point is read from the report of its scenario and protocol in the `aggregated` directory.
The reader takes the fields that it needs, and from the older format of one run too.  A report
that it cannot read gives a point at zero.
-/
import GameSockets.Library.Json
import GameSockets.Stats.Sweep

namespace GameSockets
namespace Plot

open Library Stats

variable {F Text : Type}

/-! ## Reports -/

structure SummaryStatistic (F : Type) where
  median : F
  mean : F
  stddev : F
  ci95Low : F
  ci95High : F
  min : F
  max : F

structure AggregatedLatency (F : Type) where
  avgUs : SummaryStatistic F
  p50Us : SummaryStatistic F
  p95Us : SummaryStatistic F
  p99Us : SummaryStatistic F

structure AggregatedStats (F : Type) where
  latency : AggregatedLatency F
  lossRatePercent : SummaryStatistic F

structure AggregatedReport (F : Type) where
  scenario : String
  protocol : String
  numRuns : Nat
  global : AggregatedStats F

/-- The format of a single run. -/
structure LegacyLatency (F : Type) where
  avgUs : F
  p99Us : F

structure LegacyGlobal (F : Type) where
  latency : LegacyLatency F

structure LegacyJson (F : Type) where
  global : LegacyGlobal F

section Read

variable [IntCast F]

def SummaryStatistic.ofJson (j : Json F) : Option (SummaryStatistic F) := do
  let field ← j.record ["median", "mean", "stddev", "ci95_low", "ci95_high", "min", "max"]
  return {
    median := ← (field "median").toFloat
    mean := ← (field "mean").toFloat
    stddev := ← (field "stddev").toFloat
    ci95Low := ← (field "ci95_low").toFloat
    ci95High := ← (field "ci95_high").toFloat
    min := ← (field "min").toFloat
    max := ← (field "max").toFloat }

def AggregatedLatency.ofJson (j : Json F) : Option (AggregatedLatency F) := do
  let field ← j.record ["avg_us", "p50_us", "p95_us", "p99_us"]
  return {
    avgUs := ← SummaryStatistic.ofJson (field "avg_us")
    p50Us := ← SummaryStatistic.ofJson (field "p50_us")
    p95Us := ← SummaryStatistic.ofJson (field "p95_us")
    p99Us := ← SummaryStatistic.ofJson (field "p99_us") }

def AggregatedStats.ofJson (j : Json F) : Option (AggregatedStats F) := do
  let field ← j.record ["latency", "loss_rate_percent"]
  return {
    latency := ← AggregatedLatency.ofJson (field "latency")
    lossRatePercent := ← SummaryStatistic.ofJson (field "loss_rate_percent") }

def AggregatedReport.ofJson (j : Json F) : Option (AggregatedReport F) := do
  let field ← j.record ["scenario", "protocol", "num_runs", "global"]
  return {
    scenario := ← (field "scenario").toString?
    protocol := ← (field "protocol").toString?
    numRuns := ← (field "num_runs").toNat
    global := ← AggregatedStats.ofJson (field "global") }

def LegacyLatency.ofJson (j : Json F) : Option (LegacyLatency F) := do
  let field ← j.record ["avg_us", "p99_us"]
  return { avgUs := ← (field "avg_us").toFloat, p99Us := ← (field "p99_us").toFloat }

def LegacyGlobal.ofJson (j : Json F) : Option (LegacyGlobal F) := do
  let field ← j.record ["latency"]
  return { latency := ← LegacyLatency.ofJson (field "latency") }

def LegacyJson.ofJson (j : Json F) : Option (LegacyJson F) := do
  let field ← j.record ["global"]
  return { global := ← LegacyGlobal.ofJson (field "global") }

end Read

/-! ## Loading -/

/-- A data point with its error bounds. -/
structure DataPoint (F : Type) where
  x : F
  protocol : String
  median : F
  ciLow : F
  ciHigh : F

/-- The `aggregated` directory, and how a text in it is parsed. -/
structure Reports (F Text : Type) where
  parse : Text → Option (Json F)
  files : Name → Option Text

section Load

variable [Field F]

def loadAggregated (reports : Reports F Text) (path : Name) : Option (AggregatedReport F) := do
  let file ← reports.files path
  AggregatedReport.ofJson (← reports.parse file)

def loadLegacy (reports : Reports F Text) (path : Name) : Option (LegacyJson F) := do
  let file ← reports.files path
  LegacyJson.ofJson (← reports.parse file)

/-- The aggregated report first, and the older format after it. -/
def loadWithCi (stat : AggregatedLatency F → SummaryStatistic F) (val : LegacyLatency F → F)
    (reports : Reports F Text) (path : Name) : F × F × F :=
  match loadAggregated reports path with
  | some agg =>
    let stat := stat agg.global.latency
    (stat.median / (1000 : Nat), stat.ci95Low / (1000 : Nat), stat.ci95High / (1000 : Nat))
  | none =>
    match loadLegacy reports path with
    | some legacy =>
      let val := val legacy.global.latency / (1000 : Nat)
      (val, val, val)
    | none => (0, 0, 0)

def loadP99WithCi : Reports F Text → Name → F × F × F := loadWithCi (·.p99Us) (·.p99Us)

def loadAvgWithCi : Reports F Text → Name → F × F × F := loadWithCi (·.avgUs) (·.avgUs)

def udpName : String := "UDP"

def tcpName : String := "TCP"

def quicName : String := "QUIC"

def gnsName : String := "GNS"

def toLowercase (proto : String) : Name := proto.toList.map Char.toLower

def pointOf (x : F) (proto : String) (shown : F × F × F) : DataPoint F :=
  { x := x, protocol := proto, median := shown.1, ciLow := shown.2.1, ciHigh := shown.2.2 }

/-- The point of a scenario and a protocol. -/
def point (reports : Reports F Text) (x : F) (scenario : Name) (proto : String) : DataPoint F :=
  pointOf x proto (loadP99WithCi reports (outFile scenario (toLowercase proto)))

/-- A point for each scenario and protocol. -/
def buildData (scenarios : List (F × Name)) (protocols : List String) (reports : Reports F Text) :
    List (DataPoint F) :=
  scenarios.flatMap fun (x, scenario) =>
    protocols.map fun proto =>
      let (med, lo, hi) := loadP99WithCi reports (outFile scenario (toLowercase proto))
      { x := x, protocol := proto, median := med, ciLow := lo, ciHigh := hi }

def allProtocols : List String := [udpName, tcpName, quicName, gnsName]

def noTcp : List String := [udpName, quicName, gnsName]

def latencyScenarios : List (F × Name) :=
  [(0, "01_baseline".toList), ((10 : Nat), "02_latency_10ms".toList),
    ((30 : Nat), "03_latency_30ms".toList), ((50 : Nat), "04_latency_50ms".toList)]

def lossScenarios : List (F × Name) :=
  [(0, "01_baseline".toList), (1, "05_loss_1p".toList), ((2 : Nat), "06_loss_2p".toList),
    ((5 : Nat), "07_loss_5p".toList)]

def scenarioScenarios : List (F × Name) :=
  [(0, "08_full_fiber".toList), (1, "09_full_good".toList), ((2 : Nat), "10_full_bad".toList)]

def buildLatencyData : Reports F Text → List (DataPoint F) :=
  buildData latencyScenarios allProtocols

def buildLossData (includeTcp : Bool) : Reports F Text → List (DataPoint F) :=
  let protocols := [udpName, quicName, gnsName]
  buildData lossScenarios (if includeTcp then protocols.insertIdx 1 tcpName else protocols)

def buildScenarioData : Reports F Text → List (DataPoint F) :=
  buildData scenarioScenarios allProtocols

/-- The charts that are drawn, each from its own data. -/
inductive Chart where
  | latency
  | lossTcp
  | lossNoTcp
  | scenario
deriving DecidableEq

def Chart.data (reports : Reports F Text) : Chart → List (DataPoint F)
  | .latency => buildLatencyData reports
  | .lossTcp => buildLossData true reports
  | .lossNoTcp => buildLossData false reports
  | .scenario => buildScenarioData reports

def Chart.scenarios : Chart → List (F × Name)
  | .latency => latencyScenarios
  | .lossTcp | .lossNoTcp => lossScenarios
  | .scenario => scenarioScenarios

/-- The protocols of a chart, as they are drawn. -/
def Chart.protocols : Chart → List String
  | .latency | .lossTcp | .scenario => allProtocols
  | .lossNoTcp => noTcp

theorem Chart.data_eq (reports : Reports F Text) (chart : Chart) :
    chart.data reports = buildData chart.scenarios chart.protocols reports := by
  cases chart <;> rfl

end Load

end Plot
end GameSockets
