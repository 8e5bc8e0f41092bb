/-
What is drawn for the data points.

A chart is the list of what is put into its coordinates, in the order of drawing.
-/
import GameSockets.Library.Slots
import GameSockets.Plot
import Mathlib.Algebra.Order.Floor.Defs

namespace GameSockets
namespace Plot

open Library

structure RGBColor where
  r : UInt8
  g : UInt8
  b : UInt8
deriving DecidableEq

def colorUdp : RGBColor := ⟨127, 127, 127⟩

def colorTcp : RGBColor := ⟨214, 39, 40⟩

def colorQuic : RGBColor := ⟨31, 119, 180⟩

def colorGns : RGBColor := ⟨44, 160, 44⟩

def black : RGBColor := ⟨0, 0, 0⟩

def protoColor (name : String) : RGBColor :=
  if name = udpName then colorUdp
  else if name = tcpName then colorTcp
  else if name = quicName then colorQuic
  else if name = gnsName then colorGns
  else colorGns

/-- Something in the coordinates of a chart. -/
inductive Element (F : Type) where
  | lineSeries (points : List (F × F)) (color : RGBColor) (strokeWidth : Nat)
  | pathElement (points : List (F × F)) (color : RGBColor) (strokeWidth : Nat)
  | rectangle (corner opposite : F × F) (color : RGBColor)
  | circle (center : F × F) (size : Nat) (color : RGBColor)

/-- Where an element reaches. -/
def Element.points {F : Type} : Element F → List (F × F)
  | .lineSeries points _ _ | .pathElement points _ _ => points
  | .rectangle corner opposite _ => [corner, opposite]
  | .circle center _ _ => [center]

structure Drawing (F : Type) where
  path : String
  size : Nat × Nat
  caption : String
  xRange : F × F
  yRange : F × F
  xDesc : Option String
  yDesc : String
  elements : List (Element F)
  labels : List (String × RGBColor)

section Draw

variable {F Text : Type} [Field F] [LinearOrder F]

/-- A decimal number, as a fraction. -/
def ratio (a b : Nat) : F := (a : F) / b

/-! ## Line charts -/

/-- The caps are a tenth of this wide on either side. -/
def capW : F := ratio 3 10

/-- The interval and the median of a point.  Without an interval there is neither. -/
def errorBar (color : RGBColor) (p : DataPoint F) : List (Element F) :=
  if |p.ciHigh - p.ciLow| < ratio 1 1000 then []
  else
    [.pathElement [(p.x, p.ciLow), (p.x, p.ciHigh)] color 1,
      .pathElement [(p.x - capW * ratio 1 10, p.ciHigh), (p.x + capW * ratio 1 10, p.ciHigh)]
        color 1,
      .pathElement [(p.x - capW * ratio 1 10, p.ciLow), (p.x + capW * ratio 1 10, p.ciLow)]
        color 1,
      .circle (p.x, p.median) 4 color]

def drawLineChartWithCi (path caption : String) (xRange yRange : F × F) (xDesc yDesc : String)
    (protocols : List String) (data : List (DataPoint F)) : Drawing F :=
  { path := path
    size := (800, 600)
    caption := caption
    xRange := xRange
    yRange := yRange
    xDesc := some xDesc
    yDesc := yDesc
    elements := protocols.flatMap fun proto =>
      let protoData := data.filter (·.protocol = proto)
      .lineSeries (protoData.map fun p => (p.x, p.median)) (protoColor proto) 3 ::
        protoData.flatMap (errorBar (protoColor proto))
    labels := protocols.map fun proto => (proto, protoColor proto) }

/-! ## Bar charts -/

variable [FloorRing F]

def totalWidthRatio : F := ratio 8 10

/-- The bar of a point and its interval. -/
def drawBar (protocols : List String) (p : DataPoint F) : List (Element F) :=
  let barWidth : F := totalWidthRatio / protocols.length
  let groupIdx := ⌊p.x⌋.toNat
  let protoIdx := (protocols.findIdx? (· = p.protocol)).getD 0
  let groupStartX : F := groupIdx - totalWidthRatio / (2 : Nat)
  let barStartX := groupStartX + protoIdx * barWidth
  let barEndX := barStartX + barWidth
  let barCenterX := (barStartX + barEndX) / (2 : Nat)
  let capW := barWidth * ratio 3 10
  .rectangle (barStartX, 0) (barEndX, p.median) (protoColor p.protocol) ::
    if |p.ciHigh - p.ciLow| > ratio 1 1000 then
      [.pathElement [(barCenterX, p.ciLow), (barCenterX, p.ciHigh)] black 2,
        .pathElement [(barCenterX - capW, p.ciHigh), (barCenterX + capW, p.ciHigh)] black 2,
        .pathElement [(barCenterX - capW, p.ciLow), (barCenterX + capW, p.ciLow)] black 2]
    else []

def drawBarChartWithCi (path caption : String) (yMax : F) (conditionNames protocols : List String)
    (data : List (DataPoint F)) : Drawing F :=
  { path := path
    size := (1000, 600)
    caption := caption
    xRange := (-ratio 1 2, conditionNames.length - ratio 1 2)
    yRange := (0, yMax)
    xDesc := none
    yDesc := "Latency (ms)"
    elements := data.flatMap (drawBar protocols)
    labels := protocols.map fun proto => (proto, protoColor proto) }

/-! ## The charts -/

def yMax (scenarioData : List (DataPoint F)) : F :=
  (scenarioData.map fun p => max p.ciHigh p.median).foldl max 0 * ratio 11 10

def conditionNames : List String := ["Excellent", "Good", "Bad"]

/-- The drawing of a chart, from its data. -/
def Chart.draw (reports : Reports F Text) : Chart → Drawing F
  | .latency =>
    drawLineChartWithCi "latency_trend.svg" "Protocol Latency vs Network Latency"
      (0, (60 : Nat)) (0, (350 : Nat)) "Network Latency (ms)" "P99 Latency (ms)" allProtocols
      (buildLatencyData reports)
  | .lossTcp =>
    drawLineChartWithCi "packet_loss_trend_tcp.svg" "Latency vs Packet Loss"
      (0, (6 : Nat)) (0, (450 : Nat)) "Packet Loss (%)" "P99 Latency (ms)" allProtocols
      (buildLossData true reports)
  | .lossNoTcp =>
    drawLineChartWithCi "packet_loss_trend_no_tcp.svg" "Latency vs Packet Loss (No TCP)"
      (0, (6 : Nat)) (0, (100 : Nat)) "Packet Loss (%)" "P99 Latency (ms)" noTcp
      (buildLossData false reports)
  | .scenario =>
    let scenarioData := buildScenarioData reports
    drawBarChartWithCi "scenario.svg" "Protocol Performance by Network Condition (P99)"
      (yMax scenarioData) conditionNames allProtocols scenarioData

end Draw

end Plot
end GameSockets
