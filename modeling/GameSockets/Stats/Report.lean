/-
The reports as JSON: the names and the order of their fields.
-/
import GameSockets.Library.Json
import GameSockets.Stats

namespace GameSockets
namespace Stats

open Library

variable {F : Type}

def word (n : UInt64) : Json F := .integer n.toNat

def SummaryStatistic.toJson (s : SummaryStatistic F) : Json F :=
  .object
    [("median", .float s.median), ("mean", .float s.mean), ("stddev", .float s.stddev),
      ("ci95_low", .float s.ci95Low), ("ci95_high", .float s.ci95High), ("min", .float s.min),
      ("max", .float s.max), ("values", .array (s.values.map .float))]

def AggregatedThroughput.toJson (t : AggregatedThroughput F) : Json F :=
  .object
    [("duration_sec", t.durationSec.toJson), ("packet_rate_pps", t.packetRatePps.toJson),
      ("goodput_mbps", t.goodputMbps.toJson)]

def AggregatedLatency.toJson (l : AggregatedLatency F) : Json F :=
  .object
    [("min_us", l.minUs.toJson), ("avg_us", l.avgUs.toJson), ("max_us", l.maxUs.toJson),
      ("jitter_us", l.jitterUs.toJson), ("p50_us", l.p50Us.toJson), ("p90_us", l.p90Us.toJson),
      ("p95_us", l.p95Us.toJson), ("p99_us", l.p99Us.toJson)]

def AggregatedStats.toJson (s : AggregatedStats F) : Json F :=
  .object
    [("sent", s.sent.toJson), ("received", s.received.toJson), ("lost", s.lost.toJson),
      ("loss_rate_percent", s.lossRatePercent.toJson), ("throughput", s.throughput.toJson),
      ("latency", s.latency.toJson)]

def AggregatedStreamReport.toJson (r : AggregatedStreamReport F) : Json F :=
  .object
    [("stream_id", .integer r.streamId.toNat), ("stream_index", .integer r.streamIndex.toNat),
      ("stream_type", .string r.streamType), ("stats", r.stats.toJson)]

def AggregatedReport.toJson (r : AggregatedReport F) : Json F :=
  .object
    [("scenario", .string r.scenario), ("protocol", .string r.protocol),
      ("num_runs", .integer r.numRuns), ("global", r.global.toJson),
      ("streams", .array (r.streams.map (·.toJson)))]

def LegacyThroughput.toJson (t : LegacyThroughput F) : Json F :=
  .object
    [("duration_sec", .float t.durationSec), ("packet_rate_pps", .float t.packetRatePps),
      ("goodput_mbps", .float t.goodputMbps)]

def LegacyLatency.toJson (l : LegacyLatency F) : Json F :=
  .object
    [("min_us", word l.minUs), ("avg_us", .float l.avgUs), ("max_us", word l.maxUs),
      ("jitter_us", .float l.jitterUs), ("p50_us", word l.p50Us), ("p90_us", word l.p90Us),
      ("p95_us", word l.p95Us), ("p99_us", word l.p99Us)]

def LegacyStats.toJson (s : LegacyStats F) : Json F :=
  .object
    [("sent", word s.sent), ("received", word s.received), ("lost", word s.lost),
      ("loss_rate_percent", .float s.lossRatePercent), ("throughput", s.throughput.toJson),
      ("latency", s.latency.toJson)]

def LegacyStreamReport.toJson (r : LegacyStreamReport F) : Json F :=
  .object
    [("stream_id", .integer r.streamId.toNat), ("stream_index", .integer r.streamIndex.toNat),
      ("stream_type", .string r.streamType), ("stats", r.stats.toJson)]

def SingleFileReport.toJson (r : SingleFileReport F) : Json F :=
  .object
    [("global", r.global.toJson), ("streams", .array (r.streams.map (·.toJson)))]

end Stats
end GameSockets
