import GameSockets.Library.Run
import GameSockets.Library.Channel
import GameSockets.Library.Handover
import GameSockets.Library.Framing
import GameSockets.Library.Duplex
import GameSockets.Library.History
import GameSockets.Library.Registry
import GameSockets.Library.Crc
import GameSockets.Library.Grouping
import GameSockets.Library.Loop
import GameSockets.Library.Sorted
import GameSockets.Library.Words
import GameSockets.Library.Sample
import GameSockets.Library.Separator
import GameSockets.Library.Tap
import GameSockets.BenchmarkPacket
import GameSockets.BenchmarkPacket.Corruption
import GameSockets.Client
import GameSockets.Client.Pacing
import GameSockets.Client.Numbering
import GameSockets.Client.Warmup
import GameSockets.Client.Stop
import GameSockets.Client.Pace
import GameSockets.Client.Independence
import GameSockets.Recorder
import GameSockets.Server
import GameSockets.BenchmarkPacket.Echo
import GameSockets.Stats
import GameSockets.Stats.Tables
import GameSockets.Stats.Agreement
import GameSockets.Stats.MissingIds
import GameSockets.Stats.Order
import GameSockets.Stats.Consistency
import GameSockets.Stats.RunCount
import GameSockets.Stats.Percentile
import GameSockets.Stats.Interval
import GameSockets.Stats.Summary
import GameSockets.Stats.Checked
import GameSockets.Stats.Totals
import GameSockets.Stats.Overflow
import GameSockets.Stats.Discovery
import GameSockets.Stats.Sweep
import GameSockets.Allocation
import GameSockets.ZeroLoss
import GameSockets.Loss
import GameSockets.StreamHistory
import GameSockets.Tcp.Registration
import GameSockets.Tcp.Reachable
import GameSockets.Tcp.Isolation
import GameSockets.Tcp.Link
import GameSockets.Tcp.Delivery
import GameSockets.Tcp.Deadlock
import GameSockets.Tcp.Echo
import GameSockets.Tcp.Events
import GameSockets.Tcp.Peers
import GameSockets.Tcp.Allocation
import GameSockets.Udp.Allocation
import GameSockets.Gns.Allocation
import GameSockets.Quic.Allocation
import GameSockets.Udp.Routing
import GameSockets.Udp.Socket
import GameSockets.Udp.Echo
import GameSockets.Udp.Events
import GameSockets.Udp.Accept
import GameSockets.Gns.Registry
import GameSockets.Gns.Events
import GameSockets.Gns.Established
import GameSockets.Quic.StreamFormat
import GameSockets.Quic.Registration
import GameSockets.Quic.Events
import GameSockets.Quic.Usable
import GameSockets.Quic.Accept
import GameSockets.Quic.StreamAccept
import GameSockets.Quic.StreamOrder
import GameSockets.Quic.Pair
import GameSockets.Quic.Collision
import GameSockets.EventOrder
import GameSockets.StreamIds
import GameSockets.Library.Owner
import GameSockets.Exit
import GameSockets.Failures
import GameSockets.Client.Commands
import GameSockets.Client.Records
import GameSockets.Client.Gapless
import GameSockets.Client.Results
import GameSockets.Server.Replies
import GameSockets.Tcp.Application
import GameSockets.Tcp.Benchmark
import GameSockets.Tcp.Loss
import GameSockets.Tcp.Rest
import GameSockets.Lifecycle
import GameSockets.Server.Clients
import GameSockets.Quic.Half
import GameSockets.Quic.StreamLink
import GameSockets.Library.Json
import GameSockets.Stats.Report
import GameSockets.Plot
import GameSockets.Plot.Formats
import GameSockets.Plot.Points
import GameSockets.Suite
import GameSockets.Plot.Suite
import GameSockets.Stats.Filtered
import GameSockets.Library.Slots
import GameSockets.Plot.Charts
import GameSockets.Plot.Layout
import GameSockets.Library.Gate
import GameSockets.Gns.Connection
import GameSockets.Gns.Link
import GameSockets.Gns.Benchmark
