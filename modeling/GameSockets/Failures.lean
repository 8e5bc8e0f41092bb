/-
Which commands that come to nothing are reported.

Two backends report none.  The TCP backend reports a `Connect` that is refused, and the QUIC
backend a `Send` that fails on a stream or a connection it has.
-/
import GameSockets.Gns.Failures
import GameSockets.Quic.Failures
import GameSockets.Tcp.Failures
import GameSockets.Udp.Failures

namespace GameSockets

open Library

/-- In every run of a backend the commands that come to nothing are reported, and change nothing
else, exactly when they are of the kinds that are. -/
theorem failures_reported_iff (Addr Handle : Type) [DecidableEq Handle]
    (parse : String → Option Addr) (parseIpv4 : String → Option Gns.Ipv4Addr) :
    (∀ (attempts : List (Udp.Attempt Addr)) (s : Udp.UdpRun Addr),
        Run.run (Udp.UdpRun.attempt parse) Udp.UdpRun.init attempts = some s →
          (Run.Along (Udp.UdpRun.attempt parse) (Udp.UdpRun.Reports parse)
              Udp.UdpRun.init attempts ↔
            Run.Along (Udp.UdpRun.attempt parse) (fun s a => ¬ Udp.UdpRun.Fails parse s a)
              Udp.UdpRun.init attempts)) ∧
      (∀ (actions : List Tcp.Action) (s : Tcp.TcpBackend),
        Run.run Tcp.TcpBackend.step Tcp.TcpBackend.init actions = some s →
          (Run.Along Tcp.TcpBackend.step Tcp.TcpBackend.Reports Tcp.TcpBackend.init actions ↔
            Run.Along Tcp.TcpBackend.step (fun s a => s.Fails a → s.Connects a)
              Tcp.TcpBackend.init actions)) ∧
      (∀ (actions : List Quic.Action) (s : Quic.QuicBackend),
        Run.run Quic.QuicBackend.step Quic.QuicBackend.init actions = some s →
          (Run.Along Quic.QuicBackend.step Quic.QuicBackend.Reports Quic.QuicBackend.init actions ↔
            Run.Along Quic.QuicBackend.step (fun s a => s.Fails a → s.Sends a)
              Quic.QuicBackend.init actions)) ∧
      ∀ (attempts : List (Gns.Attempt Handle)) (s : Gns.GnsRun Handle),
        Run.run (Gns.GnsRun.attempt parseIpv4) Gns.GnsRun.init attempts = some s →
          (Run.Along (Gns.GnsRun.attempt parseIpv4) (Gns.GnsRun.Reports parseIpv4)
              Gns.GnsRun.init attempts ↔
            Run.Along (Gns.GnsRun.attempt parseIpv4) (fun s a => ¬ Gns.GnsRun.Fails parseIpv4 s a)
              Gns.GnsRun.init attempts) :=
  ⟨fun _ _ hrun => Udp.UdpRun.reports_iff_of_run hrun,
    fun _ _ hrun => Tcp.TcpBackend.reports_iff_of_run hrun,
    fun _ _ hrun => Quic.QuicBackend.reports_iff_of_run hrun,
    fun _ _ hrun => Gns.GnsRun.reports_iff_of_run hrun⟩

/-! ## Commands that are reported, and commands that are not -/

def udpAttempt (cmd : BackendCommand) : Udp.Attempt Nat :=
  { input := .command { bindOk := true, newV4 := Uuid.nil } cmd, sendOk := true }

def tcpAttempt (cmd : BackendCommand) : List Tcp.Action :=
  [.issue cmd, .command { bindOk := false, connectOk := false, newV4 := Uuid.nil }]

def quicAttempt (cmd : BackendCommand) : List Quic.Action :=
  [.issue cmd, .command { Quic.CommandEnv.allOk with connectOk := false }]

def gnsAttempt (cmd : BackendCommand) : Gns.Attempt Nat :=
  { input := .command { listenOk := true, connectOk := true } cmd, sendOk := true }

/-- A connection is made, and a datagram on it is refused. -/
def quicRefused : List Quic.Action :=
  [.issue (.connect "127.0.0.1" 8080), .command .allOk,
    .issue (.send Uuid.nil { streamId := 4 } [7]),
    .command { Quic.CommandEnv.allOk with sendError := some (0, "datagram too large") }]

theorem failures_reported_refused :
    (∃ s, Run.run (Udp.UdpRun.attempt fun _ => some 1) Udp.UdpRun.init
          [udpAttempt (.connect "127.0.0.1" 8080)] = some s ∧
        Run.Along (Udp.UdpRun.attempt fun _ => some 1) (Udp.UdpRun.Reports fun _ => some 1)
          Udp.UdpRun.init [udpAttempt (.connect "127.0.0.1" 8080)]) ∧
      (∃ s, Run.run Tcp.TcpBackend.step Tcp.TcpBackend.init
            (tcpAttempt (.connect "127.0.0.1" 8080)) = some s ∧
          s.peer.eventRx.log = [.error Uuid.nil .connectionError] ∧
          Run.Along Tcp.TcpBackend.step Tcp.TcpBackend.Reports Tcp.TcpBackend.init
            (tcpAttempt (.connect "127.0.0.1" 8080))) ∧
      (∃ s, Run.run Quic.QuicBackend.step Quic.QuicBackend.init quicRefused = some s ∧
          s.peer.eventRx.log =
            [.connected Uuid.nil, .error Uuid.nil (.sendFailed "datagram too large")] ∧
          Run.Along Quic.QuicBackend.step Quic.QuicBackend.Reports Quic.QuicBackend.init
            quicRefused) ∧
      ∃ s, Run.run (Gns.GnsRun.attempt fun _ => some Gns.Ipv4Addr.localhost) Gns.GnsRun.init
            [gnsAttempt (.bind "127.0.0.1" 8080)] = some s ∧
          Run.Along (Gns.GnsRun.attempt fun _ => some Gns.Ipv4Addr.localhost)
            (Gns.GnsRun.Reports fun _ => some Gns.Ipv4Addr.localhost) Gns.GnsRun.init
            [gnsAttempt (.bind "127.0.0.1" 8080)] := by
  have hreported :=
    failures_reported_iff Nat Nat (fun _ => some 1) (fun _ => some Gns.Ipv4Addr.localhost)
  refine ⟨⟨_, rfl, ?_⟩, ⟨_, rfl, rfl, ?_⟩, ⟨_, rfl, rfl, ?_⟩, ⟨_, rfl, ?_⟩⟩
  · exact (hreported.1 [udpAttempt (.connect "127.0.0.1" 8080)] _ rfl).mpr (by decide)
  · exact (hreported.2.1 (tcpAttempt (.connect "127.0.0.1" 8080)) _ rfl).mpr (by decide)
  · exact (hreported.2.2.1 quicRefused _ rfl).mpr (by decide)
  · exact (hreported.2.2.2 [gnsAttempt (.bind "127.0.0.1" 8080)] _ rfl).mpr (by decide)

/-- A name in place of an address is ignored by one backend and taken for the local host by
another, and a port that is taken and a host that does not answer are the end of the other two. -/
theorem failures_not_reported :
    (∃ s, Run.run (Udp.UdpRun.attempt fun _ => none) Udp.UdpRun.init
          [udpAttempt (.connect "localhost" 8080)] = some s ∧
        s.events = [] ∧
        ¬ Run.Along (Udp.UdpRun.attempt fun _ => none) (Udp.UdpRun.Reports fun _ => none)
          Udp.UdpRun.init [udpAttempt (.connect "localhost" 8080)]) ∧
      (∃ s, Run.run Tcp.TcpBackend.step Tcp.TcpBackend.init
            (tcpAttempt (.bind "127.0.0.1" 8080)) = some s ∧
          s.loop = .panicked ∧ s.peer.eventRx.log = [] ∧
          ¬ Run.Along Tcp.TcpBackend.step Tcp.TcpBackend.Reports Tcp.TcpBackend.init
            (tcpAttempt (.bind "127.0.0.1" 8080))) ∧
      (∃ s, Run.run Quic.QuicBackend.step Quic.QuicBackend.init
            (quicAttempt (.connect "127.0.0.1" 8080)) = some s ∧
          s.loop = .panicked ∧ s.peer.eventRx.log = [] ∧
          ¬ Run.Along Quic.QuicBackend.step Quic.QuicBackend.Reports Quic.QuicBackend.init
            (quicAttempt (.connect "127.0.0.1" 8080))) ∧
      ∃ s, Run.run (Gns.GnsRun.attempt fun _ => none) Gns.GnsRun.init
            [gnsAttempt (.connect "example.com" 8080)] = some s ∧
          s.backend.socket = some (.client Gns.Ipv4Addr.localhost 8080) ∧ s.events = [] ∧
          ¬ Run.Along (Gns.GnsRun.attempt fun _ => none) (Gns.GnsRun.Reports fun _ => none)
            Gns.GnsRun.init [gnsAttempt (.connect "example.com" 8080)] := by
  refine ⟨⟨_, rfl, rfl, fun h => ?_⟩, ⟨_, rfl, rfl, rfl, fun h => ?_⟩,
    ⟨_, rfl, rfl, rfl, fun h => ?_⟩, ⟨_, rfl, rfl, rfl, fun h => ?_⟩⟩
  · exact absurd ((Udp.UdpRun.reports_iff_of_run rfl).mp h) (by decide)
  · exact absurd ((Tcp.TcpBackend.reports_iff_of_run rfl).mp h) (by decide)
  · exact absurd ((Quic.QuicBackend.reports_iff_of_run rfl).mp h) (by decide)
  · exact absurd ((Gns.GnsRun.reports_iff_of_run rfl).mp h) (by decide)

end GameSockets
