/-
What ends a backend whose application has dropped its handle.

None of the four loops takes a closed command channel for a reason to end: three wait for their
other branches and the fourth keeps polling.
-/
import GameSockets.Gns.Exit
import GameSockets.Quic.Exit
import GameSockets.Tcp.Exit
import GameSockets.Udp.Exit

namespace GameSockets

open Library Owner

/-- Left by its application, all commands taken, a backend comes to the end of its loop exactly
when one of these commands ended it. -/
theorem exits_iff_ended_by_command (Addr Handle : Type) [DecidableEq Handle]
    (parse : String → Option Addr) (parseIpv4 : String → Option Gns.Ipv4Addr) :
    (∀ (actions : List (Act (Udp.PeerAction Addr))) (s : State (Udp.UdpPeer Addr)),
        (Udp.UdpPeer.machine parse).Abandoned actions s →
          ((Udp.UdpPeer.machine parse).ReachesExit s ↔
            ∃ cmd ∈ (Udp.UdpPeer.machine parse).processed Udp.UdpPeer.taken actions,
              cmd = .shutdown)) ∧
      (∀ (actions : List (Act Tcp.Action)) (s : State Tcp.TcpBackend),
        Tcp.TcpBackend.machine.Abandoned actions s →
          (Tcp.TcpBackend.machine.ReachesExit s ↔
            ∃ x ∈ Tcp.TcpBackend.machine.processed Tcp.TcpBackend.taken actions,
              Tcp.TcpBackend.Fatal x)) ∧
      (∀ (actions : List (Act Quic.Action)) (s : State Quic.QuicBackend),
        Quic.QuicBackend.machine.Abandoned actions s →
          (Quic.QuicBackend.machine.ReachesExit s ↔
            ∃ x ∈ Quic.QuicBackend.machine.processed Quic.QuicBackend.taken actions, x.Fatal)) ∧
      ∀ (actions : List (Act (Gns.PeerAction Handle))) (s : State (Gns.GnsPeer Handle)),
        (Gns.GnsPeer.machine parseIpv4).Abandoned actions s →
          ((Gns.GnsPeer.machine parseIpv4).ReachesExit s ↔
            ∃ x ∈ (Gns.GnsPeer.machine parseIpv4).processed Gns.GnsPeer.taken actions,
              Gns.GnsPeer.Fatal x) :=
  ⟨fun _ _ hs => Udp.UdpPeer.endedBy.exits_iff hs,
    fun _ _ hs => Tcp.TcpBackend.endedBy.exits_iff hs,
    fun _ _ hs => Quic.QuicBackend.endedBy.exits_iff hs,
    fun _ _ hs => Gns.GnsPeer.endedBy.exits_iff hs⟩

/-! ## An application that shuts its backend down, and one that does not -/

def udpActions (cmd : BackendCommand) : List (Act (Udp.PeerAction Nat)) :=
  [.act (.issue cmd), .act (.host (.command { bindOk := true, newV4 := Uuid.nil })), .drop]

def tcpActions (cmd : BackendCommand) : List (Act Tcp.Action) :=
  [.act (.issue cmd),
    .act (.command { bindOk := true, connectOk := true, newV4 := Uuid.nil }), .drop]

def quicActions (cmd : BackendCommand) : List (Act Quic.Action) :=
  [.act (.issue cmd), .act (.command .allOk), .drop]

def gnsActions (cmd : BackendCommand) : List (Act (Gns.PeerAction Nat)) :=
  [.act (.issue cmd), .act (.command { listenOk := true, connectOk := true }), .drop]

theorem exits_after_shutdown :
    (∃ s, (Udp.UdpPeer.machine fun _ => some 1).Abandoned (udpActions .shutdown) s ∧
        (Udp.UdpPeer.machine fun _ => some 1).ReachesExit s) ∧
      (∃ s, Tcp.TcpBackend.machine.Abandoned (tcpActions .shutdown) s ∧
        Tcp.TcpBackend.machine.ReachesExit s) ∧
      (∃ s, Quic.QuicBackend.machine.Abandoned (quicActions .shutdown) s ∧
        Quic.QuicBackend.machine.ReachesExit s) ∧
      ∃ s, (Gns.GnsPeer.machine fun _ => none).Abandoned (gnsActions .shutdown) s ∧
        (Gns.GnsPeer.machine fun _ => none).ReachesExit s := by
  have hexits := exits_iff_ended_by_command Nat Nat (fun _ => some 1) (fun _ => none)
  refine ⟨⟨_, ⟨rfl, rfl, rfl⟩, ?_⟩, ⟨_, ⟨rfl, rfl, rfl⟩, ?_⟩, ⟨_, ⟨rfl, rfl, rfl⟩, ?_⟩,
    ⟨_, ⟨rfl, rfl, rfl⟩, ?_⟩⟩
  · exact (hexits.1 (udpActions .shutdown) _ ⟨rfl, rfl, rfl⟩).mpr
      ⟨.shutdown, List.mem_cons_self, rfl⟩
  · exact (hexits.2.1 (tcpActions .shutdown) _ ⟨rfl, rfl, rfl⟩).mpr
      ⟨_, List.mem_cons_self, trivial⟩
  · exact (hexits.2.2.1 (quicActions .shutdown) _ ⟨rfl, rfl, rfl⟩).mpr
      ⟨_, List.mem_cons_self, trivial⟩
  · exact (hexits.2.2.2 (gnsActions .shutdown) _ ⟨rfl, rfl, rfl⟩).mpr
      ⟨_, List.mem_cons_self, trivial⟩

/-- An application that connects and then drops its handle leaves a thread behind: three loops
wait for nothing, and the fourth goes round. -/
theorem stays_after_connect :
    (∃ s, (Udp.UdpPeer.machine fun _ => some 1).Abandoned
          (udpActions (.connect "127.0.0.1" 8080)) s ∧
        s.machine.turn false = .waits ∧ ¬ (Udp.UdpPeer.machine fun _ => some 1).ReachesExit s) ∧
      (∃ s, Tcp.TcpBackend.machine.Abandoned (tcpActions (.connect "127.0.0.1" 8080)) s ∧
        s.machine.turn false = .waits ∧ ¬ Tcp.TcpBackend.machine.ReachesExit s) ∧
      (∃ s, Quic.QuicBackend.machine.Abandoned (quicActions (.connect "127.0.0.1" 8080)) s ∧
        s.machine.turn false = .waits ∧ ¬ Quic.QuicBackend.machine.ReachesExit s) ∧
      ∃ s, (Gns.GnsPeer.machine fun _ => some Gns.Ipv4Addr.localhost).Abandoned
          (gnsActions (.connect "127.0.0.1" 8080)) s ∧
        s.machine.turn false = .runs ∧
          ¬ (Gns.GnsPeer.machine fun _ => some Gns.Ipv4Addr.localhost).ReachesExit s := by
  refine ⟨⟨_, ⟨rfl, rfl, rfl⟩, rfl, ?_⟩, ⟨_, ⟨rfl, rfl, rfl⟩, rfl, ?_⟩,
    ⟨_, ⟨rfl, rfl, rfl⟩, rfl, ?_⟩, ⟨_, ⟨rfl, rfl, rfl⟩, rfl, ?_⟩⟩
  · intro hexit
    exact Bool.false_ne_true ((Udp.UdpPeer.endedBy.reachesExit_iff rfl rfl).mp hexit)
  · intro hexit
    exact Bool.false_ne_true ((Tcp.TcpBackend.endedBy.reachesExit_iff rfl rfl).mp hexit)
  · intro hexit
    exact Bool.false_ne_true ((Quic.QuicBackend.endedBy.reachesExit_iff rfl rfl).mp hexit)
  · intro hexit
    exact Bool.false_ne_true ((Gns.GnsPeer.endedBy.reachesExit_iff rfl rfl).mp hexit)

end GameSockets
