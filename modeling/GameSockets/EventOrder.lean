/-
What the application may rely on in the order of the events, backend by backend.

A `Message` is always introduced.  That a stream is announced once, and that it stays
closed, depends on what is done to it: `CreateStream` and `CloseStream` do not reach the
list that the receiving side keeps of the streams it knows.
-/
import GameSockets.Gns.Events
import GameSockets.Quic.Events
import GameSockets.Tcp.Events
import GameSockets.Udp.Events

namespace GameSockets

open Library

/-- The backends, by the protocol they speak. -/
inductive TestProtocol where
  | udp
  | tcp
  | quic
  | gns
deriving DecidableEq

/-- The events of a run of the backend, and what the run does to each stream. -/
inductive Runs : TestProtocol → List GameNetworkEvent →
    (Uuid → GameStream → List StreamAct) → Prop where
  | udp {Addr : Type} (parse : String → Option Addr) (inputs : List (Udp.Input Addr))
    (s : Udp.UdpRun Addr)
    (hrun : Run.run (Udp.UdpRun.step parse) Udp.UdpRun.init inputs = some s) :
    Runs .udp s.events (Udp.UdpRun.history parse inputs)
  | tcp (actions : List Tcp.Action) (s : Tcp.TcpBackend)
    (hrun : Run.run Tcp.TcpBackend.step Tcp.TcpBackend.init actions = some s) :
    Runs .tcp s.peer.eventRx.log (Tcp.TcpBackend.history actions)
  | quic (actions : List Quic.Action) (s : Quic.QuicBackend)
    (hrun : Run.run Quic.QuicBackend.step Quic.QuicBackend.init actions = some s) :
    Runs .quic s.peer.eventRx.log (Quic.QuicBackend.history actions)
  | gns {Handle : Type} [DecidableEq Handle] (parse : String → Option Gns.Ipv4Addr)
    (inputs : List (Gns.Input Handle)) (s : Gns.GnsRun Handle)
    (hrun : Run.run (Gns.GnsRun.step parse) Gns.GnsRun.init inputs = some s) :
    Runs .gns s.events (Gns.GnsRun.history parse inputs)

theorem Runs.enacts {protocol : TestProtocol} {events : List GameNetworkEvent}
    {history : Uuid → GameStream → List StreamAct} (h : Runs protocol events history) :
    Enacts history events := by
  cases h with
  | udp _ _ _ hrun => exact Udp.UdpRun.enacts_of_run hrun
  | tcp _ _ hrun => exact Tcp.TcpBackend.enacts_of_run hrun
  | quic _ _ hrun => exact Quic.QuicBackend.enacts_of_run hrun
  | gns _ _ _ hrun => exact Gns.GnsRun.enacts_of_run hrun

/-- In every run of the three backends each `Message` comes after the `Connected` of its
connection and the `StreamCreated` of its stream, and not after the `Disconnected`. -/
theorem messages_introduced :
    (∀ {Addr : Type} (parse : String → Option Addr) (inputs : List (Udp.Input Addr))
        (s : Udp.UdpRun Addr),
        Run.run (Udp.UdpRun.step parse) Udp.UdpRun.init inputs = some s → Introduces s.events) ∧
      (∀ (actions : List Tcp.Action) (s : Tcp.TcpBackend),
        Run.run Tcp.TcpBackend.step Tcp.TcpBackend.init actions = some s →
          Introduces s.peer.eventRx.log) ∧
      ∀ {Handle : Type} [DecidableEq Handle] (parse : String → Option Gns.Ipv4Addr)
        (inputs : List (Gns.Input Handle)) (s : Gns.GnsRun Handle),
        Run.Along (Gns.GnsRun.step parse) Gns.GnsRun.Assumed Gns.GnsRun.init inputs →
          Run.run (Gns.GnsRun.step parse) Gns.GnsRun.init inputs = some s →
            Introduces s.events := by
  refine ⟨?_, ?_, ?_⟩
  · intro Addr parse inputs s hrun
    exact (Udp.UdpRun.announced_of_run hrun).introduces
  · intro actions s hrun
    exact (Tcp.TcpBackend.announced_of_run hrun).introduces
  · intro Handle _ parse inputs s hassumed hrun
    exact (Gns.GnsRun.announced_of_run hassumed hrun).introduces

/-! ## A stream is created, and its packets come back -/

def udpEcho : List (Udp.Input Nat) :=
  [.command { bindOk := true, newV4 := Uuid.nil } (.connect "127.0.0.1" 8080),
    .command { bindOk := true, newV4 := Uuid.nil } (.createStream Uuid.nil 1 .reliable),
    .datagram (Udp.packet Uuid.nil (GameStream.new 1 .reliable) [9]) 1]

def tcpEcho : List Tcp.Action :=
  [.issue (.connect "127.0.0.1" 8080), .command Tcp.TcpBackend.allOk,
    .issue (.createStream Uuid.nil 1 .reliable), .command Tcp.TcpBackend.allOk,
    .handler Uuid.nil
      (.read (Framing.frame Tcp.lengthSize (Tcp.packet (GameStream.new 1 .reliable) [9]))),
    .handler Uuid.nil .decode]

def gnsEcho : List (Gns.Input Nat) :=
  [.command { listenOk := true, connectOk := true } (.connect "127.0.0.1" 8080),
    .event { acceptOk := true, newV4 := Uuid.nil } 1 .connecting .connected,
    .command { listenOk := true, connectOk := true } (.createStream Uuid.nil 1 .reliable),
    .message 1 (Gns.packet (GameStream.new 1 .reliable) [9])]

theorem messages_introduced_echo :
    (∃ s, Run.run (Udp.UdpRun.step fun _ => some 1) Udp.UdpRun.init udpEcho = some s ∧
        .message Uuid.nil (GameStream.new 1 .reliable) [9] ∈ s.events ∧ Introduces s.events) ∧
      (∃ s, Run.run Tcp.TcpBackend.step Tcp.TcpBackend.init tcpEcho = some s ∧
        .message Uuid.nil (GameStream.new 1 .reliable) [9] ∈ s.peer.eventRx.log ∧
        Introduces s.peer.eventRx.log) ∧
      ∃ s, Run.run (Gns.GnsRun.step fun _ => none) Gns.GnsRun.init gnsEcho = some s ∧
        .message Uuid.nil (GameStream.new 1 .reliable) [9] ∈ s.events ∧ Introduces s.events := by
  refine ⟨⟨_, rfl, by decide +kernel, ?_⟩, ⟨_, rfl, by decide +kernel, ?_⟩,
    ⟨_, rfl, by decide +kernel, ?_⟩⟩
  · exact messages_introduced.1 (fun _ => some 1) udpEcho _ rfl
  · exact messages_introduced.2.1 tcpEcho _ rfl
  · exact messages_introduced.2.2 (fun _ => none) gnsEcho _ (by decide +kernel) rfl

/-! ## A stream is closed, and another of its packets arrives -/

def udpLate (between : List (Udp.Input Nat)) : List (Udp.Input Nat) :=
  [.command { bindOk := true, newV4 := Uuid.nil } (.connect "127.0.0.1" 8080),
    .datagram (Udp.packet Uuid.nil { streamId := 4 } [8]) 1,
    .command { bindOk := true, newV4 := Uuid.nil } (.closeStream Uuid.nil 4)] ++
    between ++ [.datagram (Udp.packet Uuid.nil { streamId := 4 } [9]) 1]

def tcpLate (between : List Tcp.Action) : List Tcp.Action :=
  [.issue (.connect "127.0.0.1" 8080), .command Tcp.TcpBackend.allOk,
    .handler Uuid.nil
      (.read (Framing.frame Tcp.lengthSize (Tcp.packet { streamId := 4 } [8]))),
    .handler Uuid.nil .decode,
    .issue (.closeStream Uuid.nil 4), .command Tcp.TcpBackend.allOk] ++
    between ++
    [.handler Uuid.nil
      (.read (Framing.frame Tcp.lengthSize (Tcp.packet { streamId := 4 } [9]))),
    .handler Uuid.nil .decode]

def quicLate (between : List Quic.Action) : List Quic.Action :=
  [.issue (.connect "127.0.0.1" 8080), .command .allOk,
    .readDatagram Uuid.nil [0, 4, 8], .registerStream, .sendDatagram Uuid.nil,
    .issue (.closeStream Uuid.nil 4), .command .allOk] ++
    between ++ [.readDatagram Uuid.nil [0, 4, 9], .sendDatagram Uuid.nil]

def gnsLate (between : List (Gns.Input Nat)) : List (Gns.Input Nat) :=
  [.command { listenOk := true, connectOk := true } (.connect "127.0.0.1" 8080),
    .event { acceptOk := true, newV4 := Uuid.nil } 1 .connecting .connected,
    .message 1 (Gns.packet { streamId := 4 } [8]),
    .command { listenOk := true, connectOk := true } (.closeStream Uuid.nil 4)] ++
    between ++ [.message 1 (Gns.packet { streamId := 4 } [9])]

/-! The application creates the stream anew before that. -/

def udpReopened : List (Udp.Input Nat) :=
  udpLate [.command { bindOk := true, newV4 := Uuid.nil } (.createStream Uuid.nil 1 .unreliable)]

def tcpReopened : List Tcp.Action :=
  tcpLate [.issue (.createStream Uuid.nil 1 .unreliable), .command Tcp.TcpBackend.allOk]

def quicReopened : List Quic.Action :=
  quicLate [.issue (.createStream Uuid.nil 1 .unreliable), .command .allOk, .registerStream]

def gnsReopened : List (Gns.Input Nat) :=
  gnsLate [.command { listenOk := true, connectOk := true } (.createStream Uuid.nil 1 .unreliable)]

/-- The events of the reopened stream, in each of the four backends. -/
def reopenedEvents : List GameNetworkEvent :=
  [.connected Uuid.nil, .streamCreated Uuid.nil { streamId := 4 },
    .message Uuid.nil { streamId := 4 } [8], .streamClosed Uuid.nil { streamId := 4 },
    .streamCreated Uuid.nil { streamId := 4 }, .message Uuid.nil { streamId := 4 } [9]]

theorem streamMarks_reopenedEvents (c : Uuid) (s : GameStream) :
    streamMarks c s reopenedEvents =
      if Uuid.nil = c ∧ { streamId := 4 } = s then [.created, .message, .closed, .created, .message]
      else [] := by
  split
  · next h =>
    obtain ⟨rfl, rfl⟩ := h
    rfl
  · next h => simp [streamMarks, reopenedEvents, GameNetworkEvent.mark, h]

theorem announcesOnce_reopenedEvents : AnnouncesOnce reopenedEvents := by
  refine announcesOnce_iff_marks.mpr fun c s => ?_
  rw [streamMarks_reopenedEvents]
  split <;> decide

theorem staysClosed_reopenedEvents : StaysClosed reopenedEvents := by
  refine staysClosed_iff_marks.mpr fun c s => ?_
  rw [streamMarks_reopenedEvents]
  split <;> decide

/-! ## What is announced once, and what stays closed -/

/-- Streams are announced once exactly when each `CreateStream`, and each first payload on
a stream that the receiving side does not know, finds the stream closed since it was last
announced. -/
theorem announced_once_iff {protocol : TestProtocol} {events : List GameNetworkEvent}
    {history : Uuid → GameStream → List StreamAct} (hrun : Runs protocol events history) :
    AnnouncesOnce events ↔ ∀ c st, OpenedOnce (history c st) :=
  announcesOnce_iff hrun.enacts

theorem announced_once_reopened :
    (∃ s, Run.run (Udp.UdpRun.step fun _ => some 1) Udp.UdpRun.init udpReopened = some s ∧
        s.events = reopenedEvents ∧ AnnouncesOnce s.events ∧
        ∀ c st, OpenedOnce (Udp.UdpRun.history (fun _ => some 1) udpReopened c st)) ∧
      (∃ s, Run.run Tcp.TcpBackend.step Tcp.TcpBackend.init tcpReopened = some s ∧
        s.peer.eventRx.log = reopenedEvents ∧ AnnouncesOnce s.peer.eventRx.log ∧
        ∀ c st, OpenedOnce (Tcp.TcpBackend.history tcpReopened c st)) ∧
      ∃ s, Run.run (Gns.GnsRun.step fun _ => none) Gns.GnsRun.init gnsReopened = some s ∧
        s.events = reopenedEvents ∧ AnnouncesOnce s.events ∧
        ∀ c st, OpenedOnce (Gns.GnsRun.history (fun _ => none) gnsReopened c st) := by
  have honce := announcesOnce_reopenedEvents
  exact ⟨⟨_, rfl, rfl, honce,
      (announced_once_iff (.udp (fun _ => some 1) udpReopened _ rfl)).mp honce⟩,
    ⟨_, rfl, rfl, honce, (announced_once_iff (.tcp tcpReopened _ rfl)).mp honce⟩,
    ⟨_, rfl, rfl, honce,
      (announced_once_iff (.gns (fun _ => none) gnsReopened _ rfl)).mp honce⟩⟩

/-- The events of the echo, in each of the three backends. -/
def echoEvents : List GameNetworkEvent :=
  [.connected Uuid.nil, .streamCreated Uuid.nil (GameStream.new 1 .reliable),
    .streamCreated Uuid.nil (GameStream.new 1 .reliable),
    .message Uuid.nil (GameStream.new 1 .reliable) [9]]

theorem not_announcesOnce_echoEvents : ¬ AnnouncesOnce echoEvents := by
  intro h
  have hclosed := h Uuid.nil (GameStream.new 1 .reliable) [.connected Uuid.nil] []
    [.message Uuid.nil (GameStream.new 1 .reliable) [9]] rfl
  cases hclosed

/-- A stream that the application has created is announced again when the first of its
packets comes back. -/
theorem announced_twice :
    (∃ s, Run.run (Udp.UdpRun.step fun _ => some 1) Udp.UdpRun.init udpEcho = some s ∧
        ¬ AnnouncesOnce s.events) ∧
      (∃ s, Run.run Tcp.TcpBackend.step Tcp.TcpBackend.init tcpEcho = some s ∧
        ¬ AnnouncesOnce s.peer.eventRx.log) ∧
      ∃ s, Run.run (Gns.GnsRun.step fun _ => none) Gns.GnsRun.init gnsEcho = some s ∧
        ¬ AnnouncesOnce s.events := by
  refine ⟨⟨_, rfl, ?_⟩, ⟨_, rfl, ?_⟩, ⟨_, rfl, ?_⟩⟩
  · exact not_announcesOnce_echoEvents
  · exact not_announcesOnce_echoEvents
  · exact not_announcesOnce_echoEvents

/-- A closed stream delivers nothing before it is announced again exactly when no payload
comes on it that its receiving side takes for one of a known stream. -/
theorem stays_closed_iff {protocol : TestProtocol} {events : List GameNetworkEvent}
    {history : Uuid → GameStream → List StreamAct} (hrun : Runs protocol events history) :
    StaysClosed events ↔ ∀ c st, QuietClosed (history c st) :=
  staysClosed_iff hrun.enacts

theorem stays_closed_reopened :
    (∃ s, Run.run (Udp.UdpRun.step fun _ => some 1) Udp.UdpRun.init udpReopened = some s ∧
        s.events = reopenedEvents ∧ StaysClosed s.events ∧
        ∀ c st, QuietClosed (Udp.UdpRun.history (fun _ => some 1) udpReopened c st)) ∧
      (∃ s, Run.run Tcp.TcpBackend.step Tcp.TcpBackend.init tcpReopened = some s ∧
        s.peer.eventRx.log = reopenedEvents ∧ StaysClosed s.peer.eventRx.log ∧
        ∀ c st, QuietClosed (Tcp.TcpBackend.history tcpReopened c st)) ∧
      (∃ s, Run.run Quic.QuicBackend.step Quic.QuicBackend.init quicReopened = some s ∧
        s.peer.eventRx.log = reopenedEvents ∧ StaysClosed s.peer.eventRx.log ∧
        ∀ c st, QuietClosed (Quic.QuicBackend.history quicReopened c st)) ∧
      ∃ s, Run.run (Gns.GnsRun.step fun _ => none) Gns.GnsRun.init gnsReopened = some s ∧
        s.events = reopenedEvents ∧ StaysClosed s.events ∧
        ∀ c st, QuietClosed (Gns.GnsRun.history (fun _ => none) gnsReopened c st) := by
  have hquiet := staysClosed_reopenedEvents
  exact ⟨⟨_, rfl, rfl, hquiet,
      (stays_closed_iff (.udp (fun _ => some 1) udpReopened _ rfl)).mp hquiet⟩,
    ⟨_, rfl, rfl, hquiet, (stays_closed_iff (.tcp tcpReopened _ rfl)).mp hquiet⟩,
    ⟨_, rfl, rfl, hquiet, (stays_closed_iff (.quic quicReopened _ rfl)).mp hquiet⟩,
    ⟨_, rfl, rfl, hquiet,
      (stays_closed_iff (.gns (fun _ => none) gnsReopened _ rfl)).mp hquiet⟩⟩

/-- The events of the late packet, in each of the four backends. -/
def lateEvents : List GameNetworkEvent :=
  [.connected Uuid.nil, .streamCreated Uuid.nil { streamId := 4 },
    .message Uuid.nil { streamId := 4 } [8], .streamClosed Uuid.nil { streamId := 4 },
    .message Uuid.nil { streamId := 4 } [9]]

theorem not_staysClosed_lateEvents : ¬ StaysClosed lateEvents := by
  intro h
  have hcreated := h Uuid.nil { streamId := 4 } [9]
    [.connected Uuid.nil, .streamCreated Uuid.nil { streamId := 4 },
      .message Uuid.nil { streamId := 4 } [8]] [] [] rfl
  cases hcreated

/-- A packet that arrives on a closed stream is delivered without another announcement. -/
theorem message_after_closed :
    (∃ s, Run.run (Udp.UdpRun.step fun _ => some 1) Udp.UdpRun.init (udpLate []) = some s ∧
        ¬ StaysClosed s.events) ∧
      (∃ s, Run.run Tcp.TcpBackend.step Tcp.TcpBackend.init (tcpLate []) = some s ∧
        ¬ StaysClosed s.peer.eventRx.log) ∧
      (∃ s, Run.run Quic.QuicBackend.step Quic.QuicBackend.init (quicLate []) = some s ∧
        ¬ StaysClosed s.peer.eventRx.log) ∧
      ∃ s, Run.run (Gns.GnsRun.step fun _ => none) Gns.GnsRun.init (gnsLate []) = some s ∧
        ¬ StaysClosed s.events := by
  refine ⟨⟨_, rfl, ?_⟩, ⟨_, rfl, ?_⟩, ⟨_, rfl, ?_⟩, ⟨_, rfl, ?_⟩⟩
  · exact not_staysClosed_lateEvents
  · exact not_staysClosed_lateEvents
  · exact not_staysClosed_lateEvents
  · exact not_staysClosed_lateEvents

end GameSockets
