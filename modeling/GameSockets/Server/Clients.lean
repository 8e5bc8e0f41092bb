/-
Whom the server takes for its clients.

`GlobalState` is written by `Connected` and `Disconnected` alone, so it is right as far as the
backend tells each connection's life in order.  The backend is any of the four, and runs beside
the loop.
-/
import GameSockets.Lifecycle
import GameSockets.Server.Replies

namespace GameSockets
namespace Server

open Library GamePeer

/-- The connection that an event begins. -/
def opened : GameNetworkEvent → Option Uuid
  | .connected c => some c
  | _ => none

/-- The connections that have begun and not ended, in the order of their beginnings. -/
def live (events : List GameNetworkEvent) : List Uuid :=
  (events.filterMap opened).filter fun c => .disconnected c ∉ events

/-- What happens to a server: its loop makes a pass, and its backend puts out an event, takes a
command or ends. -/
inductive HostAction where
  | pass
  | emit (e : GameNetworkEvent)
  | take
  | stop
deriving DecidableEq

section Clients

variable (crc : Bytes → UInt32)

def hostStep (st : ServerState) : HostAction → Option ServerState
  | .pass => step crc st
  | .emit e => some { st with peer := { st.peer with eventRx := st.peer.eventRx.send e } }
  | .take => st.peer.cmdTx.recv.map fun (_, tx) => { st with peer := { st.peer with cmdTx := tx } }
  | .stop => some { st with peer := { st.peer with alive := false } }

variable {crc} {events : List GameNetworkEvent}

theorem mem_opened {c : Uuid} : c ∈ events.filterMap opened ↔ .connected c ∈ events := by
  rw [List.mem_filterMap]
  constructor
  · rintro ⟨e, he, hopened⟩
    cases e with
    | connected u =>
      cases hopened
      exact he
    | _ => cases hopened
  · exact fun hc => ⟨_, hc, rfl⟩

theorem mem_live {c : Uuid} :
    c ∈ live events ↔ .connected c ∈ events ∧ .disconnected c ∉ events := by
  rw [live, List.mem_filter, mem_opened, decide_eq_true_eq]

/-- A connection that begins once is opened once. -/
theorem nodup_opened (h : LivesOnce events) : (events.filterMap opened).Nodup := by
  have hcount : ∀ c, (events.filterMap opened).count c = (life c events).count .opens := by
    intro c
    rw [life, List.count_filterMap, List.count_filterMap]
    refine List.countP_congr fun e _ => ?_
    cases e <;> simp [opened, GameNetworkEvent.lifeMark]
  rw [List.nodup_iff_count_le_one]
  intro c
  rw [hcount]
  exact (h c).sublist.count_le _

theorem live_of_passes {e : GameNetworkEvent} (h : e.Passes) :
    live (events ++ [e]) = live events := by
  have hopened : opened e = none := by
    cases e with
    | connected u => exact absurd rfl (h u).1
    | _ => rfl
  have hend : ∀ c, .disconnected c ∈ events ++ [e] ↔ .disconnected c ∈ events := by
    intro c
    rw [List.mem_append, List.mem_singleton]
    exact or_iff_left (fun heq => (h c).2 heq.symm)
  rw [live, live, List.filterMap_append, List.filterMap_cons_none hopened, List.filterMap_nil,
    List.append_nil]
  exact List.filter_congr fun c _ => by simp only [hend]

theorem live_connected {c : Uuid} (h : LivesOnce (events ++ [.connected c])) :
    live (events ++ [.connected c]) = live events ++ [c] := by
  have hnot : .disconnected c ∉ events := by
    rw [← ends_mem_life, h.life_before_connected]
    exact List.not_mem_nil
  have hend : ∀ u, .disconnected u ∈ events ++ [.connected c] ↔ .disconnected u ∈ events := by
    simp
  simp only [live, List.filterMap_append, List.filter_append, hend]
  simp [opened, hnot]

theorem live_disconnected (events : List GameNetworkEvent) (c : Uuid) :
    live (events ++ [.disconnected c]) = (live events).filter (· ≠ c) := by
  simp only [live, List.filterMap_append, List.filter_filter]
  rw [show [GameNetworkEvent.disconnected c].filterMap opened = [] from rfl, List.append_nil]
  refine List.filter_congr fun u _ => ?_
  simp [and_comm]

/-! ## The loop -/

theorem handleEvent_clients (st : ServerState) (e : GameNetworkEvent) :
    (handleEvent crc st e).clients = match e with
      | .connected c => st.clients ++ [c]
      | .disconnected c => st.clients.filter (· ≠ c)
      | _ => st.clients := by
  cases e with
  | message c stream data =>
    rw [handleEvent]
    split
    · rfl
    · next packet _ => cases st.peer.send c stream (packet.toBytes crc) <;> rfl
  | _ => rfl

/-- The clients are the live connections of the events polled, as far as these tell each life in
order. -/
def Listed (st : ServerState) : Prop :=
  LivesOnce st.peer.eventRx.received → st.clients = live st.peer.eventRx.received

theorem listed_pass {st st' : ServerState} (h : Listed st) (hstep : step crc st = some st') :
    Listed st' := by
  simp only [step] at hstep
  split at hstep
  · cases hstep
    unfold poll
    split
    · exact h
    · exact h
    · next e peer hpoll =>
      obtain ⟨rx, hrecv, rfl⟩ := poll_eq_some hpoll
      have hreceived : rx.received = st.peer.eventRx.received ++ [e] :=
        (Channel.recv_eq_some hrecv).2
      intro hlives
      rw [handleEvent_clients]
      rw [(handleEvent_sends _ e).1] at hlives ⊢
      dsimp only at hlives ⊢
      rw [hreceived] at hlives ⊢
      have hclients := h (hlives.of_prefix (List.prefix_append _ _))
      cases e with
      | connected c => rw [live_connected hlives, ← hclients]
      | disconnected c => rw [live_disconnected, ← hclients]
      | _ =>
        rw [live_of_passes (by simp [GameNetworkEvent.Passes]), ← hclients]
  · cases hstep

theorem listed_hostStep {st st' : ServerState} {a : HostAction} (h : Listed st)
    (hstep : hostStep crc st a = some st') : Listed st' := by
  cases a with
  | pass => exact listed_pass h hstep
  | emit e =>
    cases hstep
    exact h
  | take =>
    obtain ⟨⟨cmd, tx⟩, -, rfl⟩ := Option.map_eq_some_iff.mp hstep
    exact h
  | stop =>
    cases hstep
    exact h

/-- In every run of the server beside one of the backends, its clients are the connections that it
has heard to begin and not to end, each once and in the order of their beginnings.  Over UDP and
QUIC nobody is ever dropped. -/
theorem clients_live {protocol : TestProtocol} {ip : String} {port : UInt16}
    {actions : List HostAction} {s : ServerState}
    (hhosts : Hosts protocol events)
    (hrun : Run.run (hostStep crc) (init ip port) actions = some s)
    (hevents : s.peer.eventRx.log <+: events) :
    s.clients = live s.peer.eventRx.received ∧ s.clients.Nodup ∧
      (∀ c, c ∈ s.clients ↔
        .connected c ∈ s.peer.eventRx.received ∧ .disconnected c ∉ s.peer.eventRx.received) ∧
      (.ends ∉ protocol.lifetime → s.clients = s.peer.eventRx.received.filterMap opened) := by
  have hpre : s.peer.eventRx.received <+: events :=
    (List.prefix_append _ _).trans hevents
  have hlives := hhosts.livesOnce.of_prefix hpre
  have hlisted : Listed s :=
    Run.invariant_of_run (fun _ _ _ => listed_hostStep) (fun _ => rfl) hrun
  have hclients := hlisted hlives
  refine ⟨hclients, ?_, fun c => ?_, fun hends => ?_⟩
  · rw [hclients]
    exact (nodup_opened hlives).filter _
  · rw [hclients, mem_live]
  · rw [hclients, live, List.filter_eq_self]
    intro c _
    have hlife := hhosts.life_isPrefix c
    rw [decide_eq_true_eq]
    intro hc
    exact hends (hlife.subset (ends_mem_life.mpr (hpre.subset hc)))

end Clients

/-- Two clients come over TCP, and the first of them leaves. -/
def twoVisits : List Tcp.Action :=
  [.issue (.bind "0.0.0.0" 8080), .command Tcp.TcpBackend.allOk, .announce 0 Uuid.nil, .spawn 0,
    .handOver 0, .announce 0 Gns.otherUuid, .handler Uuid.nil .hangUp]

/-- The server polls the three events. -/
def twoPasses : List HostAction :=
  [.take, .emit (.connected Uuid.nil), .pass, .emit (.connected Gns.otherUuid),
    .emit (.disconnected Uuid.nil), .pass, .pass]

theorem clients_live_twoVisits :
    ∃ backend s, Run.run Tcp.TcpBackend.step Tcp.TcpBackend.init twoVisits = some backend ∧
      Run.run (hostStep fun _ => 0) (init "0.0.0.0" 8080) twoPasses = some s ∧
      s.clients = [Gns.otherUuid] ∧ s.clients.Nodup := by
  refine ⟨_, _, rfl, rfl, by decide +kernel, ?_⟩
  exact (@clients_live (fun _ => 0) _ .tcp "0.0.0.0" 8080 twoPasses _ (.tcp twoVisits _ rfl) rfl
    (by decide +kernel)).2.1

end Server
end GameSockets
