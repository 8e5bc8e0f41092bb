/-
What stays in the peer table.

A UUID enters `peers` with its connection and nothing takes it out.  So the table holds the
live connections until the first of them ends, and from then on it holds the dead ones too.
-/
import GameSockets.Tcp.Events

namespace GameSockets
namespace Tcp

open Library Handover

deriving instance DecidableEq for Decoded

/-- A task that has ended, or that has nothing left to send or to decode. -/
def PeerHandler.Quiescent (h : PeerHandler) : Prop :=
  h.phase = .closed ∨
    h.phase = .selecting ∧ h.writeRx.pending = [] ∧ decodeFrame h.readBuf = .incomplete

namespace TcpBackend

/-- No UUID is on its way to the loop, and the handlers rest. -/
structure Quiescent (s : TcpBackend) : Prop where
  registration : s.waiting = []
  handlers : ∀ c h, s.handlers c = some h → h.Quiescent

/-- The keys of `peers` are the connections announced and not ended. -/
def PeersLive (s : TcpBackend) : Prop :=
  ∀ c, c ∈ s.peers ↔
    .connected c ∈ s.peer.eventRx.log ∧ .disconnected c ∉ s.peer.eventRx.log

/-- The action ends a handler: its peer hangs up, or announces a frame that is too long. -/
def Ends (s : TcpBackend) : Action → Prop
  | .handler _ .hangUp => True
  | .handler uuid .decode => ∃ h ∈ s.handlers uuid, decodeFrame h.readBuf = .tooLong
  | _ => False

/-- A handler says goodbye exactly when it ends. -/
theorem disconnected_mem_iff {s t : TcpBackend} {a : Action} {new : List GameNetworkEvent}
    (hvoice : Voices s t a new) : (∃ c, .disconnected c ∈ new) ↔ Ends s a := by
  cases hvoice with
  | silent hother =>
    refine iff_of_false (by simp) ?_
    cases a with
    | handler uuid b => exact absurd rfl (hother uuid b)
    | _ => exact id
  | command _ _ hquiet => exact iff_of_false (fun ⟨c, hc⟩ => (hquiet _ hc).2 c rfl) id
  | announce => exact iff_of_false (by simp) id
  | @handler uuid b h h' events hs _ hb =>
    have hsaid := (PeerHandler.says_of_step hb).2
    cases PeerHandler.steps_of_step hb with
    | frame hphase hdecode =>
      refine iff_of_false (fun ⟨c, hc⟩ => ?_) fun ⟨h', hs', hdecode'⟩ => ?_
      · cases hsaid with
        | nothing => cases hc
        | goodbye _ hclosed => exact absurd (hphase.symm.trans hclosed) (by simp)
        | again => simp at hc
        | first => simp at hc
      · rw [hs] at hs'
        cases hs'
        rw [hdecode] at hdecode'
        cases hdecode'
    | tooLong _ hdecode =>
      exact iff_of_true ⟨uuid, List.mem_singleton_self _⟩ ⟨h, hs, hdecode⟩
    | hangUp => exact iff_of_true ⟨uuid, List.mem_singleton_self _⟩ trivial
    | read => exact iff_of_false (by simp) id
    | refuse => exact iff_of_false (by simp) id
    | take => exact iff_of_false (by simp) id
    | write => exact iff_of_false (by simp) id
    | writeFail => exact iff_of_false (by simp) id

/-- Nothing has ended in a run none of whose steps ends a handler. -/
theorem noneEnded_iff {actions : List Action} {s : TcpBackend}
    (hrun : Run.run step init actions = some s) :
    (∀ c, .disconnected c ∉ s.peer.eventRx.log) ↔
      Run.Along step (fun s a => ¬ Ends s a) init actions := by
  have hstep : ∀ (u : TcpBackend) a t, True → u.step a = some t →
      ((∀ c, .disconnected c ∉ t.peer.eventRx.log) ↔
        (∀ c, .disconnected c ∉ u.peer.eventRx.log) ∧ ¬ Ends u a) := by
    intro u a t _ hstep
    obtain ⟨new, hlog, hvoice⟩ := step_voices hstep
    rw [← disconnected_mem_iff hvoice, not_exists, ← forall_and]
    refine forall_congr' fun c => ?_
    rw [hlog, List.mem_append, not_or]
  have hinit : ∀ c, .disconnected c ∉ init.peer.eventRx.log := fun c hc => by cases hc
  rw [Run.along_iff (fun _ _ _ _ _ => trivial) hstep actions trivial hrun, and_iff_right hinit]

/-- With nothing on its way the places are the table. -/
theorem places_of_waiting {s : TcpBackend} (h : s.waiting = []) : s.places = s.peers := by
  rw [waiting] at h
  rw [places, gather, h, List.append_nil]

/-- The table holds every connection that was announced. -/
theorem Quiescent.mem_peers_iff {s : TcpBackend} (h : s.Quiescent) (hann : Announced s) (c : Uuid) :
    c ∈ s.peers ↔ .connected c ∈ s.peer.eventRx.log := by
  rw [← places_of_waiting h.registration]
  exact ⟨hann.connected c, fun hc => hann.registered.events _ hc c rfl⟩

/-- At rest the table is that of the live connections exactly when none has ended. -/
theorem peers_live_iff (actions : List Action) (s : TcpBackend)
    (hrun : Run.run step init actions = some s) (hquiet : s.Quiescent) :
    s.PeersLive ↔ Run.Along step (fun s a => ¬ Ends s a) init actions := by
  have hann := announced_of_run hrun
  rw [← noneEnded_iff hrun]
  constructor
  · intro hlive c hc
    obtain ⟨h, hs, -⟩ := hann.ended c hc
    have hplace : c ∈ s.places := hann.registered.place (by rw [hs]; exact Option.some_ne_none h)
    exact ((hlive c).mp (places_of_waiting hquiet.registration ▸ hplace)).2 hc
  · intro hnone c
    rw [hquiet.mem_peers_iff hann, and_iff_left (hnone c)]

/-- The handlers of a state at rest are those of the table. -/
theorem quiescent_of_peers (actions : List Action) {s : TcpBackend}
    (hrun : Run.run step init actions = some s) (hwaiting : s.waiting = [])
    (h : ∀ c ∈ s.peers, ∀ hd, s.handlers c = some hd → hd.Quiescent) : s.Quiescent := by
  refine ⟨hwaiting, fun c hd hs => h c ?_ hd hs⟩
  have hplace : c ∈ s.places :=
    (registered_of_run hrun).place (by rw [hs]; exact Option.some_ne_none hd)
  rwa [places_of_waiting hwaiting] at hplace

instance (s : TcpBackend) (a : Action) : Decidable (Ends s a) := by
  unfold Ends
  split <;> infer_instance

/-- A server has accepted a client and received a packet. -/
def acceptOne : List Action :=
  [.issue (.bind "0.0.0.0" 8080), .command allOk, .announce 0 Uuid.nil, .spawn 0, .handOver 0,
    .register,
    .handler Uuid.nil (.read (Framing.frame lengthSize (packet { streamId := 4 } [7]))),
    .handler Uuid.nil .decode]

theorem peers_live_accepted :
    ∃ s, Run.run step init acceptOne = some s ∧ s.peers = [Uuid.nil] ∧ s.PeersLive := by
  refine ⟨_, rfl, rfl, ?_⟩
  refine (peers_live_iff acceptOne _ rfl (quiescent_of_peers acceptOne rfl rfl ?_)).mpr
    (by decide +kernel)
  intro c hc hd hs
  cases List.mem_singleton.mp hc
  cases hs
  exact Or.inr ⟨rfl, rfl, rfl⟩

/-- The connection of a client is closed by its server. -/
def closeOne : List Action :=
  [.issue (.connect "127.0.0.1" 8080), .command allOk, .handler Uuid.nil .hangUp]

theorem closed_peer_kept :
    ∃ s, Run.run step init closeOne = some s ∧ s.Quiescent ∧ s.peers = [Uuid.nil] ∧
      .disconnected Uuid.nil ∈ s.peer.eventRx.log ∧ ¬ s.PeersLive := by
  have hmem : GameNetworkEvent.disconnected Uuid.nil ∈
      [GameNetworkEvent.connected Uuid.nil, .disconnected Uuid.nil] := by decide
  refine ⟨_, rfl, quiescent_of_peers closeOne rfl rfl ?_, rfl, hmem, fun hlive => ?_⟩
  · intro c hc hd hs
    cases List.mem_singleton.mp hc
    cases hs
    exact Or.inl rfl
  · exact ((hlive Uuid.nil).mp (List.mem_singleton_self _)).2 hmem

end TcpBackend

end Tcp
end GameSockets
