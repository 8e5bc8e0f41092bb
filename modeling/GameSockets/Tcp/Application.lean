/-
A backend with its application: the commands that the loop has taken, and what changes when
the application uses its handle.

A link is symmetric, so what its right end receives says what its left end receives.
-/
import GameSockets.Tcp.Delivery
import GameSockets.Tcp.Echo

namespace GameSockets
namespace Tcp

open Library

namespace TcpBackend

/-- The `Send`s to `uuid` that the loop has taken. -/
def takenSends (s : TcpBackend) (uuid : Uuid) : List (GameStream × Bytes) :=
  sendsTo uuid s.peer.cmdTx.received

theorem cmdTx_of_processes {env : CommandEnv} {s t : TcpBackend} {cmd : BackendCommand}
    (h : Processes env s cmd t) : t.peer.cmdTx = s.peer.cmdTx := by
  cases h with
  | send => rw [peer_push]
  | _ => rfl

theorem peers_of_processes {env : CommandEnv} {s t : TcpBackend} {cmd : BackendCommand}
    (h : Processes env s cmd t) : s.peers ⊆ t.peers := by
  cases h with
  | connect => exact List.subset_cons_self _ _
  | @send c stream data =>
    rw [(push_spec s c (packet stream data)).1.peers]
    exact List.Subset.refl _
  | _ => exact List.Subset.refl _

theorem peers_step {s t : TcpBackend} {a : Action} (hstep : s.step a = some t) :
    s.peers ⊆ t.peers := by
  cases steps_of_step hstep with
  | register => exact List.subset_cons_self _ _
  | command _ _ hcommand =>
    have hpeers := peers_of_processes hcommand
    exact hpeers
  | _ => exact List.Subset.refl _

/-- A step takes at most one `Send` to `uuid`, and only one to a registered UUID counts. -/
theorem taken_step {s t : TcpBackend} {a : Action} (hstep : s.step a = some t) (uuid : Uuid) :
    ∃ new : Option (GameStream × Bytes), t.takenSends uuid = s.takenSends uuid ++ new.toList ∧
      s.sendOf uuid a = (if uuid ∈ s.peers then new else none) ∧
      ∀ x ∈ new, .send uuid x.1 x.2 ∈ s.peer.cmdTx.log := by
  have same : t.takenSends uuid = s.takenSends uuid → s.sendOf uuid a = none →
      ∃ new : Option (GameStream × Bytes), t.takenSends uuid = s.takenSends uuid ++ new.toList ∧
        s.sendOf uuid a = (if uuid ∈ s.peers then new else none) ∧
        ∀ x ∈ new, .send uuid x.1 x.2 ∈ s.peer.cmdTx.log := by
    intro htaken hsend
    refine ⟨none, ?_, ?_, fun x hx => by cases hx⟩
    · rw [htaken, Option.toList_none, List.append_nil]
    · rw [hsend, ite_self]
  cases steps_of_step hstep with
  | @command env cmd tx t _ hrecv hcommand =>
    refine ⟨cmd.sent.bind (carried uuid), ?_, ?_, fun x hx => ?_⟩
    · rw [takenSends, cmdTx_of_processes hcommand, (Channel.recv_eq_some hrecv).2, sendsTo_append]
      congr 1
      rw [sendsTo, List.filterMap_cons]
      cases cmd.sent with
      | none => rfl
      | some m =>
        rw [List.filterMap_nil, List.filterMap_cons, Option.bind_some]
        cases carried uuid m <;> rfl
    · rw [sendOf, hrecv, Option.bind_some]
      cases cmd with
      | send c stream data =>
        simp only [admits, BackendCommand.sent, Option.bind_some, carried]
        by_cases hc : c = uuid
        · subst hc
          simp
        · simp [hc]
      | _ => exact (ite_self _).symm
    · obtain ⟨m, hm, hcarried⟩ := Option.bind_eq_some_iff.mp hx
      rw [BackendCommand.sent_eq_some] at hm
      rw [carried_eq_some] at hcarried
      rw [hcarried] at hm
      exact hm ▸ Channel.mem_log_of_recv hrecv
  | issue => exact same rfl rfl
  | poll => exact same rfl rfl
  | register => exact same rfl rfl
  | resume => exact same rfl rfl
  | announce => exact same rfl rfl
  | spawn => exact same rfl rfl
  | handOver => exact same rfl rfl
  | handler => exact same rfl rfl

/-- Of the `Send`s taken, those that count are the last ones: none counts before the
registration. -/
structure Counts (s : TcpBackend) (uuid : Uuid) (sent : List (GameStream × Bytes)) : Prop where
  suffix : sent <:+ s.takenSends uuid
  unregistered : uuid ∉ s.peers → sent = []

theorem counts_step {s t : TcpBackend} {a : Action} {uuid : Uuid}
    {sent : List (GameStream × Bytes)} (h : s.Counts uuid sent) (hstep : s.step a = some t) :
    t.Counts uuid (sent ++ (s.sendOf uuid a).toList) := by
  obtain ⟨new, htaken, hsend, -⟩ := taken_step hstep uuid
  by_cases hpeer : uuid ∈ s.peers
  · rw [if_pos hpeer] at hsend
    refine ⟨?_, fun hnot => absurd (peers_step hstep hpeer) hnot⟩
    obtain ⟨before, hbefore⟩ := h.suffix
    rw [htaken, hsend, ← hbefore, List.append_assoc]
    exact List.suffix_append _ _
  · rw [if_neg hpeer] at hsend
    rw [hsend, h.unregistered hpeer]
    exact ⟨List.nil_suffix, fun _ => rfl⟩

/-- What the backend does to the handle: it adds events. -/
theorem handle_step {s t : TcpBackend} {a : Action} (ha : a.byApplication = false)
    (hstep : s.step a = some t) :
    t.peer.cmdTx.log = s.peer.cmdTx.log ∧ s.peer.eventRx.log <+: t.peer.eventRx.log ∧
      t.peer.eventRx.received = s.peer.eventRx.received := by
  obtain ⟨⟨new, hlog, -⟩, hcmd⟩ := step_logs hstep
  refine ⟨?_, hlog ▸ List.prefix_append _ _, ?_⟩
  · rcases hcmd with hcmd | ⟨cmd, rfl, -⟩
    · exact hcmd
    · cases ha
  · cases steps_of_step hstep with
    | issue => cases ha
    | poll => cases ha
    | command _ _ hcommand =>
      cases hcommand with
      | send => rw [peer_push]
      | _ => rfl
    | _ => rfl

/-! ## An end that dials -/

/-- The backend accepts nobody, and has dialled no other connection than `uuid`. -/
structure Dials (uuid : Uuid) (s : TcpBackend) : Prop where
  accepts : s.accepts = []
  peerReg : s.peerReg.pending = []
  peers : ∀ c ∈ s.peers, c = uuid

theorem dials_step {s t : TcpBackend} {a : Action} {uuid : Uuid} (h : Dials uuid s)
    (hbind : ∀ addr port, .bind addr port ∉ s.peer.cmdTx.log)
    (hdraw : ∀ env, a = .command env → env.newV4 = uuid) (hstep : s.step a = some t) :
    Dials uuid t := by
  have hnone : ∀ {k : Nat} {phase : AcceptPhase}, s.accepts[k]? ≠ some phase := by
    intro k phase
    rw [h.accepts]
    exact nofun
  cases steps_of_step hstep with
  | issue => exact ⟨h.accepts, h.peerReg, h.peers⟩
  | poll => exact ⟨h.accepts, h.peerReg, h.peers⟩
  | register _ hrecv => exact absurd h.peerReg (Channel.pending_ne_nil_of_recv hrecv)
  | @command env cmd tx t _ hrecv hcommand =>
    have hmem := Channel.mem_log_of_recv hrecv
    cases hcommand with
    | bind => exact absurd hmem (hbind _ _)
    | connect =>
      refine ⟨h.accepts, h.peerReg, fun c hc => ?_⟩
      rcases List.mem_cons.mp hc with rfl | hc
      · exact hdraw env rfl
      · exact h.peers c hc
    | @send c stream data =>
      have hsame := (push_spec { s with peer := { s.peer with cmdTx := tx } } c
        (packet stream data)).1
      refine ⟨?_, ?_, ?_⟩
      · rw [push]
        split <;> exact h.accepts
      · rw [hsame.peerReg]
        exact h.peerReg
      · rw [hsame.peers]
        exact h.peers
    | _ => exact ⟨h.accepts, h.peerReg, h.peers⟩
  | resume => exact ⟨h.accepts, h.peerReg, h.peers⟩
  | announce _ hphase => exact absurd hphase hnone
  | spawn _ hphase => exact absurd hphase hnone
  | handOver _ hphase => exact absurd hphase hnone
  | handler => exact ⟨h.accepts, h.peerReg, h.peers⟩

/-- A connection that such an end knows of is registered, and is the one it dialled. -/
theorem Dials.opened {s : TcpBackend} {uuid : Uuid} (h : Dials uuid s) (hreg : Registered s)
    {e : GameNetworkEvent} (he : e ∈ s.peer.eventRx.log) {c : Uuid} (hopen : opens e = some c) :
    c = uuid ∧ uuid ∈ s.peers := by
  have hplace := hreg.events e he c hopen
  rw [places, Handover.gather, h.accepts, h.peerReg, List.flatMap_nil, List.nil_append,
    List.append_nil] at hplace
  have hc := h.peers c hplace
  exact ⟨hc, hc ▸ hplace⟩

/-! ## The application at its handle -/

theorem Sane.withPeer {s : TcpBackend} (h : Sane s) {peer : GamePeer}
    (hlog : peer.eventRx.log = s.peer.eventRx.log) : Sane { s with peer := peer } :=
  ⟨registered_of_sameLog h.registered ⟨rfl, rfl, rfl, rfl⟩ (fun _ => Iff.rfl) hlog
    h.registered.waits, h.handlers⟩

end TcpBackend

/-! ## The two ends of a link -/

/-- The connection, seen from the other end. -/
def Wire.swap (w : Wire) : Wire :=
  { left := w.right, right := w.left, capRight := w.capLeft, capLeft := w.capRight }

def LinkAction.swap : LinkAction → LinkAction
  | .left a => .right a
  | .right a => .left a

namespace Link

def swap (s : Link) : Link :=
  { left := s.right, right := s.left, toRight := s.toLeft, toLeft := s.toRight }

/-- A link does the same seen from either end. -/
theorem step_swap {w : Wire} {s t : Link} {a : LinkAction} (h : step w s a = some t) :
    step w.swap s.swap a.swap = some t.swap := by
  cases a with
  | left a =>
    obtain ⟨⟨b, out, inp⟩, hend, rfl⟩ := Option.map_eq_some_iff.mp h
    exact Option.map_eq_some_iff.mpr ⟨(b, out, inp), hend, rfl⟩
  | right a =>
    obtain ⟨⟨b, out, inp⟩, hend, rfl⟩ := Option.map_eq_some_iff.mp h
    exact Option.map_eq_some_iff.mpr ⟨(b, out, inp), hend, rfl⟩

section Handles

variable {w : Wire} {sent : List (GameStream × Bytes)} {s : Link}

theorem Conveys.withLeftPeer (h : Conveys w sent s) {peer : GamePeer}
    (hlog : peer.eventRx.log = s.left.peer.eventRx.log) :
    Conveys w sent { s with left := { s.left with peer := peer } } :=
  ⟨h.left.withPeer hlog, h.right, h.short, h.transit⟩

theorem Conveys.withRightPeer (h : Conveys w sent s) {peer : GamePeer}
    (hlog : peer.eventRx.log = s.right.peer.eventRx.log) :
    Conveys w sent { s with right := { s.right with peer := peer } } := by
  refine ⟨h.left, h.right.withPeer hlog, h.short, ?_⟩
  obtain ⟨rest, ext, hsent, htransit, hext⟩ := h.transit
  refine ⟨rest, ext, ?_, htransit, hext⟩
  rw [hsent, TcpBackend.messages, TcpBackend.messages, hlog]

end Handles

end Link

end Tcp
end GameSockets
