/-
The ids that `GnsBackend` announces for the streams of its peer.

The loop answers each `CreateStream` as it takes it; what GNS brings in it announces on its
own account.
-/
import GameSockets.Allocation
import GameSockets.Gns.Exit

namespace GameSockets
namespace Gns

open Library

section Allocation

variable {Handle : Type}

/-- The command that the action issues. -/
def PeerAction.issued : PeerAction Handle → Option BackendCommand
  | .issue cmd => some cmd
  | _ => none

variable [DecidableEq Handle] (parse : String → Option Ipv4Addr)

namespace GnsPeer

/-- The call whose `CreateStream` the loop takes. -/
def answering (s : GnsPeer Handle) : PeerAction Handle → Option Nat
  | .command _ => s.peer.nextCreation
  | _ => none

/-- The loop opens a stream for every call. -/
def allocator : Allocator (GnsPeer Handle) (PeerAction Handle) :=
  { step := step parse, init := init, peer := handle,
    setPeer := fun s peer => { s with peer := peer }, issues := PeerAction.issued,
    answering := answering, opens := fun _ _ => true }

variable {parse}

/-- The loop's own steps issue nothing. -/
theorem same_of_feed {s t : GnsPeer Handle} {input : Input Handle}
    (h : feed parse s input = some t) :
    t.peer.cmdTx = s.peer.cmdTx ∧ t.peer.nextStreamId = s.peer.nextStreamId := by
  obtain ⟨run, -, rfl⟩ := Option.map_eq_some_iff.mp h
  exact ⟨rfl, rfl⟩

/-- Only the application issues commands, and it alone counts its calls. -/
theorem issued_of_step {s t : GnsPeer Handle} {a : PeerAction Handle}
    (hstep : s.step parse a = some t) :
    t.peer.cmdTx.log = s.peer.cmdTx.log ++ a.issued.toList ∧
      t.peer.nextStreamId = s.peer.nextStreamId := by
  have quiet : ∀ {t : GnsPeer Handle}, t.peer.cmdTx.log = s.peer.cmdTx.log →
      t.peer.cmdTx.log = s.peer.cmdTx.log ++ [] := fun h => h.trans (List.append_nil _).symm
  cases a with
  | issue cmd =>
    simp only [step] at hstep
    split at hstep
    · next peer hsend =>
      cases hstep
      obtain ⟨-, rfl⟩ := GamePeer.sendCmd_eq_ok hsend
      exact ⟨Channel.log_send _ _, rfl⟩
    · cases hstep
  | poll =>
    simp only [step] at hstep
    split at hstep
    · next e peer hpoll =>
      cases hstep
      obtain ⟨rx, -, rfl⟩ := GamePeer.poll_eq_some hpoll
      exact ⟨quiet rfl, rfl⟩
    · cases hstep
  | command env =>
    simp only [step] at hstep
    split at hstep
    · next cmd tx hrecv =>
      obtain ⟨hcmd, hnext⟩ := same_of_feed hstep
      exact ⟨quiet (hcmd ▸ Channel.log_recv hrecv), hnext⟩
    · cases hstep
  | event env conn old new =>
    obtain ⟨hcmd, hnext⟩ := same_of_feed hstep
    exact ⟨quiet (by rw [hcmd]), hnext⟩
  | message conn payload =>
    obtain ⟨hcmd, hnext⟩ := same_of_feed hstep
    exact ⟨quiet (by rw [hcmd]), hnext⟩
  | pass =>
    simp only [step] at hstep
    split at hstep <;> cases hstep
    exact ⟨quiet rfl, rfl⟩

/-- The loop answers a `CreateStream` as it takes it. -/
theorem answered_command {s t : GnsPeer Handle} {env : CommandEnv} {c : Creation}
    {tx : Channel BackendCommand}
    (hrecv : s.peer.cmdTx.recv = some (.createStream c.connection c.index c.reliability, tx))
    (hstep : s.step parse (.command env) = some t) :
    t.peer.eventRx.log = s.peer.eventRx.log ++ [.streamCreated c.connection c.stream] := by
  simp only [step, hrecv] at hstep
  obtain ⟨run, hrun, rfl⟩ := Option.map_eq_some_iff.mp hstep
  show (s.peer.eventRx.sendAll _).log = _
  rw [Channel.log_sendAll]
  cases GnsRun.steps_of_step hrun with
  | stop hreturns => cases hreturns
  | command hcommand =>
    cases hcommand
    show s.peer.eventRx.log ++ (s.run.events ++ _).drop s.run.events.length = _
    rw [List.drop_left]
    rfl

theorem lawful : (allocator parse : Allocator (GnsPeer Handle) _).Lawful fun _ => True := by
  refine ⟨rfl, trivial, fun _ _ _ _ _ => trivial, fun _ _ _ _ => trivial, fun _ _ => rfl,
    fun _ _ => rfl, fun _ _ _ hstep => (issued_of_step hstep).2,
    fun _ _ _ hstep => (issued_of_step hstep).1, ?_⟩
  intro s a t k _ hstep hk
  cases a with
  | command env =>
    obtain ⟨c, tx, hrecv, hc⟩ := GamePeer.nextCreation_eq_some hk
    exact ⟨c, hc, Allocator.announces_created rfl (answered_command hrecv hstep)⟩
  | _ => cases hk

end GnsPeer

end Allocation

end Gns
end GameSockets
