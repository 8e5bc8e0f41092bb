/-
The ids that `UdpBackend` announces for the streams of its peer.

The loop answers each `CreateStream` as it takes it; what the socket brings in it announces
on its own account.
-/
import GameSockets.Allocation
import GameSockets.Udp.Exit

namespace GameSockets
namespace Udp

open Library

section Allocation

variable {Addr : Type}

/-- The command that the action issues. -/
def PeerAction.issued : PeerAction Addr → Option BackendCommand
  | .issue cmd => some cmd
  | _ => none

variable (parse : String → Option Addr)

namespace UdpPeer

/-- The application's handle: the channels close with the loop. -/
def handle (s : UdpPeer Addr) : GamePeer := { s.peer with alive := s.run.running }

/-- The call whose `CreateStream` the loop takes. -/
def answering (s : UdpPeer Addr) : PeerAction Addr → Option Nat
  | .host (.command _) => s.peer.nextCreation
  | _ => none

/-- The loop opens a stream for every call. -/
def allocator : Allocator (UdpPeer Addr) (PeerAction Addr) :=
  { step := step parse, init := init, peer := handle,
    setPeer := fun s peer => { s with peer := peer }, issues := PeerAction.issued,
    answering := answering, opens := fun _ _ => true }

variable {parse}

/-- The backend thread issues nothing. -/
theorem log_hostStep {p p' : GamePeer} {b b' : UdpRun Addr} {a : HostAction Addr}
    (h : hostStep parse p b a = some (p', b')) :
    p'.cmdTx.log = p.cmdTx.log ∧ p'.nextStreamId = p.nextStreamId := by
  cases a with
  | command env =>
    simp only [hostStep] at h
    split at h
    · cases h
    · next cmd tx hrecv =>
      obtain ⟨b', -, heq⟩ := Option.map_eq_some_iff.mp h
      cases heq
      exact ⟨Channel.log_recv hrecv, rfl⟩
  | datagram bytes src =>
    obtain ⟨b', -, heq⟩ := Option.map_eq_some_iff.mp h
    cases heq
    exact ⟨rfl, rfl⟩
  | recvError =>
    obtain ⟨b', -, heq⟩ := Option.map_eq_some_iff.mp h
    cases heq
    exact ⟨rfl, rfl⟩

/-- Only the application issues commands, and it alone counts its calls. -/
theorem issued_of_step {s t : UdpPeer Addr} {a : PeerAction Addr}
    (hstep : s.step parse a = some t) :
    t.peer.cmdTx.log = s.peer.cmdTx.log ++ a.issued.toList ∧
      t.peer.nextStreamId = s.peer.nextStreamId := by
  cases a with
  | issue cmd =>
    simp only [step] at hstep
    split at hstep
    · next peer hsend =>
      cases hstep
      obtain ⟨-, rfl⟩ := GamePeer.sendCmd_eq_ok hsend
      exact ⟨Channel.log_send _ _, rfl⟩
    · cases hstep
  | poll =>
    simp only [step] at hstep
    split at hstep
    · next e peer hpoll =>
      cases hstep
      obtain ⟨rx, -, rfl⟩ := GamePeer.poll_eq_some hpoll
      exact ⟨(List.append_nil _).symm, rfl⟩
    · cases hstep
  | host a =>
    obtain ⟨⟨peer, run⟩, hhost, rfl⟩ := Option.map_eq_some_iff.mp hstep
    obtain ⟨hlog, hnext⟩ := log_hostStep hhost
    exact ⟨hlog.trans (List.append_nil _).symm, hnext⟩

/-- The loop answers a `CreateStream` as it takes it. -/
theorem answered_command {s t : UdpPeer Addr} {env : CommandEnv} {c : Creation}
    {tx : Channel BackendCommand}
    (hrecv : s.peer.cmdTx.recv = some (.createStream c.connection c.index c.reliability, tx))
    (hstep : s.step parse (.host (.command env)) = some t) :
    t.peer.eventRx.log = s.peer.eventRx.log ++ [.streamCreated c.connection c.stream] := by
  obtain ⟨⟨peer, run⟩, hhost, rfl⟩ := Option.map_eq_some_iff.mp hstep
  simp only [hostStep, hrecv] at hhost
  obtain ⟨b, hb, heq⟩ := Option.map_eq_some_iff.mp hhost
  cases heq
  refine deliver_log (p := { s.peer with cmdTx := tx }) ?_
  cases UdpRun.steps_of_step hb with
  | command => rfl

theorem lawful : (allocator parse).Lawful fun _ => True := by
  refine ⟨rfl, trivial, fun _ _ _ _ _ => trivial, fun _ _ _ _ => trivial, fun _ _ => rfl,
    fun _ _ => rfl, fun _ _ _ hstep => (issued_of_step hstep).2,
    fun _ _ _ hstep => (issued_of_step hstep).1, ?_⟩
  intro s a t k _ hstep hk
  cases a with
  | host a =>
    cases a with
    | command env =>
      obtain ⟨c, tx, hrecv, hc⟩ := GamePeer.nextCreation_eq_some hk
      exact ⟨c, hc, Allocator.announces_created rfl (answered_command hrecv hstep)⟩
    | _ => cases hk
  | _ => cases hk

end UdpPeer

end Allocation

end Udp
end GameSockets
