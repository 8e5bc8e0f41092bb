/-
How the loop ends, and that it does not when the application drops its handle.

The other branch of the `select!` waits for a datagram, or for `future::pending()` while there
is no socket.  It is never disabled; the one for the commands is, once their sender is gone.
-/
import GameSockets.Library.Owner
import GameSockets.Udp.Echo

namespace GameSockets
namespace Udp

open Library Owner

/-- The backend thread and the application's handle on it. -/
structure UdpPeer (Addr : Type) where
  peer : GamePeer
  run : UdpRun Addr

inductive PeerAction (Addr : Type) where
  | issue (cmd : BackendCommand)
  | poll
  | host (a : HostAction Addr)

section Peer

variable {Addr : Type}

/-- The application's actions. -/
def PeerAction.byApplication : PeerAction Addr → Bool
  | .issue _ => true
  | .poll => true
  | .host _ => false

/-- Something comes of the socket. -/
def PeerAction.fromNetwork : PeerAction Addr → Bool
  | .host (.datagram _ _) => true
  | .host .recvError => true
  | _ => false

variable (parse : String → Option Addr)

namespace UdpPeer

def init : UdpPeer Addr := { peer := GamePeer.new, run := UdpRun.init }

/-- The channels close with the loop. -/
def step (s : UdpPeer Addr) : PeerAction Addr → Option (UdpPeer Addr)
  | .issue cmd =>
    match ({ s.peer with alive := s.run.running } : GamePeer).sendCmd cmd with
    | .ok peer => some { s with peer := peer }
    | _ => none
  | .poll =>
    match s.peer.poll with
    | .ok (some (_, peer)) => some { s with peer := peer }
    | _ => none
  | .host a => (hostStep parse s.peer s.run a).map fun (peer, run) => { peer := peer, run := run }

/-- The branches of the `select!`, while the loop is there. -/
def turn (s : UdpPeer Addr) (owned : Bool) : Turn :=
  if s.run.running then select [recvBranch s.peer.cmdTx owned, .pending] else .waits

def machine : Machine (UdpPeer Addr) (PeerAction Addr) :=
  { step := step parse, init := init, owner := PeerAction.byApplication,
    outside := PeerAction.fromNetwork, drained := fun s => s.peer.cmdTx.pending.isEmpty,
    ended := fun s => !s.run.running, turn := turn }

/-- The command that the loop takes. -/
def taken (s : UdpPeer Addr) : PeerAction Addr → Option BackendCommand
  | .host (.command _) => s.peer.cmdTx.recv.map (·.1)
  | _ => none

variable {parse}

theorem serves_of_step {s t : UdpPeer Addr} {a : PeerAction Addr} (h : s.step parse a = some t) :
    (machine parse).Serves (fun s => s.peer.cmdTx) taken (· = .shutdown) s a t := by
  cases a with
  | issue cmd =>
    simp only [step] at h
    split at h <;> cases h
    exact .owner rfl rfl rfl
  | poll =>
    simp only [step] at h
    split at h <;> cases h
    exact .owner rfl rfl rfl
  | host a =>
    obtain ⟨⟨peer, run⟩, hhost, rfl⟩ := Option.map_eq_some_iff.mp h
    cases a with
    | command env =>
      simp only [hostStep] at hhost
      split at hhost
      · cases hhost
      · next cmd tx hrecv =>
        obtain ⟨b, hb, heq⟩ := Option.map_eq_some_iff.mp hhost
        cases heq
        have htaken : s.taken (.host (.command env)) = some cmd := by
          rw [taken, hrecv, Option.map_some]
        refine .command htaken (Channel.pending_ne_nil_of_recv hrecv) ?_
        cases UdpRun.steps_of_step hb with
        | shutdown => exact iff_of_true rfl (Or.inr rfl)
        | command hcmd => exact (or_iff_left hcmd).symm
    | datagram bytes src =>
      obtain ⟨b, hb, heq⟩ := Option.map_eq_some_iff.mp hhost
      cases heq
      refine .other rfl rfl ?_
      cases UdpRun.steps_of_step hb with
      | noise => rfl
      | packet => rfl
    | recvError =>
      obtain ⟨b, hb, heq⟩ := Option.map_eq_some_iff.mp hhost
      cases heq
      refine .other rfl rfl ?_
      cases UdpRun.steps_of_step hb with
      | recvError => rfl

theorem turn_ne_panics (s : UdpPeer Addr) (owned : Bool) : s.turn owned ≠ .panics := by
  unfold turn
  split
  · exact select_ne_panics (List.mem_cons_of_mem _ List.mem_cons_self) (by simp)
  · simp

theorem endedBy : (machine parse).EndedBy taken (· = .shutdown) :=
  Machine.endedBy_of_serves rfl (fun _ => rfl) (fun _ _ _ => serves_of_step)
    fun s owned _ => turn_ne_panics s owned

end UdpPeer

end Peer

end Udp
end GameSockets
