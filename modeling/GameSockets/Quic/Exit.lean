/-
How the loop ends, and that it does not when the application drops its handle.

The loop itself holds a sender of each registration channel, so that these two branches of the
`select!` are never disabled; the one for the commands is, once their sender is gone.
-/
import GameSockets.Library.Owner
import GameSockets.Quic.Backend

namespace GameSockets
namespace Quic

open Library Owner

/-- The application's actions. -/
def Action.byApplication : Action → Bool
  | .issue _ => true
  | .poll => true
  | _ => false

/-- A peer connects, opens a stream, or sends something. -/
def Action.fromNetwork : Action → Bool
  | .announce _ _ => true
  | .readDatagram _ _ => true
  | .acceptStream _ _ => true
  | .readStream _ _ => true
  | _ => false

/-- A command as the loop takes it. -/
structure Taken where
  env : CommandEnv
  cmd : BackendCommand
  /-- the keys of `connections` -/
  connections : List Uuid

/-- `Shutdown`, or a command at which an `unwrap` fails. -/
def Taken.Fatal (x : Taken) : Prop :=
  match x.cmd with
  | .shutdown => True
  | .bind _ _ => x.env.bindOk = false
  | .connect _ _ => x.env.connectOk = false
  | .createStream c _ .reliable => c ∈ x.connections ∧ x.env.openOk = false
  | _ => False

namespace QuicBackend

/-- The branches of the `select!`, while the loop is there. -/
def turn (s : QuicBackend) (owned : Bool) : Turn :=
  match s.loop with
  | .selecting =>
    select [recvBranch s.connReg true, recvBranch s.streamReg true, recvBranch s.peer.cmdTx owned]
  | _ => .waits

def machine : Machine QuicBackend Action :=
  { step := step, init := init, owner := Action.byApplication, outside := Action.fromNetwork,
    drained := fun s => s.peer.cmdTx.pending.isEmpty, ended := fun s => !s.running,
    turn := turn }

/-- The command that the loop takes. -/
def taken (s : QuicBackend) : Action → Option Taken
  | .command env =>
    s.peer.cmdTx.recv.map fun (cmd, _) => { env := env, cmd := cmd, connections := s.connections }
  | _ => none

theorem running_processes {s t : QuicBackend} {env : CommandEnv} {cmd : BackendCommand}
    (hrunning : s.running = true) (h : Processes env s cmd t) :
    t.running = false ↔ Taken.Fatal { env := env, cmd := cmd, connections := s.connections } := by
  have goes_on : ∀ {u : QuicBackend}, u.running = true → (u.running = false ↔ False) :=
    fun hu => iff_of_false (by simp [hu]) id
  cases h with
  | bind hok => exact (goes_on hrunning).trans (iff_of_false id (by simp [Taken.Fatal, hok]))
  | bindFails hfails => exact iff_of_true rfl (Bool.eq_false_iff.mpr hfails)
  | connect hok => exact (goes_on hrunning).trans (iff_of_false id (by simp [Taken.Fatal, hok]))
  | connectFails hfails => exact iff_of_true rfl (Bool.eq_false_iff.mpr hfails)
  | send =>
    refine goes_on ?_
    unfold writeAll
    split <;> exact hrunning
  | noStream => exact goes_on hrunning
  | datagram => exact goes_on hrunning
  | datagramFails => exact goes_on hrunning
  | noConnection => exact goes_on hrunning
  | shutdown => exact iff_of_true rfl trivial
  | openStream _ hok =>
    exact (goes_on hrunning).trans (iff_of_false id (by simp [Taken.Fatal, hok]))
  | openFails hconn hfails => exact iff_of_true rfl ⟨hconn, Bool.eq_false_iff.mpr hfails⟩
  | openUnconnected hconn =>
    exact (goes_on hrunning).trans (iff_of_false id (by simp [Taken.Fatal, hconn]))
  | @createStream c i reliability hunreliable =>
    refine (goes_on hrunning).trans (iff_of_false id ?_)
    cases reliability with
    | reliable => exact absurd rfl hunreliable
    | unreliable => exact id
    | ordered => exact id
  | closeStream => exact goes_on hrunning

theorem serves_of_step {s t : QuicBackend} {a : Action} (hstep : s.step a = some t) :
    machine.Serves (fun s => s.peer.cmdTx) taken Taken.Fatal s a t := by
  have same : ∀ {u : QuicBackend}, u.peer.cmdTx = s.peer.cmdTx → u.running = s.running →
      s.taken a = none → machine.Serves (fun s => s.peer.cmdTx) taken Taken.Fatal s a u :=
    fun hcmd hrunning hnone => .other hnone hcmd (congrArg (!·) hrunning)
  cases steps_of_step hstep with
  | issue => exact .owner rfl rfl rfl
  | poll => exact .owner rfl rfl rfl
  | registerConnection => exact same rfl rfl rfl
  | registerStream => exact same (by simp) (by simp [running]) rfl
  | @command env cmd tx t hloop hrecv hcommand =>
    have hrunning : s.running = true := by simp [running, hloop]
    have htaken : s.taken (.command env) =
        some { env := env, cmd := cmd, connections := s.connections } := by
      rw [taken, hrecv, Option.map_some]
    have hends := running_processes (by exact hrunning) hcommand
    refine .command htaken (Channel.pending_ne_nil_of_recv hrecv) ?_
    simp [machine, hrunning, hends]
  | announce => exact same rfl rfl rfl
  | handOver => exact same rfl rfl rfl
  | shortDatagram => exact same rfl rfl rfl
  | readDatagram => exact same rfl rfl rfl
  | newDatagram => exact same rfl rfl rfl
  | sendDatagram => exact same rfl rfl rfl
  | acceptStream => exact same rfl rfl rfl
  | readStream => exact same rfl rfl rfl

theorem turn_ne_panics (s : QuicBackend) (owned : Bool) : s.turn owned ≠ .panics := by
  unfold turn
  split
  · exact select_ne_panics List.mem_cons_self (recvBranch_ne_disabled _)
  · simp

theorem endedBy : machine.EndedBy taken Taken.Fatal :=
  Machine.endedBy_of_serves rfl (fun _ => rfl) (fun _ _ _ => serves_of_step)
    fun s owned _ => turn_ne_panics s owned

end QuicBackend

end Quic
end GameSockets
