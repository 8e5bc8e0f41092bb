/-
How the loop ends, and that it does not when the application drops its handle.

The loop itself holds a sender of the registration channel, so that this branch of the
`select!` is never disabled; the one for the commands is, once their sender is gone.
-/
import GameSockets.Library.Owner
import GameSockets.Tcp.Backend

namespace GameSockets
namespace Tcp

open Library Owner

/-- The application's actions. -/
def Action.byApplication : Action → Bool
  | .issue _ => true
  | .poll => true
  | _ => false

/-- A peer connects, or something comes of a socket. -/
def Action.fromNetwork : Action → Bool
  | .announce _ _ => true
  | .handler _ (.read _) => true
  | .handler _ .hangUp => true
  | .handler _ (.write _) => true
  | .handler _ .writeFail => true
  | _ => false

namespace TcpBackend

/-- The branches of the `select!`, while the loop is there. -/
def turn (s : TcpBackend) (owned : Bool) : Turn :=
  match s.loop with
  | .selecting => select [recvBranch s.peerReg true, recvBranch s.peer.cmdTx owned]
  | _ => .waits

def machine : Machine TcpBackend Action :=
  { step := step, init := init, owner := Action.byApplication, outside := Action.fromNetwork,
    drained := fun s => s.peer.cmdTx.pending.isEmpty, ended := fun s => !s.running,
    turn := turn }

/-- The command that the loop takes. -/
def taken (s : TcpBackend) : Action → Option (CommandEnv × BackendCommand)
  | .command env => s.peer.cmdTx.recv.map fun (cmd, _) => (env, cmd)
  | _ => none

/-- `Shutdown`, or a `Bind` that fails. -/
def Fatal : CommandEnv × BackendCommand → Prop
  | (_, .shutdown) => True
  | (env, .bind _ _) => env.bindOk = false
  | _ => False

theorem running_push (s : TcpBackend) (uuid : Uuid) (p : Bytes) (h : s.running = true) :
    (s.push uuid p).running = true := by
  unfold push
  split
  · exact h
  · rfl

theorem running_processes {s t : TcpBackend} {env : CommandEnv} {cmd : BackendCommand}
    (hrunning : s.running = true) (h : Processes env s cmd t) :
    t.running = false ↔ Fatal (env, cmd) := by
  have goes_on : ∀ {u : TcpBackend}, u.running = true → (u.running = false ↔ False) :=
    fun hu => iff_of_false (by simp [hu]) id
  cases h with
  | bind hok => exact (goes_on hrunning).trans (iff_of_false id (by rw [Fatal, hok]; simp))
  | bindFails hfails => exact iff_of_true rfl (Bool.eq_false_iff.mpr hfails)
  | connect => exact goes_on hrunning
  | connectFails => exact goes_on hrunning
  | send => exact goes_on (running_push _ _ _ hrunning)
  | drop => exact goes_on hrunning
  | shutdown => exact iff_of_true rfl trivial
  | createStream => exact goes_on hrunning
  | closeStream => exact goes_on hrunning

theorem serves_of_step {s t : TcpBackend} {a : Action} (hstep : s.step a = some t) :
    machine.Serves (fun s => s.peer.cmdTx) taken Fatal s a t := by
  have same : ∀ {u : TcpBackend}, u.peer.cmdTx = s.peer.cmdTx → u.running = s.running →
      s.taken a = none → machine.Serves (fun s => s.peer.cmdTx) taken Fatal s a u :=
    fun hcmd hrunning hnone => .other hnone hcmd (congrArg (!·) hrunning)
  cases steps_of_step hstep with
  | issue => exact .owner rfl rfl rfl
  | poll => exact .owner rfl rfl rfl
  | register => exact same rfl rfl rfl
  | @command env cmd tx t hloop hrecv hcommand =>
    have hrunning : s.running = true := by rw [running, hloop]
    have htaken : s.taken (.command env) = some (env, cmd) := by rw [taken, hrecv, Option.map_some]
    have hends := running_processes (by exact hrunning) hcommand
    refine .command htaken (Channel.pending_ne_nil_of_recv hrecv) ?_
    simp [machine, hrunning, hends]
  | resume hloop => exact same rfl (by simp [running, hloop]) rfl
  | announce => exact same rfl rfl rfl
  | spawn => exact same rfl rfl rfl
  | handOver => exact same rfl rfl rfl
  | handler => exact same rfl rfl rfl

theorem turn_ne_panics (s : TcpBackend) (owned : Bool) : s.turn owned ≠ .panics := by
  unfold turn
  split
  · exact select_ne_panics List.mem_cons_self (recvBranch_ne_disabled _)
  · simp

theorem endedBy : machine.EndedBy taken Fatal :=
  Machine.endedBy_of_serves rfl (fun _ => rfl) (fun _ _ _ => serves_of_step)
    fun s owned _ => turn_ne_panics s owned

end TcpBackend

end Tcp
end GameSockets
