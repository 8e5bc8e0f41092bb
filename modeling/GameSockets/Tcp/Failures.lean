/-
Commands that come to nothing: the backend says so of a refused `Connect` only.

A refused `bind` panics.  A packet for a connection that is not known, or whose task has ended,
is dropped, and so is one that the task cannot write: the results of `tx.send` and of
`framed.send` are thrown away.
-/
import GameSockets.Tcp.Exit
import GameSockets.Tcp.Peers

namespace GameSockets
namespace Tcp

open Library

/-- The action loses a packet that the task has been given: the codec refuses it, the socket
does, or the task ends before it has taken it. -/
def PeerHandler.Loses (h : PeerHandler) : HandlerAction → Prop
  | .take => ∃ p ∈ h.writeRx.pending.head?, h.broken = true ∨ maxFrame < p.length
  | .writeFail => True
  | .hangUp => h.writeRx.pending ≠ []
  | .decode => decodeFrame h.readBuf = .tooLong ∧ h.writeRx.pending ≠ []
  | _ => False

namespace TcpBackend

def isConnect : BackendCommand → Bool
  | .connect _ _ => true
  | _ => false

/-- There is no task left for the connection. -/
def Ended (s : TcpBackend) (c : Uuid) : Prop := ∃ h ∈ s.handlers c, h.phase = .closed

/-- The command comes to nothing when the loop takes it. -/
def CommandFails (s : TcpBackend) (env : CommandEnv) : BackendCommand → Prop
  | .bind _ _ => env.bindOk = false
  | .connect _ _ => env.connectOk = false
  | .send c _ _ => c ∉ s.peers ∨ s.Ended c
  | _ => False

/-- A `Send` comes to nothing after the loop has taken it. -/
def Loses (s : TcpBackend) : Action → Prop
  | .resume =>
    match s.loop with
    | .sending c _ => s.Ended c
    | _ => False
  | .handler uuid b => ∃ h ∈ s.handlers uuid, h.Loses b
  | _ => False

/-- A `Bind`, `Connect` or `Send` comes to nothing. -/
def Fails (s : TcpBackend) (a : Action) : Prop :=
  (∃ x ∈ s.taken a, s.CommandFails x.1 x.2) ∨ s.Loses a

/-- The loop takes a `Connect`. -/
def Connects (s : TcpBackend) (a : Action) : Prop := ∃ x ∈ s.taken a, isConnect x.2 = true

instance (s : TcpBackend) (c : Uuid) : Decidable (s.Ended c) := by
  unfold Ended
  infer_instance

instance (s : TcpBackend) (env : CommandEnv) (cmd : BackendCommand) :
    Decidable (s.CommandFails env cmd) :=
  match cmd with
  | .bind _ _ => inferInstanceAs (Decidable (env.bindOk = false))
  | .connect _ _ => inferInstanceAs (Decidable (env.connectOk = false))
  | .send c _ _ => inferInstanceAs (Decidable (c ∉ s.peers ∨ s.Ended c))
  | .createStream _ _ _ => inferInstanceAs (Decidable False)
  | .closeStream _ _ => inferInstanceAs (Decidable False)
  | .shutdown => inferInstanceAs (Decidable False)

instance (h : PeerHandler) (b : HandlerAction) : Decidable (h.Loses b) := by
  unfold PeerHandler.Loses
  split <;> infer_instance

instance (s : TcpBackend) (a : Action) : Decidable (s.Loses a) := by
  unfold Loses
  split
  · split <;> infer_instance
  · infer_instance
  · infer_instance

instance (s : TcpBackend) (a : Action) : Decidable (Fails s a) :=
  inferInstanceAs (Decidable (_ ∨ _))

instance (s : TcpBackend) (a : Action) : Decidable (Connects s a) := by
  unfold Connects
  infer_instance

/-- The loop goes on with an error reported and its connections as they were. -/
structure FailureReported (s t : TcpBackend) : Prop where
  error : AddsError s.peer.eventRx.log t.peer.eventRx.log
  running : t.running = true
  peers : t.peers = s.peers
  accepts : t.accepts = s.accepts
  peerReg : t.peerReg = s.peerReg
  handlers : t.handlers = s.handlers

/-- If the command fails, this is reported. -/
def Reports (s : TcpBackend) (a : Action) : Prop :=
  Fails s a → ∃ t, s.step a = some t ∧ FailureReported s t

/-- A handler reports no error. -/
theorem not_addsError_handler {s : TcpBackend} {uuid : Uuid} {b : HandlerAction}
    {h h' : PeerHandler} {events : List GameNetworkEvent}
    (hb : h.step uuid b = some (h', events)) :
    ¬ AddsError s.peer.eventRx.log ((s.emit events).setHandler uuid h').peer.eventRx.log := by
  have hlog : ((s.emit events).setHandler uuid h').peer.eventRx.log =
      s.peer.eventRx.log ++ events := Channel.log_sendAll _ _
  rw [hlog, addsError_append]
  rintro ⟨c, inner, herror⟩
  cases (PeerHandler.says_of_step hb).2 with
  | nothing => cases herror
  | goodbye => simp at herror
  | again => simp at herror
  | first => simp at herror

/-- Of the commands that fail a `Connect` is reported. -/
theorem failureReported_processes {s t : TcpBackend} {env : CommandEnv} {cmd : BackendCommand}
    (hloop : s.loop = .selecting) (h : Processes env s cmd t)
    (hfails : s.CommandFails env cmd) :
    FailureReported s t ↔ isConnect cmd = true := by
  cases h with
  | bind hok =>
    rw [CommandFails, hok] at hfails
    cases hfails
  | bindFails => exact iff_of_false (fun h => not_addsError_self _ h.error) (by simp [isConnect])
  | connect hok =>
    rw [CommandFails, hok] at hfails
    cases hfails
  | connectFails =>
    refine iff_of_true ?_ rfl
    exact
      { error :=
          ⟨_, Channel.log_sendAll _ _, Uuid.nil, .connectionError, List.mem_singleton_self _⟩,
        running := by simp [running, emit, hloop],
        peers := rfl, accepts := rfl, peerReg := rfl, handlers := rfl }
  | send =>
    refine iff_of_false (fun h => ?_) (by simp [isConnect])
    have herror := h.error
    rw [peer_push] at herror
    exact not_addsError_self _ herror
  | drop => exact iff_of_false (fun h => not_addsError_self _ h.error) (by simp [isConnect])
  | shutdown => cases hfails
  | createStream => cases hfails
  | closeStream => cases hfails

/-- Of the steps at which a command fails those that take a `Connect` report it. -/
theorem failureReported_iff {s t : TcpBackend} {a : Action} (hstep : s.step a = some t)
    (hfails : Fails s a) : FailureReported s t ↔ Connects s a := by
  cases steps_of_step hstep with
  | @command env cmd tx t hloop hrecv hcommand =>
    have htaken : s.taken (.command env) = some (env, cmd) := by rw [taken, hrecv, Option.map_some]
    have hcommandFails : s.CommandFails env cmd := by
      simpa [Fails, Loses, htaken] using hfails
    have hreported := failureReported_processes (by exact hloop) hcommand hcommandFails
    rw [Connects, htaken]
    simp only [Option.mem_def, Option.some.injEq, exists_eq_left']
    exact Iff.trans ⟨fun h => { h with }, fun h => { h with }⟩ hreported
  | resume =>
    exact iff_of_false (fun h => not_addsError_self _ h.error) (by simp [Connects, taken])
  | handler _ _ hb =>
    exact iff_of_false (fun h => not_addsError_handler hb h.error) (by simp [Connects, taken])
  | issue => simp [Fails, Loses, taken] at hfails
  | poll => simp [Fails, Loses, taken] at hfails
  | register => simp [Fails, Loses, taken] at hfails
  | announce => simp [Fails, Loses, taken] at hfails
  | spawn => simp [Fails, Loses, taken] at hfails
  | handOver => simp [Fails, Loses, taken] at hfails

theorem reports_iff_of_run {actions : List Action} {s : TcpBackend}
    (hrun : Run.run step init actions = some s) :
    Run.Along step Reports init actions ↔
      Run.Along step (fun s a => Fails s a → Connects s a) init actions := by
  have answered_iff : ∀ (s : TcpBackend) a t, s.step a = some t → Fails s a →
      (FailureReported s t ↔ Connects s a) := fun _ _ _ => failureReported_iff
  exact Run.along_answered_iff answered_iff actions hrun

end TcpBackend

end Tcp
end GameSockets
