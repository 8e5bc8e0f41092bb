/-
Commands that come to nothing: the backend says so of none.

An address that does not parse is taken for the local host, a refused `listen` ends the loop,
and the rest is logged or not looked at.  A host that cannot be reached is told by a change of
state, which the application hears of as the end of a connection, or not at all.
-/
import GameSockets.Gns.Backend

namespace GameSockets
namespace Gns

open Library

/-- An input of the loop, and an answer of GNS that the loop does not look at. -/
structure Attempt (Handle : Type) where
  input : Input Handle
  /-- what `send_messages` returns for the message -/
  sendOk : Bool

/-- There is no connection before the change of state `old` to `new`, and none after it. -/
def ConnectFails (old new : ConnectionState) : Prop :=
  (old = .none ∨ old = .connecting ∨ old = .findingRoute) ∧
    (new = .closedByPeer ∨ new = .problemDetectedLocally)

instance (old new : ConnectionState) : Decidable (ConnectFails old new) :=
  inferInstanceAs (Decidable (_ ∧ _))

section Failures

variable {Handle : Type}

/-- The backend is connecting, or connected, to a server. -/
def GnsBackend.isClient (s : GnsBackend Handle) : Bool :=
  match s.socket with
  | some (.client _ _) => true
  | _ => false

variable [DecidableEq Handle] (parse : String → Option Ipv4Addr)

namespace GnsRun

def attempt (s : GnsRun Handle) (a : Attempt Handle) : Option (GnsRun Handle) :=
  s.step parse a.input

/-- A `Bind`, `Connect` or `Send` that comes to nothing: an address that is none, a call that
is refused, no connection or no socket, or a host that does not answer. -/
def Fails (s : GnsRun Handle) (a : Attempt Handle) : Prop :=
  match a.input with
  | .command env (.bind addr _) => parse addr = none ∨ env.listenOk = false
  | .command env (.connect addr _) => parse addr = none ∨ env.connectOk = false
  | .command _ (.send c _ _) =>
    s.backend.uuidToHandle c = none ∨ s.backend.socket = none ∨ a.sendOk = false
  | .event _ _ old new => s.backend.isClient = true ∧ ConnectFails old new
  | _ => False

omit [DecidableEq Handle] in
instance (s : GnsRun Handle) (a : Attempt Handle) : Decidable (Fails parse s a) := by
  unfold Fails
  split <;> infer_instance

/-- The loop goes on with an error reported and its state as it was. -/
structure FailureReported (s t : GnsRun Handle) : Prop where
  error : AddsError s.events t.events
  running : t.running = true
  backend : t.backend = s.backend

/-- If the command fails, this is reported. -/
def Reports (s : GnsRun Handle) (a : Attempt Handle) : Prop :=
  Fails parse s a → ∃ t, s.attempt parse a = some t ∧ FailureReported s t

variable {parse}

omit [DecidableEq Handle] in
theorem not_error_of_processCommand {env : CommandEnv} {s : GnsBackend Handle}
    {cmd : BackendCommand} {r : GnsBackend Handle × Output Handle}
    (h : processCommand parse env s cmd = some r) (c : Uuid) (inner : GameSocketError) :
    .error c inner ∉ r.2.events := by
  cases cmd with
  | bind addr port =>
    simp only [processCommand] at h
    split at h <;> cases h
    simp
  | connect addr port =>
    simp only [processCommand] at h
    split at h <;> cases h <;> simp
  | send c stream data =>
    simp only [processCommand] at h
    split at h <;> cases h <;> simp
  | createStream c i r =>
    cases h
    simp
  | closeStream c i =>
    cases h
    simp
  | shutdown => cases h

/-- No step of the loop reports an error. -/
theorem not_addsError_step {s t : GnsRun Handle} {a : Input Handle} (h : s.step parse a = some t) :
    ¬ AddsError s.events t.events := by
  cases steps_of_step h with
  | stop => exact not_addsError_self _
  | command hcommand =>
    rw [put, addsError_append]
    rintro ⟨c, inner, herror⟩
    exact not_error_of_processCommand hcommand c inner herror
  | register => simp [put, addsError_append]
  | disconnect => simp [put, addsError_append]
  | quiet => simp [put, not_addsError_self]
  | drop => simp [put, not_addsError_self]
  | receive => simp [put, addsError_append]
  | receiveNew => simp [put, addsError_append]

theorem reports_iff_of_run {attempts : List (Attempt Handle)} {s : GnsRun Handle}
    (hrun : Run.run (attempt parse) init attempts = some s) :
    Run.Along (attempt parse) (Reports parse) init attempts ↔
      Run.Along (attempt parse) (fun s a => ¬ Fails parse s a) init attempts :=
  Run.along_answered_iff
    (fun _ _ _ hstep _ => iff_of_false (fun h => not_addsError_step hstep h.error) id) attempts hrun

end GnsRun

end Failures

end Gns
end GameSockets
