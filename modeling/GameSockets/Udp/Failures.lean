/-
Commands that come to nothing: the backend says so of none.

The result of each call is either bound with `if let Ok` or thrown away, so a refused bind, an
address that does not parse and a datagram that cannot be sent all leave the event channel as
it was.
-/
import GameSockets.Udp.Datagram

namespace GameSockets
namespace Udp

open Library

/-- An input of the loop, and an answer of the system that the loop does not look at. -/
structure Attempt (Addr : Type) where
  input : Input Addr
  /-- `send_to` succeeds -/
  sendOk : Bool

section Failures

variable {Addr : Type} (parse : String → Option Addr)

namespace UdpRun

def attempt (s : UdpRun Addr) (a : Attempt Addr) : Option (UdpRun Addr) := s.step parse a.input

/-- A `Bind`, `Connect` or `Send` that comes to nothing: no socket for it, no address, no
connection, or an error of the socket. -/
def Fails (s : UdpRun Addr) (a : Attempt Addr) : Prop :=
  match a.input with
  | .command env (.bind _ _) => s.backend.socket = true ∨ env.bindOk = false
  | .command env (.connect addr port) =>
    (s.backend.socket = false ∧ env.bindOk = false) ∨
      parse (addr ++ ":" ++ toString port.toNat) = none
  | .command _ (.send c _ _) =>
    s.backend.socket = false ∨ s.backend.connections c = none ∨ a.sendOk = false
  | _ => False

instance (s : UdpRun Addr) (a : Attempt Addr) : Decidable (Fails parse s a) := by
  unfold Fails
  split <;> infer_instance

/-- The loop goes on with an error reported and its connections as they were. -/
structure FailureReported (s t : UdpRun Addr) : Prop where
  error : AddsError s.events t.events
  running : t.running = true
  connections : t.backend.connections = s.backend.connections
  knownStreams : t.backend.knownStreams = s.backend.knownStreams

/-- If the command fails, this is reported. -/
def Reports (s : UdpRun Addr) (a : Attempt Addr) : Prop :=
  Fails parse s a → ∃ t, s.attempt parse a = some t ∧ FailureReported s t

variable {parse}

/-- No step of the loop reports an error. -/
theorem not_addsError_step {s t : UdpRun Addr} {a : Input Addr} (h : s.step parse a = some t) :
    ¬ AddsError s.events t.events := by
  have hnew : ∃ new, t.events = s.events ++ new ∧ ∀ e ∈ new, ∀ c inner, e ≠ .error c inner := by
    cases steps_of_step h with
    | shutdown => exact ⟨[], (List.append_nil _).symm, by simp⟩
    | @command env cmd =>
      refine ⟨_, rfl, ?_⟩
      generalize hout : processCommand parse env s.backend cmd = out
      cases processes_of_processCommand hout with
      | bind => simp
      | connect => simp
      | unparsed => simp
      | send => simp
      | dropped => simp
      | createStream => simp
      | closeStream => simp
      | shutdown => simp
    | noise => exact ⟨[], (List.append_nil _).symm, by simp⟩
    | packet =>
      refine ⟨_, rfl, fun e he c inner hinner => ?_⟩
      subst hinner
      simp only [List.mem_append, List.mem_singleton] at he
      rcases he with (he | he) | he
      · cases eq_of_mem_noteAddress he
      · cases eq_of_mem_noteStream he
      · cases he
    | recvError => exact ⟨[], (List.append_nil _).symm, by simp⟩
  obtain ⟨new, hlog, hquiet⟩ := hnew
  rw [hlog, addsError_append]
  rintro ⟨c, inner, herror⟩
  exact hquiet _ herror c inner rfl

theorem reports_iff_of_run {attempts : List (Attempt Addr)} {s : UdpRun Addr}
    (hrun : Run.run (attempt parse) init attempts = some s) :
    Run.Along (attempt parse) (Reports parse) init attempts ↔
      Run.Along (attempt parse) (fun s a => ¬ Fails parse s a) init attempts :=
  Run.along_answered_iff
    (fun _ _ _ hstep _ => iff_of_false (fun h => not_addsError_step hstep h.error) id) attempts hrun

end UdpRun

end Failures

end Udp
end GameSockets
