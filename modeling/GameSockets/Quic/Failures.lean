/-
Commands that come to nothing: the backend says so of a `Send` that has a stream or a
connection to fail on.

A `Bind` and a `Connect` that are refused panic, whether it is the address or the endpoint.  A
`Send` on a connection or a reliable stream that is not registered is dropped.
-/
import GameSockets.Quic.Exit

namespace GameSockets
namespace Quic

open Library

namespace QuicBackend

/-- The connection is registered, and if the stream is reliable it is too. -/
def Sendable (s : QuicBackend) (c : Uuid) (stream : GameStream) : Prop :=
  c ∈ s.connections ∧
    (stream.isReliable = true → s.reliableSendStreams (c, stream.streamId) ≠ none)

/-- A `Send` for which there is a connection and, if need be, a stream. -/
def CommandSends (s : QuicBackend) : BackendCommand → Prop
  | .send c stream _ => s.Sendable c stream
  | _ => False

/-- The command comes to nothing when the loop takes it. -/
def CommandFails (s : QuicBackend) (env : CommandEnv) : BackendCommand → Prop
  | .bind _ _ => env.bindOk = false
  | .connect _ _ => env.connectOk = false
  | .send c stream _ => ¬ s.Sendable c stream ∨ env.sendError ≠ none
  | _ => False

/-- A `Bind`, `Connect` or `Send` comes to nothing. -/
def Fails (s : QuicBackend) (a : Action) : Prop := ∃ x ∈ s.taken a, s.CommandFails x.env x.cmd

/-- The loop takes such a `Send`. -/
def Sends (s : QuicBackend) (a : Action) : Prop := ∃ x ∈ s.taken a, s.CommandSends x.cmd

instance (s : QuicBackend) (c : Uuid) (stream : GameStream) : Decidable (s.Sendable c stream) :=
  inferInstanceAs (Decidable (_ ∧ _))

instance (s : QuicBackend) (cmd : BackendCommand) : Decidable (s.CommandSends cmd) := by
  unfold CommandSends
  split <;> infer_instance

instance (s : QuicBackend) (env : CommandEnv) (cmd : BackendCommand) :
    Decidable (s.CommandFails env cmd) := by
  unfold CommandFails
  split <;> infer_instance

instance (s : QuicBackend) (a : Action) : Decidable (Fails s a) := by
  unfold Fails
  infer_instance

instance (s : QuicBackend) (a : Action) : Decidable (Sends s a) := by
  unfold Sends
  infer_instance

/-- The loop goes on with an error reported and its connections as they were.  The stream of
the `Send` stays registered; how much of the frame it has taken is not said. -/
structure FailureReported (s t : QuicBackend) : Prop where
  error : AddsError s.peer.eventRx.log t.peer.eventRx.log
  running : t.running = true
  connections : t.connections = s.connections
  accepts : t.accepts = s.accepts
  connReg : t.connReg = s.connReg
  streamReg : t.streamReg = s.streamReg
  readers : t.readers = s.readers
  streamReaders : t.streamReaders = s.streamReaders
  unreliableSendStreams : t.unreliableSendStreams = s.unreliableSendStreams
  reliableSendStreams : ∀ key,
    (t.reliableSendStreams key).isSome = (s.reliableSendStreams key).isSome
  datagrams : t.datagrams = s.datagrams

/-- If the command fails, this is reported. -/
def Reports (s : QuicBackend) (a : Action) : Prop :=
  Fails s a → ∃ t, s.step a = some t ∧ FailureReported s t

/-- A write that fails is reported. -/
theorem failureReported_writeAll {s : QuicBackend} (hrunning : s.running = true)
    {key : Uuid × UInt16} {stream : SendStream} (hstream : s.reliableSendStreams key = some stream)
    (bytes : Bytes) (n : Nat) (msg : String) :
    FailureReported s (s.writeAll key stream bytes (some (n, msg))) where
  error := ⟨_, Channel.log_sendAll _ _, key.1, .sendFailed msg, List.mem_singleton_self _⟩
  running := hrunning
  connections := rfl
  accepts := rfl
  connReg := rfl
  streamReg := rfl
  readers := rfl
  streamReaders := rfl
  unreliableSendStreams := rfl
  reliableSendStreams := by
    intro key'
    by_cases hkey : key' = key
    · subst hkey
      simp [writeAll, hstream]
    · simp [writeAll, emit, hkey]
  datagrams := rfl

/-- Of the commands that fail a `Send` is reported that has a connection and a stream. -/
theorem failureReported_processes {s t : QuicBackend} {env : CommandEnv} {cmd : BackendCommand}
    (hrunning : s.running = true) (h : Processes env s cmd t) (hfails : s.CommandFails env cmd) :
    FailureReported s t ↔ s.CommandSends cmd := by
  have silent : ∀ {u : QuicBackend}, u.peer.eventRx = s.peer.eventRx → ¬ FailureReported s u := by
    intro u hu h
    have herror := h.error
    rw [hu] at herror
    exact not_addsError_self _ herror
  cases h with
  | bind hok => simp [CommandFails, hok] at hfails
  | bindFails => exact iff_of_false (silent rfl) id
  | connect hok => simp [CommandFails, hok] at hfails
  | connectFails => exact iff_of_false (silent rfl) id
  | @send c stream data sendStream hconn _ hstream =>
    have hsendable : s.Sendable c stream := ⟨hconn, fun _ => by simp [hstream]⟩
    refine iff_of_true ?_ hsendable
    obtain ⟨⟨n, msg⟩, herror⟩ :=
      Option.ne_none_iff_exists'.mp (hfails.resolve_left (not_not_intro hsendable))
    rw [herror]
    exact failureReported_writeAll hrunning hstream _ n msg
  | noStream _ hreliable hstream =>
    exact iff_of_false (silent rfl) fun hsendable => hsendable.2 hreliable hstream
  | datagram hconn hunreliable hok =>
    exact absurd hfails (by simp [CommandFails, Sendable, hconn, hunreliable, hok])
  | @datagramFails c stream data n msg hconn hunreliable =>
    refine iff_of_true ?_ ⟨hconn, fun h => absurd h hunreliable⟩
    exact
      { error := ⟨_, Channel.log_sendAll _ _, c, .sendFailed msg, List.mem_singleton_self _⟩,
        running := hrunning,
        connections := rfl, accepts := rfl, connReg := rfl, streamReg := rfl, readers := rfl,
        streamReaders := rfl, unreliableSendStreams := rfl, reliableSendStreams := fun _ => rfl,
        datagrams := rfl }
  | noConnection hconn => exact iff_of_false (silent rfl) fun hsendable => hconn hsendable.1
  | shutdown => cases hfails
  | openStream => cases hfails
  | openFails => cases hfails
  | openUnconnected => cases hfails
  | createStream => cases hfails
  | closeStream => cases hfails

/-- Of the steps at which a command fails those that take such a `Send` report it. -/
theorem failureReported_iff {s t : QuicBackend} {a : Action} (hstep : s.step a = some t)
    (hfails : Fails s a) : FailureReported s t ↔ Sends s a := by
  obtain ⟨x, hx, hcommandFails⟩ := hfails
  cases steps_of_step hstep with
  | @command env cmd tx t hloop hrecv hcommand =>
    have htaken : s.taken (.command env) =
        some { env := env, cmd := cmd, connections := s.connections } := by
      rw [taken, hrecv, Option.map_some]
    rw [htaken] at hx
    cases hx
    have hreported := failureReported_processes (by simp [running, hloop]) hcommand hcommandFails
    rw [Sends, htaken]
    simp only [Option.mem_def, Option.some.injEq, exists_eq_left']
    exact Iff.trans ⟨fun h => { h with }, fun h => { h with }⟩ hreported
  | _ => cases hx

theorem reports_iff_of_run {actions : List Action} {s : QuicBackend}
    (hrun : Run.run step init actions = some s) :
    Run.Along step Reports init actions ↔
      Run.Along step (fun s a => Fails s a → Sends s a) init actions := by
  have answered_iff : ∀ (s : QuicBackend) a t, s.step a = some t → Fails s a →
      (FailureReported s t ↔ Sends s a) := fun _ _ _ => failureReported_iff
  exact Run.along_answered_iff answered_iff actions hrun

end QuicBackend

end Quic
end GameSockets
