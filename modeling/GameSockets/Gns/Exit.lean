/-
How the loop ends, and that it does not when the application drops its handle.

The loop polls.  `try_recv` fails in the same way whether the channel is empty or has lost its
sender, and the loop goes round once more.
-/
import GameSockets.Gns.Backend
import GameSockets.Library.Owner

namespace GameSockets
namespace Gns

open Library Owner

/-- The backend thread and the application's handle on it. -/
structure GnsPeer (Handle : Type) where
  peer : GamePeer
  run : GnsRun Handle

inductive PeerAction (Handle : Type) where
  | issue (cmd : BackendCommand)
  | poll
  /-- `try_recv` yields a command -/
  | command (env : CommandEnv)
  /-- `poll_event` or `poll_messages` calls back -/
  | event (env : EventEnv) (conn : Handle) (oldState newState : ConnectionState)
  | message (conn : Handle) (payload : Bytes)
  /-- the loop goes round, and there is nothing to do -/
  | pass

section Peer

variable {Handle : Type}

/-- The application's actions. -/
def PeerAction.byApplication : PeerAction Handle → Bool
  | .issue _ => true
  | .poll => true
  | _ => false

/-- GNS has something to report. -/
def PeerAction.fromNetwork : PeerAction Handle → Bool
  | .event _ _ _ _ => true
  | .message _ _ => true
  | _ => false

variable [DecidableEq Handle] (parse : String → Option Ipv4Addr)

namespace GnsPeer

def init : GnsPeer Handle := { peer := GamePeer.new, run := GnsRun.init }

/-- The application's handle: the channels close with the loop. -/
def handle (s : GnsPeer Handle) : GamePeer := { s.peer with alive := s.run.running }

/-- The loop takes an input, and its events go to the application. -/
def feed (s : GnsPeer Handle) (input : Input Handle) : Option (GnsPeer Handle) :=
  (s.run.step parse input).map fun run =>
    { peer :=
        { s.peer with
          eventRx := s.peer.eventRx.sendAll (run.events.drop s.run.events.length) },
      run := run }

/-- The channels close with the loop. -/
def step (s : GnsPeer Handle) : PeerAction Handle → Option (GnsPeer Handle)
  | .issue cmd =>
    match ({ s.peer with alive := s.run.running } : GamePeer).sendCmd cmd with
    | .ok peer => some { s with peer := peer }
    | _ => none
  | .poll =>
    match s.peer.poll with
    | .ok (some (_, peer)) => some { s with peer := peer }
    | _ => none
  | .command env =>
    match s.peer.cmdTx.recv with
    | some (cmd, tx) => feed parse { s with peer := { s.peer with cmdTx := tx } } (.command env cmd)
    | none => none
  | .event env conn oldState newState => feed parse s (.event env conn oldState newState)
  | .message conn payload => feed parse s (.message conn payload)
  | .pass => if s.run.running && s.peer.cmdTx.pending.isEmpty then some s else none

/-- The loop does not wait. -/
def turn (_ : GnsPeer Handle) (_ : Bool) : Turn := .runs

def machine : Machine (GnsPeer Handle) (PeerAction Handle) :=
  { step := step parse, init := init, owner := PeerAction.byApplication,
    outside := PeerAction.fromNetwork, drained := fun s => s.peer.cmdTx.pending.isEmpty,
    ended := fun s => !s.run.running, turn := turn }

/-- The command that the loop takes. -/
def taken (s : GnsPeer Handle) : PeerAction Handle → Option (CommandEnv × BackendCommand)
  | .command env => s.peer.cmdTx.recv.map fun (cmd, _) => (env, cmd)
  | _ => none

/-- `Shutdown`, or a `Bind` whose `listen` fails. -/
def Fatal : CommandEnv × BackendCommand → Prop
  | (_, .shutdown) => True
  | (env, .bind _ _) => env.listenOk = false
  | _ => False

variable {parse}

omit [DecidableEq Handle] in
/-- `run` returns at the fatal commands. -/
theorem returns_iff {env : CommandEnv} {s : GnsBackend Handle} {cmd : BackendCommand} :
    processCommand parse env s cmd = none ↔ Fatal (env, cmd) := by
  cases cmd with
  | bind addr port => simp [processCommand, Fatal]
  | connect addr port =>
    simp only [processCommand, Fatal]
    split <;> simp
  | send c stream data =>
    simp only [processCommand, Fatal]
    split <;> simp
  | createStream c i r => simp [processCommand, Fatal]
  | closeStream c i => simp [processCommand, Fatal]
  | shutdown => simp [processCommand, Fatal]

theorem feed_spec {s t : GnsPeer Handle} {input : Input Handle} (h : feed parse s input = some t) :
    t.peer.cmdTx = s.peer.cmdTx ∧
      (t.run.running = false ↔
        s.run.running = false ∨ ∃ env cmd, input = .command env cmd ∧ Fatal (env, cmd)) := by
  obtain ⟨run, hrun, rfl⟩ := Option.map_eq_some_iff.mp h
  refine ⟨rfl, ?_⟩
  cases GnsRun.steps_of_step hrun with
  | @stop env cmd hreturns =>
    exact iff_of_true rfl (Or.inr ⟨env, cmd, rfl, returns_iff.mp hreturns⟩)
  | @command env cmd r hcommand =>
    have hnot : ¬ Fatal (env, cmd) := by
      rw [← returns_iff, hcommand]
      exact Option.some_ne_none r
    refine (or_iff_left ?_).symm
    rintro ⟨env', cmd', heq, hfatal⟩
    cases heq
    exact hnot hfatal
  | register => simp [GnsRun.put]
  | disconnect => simp [GnsRun.put]
  | quiet => simp [GnsRun.put]
  | drop => simp [GnsRun.put]
  | receive => simp [GnsRun.put]
  | receiveNew => simp [GnsRun.put]

theorem serves_of_step {s t : GnsPeer Handle} {a : PeerAction Handle}
    (h : s.step parse a = some t) :
    (machine parse).Serves (fun s => s.peer.cmdTx) taken Fatal s a t := by
  cases a with
  | issue cmd =>
    simp only [step] at h
    split at h <;> cases h
    exact .owner rfl rfl rfl
  | poll =>
    simp only [step] at h
    split at h <;> cases h
    exact .owner rfl rfl rfl
  | command env =>
    simp only [step] at h
    split at h
    · next cmd tx hrecv =>
      have htaken : s.taken (.command env) = some (env, cmd) := by
        rw [taken, hrecv, Option.map_some]
      refine .command htaken (Channel.pending_ne_nil_of_recv hrecv) ?_
      simpa [machine] using (feed_spec h).2
    · cases h
  | event env conn old new =>
    obtain ⟨hcmd, hended⟩ := feed_spec h
    exact .other rfl hcmd (Bool.eq_iff_iff.mpr (by simpa [machine] using hended))
  | message conn payload =>
    obtain ⟨hcmd, hended⟩ := feed_spec h
    exact .other rfl hcmd (Bool.eq_iff_iff.mpr (by simpa [machine] using hended))
  | pass =>
    simp only [step] at h
    split at h <;> cases h
    exact .other rfl rfl rfl

theorem endedBy :
    (machine parse : Machine (GnsPeer Handle) (PeerAction Handle)).EndedBy taken Fatal :=
  Machine.endedBy_of_serves rfl (fun _ => rfl) (fun _ _ _ => serves_of_step)
    fun _ _ _ => by simp [machine, turn]

end GnsPeer

end Peer

end Gns
end GameSockets
