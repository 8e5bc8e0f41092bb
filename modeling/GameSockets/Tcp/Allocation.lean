/-
The ids that `TcpBackend` announces for the streams of its peer.

The loop answers each `CreateStream` with one `StreamCreated`, in the order of the calls.
-/
import GameSockets.Allocation
import GameSockets.Tcp.Registration

namespace GameSockets
namespace Tcp

open Library

/-- The command that the action issues. -/
def Action.issued : Action → Option BackendCommand
  | .issue cmd => some cmd
  | _ => none

namespace TcpBackend

/-- The call whose `CreateStream` the loop takes. -/
def answering (s : TcpBackend) : Action → Option Nat
  | .command _ => s.peer.nextCreation
  | _ => none

/-- The loop opens a stream for every call. -/
def allocator : Allocator TcpBackend Action :=
  { step := step, init := init, peer := fun s => s.peer,
    setPeer := fun s peer => { s with peer := peer }, issues := Action.issued,
    answering := answering, opens := fun _ _ => true }

/-- Only the application counts its calls. -/
theorem nextStreamId_of_step {s t : TcpBackend} {a : Action} (hstep : s.step a = some t) :
    t.peer.nextStreamId = s.peer.nextStreamId := by
  cases steps_of_step hstep with
  | command _ _ hcommand =>
    cases hcommand with
    | send => rw [peer_push]
    | _ => rfl
  | _ => rfl

theorem issued_of_step {s t : TcpBackend} {a : Action} (hstep : s.step a = some t) :
    t.peer.cmdTx.log = s.peer.cmdTx.log ++ a.issued.toList := by
  have hquiet : t.peer.cmdTx.log = s.peer.cmdTx.log →
      t.peer.cmdTx.log = s.peer.cmdTx.log ++ [] := fun h => h.trans (List.append_nil _).symm
  rcases (step_logs hstep).2 with hlog | ⟨cmd, rfl, hlog⟩
  · cases steps_of_step hstep with
    | issue => exact Channel.log_send _ _
    | _ => exact hquiet hlog
  · exact hlog

/-- The loop answers a `CreateStream` as it takes it. -/
theorem answered_command {s t : TcpBackend} {env : CommandEnv} {c : Creation}
    {tx : Channel BackendCommand}
    (hrecv : s.peer.cmdTx.recv = some (.createStream c.connection c.index c.reliability, tx))
    (hstep : s.step (.command env) = some t) :
    t.peer.eventRx.log = s.peer.eventRx.log ++ [.streamCreated c.connection c.stream] := by
  cases steps_of_step hstep with
  | command _ hrecv' hcommand =>
    cases hrecv.symm.trans hrecv'
    cases hcommand with
    | createStream => exact Channel.log_sendAll _ _

theorem lawful : allocator.Lawful fun _ => True := by
  refine ⟨rfl, trivial, fun _ _ _ _ _ => trivial, fun _ _ _ _ => trivial, fun _ _ => rfl,
    fun _ _ => rfl, fun _ _ _ => nextStreamId_of_step, fun _ _ _ => issued_of_step, ?_⟩
  intro s a t k _ hstep hk
  cases a with
  | command env =>
    obtain ⟨c, tx, hrecv, hc⟩ := GamePeer.nextCreation_eq_some hk
    exact ⟨c, hc, Allocator.announces_created rfl (answered_command hrecv hstep)⟩
  | _ => cases hk

/-- `n` calls for a reliable stream, each taken by the loop at once. -/
def rounds : Nat → List (CreateAction Action)
  | 0 => []
  | n + 1 => .createStream Uuid.nil .reliable :: .backend (.command allOk) :: rounds n

theorem run_rounds (profile : Profile) (n : Nat) {s : TcpBackend} (hloop : s.loop = .selecting)
    (halive : s.peer.alive = true) (hpending : s.peer.cmdTx.pending = [])
    (hroom : s.peer.nextStreamId.toNat + n < UInt16.size) :
    (∃ t, Run.run (allocator.createStep profile) s (rounds n) = some t) ∧
      Run.observe (allocator.createStep profile) allocator.opening s (rounds n) =
        List.range' (s.peer.cmdTx.received.filterMap BackendCommand.creation).length n ∧
      Run.observe (allocator.createStep profile) (fun _ => CreateAction.call) s (rounds n) =
        List.replicate n { connection := Uuid.nil, reliability := .reliable } := by
  induction n generalizing s with
  | zero => exact ⟨⟨s, rfl⟩, rfl, rfl⟩
  | succ n ih =>
    let i := s.peer.nextStreamId + 1
    let cmd : BackendCommand := .createStream Uuid.nil i .reliable
    let s₁ : TcpBackend :=
      { s with peer := { s.peer with nextStreamId := i, cmdTx := s.peer.cmdTx.send cmd } }
    let tx : Channel BackendCommand :=
      { received := s.peer.cmdTx.received ++ [cmd], pending := [] }
    let s₂ : TcpBackend := { s₁ with loop := .selecting, peer := { s₁.peer with cmdTx := tx } }
    let s₃ : TcpBackend := s₂.emit [.streamCreated Uuid.nil (GameStream.new i .reliable)]
    have hcreate : allocator.createStep profile s (.createStream Uuid.nil .reliable) = some s₁ :=
      Allocator.createStep_of_ok
        (GamePeer.createStreamIn_of_room profile halive (by omega) Uuid.nil .reliable)
    have hrecv : s₁.peer.cmdTx.recv = some (cmd, tx) := by
      refine Channel.recv_of_pending ?_
      show s.peer.cmdTx.pending ++ [cmd] = [cmd]
      rw [hpending, List.nil_append]
    have hcommand : s₁.step (.command allOk) = some s₃ := by
      have hloop₁ : s₁.loop = .selecting := hloop
      simp only [step, hloop₁, hrecv]
      rfl
    have hbackend : allocator.createStep profile s₁ (.backend (.command allOk)) = some s₃ :=
      hcommand
    have hopening : allocator.opening s₁ (.backend (.command allOk)) =
        [(s.peer.cmdTx.received.filterMap BackendCommand.creation).length] := by
      show (s₁.peer.nextCreation).toList = _
      simp only [GamePeer.nextCreation, hrecv, cmd]
      rfl
    have htaken : (s₃.peer.cmdTx.received.filterMap BackendCommand.creation).length =
        (s.peer.cmdTx.received.filterMap BackendCommand.creation).length + 1 := by
      show ((s.peer.cmdTx.received ++ [cmd]).filterMap BackendCommand.creation).length = _
      rw [List.filterMap_append, List.length_append]
      rfl
    have hi : i.toNat = s.peer.nextStreamId.toNat + 1 := by
      show (s.peer.nextStreamId + 1).toNat = _
      rw [UInt16.toNat_add, UInt16.toNat_one]
      exact Nat.mod_eq_of_lt (lt_of_le_of_lt (by omega) hroom)
    have hroom₃ : s₃.peer.nextStreamId.toNat + n < UInt16.size := by
      show i.toNat + n < UInt16.size
      omega
    obtain ⟨⟨t, hrun⟩, hopened, hcalls⟩ := ih (s := s₃) rfl halive rfl hroom₃
    refine ⟨⟨t, ?_⟩, ?_, ?_⟩
    · rw [rounds, Run.run_cons_of_step _ hcreate, Run.run_cons_of_step _ hbackend, hrun]
    · rw [rounds, Run.observe, hcreate, Option.elim_some, Run.observe, hbackend,
        Option.elim_some, hopening, hopened, htaken]
      rfl
    · rw [rounds, Run.observe, hcreate, Option.elim_some, Run.observe, hbackend,
        Option.elim_some, hcalls]
      rfl

/-- The first call and the call after 16384 others are answered with one stream. -/
theorem not_distinct_rounds (profile : Profile) :
    ∃ s, Run.run (allocator.createStep profile) init (rounds 16385) = some s ∧
      ¬ Distinct (allocator.announced profile (rounds 16385)) := by
  obtain ⟨⟨s, hrun⟩, hopened, hcalls⟩ :=
    run_rounds profile 16385 (s := init) rfl rfl rfl (by decide)
  have hopened : allocator.opened profile (rounds 16385) = List.range' 0 16385 := hopened
  have hcalls : allocator.calls profile (rounds 16385) =
    List.replicate 16385 { connection := Uuid.nil, reliability := .reliable } := hcalls
  refine ⟨s, hrun, ?_⟩
  rw [lawful.distinct_iff hrun, hopened, hcalls]
  intro hapart
  refine hapart 0 ?_ 16384 ?_ (by decide) ?_ (by decide)
  · exact List.mem_range'_1.mpr ⟨by decide, by decide⟩
  · exact List.mem_range'_1.mpr ⟨by decide, by decide⟩
  · rw [List.getElem?_replicate_of_lt (by decide), List.getElem?_replicate_of_lt (by decide)]

end TcpBackend

end Tcp
end GameSockets
