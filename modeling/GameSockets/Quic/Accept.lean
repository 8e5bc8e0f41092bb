/-
Handshakes that fail.

An accept task unwraps the result of each handshake inside its loop.  The panic ends
the task, and with `panic = "abort"`, which the release profile sets, the process.
A `Listener` is a backend together with the accept tasks that have panicked.
-/
import GameSockets.Quic.Events

namespace GameSockets
namespace Quic

open Library

/-- A backend, and what panics have ended. -/
structure Listener where
  backend : QuicBackend
  /-- the accept tasks that have panicked -/
  panicked : List Nat
  /-- the process has ended -/
  aborted : Bool

inductive ListenerAction where
  | backend (a : Action)
  /-- the handshake of a connection that accept task `k` has taken fails -/
  | handshakeFails (k : Nat)

/-- The accept task that takes the action. -/
def Action.acceptTask : Action → Option Nat
  | .announce k _ => some k
  | .handOver k => some k
  | _ => none

/-- The action as the backend sees it. -/
def ListenerAction.toBackend : ListenerAction → Option Action
  | .backend a => some a
  | .handshakeFails _ => none

namespace Listener

def init : Listener := { backend := .init, panicked := [], aborted := false }

/-- What becomes of the listener when accept task `k` panics. -/
def panic (s : Listener) (k : Nat) : Profile → Listener
  | .dev => { s with panicked := k :: s.panicked }
  | .release => { s with aborted := true }

/-- No panic has ended the party that takes the action. -/
def Lives (s : Listener) (a : Action) : Prop :=
  s.aborted = false ∧ ∀ k ∈ s.panicked, a.acceptTask ≠ some k

instance decidableLives (s : Listener) (a : Action) : Decidable (s.Lives a) :=
  inferInstanceAs (Decidable (_ ∧ _))

def step (profile : Profile) (s : Listener) : ListenerAction → Option Listener
  | .backend a =>
    if s.Lives a then (s.backend.step a).map fun backend => { s with backend := backend } else none
  | .handshakeFails k =>
    -- `conn.await.unwrap()`
    if s.aborted = false ∧ k ∉ s.panicked ∧ s.backend.running ∧
        s.backend.accepts[k]? = some .accepting then
      some (s.panic k profile)
    else none

/-- Accept task `k` and the loop, which takes what the task hands over. -/
def Serving (k : Nat) (a : Action) : Prop := a = .registerConnection ∨ a.acceptTask = some k

/-- Accept task `k` lives, and an attempt that completes now is announced, registered
and read. -/
def Serves (profile : Profile) (s : Listener) (k : Nat) : Prop :=
  s.aborted = false ∧ k ∉ s.panicked ∧
    ∀ u, s.backend.Fresh u →
      ∃ t, Run.ReachableBy (step profile) (fun a => ∃ b, a = .backend b ∧ Serving k b) s t ∧
        .connected u ∈ t.backend.peer.eventRx.log ∧ u ∈ t.backend.connections ∧
        t.backend.readers u ≠ none

/-- While the loop runs, every accept task serves. -/
def Survives (profile : Profile) (s : Listener) : Prop :=
  s.backend.loop = .selecting → ∀ k < s.backend.accepts.length, s.Serves profile k

/-! ## The backend below -/

/-- The branches of `step`. -/
inductive Steps (profile : Profile) (s : Listener) : ListenerAction → Listener → Prop where
  | backend {a : Action} {backend : QuicBackend} (hlives : s.Lives a)
    (hstep : s.backend.step a = some backend) :
    Steps profile s (.backend a) { s with backend := backend }
  | handshakeFails {k : Nat} (hlives : s.aborted = false) (hloop : s.backend.loop = .selecting)
    (hphase : s.backend.accepts[k]? = some .accepting) :
    Steps profile s (.handshakeFails k) (s.panic k profile)

theorem steps_of_step {profile : Profile} {s t : Listener} {a : ListenerAction}
    (h : step profile s a = some t) : Steps profile s a t := by
  cases a with
  | backend a =>
    simp only [step] at h
    split at h
    · next hlives =>
      obtain ⟨backend, hstep, rfl⟩ := Option.map_eq_some_iff.mp h
      exact .backend hlives hstep
    · cases h
  | handshakeFails k =>
    simp only [step] at h
    split at h
    · next hcond =>
      cases h
      exact .handshakeFails hcond.1 (of_decide_eq_true hcond.2.2.1) hcond.2.2.2
    · cases h

theorem panic_backend (s : Listener) (k : Nat) (profile : Profile) :
    (s.panic k profile).backend = s.backend := by
  cases profile <;> rfl

/-- A run of a listener is a run of its backend. -/
theorem run_toBackend {profile : Profile} {actions : List ListenerAction} {s t : Listener}
    (h : Run.run (step profile) s actions = some t) :
    Run.run QuicBackend.step s.backend (actions.filterMap ListenerAction.toBackend) =
      some t.backend := by
  induction actions generalizing s with
  | nil =>
    cases h
    rfl
  | cons a actions ih =>
    obtain ⟨u, hu, hrest⟩ := Run.run_cons_eq_some _ h
    cases steps_of_step hu with
    | backend _ hstep => exact (Run.run_cons_of_step _ hstep _).trans (ih hrest)
    | @handshakeFails k =>
      rw [← panic_backend s k profile]
      exact ih hrest

/-- A run of the backend is one of the listener, while no panic has ended a party of it. -/
theorem run_backend (profile : Profile) {s : Listener} {backend : QuicBackend}
    {actions : List Action} (hlives : ∀ a ∈ actions, s.Lives a)
    (h : Run.run QuicBackend.step s.backend actions = some backend) :
    Run.run (step profile) s (actions.map .backend) = some { s with backend := backend } := by
  induction actions generalizing s with
  | nil =>
    cases h
    rfl
  | cons a actions ih =>
    obtain ⟨u, hu, hrest⟩ := Run.run_cons_eq_some _ h
    have hstep : step profile s (.backend a) = some { s with backend := u } := by
      simp only [step, if_pos (hlives a List.mem_cons_self), hu, Option.map_some]
    rw [List.map_cons, Run.run_cons_of_step _ hstep]
    exact ih (s := { s with backend := u })
      (fun b hb => hlives b (List.mem_cons_of_mem a hb)) hrest

end Listener

namespace QuicBackend

open Listener (Serving)

/-- The loop takes all the connections handed to it. -/
theorem registerAll (k : Nat) {s : QuicBackend} (hloop : s.loop = .selecting) :
    ∃ t, Run.ReachableBy step (Serving k) s t ∧ (∀ u ∈ s.connReg.pending, u ∈ t.connections) ∧
      (∀ u ∈ s.connections, u ∈ t.connections) ∧ t.peer = s.peer ∧ t.readers = s.readers := by
  generalize hpending : s.connReg.pending = pending
  induction pending generalizing s with
  | nil =>
    refine ⟨s, Run.reachableBy_refl step _ s, ?_, fun _ => id, rfl, rfl⟩
    exact fun u hu => absurd hu List.not_mem_nil
  | cons v rest ih =>
    have hrecv := Channel.recv_of_pending hpending
    have hstep : s.step .registerConnection = some
        { s with
          connections := v :: s.connections,
          connReg := { received := s.connReg.received ++ [v], pending := rest } } := by
      simp only [step, hloop, hrecv]
    obtain ⟨t, hreach, hrest, hconn, hpeer, hreaders⟩ :=
      ih (s := { s with
        connections := v :: s.connections,
        connReg := { received := s.connReg.received ++ [v], pending := rest } }) hloop rfl
    refine ⟨t, Run.reachableBy_trans step
      (Run.reachableBy_of_step step (Or.inl rfl) hstep) hreach, ?_, ?_, hpeer, hreaders⟩
    · intro u hu
      rcases List.mem_cons.mp hu with rfl | hu
      · exact hconn u List.mem_cons_self
      · exact hrest u hu
    · exact fun u hu => hconn u (List.mem_cons_of_mem v hu)

/-- An accept task that has announced a connection hands it over. -/
theorem settle {s : QuicBackend} (hloop : s.loop = .selecting) {k : Nat}
    (hk : k < s.accepts.length) :
    ∃ t, Run.ReachableBy step (Serving k) s t ∧ t.loop = .selecting ∧
      t.accepts[k]? = some .accepting ∧ ∀ u, s.Fresh u → t.Fresh u := by
  have hrunning : s.running = true := decide_eq_true hloop
  cases hphase : s.accepts[k] with
  | accepting =>
    have hk' : s.accepts[k]? = some .accepting := by rw [List.getElem?_eq_getElem hk, hphase]
    exact ⟨s, Run.reachableBy_refl step _ s, hloop, hk', fun _ => id⟩
  | announced v =>
    have hk' : s.accepts[k]? = some (.announced v) := by rw [List.getElem?_eq_getElem hk, hphase]
    have hstep : s.step (.handOver k) = some
        { s.spawnReader v with
          accepts := s.accepts.set k .accepting, connReg := s.connReg.send v } := by
      simp only [step, hrunning, hk']
    refine ⟨_, Run.reachableBy_of_step step (Or.inr rfl) hstep, hloop, ?_, fun u hfresh => ?_⟩
    · exact List.getElem?_set_self hk
    · refine ⟨hfresh.1, fun hu => hfresh.2 ?_⟩
      -- the connection goes from the task to the channel
      rcases List.mem_append.mp hu with hu | hu
      · obtain ⟨phase, hphase', hu⟩ := List.mem_flatMap.mp hu
        rcases List.mem_or_eq_of_mem_set hphase' with hmem | rfl
        · exact List.mem_append_left _ (List.mem_flatMap.mpr ⟨phase, hmem, hu⟩)
        · cases hu
      · rcases List.mem_append.mp hu with hu | hu
        · exact List.mem_append_right _ hu
        · refine List.mem_append_left _ (List.mem_flatMap.mpr ⟨_, List.getElem_mem hk, ?_⟩)
          rw [hphase]
          exact hu

/-- A waiting accept task announces a connection, hands it over and starts its readers. -/
theorem acceptNext {s : QuicBackend} (hloop : s.loop = .selecting) {k : Nat} {u : Uuid}
    (hphase : s.accepts[k]? = some .accepting) (hfresh : s.Fresh u) :
    ∃ t, Run.ReachableBy step (Serving k) s t ∧ t.loop = .selecting ∧
      .connected u ∈ t.peer.eventRx.log ∧ t.readers u ≠ none ∧ u ∈ t.connReg.pending := by
  have hrunning : s.running = true := decide_eq_true hloop
  have hk : k < s.accepts.length := (List.getElem?_eq_some_iff.mp hphase).1
  let s₁ : QuicBackend :=
    { s.emit [.connected u] with accepts := s.accepts.set k (.announced u) }
  have hannounce : s.step (.announce k u) = some s₁ := if_pos ⟨hrunning, hphase, hfresh⟩
  have hrunning₁ : s₁.running = true := hrunning
  have hphase₁ : s₁.accepts[k]? = some (.announced u) := List.getElem?_set_self hk
  have hhandOver : s₁.step (.handOver k) = some
      { s₁.spawnReader u with
        accepts := s₁.accepts.set k .accepting, connReg := s₁.connReg.send u } := by
    simp only [step, hrunning₁, hphase₁]
  refine ⟨_, Run.reachableBy_trans step (Run.reachableBy_of_step step (Or.inr rfl) hannounce)
    (Run.reachableBy_of_step step (Or.inr rfl) hhandOver), hloop, ?_, ?_, ?_⟩
  · show _ ∈ (s.peer.eventRx.sendAll [.connected u]).log
    simp
  · show Function.update s.readers u _ u ≠ none
    simp
  · exact List.mem_append_right _ List.mem_cons_self

/-- A running backend serves the next connection of each of its accept tasks. -/
theorem serves {s : QuicBackend} (hloop : s.loop = .selecting) {k : Nat}
    (hk : k < s.accepts.length) {u : Uuid} (hfresh : s.Fresh u) :
    ∃ t, Run.ReachableBy step (Serving k) s t ∧ .connected u ∈ t.peer.eventRx.log ∧
      u ∈ t.connections ∧ t.readers u ≠ none := by
  obtain ⟨s₁, hsettle, hloop₁, hphase, hkeep⟩ := settle hloop hk
  obtain ⟨s₂, hnext, hloop₂, hconnected, hreader, hpending⟩ :=
    acceptNext hloop₁ hphase (hkeep u hfresh)
  obtain ⟨t, hall, hregistered, -, hpeer, hreaders⟩ := registerAll k hloop₂
  refine ⟨t, Run.reachableBy_trans step hsettle (Run.reachableBy_trans step hnext hall), ?_, ?_, ?_⟩
  · rw [hpeer]
    exact hconnected
  · exact hregistered u hpending
  · rw [hreaders]
    exact hreader

/-- What a step does to the loop and to the accept tasks. -/
theorem accepts_of_step {s t : QuicBackend} {a : Action} (hstep : s.step a = some t) :
    s.accepts.length ≤ t.accepts.length ∧ (t.loop = .selecting → s.loop = .selecting) := by
  cases steps_of_step hstep with
  | command hloop _ hcommand =>
    refine ⟨?_, fun _ => hloop⟩
    cases hcommand with
    | bind => simp
    | send => cases CommandEnv.sendError _ <;> exact le_rfl
    | _ => exact le_rfl
  | registerStream hloop =>
    refine ⟨?_, fun _ => hloop⟩
    rw [accepts_processRegistration]
  | announce => exact ⟨by simp, id⟩
  | handOver => exact ⟨by simp, id⟩
  | _ => exact ⟨le_rfl, id⟩

end QuicBackend

namespace Listener

/-- Only tasks that exist have panicked. -/
def Spawned (s : Listener) : Prop := ∀ k ∈ s.panicked, k < s.backend.accepts.length

theorem spawned_step {profile : Profile} {s t : Listener} {a : ListenerAction} (h : s.Spawned)
    (hstep : step profile s a = some t) : t.Spawned := by
  intro k hk
  cases steps_of_step hstep with
  | backend _ hbackend => exact lt_of_lt_of_le (h k hk) (QuicBackend.accepts_of_step hbackend).1
  | handshakeFails _ _ hphase =>
    rw [panic_backend]
    cases profile with
    | dev =>
      rcases List.mem_cons.mp hk with rfl | hk
      · exact (List.getElem?_eq_some_iff.mp hphase).1
      · exact h k hk
    | release => exact h k hk

/-- A task that no panic has ended serves. -/
theorem serves_iff {profile : Profile} {s : Listener} (hloop : s.backend.loop = .selecting)
    {k : Nat} (hk : k < s.backend.accepts.length) :
    s.Serves profile k ↔ s.aborted = false ∧ k ∉ s.panicked := by
  refine ⟨fun h => ⟨h.1, h.2.1⟩, fun ⟨hlives, hpanicked⟩ => ⟨hlives, hpanicked, ?_⟩⟩
  intro u hfresh
  obtain ⟨backend, ⟨actions, hserving, hrun⟩, hserved⟩ := QuicBackend.serves hloop hk hfresh
  have hactions : ∀ a ∈ actions, s.Lives a := by
    intro a ha
    refine ⟨hlives, fun j hj htask => ?_⟩
    rcases hserving a ha with rfl | htask'
    · cases htask
    · rw [htask', Option.some.injEq] at htask
      exact hpanicked (htask ▸ hj)
  refine ⟨{ s with backend := backend }, ⟨actions.map .backend, ?_, ?_⟩, hserved⟩
  · intro a ha
    obtain ⟨b, hb, rfl⟩ := List.mem_map.mp ha
    exact ⟨b, rfl, hserving b hb⟩
  · exact run_backend profile hactions hrun

theorem survives_step_iff {profile : Profile} {s t : Listener} {a : ListenerAction} (h : s.Spawned)
    (hsurvives : s.Survives profile) (hstep : step profile s a = some t) :
    t.Survives profile ↔ ∀ k, a ≠ .handshakeFails k := by
  cases steps_of_step hstep with
  | @backend a backend hlives hbackend =>
    obtain ⟨hle, hback⟩ := QuicBackend.accepts_of_step hbackend
    refine iff_of_true (fun hloop k hk => (serves_iff hloop hk).mpr ⟨hlives.1, fun hmem => ?_⟩)
      (by simp)
    -- a task that has panicked was there before the step
    exact ((serves_iff (hback hloop) (h k hmem)).mp (hsurvives (hback hloop) k (h k hmem))).2 hmem
  | @handshakeFails k hlives hloop hphase =>
    refine iff_of_false (fun hafter => ?_) (by simp)
    have hk : k < s.backend.accepts.length := (List.getElem?_eq_some_iff.mp hphase).1
    rw [← panic_backend s k profile] at hloop hk
    have hserves := hafter hloop k hk
    cases profile with
    | dev => exact hserves.2.1 List.mem_cons_self
    | release => cases hserves.1

/-- In every state of a run each accept task serves exactly when no handshake of the run
fails. -/
theorem survives_iff (profile : Profile) (actions : List ListenerAction) (s : Listener)
    (hrun : Run.run (step profile) init actions = some s) :
    Run.Throughout (step profile) (Survives profile) init actions ↔
      ∀ k, .handshakeFails k ∉ actions := by
  have hspawned : init.Spawned := fun k hk => absurd hk List.not_mem_nil
  have hsurvives : init.Survives profile := fun _ k hk => absurd hk (Nat.not_lt_zero k)
  have hgood : ∀ (s : Listener) a t, s.Spawned → s.Survives profile →
      step profile s a = some t → (t.Survives profile ↔ ∀ k, a ≠ .handshakeFails k) :=
    fun _ _ _ => survives_step_iff
  rw [Run.throughout_iff_along (fun _ _ _ => spawned_step) hgood actions hspawned hsurvives hrun,
    Run.along_iff_forall_mem _ hrun]
  constructor
  · exact fun h k hk => h _ hk k rfl
  · exact fun h a ha k heq => h k (heq ▸ ha)

/-- One client connects. -/
def oneClient : List ListenerAction :=
  [.backend (.issue (.bind "127.0.0.1" 8080)), .backend (.command .allOk),
    .backend (.announce 0 Uuid.nil), .backend (.handOver 0)]

theorem survives_iff_oneClient :
    ∃ s, Run.run (step .release) init oneClient = some s ∧
      Run.Throughout (step .release) (Survives .release) init oneClient :=
  ⟨_, rfl, (survives_iff .release oneClient _ rfl).mpr (by simp [oneClient])⟩

/-- A client fails its handshake. -/
def badClient : List ListenerAction :=
  [.backend (.issue (.bind "127.0.0.1" 8080)), .backend (.command .allOk), .handshakeFails 0]

/-- After a failed handshake the loop runs on and the next connection is not accepted, in
either profile. -/
theorem handshake_failure_ends_accepting :
    (∃ s, Run.run (step .dev) init badClient = some s ∧ s.backend.loop = .selecting ∧
      s.backend.accepts = [.accepting] ∧ s.backend.Fresh Uuid.nil ∧
      step .dev s (.backend (.announce 0 Uuid.nil)) = none ∧ ¬ s.Survives .dev) ∧
    ∃ s, Run.run (step .release) init badClient = some s ∧ s.backend.loop = .selecting ∧
      s.backend.accepts = [.accepting] ∧ s.backend.Fresh Uuid.nil ∧
      step .release s (.backend (.announce 0 Uuid.nil)) = none ∧ ¬ s.Survives .release := by
  refine ⟨⟨_, rfl, rfl, rfl, by decide, rfl, fun h => ?_⟩,
    _, rfl, rfl, rfl, by decide, rfl, fun h => ?_⟩
  · exact (h rfl 0 (by decide)).2.1 (by decide)
  · cases (h rfl 0 (by decide)).1

end Listener

end Quic
end GameSockets
