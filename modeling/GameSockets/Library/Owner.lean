/-
Loops that serve an owner, and what becomes of them when the owner is dropped.

The owner holds the sending end of the loop's commands.  Once it is gone their receiver is
done as soon as it is empty, and it is up to the loop what follows: a `select!` that asks for
`Some` goes on with its other branches, and panics when none of them is left.
-/
import GameSockets.Library.Channel
import GameSockets.Library.Run

namespace Library
namespace Owner

/-! ## `select!` -/

/-- What polling a branch of a `select!` comes to. -/
inductive Branch where
  | ready
  | pending
  /-- the future is done and the pattern does not match -/
  | disabled
deriving DecidableEq

/-- What a loop does when it comes round. -/
inductive Turn where
  | runs
  | waits
  | panics
deriving DecidableEq

/-- `Some(x) = rx.recv()`.  `senders` says whether a sender of the channel is left. -/
def recvBranch {α : Type} (c : Channel α) (senders : Bool) : Branch :=
  match c.pending, senders with
  | _ :: _, _ => .ready
  | [], true => .pending
  | [], false => .disabled

/-- `select!` without an `else`. -/
def select (branches : List Branch) : Turn :=
  if Branch.ready ∈ branches then .runs
  else if Branch.pending ∈ branches then .waits
  else .panics

theorem recvBranch_ne_disabled {α : Type} (c : Channel α) : recvBranch c true ≠ .disabled := by
  unfold recvBranch
  split <;> simp_all

/-- A branch that is never disabled keeps a `select!` from its panic. -/
theorem select_ne_panics {branches : List Branch} {b : Branch} (hmem : b ∈ branches)
    (hb : b ≠ .disabled) : select branches ≠ .panics := by
  cases b with
  | ready => simp [select, hmem]
  | pending => simp only [select, hmem, if_true]; split <;> simp
  | disabled => exact absurd rfl hb

/-! ## A loop and its owner -/

section Owner

variable {σ α : Type}

structure Machine (σ α : Type) where
  step : σ → α → Option σ
  init : σ
  /-- an action of the owner -/
  owner : α → Bool
  /-- an action that some event from outside brings about -/
  outside : α → Bool
  /-- the loop has taken all commands -/
  drained : σ → Bool
  /-- the loop has come to its end -/
  ended : σ → Bool
  /-- what the loop does next, by whether the owner is there -/
  turn : σ → Bool → Turn

structure State (σ : Type) where
  machine : σ
  dropped : Bool

inductive Act (α : Type) where
  | drop
  | act (a : α)

namespace Machine

variable (m : Machine σ α)

def start : State σ := { machine := m.init, dropped := false }

/-- A dropped owner does nothing more. -/
def next (s : State σ) : Act α → Option (State σ)
  | .drop => if s.dropped then none else some { s with dropped := true }
  | .act a =>
    if s.dropped && m.owner a then none
    else (m.step s.machine a).map fun t => { s with machine := t }

/-- The steps that take no event from outside. -/
def alone (s : State σ) : Act α → Option (State σ)
  | .drop => none
  | .act a => if m.outside a then none else m.next s (.act a)

/-- The loop has ended, or is about to panic for want of a branch. -/
def Exited (s : State σ) : Prop :=
  m.ended s.machine = true ∨ m.turn s.machine (!s.dropped) = .panics

/-- Left alone, the machine comes to the end of its loop. -/
def ReachesExit (s : State σ) : Prop := Run.Inevitable m.alone m.Exited s

/-- What the loop takes at a step. -/
def taking {κ : Type} (taken : σ → α → Option κ) (s : State σ) : Act α → Option κ
  | .drop => none
  | .act a => taken s.machine a

/-- What the loop takes along a run. -/
def processed {κ : Type} (taken : σ → α → Option κ) (as : List (Act α)) : List κ :=
  Run.trace m.next (taking taken) m.start as

theorem next_eq_some {m : Machine σ α} {s t : State σ} {a : α} (h : m.next s (.act a) = some t) :
    (s.dropped = true → m.owner a = false) ∧ t.dropped = s.dropped ∧
      m.step s.machine a = some t.machine := by
  simp only [next] at h
  split at h
  · cases h
  · next hcond =>
    obtain ⟨u, hu, rfl⟩ := Option.map_eq_some_iff.mp h
    exact ⟨fun hdropped => by simpa [hdropped] using hcond, rfl, hu⟩

theorem next_of_alone {m : Machine σ α} {s t : State σ} {a : Act α} (h : m.alone s a = some t) :
    m.next s a = some t := by
  cases a with
  | drop => cases h
  | act a =>
    simp only [alone] at h
    split at h
    · cases h
    · exact h

/-- The loop ends only by a fatal command, whether its owner is there or not. -/
structure EndedBy {κ : Type} (m : Machine σ α) (taken : σ → α → Option κ) (fatal : κ → Prop) :
    Prop where
  init : m.ended m.init = false
  step : ∀ s a t, m.step s a = some t →
    (m.ended t = true ↔ m.ended s = true ∨ ∃ x, taken s a = some x ∧ fatal x)
  drained : ∀ s a t, m.owner a = false → m.drained s = true → m.step s a = some t →
    m.drained t = true ∧ taken s a = none
  turn : ∀ s present, m.ended s = false → m.turn s present ≠ .panics

variable {κ : Type} {m : Machine σ α} {taken : σ → α → Option κ} {fatal : κ → Prop}

theorem EndedBy.exited_iff (h : m.EndedBy taken fatal) (s : State σ) :
    m.Exited s ↔ m.ended s.machine = true := by
  constructor
  · rintro (hended | hpanics)
    · exact hended
    · by_contra hrunning
      exact h.turn _ _ (Bool.eq_false_iff.mpr hrunning) hpanics
  · exact Or.inl

/-- What a step makes of the commands that wait and of the loop. -/
inductive Serves {γ : Type} (m : Machine σ α) (queue : σ → Channel γ) (taken : σ → α → Option κ)
    (fatal : κ → Prop) (s : σ) (a : α) (t : σ) : Prop where
  | owner (howner : m.owner a = true) (hnone : taken s a = none) (hended : m.ended t = m.ended s)
  | command {x : κ} (htaken : taken s a = some x) (hwaiting : (queue s).pending ≠ [])
    (hended : m.ended t = true ↔ m.ended s = true ∨ fatal x)
  | other (hnone : taken s a = none) (hqueue : queue t = queue s) (hended : m.ended t = m.ended s)

theorem endedBy_of_serves {γ : Type} {queue : σ → Channel γ} (hinit : m.ended m.init = false)
    (hdrained : ∀ s, m.drained s = (queue s).pending.isEmpty)
    (hserves : ∀ s a t, m.step s a = some t → Serves m queue taken fatal s a t)
    (hturn : ∀ s present, m.ended s = false → m.turn s present ≠ .panics) :
    m.EndedBy taken fatal where
  init := hinit
  step s a t hstep := by
    cases hserves s a t hstep with
    | owner _ hnone hended => simp [hnone, hended]
    | command htaken _ hended => simp [htaken, hended]
    | other hnone _ hended => simp [hnone, hended]
  drained s a t howner hs hstep := by
    simp only [hdrained, List.isEmpty_iff] at hs ⊢
    cases hserves s a t hstep with
    | owner howns =>
      rw [howner] at howns
      cases howns
    | command _ hwaiting => exact absurd hs hwaiting
    | other hnone hqueue => exact ⟨by rw [hqueue, hs], hnone⟩
  turn := hturn

/-- A loop without owner and without commands. -/
structure Orphaned (m : Machine σ α) (s : State σ) : Prop where
  dropped : s.dropped = true
  drained : m.drained s.machine = true
  running : m.ended s.machine = false

theorem EndedBy.orphaned_next (h : m.EndedBy taken fatal) {s t : State σ} {a : Act α}
    (hs : Orphaned m s) (hstep : m.next s a = some t) : Orphaned m t := by
  cases a with
  | drop =>
    simp only [next, hs.dropped, if_true] at hstep
    cases hstep
  | act a =>
    obtain ⟨howner, hdropped, hmachine⟩ := next_eq_some hstep
    obtain ⟨hdrained, hnone⟩ := h.drained _ _ _ (howner hs.dropped) hs.drained hmachine
    refine ⟨hdropped.trans hs.dropped, hdrained, ?_⟩
    rw [← Bool.not_eq_true, h.step _ _ _ hmachine, hs.running, hnone]
    simp

/-- It goes on for ever, whatever comes from outside. -/
theorem EndedBy.never_exits (h : m.EndedBy taken fatal) {as : List (Act α)} {s t : State σ}
    (hs : Orphaned m s) (hrun : Run.run m.next s as = some t) : ¬ m.Exited t := by
  have ht : Orphaned m t := Run.invariant_of_run (fun _ _ _ => h.orphaned_next) hs hrun
  rw [h.exited_iff, ht.running]
  exact Bool.false_ne_true

theorem EndedBy.reachesExit_iff (h : m.EndedBy taken fatal) {s : State σ}
    (hdropped : s.dropped = true) (hdrained : m.drained s.machine = true) :
    m.ReachesExit s ↔ m.ended s.machine = true := by
  constructor
  · intro hexit
    by_contra hrunning
    have hs : Orphaned m s := ⟨hdropped, hdrained, Bool.eq_false_iff.mpr hrunning⟩
    have keep : ∀ s a t, Orphaned m s → m.alone s a = some t → Orphaned m t :=
      fun _ _ _ hs hstep => h.orphaned_next hs (next_of_alone hstep)
    have not_exited : ∀ s, Orphaned m s → ¬ m.Exited s :=
      fun s hs => h.never_exits hs (Run.run_nil m.next s)
    exact Run.not_inevitable_of_invariant keep not_exited hs hexit
  · exact fun hended => .now (Or.inl hended)

theorem EndedBy.ended_iff (h : m.EndedBy taken fatal) {as : List (Act α)} {s : State σ}
    (hrun : Run.run m.next m.start as = some s) :
    m.ended s.machine = true ↔ ∃ x ∈ m.processed taken as, fatal x := by
  have hinit : m.ended m.start.machine = true ↔ ∃ x ∈ ([] : List κ), fatal x := by
    rw [start, h.init]
    simp
  have keep : ∀ seen (s : State σ) a t, (m.ended s.machine = true ↔ ∃ x ∈ seen, fatal x) →
      m.next s a = some t →
        (m.ended t.machine = true ↔ ∃ x ∈ seen ++ (taking taken s a).toList, fatal x) := by
    intro seen s a t hs hstep
    cases a with
    | drop =>
      simp only [next] at hstep
      split at hstep
      · cases hstep
      · cases hstep
        rw [taking, Option.toList_none, List.append_nil]
        exact hs
    | act a =>
      obtain ⟨-, -, hmachine⟩ := next_eq_some hstep
      rw [h.step _ _ _ hmachine, hs, taking]
      simp only [List.mem_append, Option.mem_toList, or_and_right, exists_or]
  exact Run.invariant_of_trace keep as hinit hrun

/-- The actions lead to a state that the owner has left, all its commands taken. -/
structure Abandoned (m : Machine σ α) (as : List (Act α)) (s : State σ) : Prop where
  reached : Run.run m.next m.start as = some s
  dropped : s.dropped = true
  drained : m.drained s.machine = true

/-- A dropped owner leaves a loop that comes to its end exactly when one of the commands that
it has taken ended it. -/
theorem EndedBy.exits_iff (h : m.EndedBy taken fatal) {as : List (Act α)} {s : State σ}
    (hs : m.Abandoned as s) : m.ReachesExit s ↔ ∃ x ∈ m.processed taken as, fatal x :=
  (h.reachesExit_iff hs.dropped hs.drained).trans (h.ended_iff hs.reached)

end Machine

end Owner

end Owner
end Library
