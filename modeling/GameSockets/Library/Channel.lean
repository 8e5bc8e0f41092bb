/-
An unbounded or bounded first-in first-out channel.

The channel keeps what its receiver has already taken, so that "has been
received" and "was ever sent" are facts about the state and not about the run
that led to it.
-/
import Mathlib.Data.List.Basic

namespace Library

/-- A queue of `α` and everything the receiver has taken from it. -/
structure Channel (α : Type) where
  received : List α
  pending : List α
deriving DecidableEq, Repr

namespace Channel

variable {α : Type}

def empty : Channel α := { received := [], pending := [] }

/-- Everything ever sent, in order. -/
def log (c : Channel α) : List α := c.received ++ c.pending

def send (c : Channel α) (x : α) : Channel α := { c with pending := c.pending ++ [x] }

def sendAll (c : Channel α) (xs : List α) : Channel α := { c with pending := c.pending ++ xs }

/-- Take the oldest queued element. -/
def recv (c : Channel α) : Option (α × Channel α) :=
  match c.pending with
  | [] => none
  | x :: rest => some (x, { received := c.received ++ [x], pending := rest })

@[simp] theorem pending_send (c : Channel α) (x : α) :
    (c.send x).pending = c.pending ++ [x] := rfl

@[simp] theorem log_empty : (empty : Channel α).log = [] := rfl

@[simp] theorem log_send (c : Channel α) (x : α) : (c.send x).log = c.log ++ [x] := by
  simp [log, send]

@[simp] theorem log_sendAll (c : Channel α) (xs : List α) :
    (c.sendAll xs).log = c.log ++ xs := by
  simp [log, sendAll]

theorem recv_eq_some {c c' : Channel α} {x : α} (h : c.recv = some (x, c')) :
    c.pending = x :: c'.pending ∧ c'.received = c.received ++ [x] := by
  unfold recv at h
  split at h
  · cases h
  · cases h
    exact ⟨by assumption, rfl⟩

theorem pending_ne_nil_of_recv {c c' : Channel α} {x : α} (h : c.recv = some (x, c')) :
    c.pending ≠ [] := by
  rw [(recv_eq_some h).1]
  exact List.cons_ne_nil _ _

theorem recv_of_pending {c : Channel α} {x : α} {rest : List α} (h : c.pending = x :: rest) :
    c.recv = some (x, { received := c.received ++ [x], pending := rest }) := by
  simp [recv, h]

/-- An empty queue: everything sent has been received. -/
theorem log_of_recv_eq_none {c : Channel α} (h : c.recv = none) : c.log = c.received := by
  unfold recv at h
  split at h
  · next hp => rw [log, hp, List.append_nil]
  · cases h

/-- Receiving moves an element and loses none. -/
theorem log_recv {c c' : Channel α} {x : α} (h : c.recv = some (x, c')) : c'.log = c.log := by
  obtain ⟨hp, hr⟩ := recv_eq_some h
  rw [log, log, hp, hr, List.append_assoc, List.singleton_append]

theorem mem_log_of_recv {c c' : Channel α} {x : α} (h : c.recv = some (x, c')) : x ∈ c.log := by
  rw [log, (recv_eq_some h).1]
  exact List.mem_append_right _ List.mem_cons_self

theorem mem_log_of_received {c : Channel α} {x : α} (h : x ∈ c.received) : x ∈ c.log :=
  List.mem_append_left _ h

theorem mem_log_of_pending {c : Channel α} {x : α} (h : x ∈ c.pending) : x ∈ c.log :=
  List.mem_append_right _ h

end Channel
end Library
