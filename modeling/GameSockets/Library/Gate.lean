/-
A gate that opens once and closes once.

Elements come to the gate in a row, and those pass that come while it is open.  So what has
passed is a stretch of what has come: none of the elements between two that have passed is
missing.  As long as the gate is open, the stretch goes up to the last element that has come.
-/
import Mathlib.Data.List.Infix

namespace Library

inductive Gate where
  | shut
  | opened
  | closed
deriving DecidableEq

namespace Gate

/-- What the gate may do at once. -/
inductive Moves : Gate → Gate → Prop where
  | stays (g : Gate) : Moves g g
  | opens : Moves .shut .opened
  | closes : Moves .opened .closed

section Passed

variable {α : Type} {g g' : Gate} {came out : List α}

/-- `out` has passed the gate, of `came`. -/
def Passed : Gate → List α → List α → Prop
  | .shut, _, out => out = []
  | .opened, came, out => out <:+ came
  | .closed, came, out => out <:+: came

theorem Passed.isInfix (h : Passed g came out) : out <:+: came := by
  cases g with
  | shut =>
    rw [show out = [] from h]
    exact List.nil_infix
  | opened => exact List.IsSuffix.isInfix h
  | closed => exact h

/-- What passes of the elements that come at once. -/
def admitted (g : Gate) (new : List α) : List α := if g = .opened then new else []

theorem admitted_opened (new : List α) : admitted .opened new = new := if_pos rfl

theorem admitted_of_ne (h : g ≠ .opened) (new : List α) : g.admitted new = [] := if_neg h

theorem admitted_nil (g : Gate) : g.admitted ([] : List α) = [] := ite_self _

theorem filter_admitted (g : Gate) (p : α → Bool) (new : List α) :
    (g.admitted new).filter p = g.admitted (new.filter p) := by
  unfold admitted
  split
  · rfl
  · exact List.filter_nil

theorem map_admitted {β : Type} (g : Gate) (f : α → β) (new : List α) :
    (g.admitted new).map f = g.admitted (new.map f) := by
  unfold admitted
  split
  · rfl
  · exact List.map_nil

theorem admitted_subset (g : Gate) (new : List α) : g.admitted new ⊆ new := by
  unfold admitted
  split
  · exact List.Subset.refl _
  · exact List.nil_subset _

/-- More elements come, and the gate moves. -/
theorem Passed.step (h : Passed g came out) (hmoves : Moves g g') (new : List α) :
    Passed g' (came ++ new) (out ++ g.admitted new) := by
  have stays : Passed g (came ++ new) (out ++ g.admitted new) := by
    cases g with
    | shut =>
      rw [admitted_of_ne (by decide), List.append_nil]
      exact h
    | opened =>
      rw [admitted_opened]
      exact List.suffix_append_self_iff.mpr h
    | closed =>
      rw [admitted_of_ne (by decide), List.append_nil]
      exact List.infix_append_of_infix_left h
  cases hmoves with
  | stays => exact stays
  | opens =>
    rw [show out ++ Gate.shut.admitted new = [] from stays]
    exact List.nil_suffix
  | closes => exact stays.isInfix

/-- The gate moves. -/
theorem Passed.move (h : Passed g came out) (hmoves : Moves g g') : Passed g' came out := by
  have hstep := h.step hmoves []
  rwa [admitted_nil, List.append_nil, List.append_nil] at hstep

end Passed

end Gate
end Library
