/-
Two tables that are each other's inverse.
-/
import Mathlib.Logic.Function.Basic

namespace Library
namespace Registry

section Registry

variable {α β : Type} [DecidableEq α] [DecidableEq β] {f : α → Option β} {g : β → Option α}

/-- `f` and `g` hold the same pairs. -/
def Inverse (f : α → Option β) (g : β → Option α) : Prop := ∀ a b, f a = some b ↔ g b = some a

omit [DecidableEq α] [DecidableEq β] in
theorem inverse_empty : Inverse (fun _ : α => none) (fun _ : β => none) :=
  fun _ _ => by simp

/-- A pair goes in when neither side is taken. -/
theorem inverse_insert (h : Inverse f g) {a : α} {b : β} (ha : f a = none) (hb : g b = none) :
    Inverse (Function.update f a (some b)) (Function.update g b (some a)) := by
  intro a' b'
  by_cases hea : a' = a
  · by_cases heb : b' = b
    · subst hea heb
      rw [Function.update_self, Function.update_self]
      simp
    · subst hea
      rw [Function.update_self, Function.update_of_ne heb, ← h, ha]
      simp [Ne.symm heb]
  · by_cases heb : b' = b
    · subst heb
      rw [Function.update_self, Function.update_of_ne hea, h, hb]
      simp [Ne.symm hea]
    · rw [Function.update_of_ne hea, Function.update_of_ne heb]
      exact h a' b'

/-- A pair goes out of both tables. -/
theorem inverse_erase (h : Inverse f g) {a : α} {b : β} (hab : f a = some b) :
    Inverse (Function.update f a none) (Function.update g b none) := by
  intro a' b'
  by_cases hea : a' = a
  · by_cases heb : b' = b
    · subst hea heb
      rw [Function.update_self, Function.update_self]
      simp
    · subst hea
      rw [Function.update_self, Function.update_of_ne heb, ← h, hab]
      simp [Ne.symm heb]
  · by_cases heb : b' = b
    · subst heb
      rw [Function.update_self, Function.update_of_ne hea, h, (h a b').mp hab]
      simp [Ne.symm hea]
    · rw [Function.update_of_ne hea, Function.update_of_ne heb]
      exact h a' b'

end Registry

end Registry
end Library
