/-
Texts with a separator in them.

Where a text is cut at the first occurrence of a separator, the part in front has no
occurrence, and it is the only such part when occurrences cannot overlap.
-/
import Mathlib.Data.List.Basic

namespace Library
namespace Separator

section Separator

variable {α : Type} [DecidableEq α]

/-- The part of the text before the first occurrence of the separator. -/
def before (sep : List α) : List α → List α
  | [] => []
  | c :: s => if sep <+: c :: s then [] else c :: before sep s

theorem before_isPrefix (sep s : List α) : before sep s <+: s := by
  induction s with
  | nil => exact List.nil_prefix
  | cons c s ih =>
    rw [before]
    split
    · exact List.nil_prefix
    · exact (List.prefix_cons_inj c).mpr ih

theorem before_eq_self {sep s : List α} (h : ¬ sep <:+: s) : before sep s = s := by
  induction s with
  | nil => rfl
  | cons c s ih =>
    rw [List.infix_cons_iff, not_or] at h
    rw [before, if_neg h.1, ih h.2]

theorem not_infix_before {sep : List α} (hsep : sep ≠ []) (s : List α) :
    ¬ sep <:+: before sep s := by
  induction s with
  | nil => simpa [before] using hsep
  | cons c s ih =>
    rw [before]
    split
    · simpa using hsep
    · next hhead =>
      rw [List.infix_cons_iff]
      rintro (hpre | hinfix)
      · exact hhead (hpre.trans ((List.prefix_cons_inj c).mpr (before_isPrefix sep s)))
      · exact ih hinfix

theorem before_append_isPrefix {sep s : List α} (h : sep <:+: s) (hsep : sep ≠ []) :
    before sep s ++ sep <+: s := by
  induction s with
  | nil => exact absurd (List.infix_nil.mp h) hsep
  | cons c s ih =>
    rw [before]
    split
    · next hhead => exact hhead
    · next hhead =>
      rw [List.infix_cons_iff, or_iff_right hhead] at h
      exact (List.prefix_cons_inj c).mpr (ih h)

/-- No end of the separator is also a beginning of it, itself apart. -/
def Unbordered (sep : List α) : Prop :=
  ∀ t, t <:+ sep → t <+: sep → t = [] ∨ t = sep

/-- An occurrence of an unbordered separator is not overlapped by an earlier one. -/
theorem before_eq {sep : List α} (hsep : Unbordered sep) {p s : List α} (h : p ++ sep <+: s)
    (hp : ¬ sep <:+: p) : before sep s = p := by
  induction p generalizing s with
  | nil =>
    cases s with
    | nil => rfl
    | cons c s => exact if_pos h
  | cons c p ih =>
    obtain ⟨rest, rfl⟩ := h
    have hhead : ¬ sep <+: c :: (p ++ sep ++ rest) := by
      intro hpre
      have hp' : c :: p <+: c :: (p ++ sep ++ rest) := ⟨sep ++ rest, by simp⟩
      rcases List.prefix_or_prefix_of_prefix hpre hp' with hin | ⟨t, ht⟩
      · exact hp hin.isInfix
      · -- the separator ends inside its later occurrence, and that end begins it
        obtain ⟨rest', hrest'⟩ := hpre
        have htail : t ++ rest' = sep ++ rest := by
          refine @List.append_cancel_left _ (c :: p) _ _ ?_
          rw [← List.append_assoc, ht, hrest']
          simp
        have hlt : t.length < sep.length := by
          have hlength := congrArg List.length ht
          rw [List.length_append, List.length_cons] at hlength
          omega
        have hborder : t <+: sep :=
          List.prefix_of_prefix_length_le ⟨rest', htail⟩ ⟨rest, rfl⟩ (Nat.le_of_lt hlt)
        rcases hsep t ⟨c :: p, ht⟩ hborder with hnil | hself
        · rw [hnil, List.append_nil] at ht
          exact hp (ht ▸ List.infix_rfl)
        · exact absurd (congrArg List.length hself) (Nat.ne_of_lt hlt)
    rw [List.infix_cons_iff, not_or] at hp
    change before sep (c :: (p ++ sep ++ rest)) = c :: p
    rw [before, if_neg hhead, ih ⟨rest, rfl⟩ hp.2]

omit [DecidableEq α] in
/-- Two texts joined by a separator are told apart by the join, unless the separator has a
second occurrence in it. -/
theorem join_eq_join_iff {x : α} {a b a' b' : List α} :
    a ++ x :: b = a' ++ x :: b' ↔
      (a = a' ∧ b = b') ∨ (∃ t, a' = a ++ x :: t ∧ b = t ++ x :: b') ∨
        ∃ t, a = a' ++ x :: t ∧ b' = t ++ x :: b := by
  rw [List.append_eq_append_iff]
  constructor
  · rintro (⟨t, rfl, ht⟩ | ⟨t, rfl, ht⟩)
    · cases t with
      | nil => exact Or.inl ⟨(List.append_nil a).symm, (List.cons.inj ht).2⟩
      | cons y t =>
        obtain ⟨rfl, rfl⟩ := List.cons.inj ht
        exact Or.inr (Or.inl ⟨t, rfl, rfl⟩)
    · cases t with
      | nil => exact Or.inl ⟨List.append_nil a', (List.cons.inj ht).2.symm⟩
      | cons y t =>
        obtain ⟨rfl, rfl⟩ := List.cons.inj ht
        exact Or.inr (Or.inr ⟨t, rfl, rfl⟩)
  · rintro (⟨rfl, rfl⟩ | ⟨t, rfl, rfl⟩ | ⟨t, rfl, rfl⟩)
    · exact Or.inl ⟨[], by simp⟩
    · exact Or.inl ⟨x :: t, rfl, rfl⟩
    · exact Or.inr ⟨x :: t, rfl, rfl⟩

end Separator

end Separator
end Library
