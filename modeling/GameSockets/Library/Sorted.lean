/-
Sorting forgets the order of a list: its ends are the extremes, and an element's place says
how many are below it.
-/
import Mathlib.Data.List.Nodup
import Mathlib.Order.Bounds.Basic

namespace Library
namespace Sorted

section Sorted

variable {α : Type} [LE α] [Std.IsLinearOrder α]

theorem min?_congr [Min α] [Std.LawfulOrderMin α] {l l' : List α} (h : l.Perm l') :
    l.min? = l'.min? := by
  ext a
  rw [List.min?_eq_some_iff, List.min?_eq_some_iff, h.mem_iff]
  simp only [h.mem_iff]

theorem max?_congr [Max α] [Std.LawfulOrderMax α] {l l' : List α} (h : l.Perm l') :
    l.max? = l'.max? := by
  ext a
  rw [List.max?_eq_some_iff, List.max?_eq_some_iff, h.mem_iff]
  simp only [h.mem_iff]

theorem isLeast_min? [Min α] [Std.LawfulOrderMin α] {l : List α} (h : l ≠ []) (d : α) :
    IsLeast {x | x ∈ l} (l.min?.getD d) := by
  cases hmin : l.min? with
  | none => exact absurd (List.min?_eq_none_iff.mp hmin) h
  | some a => exact List.min?_eq_some_iff.mp hmin

theorem isGreatest_max? [Max α] [Std.LawfulOrderMax α] {l : List α} (h : l ≠ []) (d : α) :
    IsGreatest {x | x ∈ l} (l.max?.getD d) := by
  cases hmax : l.max? with
  | none => exact absurd (List.max?_eq_none_iff.mp hmax) h
  | some a => exact List.max?_eq_some_iff.mp hmax

theorem getElem_le_getElem {s : List α} (hs : s.Pairwise (· ≤ ·)) {i j : Nat} (hij : i ≤ j)
    (hj : j < s.length) : s[i] ≤ s[j] := by
  rcases hij.lt_or_eq with hlt | rfl
  · exact List.pairwise_iff_getElem.mp hs i j (by omega) hj hlt
  · exact Std.le_refl _

variable [DecidableLE α]

theorem pairwise_mergeSort (l : List α) : l.mergeSort.Pairwise (· ≤ ·) := by
  have htrans : ∀ a b c : α, decide (a ≤ b) = true → decide (b ≤ c) = true →
      decide (a ≤ c) = true := by
    intro a b c hab hbc
    rw [decide_eq_true_eq] at hab hbc ⊢
    exact Std.le_trans hab hbc
  have htotal : ∀ a b : α, (decide (a ≤ b) || decide (b ≤ a)) = true := by
    intro a b
    rw [Bool.or_eq_true, decide_eq_true_eq, decide_eq_true_eq]
    exact Std.le_total
  exact (List.pairwise_mergeSort htrans htotal l).imp fun h => of_decide_eq_true h

omit [Std.IsLinearOrder α] in
theorem mergeSort_ne_nil {l : List α} (h : l ≠ []) : l.mergeSort ≠ [] :=
  fun hsort => h (hsort ▸ List.mergeSort_perm l _).symm.eq_nil

/-- A list in order is the sort of each of its permutations. -/
theorem eq_mergeSort {l l' : List α} (h : l.Perm l') (hsorted : l.Pairwise (· ≤ ·)) :
    l = l'.mergeSort :=
  (h.trans (List.mergeSort_perm l' _).symm).eq_of_pairwise (fun _ _ _ _ => Std.le_antisymm)
    hsorted (pairwise_mergeSort l')

theorem mergeSort_congr {l l' : List α} (h : l.Perm l') : l.mergeSort = l'.mergeSort :=
  eq_mergeSort ((List.mergeSort_perm l _).trans h) (pairwise_mergeSort l)

/-- Items with keys of their own are sorted by their keys in one way, before or after some of them
are left out. -/
theorem filter_mergeSort {β : Type} (key : β → α) (p : β → Bool) {l : List β}
    (hnodup : (l.map key).Nodup) :
    (l.mergeSort fun a b => key a ≤ key b).filter p =
      (l.filter p).mergeSort fun a b => key a ≤ key b := by
  have hsorted : ∀ l : List β, (l.mergeSort fun a b => key a ≤ key b).Pairwise
      fun a b => key a ≤ key b := by
    intro l
    have htrans : ∀ a b c : β, decide (key a ≤ key b) = true → decide (key b ≤ key c) = true →
        decide (key a ≤ key c) = true := by
      intro a b c hab hbc
      exact decide_eq_true (Std.le_trans (of_decide_eq_true hab) (of_decide_eq_true hbc))
    have htotal : ∀ a b : β, (decide (key a ≤ key b) || decide (key b ≤ key a)) = true := by
      intro a b
      simpa using Std.le_total
    exact (List.pairwise_mergeSort htrans htotal l).imp of_decide_eq_true
  have hperm : ((l.mergeSort fun a b => key a ≤ key b).filter p).Perm
      ((l.filter p).mergeSort fun a b => key a ≤ key b) :=
    ((List.mergeSort_perm l _).filter p).trans (List.mergeSort_perm _ _).symm
  have hmem : ∀ a ∈ (l.filter p).mergeSort fun a b => key a ≤ key b, a ∈ l := fun a ha =>
    (List.mem_filter.mp (List.mem_mergeSort.mp ha)).1
  refine hperm.eq_of_pairwise (fun a b ha hb hab hba => ?_) ((hsorted l).filter p) (hsorted _)
  exact List.inj_on_of_nodup_map hnodup (hmem a (hperm.mem_iff.mp ha)) (hmem b hb)
    (Std.le_antisymm hab hba)

theorem head?_mergeSort [Min α] [Std.LawfulOrderMin α] (l : List α) :
    l.mergeSort.head? = l.min? := by
  rw [← min?_congr (List.mergeSort_perm l _)]
  have hsorted := pairwise_mergeSort l
  cases hsort : l.mergeSort with
  | nil => rfl
  | cons a rest =>
    rw [hsort, List.pairwise_cons] at hsorted
    refine (List.min?_eq_some_iff.mpr ⟨List.mem_cons_self, ?_⟩).symm
    intro b hb
    rcases List.mem_cons.mp hb with rfl | hb
    · exact Std.le_refl b
    · exact hsorted.1 b hb

theorem getLast?_mergeSort [Max α] [Std.LawfulOrderMax α] (l : List α) :
    l.mergeSort.getLast? = l.max? := by
  rw [← max?_congr (List.mergeSort_perm l _)]
  have hsorted := pairwise_mergeSort l
  cases hlast : l.mergeSort.getLast? with
  | none => rw [List.getLast?_eq_none_iff.mp hlast, List.max?_nil]
  | some a =>
    obtain ⟨init, hinit⟩ := List.getLast?_eq_some_iff.mp hlast
    rw [hinit] at hsorted ⊢
    refine (List.max?_eq_some_iff.mpr ⟨List.mem_append_right _ List.mem_cons_self, ?_⟩).symm
    intro b hb
    rcases List.mem_append.mp hb with hb | hb
    · exact (List.pairwise_append.mp hsorted).2.2 b hb a List.mem_cons_self
    · rw [List.mem_singleton.mp hb]
      exact Std.le_refl a

/-! ## Ranks -/

/-- A value that is at least an element of a list in order has it and all before it below. -/
theorem lt_countP_le {s : List α} (hs : s.Pairwise (· ≤ ·)) {i : Nat} (hi : i < s.length) {v : α}
    (hv : s[i] ≤ v) : i < s.countP (· ≤ v) := by
  have hall : (s.take (i + 1)).countP (· ≤ v) = (s.take (i + 1)).length := by
    rw [List.countP_eq_length]
    intro a ha
    obtain ⟨j, hj, rfl⟩ := List.getElem_of_mem ha
    rw [List.length_take] at hj
    rw [List.getElem_take, decide_eq_true_eq]
    exact Std.le_trans (getElem_le_getElem hs (by omega) hi) hv
  have hle := (List.take_sublist (i + 1) s).countP_le (p := (· ≤ v))
  rw [hall, List.length_take] at hle
  omega

/-- A value that is at most an element of a list in order has it and all after it above. -/
theorem length_sub_le_countP_ge {s : List α} (hs : s.Pairwise (· ≤ ·)) {i : Nat}
    (hi : i < s.length) {v : α} (hv : v ≤ s[i]) : s.length - i ≤ s.countP (v ≤ ·) := by
  have hall : (s.drop i).countP (v ≤ ·) = (s.drop i).length := by
    rw [List.countP_eq_length]
    intro a ha
    obtain ⟨j, hj, rfl⟩ := List.getElem_of_mem ha
    rw [List.length_drop] at hj
    rw [List.getElem_drop, decide_eq_true_eq]
    exact Std.le_trans hv (getElem_le_getElem hs (by omega) (by omega))
  have hle := (List.drop_sublist i s).countP_le (p := (v ≤ ·))
  rwa [hall, List.length_drop] at hle

theorem countP_lt_le [LT α] [Std.LawfulOrderLT α] [DecidableLT α] {s : List α}
    (hs : s.Pairwise (· ≤ ·)) {i : Nat} (hi : i < s.length) {v : α} (hv : v ≤ s[i]) :
    s.countP (· < v) ≤ i := by
  have hsplit := List.length_eq_countP_add_countP (v ≤ ·) (l := s)
  have hlt : s.countP (fun a => decide ¬ decide (v ≤ a) = true) = s.countP (· < v) := by
    refine List.countP_congr fun a _ => ?_
    rw [decide_eq_true_eq, decide_eq_true_eq, decide_eq_true_eq, Std.not_le]
  have hge := length_sub_le_countP_ge hs hi hv
  omega

end Sorted

/-! ## Repeated neighbours -/

section Dedup

variable {α : Type} [DecidableEq α]

/-- The list without the items that repeat the one before them. -/
def dedup : List α → List α
  | [] => []
  | [a] => [a]
  | a :: b :: l => if a = b then dedup (b :: l) else a :: dedup (b :: l)

theorem mem_dedup {l : List α} {x : α} : x ∈ dedup l ↔ x ∈ l := by
  fun_induction dedup l with
  | case1 => rfl
  | case2 => rfl
  | case3 a l ih =>
    rw [ih]
    exact ⟨List.mem_cons_of_mem a, fun h => (List.mem_cons.mp h).elim (· ▸ List.mem_cons_self) id⟩
  | case4 a b l hne ih => rw [List.mem_cons, ih, ← List.mem_cons]

/-- In a list in order all repetitions are neighbours. -/
theorem nodup_dedup [LE α] [Std.IsLinearOrder α] {l : List α} (h : l.Pairwise (· ≤ ·)) :
    (dedup l).Nodup := by
  fun_induction dedup l with
  | case1 => exact List.nodup_nil
  | case2 a => exact List.nodup_cons.mpr ⟨List.not_mem_nil, List.nodup_nil⟩
  | case3 a l ih => exact ih (List.pairwise_cons.mp h).2
  | case4 a b l hne ih =>
    obtain ⟨ha, hl⟩ := List.pairwise_cons.mp h
    refine List.nodup_cons.mpr ⟨fun hmem => ?_, ih hl⟩
    rw [mem_dedup] at hmem
    rcases List.mem_cons.mp hmem with heq | hmem
    · exact hne heq
    · have hba : b ≤ a := (List.pairwise_cons.mp hl).1 a hmem
      exact hne (Std.le_antisymm (ha b List.mem_cons_self) hba)

end Dedup

end Sorted
end Library
