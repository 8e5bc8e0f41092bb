/-
Grouping a list by a key in one pass, into a table of lists.
-/
import Mathlib.Algebra.BigOperators.Group.List.Basic
import Mathlib.Data.List.AList
import Mathlib.Data.List.Dedup
import Mathlib.Data.List.Induction
import Mathlib.Order.Bounds.Basic

namespace Library
namespace Grouping

section Grouping

variable {α κ : Type} [DecidableEq κ] (key : α → κ)

/-- The entry of the key, or an empty one, with one more item. -/
def push (table : AList fun _ : κ => List α) (x : α) : AList fun _ : κ => List α :=
  table.insert (key x) ((table.lookup (key x)).getD [] ++ [x])

def group (xs : List α) : AList fun _ : κ => List α := xs.foldl (push key) ∅

theorem group_append_singleton (xs : List α) (x : α) :
    group key (xs ++ [x]) = push key (group key xs) x := by
  rw [group, List.foldl_append, ← group, List.foldl_cons, List.foldl_nil]

theorem mem_group {xs : List α} {k : κ} : k ∈ group key xs ↔ ∃ x ∈ xs, key x = k := by
  induction xs using List.reverseRecOn with
  | nil => simp [group]
  | append_singleton xs x ih =>
    rw [group_append_singleton, push, AList.mem_insert, ih]
    constructor
    · rintro (rfl | ⟨y, hy, hk⟩)
      · exact ⟨x, List.mem_append_right _ List.mem_cons_self, rfl⟩
      · exact ⟨y, List.mem_append_left _ hy, hk⟩
    · rintro ⟨y, hy, hk⟩
      rcases List.mem_append.mp hy with hy | hy
      · exact Or.inr ⟨y, hy, hk⟩
      · rw [List.mem_singleton] at hy
        exact Or.inl (hy ▸ hk.symm)

/-- The entry of a key holds its items, in order. -/
theorem getD_lookup_group (xs : List α) (k : κ) :
    ((group key xs).lookup k).getD [] = xs.filter (key · = k) := by
  induction xs using List.reverseRecOn with
  | nil => rfl
  | append_singleton xs x ih =>
    rw [group_append_singleton, push, List.filter_append]
    by_cases h : k = key x
    · subst h
      rw [AList.lookup_insert, Option.getD_some, ih, List.filter_singleton, decide_eq_true rfl]
      rfl
    · rw [AList.lookup_insert_ne h, ih, List.filter_singleton, decide_eq_false (Ne.symm h)]
      exact (List.append_nil _).symm

theorem lookup_group {xs : List α} {k : κ} (h : ∃ x ∈ xs, key x = k) :
    (group key xs).lookup k = some (xs.filter (key · = k)) := by
  rw [← mem_group, ← AList.lookup_isSome] at h
  obtain ⟨items, hitems⟩ := Option.isSome_iff_exists.mp h
  rw [← getD_lookup_group, hitems, Option.getD_some]

/-- The keys of the table are those of the items. -/
theorem keys_group_perm (xs : List α) : (group key xs).keys.Perm (xs.map key).dedup := by
  rw [List.perm_ext_iff_of_nodup (group key xs).keys_nodup (List.nodup_dedup _)]
  intro k
  rw [← AList.mem_keys, mem_group, List.mem_dedup, List.mem_map]

/-- The groups of different keys are a partition. -/
theorem flatMap_filter_perm {xs : List α} {keys : List κ} (hnodup : keys.Nodup)
    (hall : ∀ x ∈ xs, key x ∈ keys) :
    (keys.flatMap fun k => xs.filter (key · = k)).Perm xs := by
  induction keys generalizing xs with
  | nil =>
    have hnil : xs = [] := List.eq_nil_iff_forall_not_mem.mpr fun x hx => by
      simpa using hall x hx
    rw [hnil]
    exact List.Perm.refl _
  | cons k keys ih =>
    obtain ⟨hk, hnodup⟩ := List.nodup_cons.mp hnodup
    have hrest : ∀ x ∈ xs.filter (fun x => !decide (key x = k)), key x ∈ keys := by
      intro x hx
      obtain ⟨hx, hne⟩ := List.mem_filter.mp hx
      rcases List.mem_cons.mp (hall x hx) with heq | hmem
      · simp [heq] at hne
      · exact hmem
    have hgroups : (keys.flatMap fun k' => xs.filter (key · = k')) =
        keys.flatMap fun k' => (xs.filter (fun x => !decide (key x = k))).filter (key · = k') := by
      refine List.flatMap_congr fun k' hk' => ?_
      rw [List.filter_filter]
      refine List.filter_congr fun x _ => ?_
      by_cases heq : key x = k'
      · subst heq
        have hne : key x ≠ k := fun h => hk (h ▸ hk')
        simp [hne]
      · simp [heq]
    rw [List.flatMap_cons, hgroups]
    exact ((ih hnodup hrest).append_left _).trans (List.filter_append_perm _ xs)

/-- A sum over all items is the sum over the groups. -/
theorem sum_groups {M : Type} [AddCommMonoid M] (f : α → M) {xs : List α} {keys : List κ}
    (hnodup : keys.Nodup) (hall : ∀ x ∈ xs, key x ∈ keys) :
    (keys.map fun k => ((xs.filter (key · = k)).map f).sum).sum = (xs.map f).sum := by
  rw [← ((flatMap_filter_perm key hnodup hall).map f).sum_eq, List.map_flatMap, List.flatMap,
    List.sum_flatten, List.map_map]
  rfl

end Grouping

/-! ## Extremes of groups -/

section Extremes

variable {ι β : Type} [LE β] [Std.IsPartialOrder β] {s : Set β} {keys : List ι}
  {t : ι → Set β} {m : ι → β} {a : β}

/-- The least of all is the least of the least of the groups. -/
theorem isLeast_groups (hs : IsLeast s a) (hcover : ∀ x, x ∈ s ↔ ∃ k ∈ keys, x ∈ t k)
    (ht : ∀ k ∈ keys, IsLeast (t k) (m k)) : IsLeast {x | ∃ k ∈ keys, m k = x} a := by
  have hlower : ∀ k ∈ keys, a ≤ m k :=
    fun k hk => hs.2 ((hcover _).mpr ⟨k, hk, (ht k hk).1⟩)
  obtain ⟨k, hk, hak⟩ := (hcover a).mp hs.1
  refine ⟨⟨k, hk, Std.le_antisymm ((ht k hk).2 hak) (hlower k hk)⟩, ?_⟩
  rintro x ⟨k, hk, rfl⟩
  exact hlower k hk

theorem isGreatest_groups (hs : IsGreatest s a) (hcover : ∀ x, x ∈ s ↔ ∃ k ∈ keys, x ∈ t k)
    (ht : ∀ k ∈ keys, IsGreatest (t k) (m k)) : IsGreatest {x | ∃ k ∈ keys, m k = x} a := by
  have hupper : ∀ k ∈ keys, m k ≤ a :=
    fun k hk => hs.2 ((hcover _).mpr ⟨k, hk, (ht k hk).1⟩)
  obtain ⟨k, hk, hak⟩ := (hcover a).mp hs.1
  refine ⟨⟨k, hk, Std.le_antisymm (hupper k hk) ((ht k hk).2 hak)⟩, ?_⟩
  rintro x ⟨k, hk, rfl⟩
  exact hupper k hk

end Extremes

end Grouping
end Library
