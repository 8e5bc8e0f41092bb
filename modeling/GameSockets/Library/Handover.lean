/-
Keys on their way into a table: a task holds them first, then a channel.

A key that is somewhere on the way is counted in one list, so that "moved" means that
the count stays, and "in two places" that it is above one.
-/
import GameSockets.Library.Channel
import Mathlib.Data.List.Perm.Basic
import Mathlib.Data.List.Nodup

namespace Library
namespace Handover

variable {Task Key : Type} [DecidableEq Key]

theorem flatMap_set_perm (f : Task → List Key) {l : List Task} {k : Nat} {x : Task} (y : Task)
    (h : l[k]? = some x) : ((l.set k y).flatMap f ++ f x).Perm (l.flatMap f ++ f y) := by
  obtain ⟨hk, rfl⟩ := List.getElem?_eq_some_iff.mp h
  have hset : ∃ l₁ l₂, l = l₁ ++ l[k] :: l₂ ∧ l₁.length = k ∧ l.set k y = l₁ ++ y :: l₂ :=
    List.exists_of_set hk
  obtain ⟨l₁, l₂, hl, -, hset⟩ := hset
  have hflat : l.flatMap f = l₁.flatMap f ++ (f l[k] ++ l₂.flatMap f) := by
    conv_lhs => rw [hl]
    rw [List.flatMap_append, List.flatMap_cons]
  rw [hset, hflat, List.flatMap_append, List.flatMap_cons, List.perm_iff_count]
  intro b
  simp only [List.count_append]
  omega

/-- The keys in the table, with the tasks as `f` tells, and in the channel. -/
def gather (f : Task → List Key) (table : List Key) (tasks : List Task) (channel : Channel Key) :
    List Key :=
  table ++ (tasks.flatMap f ++ channel.pending)

/-- When task `k` changes its state, only the keys of that task and of the channel
count. -/
theorem gather_set (f : Task → List Key) (table : List Key) {tasks : List Task} {k : Nat}
    {old : Task} (new : Task) (channel channel' : Channel Key) (h : tasks[k]? = some old)
    (c : Key) :
    (gather f table (tasks.set k new) channel').count c +
        ((f old).count c + channel.pending.count c) =
      (gather f table tasks channel).count c + ((f new).count c + channel'.pending.count c) := by
  have hperm := (flatMap_set_perm f new h).count_eq c
  simp only [List.count_append] at hperm
  simp only [gather, List.count_append]
  omega

/-- The key that the table takes from the channel stays where it is counted. -/
theorem gather_recv (f : Task → List Key) (table : List Key) (tasks : List Task)
    {channel channel' : Channel Key} {key : Key} (h : channel.recv = some (key, channel'))
    (c : Key) :
    (gather f (key :: table) tasks channel').count c = (gather f table tasks channel).count c := by
  simp only [gather, (Channel.recv_eq_some h).1, List.count_append, List.count_cons]
  omega

theorem gather_cons (f : Task → List Key) (table : List Key) (tasks : List Task)
    (channel : Channel Key) (key c : Key) :
    (gather f (key :: table) tasks channel).count c =
      (gather f table tasks channel).count c + [key].count c := by
  simp only [gather, List.count_append, List.count_cons, List.count_nil]
  omega

theorem mem_iff_of_count {l l' : List Key} {c : Key} (h : l.count c = l'.count c) :
    c ∈ l ↔ c ∈ l' := by
  rw [← List.count_pos_iff, h, List.count_pos_iff]

theorem nodup_of_count {l l' : List Key} (hl : l.Nodup) (h : ∀ c, l'.count c = l.count c) :
    l'.Nodup := by
  rw [List.nodup_iff_count_le_one] at hl ⊢
  intro c
  rw [h]
  exact hl c

/-- A key that is nowhere can be added once. -/
theorem nodup_of_count_add {l l' : List Key} {key : Key} (hl : l.Nodup) (hkey : key ∉ l)
    (h : ∀ c, l'.count c = l.count c + [key].count c) : l'.Nodup := by
  rw [List.nodup_iff_count_le_one] at hl ⊢
  intro c
  rw [h]
  by_cases hc : c = key
  · subst hc
    have hzero := List.count_eq_zero_of_not_mem hkey
    have hone := List.count_singleton_self (a := c)
    omega
  · rw [List.count_eq_zero_of_not_mem (l := [key]) (by simpa using hc)]
    exact hl c

theorem mem_iff_of_count_add {l l' : List Key} (key : Key) {c : Key}
    (h : l'.count c = l.count c + [key].count c) : c ∈ l' ↔ c ∈ l ∨ c = key := by
  rw [← List.count_pos_iff, h, ← List.count_pos_iff, ← List.mem_singleton,
    ← List.count_pos_iff (l := [key])]
  omega

end Handover
end Library
