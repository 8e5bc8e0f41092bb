/-
Loops over a list, as folds.
-/
import Mathlib.Data.List.Induction
import Mathlib.Logic.Function.Basic

namespace Library
namespace Loop

section Loop

variable {α β γ : Type}

/-- A loop whose passes succeed. -/
theorem foldlM_eq_some {f : β → α → Option β} {g : β → α → β} {l : List α}
    (h : ∀ x ∈ l, ∀ acc, f acc x = some (g acc x)) (acc : β) :
    l.foldlM f acc = some (l.foldl g acc) := by
  induction l generalizing acc with
  | nil => rfl
  | cons x l ih =>
    rw [List.foldlM_cons, h x List.mem_cons_self acc, List.foldl_cons]
    exact ih (fun y hy => h y (List.mem_cons_of_mem x hy)) (g acc x)

/-- A loop that pushes one item a pass. -/
theorem foldl_append_singleton (f : α → β) (l : List α) (acc : List β) :
    l.foldl (fun acc x => acc ++ [f x]) acc = acc ++ l.map f := by
  induction l generalizing acc with
  | nil => exact (List.append_nil acc).symm
  | cons x l ih => rw [List.foldl_cons, ih, List.map_cons, List.append_assoc, List.singleton_append]

/-- A loop with two variables that do not meet. -/
theorem foldl_pair (f : β → α → β) (g : γ → α → γ) (l : List α) (b : β) (c : γ) :
    l.foldl (fun acc x => (f acc.1 x, g acc.2 x)) (b, c) = (l.foldl f b, l.foldl g c) := by
  induction l generalizing b c with
  | nil => rfl
  | cons x l ih => exact ih (f b x) (g c x)

/-- A loop that pushes at most one item a pass. -/
theorem foldl_append_toList (f : α → Option β) (l : List α) (acc : List β) :
    l.foldl (fun acc x => acc ++ (f x).toList) acc = acc ++ l.filterMap f := by
  induction l generalizing acc with
  | nil => exact (List.append_nil acc).symm
  | cons x l ih =>
    rw [List.foldl_cons, ih, List.filterMap_cons]
    cases f x <;> simp

/-- A loop in a loop is a loop over the pairs. -/
theorem foldlM_nested {M : Type → Type} [Monad M] [LawfulMonad M] (f : α → β → γ → M β)
    (inner : α → List γ) (l : List α) (b : β) :
    l.foldlM (fun b x => (inner x).foldlM (f x) b) b =
      (l.flatMap fun x => (inner x).map (x, ·)).foldlM (fun b p => f p.1 b p.2) b := by
  induction l generalizing b with
  | nil => rfl
  | cons x l ih =>
    rw [List.foldlM_cons, List.flatMap_cons, List.foldlM_append, List.foldlM_map]
    simp only [ih]

theorem foldlM_congr {M : Type → Type} [Monad M] {f g : β → α → M β} {l : List α}
    (h : ∀ x ∈ l, ∀ b, f b x = g b x) {b : β} : l.foldlM f b = l.foldlM g b := by
  induction l generalizing b with
  | nil => rfl
  | cons x l ih =>
    rw [List.foldlM_cons, List.foldlM_cons, h x List.mem_cons_self b]
    exact bind_congr fun _ => ih fun y hy => h y (List.mem_cons_of_mem x hy)

/-- A loop that pushes what each pass gives. -/
theorem foldlM_mapM {M : Type → Type} [Monad M] [LawfulMonad M] (f : α → M β) (l : List α)
    (acc : List β) :
    l.foldlM (fun acc x => do return acc ++ [← f x]) acc =
      (do return acc ++ (← l.mapM f)) := by
  induction l generalizing acc with
  | nil => simp
  | cons x l ih =>
    simp only [List.foldlM_cons, List.mapM_cons, bind_assoc, pure_bind, ih, List.append_assoc,
      List.singleton_append]

/-- What gives nothing may be left out of a loop. -/
theorem flatMap_filter {p : α → Bool} {f : α → List β} {l : List α}
    (h : ∀ x ∈ l, p x = false → f x = []) : (l.filter p).flatMap f = l.flatMap f := by
  induction l with
  | nil => rfl
  | cons x l ih =>
    have hrest := ih fun y hy => h y (List.mem_cons_of_mem x hy)
    cases hp : p x with
    | false => rw [List.filter_cons_of_neg (by simp [hp]), List.flatMap_cons,
        h x List.mem_cons_self hp, hrest, List.nil_append]
    | true => rw [List.filter_cons_of_pos hp, List.flatMap_cons, List.flatMap_cons, hrest]

/-- Every pass of a loop meets a condition. -/
def Along (p : β → α → Prop) (g : β → α → β) : β → List α → Prop
  | _, [] => True
  | b, x :: l => p b x ∧ Along p g (g b x) l

/-- The condition may look at a part of the state only. -/
theorem along_proj {p : β → α → Prop} {g : β → α → β} {q : γ → α → Prop} {h : γ → α → γ}
    (proj : β → γ) (hp : ∀ b x, p b x ↔ q (proj b) x) (hg : ∀ b x, proj (g b x) = h (proj b) x)
    (l : List α) (b : β) : Along p g b l ↔ Along q h (proj b) l := by
  induction l generalizing b with
  | nil => exact Iff.rfl
  | cons x l ih => rw [Along, Along, hp, ih, hg]

/-- A loop whose passes succeed on a condition. -/
theorem foldlM_eq_some_iff {f : β → α → Option β} {p : β → α → Prop} {g : β → α → β} {l : List α}
    (h : ∀ x ∈ l, ∀ b b', f b x = some b' ↔ p b x ∧ g b x = b') {b r : β} :
    l.foldlM f b = some r ↔ Along p g b l ∧ l.foldl g b = r := by
  induction l generalizing b with
  | nil => simp [Along]
  | cons x l ih =>
    have ih := @ih (fun y hy => h y (List.mem_cons_of_mem x hy))
    rw [List.foldlM_cons, Option.bind_eq_bind, Option.bind_eq_some_iff, Along, List.foldl_cons]
    constructor
    · rintro ⟨b', hpass, hrest⟩
      obtain ⟨hp, rfl⟩ := (h x List.mem_cons_self b b').mp hpass
      obtain ⟨halong, hr⟩ := ih.mp hrest
      exact ⟨⟨hp, halong⟩, hr⟩
    · rintro ⟨⟨hp, halong⟩, hr⟩
      exact ⟨_, (h x List.mem_cons_self b _).mpr ⟨hp, rfl⟩, ih.mpr ⟨halong, hr⟩⟩

/-- A loop that checks its items before it passes them on. -/
theorem foldlM_checked_iff {f g : β → α → Option β} {p : α → Prop} {l : List α}
    (h : ∀ x ∈ l, ∀ b b', f b x = some b' ↔ p x ∧ g b x = some b') {b r : β} :
    l.foldlM f b = some r ↔ (∀ x ∈ l, p x) ∧ l.foldlM g b = some r := by
  induction l generalizing b with
  | nil => simp
  | cons x l ih =>
    have ih := @ih (fun y hy => h y (List.mem_cons_of_mem x hy))
    rw [List.foldlM_cons, List.foldlM_cons, Option.bind_eq_bind, Option.bind_eq_some_iff,
      Option.bind_eq_some_iff, List.forall_mem_cons]
    constructor
    · rintro ⟨b', hpass, hrest⟩
      obtain ⟨hp, hg⟩ := (h x List.mem_cons_self b b').mp hpass
      obtain ⟨hall, hr⟩ := ih.mp hrest
      exact ⟨⟨hp, hall⟩, b', hg, hr⟩
    · rintro ⟨⟨hp, hall⟩, b', hg, hr⟩
      exact ⟨b', (h x List.mem_cons_self b b').mpr ⟨hp, hg⟩, ih.mpr ⟨hall, hr⟩⟩

/-- A loop that pushes what it makes of an item, for items that it can make something of. -/
theorem foldlM_push {f : α → Option β} {l : List α} {made : List β}
    (h : List.Forall₂ (fun y x => f x = some y) made l) (acc : List β) :
    l.foldlM (fun acc x => (f x).map fun y => acc ++ [y]) acc = some (acc ++ made) := by
  induction h generalizing acc with
  | nil => rw [List.append_nil]; rfl
  | @cons y x made l hy _ ih =>
    rw [List.foldlM_cons, hy, Option.map_some, Option.bind_eq_bind, Option.bind_some, ih,
      List.append_assoc, List.singleton_append]

/-- A loop whose passes never fail. -/
theorem exists_foldlM_ok {ε : Type} {f : β → α → Except ε β} {l : List α}
    (h : ∀ x ∈ l, ∀ b, ∃ b', f b x = .ok b') (b : β) : ∃ b', l.foldlM f b = .ok b' := by
  induction l generalizing b with
  | nil => exact ⟨b, rfl⟩
  | cons x l ih =>
    obtain ⟨b', hb'⟩ := h x List.mem_cons_self b
    obtain ⟨b'', hb''⟩ := ih (fun y hy => h y (List.mem_cons_of_mem x hy)) b'
    refine ⟨b'', ?_⟩
    rw [List.foldlM_cons, hb']
    exact hb''

theorem exists_mapM_ok {ε : Type} {f : α → Except ε β} {l : List α}
    (h : ∀ x ∈ l, ∃ y, f x = .ok y) : ∃ ys, l.mapM f = .ok ys := by
  induction l with
  | nil => exact ⟨[], rfl⟩
  | cons x l ih =>
    obtain ⟨y, hy⟩ := h x List.mem_cons_self
    obtain ⟨ys, hys⟩ := ih fun z hz => h z (List.mem_cons_of_mem x hz)
    refine ⟨y :: ys, ?_⟩
    rw [List.mapM_cons, hy, hys]
    rfl

theorem mapM_eq_ok {ε : Type} {f : α → Except ε β} {g : α → β} {l : List α}
    (h : ∀ x ∈ l, f x = .ok (g x)) : l.mapM f = .ok (l.map g) := by
  induction l with
  | nil => rfl
  | cons x l ih =>
    rw [List.mapM_cons, h x List.mem_cons_self, ih fun y hy => h y (List.mem_cons_of_mem x hy)]
    rfl

/-- A loop that writes one entry of a table a pass keeps them all, when no two go in the same
place. -/
theorem foldlM_update {κ ε : Type} [DecidableEq κ] {key : α → κ} {value : α → γ → Prop}
    {f : (κ → Option γ) → α → Except ε (κ → Option γ)} {l : List α}
    (hpass : ∀ x ∈ l, ∀ table table', f table x = .ok table' →
      ∃ v, value x v ∧ table' = Function.update table (key x) (some v))
    (hinj : ∀ x ∈ l, ∀ y ∈ l, key x = key y → x = y)
    {table table' : κ → Option γ} (h : l.foldlM f table = .ok table') :
    ∀ x ∈ l, ∃ v, value x v ∧ table' (key x) = some v := by
  induction l using List.reverseRecOn generalizing table' with
  | nil => exact fun x hx => absurd hx List.not_mem_nil
  | append_singleton l y ih =>
    rw [List.foldlM_append] at h
    cases hl : l.foldlM f table with
    | error e =>
      rw [hl] at h
      cases h
    | ok before =>
      rw [hl] at h
      change List.foldlM f before [y] = .ok table' at h
      rw [List.foldlM_cons, bind_congr fun _ => List.foldlM_nil, bind_pure] at h
      obtain ⟨v, hv, rfl⟩ := hpass y (by simp) _ _ h
      intro x hx
      by_cases hkey : key x = key y
      · rw [hinj x hx y (by simp) hkey]
        exact ⟨v, hv, Function.update_self _ _ _⟩
      · have hmem : x ∈ l := by
          rcases List.mem_append.mp hx with hx | hx
          · exact hx
          · exact absurd (congrArg key (List.mem_singleton.mp hx)) hkey
        have hinj' : ∀ x ∈ l, ∀ y ∈ l, key x = key y → x = y := fun a ha b hb =>
          hinj a (List.mem_append_left _ ha) b (List.mem_append_left _ hb)
        obtain ⟨w, hw, hbefore⟩ :=
          ih (fun z hz => hpass z (List.mem_append_left _ hz)) hinj' hl x hmem
        exact ⟨w, hw, (Function.update_of_ne hkey _ _).trans hbefore⟩

/-- Where a loop has come to, whether it has ended or has stopped with an error. -/
def reached {ε : Type} : Except (ε × β) β → β
  | .error (_, b) => b
  | .ok b => b

theorem foldlM_reached {ε : Type} {f : β → α → Except (ε × β) β} {p : β → Prop} {l : List α}
    (h : ∀ x ∈ l, ∀ b, p b → p (reached (f b x))) {b : β} (hb : p b) :
    p (reached (l.foldlM f b)) := by
  induction l generalizing b with
  | nil => exact hb
  | cons x l ih =>
    have hx := h x List.mem_cons_self b hb
    rw [List.foldlM_cons]
    cases hpass : f b x with
    | error e =>
      rw [hpass] at hx
      exact hx
    | ok b' =>
      rw [hpass] at hx
      exact ih (fun y hy => h y (List.mem_cons_of_mem x hy)) hx

end Loop

end Loop
end Library
