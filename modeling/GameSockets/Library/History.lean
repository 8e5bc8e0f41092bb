/-
What comes before what in a log, the oldest entry first.

Each notion is a statement about the ways to split the log, and comes with what one
more entry does to it; the two together are an induction over the log.
-/
import Mathlib.Data.List.Induction

namespace Library
namespace History

section History

variable {α β : Type}

/-- Every entry comes after a log that it may come after. -/
def Always (R : List α → α → Prop) (l : List α) : Prop :=
  ∀ before x after, l = before ++ x :: after → R before x

/-- There is an entry with `p`, and none with `q` after it. -/
def Since (p q : α → Prop) (l : List α) : Prop :=
  ∃ before x after, l = before ++ x :: after ∧ p x ∧ ∀ y ∈ after, ¬ q y

/-- Between an entry with `p` and a later one with `q` there is one with `r`. -/
def Between (p q r : α → Prop) (l : List α) : Prop :=
  ∀ before x mid y after, l = before ++ x :: (mid ++ y :: after) → p x → q y → ∃ z ∈ mid, r z

@[simp] theorem always_nil (R : List α → α → Prop) : Always R [] := by
  intro before x after h
  cases before <;> cases h

/-- The ways to split a log with one more entry. -/
theorem append_singleton_eq_split {l : List α} {x : α} {before : List α} {y : α}
    {after : List α} :
    l ++ [x] = before ++ y :: after ↔
      (before = l ∧ y = x ∧ after = []) ∨
        ∃ rest, after = rest ++ [x] ∧ l = before ++ y :: rest := by
  constructor
  · intro h
    rcases after.eq_nil_or_concat with rfl | ⟨rest, z, rfl⟩
    · obtain ⟨rfl, hx⟩ := List.append_inj' h rfl
      exact Or.inl ⟨rfl, (List.singleton_inj.mp hx).symm, rfl⟩
    · rw [List.concat_eq_append, ← List.cons_append, ← List.append_assoc] at h
      obtain ⟨hl, hx⟩ := List.append_inj' h rfl
      exact Or.inr ⟨rest, by rw [List.concat_eq_append, hx], hl⟩
  · rintro (⟨rfl, rfl, rfl⟩ | ⟨rest, rfl, rfl⟩)
    · rfl
    · rw [List.append_assoc, List.cons_append]

theorem always_append_singleton {R : List α → α → Prop} {l : List α} {x : α} :
    Always R (l ++ [x]) ↔ Always R l ∧ R l x := by
  constructor
  · intro h
    refine ⟨fun before y after hl => ?_, h l x [] rfl⟩
    exact h before y (after ++ [x]) (append_singleton_eq_split.mpr (Or.inr ⟨after, rfl, hl⟩))
  · rintro ⟨hl, hx⟩ before y after heq
    rcases append_singleton_eq_split.mp heq with ⟨rfl, rfl, -⟩ | ⟨rest, -, hrest⟩
    · exact hx
    · exact hl before y rest hrest

theorem always_append {R : List α → α → Prop} {l m : List α} :
    Always R (l ++ m) ↔ Always R l ∧ Always (fun before x => R (l ++ before) x) m := by
  induction m using List.reverseRecOn with
  | nil => simp
  | append_singleton m x ih =>
    rw [← List.append_assoc, always_append_singleton, ih, always_append_singleton, and_assoc]

@[simp] theorem not_since_nil (p q : α → Prop) : ¬ Since p q [] := by
  rintro ⟨before, x, after, h, -⟩
  cases before <;> cases h

theorem since_append_singleton {p q : α → Prop} {l : List α} {x : α} :
    Since p q (l ++ [x]) ↔ p x ∨ ¬ q x ∧ Since p q l := by
  constructor
  · rintro ⟨before, y, after, heq, hp, hq⟩
    rcases append_singleton_eq_split.mp heq with ⟨-, rfl, -⟩ | ⟨rest, rfl, hrest⟩
    · exact Or.inl hp
    · refine Or.inr ⟨hq x (List.mem_append_right _ List.mem_cons_self), before, y, rest, hrest, hp,
        fun z hz => hq z (List.mem_append_left _ hz)⟩
  · rintro (hp | ⟨hq, before, y, after, rfl, hp, hafter⟩)
    · exact ⟨l, x, [], rfl, hp, List.forall_mem_nil _⟩
    · refine ⟨before, y, after ++ [x], by rw [List.append_assoc, List.cons_append], hp, ?_⟩
      intro z hz
      rcases List.mem_append.mp hz with hz | hz
      · exact hafter z hz
      · rwa [List.mem_singleton.mp hz]

theorem always_congr {R R' : List α → α → Prop} {l : List α}
    (h : ∀ before x after, l = before ++ x :: after → (R before x ↔ R' before x)) :
    Always R l ↔ Always R' l := by
  constructor
  · intro hall before x after hl
    exact (h before x after hl).mp (hall before x after hl)
  · intro hall before x after hl
    exact (h before x after hl).mpr (hall before x after hl)

theorem since_mono {p p' q : α → Prop} {l : List α} (h : ∀ x ∈ l, p x → p' x) :
    Since p q l → Since p' q l := by
  rintro ⟨before, x, after, rfl, hp, hq⟩
  exact ⟨before, x, after, rfl, h x (List.mem_append_right _ List.mem_cons_self) hp, hq⟩

theorem since_or {p p' q : α → Prop} {l : List α} :
    Since (fun x => p x ∨ p' x) q l ↔ Since p q l ∨ Since p' q l := by
  constructor
  · rintro ⟨before, x, after, hl, hp | hp', hq⟩
    · exact Or.inl ⟨before, x, after, hl, hp, hq⟩
    · exact Or.inr ⟨before, x, after, hl, hp', hq⟩
  · rintro (h | h)
    · exact since_mono (fun _ _ => Or.inl) h
    · exact since_mono (fun _ _ => Or.inr) h

/-- Entries of neither kind change nothing. -/
theorem since_append_of_neither {p q : α → Prop} {l m : List α}
    (h : ∀ x ∈ m, ¬ p x ∧ ¬ q x) : Since p q (l ++ m) ↔ Since p q l := by
  induction m using List.reverseRecOn with
  | nil => rw [List.append_nil]
  | append_singleton m x ih =>
    have hx := h x (List.mem_append_right _ List.mem_cons_self)
    rw [← List.append_assoc, since_append_singleton,
      ih fun y hy => h y (List.mem_append_left _ hy)]
    simp [hx]

/-- An entry with `q` comes after no `p` that waits for an `r`. -/
theorem between_iff_always {p q r : α → Prop} {l : List α} :
    Between p q r l ↔ Always (fun before y => q y → ¬ Since p r before) l := by
  constructor
  · rintro h before y after rfl hq ⟨first, x, mid, rfl, hp, hr⟩
    obtain ⟨z, hz, hrz⟩ :=
      h first x mid y after (by rw [List.append_assoc, List.cons_append]) hp hq
    exact hr z hz hrz
  · intro h before x mid y after heq hp hq
    by_contra hr
    refine h (before ++ x :: mid) y after ?_ hq ⟨before, x, mid, rfl, hp, fun z hz hrz => ?_⟩
    · rw [heq, List.append_assoc, List.cons_append]
    · exact hr ⟨z, hz, hrz⟩

@[simp] theorem between_nil (p q r : α → Prop) : Between p q r [] :=
  between_iff_always.mpr (always_nil _)

theorem between_append_singleton {p q r : α → Prop} {l : List α} {x : α} :
    Between p q r (l ++ [x]) ↔ Between p q r l ∧ (q x → ¬ Since p r l) := by
  rw [between_iff_always, always_append_singleton, ← between_iff_always]

/-! ## Logs that are there -/

theorem always_cons {R : List α → α → Prop} {x : α} {l : List α} :
    Always R (x :: l) ↔ R [] x ∧ Always (fun before => R (x :: before)) l := by
  rw [← List.singleton_append, always_append, ← List.nil_append [x], always_append_singleton]
  simp

theorem since_cons {p q : α → Prop} {x : α} {l : List α} :
    Since p q (x :: l) ↔ (p x ∧ ∀ y ∈ l, ¬ q y) ∨ Since p q l := by
  constructor
  · rintro ⟨before, y, after, heq, hp, hq⟩
    cases before with
    | nil =>
      cases heq
      exact .inl ⟨hp, hq⟩
    | cons z before =>
      cases heq
      exact .inr ⟨before, y, after, rfl, hp, hq⟩
  · rintro (⟨hp, hq⟩ | ⟨before, y, after, rfl, hp, hq⟩)
    · exact ⟨[], x, l, rfl, hp, hq⟩
    · exact ⟨x :: before, y, after, rfl, hp, hq⟩

instance decidableAlways : (R : List α → α → Prop) → [∀ before x, Decidable (R before x)] →
    (l : List α) → Decidable (Always R l)
  | R, _, [] => .isTrue (always_nil R)
  | R, _, x :: l =>
    have : Decidable (Always (fun before => R (x :: before)) l) := decidableAlways _ l
    decidable_of_iff _ always_cons.symm

instance decidableSince (p q : α → Prop) [DecidablePred p] [DecidablePred q] :
    (l : List α) → Decidable (Since p q l)
  | [] => .isFalse (not_since_nil p q)
  | _ :: l =>
    have : Decidable (Since p q l) := decidableSince p q l
    decidable_of_iff _ since_cons.symm

instance decidableBetween (p q r : α → Prop) [DecidablePred p] [DecidablePred q]
    [DecidablePred r] (l : List α) : Decidable (Between p q r l) :=
  decidable_of_iff _ between_iff_always.symm

/-! ## The entries that an observer sees -/

theorem always_map {f : α → β} {R : List β → β → Prop} {l : List α} :
    Always R (l.map f) ↔ Always (fun before x => R (before.map f) (f x)) l := by
  induction l using List.reverseRecOn with
  | nil => simp
  | append_singleton l x ih =>
    rw [List.map_append, List.map_singleton, always_append_singleton, always_append_singleton, ih]

theorem since_map {f : α → β} {p q : β → Prop} {l : List α} :
    Since p q (l.map f) ↔ Since (fun x => p (f x)) (fun x => q (f x)) l := by
  induction l using List.reverseRecOn with
  | nil => simp
  | append_singleton l x ih =>
    rw [List.map_append, List.map_singleton, since_append_singleton, since_append_singleton, ih]

theorem since_filterMap {f : α → Option β} {p q : β → Prop} {l : List α} :
    Since p q (l.filterMap f) ↔ Since (fun x => ∃ y, f x = some y ∧ p y)
      (fun x => ∃ y, f x = some y ∧ q y) l := by
  induction l using List.reverseRecOn with
  | nil => simp
  | append_singleton l x ih =>
    rw [List.filterMap_append, since_append_singleton, ← ih]
    cases hx : f x with
    | none => simp [hx]
    | some y => simp [hx, since_append_singleton]

theorem between_filterMap {f : α → Option β} {p q r : β → Prop} {l : List α} :
    Between p q r (l.filterMap f) ↔ Between (fun x => ∃ y, f x = some y ∧ p y)
      (fun x => ∃ y, f x = some y ∧ q y) (fun x => ∃ y, f x = some y ∧ r y) l := by
  induction l using List.reverseRecOn with
  | nil => simp
  | append_singleton l x ih =>
    rw [List.filterMap_append, between_append_singleton, ← ih, ← since_filterMap]
    cases hx : f x with
    | none => simp [hx]
    | some y => simp [hx, between_append_singleton]

end History

end History
end Library
