/-
Runs of a labelled step function.

A system is a function `step : σ → α → Option σ`: `none` means that the action
is not enabled in that state.  A run is a list of actions, so a run is data that
can be evaluated, and a property of every run is an induction over that list.
-/
import GameSockets.Library.History
import Mathlib.Data.List.Basic

namespace Library
namespace Run

section Run

variable {σ α : Type} (step : σ → α → Option σ)

/-- The state a list of actions leads to, if each of them is enabled in turn. -/
def run : σ → List α → Option σ
  | s, [] => some s
  | s, a :: as => (step s a).bind fun t => run t as

/-- Every step that the run takes satisfies `ok`, in the state before it. -/
def Along (ok : σ → α → Prop) : σ → List α → Prop
  | _, [] => True
  | s, a :: as => ok s a ∧ (step s a).elim True fun t => Along ok t as

/-- Every state that the run comes through satisfies `good`, the first one included. -/
def Throughout (good : σ → Prop) : σ → List α → Prop
  | s, [] => good s
  | s, a :: as => good s ∧ (step s a).elim True fun t => Throughout good t as

/-- Every state that the run comes through is `good` after the actions that lead to it. -/
def Prefixes (good : List α → σ → Prop) (s : σ) (as : List α) : Prop :=
  ∀ before after t, as = before ++ after → run step s before = some t → good before t

/-- What an observer of the single steps sees along the run. -/
def trace {β : Type} (obs : σ → α → Option β) : σ → List α → List β
  | _, [] => []
  | s, a :: as => (obs s a).toList ++ (step s a).elim [] fun t => trace obs t as

/-- What an observer sees along the run who may see several things at a step. -/
def observe {β : Type} (obs : σ → α → List β) : σ → List α → List β
  | _, [] => []
  | s, a :: as => obs s a ++ (step s a).elim [] fun t => observe obs t as

/-- Some run of `ok` actions leads from `s` to `t`. -/
def ReachableBy (ok : α → Prop) (s t : σ) : Prop :=
  ∃ as, (∀ a ∈ as, ok a) ∧ run step s as = some t

/-- A `done` state comes, whichever enabled actions are taken until then, and until then
there is one. -/
inductive Inevitable (done : σ → Prop) : σ → Prop where
  | now {s : σ} (h : done s) : Inevitable done s
  | later {s : σ} (enabled : ∃ a t, step s a = some t)
    (next : ∀ a t, step s a = some t → Inevitable done t) : Inevitable done s

@[simp] theorem run_nil (s : σ) : run step s [] = some s := rfl

theorem run_cons (s : σ) (a : α) (as : List α) :
    run step s (a :: as) = (step s a).bind fun t => run step t as := rfl

theorem run_cons_of_step {s t : σ} {a : α} (h : step s a = some t) (as : List α) :
    run step s (a :: as) = run step t as := by
  rw [run_cons, h, Option.bind_some]

theorem run_cons_eq_some {s t : σ} {a : α} {as : List α}
    (h : run step s (a :: as) = some t) :
    ∃ u, step s a = some u ∧ run step u as = some t := by
  rw [run_cons] at h
  exact Option.bind_eq_some_iff.mp h

theorem run_append (s : σ) (as bs : List α) :
    run step s (as ++ bs) = (run step s as).bind fun t => run step t bs := by
  induction as generalizing s with
  | nil => rfl
  | cons a as ih =>
    rw [List.cons_append, run_cons, run_cons]
    cases step s a with
    | none => rfl
    | some t => exact ih t

theorem run_append_of_run {s t : σ} {as : List α} (h : run step s as = some t)
    (bs : List α) : run step s (as ++ bs) = run step t bs := by
  rw [run_append, h, Option.bind_some]

/-- The last action of a run. -/
theorem run_append_singleton_eq_some {s t : σ} {as : List α} {a : α}
    (h : run step s (as ++ [a]) = some t) : ∃ u, run step s as = some u ∧ step u a = some t := by
  rw [run_append] at h
  obtain ⟨u, hu, hlast⟩ := Option.bind_eq_some_iff.mp h
  obtain ⟨v, hv, hrest⟩ := run_cons_eq_some step hlast
  cases hrest
  exact ⟨u, hu, hv⟩

theorem reachableBy_refl (ok : α → Prop) (s : σ) : ReachableBy step ok s s :=
  ⟨[], List.forall_mem_nil ok, rfl⟩

theorem reachableBy_trans {ok : α → Prop} {s t u : σ} (h : ReachableBy step ok s t)
    (h' : ReachableBy step ok t u) : ReachableBy step ok s u := by
  obtain ⟨as, hok, ha⟩ := h
  obtain ⟨bs, hok', hb⟩ := h'
  refine ⟨as ++ bs, fun a ha => ?_, by rw [run_append_of_run step ha, hb]⟩
  exact (List.mem_append.mp ha).elim (hok a) (hok' a)

theorem reachableBy_of_step {ok : α → Prop} {s t : σ} {a : α} (hok : ok a)
    (ha : step s a = some t) : ReachableBy step ok s t :=
  ⟨[a], fun b hb => List.mem_singleton.mp hb ▸ hok, by rw [run_cons_of_step step ha, run_nil]⟩

@[simp] theorem along_nil (ok : σ → α → Prop) (s : σ) : Along step ok s [] := trivial

theorem along_cons_of_step {ok : σ → α → Prop} {s t : σ} {a : α}
    (h : step s a = some t) (as : List α) :
    Along step ok s (a :: as) ↔ ok s a ∧ Along step ok t as := by
  rw [Along, h, Option.elim_some]

theorem along_and {ok ok' : σ → α → Prop} {as : List α} {s t : σ} (h : run step s as = some t) :
    Along step (fun s a => ok s a ∧ ok' s a) s as ↔ Along step ok s as ∧ Along step ok' s as := by
  induction as generalizing s with
  | nil => simp
  | cons a as ih =>
    obtain ⟨u, hu, hrest⟩ := run_cons_eq_some step h
    rw [along_cons_of_step step hu, along_cons_of_step step hu, along_cons_of_step step hu,
      ih hrest, and_and_and_comm]

/-- A condition on the actions alone. -/
theorem along_iff_forall_mem {ok : α → Prop} {as : List α} {s t : σ}
    (h : run step s as = some t) : Along step (fun _ => ok) s as ↔ ∀ a ∈ as, ok a := by
  induction as generalizing s with
  | nil => simp
  | cons a as ih =>
    obtain ⟨u, hu, hrest⟩ := run_cons_eq_some step h
    rw [along_cons_of_step step hu, ih hrest, List.forall_mem_cons]

instance decidableAlong (ok : σ → α → Prop) [∀ s a, Decidable (ok s a)] :
    ∀ (s : σ) (as : List α), Decidable (Along step ok s as)
  | _, [] => .isTrue trivial
  | s, a :: as =>
    match h : step s a with
    | none => decidable_of_iff (ok s a) (by simp [Along, h])
    | some t =>
      have := decidableAlong ok t as
      decidable_of_iff (ok s a ∧ Along step ok t as) (by simp [Along, h])

variable {step}

/-- The invariant rule: what the start satisfies and every allowed step keeps,
every state of an allowed run satisfies. -/
theorem invariant {ok : σ → α → Prop} {inv : σ → Prop}
    (keep : ∀ s a t, inv s → ok s a → step s a = some t → inv t) :
    ∀ (as : List α) {s t : σ}, inv s → Along step ok s as → run step s as = some t → inv t := by
  intro as
  induction as with
  | nil =>
    intro s t hs _ hrun
    cases hrun
    exact hs
  | cons a as ih =>
    intro s t hs hok hrun
    obtain ⟨u, hu, hrest⟩ := run_cons_eq_some step hrun
    rw [along_cons_of_step step hu] at hok
    exact ih (keep s a u hs hok.1 hu) hok.2 hrest

/-- The invariant rule for runs without a side condition. -/
theorem invariant_of_run {inv : σ → Prop}
    (keep : ∀ s a t, inv s → step s a = some t → inv t)
    {as : List α} {s t : σ} (hs : inv s) (hrun : run step s as = some t) : inv t := by
  induction as generalizing s with
  | nil =>
    cases hrun
    exact hs
  | cons a as ih =>
    obtain ⟨u, hu, hrest⟩ := run_cons_eq_some step hrun
    exact ih (keep s a u hs hu) hrest

/-- The invariant rule for runs of `ok` actions. -/
theorem invariant_of_reachableBy {ok : α → Prop} {inv : σ → Prop}
    (keep : ∀ s a t, inv s → ok a → step s a = some t → inv t) {s t : σ} (hs : inv s)
    (h : ReachableBy step ok s t) : inv t := by
  obtain ⟨as, hok, hrun⟩ := h
  induction as generalizing s with
  | nil =>
    cases hrun
    exact hs
  | cons a as ih =>
    obtain ⟨u, hu, hrest⟩ := run_cons_eq_some step hrun
    exact ih (keep s a u hs (hok a List.mem_cons_self) hu)
      (fun b hb => hok b (List.mem_cons_of_mem _ hb)) hrest

/-- The invariant rule for a relation between the actions taken and the state they
lead to. -/
theorem invariant_of_history {ok : σ → α → Prop} {inv : List α → σ → Prop}
    (keep : ∀ as s a t, inv as s → ok s a → step s a = some t → inv (as ++ [a]) t) :
    ∀ (bs : List α) {as : List α} {s t : σ}, inv as s → Along step ok s bs →
      run step s bs = some t → inv (as ++ bs) t := by
  intro bs
  induction bs with
  | nil =>
    intro as s t hs _ hrun
    cases hrun
    rw [List.append_nil]
    exact hs
  | cons b bs ih =>
    intro as s t hs hok hrun
    obtain ⟨u, hu, hrest⟩ := run_cons_eq_some step hrun
    rw [along_cons_of_step step hu] at hok
    have h := ih (keep as s b u hs hok.1 hu) hok.2 hrest
    rwa [List.append_assoc, List.singleton_append] at h

/-- The invariant rule for a relation between the observations made and the state
they lead to. -/
theorem invariant_of_observe {β : Type} {obs : σ → α → List β} {inv : List β → σ → Prop}
    (keep : ∀ seen s a t, inv seen s → step s a = some t → inv (seen ++ obs s a) t) :
    ∀ (as : List α) {seen : List β} {s t : σ}, inv seen s → run step s as = some t →
      inv (seen ++ observe step obs s as) t := by
  intro as
  induction as with
  | nil =>
    intro seen s t hs hrun
    cases hrun
    rw [observe, List.append_nil]
    exact hs
  | cons a as ih =>
    intro seen s t hs hrun
    obtain ⟨u, hu, hrest⟩ := run_cons_eq_some step hrun
    have h := ih (keep seen s a u hs hu) hrest
    rw [observe, hu, Option.elim_some, ← List.append_assoc]
    exact h

/-- What two observers see of each step, they see along the run. -/
theorem map_observe {β γ : Type} {f : β → γ} {obs : σ → α → List β} {obs' : σ → α → List γ}
    {inv : σ → Prop} (keep : ∀ s a t, inv s → step s a = some t → inv t)
    (obs_eq : ∀ s a t, inv s → step s a = some t → (obs s a).map f = obs' s a) :
    ∀ (as : List α) {s t : σ}, inv s → run step s as = some t →
      (observe step obs s as).map f = observe step obs' s as := by
  intro as
  induction as with
  | nil => exact fun _ _ => rfl
  | cons a as ih =>
    intro s t hs hrun
    obtain ⟨u, hu, hrest⟩ := run_cons_eq_some step hrun
    rw [observe, observe, hu, Option.elim_some, Option.elim_some, List.map_append,
      obs_eq s a u hs hu, ih (keep s a u hs hu) hrest]

theorem trace_eq_observe {β : Type} (obs : σ → α → Option β) (as : List α) (s : σ) :
    trace step obs s as = observe step (fun s a => (obs s a).toList) s as := by
  induction as generalizing s with
  | nil => rfl
  | cons a as ih =>
    rw [trace, observe]
    cases step s a with
    | none => rfl
    | some t => rw [Option.elim_some, Option.elim_some, ih]

/-- An observer who sees the actions alone. -/
theorem trace_eq_filterMap {β : Type} {obs : σ → α → Option β} {f : α → Option β}
    (obs_eq : ∀ s a t, step s a = some t → obs s a = f a) (as : List α) {s t : σ}
    (hrun : run step s as = some t) : trace step obs s as = as.filterMap f := by
  induction as generalizing s with
  | nil => rfl
  | cons a as ih =>
    obtain ⟨u, hu, hrest⟩ := run_cons_eq_some step hrun
    rw [trace, hu, Option.elim_some, ih hrest, obs_eq s a u hu, List.filterMap_cons]
    cases f a <;> rfl

/-- What an allowed step shows, everything seen along an allowed run is. -/
theorem forall_mem_trace {β : Type} {obs : σ → α → Option β} {ok : σ → α → Prop} {P : β → Prop}
    (shows : ∀ s a t x, ok s a → step s a = some t → obs s a = some x → P x) :
    ∀ (as : List α) {s t : σ}, Along step ok s as → run step s as = some t →
      ∀ x ∈ trace step obs s as, P x := by
  intro as
  induction as with
  | nil => exact fun _ _ x hx => absurd hx List.not_mem_nil
  | cons a as ih =>
    intro s t hok hrun x hx
    obtain ⟨u, hu, hrest⟩ := run_cons_eq_some step hrun
    rw [along_cons_of_step step hu] at hok
    rw [trace, hu, Option.elim_some, List.mem_append, Option.mem_toList] at hx
    rcases hx with hx | hx
    · exact shows s a u x hok.1 hu hx
    · exact ih hok.2 hrest x hx

theorem map_trace {β γ : Type} (f : β → γ) (obs : σ → α → Option β) (as : List α) (s : σ) :
    (trace step obs s as).map f = trace step (fun s a => (obs s a).map f) s as := by
  induction as generalizing s with
  | nil => rfl
  | cons a as ih =>
    rw [trace, trace, List.map_append, Option.toList_map]
    cases step s a with
    | none => rfl
    | some t => rw [Option.elim_some, Option.elim_some, ih]

/-- `invariant_of_observe` for an observer who sees at most one thing at a step. -/
theorem invariant_of_trace {β : Type} {obs : σ → α → Option β} {inv : List β → σ → Prop}
    (keep : ∀ seen s a t, inv seen s → step s a = some t → inv (seen ++ (obs s a).toList) t)
    (as : List α) {seen : List β} {s t : σ} (hs : inv seen s) (hrun : run step s as = some t) :
    inv (seen ++ trace step obs s as) t := by
  rw [trace_eq_observe]
  exact invariant_of_observe keep as hs hrun

/-- Two conditions on the steps that agree where the invariant holds. -/
theorem along_congr {ok ok' : σ → α → Prop} {inv : σ → Prop}
    (keep : ∀ s a t, inv s → step s a = some t → inv t)
    (ok_iff : ∀ s a t, inv s → step s a = some t → (ok s a ↔ ok' s a)) :
    ∀ (as : List α) {s t : σ}, inv s → run step s as = some t →
      (Along step ok s as ↔ Along step ok' s as) := by
  intro as
  induction as with
  | nil => exact fun _ _ => Iff.rfl
  | cons a as ih =>
    intro s t hs hrun
    obtain ⟨u, hu, hrest⟩ := run_cons_eq_some step hrun
    rw [along_cons_of_step step hu, along_cons_of_step step hu, ok_iff s a u hs hu,
      ih (keep s a u hs hu) hrest]

/-- The steps that fail are answered as they should be exactly when they are of the kind
that is. -/
theorem along_answered_iff {fails covered : σ → α → Prop} {answered : σ → σ → Prop}
    (answered_iff : ∀ s a t, step s a = some t → fails s a → (answered s t ↔ covered s a))
    (as : List α) {s t : σ} (hrun : run step s as = some t) :
    Along step (fun s a => fails s a → ∃ t, step s a = some t ∧ answered s t) s as ↔
      Along step (fun s a => fails s a → covered s a) s as := by
  have ok_iff : ∀ s a t, True → step s a = some t →
      ((fails s a → ∃ t, step s a = some t ∧ answered s t) ↔ (fails s a → covered s a)) := by
    intro s a t _ hstep
    refine forall_congr' fun hfails => ?_
    rw [← answered_iff s a t hstep hfails, hstep]
    simp
  exact along_congr (fun _ _ _ _ _ => trivial) ok_iff as trivial hrun

theorem prefixes_append_singleton {good : List α → σ → Prop} {s u t : σ} {as : List α} {a : α}
    (hrun : run step s as = some u) (hstep : step u a = some t) :
    Prefixes step good s (as ++ [a]) ↔ Prefixes step good s as ∧ good (as ++ [a]) t := by
  have hlast : run step s (as ++ [a]) = some t := by
    rw [run_append_of_run step hrun, run_cons_of_step step hstep, run_nil]
  constructor
  · intro h
    refine ⟨fun before after v hsplit hv => ?_, h (as ++ [a]) [] t (List.append_nil _).symm hlast⟩
    exact h before (after ++ [a]) v (by rw [hsplit, List.append_assoc]) hv
  · rintro ⟨hprees, hgood⟩ before after v hsplit hv
    rcases after.eq_nil_or_concat with rfl | ⟨rest, b, rfl⟩
    · rw [List.append_nil] at hsplit
      rw [← hsplit, hlast] at hv
      cases hv
      exact hsplit ▸ hgood
    · rw [List.concat_eq_append, ← List.append_assoc] at hsplit
      exact hprees before rest v (List.append_inj' hsplit rfl).1 hv

/-- Where a step from a good state leads to a good one exactly when its action may come
after those before it, a run comes through good states exactly when all its actions may. -/
theorem prefixes_iff_always_of_history {good inv : List α → σ → Prop}
    {R : List α → α → Prop} {s : σ}
    (keep : ∀ as u a t, inv as u → step u a = some t → inv (as ++ [a]) t)
    (good_iff : ∀ as u a t, inv as u → good as u → step u a = some t →
      (good (as ++ [a]) t ↔ R as a)) (hs : inv [] s) (hgood : good [] s) :
    ∀ (as : List α) {t : σ}, run step s as = some t →
      (Prefixes step good s as ↔ History.Always R as) := by
  intro as
  induction as using List.reverseRecOn with
  | nil =>
    intro t hrun
    cases hrun
    refine iff_of_true ?_ (History.always_nil R)
    intro before after t hsplit hrun
    obtain ⟨rfl, -⟩ := List.append_eq_nil_iff.mp hsplit.symm
    cases hrun
    exact hgood
  | append_singleton as a ih =>
    intro t hrun
    obtain ⟨u, hu, hstep⟩ := run_append_singleton_eq_some step hrun
    rw [prefixes_append_singleton hu hstep, History.always_append_singleton, ← ih hu]
    apply and_congr_right
    intro hprees
    have hnow : good as u := hprees as [] u (List.append_nil _).symm hu
    have hfree : Along step (fun _ _ => True) s as :=
      (along_iff_forall_mem step hu).mpr fun _ _ => trivial
    have hinv : inv ([] ++ as) u :=
      invariant_of_history (fun as u a t hu _ hstep => keep as u a t hu hstep) as hs hfree hu
    exact good_iff as u a t hinv hnow hstep

/-- The same with an invariant of the states alone. -/
theorem prefixes_iff_always {good : List α → σ → Prop} {inv : σ → Prop}
    {R : List α → α → Prop} {s : σ} (keep : ∀ u a t, inv u → step u a = some t → inv t)
    (good_iff : ∀ as u a t, inv u → good as u → step u a = some t →
      (good (as ++ [a]) t ↔ R as a)) (hs : inv s) (hgood : good [] s) :
    ∀ (as : List α) {t : σ}, run step s as = some t →
      (Prefixes step good s as ↔ History.Always R as) :=
  prefixes_iff_always_of_history (fun _ => keep) good_iff hs hgood

/-- Where a step keeps `good` exactly when it satisfies `ok`, a run ends in a good state
exactly when all its steps satisfy `ok`. -/
theorem along_iff {ok : σ → α → Prop} {inv good : σ → Prop}
    (keep : ∀ s a t, inv s → step s a = some t → inv t)
    (good_iff : ∀ s a t, inv s → step s a = some t → (good t ↔ good s ∧ ok s a)) :
    ∀ (as : List α) {s t : σ}, inv s → run step s as = some t →
      (good t ↔ good s ∧ Along step ok s as) := by
  intro as
  induction as with
  | nil =>
    intro s t _ hrun
    cases hrun
    simp
  | cons a as ih =>
    intro s t hs hrun
    obtain ⟨u, hu, hrest⟩ := run_cons_eq_some step hrun
    rw [ih (keep s a u hs hu) hrest, good_iff s a u hs hu, along_cons_of_step step hu, and_assoc]

/-- Where an allowed step from a good state leads to a good one exactly when it satisfies
`ok`, all states of an allowed run are good exactly when all its steps satisfy `ok`. -/
theorem throughout_iff_along_of_allowed {allowed ok : σ → α → Prop} {inv good : σ → Prop}
    (keep : ∀ s a t, inv s → allowed s a → step s a = some t → inv t)
    (good_iff : ∀ s a t, inv s → allowed s a → good s → step s a = some t → (good t ↔ ok s a)) :
    ∀ (as : List α) {s t : σ}, inv s → good s → Along step allowed s as →
      run step s as = some t → (Throughout step good s as ↔ Along step ok s as) := by
  intro as
  induction as with
  | nil => exact fun _ hgood _ _ => iff_of_true hgood trivial
  | cons a as ih =>
    intro s t hs hgood hallowed hrun
    obtain ⟨u, hu, hrest⟩ := run_cons_eq_some step hrun
    rw [along_cons_of_step step hu] at hallowed
    rw [along_cons_of_step step hu, Throughout, hu, Option.elim_some, and_iff_right hgood,
      ← good_iff s a u hs hallowed.1 hgood hu]
    have hs' := keep s a u hs hallowed.1 hu
    constructor
    · intro h
      have hnow : good u := by
        cases as with
        | nil => exact h
        | cons b bs => exact h.1
      exact ⟨hnow, (ih hs' hnow hallowed.2 hrest).mp h⟩
    · rintro ⟨hnow, h⟩
      exact (ih hs' hnow hallowed.2 hrest).mpr h

/-- The same where every step is allowed. -/
theorem throughout_iff_along {ok : σ → α → Prop} {inv good : σ → Prop}
    (keep : ∀ s a t, inv s → step s a = some t → inv t)
    (good_iff : ∀ s a t, inv s → good s → step s a = some t → (good t ↔ ok s a))
    (as : List α) {s t : σ} (hs : inv s) (hgood : good s) (hrun : run step s as = some t) :
    Throughout step good s as ↔ Along step ok s as := by
  have hallowed : Along step (fun _ _ => True) s as :=
    (along_iff_forall_mem step hrun).mpr fun _ _ => trivial
  exact throughout_iff_along_of_allowed (fun s a t hs _ => keep s a t hs)
    (fun s a t hs _ => good_iff s a t hs) as hs hgood hallowed hrun

/-- An allowed run comes through good states where the invariant makes them good. -/
theorem throughout_of_invariant {allowed : σ → α → Prop} {inv good : σ → Prop}
    (keep : ∀ s a t, inv s → allowed s a → step s a = some t → inv t)
    (good_of : ∀ s, inv s → good s) :
    ∀ (as : List α) {s t : σ}, inv s → Along step allowed s as → run step s as = some t →
      Throughout step good s as := by
  intro as
  induction as with
  | nil => exact fun hs _ _ => good_of _ hs
  | cons a as ih =>
    intro s t hs hallowed hrun
    obtain ⟨u, hu, hrest⟩ := run_cons_eq_some step hrun
    rw [along_cons_of_step step hu] at hallowed
    rw [Throughout, hu, Option.elim_some]
    exact ⟨good_of s hs, ih (keep s a u hs hallowed.1 hu) hallowed.2 hrest⟩

/-- A run through good states takes steps that are `ok`, where every allowed step from a
good state is. -/
theorem along_of_throughout {allowed ok : σ → α → Prop} {inv good : σ → Prop}
    (keep : ∀ s a t, inv s → allowed s a → step s a = some t → inv t)
    (good_ok : ∀ s a, inv s → good s → ok s a) :
    ∀ (as : List α) {s t : σ}, inv s → Along step allowed s as → run step s as = some t →
      Throughout step good s as → Along step ok s as := by
  intro as
  induction as with
  | nil => exact fun _ _ _ _ => trivial
  | cons a as ih =>
    intro s t hs hallowed hrun hgood
    obtain ⟨u, hu, hrest⟩ := run_cons_eq_some step hrun
    rw [along_cons_of_step step hu] at hallowed ⊢
    rw [Throughout, hu, Option.elim_some] at hgood
    exact ⟨good_ok s a hs hgood.1, ih (keep s a u hs hallowed.1 hu) hallowed.2 hrest hgood.2⟩

/-- What every step brings closer, and some step can. -/
theorem inevitable_of_decreasing {done inv : σ → Prop} (left : σ → Nat)
    (keep : ∀ s a t, inv s → step s a = some t → inv t ∧ left t < left s)
    (enabled : ∀ s, inv s → ¬ done s → ∃ a t, step s a = some t) {s : σ} (hs : inv s) :
    Inevitable step done s := by
  induction hn : left s using Nat.strongRecOn generalizing s with
  | ind n ih =>
    by_cases hdone : done s
    · exact .now hdone
    · apply Inevitable.later (enabled s hs hdone)
      intro a t hstep
      obtain ⟨ht, hlt⟩ := keep s a t hs hstep
      exact ih (left t) (hn ▸ hlt) ht rfl

/-- What some run keeps off for ever is not inevitable. -/
theorem not_inevitable_of_invariant {done inv : σ → Prop}
    (keep : ∀ s a t, inv s → step s a = some t → inv t) (not_done : ∀ s, inv s → ¬ done s)
    {s : σ} (hs : inv s) : ¬ Inevitable step done s := by
  intro h
  induction h with
  | now hdone => exact not_done _ hs hdone
  | later enabled _ ih =>
    obtain ⟨a, t, hstep⟩ := enabled
    exact ih a t hstep (keep _ a t hs hstep)

end Run

end Run
end Library
