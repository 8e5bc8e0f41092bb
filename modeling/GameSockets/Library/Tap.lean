/-
A machine whose log another one takes down.

The source runs as it would alone.  What a step adds to its log is put into the sink within the
step, and the sink goes on by itself at any time between the steps.
-/
import GameSockets.Library.Run

namespace Library

structure Tap (σ α β τ γ : Type) where
  source : σ → α → Option σ
  log : σ → List β
  sink : τ → γ → Option τ
  put : β → γ
  /-- what the sink may do by itself while the source is in a state -/
  may : σ → γ → Bool

namespace Tap

inductive Act (α γ : Type) where
  | source (a : α)
  | sink (c : γ)

variable {σ α β τ γ : Type}

def sources (as : List (Act α γ)) : List α :=
  as.filterMap fun
    | .source a => some a
    | .sink _ => none

def sinks (as : List (Act α γ)) : List γ :=
  as.filterMap fun
    | .source _ => none
    | .sink c => some c

variable (T : Tap σ α β τ γ)

/-- What is logged between two states. -/
def news (s t : σ) : List β := (T.log t).drop (T.log s).length

def step (x : σ × τ) : Act α γ → Option (σ × τ)
  | .source a =>
    (T.source x.1 a).bind fun s =>
      (Run.run T.sink x.2 ((T.news x.1 s).map T.put)).map fun t => (s, t)
  | .sink c => if T.may x.1 c then (T.sink x.2 c).map fun t => (x.1, t) else none

/-- The log only grows. -/
def Grows : Prop := ∀ s a t, T.source s a = some t → T.log s <+: T.log t

variable {T}

theorem log_append_news {s t : σ} (h : T.log s <+: T.log t) :
    T.log s ++ T.news s t = T.log t := by
  obtain ⟨new, hnew⟩ := h
  rw [news, ← hnew, List.drop_left]

theorem news_eq_nil {s t : σ} (h : T.log t = T.log s) : T.news s t = [] := by
  rw [news, h, List.drop_length]

/-- A step of the source, or a step of the sink that it may take. -/
theorem step_cases {x y : σ × τ} {a : Act α γ} (h : T.step x a = some y) :
    (∃ b, a = .source b ∧ T.source x.1 b = some y.1 ∧
      Run.run T.sink x.2 ((T.news x.1 y.1).map T.put) = some y.2) ∨
      ∃ c, a = .sink c ∧ T.may x.1 c = true ∧ y.1 = x.1 ∧ T.sink x.2 c = some y.2 := by
  cases a with
  | source b =>
    obtain ⟨s, hs, h⟩ := Option.bind_eq_some_iff.mp h
    obtain ⟨t, ht, rfl⟩ := Option.map_eq_some_iff.mp h
    exact Or.inl ⟨b, rfl, hs, ht⟩
  | sink c =>
    simp only [step] at h
    split at h
    · next hmay =>
      obtain ⟨t, ht, rfl⟩ := Option.map_eq_some_iff.mp h
      exact Or.inr ⟨c, rfl, hmay, rfl, ht⟩
    · cases h

theorem step_source {x : σ × τ} {b : α} {s : σ} {t : τ} (hs : T.source x.1 b = some s)
    (ht : Run.run T.sink x.2 ((T.news x.1 s).map T.put) = some t) :
    T.step x (.source b) = some (s, t) := by
  simp only [step, hs, ht, Option.bind_some, Option.map_some]

theorem step_sink {x : σ × τ} {c : γ} {t : τ} (hmay : T.may x.1 c = true)
    (ht : T.sink x.2 c = some t) : T.step x (.sink c) = some (x.1, t) := by
  rw [step, if_pos hmay, ht]
  rfl

/-- The source takes the same run without the sink. -/
theorem run_sources {x y : σ × τ} {as : List (Act α γ)} (h : Run.run T.step x as = some y) :
    Run.run T.source x.1 (sources as) = some y.1 := by
  induction as generalizing x with
  | nil =>
    cases h
    rfl
  | cons a as ih =>
    obtain ⟨z, hz, hrest⟩ := Run.run_cons_eq_some T.step h
    rcases step_cases hz with ⟨b, rfl, hsource, -⟩ | ⟨c, rfl, -, hsame, -⟩
    · exact (Run.run_cons_of_step T.source hsource _).trans (ih hrest)
    · exact hsame ▸ ih hrest

/-- The invariant rule for the sink and the log that it has taken down. -/
theorem invariant_of_log {inv : List β → τ → Prop} (hgrows : T.Grows)
    (hput : ∀ log t b u, inv log t → T.sink t (T.put b) = some u → inv (log ++ [b]) u)
    (hown : ∀ log s t c u, inv log t → T.may s c = true → T.sink t c = some u → inv log u)
    {x y : σ × τ} {as : List (Act α γ)} (hx : inv (T.log x.1) x.2)
    (h : Run.run T.step x as = some y) : inv (T.log y.1) y.2 := by
  have puts : ∀ (new : List β) {log : List β} {t u : τ}, inv log t →
      Run.run T.sink t (new.map T.put) = some u → inv (log ++ new) u := by
    intro new
    induction new with
    | nil =>
      intro log t u ht hu
      cases hu
      rwa [List.append_nil]
    | cons b new ih =>
      intro log t u ht hu
      obtain ⟨v, hv, hrest⟩ := Run.run_cons_eq_some T.sink hu
      have h := ih (hput log t b v ht hv) hrest
      rwa [List.append_assoc, List.singleton_append] at h
  have keep : ∀ (x : σ × τ) (a : Act α γ) (y : σ × τ), inv (T.log x.1) x.2 →
      T.step x a = some y → inv (T.log y.1) y.2 := by
    intro x a y hx hstep
    rcases step_cases hstep with ⟨b, rfl, hsource, hsink⟩ | ⟨c, rfl, hmay, hsame, hsink⟩
    · rw [← log_append_news (hgrows _ _ _ hsource)]
      exact puts _ hx hsink
    · rw [hsame]
      exact hown _ _ _ _ _ hx hmay hsink
  exact Run.invariant_of_run keep hx h

/-- The invariant rule for the sink alone, when every step that it takes by itself is `ok`. -/
theorem invariant_of_sinks {inv : τ → Prop} {ok : γ → Prop}
    (hput : ∀ t b u, inv t → T.sink t (T.put b) = some u → inv u)
    (hown : ∀ t c u, inv t → ok c → T.sink t c = some u → inv u) {x y : σ × τ}
    {as : List (Act α γ)} (hok : ∀ c ∈ sinks as, ok c) (hx : inv x.2)
    (h : Run.run T.step x as = some y) : inv y.2 := by
  have keep : ∀ t c u, inv t → (∃ b, T.put b = c) → T.sink t c = some u → inv u := by
    rintro t c u ht ⟨b, rfl⟩ hu
    exact hput t b u ht hu
  induction as generalizing x with
  | nil =>
    cases h
    exact hx
  | cons a as ih =>
    obtain ⟨z, hz, hrest⟩ := Run.run_cons_eq_some T.step h
    rcases step_cases hz with ⟨b, rfl, -, hsink⟩ | ⟨c, rfl, -, -, hsink⟩
    · refine ih hok (Run.invariant keep _ hx ?_ hsink) hrest
      refine (Run.along_iff_forall_mem T.sink hsink).mpr fun c hc => ?_
      obtain ⟨b, -, hb⟩ := List.mem_map.mp hc
      exact ⟨b, hb⟩
    · exact ih (fun c hc => hok c (List.mem_cons_of_mem _ hc))
        (hown _ _ _ hx (hok c List.mem_cons_self) hsink) hrest

/-- Once the source logs nothing any more, the sink takes no more steps than it has left. -/
theorem length_sinks_le {quiet : σ → Prop} {left : τ → Nat}
    (hquiet : ∀ s a t, quiet s → T.source s a = some t → quiet t ∧ T.log t = T.log s)
    (hleft : ∀ s t c u, quiet s → T.may s c = true → T.sink t c = some u → left u < left t)
    {x y : σ × τ} {as : List (Act α γ)} (hx : quiet x.1) (h : Run.run T.step x as = some y) :
    quiet y.1 ∧ (sinks as).length + left y.2 ≤ left x.2 := by
  induction as generalizing x with
  | nil =>
    cases h
    exact ⟨hx, Nat.le_of_eq (Nat.zero_add _)⟩
  | cons a as ih =>
    obtain ⟨z, hz, hrest⟩ := Run.run_cons_eq_some T.step h
    rcases step_cases hz with ⟨b, rfl, hsource, hsink⟩ | ⟨c, rfl, hmay, hsame, hsink⟩
    · obtain ⟨hz', hlog⟩ := hquiet _ _ _ hx hsource
      rw [news_eq_nil hlog, List.map_nil, Run.run_nil, Option.some.injEq] at hsink
      rw [hsink]
      exact ih hz' hrest
    · obtain ⟨hy, hle⟩ := ih (hsame ▸ hx) hrest
      have hlt := hleft _ _ _ _ hx hmay hsink
      refine ⟨hy, ?_⟩
      show (sinks as).length + 1 + left y.2 ≤ left x.2
      omega

end Tap
end Library
