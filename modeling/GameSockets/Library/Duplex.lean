/-
Two parties that write to each other through bounded buffers, each of which reads
only while it has nothing to write.

Such a pair can jam: both parties have more to write than their buffers still take,
so neither finishes and neither reads.  A pair that is not jammed makes progress, and
it jams only when a party begins a write that does not fit while the other already
has one that does not.
-/
import GameSockets.Library.Run
import Mathlib.Logic.Function.Basic

namespace Library
namespace Duplex

/-- One direction: what its writer has still to write, and what its buffer holds. -/
@[ext]
structure Lane where
  unsent : Nat
  buffered : Nat

inductive Move where
  | idle
  /-- begin to write `n` units -/
  | start (n : Nat)
  | write (n : Nat)
  | read (n : Nat)
  /-- drop what is still to be written -/
  | giveUp

/-- A party moves: its own lane, and what the lane towards it holds. -/
def partyStep (cap : Nat) (own : Lane) (incoming : Nat) : Move → Option (Lane × Nat)
  | .idle => some (own, incoming)
  | .start n => if own.unsent = 0 then some ({ own with unsent := n }, incoming) else none
  | .write n =>
    if 0 < n ∧ n ≤ own.unsent ∧ own.buffered + n ≤ cap then
      some ({ unsent := own.unsent - n, buffered := own.buffered + n }, incoming)
    else none
  | .read n => if own.unsent = 0 ∧ 0 < n ∧ n ≤ incoming then some (own, incoming - n) else none
  | .giveUp => some ({ own with unsent := 0 }, incoming)

section Party

variable {cap incoming n : Nat} {own : Lane}

theorem partyStep_start (h : own.unsent = 0) :
    partyStep cap own incoming (.start n) = some ({ own with unsent := n }, incoming) := if_pos h

theorem partyStep_write (hpos : 0 < n) (hle : n ≤ own.unsent) (hroom : own.buffered + n ≤ cap) :
    partyStep cap own incoming (.write n) =
      some ({ unsent := own.unsent - n, buffered := own.buffered + n }, incoming) :=
  if_pos ⟨hpos, hle, hroom⟩

theorem partyStep_read (h : own.unsent = 0) (hpos : 0 < n) :
    partyStep cap own (n + incoming) (.read n) = some (own, incoming) := by
  rw [partyStep, if_pos ⟨h, hpos, Nat.le_add_right _ _⟩, Nat.add_sub_cancel_left]

end Party

section Pair

variable (cap : Bool → Nat)

/-- The lanes that the two parties write to. -/
def step (s : Bool → Lane) (b : Bool) (m : Move) : Option (Bool → Lane) :=
  (partyStep (cap b) (s b) (s (!b)).buffered m).map fun (own, incoming) =>
    fun c => if c = b then own else { s c with buffered := incoming }

/-- The writer of a lane has more to write than the buffer still takes. -/
def Overfull (s : Bool → Lane) (b : Bool) : Prop := cap b < (s b).buffered + (s b).unsent

def Jammed (s : Bool → Lane) : Prop := ∀ b, Overfull cap s b

def Bounded (s : Bool → Lane) : Prop := ∀ b, (s b).buffered ≤ cap b

variable {cap} {s t : Bool → Lane} {b : Bool} {m : Move}

/-- What one step does to the lane of the party that moves, and to the other. -/
theorem step_cases (h : step cap s b m = some t) :
    t b = s b ∧ t (!b) = s (!b) ∨
      (∃ n, m = .start n ∧ (s b).unsent = 0 ∧ (t b).unsent = n ∧ (t b).buffered = (s b).buffered ∧
        t (!b) = s (!b)) ∨
      ((t b).buffered + (t b).unsent = (s b).buffered + (s b).unsent ∧
        (t b).buffered ≤ cap b ∧ t (!b) = s (!b)) ∨
      ((s b).unsent = 0 ∧ t b = s b ∧ (t (!b)).unsent = (s (!b)).unsent ∧
        (t (!b)).buffered ≤ (s (!b)).buffered) ∨
      m = .giveUp ∧ (t b).unsent = 0 ∧ (t b).buffered = (s b).buffered ∧ t (!b) = s (!b) := by
  obtain ⟨⟨own, incoming⟩, hparty, rfl⟩ := Option.map_eq_some_iff.mp h
  have hne : (!b) ≠ b := by
    cases b <;> simp
  simp only [↓reduceIte, if_neg hne]
  cases m with
  | idle =>
    cases hparty
    exact Or.inl ⟨rfl, rfl⟩
  | start n =>
    simp only [partyStep] at hparty
    split at hparty
    · next hzero =>
      cases hparty
      exact Or.inr (Or.inl ⟨n, rfl, hzero, rfl, rfl, rfl⟩)
    · cases hparty
  | write n =>
    simp only [partyStep] at hparty
    split at hparty
    · next hcond =>
      cases hparty
      refine Or.inr (Or.inr (Or.inl ⟨?_, hcond.2.2, rfl⟩))
      show (s b).buffered + n + ((s b).unsent - n) = _
      omega
    · cases hparty
  | read n =>
    simp only [partyStep] at hparty
    split at hparty
    · next hcond =>
      cases hparty
      exact Or.inr (Or.inr (Or.inr (Or.inl ⟨hcond.1, rfl, trivial, Nat.sub_le _ _⟩)))
    · cases hparty
  | giveUp =>
    cases hparty
    exact Or.inr (Or.inr (Or.inr (Or.inr ⟨rfl, rfl, rfl, rfl⟩)))

theorem bool_cases (b c : Bool) : c = b ∨ c = !b := by
  cases b <;> cases c <;> simp

theorem bounded_step (hs : Bounded cap s) (h : step cap s b m = some t) : Bounded cap t := by
  intro c
  have hb := hs b
  have hb' := hs (!b)
  rcases step_cases h with ⟨h₁, h₂⟩ | ⟨n, -, -, -, h₁, h₂⟩ | ⟨-, h₁, h₂⟩ | ⟨-, h₁, -, h₂⟩ |
      ⟨-, -, h₁, h₂⟩ <;>
    rcases bool_cases b c with rfl | rfl
  · rwa [h₁]
  · rwa [h₂]
  · rwa [h₁]
  · rwa [h₂]
  · exact h₁
  · rwa [h₂]
  · rwa [h₁]
  · exact Nat.le_trans h₂ hb'
  · rwa [h₁]
  · rwa [h₂]

/-- A jammed pair stays jammed until a party gives up. -/
theorem jammed_step (hs : Bounded cap s) (hjam : Jammed cap s) (h : step cap s b m = some t)
    (hm : m ≠ .giveUp) : Jammed cap t := by
  intro c
  have hb := hs b
  have hfull := hjam b
  have hfull' := hjam (!b)
  unfold Overfull at hfull hfull' ⊢
  rcases step_cases h with ⟨h₁, h₂⟩ | ⟨n, -, hzero, -⟩ | ⟨h₁, -, h₂⟩ | ⟨hzero, -⟩ | ⟨hgive, -⟩
  · rcases bool_cases b c with rfl | rfl
    · rwa [h₁]
    · rwa [h₂]
  · omega
  · rcases bool_cases b c with rfl | rfl
    · rwa [h₁]
    · rwa [h₂]
  · omega
  · exact absurd hgive hm

/-- A pair jams only when a party begins a write that does not fit while the other
has one that does not. -/
theorem not_jammed_step (hs : Bounded cap s) (hjam : ¬ Jammed cap s)
    (h : step cap s b m = some t)
    (hstart : ∀ n, m = .start n → Overfull cap s (!b) → (s b).buffered + n ≤ cap b) :
    ¬ Jammed cap t := by
  intro hjam'
  have hb := hs b
  have hfull := hjam' b
  have hfull' := hjam' (!b)
  unfold Overfull at hfull hfull' hstart
  refine hjam fun c => ?_
  unfold Overfull
  rcases step_cases h with ⟨h₁, h₂⟩ | ⟨n, hm, -, hn, h₁, h₂⟩ | ⟨h₁, -, h₂⟩ | ⟨hzero, h₁, -⟩ |
      ⟨-, hzero, h₁, -⟩
  · rcases bool_cases b c with rfl | rfl
    · rwa [← h₁]
    · rwa [← h₂]
  · rw [h₂] at hfull'
    have hfits := hstart n hm hfull'
    omega
  · rcases bool_cases b c with rfl | rfl
    · rwa [← h₁]
    · rwa [← h₂]
  · rw [h₁] at hfull
    omega
  · omega

/-- Unless it is jammed, a pair with anything left to write or to read has a party that
can write or read. -/
theorem progress (hcap : ∀ b, 0 < cap b) (hs : Bounded cap s) (hjam : ¬ Jammed cap s)
    (hwork : ∃ b, 0 < (s b).unsent ∨ 0 < (s b).buffered) :
    ∃ b, 0 < (s b).unsent ∧ (s b).buffered < cap b ∨
      (s b).unsent = 0 ∧ 0 < (s (!b)).buffered := by
  by_contra hnone
  simp only [not_exists, not_or, not_and, Nat.not_lt, Nat.le_zero_eq] at hnone
  -- a party with anything to write faces a full buffer, which the other does not read
  have blocked : ∀ b, 0 < (s b).unsent → (s b).buffered = cap b ∧ 0 < (s (!b)).unsent := by
    intro b hb
    have hfull : (s b).buffered = cap b := Nat.le_antisymm (hs b) ((hnone b).1 hb)
    have hread := (hnone (!b)).2
    rw [Bool.not_not] at hread
    have hpos := hcap b
    refine ⟨hfull, Nat.pos_of_ne_zero fun hzero => ?_⟩
    have := hread hzero
    omega
  have jam : ∀ b, 0 < (s b).unsent → False := by
    intro b hb
    obtain ⟨hfull, hother⟩ := blocked b hb
    obtain ⟨hfull', -⟩ := blocked (!b) hother
    refine hjam fun c => ?_
    unfold Overfull
    rcases bool_cases b c with rfl | rfl <;> omega
  obtain ⟨b, hb | hb⟩ := hwork
  · exact jam b hb
  · have hread := (hnone (!b)).2
    rw [Bool.not_not] at hread
    rcases Nat.eq_zero_or_pos (s (!b)).unsent with hzero | hpos
    · have := hread hzero
      omega
    · exact jam (!b) hpos

end Pair

end Duplex
end Library
