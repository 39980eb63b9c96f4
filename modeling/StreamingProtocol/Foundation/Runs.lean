import Mathlib.Init

/-!
# Runs

The states that a deterministic system reaches when it is given inputs one after the other, each
meeting a condition in the state in which it arrives. An invariant holds in all of them. A system
simulates a more abstract one if it shows, after each input, a state that the abstract system can
reach by some inputs of its own.

## Main definitions

* `ReachedBy`.
* `Simulation`.

## Main results

* `ReachedBy.invariant`.
* `Simulation.exists_reached`.
-/

variable {σ ι : Type}

/-- The states reached from `init` by inputs that are allowed when they arrive. -/
inductive ReachedBy (step : σ → ι → σ) (allowed : σ → ι → Prop) (init : σ) : σ → Prop
  | init : ReachedBy step allowed init init
  | step {s : σ} (i : ι) (hs : ReachedBy step allowed init s) (hi : allowed s i) :
      ReachedBy step allowed init (step s i)

namespace ReachedBy

variable {step : σ → ι → σ} {allowed allowed' : σ → ι → Prop} {init s : σ}

/-- What holds initially and is kept by every allowed input holds in every state reached. -/
theorem invariant {Inv : σ → Prop} (hinit : Inv init)
    (hstep : ∀ s i, Inv s → allowed s i → Inv (step s i)) (h : ReachedBy step allowed init s) :
    Inv s := by
  induction h with
  | init => exact hinit
  | step i hs hi ih => exact hstep _ i ih hi

/-- Each of the inputs is allowed in the state in which it arrives. -/
def AllowedAlong (step : σ → ι → σ) (allowed : σ → ι → Prop) : σ → List ι → Prop
  | _, [] => True
  | s, i :: inputs => allowed s i ∧ AllowedAlong step allowed (step s i) inputs

instance decidableAllowedAlong [∀ s i, Decidable (allowed s i)] (inputs : List ι) (s : σ) :
    Decidable (AllowedAlong step allowed s inputs) :=
  match inputs with
  | [] => isTrue trivial
  | i :: inputs =>
      have := decidableAllowedAlong inputs (step s i)
      inferInstanceAs (Decidable (allowed s i ∧ AllowedAlong step allowed (step s i) inputs))

theorem allowedAlong_append (l l' : List ι) (s : σ) :
    AllowedAlong step allowed s (l ++ l') ↔
      AllowedAlong step allowed s l ∧ AllowedAlong step allowed (l.foldl step s) l' := by
  induction l generalizing s with
  | nil => exact (and_iff_right trivial).symm
  | cons i l ih =>
    rw [List.cons_append, AllowedAlong, AllowedAlong, ih, List.foldl_cons, and_assoc]

/-- Two conditions that agree as long as an invariant holds. -/
theorem allowedAlong_congr {Inv : σ → Prop} (hinv : Inv s)
    (hstep : ∀ s i, Inv s → Inv (step s i))
    (hallowed : ∀ s i, Inv s → (allowed s i ↔ allowed' s i)) (inputs : List ι) :
    AllowedAlong step allowed s inputs ↔ AllowedAlong step allowed' s inputs := by
  induction inputs generalizing s with
  | nil => exact Iff.rfl
  | cons i inputs ih => exact and_congr (hallowed s i hinv) (ih (hstep s i hinv))

/-- Inputs that are allowed reach the state that they are folded to. -/
theorem foldl (h : ReachedBy step allowed init s) (inputs : List ι)
    (hinputs : AllowedAlong step allowed s inputs) :
    ReachedBy step allowed init (inputs.foldl step s) := by
  induction inputs generalizing s with
  | nil => exact h
  | cons i inputs ih => exact ih (.step i h hinputs.1) hinputs.2

/-- Inputs without a condition are allowed. -/
theorem allowedAlong_of_forall (hallowed : ∀ s i, allowed s i) (inputs : List ι) (s : σ) :
    AllowedAlong step allowed s inputs := by
  induction inputs generalizing s with
  | nil => trivial
  | cons i inputs ih => exact ⟨hallowed s i, ih (step s i)⟩

end ReachedBy

/-- A system that shows the states of an abstract system. Each input makes a number of steps of the
abstract system, which may be none. -/
structure Simulation {τ κ : Type} (step : σ → ι → σ) (allowed : σ → ι → Prop) (init : σ)
    (step' : τ → κ → τ) (allowed' : τ → κ → Prop) (init' : τ) where
  Shows : σ → τ → Prop
  shows_init : Shows init init'
  shows_step {s : σ} {t : τ} {i : ι} : Shows s t → allowed s i →
    ∃ inputs, ReachedBy.AllowedAlong step' allowed' t inputs ∧
      Shows (step s i) (inputs.foldl step' t)

/-- Every state that is reached shows one that the abstract system reaches. -/
theorem Simulation.exists_reached {τ κ : Type} {step : σ → ι → σ} {allowed : σ → ι → Prop}
    {init s : σ} {step' : τ → κ → τ} {allowed' : τ → κ → Prop} {init' : τ}
    (S : Simulation step allowed init step' allowed' init') (h : ReachedBy step allowed init s) :
    ∃ t, ReachedBy step' allowed' init' t ∧ S.Shows s t := by
  induction h with
  | init => exact ⟨init', .init, S.shows_init⟩
  | step i hs hi ih =>
    obtain ⟨t, ht, hshows⟩ := ih
    obtain ⟨inputs, hinputs, hshows⟩ := S.shows_step hshows hi
    exact ⟨_, ht.foldl inputs hinputs, hshows⟩
