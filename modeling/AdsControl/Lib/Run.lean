import Mathlib

/-!
# Runs of a transition system

`Reachable S` are the states a run of `S` can visit.

* `Reachable.invariant`: an inductive predicate holds in every reachable state;
* `Reachable.run_mono`: a relation every step respects relates the ends of every run.
-/

namespace Transition

/-- A transition system: initial states and steps. -/
structure System (σ : Type) where
  init : σ → Prop
  step : σ → σ → Prop

variable {σ : Type} {S : System σ}

/-- The states visited by the runs of `S`. -/
inductive Reachable (S : System σ) : σ → Prop
  | init {s : σ} (h : S.init s) : Reachable S s
  | step {s t : σ} (hs : Reachable S s) (h : S.step s t) : Reachable S t

/-- **An inductive predicate holds in every reachable state.** -/
theorem Reachable.invariant {P : σ → Prop} (hinit : ∀ s, S.init s → P s)
    (hstep : ∀ s t, P s → S.step s t → P t) {s : σ} (h : Reachable S s) : P s := by
  induction h with
  | init h => exact hinit _ h
  | step _ h ih => exact hstep _ _ ih h

/-- A relation that every step between states satisfying the invariant `P` respects relates the two
ends of every run. -/
theorem Reachable.run_mono {P : σ → Prop} {R : σ → σ → Prop} (hinv : ∀ s t, P s → S.step s t → P t)
    (hrefl : ∀ s, R s s) (htrans : ∀ s t u, R s t → R t u → R s u)
    (hstep : ∀ s t, P s → S.step s t → R s t) {s t : σ} (hs : P s)
    (h : Relation.ReflTransGen S.step s t) : R s t := by
  have key : P t ∧ R s t := by
    induction h with
    | refl => exact ⟨hs, hrefl s⟩
    | tail _ h ih => exact ⟨hinv _ _ ih.1 h, htrans _ _ _ ih.2 (hstep _ _ ih.1 h)⟩
  exact key.2

/-- A run from a reachable state leads to reachable states. -/
theorem Reachable.of_run {s t : σ} (hs : Reachable S s) (h : Relation.ReflTransGen S.step s t) : Reachable S t := by
  induction h with
  | refl => exact hs
  | tail _ h ih => exact .step ih h

end Transition
