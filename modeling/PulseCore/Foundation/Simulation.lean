/-
# Simulations with stuttering

Two systems are given by their step functions, and a state of the first one is
looked at as a state of the second. When every step of the first looks like a step
of the second or like nothing at all, every run looks like a run, and what holds
after every run of the second system holds of what is seen of the first.
-/

import Mathlib.Data.List.Basic

namespace PulseCore.Foundation

universe u v

variable {σ τ : Type u} {ι κ : Type v}

/-- A step looks like at most one step. -/
def Simulates (step : σ → ι → σ) (step' : τ → κ → τ) (view : σ → τ) : Prop :=
  ∀ s action, view (step s action) = view s ∨
    ∃ action', view (step s action) = step' (view s) action'

variable {step : σ → ι → σ} {step' : τ → κ → τ} {view : σ → τ}

/-- Every run looks like a run that is no longer. -/
theorem Simulates.exists_run (h : Simulates step step' view) (s : σ) (actions : List ι) :
    ∃ actions' : List κ, actions'.length ≤ actions.length ∧
      view (actions.foldl step s) = actions'.foldl step' (view s) := by
  induction actions generalizing s with
  | nil => exact ⟨[], Nat.le_refl _, rfl⟩
  | cons action actions ih =>
      obtain ⟨actions', hlength, hview⟩ := ih (step s action)
      rcases h s action with hsame | ⟨action', hstep⟩
      · refine ⟨actions', Nat.le_succ_of_le hlength, ?_⟩
        rw [List.foldl_cons, hview, hsame]
      · refine ⟨action' :: actions', Nat.succ_le_succ hlength, ?_⟩
        rw [List.foldl_cons, List.foldl_cons, hview, hstep]

/-- What every step of the second system keeps holds of what is seen of the first. -/
theorem Simulates.invariant (h : Simulates step step' view) (inv : τ → Prop)
    (hinv : ∀ t action, inv t → inv (step' t action)) {s : σ} (hs : inv (view s))
    (actions : List ι) : inv (view (actions.foldl step s)) := by
  obtain ⟨actions', -, hview⟩ := h.exists_run s actions
  rw [hview]
  exact List.foldlRecOn actions' step' hs fun t ht action _ => hinv t action ht

end PulseCore.Foundation
