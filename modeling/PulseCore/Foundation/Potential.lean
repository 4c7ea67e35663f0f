/-
# Potential arguments

A run takes one step after another, and each step may cost something. When what a
step costs is covered by a drop of some potential together with what the step is
charged, the cost of a whole run is covered by the potential it starts from and
its charges. With a cost of one for every step that makes progress this bounds
the length of a run; with the work of an operation as its cost it is an amortised
bound.
-/

import Mathlib.Algebra.Order.Ring.Nat
import Mathlib.Data.List.Basic
import Mathlib.Data.List.Perm.Basic

namespace PulseCore.Foundation

universe u v

variable {σ : Type u} {ι : Type v}

/-- What the steps of a run come to, each weighed in the state it is taken in. -/
def tally (step : σ → ι → σ) (weight : σ → ι → ℕ) : σ → List ι → ℕ
  | _, [] => 0
  | s, action :: actions => weight s action + tally step weight (step s action) actions

variable {step : σ → ι → σ} {cost charge : σ → ι → ℕ}

@[simp]
theorem tally_nil (s : σ) : tally step cost s [] = 0 := rfl

@[simp]
theorem tally_cons (s : σ) (action : ι) (actions : List ι) :
    tally step cost s (action :: actions) =
      cost s action + tally step cost (step s action) actions := rfl

@[simp]
theorem tally_zero (s : σ) (actions : List ι) : tally step (fun _ _ => 0) s actions = 0 := by
  induction actions generalizing s with
  | nil => rfl
  | cons action actions ih => rw [tally_cons, ih]

/-- The rule: every step is paid for by the rank it takes away and by what it is
charged. -/
theorem tally_le_of_rank (rank : σ → ℕ → Prop)
    (hstep : ∀ s n action, rank s n →
      ∃ n', rank (step s action) n' ∧ cost s action + n' ≤ n + charge s action)
    {s : σ} {n : ℕ} (hs : rank s n) (actions : List ι) :
    ∃ n', rank (actions.foldl step s) n' ∧
      tally step cost s actions + n' ≤ n + tally step charge s actions := by
  induction actions generalizing s n with
  | nil => exact ⟨n, hs, by rw [tally_nil, tally_nil, Nat.zero_add, Nat.add_zero]⟩
  | cons action actions ih =>
      obtain ⟨middle, hmiddle, hfirst⟩ := hstep s n action hs
      obtain ⟨n', hn', hrest⟩ := ih hmiddle
      refine ⟨n', hn', ?_⟩
      rw [tally_cons, tally_cons]
      omega

/-- The rule for a potential that is a function of the state, under an invariant. -/
theorem tally_le_of_potential (inv : σ → Prop) (potential : σ → ℕ)
    (hinv : ∀ s action, inv s → inv (step s action))
    (hstep : ∀ s action, inv s →
      cost s action + potential (step s action) ≤ potential s + charge s action)
    {s : σ} (hs : inv s) (actions : List ι) :
    tally step cost s actions + potential (actions.foldl step s) ≤
      potential s + tally step charge s actions := by
  obtain ⟨n', ⟨-, rfl⟩, hpaid⟩ := tally_le_of_rank (fun s n => inv s ∧ potential s = n)
    (fun s n action hs => ⟨_, ⟨hinv s action hs.1, rfl⟩, hs.2 ▸ hstep s action hs.1⟩)
    ⟨hs, rfl⟩ actions
  exact hpaid

/-- The converse reading: as long as some allowed step lowers the potential, the goal is
reached in that many steps. -/
theorem exists_run_to (inv goal : σ → Prop) (allowed : ι → Prop) (potential : σ → ℕ)
    (hstep : ∀ s, inv s → ¬ goal s →
      ∃ action, allowed action ∧ inv (step s action) ∧ potential (step s action) < potential s)
    {s : σ} (hs : inv s) :
    ∃ actions : List ι, actions.length ≤ potential s ∧ (∀ action ∈ actions, allowed action) ∧
      inv (actions.foldl step s) ∧ goal (actions.foldl step s) := by
  generalize hn : potential s = n
  induction n using Nat.strong_induction_on generalizing s with
  | _ n ih =>
      by_cases hgoal : goal s
      · exact ⟨[], Nat.zero_le _, List.forall_mem_nil _, hs, hgoal⟩
      · obtain ⟨action, hallowed, hinv, hless⟩ := hstep s hs hgoal
        obtain ⟨actions, hlength, hall, hend⟩ := ih _ (hn ▸ hless) hinv rfl
        refine ⟨action :: actions, ?_, List.forall_mem_cons.mpr ⟨hallowed, hall⟩, hend⟩
        rw [List.length_cons]
        omega

variable {α : Type u} {parts : List α} {i : ℕ} {old : α}

/-- When one part is replaced, the potential of all changes by that of this one. -/
theorem sum_map_set_add (weight : α → ℕ) (hold : parts[i]? = some old) (new : α) :
    ((parts.set i new).map weight).sum + weight old = (parts.map weight).sum + weight new := by
  obtain ⟨hi, rfl⟩ := List.getElem?_eq_some_iff.mp hold
  have hset := ((List.set_perm_cons_eraseIdx hi new).map weight).sum_nat
  have hget := ((List.getElem_cons_eraseIdx_perm hi).map weight).sum_nat
  rw [List.map_cons, List.sum_cons] at hset hget
  omega

/-- The same for the number of parts of some kind. -/
theorem countP_set_add (p : α → Bool) (hold : parts[i]? = some old) (new : α) :
    (parts.set i new).countP p + (p old).toNat = parts.countP p + (p new).toNat := by
  have hcount : ∀ l : List α, l.countP p = (l.map fun part => (p part).toNat).sum := by
    intro l
    induction l with
    | nil => rfl
    | cons part l ih =>
        rw [List.countP_cons, List.map_cons, List.sum_cons, ih, Nat.add_comm]
        cases p part <;> rfl
  rw [hcount, hcount]
  exact sum_map_set_add (fun part => (p part).toNat) hold new

end PulseCore.Foundation
