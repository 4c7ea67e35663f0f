/-
# Scopes

An object is constructed part by part. A part that has been constructed comes with what
destroys it, and when a later one throws, the parts before it are destroyed, the last one
first, and the exception goes on. An object that is complete is destroyed in the same
order. A function with local objects is no different: it hands out the ones it returns.

A construction restores a state when nothing is left of it: behind an exception, and
behind the destruction of what it has built. It is explained when every exception has a
cause. Both are properties of the parts: in whatever way they are put together, they hold
of the whole when they hold of each.
-/

import Mathlib.Logic.Basic

namespace PulseCore.Foundation

universe u

variable {ε σ α β : Type u}

/-- A value, and what destroys it. -/
structure Built (σ α : Type u) where
  value : α
  destroy : σ → σ

/-- A construction throws and leaves a state, or it builds something. -/
def Scoped (ε σ α : Type u) : Type u := σ → EStateM.Result ε σ (Built σ α)

namespace Scoped

/-- Nothing to destroy. -/
def pure (value : α) : Scoped ε σ α := fun s => .ok ⟨value, id⟩ s

/-- One part, and the parts behind it. -/
def bind (first : Scoped ε σ α) (rest : α → Scoped ε σ β) : Scoped ε σ β := fun s =>
  match first s with
  | .error exception s => .error exception s
  | .ok part s =>
      match rest part.value s with
      | .error exception s => .error exception (part.destroy s)
      | .ok whole s => .ok ⟨whole.value, fun s => part.destroy (whole.destroy s)⟩ s

instance : Monad (Scoped ε σ) where
  pure := Scoped.pure
  bind := Scoped.bind

/-- A call whose result is owned by the scope. -/
def owned (call : EStateM ε σ α) (destroy : α → σ → σ) : Scoped ε σ α := fun s =>
  match call s with
  | .error exception s => .error exception s
  | .ok value s => .ok ⟨value, destroy value⟩ s

/-- A call that leaves nothing to destroy. -/
def call (call : EStateM ε σ α) : Scoped ε σ α := owned call fun _ => id

theorem pure_eq_ok {value : α} {s s' : σ} {part : Built σ α}
    (hpure : (Pure.pure value : Scoped ε σ α) s = .ok part s') : part.value = value ∧ s' = s := by
  change EStateM.Result.ok ⟨value, id⟩ s = .ok part s' at hpure
  cases hpure
  exact ⟨rfl, rfl⟩

theorem bind_eq_ok {first : Scoped ε σ α} {rest : α → Scoped ε σ β} {s s' : σ}
    {whole : Built σ β} (hbind : (first >>= rest) s = .ok whole s') :
    ∃ part middle whole', first s = .ok part middle ∧
      rest part.value middle = .ok whole' s' ∧ whole.value = whole'.value := by
  change Scoped.bind first rest s = .ok whole s' at hbind
  unfold Scoped.bind at hbind
  split at hbind
  · cases hbind
  · next part middle hfirst =>
      split at hbind
      · cases hbind
      · next whole' _ hrest =>
          cases hbind
          exact ⟨part, middle, whole', hfirst, hrest, rfl⟩

theorem owned_eq_ok {operation : EStateM ε σ α} {destroy : α → σ → σ} {s s' : σ}
    {part : Built σ α} (howned : owned operation destroy s = .ok part s') :
    operation s = .ok part.value s' := by
  unfold owned at howned
  split at howned
  · cases howned
  · next hcall =>
      cases howned
      exact hcall

/-- The construction leaves nothing behind, as far as the relation tells. -/
def Restores (same : σ → σ → Prop) (construction : Scoped ε σ α) : Prop :=
  ∀ s, match construction s with
    | .error _ s' => same s s'
    | .ok whole s' => ∀ later, same s' later → same s (whole.destroy later)

variable {same : σ → σ → Prop}

theorem restores_pure (value : α) : Restores same (Pure.pure value : Scoped ε σ α) :=
  fun _ _ hsame => hsame

theorem Restores.bind {first : Scoped ε σ α} {rest : α → Scoped ε σ β}
    (hfirst : Restores same first) (hrest : ∀ value, Restores same (rest value)) :
    Restores same (first >>= rest) := by
  intro s
  change match Scoped.bind first rest s with
    | .error _ s' => same s s'
    | .ok whole s' => ∀ later, same s' later → same s (whole.destroy later)
  have hpart := hfirst s
  unfold Scoped.bind
  cases hcall : first s with
  | error exception middle =>
      rw [hcall] at hpart
      exact hpart
  | ok part middle =>
      rw [hcall] at hpart
      have hwhole := hrest part.value middle
      dsimp only
      cases hbehind : rest part.value middle with
      | error exception s' =>
          rw [hbehind] at hwhole
          exact hpart s' hwhole
      | ok whole s' =>
          rw [hbehind] at hwhole
          exact fun later hlater => hpart _ (hwhole later hlater)

theorem restores_owned {operation : EStateM ε σ α} {destroy : α → σ → σ}
    (howned : ∀ s, match operation s with
      | .error _ s' => same s s'
      | .ok value s' => ∀ later, same s' later → same s (destroy value later)) :
    Restores same (owned operation destroy) := by
  intro s
  have hresult := howned s
  unfold owned
  cases hcall : operation s with
  | error exception s' =>
      rw [hcall] at hresult
      exact hresult
  | ok value s' =>
      rw [hcall] at hresult
      exact hresult

/-- An exception has a cause in the state before, and what would be a cause behind the
construction has been one before it. -/
def Explains (cause : σ → ε → Prop) (construction : Scoped ε σ α) : Prop :=
  ∀ s, match construction s with
    | .error exception _ => cause s exception
    | .ok _ s' => ∀ exception, cause s' exception → cause s exception

variable {cause : σ → ε → Prop}

theorem explains_pure (value : α) : Explains cause (Pure.pure value : Scoped ε σ α) :=
  fun _ _ hcause => hcause

theorem Explains.bind {first : Scoped ε σ α} {rest : α → Scoped ε σ β}
    (hfirst : Explains cause first) (hrest : ∀ value, Explains cause (rest value)) :
    Explains cause (first >>= rest) := by
  intro s
  change match Scoped.bind first rest s with
    | .error exception _ => cause s exception
    | .ok _ s' => ∀ exception, cause s' exception → cause s exception
  have hpart := hfirst s
  unfold Scoped.bind
  cases hcall : first s with
  | error exception middle =>
      rw [hcall] at hpart
      exact hpart
  | ok part middle =>
      rw [hcall] at hpart
      have hwhole := hrest part.value middle
      dsimp only
      cases hbehind : rest part.value middle with
      | error exception s' =>
          rw [hbehind] at hwhole
          exact hpart exception hwhole
      | ok whole s' =>
          rw [hbehind] at hwhole
          exact fun exception hcause => hpart exception (hwhole exception hcause)

theorem explains_owned {operation : EStateM ε σ α} {destroy : α → σ → σ}
    (howned : ∀ s, match operation s with
      | .error exception _ => cause s exception
      | .ok _ s' => ∀ exception, cause s' exception → cause s exception) :
    Explains cause (owned operation destroy) := by
  intro s
  have hresult := howned s
  unfold owned
  cases hcall : operation s with
  | error exception s' =>
      rw [hcall] at hresult
      exact hresult
  | ok value s' =>
      rw [hcall] at hresult
      exact hresult

end Scoped

end PulseCore.Foundation
