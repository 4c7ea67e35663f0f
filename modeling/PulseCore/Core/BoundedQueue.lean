/-
# The bounded queue

A FIFO with a fixed capacity between one kind of thread that never waits and
another that does: `tryPush` refuses when the queue is full or closed, `pop`
blocks until there is an item or the queue is closed, and a closed queue is
drained before `pop` reports the end. Each operation is one critical section of
the source's mutex. That the queue never holds more than its capacity is part of
its type.
-/

import PulseCore.Network.Syscall

namespace PulseCore.Core

open PulseCore.Network

universe u

structure BoundedQueue (α : Type u) where
  capacity : ℕ
  items : List α
  closed : Bool
  length_le : items.length ≤ capacity

namespace BoundedQueue

variable {α : Type u}

/-- The constructor, which refuses a queue that could hold nothing. -/
def create (capacity : ℕ) : Except Exception (BoundedQueue α) :=
  if capacity = 0 then
    .error (.invalidArgument "bounded queue capacity must be greater than zero")
  else .ok ⟨capacity, [], false, Nat.zero_le _⟩

def tryPush (q : BoundedQueue α) (item : α) : Bool × BoundedQueue α :=
  if hfull : q.closed = true ∨ q.items.length ≥ q.capacity then (false, q)
  else
    (true,
      { q with
        items := q.items ++ [item]
        length_le := by
          rw [List.length_append, List.length_singleton]
          omega })

/-- What a consumer that holds the mutex in `Pop` finds. -/
inductive PopResult (α : Type u)
  | item (item : α) (rest : BoundedQueue α)
  | nullopt
  | blocked

def pop (q : BoundedQueue α) : PopResult α :=
  match hitems : q.items with
  | [] => if q.closed then .nullopt else .blocked
  | item :: items =>
      .item item
        { q with
          items := items
          length_le := by
            have hle := q.length_le
            rw [hitems, List.length_cons] at hle
            omega }

def close (q : BoundedQueue α) : BoundedQueue α := { q with closed := true }

/-- A push that succeeds appends its item and found the queue open and not full. -/
theorem tryPush_eq_true {q q' : BoundedQueue α} {item : α} (hpush : q.tryPush item = (true, q')) :
    q'.items = q.items ++ [item] ∧ q'.capacity = q.capacity ∧ q'.closed = q.closed ∧
      q.closed = false ∧ q.items.length < q.capacity := by
  unfold tryPush at hpush
  split at hpush
  · cases hpush
  · next hfull =>
      cases hpush
      rw [not_or, Bool.not_eq_true] at hfull
      exact ⟨rfl, rfl, rfl, hfull.1, Nat.lt_of_not_le hfull.2⟩

/-- A push that is refused changes nothing. -/
theorem tryPush_eq_false {q q' : BoundedQueue α} {item : α}
    (hpush : q.tryPush item = (false, q')) : q' = q := by
  unfold tryPush at hpush
  split at hpush
  · cases hpush
    rfl
  · cases hpush

/-- A pop that succeeds takes the oldest item. -/
theorem pop_eq_item {q rest : BoundedQueue α} {item : α} (hpop : q.pop = .item item rest) :
    q.items = item :: rest.items ∧ rest.capacity = q.capacity ∧ rest.closed = q.closed := by
  unfold pop at hpop
  split at hpop
  · split at hpop <;> cases hpop
  · next hitems =>
      cases hpop
      exact ⟨hitems, rfl, rfl⟩

/-- A pop that reports the end found a closed queue with nothing in it. -/
theorem pop_eq_nullopt {q : BoundedQueue α} (hpop : q.pop = .nullopt) :
    q.items = [] ∧ q.closed = true := by
  unfold pop at hpop
  split at hpop
  · next hitems =>
      split at hpop
      · next hclosed => exact ⟨hitems, hclosed⟩
      · cases hpop
  · cases hpop

/-- A pop that has to wait found an open queue with nothing in it. -/
theorem pop_eq_blocked {q : BoundedQueue α} (hpop : q.pop = .blocked) :
    q.items = [] ∧ q.closed = false := by
  unfold pop at hpop
  split at hpop
  · next hitems =>
      split at hpop
      · cases hpop
      · next hopen => exact ⟨hitems, Bool.eq_false_iff.mpr hopen⟩
  · cases hpop

end BoundedQueue

end PulseCore.Core
