/-
# Waiting on the bounded queue

`Pop` sleeps on a condition variable while the queue is open and empty. `TryPush`
and `Close` change the queue in a critical section and notify behind it, when the
lock is no longer held, and a notification with nobody asleep is lost. Between the
two steps other threads may do anything, a notified consumer may find that another
one has taken the item, and a consumer may wake up without being notified at all.

Every critical section and every notification is one step here. Producers and
closers only matter by the notifications they still owe, so these are counted;
consumers are a fixed list. The step in which a consumer checks the predicate of
its wait also puts it to sleep, because the wait releases the mutex and goes to
sleep atomically.
-/

import PulseCore.Core.BoundedQueue
import Mathlib.Data.List.Perm.Basic

namespace PulseCore.Core

universe u

/-- Where a consumer thread stands. -/
inductive Consumer
  /-- Between two calls of `Pop`, or in front of the mutex. -/
  | running
  /-- Woken up inside its wait, and about to check the predicate again. -/
  | notified
  /-- Asleep inside its wait. -/
  | asleep
  /-- `Pop` returned nothing, and the consumer does not call it again. -/
  | exited
  deriving DecidableEq

/-- The consumer will look at the queue without being notified. -/
def Consumer.isAwake : Consumer → Bool
  | .running => true
  | .notified => true
  | .asleep => false
  | .exited => false

/-- Wake up a consumer if it is asleep. -/
def wakeConsumer (consumers : List Consumer) (i : ℕ) : List Consumer :=
  if consumers[i]? = some .asleep then consumers.set i .notified else consumers

/-- A queue with the threads around it. -/
structure QueueThreads (α : Type u) where
  queue : BoundedQueue α
  consumers : List Consumer
  /-- The producers behind a successful push and in front of their `notify_one`. -/
  pendingOne : ℕ
  /-- The closers in front of their `notify_all`. -/
  pendingAll : ℕ

/-- A step of one thread, with what the condition variable does in it. -/
inductive QueueAction (α : Type u)
  /-- The critical section of `TryPush`. -/
  | push (item : α)
  /-- The `notify_one` of a producer, which wakes one sleeper and maybe others. -/
  | notifyOne (first : ℕ) (others : List ℕ)
  /-- The critical section of `Close`. -/
  | close
  /-- The `notify_all` of a closer. -/
  | notifyAll
  /-- A consumer that is awake gets the mutex in `Pop`. -/
  | check (consumer : ℕ)
  /-- A consumer wakes up without being notified. -/
  | wakeSpuriously (consumer : ℕ)

namespace QueueThreads

variable {α : Type u}

/-- A queue as it is created, and consumers that have not called `Pop` yet. -/
def start (capacity consumers : ℕ) : QueueThreads α :=
  ⟨⟨capacity, [], false, Nat.zero_le _⟩, .replicate consumers .running, 0, 0⟩

/-- Some consumer is asleep and not notified. -/
def SomeAsleep (s : QueueThreads α) : Prop := .asleep ∈ s.consumers

/-- The consumers that are awake and have not exited. -/
def awake (s : QueueThreads α) : ℕ := s.consumers.countP Consumer.isAwake

/-- One step; a step that the thread cannot take changes nothing. -/
def step (s : QueueThreads α) : QueueAction α → QueueThreads α
  | .push item =>
      match s.queue.tryPush item with
      | (true, queue) => { s with queue, pendingOne := s.pendingOne + 1 }
      | (false, queue) => { s with queue }
  | .notifyOne first others =>
      if s.pendingOne = 0 then s
      else if .asleep ∈ s.consumers then
        -- the condition variable wakes a thread that is asleep
        if s.consumers[first]? = some .asleep then
          { s with
            consumers := others.foldl wakeConsumer (wakeConsumer s.consumers first)
            pendingOne := s.pendingOne - 1 }
        else s
      else { s with pendingOne := s.pendingOne - 1 }
  | .close => { s with queue := s.queue.close, pendingAll := s.pendingAll + 1 }
  | .notifyAll =>
      if s.pendingAll = 0 then s
      else
        { s with
          consumers := s.consumers.map fun consumer =>
            if consumer = .asleep then .notified else consumer
          pendingAll := s.pendingAll - 1 }
  | .check i =>
      match s.consumers[i]? with
      | some .running | some .notified =>
          match s.queue.pop with
          | .item _ queue => { s with queue, consumers := s.consumers.set i .running }
          | .nullopt => { s with consumers := s.consumers.set i .exited }
          | .blocked => { s with consumers := s.consumers.set i .asleep }
      | _ => s
  | .wakeSpuriously i => { s with consumers := wakeConsumer s.consumers i }

/-- The threads behind a sequence of steps. -/
def run (capacity consumers : ℕ) (actions : List (QueueAction α)) : QueueThreads α :=
  actions.foldl step (start capacity consumers)

end QueueThreads

/-- Replacing a consumer changes the number of those awake by the two it is about. -/
theorem countP_isAwake_set {consumers : List Consumer} {i : ℕ} {old : Consumer}
    (hold : consumers[i]? = some old) (new : Consumer) :
    (consumers.set i new).countP Consumer.isAwake + old.isAwake.toNat =
      consumers.countP Consumer.isAwake + new.isAwake.toNat := by
  obtain ⟨hi, rfl⟩ := List.getElem?_eq_some_iff.mp hold
  have hset := (List.set_perm_cons_eraseIdx hi new).countP_eq Consumer.isAwake
  have hget := (List.getElem_cons_eraseIdx_perm hi).countP_eq Consumer.isAwake
  rw [List.countP_cons] at hset hget
  cases hnew : new.isAwake <;> cases hwas : consumers[i].isAwake <;>
    simp [hnew, hwas] at hset hget ⊢ <;> omega

theorem wakeConsumer_of_asleep {consumers : List Consumer} {i : ℕ}
    (hasleep : consumers[i]? = some .asleep) :
    (wakeConsumer consumers i).countP Consumer.isAwake =
      consumers.countP Consumer.isAwake + 1 := by
  have hcount := countP_isAwake_set hasleep .notified
  rw [wakeConsumer, if_pos hasleep]
  exact hcount

/-- Waking up a consumer puts nobody to sleep. -/
theorem countP_le_wakeConsumer (consumers : List Consumer) (i : ℕ) :
    consumers.countP Consumer.isAwake ≤ (wakeConsumer consumers i).countP Consumer.isAwake := by
  by_cases hasleep : consumers[i]? = some .asleep
  · rw [wakeConsumer_of_asleep hasleep]
    exact Nat.le_succ _
  · rw [wakeConsumer, if_neg hasleep]

theorem asleep_of_wakeConsumer {consumers : List Consumer} {i : ℕ}
    (hmem : .asleep ∈ wakeConsumer consumers i) : .asleep ∈ consumers := by
  rw [wakeConsumer] at hmem
  split at hmem
  · rcases List.mem_or_eq_of_mem_set hmem with hold | hnew
    · exact hold
    · cases hnew
  · exact hmem

theorem countP_le_foldl_wakeConsumer (others : List ℕ) (consumers : List Consumer) :
    consumers.countP Consumer.isAwake ≤
      (others.foldl wakeConsumer consumers).countP Consumer.isAwake := by
  induction others generalizing consumers with
  | nil => exact Nat.le_refl _
  | cons i others ih => exact Nat.le_trans (countP_le_wakeConsumer consumers i) (ih _)

/-! ## Nobody sleeps for good -/

namespace QueueThreads

variable {α : Type u} {s : QueueThreads α}

/-- Every queued item has somebody who will come for it while a consumer sleeps: a
notification that is still to be sent, or a consumer that is awake. And a closed
queue lets a consumer sleep only until the notification of its closer. -/
structure Attended (s : QueueThreads α) : Prop where
  items : s.SomeAsleep → s.queue.items.length ≤ s.pendingOne + s.awake
  closed : s.queue.closed = true → s.SomeAsleep → 0 < s.pendingAll

theorem attended_start (capacity consumers : ℕ) :
    Attended (start capacity consumers : QueueThreads α) :=
  ⟨fun _ => Nat.zero_le _, nofun⟩

/-- More threads awake and nobody new asleep keep the queue attended. -/
theorem Attended.wake (h : Attended s) {consumers : List Consumer}
    (hasleep : .asleep ∈ consumers → .asleep ∈ s.consumers)
    (hawake : s.awake ≤ consumers.countP Consumer.isAwake) :
    Attended { s with consumers } := by
  refine ⟨fun hsome => ?_, fun hclosed hsome => h.closed hclosed (hasleep hsome)⟩
  exact Nat.le_trans (h.items (hasleep hsome)) (Nat.add_le_add_left hawake _)

theorem attended_push (h : Attended s) (item : α) : Attended (s.step (.push item)) := by
  rw [step]
  split
  · next queue hpush =>
      obtain ⟨hitems, -, hclosed, -⟩ := BoundedQueue.tryPush_eq_true hpush
      refine ⟨fun hsome => ?_, fun hclosed' hsome => ?_⟩
      · have hle := h.items hsome
        simp only [hitems, List.length_append, List.length_singleton]
        simp only [awake] at hle ⊢
        omega
      · exact h.closed (hclosed.symm.trans hclosed') hsome
  · next queue hpush =>
      obtain rfl := BoundedQueue.tryPush_eq_false hpush
      exact h

theorem attended_notifyOne (h : Attended s) (first : ℕ) (others : List ℕ) :
    Attended (s.step (.notifyOne first others)) := by
  rw [step]
  split
  · exact h
  next hpending =>
  split
  · next hsome =>
      split
      · next hfirst =>
          -- The notification is spent, but one more consumer is awake for it.
          have hone := wakeConsumer_of_asleep hfirst
          have hothers := countP_le_foldl_wakeConsumer others (wakeConsumer s.consumers first)
          refine ⟨fun _ => ?_, fun hclosed _ => h.closed hclosed hsome⟩
          have hle := h.items hsome
          simp only [awake] at hle ⊢
          omega
      · exact h
  · next hnone =>
      exact ⟨fun hsome => absurd hsome hnone, fun _ hsome => absurd hsome hnone⟩

theorem attended_close (h : Attended s) : Attended (s.step .close) :=
  ⟨h.items, fun _ _ => Nat.succ_pos _⟩

theorem attended_notifyAll (h : Attended s) : Attended (s.step .notifyAll) := by
  rw [step]
  split
  · exact h
  have hnone : ∀ hsome : .asleep ∈ s.consumers.map fun consumer =>
      if consumer = .asleep then Consumer.notified else consumer, False := by
    intro hsome
    obtain ⟨consumer, -, hconsumer⟩ := List.mem_map.mp hsome
    split at hconsumer
    · cases hconsumer
    · next hawake => exact hawake hconsumer
  exact ⟨fun hsome => absurd hsome hnone, fun _ hsome => absurd hsome hnone⟩

/-- A consumer that is awake and gets the mutex takes an item, leaves, or goes to
sleep in front of an empty queue that is open. -/
theorem attended_pop (h : Attended s) {i : ℕ} {consumer : Consumer}
    (hconsumer : s.consumers[i]? = some consumer) (hawake : consumer.isAwake = true) :
    Attended (match s.queue.pop with
      | .item _ queue => { s with queue, consumers := s.consumers.set i .running }
      | .nullopt => { s with consumers := s.consumers.set i .exited }
      | .blocked => { s with consumers := s.consumers.set i .asleep }) := by
  have hstays : ∀ {new : Consumer}, new ≠ .asleep →
      .asleep ∈ s.consumers.set i new → s.SomeAsleep := by
    intro new hnew hsome
    rcases List.mem_or_eq_of_mem_set hsome with hold | heq
    · exact hold
    · exact absurd heq.symm hnew
  split
  · next item queue hpop =>
      obtain ⟨hitems, -, hclosed⟩ := BoundedQueue.pop_eq_item hpop
      refine ⟨fun hsome => ?_, fun hclosed' hsome => ?_⟩
      · have hle := h.items (hstays (by decide) hsome)
        have hcount := countP_isAwake_set hconsumer .running
        rw [hawake] at hcount
        rw [hitems, List.length_cons] at hle
        simp only [awake, Consumer.isAwake] at hle hcount ⊢
        omega
      · exact h.closed (hclosed.symm.trans hclosed') (hstays (by decide) hsome)
  · next hpop =>
      obtain ⟨hitems, -⟩ := BoundedQueue.pop_eq_nullopt hpop
      refine ⟨fun _ => ?_, fun hclosed hsome => h.closed hclosed (hstays (by decide) hsome)⟩
      rw [hitems]
      exact Nat.zero_le _
  · next hpop =>
      obtain ⟨hitems, hopen⟩ := BoundedQueue.pop_eq_blocked hpop
      refine ⟨fun _ => ?_, fun hclosed _ => ?_⟩
      · rw [hitems]
        exact Nat.zero_le _
      · rw [hopen] at hclosed
        cases hclosed

theorem attended_check (h : Attended s) (i : ℕ) : Attended (s.step (.check i)) := by
  rw [step]
  split
  · next hconsumer => exact attended_pop h hconsumer rfl
  · next hconsumer => exact attended_pop h hconsumer rfl
  · exact h

theorem attended_step (h : Attended s) (action : QueueAction α) : Attended (s.step action) := by
  cases action with
  | push item => exact attended_push h item
  | notifyOne first others => exact attended_notifyOne h first others
  | close => exact attended_close h
  | notifyAll => exact attended_notifyAll h
  | check i => exact attended_check h i
  | wakeSpuriously i =>
      exact h.wake asleep_of_wakeConsumer (countP_le_wakeConsumer s.consumers i)

theorem attended_run (capacity consumers : ℕ) (actions : List (QueueAction α)) :
    Attended (run capacity consumers actions) := by
  apply List.foldlRecOn actions step (attended_start capacity consumers)
  intro s h action _
  exact attended_step h action

/-- No wake-up is lost, in whatever order the threads take their steps: while a
consumer sleeps un-notified, the queued items are no more than the notifications
still to be sent and the consumers awake; and behind a close nobody sleeps
un-notified once every closer has notified. -/
theorem no_lost_wakeup (capacity consumers : ℕ) (actions : List (QueueAction α)) :
    (.asleep ∈ (run capacity consumers actions).consumers →
      (run capacity consumers actions).queue.items.length ≤
        (run capacity consumers actions).pendingOne +
          (run capacity consumers actions).consumers.countP Consumer.isAwake) ∧
    ((run capacity consumers actions).queue.closed = true →
      .asleep ∈ (run capacity consumers actions).consumers →
        0 < (run capacity consumers actions).pendingAll) := by
  have h := attended_run capacity consumers actions
  exact ⟨h.items, h.closed⟩

end QueueThreads

end PulseCore.Core
