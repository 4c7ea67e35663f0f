/-
# The worker pool and its condition variable

The pool once more, one level further down: a worker in `Pop` may be asleep on the
condition variable of the queue, a submission and its `notify_one` are two steps,
and so are the two halves of `Close`. A worker that works is not waiting, and a
worker that waits has nothing in hand, so that both coarser models are views of
this one: leaving out who is asleep gives the pool, and leaving out what the workers
do gives the threads around a queue.

`Stop` joins the workers, so that it returns at all depends on every one of them
waking up and running out of work. Behind `Close` a worker never goes back to sleep
and nothing is accepted any more; what is left to do is counted.
-/

import PulseCore.Core.QueueWaiting
import PulseCore.Foundation.Potential
import PulseCore.Foundation.Simulation
import PulseCore.Network.PoolRun

namespace PulseCore.Network

open PulseCore.Foundation PulseCore.Core PulseCore.Protocol

/-- Where a worker thread stands. -/
inductive WorkerThread
  /-- In front of the mutex in `Pop`. -/
  | entering
  /-- Woken up inside the wait of `Pop`, and about to check the predicate again. -/
  | notified
  /-- Asleep inside the wait of `Pop`. -/
  | asleep
  /-- In front of the handler with the item it popped. -/
  | handling (item : WorkItem)
  /-- Behind the handler, in front of the completion callback. -/
  | completing (completion : Completion)
  /-- `Pop` reported the end. -/
  | exited
  deriving DecidableEq

/-- Where a call of `Stop` stands. -/
inductive StopCall
  /-- The queue is closed, and `notify_all` is still to come. -/
  | notifying
  /-- So many workers are joined. -/
  | joining (joined : ℕ)
  deriving DecidableEq

namespace WorkerThread

/-- The worker of the coarser pool. -/
def toPoolWorker : WorkerThread → PoolWorker
  | .entering => .popping
  | .notified => .popping
  | .asleep => .popping
  | .handling item => .handling item
  | .completing completion => .completing completion
  | .exited => .exited

/-- The consumer of the queue. While it works it is between two calls of `Pop`. -/
def toConsumer : WorkerThread → Consumer
  | .entering => .running
  | .notified => .notified
  | .asleep => .asleep
  | .handling _ => .running
  | .completing _ => .running
  | .exited => .exited

/-- How many steps the thread can still make without taking another item. -/
def stepsLeft : WorkerThread → ℕ
  | .entering => 1
  | .notified => 1
  | .asleep => 2
  | .handling _ => 3
  | .completing _ => 2
  | .exited => 0

@[simp]
theorem toConsumer_eq_asleep {thread : WorkerThread} :
    thread.toConsumer = .asleep ↔ thread = .asleep := by
  cases thread <;> simp [toConsumer]

@[simp]
theorem toPoolWorker_eq_exited {thread : WorkerThread} :
    thread.toPoolWorker = .exited ↔ thread = .exited := by
  cases thread <;> simp [toPoolWorker]

end WorkerThread

namespace StopCall

/-- How many workers the call has joined. -/
def joined : StopCall → ℕ
  | .notifying => 0
  | .joining joined => joined

def isNotifying : StopCall → Bool
  | .notifying => true
  | .joining _ => false

/-- How many steps the call can still make among so many workers. -/
def stepsLeft (workers : ℕ) : StopCall → ℕ
  | .notifying => workers + 1
  | .joining joined => workers - joined

end StopCall

/-- Wake up a worker if it is asleep. -/
def wakeThread (threads : List WorkerThread) (i : ℕ) : List WorkerThread :=
  if threads[i]? = some .asleep then threads.set i .notified else threads

/-- A pool with its threads and its history. -/
structure PoolThreads where
  queue : BoundedQueue WorkItem
  handler : PoolHandler
  threads : List WorkerThread
  /-- The submissions that were accepted and are in front of their `notify_one`. -/
  pendingOne : ℕ
  stops : List StopCall
  /-- The items `TrySubmit` returned true for, in order. -/
  accepted : List WorkItem
  /-- The items `Pop` returned, in order. -/
  popped : List WorkItem
  /-- The requests the handler was called with, in order. -/
  calls : List Message
  /-- The calls of the completion callback, in order. -/
  completed : List Completion

/-- A step of one thread. -/
inductive ThreadAction
  /-- The critical section of `TryPush` in `TrySubmit`. -/
  | trySubmit (item : WorkItem)
  /-- The `notify_one` of a submission, which wakes one sleeper and maybe others. -/
  | notifyOne (first : ℕ) (others : List ℕ)
  /-- A worker that is awake gets the mutex in `Pop`. -/
  | check (worker : ℕ)
  /-- A worker wakes up without being notified. -/
  | wakeSpuriously (worker : ℕ)
  | runHandler (worker : ℕ)
  | complete (worker : ℕ)
  /-- A thread calls `Stop`: the critical section of `Close`. -/
  | stop
  /-- The `notify_all` of a call of `Stop`. -/
  | notifyAll (stop : ℕ)
  /-- A call of `Stop` gets past the next worker. -/
  | join (stop : ℕ)

namespace PoolThreads

/-- The constructor, when all threads can be started. -/
def create (config : WorkerPoolConfig) (onComplete : Bool) (handler : Option PoolHandler) :
    Except ConstructionError PoolThreads :=
  match config.prepare onComplete handler with
  | .error error => .error error
  | .ok (queue, handler) =>
      .ok ⟨queue, handler, .replicate config.workerCount .entering, 0, [], [], [], [], []⟩

/-- What a worker that has the mutex does in `Pop`. -/
def pop (s : PoolThreads) (i : ℕ) : PoolThreads :=
  match s.queue.pop with
  | .item item queue =>
      { s with
        queue
        threads := s.threads.set i (.handling item)
        popped := s.popped ++ [item] }
  | .nullopt => { s with threads := s.threads.set i .exited }
  | .blocked => { s with threads := s.threads.set i .asleep }

/-- One step; a step that the thread cannot take changes nothing. -/
def step (s : PoolThreads) : ThreadAction → PoolThreads
  | .trySubmit item =>
      match s.queue.tryPush item with
      | (true, queue) =>
          { s with queue, pendingOne := s.pendingOne + 1, accepted := s.accepted ++ [item] }
      | (false, queue) => { s with queue }
  | .notifyOne first others =>
      if s.pendingOne = 0 then s
      else if .asleep ∈ s.threads then
        if s.threads[first]? = some .asleep then
          { s with
            threads := others.foldl wakeThread (wakeThread s.threads first)
            pendingOne := s.pendingOne - 1 }
        else s
      else { s with pendingOne := s.pendingOne - 1 }
  | .check i =>
      match s.threads[i]? with
      | some .entering | some .notified => s.pop i
      | _ => s
  | .wakeSpuriously i => { s with threads := wakeThread s.threads i }
  | .runHandler i =>
      match s.threads[i]? with
      | some (.handling item) =>
          { s with
            threads := s.threads.set i
              (.completing (Network.runHandler s.handler s.calls.length item))
            calls := s.calls ++ [item.request] }
      | _ => s
  | .complete i =>
      match s.threads[i]? with
      | some (.completing completion) =>
          { s with
            threads := s.threads.set i .entering
            completed := s.completed ++ [completion] }
      | _ => s
  | .stop => { s with queue := s.queue.close, stops := s.stops ++ [.notifying] }
  | .notifyAll j =>
      match s.stops[j]? with
      | some .notifying =>
          { s with
            threads := s.threads.map fun thread =>
              if thread = .asleep then .notified else thread
            stops := s.stops.set j (.joining 0) }
      | _ => s
  | .join j =>
      match s.stops[j]? with
      | some (.joining joined) =>
          -- `join` returns when the thread has exited
          if s.threads[joined]? = some .exited then
            { s with stops := s.stops.set j (.joining (joined + 1)) }
          else s
      | _ => s

/-- The threads behind a sequence of steps. -/
def run (s : PoolThreads) (actions : List ThreadAction) : PoolThreads := actions.foldl step s

/-! ## The two views -/

/-- The pool, with no difference between a worker that sleeps and one that is about to
pop. -/
def toPool (s : PoolThreads) : Pool where
  queue := s.queue
  handler := s.handler
  workers := s.threads.map WorkerThread.toPoolWorker
  stops := s.stops.map StopCall.joined
  accepted := s.accepted
  popped := s.popped
  calls := s.calls
  completed := s.completed

/-- The threads around the queue, with no difference between a worker that has an item
and one that is about to pop. -/
def toQueueThreads (s : PoolThreads) : QueueThreads WorkItem where
  queue := s.queue
  consumers := s.threads.map WorkerThread.toConsumer
  pendingOne := s.pendingOne
  pendingAll := s.stops.countP StopCall.isNotifying

variable {config : WorkerPoolConfig} {s : PoolThreads}

theorem map_set_getElem? {α β : Type} (f : α → β) {l : List α} {i : ℕ} {old : α}
    (hold : l[i]? = some old) (new : α) (hsame : f new = f old) :
    (l.set i new).map f = l.map f := by
  obtain ⟨hi, rfl⟩ := List.getElem?_eq_some_iff.mp hold
  rw [List.map_set, hsame, ← List.getElem_map f (h := by rwa [List.length_map]),
    List.set_getElem_self]

theorem map_toPoolWorker_wakeThread (threads : List WorkerThread) (i : ℕ) :
    (wakeThread threads i).map WorkerThread.toPoolWorker =
      threads.map WorkerThread.toPoolWorker := by
  rw [wakeThread]
  split
  · next hasleep => exact map_set_getElem? _ hasleep _ rfl
  · rfl

theorem map_toPoolWorker_foldl_wakeThread (others : List ℕ) (threads : List WorkerThread) :
    (others.foldl wakeThread threads).map WorkerThread.toPoolWorker =
      threads.map WorkerThread.toPoolWorker := by
  induction others generalizing threads with
  | nil => rfl
  | cons i others ih => exact (ih _).trans (map_toPoolWorker_wakeThread threads i)

/-- A worker that has the mutex in `Pop` pops in the coarser pool as well, unless it goes
to sleep there. -/
theorem simulates_pop {i : ℕ} {thread : WorkerThread} (hthread : s.threads[i]? = some thread)
    (hpopping : thread.toPoolWorker = .popping) :
    (s.pop i).toPool = s.toPool ∨ ∃ action, (s.pop i).toPool = s.toPool.step action := by
  have hworker : s.toPool.workers[i]? = some .popping := by
    rw [toPool, List.getElem?_map, hthread, ← hpopping]
    rfl
  rw [pop]
  split
  · next item queue hpop =>
      refine .inr ⟨.pop i, ?_⟩
      simp only [Pool.step, hworker]
      simp only [toPool, hpop, List.map_set, WorkerThread.toPoolWorker]
  · next hpop =>
      refine .inr ⟨.pop i, ?_⟩
      simp only [Pool.step, hworker]
      simp only [toPool, hpop, List.map_set, WorkerThread.toPoolWorker]
  · refine .inl ?_
    have hthreads : (s.threads.set i .asleep).map WorkerThread.toPoolWorker =
        s.threads.map WorkerThread.toPoolWorker := map_set_getElem? _ hthread _ hpopping.symm
    simp only [toPool, hthreads]

/-- A step looks like a step of the pool, or like nothing when it is about sleeping. -/
theorem simulates_pool : Simulates step Pool.step toPool := by
  intro s action
  have hget : ∀ {i : ℕ} {thread : WorkerThread}, s.threads[i]? = some thread →
      s.toPool.workers[i]? = some thread.toPoolWorker := by
    intro i thread hthread
    rw [toPool, List.getElem?_map, hthread]
    rfl
  cases action with
  | trySubmit item =>
      refine .inr ⟨.trySubmit item, ?_⟩
      have hqueue : s.toPool.queue = s.queue := rfl
      simp only [step, Pool.step, hqueue]
      cases s.queue.tryPush item with
      | mk accepted queue => cases accepted <;> rfl
  | notifyOne first others =>
      refine .inl ?_
      simp only [step]
      split
      · rfl
      split
      · split
        · simp only [toPool, map_toPoolWorker_foldl_wakeThread, map_toPoolWorker_wakeThread]
        · rfl
      · rfl
  | check i =>
      simp only [step]
      split
      · next hthread => exact simulates_pop hthread rfl
      · next hthread => exact simulates_pop hthread rfl
      · exact .inl rfl
  | wakeSpuriously i =>
      refine .inl ?_
      simp only [step, toPool, map_toPoolWorker_wakeThread]
  | runHandler i =>
      simp only [step]
      split
      · next item hthread =>
          refine .inr ⟨.runHandler i, ?_⟩
          simp only [Pool.step, hget hthread, WorkerThread.toPoolWorker]
          simp only [toPool, List.map_set, WorkerThread.toPoolWorker]
      · exact .inl rfl
  | complete i =>
      simp only [step]
      split
      · next completion hthread =>
          refine .inr ⟨.complete i, ?_⟩
          simp only [Pool.step, hget hthread, WorkerThread.toPoolWorker]
          simp only [toPool, List.map_set, WorkerThread.toPoolWorker]
      · exact .inl rfl
  | stop =>
      refine .inr ⟨.stop, ?_⟩
      simp only [step, Pool.step, toPool, List.map_append, List.map_singleton, StopCall.joined]
  | notifyAll j =>
      refine .inl ?_
      simp only [step]
      split
      · next hstop =>
          have hthreads : (s.threads.map fun thread =>
              if thread = .asleep then WorkerThread.notified else thread).map
                WorkerThread.toPoolWorker = s.threads.map WorkerThread.toPoolWorker := by
            rw [List.map_map]
            apply List.map_congr_left
            intro thread _
            cases thread <;> rfl
          have hstops : (s.stops.set j (.joining 0)).map StopCall.joined =
              s.stops.map StopCall.joined := map_set_getElem? _ hstop _ rfl
          simp only [toPool, hthreads, hstops]
      · rfl
  | join j =>
      simp only [step]
      split
      · next joined hstop =>
          split
          · next hexited =>
              have hjoined : s.toPool.stops[j]? = some joined := by
                rw [toPool, List.getElem?_map, hstop]
                rfl
              refine .inr ⟨.join j, ?_⟩
              simp only [Pool.step, hjoined]
              rw [hget hexited, WorkerThread.toPoolWorker, if_pos rfl]
              simp only [toPool, List.map_set, StopCall.joined]
          · exact .inl rfl
      · exact .inl rfl

theorem map_toConsumer_wakeThread (threads : List WorkerThread) (i : ℕ) :
    (wakeThread threads i).map WorkerThread.toConsumer =
      wakeConsumer (threads.map WorkerThread.toConsumer) i := by
  have hasleep : (threads.map WorkerThread.toConsumer)[i]? = some .asleep ↔
      threads[i]? = some .asleep := by
    rw [List.getElem?_map, Option.map_eq_some_iff]
    simp
  rw [wakeThread, wakeConsumer]
  split
  · next h => rw [if_pos (hasleep.mpr h), List.map_set, WorkerThread.toConsumer]
  · next h => rw [if_neg fun h' => h (hasleep.mp h')]

theorem map_toConsumer_foldl_wakeThread (others : List ℕ) (threads : List WorkerThread) :
    (others.foldl wakeThread threads).map WorkerThread.toConsumer =
      others.foldl wakeConsumer (threads.map WorkerThread.toConsumer) := by
  induction others generalizing threads with
  | nil => rfl
  | cons i others ih =>
      rw [List.foldl_cons, ih, map_toConsumer_wakeThread]
      rfl

/-- A worker that has the mutex in `Pop` is a consumer that has it. -/
theorem simulates_check {i : ℕ} {thread : WorkerThread} {consumer : Consumer}
    (hthread : s.threads[i]? = some thread) (hconsumer : thread.toConsumer = consumer)
    (hawake : consumer = .running ∨ consumer = .notified) :
    (s.pop i).toQueueThreads = s.toQueueThreads.step (.check i) := by
  have hget : s.toQueueThreads.consumers[i]? = some consumer := by
    rw [toQueueThreads, List.getElem?_map, hthread, ← hconsumer]
    rfl
  have hqueue : s.toQueueThreads.queue = s.queue := rfl
  have hstep : s.toQueueThreads.step (.check i) =
      match s.queue.pop with
      | .item _ queue =>
          { s.toQueueThreads with
            queue, consumers := s.toQueueThreads.consumers.set i .running }
      | .nullopt =>
          { s.toQueueThreads with consumers := s.toQueueThreads.consumers.set i .exited }
      | .blocked =>
          { s.toQueueThreads with consumers := s.toQueueThreads.consumers.set i .asleep } := by
    rcases hawake with rfl | rfl
    · simp only [QueueThreads.step, hget, hqueue]
      cases s.queue.pop <;> rfl
    · simp only [QueueThreads.step, hget, hqueue]
      cases s.queue.pop <;> rfl
  rw [hstep, pop]
  cases s.queue.pop <;> simp only [toQueueThreads, List.map_set, WorkerThread.toConsumer]

/-- A step looks like a step of the threads around the queue, or like nothing when it
is about what the workers do. -/
theorem simulates_queueThreads : Simulates step QueueThreads.step toQueueThreads := by
  intro s action
  have hqueue : s.toQueueThreads.queue = s.queue := rfl
  have hsome : .asleep ∈ s.toQueueThreads.consumers ↔ .asleep ∈ s.threads := by
    simp [toQueueThreads]
  have hasleep : ∀ i : ℕ, s.toQueueThreads.consumers[i]? = some .asleep ↔
      s.threads[i]? = some .asleep := by
    intro i
    rw [toQueueThreads, List.getElem?_map, Option.map_eq_some_iff]
    simp
  cases action with
  | trySubmit item =>
      refine .inr ⟨.push item, ?_⟩
      simp only [step, QueueThreads.step, hqueue]
      cases s.queue.tryPush item with
      | mk accepted queue => cases accepted <;> rfl
  | notifyOne first others =>
      refine .inr ⟨.notifyOne first others, ?_⟩
      have hpending : s.toQueueThreads.pendingOne = s.pendingOne := rfl
      simp only [step, QueueThreads.step, hpending, hsome, hasleep]
      split
      · rfl
      split
      · split
        · simp only [toQueueThreads, map_toConsumer_foldl_wakeThread, map_toConsumer_wakeThread]
        · rfl
      · rfl
  | check i =>
      simp only [step]
      split
      · next hthread => exact .inr ⟨_, simulates_check hthread rfl (.inl rfl)⟩
      · next hthread => exact .inr ⟨_, simulates_check hthread rfl (.inr rfl)⟩
      · exact .inl rfl
  | wakeSpuriously i =>
      refine .inr ⟨.wakeSpuriously i, ?_⟩
      simp only [step, QueueThreads.step, toQueueThreads, map_toConsumer_wakeThread]
  | runHandler i =>
      refine .inl ?_
      simp only [step]
      split
      · next item hthread =>
          simp only [toQueueThreads,
            map_set_getElem? WorkerThread.toConsumer hthread (.completing _) rfl]
      · rfl
  | complete i =>
      refine .inl ?_
      simp only [step]
      split
      · next completion hthread =>
          simp only [toQueueThreads,
            map_set_getElem? WorkerThread.toConsumer hthread .entering rfl]
      · rfl
  | stop =>
      refine .inr ⟨.close, ?_⟩
      simp only [step, QueueThreads.step, toQueueThreads, List.countP_append]
      rfl
  | notifyAll j =>
      simp only [step]
      split
      · next hstop =>
          refine .inr ⟨.notifyAll, ?_⟩
          have hcount := countP_set_add StopCall.isNotifying hstop (.joining 0)
          simp only [StopCall.isNotifying, Bool.toNat_true, Bool.toNat_false,
            Nat.add_zero] at hcount
          have hthreads : (s.threads.map fun thread =>
              if thread = .asleep then WorkerThread.notified else thread).map
                WorkerThread.toConsumer =
              (s.threads.map WorkerThread.toConsumer).map fun consumer =>
                if consumer = .asleep then .notified else consumer := by
            rw [List.map_map, List.map_map]
            apply List.map_congr_left
            intro thread _
            cases thread <;> rfl
          simp only [QueueThreads.step, toQueueThreads, hthreads, ← hcount, Nat.succ_ne_zero,
            if_false, Nat.add_sub_cancel]
      · exact .inl rfl
  | join j =>
      refine .inl ?_
      simp only [step]
      split
      · next joined hstop =>
          split
          · have hcount := countP_set_add StopCall.isNotifying hstop (.joining (joined + 1))
            simp only [StopCall.isNotifying, Bool.toNat_false, Nat.add_zero] at hcount
            simp only [toQueueThreads, hcount]
          · rfl
      · rfl

theorem create_eq_ok {onComplete : Bool} {handler : Option PoolHandler}
    (hcreate : create config onComplete handler = .ok s) :
    Pool.create config onComplete handler = .ok s.toPool ∧
      s.toQueueThreads = QueueThreads.start config.queueCapacity config.workerCount := by
  unfold create at hcreate
  split at hcreate
  · cases hcreate
  next queue callee hprepare =>
  cases hcreate
  obtain ⟨-, -, hitems, hcapacity, hclosed⟩ := config.prepare_eq_ok hprepare
  constructor
  · rw [Pool.create, hprepare]
    simp only [toPool, List.map_replicate, WorkerThread.toPoolWorker, List.map_nil]
  · have hqueue : queue = ⟨config.queueCapacity, [], false, Nat.zero_le _⟩ := by
      cases queue with
      | mk capacity items closed length_le =>
          simp only at hitems hcapacity hclosed
          subst hitems hcapacity hclosed
          rfl
    simp only [toQueueThreads, QueueThreads.start, List.map_replicate, WorkerThread.toConsumer,
      List.countP_nil, hqueue]

/-- The pool that is seen is sound. -/
theorem sound_toPool {onComplete : Bool} {handler : Option PoolHandler}
    (hcreate : create config onComplete handler = .ok s) (actions : List ThreadAction) :
    Pool.Sound config (s.run actions).toPool :=
  simulates_pool.invariant (Pool.Sound config) (fun _ action h => Pool.sound_step h action)
    (Pool.create_eq_ok (create_eq_ok hcreate).1).2.2 actions

/-- The queue that is seen is attended. -/
theorem attended_toQueueThreads {onComplete : Bool} {handler : Option PoolHandler}
    (hcreate : create config onComplete handler = .ok s) (actions : List ThreadAction) :
    QueueThreads.Attended (s.run actions).toQueueThreads := by
  refine simulates_queueThreads.invariant QueueThreads.Attended
    (fun _ action h => QueueThreads.attended_step h action) ?_ actions
  rw [(create_eq_ok hcreate).2]
  exact QueueThreads.attended_start _ _

/-! ## What is left behind `Close` -/

/-- How many steps the workers and the calls of `Stop` can still make on a closed
queue. Every queued item takes a worker through three of them. -/
def stepsLeft (s : PoolThreads) : ℕ :=
  3 * s.queue.items.length + (s.threads.map WorkerThread.stepsLeft).sum +
    (s.stops.map (StopCall.stepsLeft s.threads.length)).sum

/-- The step is one that a worker or a call of `Stop` really makes. -/
def advances (s : PoolThreads) : ThreadAction → Bool
  | .check i =>
      match s.threads[i]? with
      | some .entering | some .notified => true
      | _ => false
  | .runHandler i =>
      match s.threads[i]? with
      | some (.handling _) => true
      | _ => false
  | .complete i =>
      match s.threads[i]? with
      | some (.completing _) => true
      | _ => false
  | .notifyAll j => s.stops[j]? = some .notifying
  | .join j =>
      match s.stops[j]? with
      | some (.joining joined) => s.threads[joined]? = some .exited
      | _ => false
  | .trySubmit _ | .notifyOne _ _ | .wakeSpuriously _ | .stop => false

/-- Such a step costs one. -/
def stepCost (s : PoolThreads) (action : ThreadAction) : ℕ := if s.advances action then 1 else 0

/-- A further call of `Stop` is charged with its own steps. -/
def stopCharge (s : PoolThreads) : ThreadAction → ℕ
  | .stop => s.threads.length + 1
  | _ => 0

theorem length_wakeThread (threads : List WorkerThread) (i : ℕ) :
    (wakeThread threads i).length = threads.length := by
  rw [wakeThread]
  split
  · exact List.length_set
  · rfl

/-- Who is woken up has a step less in front of it. -/
theorem sum_wakeThread_le (threads : List WorkerThread) (i : ℕ) :
    ((wakeThread threads i).map WorkerThread.stepsLeft).sum ≤
      (threads.map WorkerThread.stepsLeft).sum := by
  rw [wakeThread]
  split
  · next hasleep =>
      have hsum := sum_map_set_add WorkerThread.stepsLeft hasleep .notified
      simp only [WorkerThread.stepsLeft] at hsum ⊢
      omega
  · exact Nat.le_refl _

theorem foldl_wakeThread_le (others : List ℕ) (threads : List WorkerThread) :
    (others.foldl wakeThread threads).length = threads.length ∧
      ((others.foldl wakeThread threads).map WorkerThread.stepsLeft).sum ≤
        (threads.map WorkerThread.stepsLeft).sum := by
  induction others generalizing threads with
  | nil => exact ⟨rfl, Nat.le_refl _⟩
  | cons i others ih =>
      obtain ⟨hlength, hsum⟩ := ih (wakeThread threads i)
      exact ⟨hlength.trans (length_wakeThread threads i),
        Nat.le_trans hsum (sum_wakeThread_le threads i)⟩

theorem sum_wakeAll_le (threads : List WorkerThread) :
    ((threads.map fun thread => if thread = .asleep then .notified else thread).map
      WorkerThread.stepsLeft).sum ≤ (threads.map WorkerThread.stepsLeft).sum := by
  induction threads with
  | nil => exact Nat.le_refl _
  | cons thread threads ih =>
      simp only [List.map_cons, List.sum_cons]
      refine Nat.add_le_add ?_ ih
      cases thread <;> simp [WorkerThread.stepsLeft]

/-- Waking workers up leaves no more to do. -/
theorem stepsLeft_threads_le {threads : List WorkerThread} {pendingOne : ℕ}
    (hlength : threads.length = s.threads.length)
    (hsum : (threads.map WorkerThread.stepsLeft).sum ≤
      (s.threads.map WorkerThread.stepsLeft).sum) :
    stepsLeft { s with threads, pendingOne } ≤ s.stepsLeft := by
  simp only [stepsLeft, hlength]
  omega

/-- A closed queue stays closed. -/
theorem closed_step (hclosed : s.queue.closed = true) (action : ThreadAction) :
    (s.step action).queue.closed = true := by
  rcases simulates_pool s action with hsame | ⟨action', hstep⟩
  · have hqueue : (s.step action).queue = s.queue := congrArg Pool.queue hsame
    rw [hqueue]
    exact hclosed
  · have hqueue : (s.step action).queue = (s.toPool.step action').queue :=
      congrArg Pool.queue hstep
    rw [hqueue]
    exact (Pool.closed_step hclosed action').1

/-- A worker that has the mutex on a closed queue takes an item or leaves. -/
theorem stepsLeft_pop (hclosed : s.queue.closed = true) {i : ℕ} {thread : WorkerThread}
    (hthread : s.threads[i]? = some thread) (hawake : thread.stepsLeft = 1) :
    1 + (s.pop i).stepsLeft ≤ s.stepsLeft := by
  rw [pop]
  split
  · next item queue hpop =>
      have hitems := (BoundedQueue.pop_eq_item hpop).1
      have hsum := sum_map_set_add WorkerThread.stepsLeft hthread (.handling item)
      rw [hawake, show (WorkerThread.handling item).stepsLeft = 3 from rfl] at hsum
      simp only [stepsLeft, hitems, List.length_cons, List.length_set]
      omega
  · have hsum := sum_map_set_add WorkerThread.stepsLeft hthread .exited
    rw [hawake, show WorkerThread.exited.stepsLeft = 0 from rfl] at hsum
    simp only [stepsLeft, List.length_set]
    omega
  · next hpop =>
      have hopen := (BoundedQueue.pop_eq_blocked hpop).2
      rw [hclosed] at hopen
      cases hopen

/-- On a closed queue every step is paid for by what is left. -/
theorem stepCost_add_stepsLeft_le (hclosed : s.queue.closed = true) (action : ThreadAction) :
    s.stepCost action + (s.step action).stepsLeft ≤ s.stepsLeft + s.stopCharge action := by
  have hidle : ∀ {action}, s.advances action = false → (s.step action).stepsLeft ≤ s.stepsLeft →
      s.stepCost action + (s.step action).stepsLeft ≤ s.stepsLeft + s.stopCharge action := by
    intro action hcost hle
    rw [stepCost, hcost, if_neg Bool.false_ne_true, Nat.zero_add]
    exact Nat.le_trans hle (Nat.le_add_right _ _)
  cases action with
  | trySubmit item =>
      refine hidle rfl ?_
      simp only [step]
      split
      · next queue hpush =>
          have hopen := (BoundedQueue.tryPush_eq_true hpush).2.2.2.1
          rw [hclosed] at hopen
          cases hopen
      · next queue hpush =>
          obtain rfl := BoundedQueue.tryPush_eq_false hpush
          exact Nat.le_refl _
  | notifyOne first others =>
      refine hidle rfl ?_
      simp only [step]
      split
      · exact Nat.le_refl _
      split
      · split
        · obtain ⟨hlength, hsum⟩ := foldl_wakeThread_le others (wakeThread s.threads first)
          exact stepsLeft_threads_le (hlength.trans (length_wakeThread _ _))
            (Nat.le_trans hsum (sum_wakeThread_le _ _))
        · exact Nat.le_refl _
      · exact Nat.le_refl _
  | wakeSpuriously i =>
      exact hidle rfl
        (stepsLeft_threads_le (length_wakeThread _ _) (sum_wakeThread_le _ _))
  | stop =>
      simp only [step, stepCost, advances, stepsLeft, stopCharge, BoundedQueue.close,
        List.map_append, List.sum_append, List.map_singleton, List.sum_singleton,
        StopCall.stepsLeft, Bool.false_eq_true, if_false]
      omega
  | check i =>
      cases hthread : s.threads[i]? with
      | none =>
          refine hidle (by simp only [advances, hthread]) ?_
          simp only [step, hthread]
          exact Nat.le_refl _
      | some thread =>
          cases thread with
          | entering | notified =>
              simp only [step, stepCost, advances, hthread, if_true]
              exact stepsLeft_pop hclosed hthread rfl
          | asleep | handling | completing | exited =>
              refine hidle (by simp only [advances, hthread]) ?_
              simp only [step, hthread]
              exact Nat.le_refl _
  | runHandler i =>
      by_cases hthread : ∃ item, s.threads[i]? = some (.handling item)
      · obtain ⟨item, hthread⟩ := hthread
        have hsum := sum_map_set_add WorkerThread.stepsLeft hthread
          (.completing (Network.runHandler s.handler s.calls.length item))
        simp only [WorkerThread.stepsLeft] at hsum
        simp only [step, stepCost, advances, hthread, stepsLeft, List.length_set, if_true]
        omega
      · refine hidle ?_ ?_
        · rw [advances]
          split
          · next hitem => exact absurd ⟨_, hitem⟩ hthread
          · rfl
        · rw [step]
          split
          · next hitem => exact absurd ⟨_, hitem⟩ hthread
          · exact Nat.le_refl _
  | complete i =>
      by_cases hthread : ∃ completion, s.threads[i]? = some (.completing completion)
      · obtain ⟨completion, hthread⟩ := hthread
        have hsum := sum_map_set_add WorkerThread.stepsLeft hthread .entering
        simp only [WorkerThread.stepsLeft] at hsum
        simp only [step, stepCost, advances, hthread, stepsLeft, List.length_set, if_true]
        omega
      · refine hidle ?_ ?_
        · rw [advances]
          split
          · next hcompletion => exact absurd ⟨_, hcompletion⟩ hthread
          · rfl
        · rw [step]
          split
          · next hcompletion => exact absurd ⟨_, hcompletion⟩ hthread
          · exact Nat.le_refl _
  | notifyAll j =>
      by_cases hstop : s.stops[j]? = some .notifying
      · have hwake := sum_wakeAll_le s.threads
        have hsum := sum_map_set_add (StopCall.stepsLeft s.threads.length) hstop (.joining 0)
        simp only [StopCall.stepsLeft] at hsum
        simp only [step, stepCost, advances, hstop, stepsLeft, List.length_map, decide_true,
          if_true]
        omega
      · refine hidle (decide_eq_false hstop) ?_
        rw [step]
        split
        · next hnotifying => exact absurd hnotifying hstop
        · exact Nat.le_refl _
  | join j =>
      by_cases hexited : ∃ joined, s.stops[j]? = some (.joining joined) ∧
          s.threads[joined]? = some .exited
      · obtain ⟨joined, hstop, hexited⟩ := hexited
        have hbound := (List.getElem?_eq_some_iff.mp hexited).1
        have hsum := sum_map_set_add (StopCall.stepsLeft s.threads.length) hstop
          (.joining (joined + 1))
        simp only [StopCall.stepsLeft] at hsum
        simp only [step, stepCost, advances, hstop, hexited, stepsLeft, decide_true, if_true]
        omega
      · refine hidle ?_ ?_
        · rw [advances]
          split
          · next joined hstop => exact decide_eq_false fun h => hexited ⟨joined, hstop, h⟩
          · rfl
        · rw [step]
          split
          · next joined hstop =>
              rw [if_neg fun h => hexited ⟨joined, hstop, h⟩]
          · exact Nat.le_refl _

/-- As long as a call of `Stop` has not returned, some worker or some call of `Stop` has
a step to make. -/
theorem exists_advances (hsound : Pool.Sound config s.toPool)
    (hattended : s.toQueueThreads.Attended) (hclosed : s.queue.closed = true) {call : StopCall}
    (hcall : call ∈ s.stops) (hrunning : call ≠ .joining s.threads.length) :
    ∃ action, s.advances action = true := by
  by_cases hnotifying : .notifying ∈ s.stops
  · obtain ⟨j, hj⟩ := List.mem_iff_getElem?.mp hnotifying
    exact ⟨.notifyAll j, decide_eq_true hj⟩
  have hnone : .asleep ∉ s.threads := by
    intro hasleep
    have hsome : s.toQueueThreads.SomeAsleep := by
      simp [QueueThreads.SomeAsleep, toQueueThreads, hasleep]
    obtain ⟨other, hmem, hother⟩ := List.countP_pos_iff.mp (hattended.closed hclosed hsome)
    cases other with
    | notifying => exact hnotifying hmem
    | joining => cases hother
  cases call with
  | notifying => exact absurd hcall hnotifying
  | joining joined =>
      obtain ⟨hle, -⟩ := hsound.joined joined (List.mem_map.mpr ⟨_, hcall, rfl⟩)
      have hlt : joined < s.threads.length := by
        simp only [toPool, List.length_map] at hle
        refine Nat.lt_of_le_of_ne hle ?_
        rintro rfl
        exact hrunning rfl
      obtain ⟨j, hj⟩ := List.mem_iff_getElem?.mp hcall
      have hthread := List.getElem?_eq_getElem hlt
      cases hstate : s.threads[joined] with
      | exited =>
          rw [hstate] at hthread
          exact ⟨.join j, by simp only [advances, hj, hthread, decide_true]⟩
      | entering | notified =>
          rw [hstate] at hthread
          exact ⟨.check joined, by simp only [advances, hthread]⟩
      | asleep => exact absurd (hstate ▸ List.getElem_mem hlt) hnone
      | handling item =>
          rw [hstate] at hthread
          exact ⟨.runHandler joined, by simp only [advances, hthread]⟩
      | completing completion =>
          rw [hstate] at hthread
          exact ⟨.complete joined, by simp only [advances, hthread]⟩

/-- A call of `Stop` that has returned leaves nothing to do. -/
theorem idle_of_returned (hsound : Pool.Sound config s.toPool) (hworkers : 0 < config.workerCount)
    (hreturned : .joining config.workerCount ∈ s.stops) :
    (∀ thread ∈ s.threads, thread = .exited) ∧ s.popped = s.accepted ∧
      s.accepted.Perm (s.completed.map Completion.item) := by
  have hlength : s.threads.length = config.workerCount := by
    rw [← hsound.workerCount, toPool, List.length_map]
  have hstopped : s.toPool.Stopped := by
    rw [Pool.Stopped, hsound.workerCount]
    exact List.mem_map.mpr ⟨_, hreturned, rfl⟩
  obtain ⟨-, hexited⟩ := hsound.joined _ hstopped
  obtain ⟨hitems, hheld⟩ := hsound.idle_of_stopped hworkers hstopped
  have hordered := hsound.ordered
  have hconserved := hsound.conserved
  rw [hitems, List.append_nil] at hordered
  rw [hitems, hheld] at hconserved
  refine ⟨fun thread hmem => ?_, hordered, hconserved⟩
  obtain ⟨i, hi, rfl⟩ := List.mem_iff_getElem.mp hmem
  have hthread := hexited i (by rwa [toPool, List.length_map])
  rw [toPool, List.getElem?_map, List.getElem?_eq_getElem hi] at hthread
  exact WorkerThread.toPoolWorker_eq_exited.mp (Option.some.inj hthread)

theorem run_append (s : PoolThreads) (before later : List ThreadAction) :
    s.run (before ++ later) = (s.run before).run later := List.foldl_append

theorem closed_run (hclosed : s.queue.closed = true) (actions : List ThreadAction) :
    (s.run actions).queue.closed = true := by
  induction actions generalizing s with
  | nil => exact hclosed
  | cons action actions ih => exact ih (closed_step hclosed action)

end PoolThreads

/-- With its condition variable, lost notifications and spurious wake-ups, every
interleaving of the pool is an interleaving of the pool whose `Pop` blocks or returns,
and one of consumers around a queue. -/
theorem poolThreads_refine {config : WorkerPoolConfig} {onComplete : Bool}
    {handler : Option PoolHandler} {pool : PoolThreads}
    (hcreate : PoolThreads.create config onComplete handler = .ok pool)
    (actions : List ThreadAction) :
    (∃ coarse poolActions, Pool.create config onComplete handler = .ok coarse ∧
      poolActions.length ≤ actions.length ∧
      (pool.run actions).toPool = coarse.run poolActions) ∧
    ∃ queueActions, queueActions.length ≤ actions.length ∧
      (pool.run actions).toQueueThreads =
        QueueThreads.run config.queueCapacity config.workerCount queueActions := by
  obtain ⟨hpool, hqueue⟩ := PoolThreads.create_eq_ok hcreate
  constructor
  · obtain ⟨poolActions, hlength, hview⟩ := PoolThreads.simulates_pool.exists_run pool actions
    exact ⟨_, poolActions, hpool, hlength, hview⟩
  · obtain ⟨queueActions, hlength, hview⟩ :=
      PoolThreads.simulates_queueThreads.exists_run pool actions
    rw [hqueue] at hview
    exact ⟨queueActions, hlength, hview⟩

/-- `Stop` returns, in a program whose calls of it do not overlap. Once the queue is closed,
in every interleaving the workers and the calls of `Stop` together make no more steps than
were left and those of later calls; while one of the calls has not returned, one of them has
a step to make; and when one has returned, all workers have exited, and everything that was
accepted was popped in order and completed, once each. -/
theorem pool_stop_returns {config : WorkerPoolConfig} {onComplete : Bool}
    {handler : Option PoolHandler} {pool : PoolThreads}
    (hcreate : PoolThreads.create config onComplete handler = .ok pool)
    (before later : List ThreadAction)
    (hclosed : (pool.run before).queue.closed = true) :
    tally PoolThreads.step PoolThreads.stepCost (pool.run before) later ≤
        (pool.run before).stepsLeft +
          tally PoolThreads.step PoolThreads.stopCharge (pool.run before) later ∧
    (∀ call ∈ (pool.run (before ++ later)).stops, call ≠ .joining config.workerCount →
      ∃ action, (pool.run (before ++ later)).advances action = true) ∧
    (.joining config.workerCount ∈ (pool.run (before ++ later)).stops →
      (∀ thread ∈ (pool.run (before ++ later)).threads, thread = .exited) ∧
      (pool.run (before ++ later)).popped = (pool.run (before ++ later)).accepted ∧
      (pool.run (before ++ later)).accepted.Perm
        ((pool.run (before ++ later)).completed.map Completion.item)) := by
  have hsound := PoolThreads.sound_toPool hcreate (before ++ later)
  have hlength : (pool.run (before ++ later)).threads.length = config.workerCount := by
    rw [← hsound.workerCount, PoolThreads.toPool, List.length_map]
  refine ⟨?_, fun call hcall hrunning => ?_, fun hreturned => ?_⟩
  · have hpaid := tally_le_of_potential (fun s : PoolThreads => s.queue.closed = true)
      PoolThreads.stepsLeft (fun _ action h => PoolThreads.closed_step h action)
      (fun _ action h => PoolThreads.stepCost_add_stepsLeft_le h action) hclosed later
    exact Nat.le_trans (Nat.le_add_right _ _) hpaid
  · rw [← hlength] at hrunning
    refine PoolThreads.exists_advances hsound
      (PoolThreads.attended_toQueueThreads hcreate (before ++ later)) ?_ hcall hrunning
    rw [PoolThreads.run_append]
    exact PoolThreads.closed_run hclosed later
  · exact PoolThreads.idle_of_returned hsound
      (Pool.create_eq_ok (PoolThreads.create_eq_ok hcreate).1).2.1 hreturned

namespace PoolThreads.Sample

/-- One worker is asleep and one has an item when `Stop` is called; the sleeper is woken
by `notify_all` and finds nothing. -/
def before : List ThreadAction :=
  [.check 0, .check 1, .trySubmit Pool.Sample.first, .notifyOne 1 [], .check 1, .stop]

def later : List ThreadAction :=
  [.notifyAll 0, .check 0, .join 0, .runHandler 1, .complete 1, .check 1, .join 0]

def pool : PoolThreads where
  queue := ⟨1, [], false, Nat.zero_le _⟩
  handler := Pool.Sample.handler
  threads := [.entering, .entering]
  pendingOne := 0
  stops := []
  accepted := []
  popped := []
  calls := []
  completed := []

theorem create_eq : create ⟨2, 1⟩ true (some Pool.Sample.handler) = .ok pool := rfl

end PoolThreads.Sample

theorem poolThreads_refine_sample :
    ∃ coarse poolActions,
      Pool.create ⟨2, 1⟩ true (some Pool.Sample.handler) = .ok coarse ∧
        poolActions.length ≤ PoolThreads.Sample.before.length ∧
        (PoolThreads.Sample.pool.run PoolThreads.Sample.before).toPool =
          coarse.run poolActions :=
  (poolThreads_refine PoolThreads.Sample.create_eq PoolThreads.Sample.before).1

theorem pool_stop_returns_sample :
    let s := PoolThreads.Sample.pool.run (PoolThreads.Sample.before ++ PoolThreads.Sample.later)
    (PoolThreads.Sample.pool.run PoolThreads.Sample.before).queue.closed = true ∧
      s.popped = s.accepted := by
  have hreturns := pool_stop_returns PoolThreads.Sample.create_eq PoolThreads.Sample.before
    PoolThreads.Sample.later rfl
  exact ⟨rfl, (hreturns.2.2 (by decide)).2.1⟩

end PulseCore.Network
