/-
# The worker pool by itself

The pool with any number of workers, any capacity, any handler and a completion
callback that does not throw, used from any threads: submissions, the steps of the
workers and calls of `Stop` interleave freely. Each accepted item is in exactly one
place at every moment, and ends up completed exactly once.

A worker takes an item in three steps: it pops the item, runs the handler on the
request, and calls the completion callback with the result. The handler is given
the request by value, so behind it the worker only has the ids of the item and the
request id it kept. All workers call the one handler of the pool, which may throw,
and may keep a state: what it answers may be different from call to call.

`Stop` closes the queue and joins the workers one by one, and it may be called
several times. In C++ only one thread at a time may join another one, so the calls
of a program do not overlap; what is proved here does not depend on it.
-/

import PulseCore.Foundation.Ledger
import PulseCore.Network.WorkerPool

namespace PulseCore.Network

open PulseCore.Foundation PulseCore.Core PulseCore.Protocol

structure WorkerPoolConfig where
  workerCount : ℕ := 2
  queueCapacity : ℕ := 1024
  deriving DecidableEq

/-- What the handler does when it is called for the first time, the second time, and so
on. -/
abbrev PoolHandler := ℕ → WorkHandler

/-- What became of an item: which call of the handler was for it, and what is reported. -/
structure Completion where
  item : WorkItem
  call : ℕ
  result : WorkResult
  deriving DecidableEq

/-- The handler was called with the request of the item, and the result carries the ids of
the item, and the response of the handler or, when the handler threw, the error response for
the request. -/
def Completion.Faithful (handler : PoolHandler) (calls : List Message)
    (completion : Completion) : Prop :=
  calls[completion.call]? = some completion.item.request ∧
    completion.result.connectionId = completion.item.connectionId ∧
    completion.result.sequence = completion.item.sequence ∧
    completion.result.response =
      match handler completion.call completion.item.request with
      | some response => response
      | none => workerHandlerErrorResponse completion.item.request.requestId

/-- Where a worker thread stands in `WorkerLoop`. -/
inductive PoolWorker
  /-- About to call `Pop`. -/
  | popping
  /-- In front of the handler with the item it popped. -/
  | handling (item : WorkItem)
  /-- Behind the handler, in front of the completion callback. -/
  | completing (completion : Completion)
  /-- `Pop` reported the end. -/
  | exited
  deriving DecidableEq

/-- The item a worker holds. -/
def PoolWorker.held : PoolWorker → Option WorkItem
  | .popping => none
  | .handling item => some item
  | .completing completion => some completion.item
  | .exited => none

/-- What a worker has to report. -/
def PoolWorker.completion : PoolWorker → Option Completion
  | .completing completion => some completion
  | _ => none

/-- The loop body of `WorkerLoop` between `Pop` and the callback, with the so-manieth call
of the handler. -/
def runHandler (handler : PoolHandler) (call : ℕ) (item : WorkItem) : Completion :=
  let requestId := item.request.requestId
  let response :=
    match handler call item.request with
    | some response => response
    | none => workerHandlerErrorResponse requestId
  ⟨item, call, ⟨item.connectionId, item.sequence, response⟩⟩

/-- A pool and its history. -/
structure Pool where
  queue : BoundedQueue WorkItem
  handler : PoolHandler
  workers : List PoolWorker
  /-- For each call of `Stop`, how many workers it has joined. -/
  stops : List ℕ
  /-- The items `TrySubmit` returned true for, in order. -/
  accepted : List WorkItem
  /-- The items `Pop` returned, in order. -/
  popped : List WorkItem
  /-- The requests the handler was called with, in order. -/
  calls : List Message
  /-- The calls of the completion callback, in order. -/
  completed : List Completion

/-- A step of one thread. -/
inductive PoolAction
  | trySubmit (item : WorkItem)
  | pop (worker : ℕ)
  | runHandler (worker : ℕ)
  | complete (worker : ℕ)
  /-- A thread calls `Stop`, which closes the queue. -/
  | stop
  /-- A call of `Stop` gets past the next worker. -/
  | join (stop : ℕ)

/-- The constructor in front of its threads: the queue, the checks, and `reserve`. An empty
`std::function` is none; of the callback it matters only whether there is one. -/
def WorkerPoolConfig.prepare (config : WorkerPoolConfig) (onComplete : Bool)
    (handler : Option PoolHandler) :
    Except ConstructionError (BoundedQueue WorkItem × PoolHandler) :=
  match (BoundedQueue.create config.queueCapacity : Except Exception (BoundedQueue WorkItem)) with
  | .error exception => .error (.exception exception)
  | .ok queue =>
      if config.workerCount = 0 then
        .error (.exception (.invalidArgument "worker count must be greater than zero"))
      else if onComplete = false then
        .error (.exception (.invalidArgument "worker completion callback must be set"))
      else
        match handler with
        | none => .error (.exception (.invalidArgument "worker handler must be set"))
        | some handler =>
            if config.workerCount > kMaxVectorSize then .error (.lengthError "vector::reserve")
            else .ok (queue, handler)

theorem WorkerPoolConfig.prepare_eq_ok {config : WorkerPoolConfig} {onComplete : Bool}
    {handler : Option PoolHandler} {queue : BoundedQueue WorkItem} {callee : PoolHandler}
    (hprepare : config.prepare onComplete handler = .ok (queue, callee)) :
    0 < config.workerCount ∧ handler = some callee ∧ queue.items = [] ∧
      queue.capacity = config.queueCapacity ∧ queue.closed = false := by
  unfold prepare at hprepare
  split at hprepare
  · cases hprepare
  next queue hqueue =>
  split at hprepare
  · cases hprepare
  next hworkers =>
  split at hprepare
  · cases hprepare
  split at hprepare
  · cases hprepare
  split at hprepare
  · cases hprepare
  cases hprepare
  unfold BoundedQueue.create at hqueue
  split at hqueue
  · cases hqueue
  cases hqueue
  exact ⟨Nat.pos_of_ne_zero hworkers, rfl, rfl, rfl, rfl⟩

namespace Pool

/-- The constructor, when all threads can be started. -/
def create (config : WorkerPoolConfig) (onComplete : Bool) (handler : Option PoolHandler) :
    Except ConstructionError Pool :=
  match config.prepare onComplete handler with
  | .error error => .error error
  | .ok (queue, handler) =>
      .ok ⟨queue, handler, .replicate config.workerCount .popping, [], [], [], [], []⟩

/-- One step; a step that the thread cannot take changes nothing. -/
def step (s : Pool) : PoolAction → Pool
  | .trySubmit item =>
      match s.queue.tryPush item with
      | (true, queue) => { s with queue, accepted := s.accepted ++ [item] }
      | (false, queue) => { s with queue }
  | .pop i =>
      match s.workers[i]? with
      | some .popping =>
          match s.queue.pop with
          | .item item queue =>
              { s with
                queue
                workers := s.workers.set i (.handling item)
                popped := s.popped ++ [item] }
          | .nullopt => { s with workers := s.workers.set i .exited }
          | .blocked => s
      | _ => s
  | .runHandler i =>
      match s.workers[i]? with
      | some (.handling item) =>
          { s with
            workers := s.workers.set i
              (.completing (Network.runHandler s.handler s.calls.length item))
            calls := s.calls ++ [item.request] }
      | _ => s
  | .complete i =>
      match s.workers[i]? with
      | some (.completing completion) =>
          { s with
            workers := s.workers.set i .popping
            completed := s.completed ++ [completion] }
      | _ => s
  | .stop => { s with queue := s.queue.close, stops := s.stops ++ [0] }
  | .join j =>
      match s.stops[j]? with
      | some joined =>
          -- `join` returns when the thread has exited
          if s.workers[joined]? = some .exited then { s with stops := s.stops.set j (joined + 1) }
          else s
      | none => s

/-- The pool behind a sequence of steps. -/
def run (s : Pool) (actions : List PoolAction) : Pool := actions.foldl step s

/-- The items that workers hold. -/
def held (s : Pool) : List WorkItem := s.workers.filterMap PoolWorker.held

/-- What the handler has been called for, reported or not. -/
def answered (s : Pool) : List Completion :=
  s.workers.filterMap PoolWorker.completion ++ s.completed

/-- Some call of `Stop` has joined all workers. -/
def Stopped (s : Pool) : Prop := s.workers.length ∈ s.stops

/-! ## What holds at every moment -/

variable {config : WorkerPoolConfig} {s : Pool}

/-- The invariant of a pool. -/
structure Sound (config : WorkerPoolConfig) (s : Pool) : Prop where
  /-- Every accepted item is queued, held or completed, and in one place only. -/
  conserved : s.accepted.Perm (s.queue.items ++ (s.held ++ s.completed.map Completion.item))
  ordered : s.popped ++ s.queue.items = s.accepted
  capacity : s.queue.capacity = config.queueCapacity
  workerCount : s.workers.length = config.workerCount
  /-- The handler was called once for each item it was called for. -/
  called : (s.answered.map Completion.call).Perm (List.range s.calls.length)
  faithful : ∀ completion ∈ s.answered, completion.Faithful s.handler s.calls
  /-- A worker exits only when there is nothing left and nothing more can come. -/
  drained : .exited ∈ s.workers → s.queue.closed = true ∧ s.queue.items = []
  /-- A call of `Stop` is past workers that have exited. -/
  joined : ∀ n ∈ s.stops, n ≤ s.workers.length ∧ ∀ i < n, s.workers[i]? = some .exited

/-- A call of the handler is the last one so far. -/
theorem faithful_runHandler (handler : PoolHandler) (calls : List Message) (item : WorkItem) :
    (Network.runHandler handler calls.length item).Faithful handler
      (calls ++ [item.request]) := by
  refine ⟨?_, rfl, rfl, rfl⟩
  simp only [Network.runHandler, List.getElem?_concat_length]

/-- The calls that come later do not concern it. -/
theorem faithful_append {handler : PoolHandler} {calls : List Message} {completion : Completion}
    (h : completion.Faithful handler calls) (later : List Message) :
    completion.Faithful handler (calls ++ later) := by
  obtain ⟨hlt, -⟩ := List.getElem?_eq_some_iff.mp h.1
  refine ⟨?_, h.2⟩
  rw [List.getElem?_append_left hlt]
  exact h.1

/-- A pool starts with nothing, and with workers that are about to pop. -/
theorem sound_of_popping {queue : BoundedQueue WorkItem} (handler : PoolHandler)
    (hitems : queue.items = []) (hcapacity : queue.capacity = config.queueCapacity) :
    Sound config
      ⟨queue, handler, .replicate config.workerCount .popping, [], [], [], [], []⟩ := by
  have hheld : (List.replicate config.workerCount PoolWorker.popping).filterMap
      PoolWorker.held = [] := List.filterMap_replicate_of_none rfl
  have hanswered : (List.replicate config.workerCount PoolWorker.popping).filterMap
      PoolWorker.completion = [] := List.filterMap_replicate_of_none rfl
  refine ⟨?_, ?_, hcapacity, List.length_replicate, ?_, ?_, ?_, List.forall_mem_nil _⟩
  · simp only [held, hheld, hitems]
    exact .refl _
  · simp only [hitems, List.append_nil]
  · simp only [answered, hanswered]
    exact .refl _
  · simp only [answered, hanswered]
    exact List.forall_mem_nil _
  · intro hmem
    cases List.eq_of_mem_replicate hmem

theorem create_eq_ok {onComplete : Bool} {handler : Option PoolHandler}
    (hcreate : create config onComplete handler = .ok s) :
    handler = some s.handler ∧ 0 < config.workerCount ∧ Sound config s := by
  unfold create at hcreate
  split at hcreate
  · cases hcreate
  next queue callee hprepare =>
  cases hcreate
  obtain ⟨hworkers, hhandler, hitems, hcapacity, -⟩ := config.prepare_eq_ok hprepare
  exact ⟨hhandler, hworkers, sound_of_popping callee hitems hcapacity⟩

theorem sound_trySubmit (h : Sound config s) (item : WorkItem) :
    Sound config (s.step (.trySubmit item)) := by
  rw [step]
  split
  · next queue hpush =>
      obtain ⟨hitems, hcapacity, hclosed, hopen, -⟩ := BoundedQueue.tryPush_eq_true hpush
      refine { h with conserved := ?_, ordered := ?_, capacity := ?_, drained := ?_ }
      · -- The new item goes to the end of the queue, in front of what is held.
        simp only [hitems, List.append_assoc]
        refine (List.perm_append_singleton _ _).trans ?_
        refine (h.conserved.cons item).trans ?_
        exact List.perm_middle.symm
      · simp only [hitems]
        rw [← List.append_assoc, h.ordered]
      · exact hcapacity.trans h.capacity
      · intro hexited
        have hclosed' := (h.drained hexited).1
        rw [hopen] at hclosed'
        cases hclosed'
  · next queue hpush =>
      obtain rfl := BoundedQueue.tryPush_eq_false hpush
      exact h

/-- A worker that has exited is not replaced by a step of another one. -/
theorem exited_of_set {workers : List PoolWorker} {i : ℕ} {old new : PoolWorker}
    (hold : workers[i]? = some old) (hrunning : old ≠ .exited) {j : ℕ}
    (hexited : workers[j]? = some .exited) : (workers.set i new)[j]? = some .exited := by
  have hne : i ≠ j := by
    rintro rfl
    rw [hold] at hexited
    exact hrunning (Option.some.inj hexited)
  rw [List.getElem?_set_ne hne]
  exact hexited

/-- Replacing a worker that is still running keeps what `Stop` has seen. -/
theorem Sound.joined_set (h : Sound config s) {i : ℕ} {old : PoolWorker}
    (hold : s.workers[i]? = some old) (hrunning : old ≠ .exited) (new : PoolWorker) :
    ∀ n ∈ s.stops, n ≤ (s.workers.set i new).length ∧
      ∀ j < n, (s.workers.set i new)[j]? = some .exited := by
  intro n hmem
  obtain ⟨hle, hexited⟩ := h.joined n hmem
  refine ⟨by rwa [List.length_set], fun j hj => ?_⟩
  exact exited_of_set hold hrunning (hexited j hj)

theorem mem_of_mem_set {workers : List PoolWorker} {i : ℕ} {new worker : PoolWorker}
    (hmem : worker ∈ workers.set i new) (hne : worker ≠ new) : worker ∈ workers :=
  (List.mem_or_eq_of_mem_set hmem).resolve_right hne

/-- A worker that has nothing to report changes nothing of what is answered. -/
theorem answered_set {i : ℕ} {old new : PoolWorker} (hold : s.workers[i]? = some old)
    (hquiet : old.completion = none) (hquiet' : new.completion = none) :
    ((s.workers.set i new).filterMap PoolWorker.completion ++ s.completed).Perm s.answered := by
  have hset := filterMap_set_perm PoolWorker.completion hold new
  rw [hquiet, hquiet', Option.toList_none, List.nil_append, List.nil_append] at hset
  exact hset.append_right s.completed

theorem Sound.called_of_perm (h : Sound config s) {answered : List Completion}
    (hperm : answered.Perm s.answered) :
    (answered.map Completion.call).Perm (List.range s.calls.length) :=
  (hperm.map _).trans h.called

theorem Sound.faithful_of_perm (h : Sound config s) {answered : List Completion}
    (hperm : answered.Perm s.answered) :
    ∀ completion ∈ answered, completion.Faithful s.handler s.calls :=
  fun completion hmem => h.faithful completion (hperm.subset hmem)

theorem sound_pop (h : Sound config s) (i : ℕ) : Sound config (s.step (.pop i)) := by
  rw [step]
  split
  · next hworker =>
      split
      · next item queue hpop =>
          obtain ⟨hitems, hcapacity, hclosed⟩ := BoundedQueue.pop_eq_item hpop
          have hheld := filterMap_set_perm PoolWorker.held hworker (.handling item)
          simp only [PoolWorker.held, Option.toList_none, List.nil_append, Option.toList_some,
            List.singleton_append] at hheld
          refine { h with
            conserved := ?_, ordered := ?_, capacity := ?_, workerCount := ?_,
            called := h.called_of_perm (answered_set hworker rfl rfl),
            faithful := h.faithful_of_perm (answered_set hworker rfl rfl),
            drained := ?_, joined := h.joined_set hworker (by simp) _ }
          · have hconserved := h.conserved
            rw [hitems, List.cons_append] at hconserved
            refine hconserved.trans (List.perm_middle.symm.trans ?_)
            exact (hheld.symm.append_right _).append_left _
          · simp only [List.append_assoc, List.singleton_append]
            rw [← hitems, h.ordered]
          · exact hcapacity.trans h.capacity
          · rw [List.length_set]
            exact h.workerCount
          · intro hexited
            have hempty := (h.drained (mem_of_mem_set hexited (by simp))).2
            rw [hitems] at hempty
            cases hempty
      · next hpop =>
          obtain ⟨hitems, hclosed⟩ := BoundedQueue.pop_eq_nullopt hpop
          have hheld := filterMap_set_perm PoolWorker.held hworker .exited
          simp only [PoolWorker.held, Option.toList_none, List.nil_append] at hheld
          refine { h with
            conserved := ?_, workerCount := ?_,
            called := h.called_of_perm (answered_set hworker rfl rfl),
            faithful := h.faithful_of_perm (answered_set hworker rfl rfl),
            drained := ?_, joined := h.joined_set hworker (by simp) _ }
          · exact h.conserved.trans ((hheld.symm.append_right _).append_left _)
          · rw [List.length_set]
            exact h.workerCount
          · exact fun _ => ⟨hclosed, hitems⟩
      · exact h
  · exact h

theorem sound_runHandler (h : Sound config s) (i : ℕ) :
    Sound config (s.step (.runHandler i)) := by
  rw [step]
  split
  · next item hworker =>
      have hheld := filterMap_set_perm PoolWorker.held hworker
        (.completing (Network.runHandler s.handler s.calls.length item))
      simp only [PoolWorker.held, Option.toList_some, List.singleton_append] at hheld
      have hanswered := (filterMap_set_perm PoolWorker.completion hworker
        (.completing (Network.runHandler s.handler s.calls.length item))).append_right s.completed
      simp only [PoolWorker.completion, Option.toList_none, List.nil_append, Option.toList_some,
        List.cons_append] at hanswered
      refine { h with
        conserved := ?_, workerCount := ?_, called := ?_, faithful := ?_, drained := ?_,
        joined := h.joined_set hworker (by simp) _ }
      · exact h.conserved.trans (((hheld.cons_inv).symm.append_right _).append_left _)
      · rw [List.length_set]
        exact h.workerCount
      · -- The new call has the next number.
        refine (hanswered.map Completion.call).trans ?_
        rw [List.length_append, List.length_singleton, List.range_succ, List.map_cons]
        exact (h.called.cons _).trans (List.perm_append_singleton _ _).symm
      · intro completion hmem
        rcases List.mem_cons.mp (hanswered.subset hmem) with rfl | hold
        · exact faithful_runHandler s.handler s.calls item
        · exact faithful_append (h.faithful completion hold) _
      · exact fun hexited => h.drained (mem_of_mem_set hexited (by simp))
  · exact h

theorem sound_complete (h : Sound config s) (i : ℕ) : Sound config (s.step (.complete i)) := by
  rw [step]
  split
  · next completion hworker =>
      have hheld := filterMap_set_perm PoolWorker.held hworker .popping
      simp only [PoolWorker.held, Option.toList_some, Option.toList_none, List.singleton_append,
        List.nil_append] at hheld
      have hanswered : ((s.workers.set i .popping).filterMap PoolWorker.completion ++
          (s.completed ++ [completion])).Perm s.answered := by
        have hset := filterMap_set_perm PoolWorker.completion hworker .popping
        simp only [PoolWorker.completion, Option.toList_some, Option.toList_none,
          List.singleton_append, List.nil_append] at hset
        rw [← List.append_assoc]
        exact (List.perm_append_singleton _ _).trans (hset.append_right s.completed)
      refine { h with
        conserved := ?_, workerCount := ?_, called := h.called_of_perm hanswered,
        faithful := h.faithful_of_perm hanswered, drained := ?_,
        joined := h.joined_set hworker (by simp) _ }
      · refine h.conserved.trans (List.Perm.append_left _ ?_)
        refine (hheld.symm.append_right _).trans ?_
        simp only [List.map_append, List.map_singleton, List.cons_append]
        rw [← List.append_assoc]
        exact (List.perm_append_singleton _ _).symm
      · rw [List.length_set]
        exact h.workerCount
      · exact fun hexited => h.drained (mem_of_mem_set hexited (by simp))
  · exact h

theorem sound_stop (h : Sound config s) : Sound config (s.step .stop) := by
  refine { h with drained := ?_, joined := ?_ }
  · exact fun hexited => ⟨rfl, (h.drained hexited).2⟩
  · intro n hmem
    rcases List.mem_append.mp hmem with hold | hnew
    · exact h.joined n hold
    · obtain rfl := List.mem_singleton.mp hnew
      exact ⟨Nat.zero_le _, fun i hi => absurd hi (Nat.not_lt_zero i)⟩

theorem sound_join (h : Sound config s) (j : ℕ) : Sound config (s.step (.join j)) := by
  rw [step]
  split
  · next n hn =>
      split
      · next hexited =>
          refine { h with joined := ?_ }
          intro m hmem
          rcases List.mem_or_eq_of_mem_set hmem with hold | rfl
          · exact h.joined m hold
          · obtain ⟨-, hpast⟩ := h.joined n (List.mem_of_getElem? hn)
            refine ⟨(List.getElem?_eq_some_iff.mp hexited).1, fun i hi => ?_⟩
            rcases Nat.lt_succ_iff_lt_or_eq.mp hi with hlt | rfl
            · exact hpast i hlt
            · exact hexited
      · exact h
  · exact h

theorem sound_step (h : Sound config s) (action : PoolAction) : Sound config (s.step action) := by
  cases action with
  | trySubmit item => exact sound_trySubmit h item
  | pop i => exact sound_pop h i
  | runHandler i => exact sound_runHandler h i
  | complete i => exact sound_complete h i
  | stop => exact sound_stop h
  | join j => exact sound_join h j

theorem sound_run (h : Sound config s) (actions : List PoolAction) :
    Sound config (s.run actions) := by
  apply List.foldlRecOn actions step h
  intro s h action _
  exact sound_step h action

/-- A closed queue stays closed and accepts nothing. -/
theorem closed_step (hclosed : s.queue.closed = true) (action : PoolAction) :
    (s.step action).queue.closed = true ∧ (s.step action).accepted = s.accepted := by
  cases action with
  | trySubmit item =>
      rw [step]
      split
      · next queue hpush =>
          have hopen := (BoundedQueue.tryPush_eq_true hpush).2.2.2.1
          rw [hclosed] at hopen
          cases hopen
      · next queue hpush =>
          obtain rfl := BoundedQueue.tryPush_eq_false hpush
          exact ⟨hclosed, rfl⟩
  | pop i =>
      rw [step]
      split
      · split
        · next hpop => exact ⟨(BoundedQueue.pop_eq_item hpop).2.2.trans hclosed, rfl⟩
        · exact ⟨hclosed, rfl⟩
        · exact ⟨hclosed, rfl⟩
      · exact ⟨hclosed, rfl⟩
  | runHandler i =>
      rw [step]
      split <;> exact ⟨hclosed, rfl⟩
  | complete i =>
      rw [step]
      split <;> exact ⟨hclosed, rfl⟩
  | stop => exact ⟨rfl, rfl⟩
  | join j =>
      rw [step]
      split
      · split <;> exact ⟨hclosed, rfl⟩
      · exact ⟨hclosed, rfl⟩

theorem accepted_run_of_closed (hclosed : s.queue.closed = true) (actions : List PoolAction) :
    (s.run actions).accepted = s.accepted := by
  induction actions generalizing s with
  | nil => rfl
  | cons action actions ih =>
      obtain ⟨hclosed', haccepted⟩ := closed_step hclosed action
      exact (ih hclosed').trans haccepted

theorem run_append (s : Pool) (before after : List PoolAction) :
    s.run (before ++ after) = (s.run before).run after :=
  List.foldl_append

/-- Behind a `Stop` that has returned nothing is queued or held. -/
theorem Sound.idle_of_stopped (h : Sound config s) (hworkers : 0 < config.workerCount)
    (hstopped : s.Stopped) : s.queue.items = [] ∧ s.held = [] := by
  obtain ⟨-, hexited⟩ := h.joined _ hstopped
  have hall : ∀ worker ∈ s.workers, worker = .exited := by
    intro worker hmem
    obtain ⟨i, hi, rfl⟩ := List.mem_iff_getElem.mp hmem
    exact Option.some.inj ((List.getElem?_eq_getElem hi).symm.trans (hexited i hi))
  constructor
  · have hfirst : 0 < s.workers.length := by
      rw [h.workerCount]
      exact hworkers
    exact (h.drained (List.mem_of_getElem? (hexited 0 hfirst))).2
  · rw [held, List.filterMap_eq_nil_iff]
    intro worker hmem
    rw [hall worker hmem]
    rfl

/-- The handler of a pool stays the same. -/
theorem handler_step (s : Pool) (action : PoolAction) : (s.step action).handler = s.handler := by
  cases action with
  | trySubmit item =>
      rw [step]
      split <;> rfl
  | pop i =>
      rw [step]
      split
      · split <;> rfl
      · rfl
  | runHandler i =>
      rw [step]
      split <;> rfl
  | complete i =>
      rw [step]
      split <;> rfl
  | stop => rfl
  | join j =>
      rw [step]
      split
      · split <;> rfl
      · rfl

theorem handler_run (s : Pool) (actions : List PoolAction) :
    (s.run actions).handler = s.handler := by
  apply List.foldlRecOn actions step (motive := fun s' => s'.handler = s.handler) rfl
  intro s' h action _
  exact (handler_step s' action).trans h

end Pool

/-- In every interleaving, and whatever the handler does: the accepted items are those
queued, held and completed, each once; they are popped in order; the queue keeps to its
capacity; the handler was called once for each item that a worker is done with, with the
request of that item, and what is reported carries the ids of the item and the response of
that call or the error response; nothing is accepted once the queue is closed; and when
`Stop` has returned all that was accepted is completed. -/
theorem pool_exactly_once {config : WorkerPoolConfig} {onComplete : Bool} {handler : PoolHandler}
    {pool : Pool} (hcreate : Pool.create config onComplete (some handler) = .ok pool)
    (actions : List PoolAction) :
    (pool.run actions).accepted.Perm
      ((pool.run actions).queue.items ++
        ((pool.run actions).held ++ (pool.run actions).completed.map Completion.item)) ∧
    (pool.run actions).popped ++ (pool.run actions).queue.items = (pool.run actions).accepted ∧
    (pool.run actions).queue.items.length ≤ config.queueCapacity ∧
    ((pool.run actions).answered.map Completion.call).Perm
      (List.range (pool.run actions).calls.length) ∧
    (∀ completion ∈ (pool.run actions).answered,
      (pool.run actions).calls[completion.call]? = some completion.item.request ∧
      completion.result.connectionId = completion.item.connectionId ∧
      completion.result.sequence = completion.item.sequence ∧
      completion.result.response =
        match handler completion.call completion.item.request with
        | some response => response
        | none => workerHandlerErrorResponse completion.item.request.requestId) ∧
    (∀ before after, actions = before ++ after → (pool.run before).queue.closed = true →
      (pool.run actions).accepted = (pool.run before).accepted) ∧
    ((pool.run actions).Stopped →
      (pool.run actions).accepted.Perm ((pool.run actions).completed.map Completion.item)) := by
  obtain ⟨hhandler, hworkers, hcreated⟩ := Pool.create_eq_ok hcreate
  have hsound := Pool.sound_run hcreated actions
  have hfaithful := hsound.faithful
  rw [Pool.handler_run, ← Option.some.inj hhandler] at hfaithful
  refine ⟨hsound.conserved, hsound.ordered, ?_, hsound.called, hfaithful, ?_, ?_⟩
  · rw [← hsound.capacity]
    exact (pool.run actions).queue.length_le
  · rintro before after rfl hclosed
    rw [Pool.run_append]
    exact Pool.accepted_run_of_closed hclosed after
  · intro hstopped
    obtain ⟨hitems, hheld⟩ := hsound.idle_of_stopped hworkers hstopped
    have hconserved := hsound.conserved
    rwa [hitems, hheld] at hconserved

namespace Pool.Sample

/-- A handler with a state: it answers requests with how often it was called, and throws when
it is called for the first time. -/
def handler : PoolHandler := fun call request =>
  if call = 0 then none else some ⟨.kEchoResponse, request.requestId, [UInt8.ofNat call]⟩

def first : WorkItem := ⟨⟨1⟩, 0, ⟨.kEchoRequest, 7, []⟩⟩

def second : WorkItem := ⟨⟨1⟩, 1, ⟨.kEchoRequest, 8, []⟩⟩

/-- Two items on two workers, and the handler is called for the second one first. `Stop` is
called while both are on their way. -/
def actions : List PoolAction :=
  [.trySubmit first, .pop 0, .trySubmit second, .stop, .join 0, .pop 1, .runHandler 1,
    .complete 1, .pop 1, .runHandler 0, .complete 0, .pop 0, .join 0, .join 0]

end Pool.Sample

theorem pool_exactly_once_sample :
    ∃ pool, Pool.create ⟨2, 1⟩ true (some Pool.Sample.handler) = .ok pool ∧
      (pool.run Pool.Sample.actions).Stopped ∧
      (pool.run Pool.Sample.actions).accepted.Perm
        ((pool.run Pool.Sample.actions).completed.map Completion.item) ∧
      ∀ completion ∈ (pool.run Pool.Sample.actions).answered,
        (pool.run Pool.Sample.actions).calls[completion.call]? =
          some completion.item.request := by
  have hcreate : Pool.create ⟨2, 1⟩ true (some Pool.Sample.handler) =
      .ok ⟨⟨1, [], false, Nat.zero_le _⟩, Pool.Sample.handler, [.popping, .popping], [], [], [],
        [], []⟩ := rfl
  obtain ⟨-, -, -, -, hanswers, -, hstopped⟩ := pool_exactly_once hcreate Pool.Sample.actions
  exact ⟨_, hcreate, List.mem_singleton.mpr rfl, hstopped (List.mem_singleton.mpr rfl),
    fun completion hmem => (hanswers completion hmem).1⟩

end PulseCore.Network
