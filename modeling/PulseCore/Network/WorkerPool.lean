/-
# The worker pool and what it shares with the reactor

Requests leave the reactor as work items through a bounded queue and come back
as work results in the list of completed work. Between the two, a worker holds
the item it popped while its handler runs. A worker that has pushed its result
still owes the reactor a wake-up, so publishing takes two steps: `finish` runs
the handler and appends the result, `notify` writes the eventfd. `Pipeline`
collects everything that both the reactor thread and the worker threads touch.

Worker threads act at any time and in any order. A step names the worker that
takes it; a step that this worker cannot take just now changes nothing.
-/

import PulseCore.Core.BoundedQueue
import PulseCore.Core.Handler
import PulseCore.Foundation.Ledger
import PulseCore.Network.Connection
import Mathlib.Data.List.Perm.Basic

namespace PulseCore.Network

open PulseCore.Foundation PulseCore.Core PulseCore.Protocol

structure WorkItem where
  connectionId : ConnectionId
  sequence : UInt64
  request : Message
  deriving DecidableEq

structure WorkResult where
  connectionId : ConnectionId
  sequence : UInt64
  response : Message
  deriving DecidableEq

/-- Which request of which connection an item or a result belongs to. -/
abbrev WorkKey := ConnectionId × UInt64

def WorkItem.key (item : WorkItem) : WorkKey := (item.connectionId, item.sequence)

def WorkResult.key (result : WorkResult) : WorkKey := (result.connectionId, result.sequence)

/-- A request handler. It gives no response when it throws; the worker catches
every exception and does not look at it. -/
abbrev WorkHandler := Message → Option Message

/-- The handler a server has by default. -/
def defaultHandler : WorkHandler := fun request => some (handleOwnedRequest request)

def workerHandlerErrorResponse (requestId : UInt64) : Message :=
  { type := .kErrorResponse
    requestId
    payload := errorPayload "worker handler failed" }

/-- The response a worker publishes for a request. -/
def respond (handler : WorkHandler) (request : Message) : Message :=
  match handler request with
  | some response => response
  | none => workerHandlerErrorResponse request.requestId

/-- The result a worker publishes for an item. -/
def WorkItem.result (handler : WorkHandler) (item : WorkItem) : WorkResult :=
  { connectionId := item.connectionId
    sequence := item.sequence
    response := respond handler item.request }

@[simp]
theorem respond_defaultHandler (request : Message) :
    respond defaultHandler request = handleOwnedRequest request := rfl

@[simp]
theorem WorkItem.result_key (handler : WorkHandler) (item : WorkItem) :
    (item.result handler).key = item.key := rfl

/-- The largest value an eventfd counter can have. -/
def kMaxEventfdCounter : ℕ := UInt64.size - 2

/-- A non-blocking eventfd. -/
structure Eventfd where
  counter : ℕ
  counter_le : counter ≤ kMaxEventfdCounter

/-- The answer of `read` or `write` on a descriptor: a byte count or an error. -/
inductive IoResult
  | bytes (count : ℕ)
  | failed (error : Errno)
  deriving DecidableEq

namespace Eventfd

def create : Eventfd := ⟨0, Nat.zero_le _⟩

/-- Write 1 to the counter. A saturated counter refuses with `EAGAIN`. -/
def write (e : Eventfd) (interrupted : Bool) : IoResult × Eventfd :=
  if interrupted then (.failed .eintr, e)
  else if hroom : e.counter + 1 ≤ kMaxEventfdCounter then (.bytes 8, ⟨e.counter + 1, hroom⟩)
  else (.failed .eagain, e)

/-- Read the counter and reset it. A zero counter refuses with `EAGAIN`. -/
def read (e : Eventfd) (interrupted : Bool) : IoResult × Eventfd :=
  if interrupted then (.failed .eintr, e)
  else if e.counter = 0 then (.failed .eagain, e)
  else (.bytes 8, create)

/-- Whatever a write answers, unless it was interrupted the counter is positive
behind it. -/
theorem counter_write_pos (e : Eventfd) : 0 < (e.write false).2.counter := by
  unfold write
  rw [if_neg Bool.false_ne_true]
  split
  · exact Nat.succ_pos _
  · next hroom =>
      have hmax : 0 < kMaxEventfdCounter := by decide
      show 0 < e.counter
      omega

theorem counter_le_write (e : Eventfd) (interrupted : Bool) :
    e.counter ≤ (e.write interrupted).2.counter := by
  unfold write
  split
  · exact Nat.le_refl _
  split
  · exact Nat.le_succ _
  · exact Nat.le_refl _

end Eventfd

/-- One pass of the loop in `NotifyWorkerWakeup`: whether it goes round. -/
def notifyAgain : IoResult → Bool
  | .bytes _ => false
  | .failed error => error = .eintr

/-- Where a worker thread stands in `WorkerLoop`. -/
inductive Worker
  /-- About to call `Pop`. -/
  | idle
  /-- Running the handler on the item it popped. -/
  | holding (item : WorkItem)
  /-- Behind the push to `completed_work_`, before the write to the eventfd. -/
  | notifying
  /-- `Pop` reported the end. -/
  | exited
  deriving DecidableEq

/-- The item a worker holds. -/
def Worker.held : Worker → Option WorkItem
  | .holding item => some item
  | _ => none

/-- A step of one worker thread. -/
inductive WorkerAction
  | pop (worker : ℕ)
  | finish (worker : ℕ)
  | notify (worker : ℕ) (interrupted : Bool)

structure Pipeline where
  queue : BoundedQueue WorkItem
  workers : List Worker
  completedWork : List WorkResult
  workerWakeup : Eventfd
  /-- The items `TrySubmit` has accepted, in order. -/
  accepted : List WorkItem

namespace Pipeline

def trySubmit (p : Pipeline) (item : WorkItem) : Bool × Pipeline :=
  match p.queue.tryPush item with
  | (true, queue) => (true, { p with queue, accepted := p.accepted ++ [item] })
  | (false, queue) => (false, { p with queue })

/-- One step of a worker thread. -/
def work (handler : WorkHandler) (p : Pipeline) : WorkerAction → Pipeline
  | .pop i =>
      match p.workers[i]? with
      | some .idle =>
          match p.queue.pop with
          | .item item queue => { p with queue, workers := p.workers.set i (.holding item) }
          | .nullopt => { p with workers := p.workers.set i .exited }
          | .blocked => p
      | _ => p
  | .finish i =>
      match p.workers[i]? with
      | some (.holding item) =>
          { p with
            workers := p.workers.set i .notifying
            completedWork := p.completedWork ++ [item.result handler] }
      | _ => p
  | .notify i interrupted =>
      match p.workers[i]? with
      | some .notifying =>
          let (answer, workerWakeup) := p.workerWakeup.write interrupted
          if notifyAgain answer then { p with workerWakeup }
          else { p with workerWakeup, workers := p.workers.set i .idle }
      | _ => p

/-- A sequence of steps of worker threads. -/
def workAll (handler : WorkHandler) (p : Pipeline) (actions : List WorkerAction) : Pipeline :=
  actions.foldl (work handler) p

/-- `WorkerPool::Stop` closes the queue; the workers then drain it and exit. -/
def stop (p : Pipeline) : Pipeline := { p with queue := p.queue.close }

/-- The items that are accepted and not answered yet: queued or held. -/
def items (p : Pipeline) : List WorkItem := p.queue.items ++ p.workers.filterMap Worker.held

/-- Everything of a connection that is on its way through the pipeline. -/
def keys (p : Pipeline) : List WorkKey :=
  p.items.map WorkItem.key ++ p.completedWork.map WorkResult.key

/-- The requests of one connection that were accepted, in order. -/
def requestsOf (p : Pipeline) (id : ConnectionId) : List Message :=
  (p.accepted.filter fun item => item.connectionId = id).map WorkItem.request

/-! ## What a step can do -/

/-- What a worker step can do to the work in the pipeline: move an item without
answering it, or replace an item by its result. Everything else stays. -/
structure WorkSpec (handler : WorkHandler) (p p' : Pipeline) : Prop where
  accepted : p'.accepted = p.accepted
  capacity : p'.queue.capacity = p.queue.capacity
  moved : (p'.items.Perm p.items ∧ p'.completedWork = p.completedWork) ∨
    ∃ item, p.items.Perm (item :: p'.items) ∧
      p'.completedWork = p.completedWork ++ [item.result handler]

theorem work_spec (handler : WorkHandler) (p : Pipeline) (action : WorkerAction) :
    WorkSpec handler p (p.work handler action) := by
  have hsame : WorkSpec handler p p := ⟨rfl, rfl, .inl ⟨.refl _, rfl⟩⟩
  cases action with
  | pop i =>
      simp only [work]
      split
      · next hworker =>
          split
          · next item queue hpop =>
              obtain ⟨hitems, hcapacity, -⟩ := BoundedQueue.pop_eq_item hpop
              refine ⟨rfl, hcapacity, .inl ⟨?_, rfl⟩⟩
              have hheld := filterMap_set_perm Worker.held hworker (.holding item)
              simp only [Worker.held, Option.toList_none, List.nil_append,
                Option.toList_some] at hheld
              simp only [items, hitems]
              exact (hheld.append_left _).trans List.perm_middle
          · refine ⟨rfl, rfl, .inl ⟨?_, rfl⟩⟩
            exact (filterMap_set_perm Worker.held hworker .exited).append_left _
          · exact hsame
      · exact hsame
  | finish i =>
      simp only [work]
      split
      · next item hworker =>
          refine ⟨rfl, rfl, .inr ⟨item, ?_, rfl⟩⟩
          have hheld := filterMap_set_perm Worker.held hworker .notifying
          simp only [Worker.held, Option.toList_none, List.nil_append,
            Option.toList_some, List.singleton_append] at hheld
          exact (hheld.symm.append_left _).trans List.perm_middle
      · exact hsame
  | notify i interrupted =>
      simp only [work]
      split
      · next hworker =>
          split
          · exact ⟨rfl, rfl, .inl ⟨.refl _, rfl⟩⟩
          · refine ⟨rfl, rfl, .inl ⟨?_, rfl⟩⟩
            exact (filterMap_set_perm Worker.held hworker .idle).append_left _
      · exact hsame

/-- Nothing is lost or duplicated between submission and publication. -/
theorem WorkSpec.keys_perm {handler : WorkHandler} {p p' : Pipeline}
    (h : WorkSpec handler p p') : p'.keys.Perm p.keys := by
  unfold keys
  rcases h.moved with ⟨hitems, hcompleted⟩ | ⟨item, hitems, hcompleted⟩
  · rw [hcompleted]
    exact (hitems.map _).append_right _
  · rw [hcompleted, List.map_append, List.map_singleton, WorkItem.result_key]
    have hmoved := (hitems.map WorkItem.key).append_right (p.completedWork.map WorkResult.key)
    rw [List.map_cons, List.cons_append] at hmoved
    refine List.Perm.trans ?_ hmoved.symm
    rw [← List.append_assoc]
    exact List.perm_append_singleton _ _

/-- Submission either appends the item to the queue or changes nothing. -/
theorem trySubmit_cases (p : Pipeline) (item : WorkItem) :
    (∃ p', p.trySubmit item = (true, p') ∧ p'.queue.items = p.queue.items ++ [item] ∧
      p'.accepted = p.accepted ++ [item] ∧ p'.workers = p.workers ∧
      p'.completedWork = p.completedWork ∧ p'.workerWakeup = p.workerWakeup ∧
      p'.queue.capacity = p.queue.capacity ∧ p'.queue.closed = p.queue.closed) ∨
    p.trySubmit item = (false, p) := by
  unfold trySubmit
  split
  · next queue hpush =>
      obtain ⟨hitems, hcapacity, hclosed, -⟩ := BoundedQueue.tryPush_eq_true hpush
      exact .inl ⟨_, rfl, hitems, rfl, rfl, rfl, rfl, hcapacity, hclosed⟩
  · next queue hpush =>
      obtain rfl := BoundedQueue.tryPush_eq_false hpush
      exact .inr rfl

end Pipeline

end PulseCore.Network
