/-
# Nothing waits for want of an event

When the reactor is in `epoll_wait`, the eventfd is not readable and no worker has
anything to do, only the network can move the server. In such a state nothing is
left undone: every complete frame that was received on a live connection is
answered, and the answers were sent or wait for the socket.

And such a state is never far away. Whatever is queued, held, published or announced
when the reactor polls, the workers and the reactor can bring it to an end by
themselves, without a single call on the socket of a client.
-/

import PulseCore.Foundation.Potential
import PulseCore.Network.Decoded
import PulseCore.Network.Stopping
import PulseCore.Network.Wakeup
import PulseCore.Traffic.Client
import PulseCore.Traffic.Progress

namespace PulseCore.Network

open PulseCore.Foundation PulseCore.Core PulseCore.Protocol PulseCore.Traffic
open Server (run step)

variable {config : ServerConfig} {descriptors : Descriptors} {actions : List Action}
  {s : Server} {id : ConnectionId} {c : Connection} {f : ConnectionFlow}

/-- Only the network can move the server. -/
structure Server.Quiet (s : Server) : Prop where
  polling : s.phase = .polling
  items : s.pipeline.items = []
  notified : Worker.notifying ∉ s.pipeline.workers
  silent : s.pipeline.workerWakeup.counter = 0

theorem run_wakeupDue (config : ServerConfig) (descriptors : Descriptors)
    (actions : List Action) : Server.WakeupDue (run config descriptors actions) := by
  apply Server.run_induction
  · obtain ⟨calls, hstart⟩ := (Server.starting_start config descriptors).eq
    rw [hstart]
    exact fun _ hwaiting => absurd rfl hwaiting
  · exact fun s action h => h.step action

/-- No result is waiting. -/
theorem Server.Quiet.completedWork (hquiet : (run config descriptors actions).Quiet) :
    (run config descriptors actions).pipeline.completedWork = [] := by
  by_contra hwaiting
  have hdue := run_wakeupDue config descriptors actions
  rcases hdue (by rw [hquiet.polling]; rfl) hwaiting with hpos | hnotifying
  · exact absurd hquiet.silent (Nat.ne_of_gt hpos)
  · exact hquiet.notified hnotifying

/-- What is queued for output behind the responses that were sent are all that are
missing. -/
theorem answered_of_quiet (hquiet : (run config descriptors actions).Quiet)
    (hlive : (run config descriptors actions).live id = some (c, f))
    (hcount : ((run config descriptors actions).pipeline.requestsOf id).length < UInt64.size) :
    f.nextResponseSequence = f.nextRequestSequence ∧ f.completedResponses.keys = [] ∧
    encodeAll ((frameFormat.frames
        ((run config descriptors actions).sockets id.value).received).map
          (respond config.options.handler)) =
      some (((run config descriptors actions).sockets id.value).sent ++ c.unsent) := by
  have hcompleted := hquiet.completedWork
  have hdecoded := Server.run_decoded config descriptors actions (by rw [hquiet.polling]; rfl) id
  obtain ⟨a, ha, hrest, hparsed, hinv⟩ := run_sessionInv hlive hcount
  rw [← ha] at hquiet hlive hcompleted hdecoded ⊢
  obtain ⟨hinbox, hbatch, hsettled⟩ := hrest (by rw [hquiet.polling]; rfl)
  -- Nothing is under way, so what is in flight is in the reorder map.
  have hkeys : a.view.keys = [] := by
    show a.server.pipeline.keys ++ a.batch.map WorkResult.key = []
    rw [hbatch, hquiet.polling, Pipeline.keys, hquiet.items, hcompleted]
    rfl
  have honce := hinv.flow.once
  rw [ledger, hkeys] at honce
  have hhead := (hsettled id c f hlive).head
  have hidle : ¬ f.nextResponseSequence.toNat < f.nextRequestSequence.toNat := by
    intro hbusy
    have hmem := (honce.mem_iff f.nextResponseSequence).mpr ⟨Nat.le_refl _, hbusy⟩
    exact AList.lookup_eq_none.mp hhead hmem
  have hanswered : f.nextResponseSequence.toNat = f.nextRequestSequence.toNat :=
    Nat.le_antisymm hinv.flow.ordered (Nat.le_of_not_lt hidle)
  refine ⟨UInt64.toNat_inj.mp hanswered, ?_, ?_⟩
  · apply List.eq_nil_iff_forall_not_mem.mpr
    intro n hn
    obtain ⟨hfrom, hto⟩ := (honce.mem_iff n).mp hn
    exact hidle (Nat.lt_of_le_of_lt hfrom hto)
  · have hsplits := hparsed.live _ (view_sessions hlive)
    simp only [hinbox, List.append_nil] at hsplits
    have hframes := (hsplits.eq_frames
      (FrameFormat.exhausted_of_needMoreData (hdecoded c f hlive))).1
    have houtput := hinv.stream.output
    rw [List.take_of_length_le (by rw [hanswered, hinv.flow.requests]), hframes] at houtput
    exact houtput

/-- When only the network can move the server, every complete frame that was received
on a live connection is answered: nothing is in flight, and what was sent together with
what waits for the socket are the responses to all of them. -/
theorem quiet_answered (config : ServerConfig) (descriptors : Descriptors)
    (actions : List Action) (id : ConnectionId) (c : Connection) (f : ConnectionFlow)
    (hquiet : (run config descriptors actions).Quiet)
    (hlive : (run config descriptors actions).live id = some (c, f))
    (hcount : ((run config descriptors actions).pipeline.requestsOf id).length < UInt64.size) :
    (run config descriptors actions).pipeline.completedWork = [] ∧
    f.nextResponseSequence = f.nextRequestSequence ∧ f.completedResponses.keys = [] ∧
    encodeAll ((frameFormat.frames
        ((run config descriptors actions).sockets id.value).received).map
          (respond config.options.handler)) =
      some (((run config descriptors actions).sockets id.value).sent ++ c.unsent) :=
  ⟨hquiet.completedWork, answered_of_quiet hquiet hlive hcount⟩

/-- The responses of two clients wait for their sockets. -/
theorem quiet_answered_sample :
    ∃ id c f,
      (run Server.Sample.config Server.Sample.descriptors Server.Sample.caughtUp).Quiet ∧
      (run Server.Sample.config Server.Sample.descriptors Server.Sample.caughtUp).live id =
        some (c, f) ∧
      f.nextResponseSequence = f.nextRequestSequence := by
  have hquiet : (run Server.Sample.config Server.Sample.descriptors
      Server.Sample.caughtUp).Quiet :=
    ⟨by decide +kernel, by decide +kernel, by decide +kernel, by decide +kernel⟩
  have hsome : ((run Server.Sample.config Server.Sample.descriptors
      Server.Sample.caughtUp).live ⟨1⟩).isSome = true := by decide +kernel
  obtain ⟨⟨c, f⟩, hlive⟩ := Option.isSome_iff_exists.mp hsome
  exact ⟨⟨1⟩, c, f, hquiet, hlive,
    (quiet_answered _ _ _ _ c f hquiet hlive (by decide +kernel)).2.1⟩

/-! ## The workers come to an end -/

namespace Pipeline

/-- The steps a worker has in front of it without taking another item. -/
def stepsOf : Worker → ℕ
  | .idle => 0
  | .holding _ => 2
  | .notifying => 1
  | .exited => 0

/-- The steps the workers have in front of them. -/
def stepsLeft (p : Pipeline) : ℕ := 3 * p.queue.items.length + (p.workers.map stepsOf).sum

/-- There are workers, and as long as the queue is open they all are there. -/
structure Staffed (p : Pipeline) : Prop where
  some : p.workers ≠ []
  all : p.queue.closed = false → .exited ∉ p.workers

variable {handler : WorkHandler} {p : Pipeline}

theorem Staffed.set (h : p.Staffed) {i : ℕ} {worker : Worker} {queue : BoundedQueue WorkItem}
    {completedWork : List WorkResult} {workerWakeup : Eventfd} (hworker : worker ≠ .exited)
    (hclosed : queue.closed = p.queue.closed) :
    Staffed { p with queue, workers := p.workers.set i worker, completedWork, workerWakeup } := by
  refine ⟨fun hnil => h.some ?_, fun hopen hmem => ?_⟩
  · rwa [List.set_eq_nil_iff] at hnil
  · rcases List.mem_or_eq_of_mem_set hmem with hold | hnew
    · exact h.all (hclosed.symm.trans hopen) hold
    · exact hworker hnew.symm

theorem Staffed.work (h : p.Staffed) (action : WorkerAction) : (p.work handler action).Staffed := by
  cases action with
  | pop i =>
      simp only [Pipeline.work]
      split
      · split
        · next hpop => exact h.set (by simp) (BoundedQueue.pop_eq_item hpop).2.2
        · next hpop =>
            have hclosed := (BoundedQueue.pop_eq_nullopt hpop).2
            refine ⟨fun hnil => h.some ?_, fun hopen => ?_⟩
            · rwa [List.set_eq_nil_iff] at hnil
            · rw [hclosed] at hopen
              cases hopen
        · exact h
      · exact h
  | finish i =>
      simp only [Pipeline.work]
      split
      · exact h.set (by simp) rfl
      · exact h
  | notify i interrupted =>
      simp only [Pipeline.work]
      split
      · split
        · exact ⟨h.some, h.all⟩
        · exact h.set (by simp) rfl
      · exact h

/-- While there is something to do, some worker does it, and the queue stays open. -/
theorem exists_work (handler : WorkHandler) (h : p.Staffed) (hopen : p.queue.closed = false)
    (hbusy : ¬ (p.items = [] ∧ .notifying ∉ p.workers)) :
    ∃ action, (p.work handler action).stepsLeft < p.stepsLeft := by
  by_cases hnotifying : .notifying ∈ p.workers
  · obtain ⟨i, hi⟩ := List.mem_iff_getElem?.mp hnotifying
    have hsum := sum_map_set_add stepsOf hi .idle
    refine ⟨.notify i false, ?_⟩
    simp only [stepsOf] at hsum
    simp only [Pipeline.work, hi, Server.notifyAgain_write, Bool.false_eq_true, if_false,
      stepsLeft]
    omega
  by_cases hholding : ∃ item, .holding item ∈ p.workers
  · obtain ⟨item, hmem⟩ := hholding
    obtain ⟨i, hi⟩ := List.mem_iff_getElem?.mp hmem
    have hsum := sum_map_set_add stepsOf hi .notifying
    refine ⟨.finish i, ?_⟩
    simp only [stepsOf] at hsum
    simp only [Pipeline.work, hi, stepsLeft]
    omega
  -- All workers are idle, so an item is queued, and the first of them takes it.
  have hheld : p.workers.filterMap Worker.held = [] := by
    rw [List.filterMap_eq_nil_iff]
    intro worker hmem
    cases worker with
    | holding item => exact absurd ⟨item, hmem⟩ hholding
    | idle | notifying | exited => rfl
  have hqueued : p.queue.items ≠ [] := by
    intro hnone
    refine hbusy ⟨?_, hnotifying⟩
    rw [items, hnone, hheld]
    rfl
  obtain ⟨worker, workers, hworkers⟩ := List.exists_cons_of_ne_nil h.some
  have hmem : worker ∈ p.workers := by
    rw [hworkers]
    exact List.mem_cons_self
  have hfirst : p.workers[0]? = some .idle := by
    rw [hworkers, List.getElem?_cons_zero]
    cases worker with
    | idle => rfl
    | holding item => exact absurd ⟨item, hmem⟩ hholding
    | notifying => exact absurd hmem hnotifying
    | exited => exact absurd hmem (h.all hopen)
  refine ⟨.pop 0, ?_⟩
  cases hpop : p.queue.pop with
  | item item queue =>
      have hitems := (BoundedQueue.pop_eq_item hpop).1
      have hsum := sum_map_set_add stepsOf hfirst (.holding item)
      simp only [stepsOf] at hsum
      simp only [Pipeline.work, hfirst, hpop, stepsLeft, hitems, List.length_cons]
      omega
  | nullopt => exact absurd (BoundedQueue.pop_eq_nullopt hpop).1 hqueued
  | blocked => exact absurd (BoundedQueue.pop_eq_blocked hpop).1 hqueued

/-- Left to themselves, the workers finish what there is. -/
theorem exists_idle (handler : WorkHandler) (h : p.Staffed) (hopen : p.queue.closed = false) :
    ∃ actions : List WorkerAction, actions.length ≤ p.stepsLeft ∧
      (p.workAll handler actions).items = [] ∧
      .notifying ∉ (p.workAll handler actions).workers := by
  obtain ⟨actions, hlength, -, -, hidle⟩ := exists_run_to
    (fun p : Pipeline => p.Staffed ∧ p.queue.closed = false)
    (fun p => p.items = [] ∧ .notifying ∉ p.workers) (fun _ => True) stepsLeft
    (fun p hinv hbusy => by
      obtain ⟨action, hless⟩ := exists_work handler hinv.1 hinv.2 hbusy
      exact ⟨action, trivial, ⟨hinv.1.work action, (closed_work _ p action).trans hinv.2⟩, hless⟩)
    ⟨h, hopen⟩
  exact ⟨actions, hlength, hidle⟩

/-- A submission leaves the workers alone. -/
theorem Staffed.trySubmit (h : p.Staffed) {item : WorkItem} {submitted : Bool} {p' : Pipeline}
    (hsubmit : p.trySubmit item = (submitted, p')) : p'.Staffed := by
  rcases p.trySubmit_cases item with ⟨q, hq, -, -, hworkers, -, -, -, hclosed⟩ | hq
  · rw [hq] at hsubmit
    cases hsubmit
    refine ⟨hworkers ▸ h.some, fun hopen => ?_⟩
    rw [hworkers]
    exact h.all (hclosed.symm.trans hopen)
  · rw [hq] at hsubmit
    cases hsubmit
    exact h

end Pipeline

/-- A connection is no matter to the workers. -/
theorem pipeline_wrote {s' : Server} (hwrote : Server.Wrote s s' id c f) :
    s'.pipeline = s.pipeline := by rw [hwrote.rest]

theorem pipeline_removed {s' : Server} (hremoved : Server.Removed id c f s s') :
    s'.pipeline = s.pipeline := by
  cases hremoved with
  | unregistered => rfl
  | registered _ hctl => exact (Server.sameButTables_epollCtl hctl).pipeline

theorem Move.staffed {a a' : Activation} {touched : Set ConnectionId}
    (hmove : Move config touched a a') (h : a.server.pipeline.Staffed) :
    a'.server.pipeline.Staffed := by
  cases hmove with
  | work action => exact h.work action
  | wake => exact ⟨h.some, h.all⟩
  | stopPool => exact ⟨h.some, nofun⟩
  | control | acceptErrors | swap | discard | dropInbox | read | write => exact ⟨h.some, h.all⟩
  | accept _ _ _ _ hctl | acceptFailed _ _ _ _ hctl =>
      have hpipeline := (Server.sameButTables_epollCtl hctl).pipeline
      exact hpipeline ▸ h
  | submit _ _ _ _ hsubmit => exact h.trySubmit hsubmit
  | closing _ _ _ _ hwrote | writeBack _ _ hwrote | deliver _ _ _ hwrote
  | release _ _ _ _ hwrote | refuse _ _ _ hwrote => exact (pipeline_wrote hwrote) ▸ h
  | register _ _ _ _ hctl hwrote | unregister _ _ _ hctl hwrote =>
      rw [pipeline_wrote hwrote, (Server.sameButTables_epollCtl hctl).pipeline]
      exact h
  | modify _ _ _ _ hctl | ctlFailed _ _ hctl =>
      exact (Server.sameButTables_epollCtl hctl).pipeline ▸ h
  | remove _ _ hremoved | drain _ _ _ _ hremoved => exact (pipeline_removed hremoved) ▸ h

theorem run_staffed (config : ServerConfig) (descriptors : Descriptors) (actions : List Action) :
    (run config descriptors actions).pipeline.Staffed := by
  refine Server.run_of_moves (P := fun s => s.pipeline.Staffed) ?_ ?_ actions
  · intro epoll ctlCalls
    refine ⟨?_, fun _ hmem => ?_⟩
    · intro hnil
      have hlength := congrArg List.length hnil
      rw [Server.constructed, List.length_replicate] at hlength
      exact Nat.ne_of_gt config.workerCount_pos hlength
    · cases List.eq_of_mem_replicate hmem
  · exact fun a a' hmove h => hmove.staffed h

/-- The step is one that needs no client: of a worker, or of the reactor around the
eventfd. -/
def Action.isInternal : Action → Bool
  | .worker _ => true
  | .wait (.ready events) => events = [workerWakeupEvent]
  | .readWakeup _ => true
  | .swapCompleted => true
  | .complete fault => fault.isNone
  | .dispatch io => io.accepts.isEmpty && io.signals.isEmpty && io.recvs.isEmpty && io.sends.isEmpty
  | _ => false

/-- What the reactor needs for a pass, and what clients see of it. -/
structure SameOutside (s s' : Server) : Prop where
  sockets : s'.sockets = s.sockets
  stopRequested : s'.stopRequested = s.stopRequested

/-- Worker steps of a run are steps of the pipeline. -/
theorem run_workers (actions : List Action) (work : List WorkerAction) :
    run config descriptors (actions ++ work.map .worker) =
      { run config descriptors actions with
        pipeline := (run config descriptors actions).pipeline.workAll config.options.handler
          work } := by
  rw [Server.run_append]
  generalize run config descriptors actions = s
  induction work generalizing s with
  | nil => rfl
  | cons action work ih =>
      rw [List.map_cons, List.foldl_cons, ih]
      rfl

/-- The reactor gets to the end of its batch. -/
theorem run_batch {actions : List Action} {batch : List WorkResult} {rest : List EpollEvent}
    (hphase : (run config descriptors actions).phase = .handling batch rest) :
    let s' := run config descriptors (actions ++ .replicate batch.length (.complete none))
    s'.phase = .handling [] rest ∧ s'.pipeline = (run config descriptors actions).pipeline ∧
      SameOutside (run config descriptors actions) s' := by
  induction batch generalizing actions with
  | nil =>
      rw [List.length_nil, List.replicate_zero, List.append_nil]
      exact ⟨hphase, rfl, rfl, rfl⟩
  | cons result batch ih =>
      have hwf := Server.run_wellFormed config descriptors actions
      obtain ⟨s₁, hok⟩ := Server.handleCompletedWork_ok hwf result
      have hsame := Server.handleCompletedWork_rest result none (run config descriptors actions)
      rw [hok, Server.stateOf_ok] at hsame
      have hstep : run config descriptors (actions ++ [.complete none]) =
          { s₁ with phase := .handling batch rest } := by
        rw [Server.run_append_singleton]
        simp only [step, hphase, hok]
        rfl
      obtain ⟨hend, hpipeline, houtside⟩ := ih (by rw [hstep])
      rw [List.length_cons, List.replicate_succ, List.append_cons]
      rw [hstep] at hpipeline houtside
      exact ⟨hend, hpipeline.trans hsame.pipeline, houtside.sockets.trans hsame.sockets,
        houtside.stopRequested.trans (by rw [hsame])⟩

/-- The reactor is woken up, empties the eventfd and swaps out what there is. -/
def wakeup : List Action :=
  [.wait (.ready [workerWakeupEvent]), .dispatch {}, .readWakeup false, .readWakeup false,
    .swapCompleted]

theorem foldl_wakeup (hphase : s.phase = .polling) (hrunning : s.stopRequested = false)
    (hreports : s.reports workerWakeupEvent = true)
    (hpos : 0 < s.pipeline.workerWakeup.counter) :
    wakeup.foldl (step config) s =
      { s with
        pipeline := { s.pipeline with completedWork := [], workerWakeup := .create }
        phase := .handling s.pipeline.completedWork [] } := by
  have hwait : step config s (.wait (.ready [workerWakeupEvent])) =
      { s with phase := .dispatching [workerWakeupEvent] } := by
    simp only [step, hphase, hrunning, Bool.false_eq_true, if_false,
      List.filter_cons_of_pos hreports, List.filter_nil]
    rfl
  have hdispatch : step config { s with phase := .dispatching [workerWakeupEvent] }
      (.dispatch {}) = { s with phase := .draining [] } := by
    simp only [step, hrunning, Bool.false_eq_true, if_false]
    rfl
  have hread : s.pipeline.workerWakeup.read false = (.bytes 8, .create) := by
    rw [Eventfd.read, if_neg Bool.false_ne_true, if_neg (Nat.ne_of_gt hpos)]
  have hempty : Eventfd.create.read false = (.failed .eagain, .create) := rfl
  have hfirst : step config { s with phase := .draining [] } (.readWakeup false) =
      { s with
        pipeline := { s.pipeline with workerWakeup := .create }
        phase := .draining [] } := by
    simp only [step, hread]
    rfl
  rw [wakeup, List.foldl_cons, hwait, List.foldl_cons, hdispatch, List.foldl_cons, hfirst]
  rfl

/-- With nothing left for the workers, one pass of the reactor ends in a quiet state. -/
theorem run_pass (actions : List Action)
    (hphase : (run config descriptors actions).phase = .polling)
    (hrunning : (run config descriptors actions).stopRequested = false)
    (hitems : (run config descriptors actions).pipeline.items = [])
    (hnotified : Worker.notifying ∉ (run config descriptors actions).pipeline.workers)
    (hpos : 0 < (run config descriptors actions).pipeline.workerWakeup.counter) :
    ∃ later, later.length =
        (run config descriptors actions).pipeline.completedWork.length + 7 ∧
      (∀ action ∈ later, action.isInternal = true) ∧
      (run config descriptors (actions ++ later)).Quiet ∧
      SameOutside (run config descriptors actions) (run config descriptors (actions ++ later)) := by
  have hreports : (run config descriptors actions).reports workerWakeupEvent = true :=
    Server.reports_of_lookup (Server.lookup_workerWakeup config descriptors actions) rfl rfl
      (.inr hpos)
  have hwakeup : wakeup.foldl (step config) (run config descriptors actions) = _ :=
    foldl_wakeup hphase hrunning hreports hpos
  rw [← Server.run_append] at hwakeup
  generalize hbatch : (run config descriptors actions).pipeline.completedWork = batch at hwakeup ⊢
  have hhandling : (run config descriptors (actions ++ wakeup)).phase = .handling batch [] := by
    rw [hwakeup]
  obtain ⟨hend, hpipeline, houtside⟩ := run_batch hhandling
  rw [hwakeup] at hpipeline houtside
  generalize hmiddle : actions ++ wakeup ++ .replicate batch.length (.complete none) = middle
    at hend hpipeline houtside
  have hlast : run config descriptors (middle ++ [.complete none, .dispatch {}]) =
      { run config descriptors middle with phase := .polling } := by
    rw [Server.run_append, List.foldl_cons, List.foldl_cons, List.foldl_nil]
    simp only [step, hend]
  have hall : actions ++ (wakeup ++ .replicate batch.length (.complete none) ++
      [.complete none, .dispatch {}]) = middle ++ [.complete none, .dispatch {}] := by
    rw [← hmiddle]
    simp only [List.append_assoc]
  refine ⟨wakeup ++ .replicate batch.length (.complete none) ++ [.complete none, .dispatch {}],
    ?_, ?_, ?_, ?_⟩
  · simp only [wakeup, List.length_append, List.length_replicate, List.length_cons,
      List.length_nil]
    omega
  · have hbatched : ∀ action ∈ List.replicate batch.length (Action.complete none),
        action.isInternal = true := by
      intro action hmem
      rw [List.eq_of_mem_replicate hmem]
      rfl
    refine List.forall_mem_append.mpr ⟨List.forall_mem_append.mpr ⟨?_, hbatched⟩, ?_⟩
    · decide
    · decide
  · rw [hall, hlast]
    exact ⟨rfl, by rw [hpipeline]; exact hitems, by rw [hpipeline]; exact hnotified,
      by rw [hpipeline]; rfl⟩
  · rw [hall, hlast]
    exact ⟨houtside.sockets, houtside.stopRequested⟩

/-! ## A quiet state is always near -/

/-- Whenever the reactor polls, and unless the server is being stopped, the workers and
the reactor can finish by themselves what is under way, without a call on the socket of
any client, in so many steps. Then every complete frame that was received on a live
connection is answered. -/
theorem in_flight_work_completes (config : ServerConfig) (descriptors : Descriptors)
    (actions : List Action) (hphase : (run config descriptors actions).phase = .polling)
    (hrunning : (run config descriptors actions).stopRequested = false)
    (hopen : (run config descriptors actions).pipeline.queue.closed = false) :
    ∃ later, later.length ≤ (run config descriptors actions).pipeline.stepsLeft +
        (run config descriptors actions).pipeline.resultsLeft + 7 ∧
      (∀ action ∈ later, action.isInternal = true) ∧
      (run config descriptors (actions ++ later)).Quiet ∧
      (run config descriptors (actions ++ later)).sockets =
        (run config descriptors actions).sockets ∧
      ∀ id c f, (run config descriptors (actions ++ later)).live id = some (c, f) →
        ((run config descriptors (actions ++ later)).pipeline.requestsOf id).length <
          UInt64.size →
        encodeAll ((frameFormat.frames
            ((run config descriptors actions).sockets id.value).received).map
              (respond config.options.handler)) =
          some (((run config descriptors actions).sockets id.value).sent ++ c.unsent) := by
  obtain ⟨work, hwork, hitems, hnotified⟩ := Pipeline.exists_idle config.options.handler
    (run_staffed config descriptors actions) hopen
  have hresults : ∀ (p : Pipeline) (work : List WorkerAction),
      (p.workAll config.options.handler work).resultsLeft = p.resultsLeft := by
    intro p work
    induction work generalizing p with
    | nil => rfl
    | cons action work ih => exact (ih _).trans (Server.resultsLeft_work _ p action)
  have hleft := hresults (run config descriptors actions).pipeline work
  have hworked : run config descriptors (actions ++ work.map .worker) = _ :=
    run_workers actions work
  have hinternal : ∀ action ∈ work.map Action.worker, action.isInternal = true := by
    intro action hmem
    obtain ⟨_, -, rfl⟩ := List.mem_map.mp hmem
    rfl
  -- It is enough to get from there to a quiet state.
  suffices hpass : ∃ later, later.length ≤
        (run config descriptors actions).pipeline.resultsLeft + 7 ∧
      (∀ action ∈ later, action.isInternal = true) ∧
      (run config descriptors (actions ++ work.map .worker ++ later)).Quiet ∧
      (run config descriptors (actions ++ work.map .worker ++ later)).sockets =
        (run config descriptors actions).sockets by
    obtain ⟨later, hlength, hlater, hquiet, hsockets⟩ := hpass
    rw [List.append_assoc] at hquiet hsockets
    refine ⟨work.map .worker ++ later, ?_, List.forall_mem_append.mpr ⟨hinternal, hlater⟩, hquiet,
      hsockets, fun id c f hlive hcount => ?_⟩
    · rw [List.length_append, List.length_map]
      omega
    · rw [← hsockets]
      exact (answered_of_quiet hquiet hlive hcount).2.2
  by_cases hsilent : ((run config descriptors actions).pipeline.workAll config.options.handler
      work).workerWakeup.counter = 0
  · refine ⟨[], Nat.zero_le _, List.forall_mem_nil _, ?_, ?_⟩
    · rw [List.append_nil, hworked]
      exact ⟨hphase, hitems, hnotified, hsilent⟩
    · rw [List.append_nil, hworked]
  · obtain ⟨later, hlength, hlater, hquiet, houtside⟩ :=
      run_pass (actions ++ work.map .worker) (by rw [hworked]; exact hphase)
        (by rw [hworked]; exact hrunning) (by rw [hworked]; exact hitems)
        (by rw [hworked]; exact hnotified) (by rw [hworked]; exact Nat.pos_of_ne_zero hsilent)
    refine ⟨later, ?_, hlater, hquiet, ?_⟩
    · rw [hlength, hworked, ← hleft, Pipeline.resultsLeft]
      simp only
      omega
    · rw [houtside.sockets, hworked]

/-- When the reactor polls, a request is with a worker, one is in the queue, and a response
waits for another one. -/
theorem in_flight_work_completes_sample :
    ∃ later, (∀ action ∈ later, Action.isInternal action = true) ∧
      (run Server.Sample.config Server.Sample.descriptors
        (Server.Sample.overtaken ++ later)).Quiet := by
  obtain ⟨later, -, hinternal, hquiet, -⟩ := in_flight_work_completes Server.Sample.config
    Server.Sample.descriptors Server.Sample.overtaken (by decide +kernel) (by decide +kernel)
    (by decide +kernel)
  exact ⟨later, hinternal, hquiet⟩

end PulseCore.Network
