/-
# No wake-up is lost

A worker first pushes its result and then writes the eventfd; the reactor first
reads the eventfd and then swaps the results out. So a result that is waiting has
a wake-up on its way: the counter is positive, a worker is about to write it, or
the reactor is already on its way to the swap. The order of both pairs matters,
and that a write may fail does not: the counter is positive then.

Outside `HandleWorkerWakeup` the reactor changes neither the results nor the
counter, and the workers that step during a handler keep the statement as they do
at any other time.
-/

import PulseCore.Network.Reachable

namespace PulseCore.Network

open PulseCore.Core PulseCore.Protocol

/-- Results that are waiting have a wake-up on its way. -/
def Pipeline.Announced (p : Pipeline) : Prop :=
  p.completedWork ≠ [] → 0 < p.workerWakeup.counter ∨ Worker.notifying ∈ p.workers

/-- The reactor is in `HandleWorkerWakeup`, in front of the swap. -/
def Phase.beforeSwap : Phase → Bool
  | .draining _ => true
  | .swapping _ => true
  | _ => false

namespace Pipeline

variable {handler : WorkHandler} {p p' : Pipeline}

/-- A worker that is not about to notify is replaced. -/
theorem notifying_mem_set {workers : List Worker} {i : ℕ} {old : Worker}
    (hold : workers[i]? = some old) (hne : old ≠ .notifying) (new : Worker)
    (hmem : Worker.notifying ∈ workers) : Worker.notifying ∈ workers.set i new := by
  obtain ⟨j, hj⟩ := List.mem_iff_getElem?.mp hmem
  apply List.mem_iff_getElem?.mpr
  refine ⟨j, ?_⟩
  have hij : i ≠ j := by
    intro hij
    rw [hij, hj] at hold
    exact hne (Option.some.inj hold).symm
  rw [List.getElem?_set_ne hij]
  exact hj

/-- Only the results, the counter and the workers matter, and the counter may
grow. -/
theorem Announced.mono (h : p.Announced) (hcompleted : p'.completedWork = p.completedWork)
    (hcounter : p.workerWakeup.counter ≤ p'.workerWakeup.counter)
    (hworkers : p'.workers = p.workers) : p'.Announced := by
  intro hwaiting
  rw [hcompleted] at hwaiting
  rw [hworkers]
  exact (h hwaiting).imp_left fun hpos => Nat.lt_of_lt_of_le hpos hcounter

theorem Announced.work (h : p.Announced) (action : WorkerAction) :
    (p.work handler action).Announced := by
  cases action with
  | pop i =>
      simp only [Pipeline.work]
      split
      · next hworker =>
          split
          · intro hwaiting
            exact (h hwaiting).imp_right (notifying_mem_set hworker (by decide) _)
          · intro hwaiting
            exact (h hwaiting).imp_right (notifying_mem_set hworker (by decide) _)
          · exact h
      · exact h
  | finish i =>
      simp only [Pipeline.work]
      split
      · next item hworker =>
          -- The worker that pushed the result is about to notify.
          intro _
          obtain ⟨hi, -⟩ := List.getElem?_eq_some_iff.mp hworker
          exact .inr (List.mem_set hi _)
      · exact h
  | notify i interrupted =>
      simp only [Pipeline.work]
      split
      · next hworker =>
          cases interrupted with
          | true => exact h.mono rfl (Nat.le_refl _) rfl
          | false =>
              have hpos := p.workerWakeup.counter_write_pos
              split
              · exact fun _ => .inl hpos
              · exact fun _ => .inl hpos
      · exact h

theorem Announced.workAll (h : p.Announced) (actions : List WorkerAction) :
    (p.workAll handler actions).Announced := by
  induction actions generalizing p with
  | nil => exact h
  | cons action actions ih => exact ih (h.work action)

theorem Announced.trySubmit (h : p.Announced) {item : WorkItem} {submitted : Bool}
    (hsubmit : p.trySubmit item = (submitted, p')) : p'.Announced := by
  rcases p.trySubmit_cases item with
    ⟨q, hq, -, -, hworkers, hcompleted, hwakeup, -, -⟩ | hq
  · rw [hq] at hsubmit
    cases hsubmit
    exact h.mono hcompleted (by rw [hwakeup]) hworkers
  · rw [hq] at hsubmit
    cases hsubmit
    exact h

end Pipeline

namespace Server

variable {config : ServerConfig} {s s' : Server} {id : ConnectionId} {c : Connection}
  {f : ConnectionFlow} {fault : Option CtlFault}

/-- The states differ in the interest set and in what is known about connections. -/
def SameButTables (s s' : Server) : Prop :=
  s' = { s with
    connections := s'.connections
    connectionFlows := s'.connectionFlows
    epoll := s'.epoll
    ctlCalls := s'.ctlCalls
    drained := s'.drained }

theorem SameButTables.trans {s₁ s₂ s₃ : Server} (h₁ : SameButTables s₁ s₂)
    (h₂ : SameButTables s₂ s₃) : SameButTables s₁ s₃ := by
  rw [SameButTables, h₂, h₁]

theorem SameButTables.pipeline (h : SameButTables s s') : s'.pipeline = s.pipeline := by rw [h]

theorem SameButTables.sockets (h : SameButTables s s') : s'.sockets = s.sockets := by rw [h]

theorem sameButTables_epollCtl {op : CtlOp} {fd : Fd} {event : EpollEvent}
    {answer : Option Errno} (hctl : s.epollCtl op fd event fault = (answer, s')) :
    SameButTables s s' := by
  rw [SameButTables, epollCtl_rest hctl]

theorem removeConnection_rest (id : ConnectionId) (fault : Option CtlFault) (s : Server) :
    SameButTables s (stateOf (removeConnection id fault s)) := by
  unfold removeConnection
  split
  · rfl
  · simp only
    -- Whatever the flag is, at most the interest set and the two tables change.
    split <;> split
    case h_1.isFalse | h_2.isFalse => rfl
    all_goals
      split
      · next hctl =>
          rw [epollCtl_rest hctl]
          rfl
      · next hctl =>
          have hsame := sameButTables_epollCtl hctl
          split
          · exact hsame
          · rw [hsame]
            rfl

theorem updateInterest_rest (id : ConnectionId) (c : Connection) (f : ConnectionFlow)
    (fault : Option CtlFault) (s : Server) :
    SameButTables s (stateOf (updateInterest id c f fault s)) := by
  unfold updateInterest
  simp only
  split
  · split
    · split
      · next hctl =>
          rw [epollCtl_rest hctl]
          rfl
      · next hctl =>
          have hsame := sameButTables_epollCtl hctl
          split
          · exact hsame
          · rw [hsame]
            rfl
    · rfl
  · split
    · split
      · next hctl => exact sameButTables_epollCtl hctl
      · next hctl => exact sameButTables_epollCtl hctl
    · split
      · next hctl =>
          rw [epollCtl_rest hctl]
          rfl
      · next hctl => exact sameButTables_epollCtl hctl

theorem settleConnection_rest (id : ConnectionId) (fault : Option CtlFault) (s : Server) :
    SameButTables s (stateOf (settleConnection id fault s)) := by
  unfold settleConnection
  split
  · split
    · have hremove := removeConnection_rest id fault s
      split
      · next hresult =>
          rw [hresult, stateOf_ok] at hremove
          rw [hremove]
          rfl
      · next hresult =>
          rw [hresult] at hremove
          exact hremove
    · exact updateInterest_rest _ _ _ _ _
  · rfl

theorem pipeline_registerClient (client : Client) (s : Server) :
    (stateOf (registerClient client s)).pipeline = s.pipeline := by
  unfold registerClient
  split
  · rfl
  · simp only
    split
    · rfl
    · split
      · rfl
      · split
        · next hctl =>
            have hpipeline := (sameButTables_epollCtl hctl).pipeline
            exact hpipeline
        · next hctl =>
            have hpipeline := (sameButTables_epollCtl hctl).pipeline
            exact hpipeline

theorem pipeline_acceptLoop (accepts : ℕ) (answers : List AcceptAnswer) (s : Server) :
    (stateOf (acceptLoop config accepts answers s)).pipeline = s.pipeline := by
  induction accepts generalizing answers s with
  | zero => rfl
  | succ accepts ih =>
      rw [acceptLoop]
      split
      · rfl
      · rfl
      · next client errors rest _ =>
          simp only
          split
          · exact ih _ _
          · have hregister := pipeline_registerClient client
              { s with acceptErrors := s.acceptErrors ++ errors }
            split
            · next hresult =>
                rw [hresult] at hregister
                exact (ih _ _).trans hregister
            · next hresult =>
                rw [hresult] at hregister
                exact hregister

theorem handleCompletedWork_rest (result : WorkResult) (fault : Option CtlFault) (s : Server) :
    SameButTables s (stateOf (handleCompletedWork result fault s)) := by
  have hsame : ∀ (c : Connection) (f : ConnectionFlow) (id : ConnectionId),
      SameButTables s ((s.putConnection id c).putFlow id f) := fun _ _ _ => rfl
  unfold handleCompletedWork
  split
  · rfl
  · split
    · rfl
    · unfold flushReadyResponses
      simp only
      split
      · exact (hsame _ _ _).trans (removeConnection_rest _ _ _)
      · exact (hsame _ _ _).trans (settleConnection_rest _ _ _)

theorem pipeline_readSignals (answers : List IoResult) (s : Server) :
    (stateOf (readSignals answers s)).pipeline = s.pipeline := by
  induction answers generalizing s with
  | nil => rfl
  | cons answer answers ih =>
      cases answer with
      | bytes count =>
          rw [readSignals]
          split
          · exact ih _
          · split
            · rfl
            · rfl
      | failed error =>
          rw [readSignals]
          split
          · exact ih _
          · split
            · rfl
            · rfl

theorem pipeline_closeConnections (passes : ℕ) (faults : List (Option CtlFault)) (s : Server) :
    (stateOf (closeConnections passes faults s)).pipeline = s.pipeline := by
  induction passes generalizing faults s with
  | zero => rfl
  | succ passes ih =>
      rw [closeConnections]
      split
      · rfl
      · next entry _ _ =>
          have hremove := (removeConnection_rest ⟨entry.1⟩ (faults.headD none) s).pipeline
          split
          · next hresult =>
              rw [hresult] at hremove
              exact hremove
          · next hresult =>
              rw [hresult] at hremove
              exact (ih _ _).trans hremove

theorem pipeline_writeEvent (config : ServerConfig) (id : ConnectionId) (events : EventMask)
    (io : HandlerIo) (shouldRemove : Bool) (s : Server) :
    (stateOf (writeEvent config id events io shouldRemove s)).pipeline = s.pipeline := by
  unfold writeEvent
  split
  · split
    · rfl
    · simp only
      split
      · rfl
      · rfl
  · rfl

/-- The workers that step while requests are submitted keep announcing. -/
theorem announced_submitMessages (messages : List Message) (steps : List (List WorkerAction))
    (flow : ConnectionFlow) {p : Pipeline} (h : p.Announced) :
    (submitMessages config id messages steps flow p).2.2.Announced := by
  induction messages generalizing steps flow p with
  | nil => exact h
  | cons message messages ih =>
      rw [submitMessages]
      simp only
      have hworked : (p.workAll config.options.handler (steps.headD [])).Announced :=
        h.workAll _
      split
      · exact h
      · split
        · next hsubmit => exact hworked.trySubmit hsubmit
        · next hsubmit => exact ih _ _ (hworked.trySubmit hsubmit)

theorem announced_submitWork (messages : List Message) (steps : List (List WorkerAction))
    (h : s.pipeline.Announced) :
    (submitWork config id messages steps s).2.pipeline.Announced := by
  unfold submitWork
  split
  · exact h
  · next flow _ => exact announced_submitMessages messages steps flow h

theorem announced_readEvent (id : ConnectionId) (events : EventMask) (io : HandlerIo)
    (c : Connection) (f : ConnectionFlow) (h : s.pipeline.Announced) :
    (stateOf (readEvent config id events io c f s)).pipeline.Announced := by
  unfold readEvent
  split
  · generalize c.readAvailable config.options.maxReadBytesPerEvent io.recvs = read
    simp only
    have hlogged :
        ((s.putConnection id read.connection).logSocket id read.calls []).pipeline.Announced := h
    generalize (s.putConnection id read.connection).logSocket id read.calls [] = s₁ at hlogged
    split
    · exact hlogged
    · next result _ =>
        have hsubmit : (submitWork config id result.messages io.workers s₁).2.pipeline.Announced :=
          announced_submitWork result.messages io.workers hlogged
        split
        · exact hsubmit
        · split
          · split
            · exact hsubmit
            · exact hsubmit
          · exact hsubmit
  · exact h

theorem announced_handleConnectionEvent (id : ConnectionId) (events : EventMask) (io : HandlerIo)
    (h : s.pipeline.Announced) :
    (stateOf (handleConnectionEvent config id events io s)).pipeline.Announced := by
  unfold handleConnectionEvent
  split
  · exact h
  next c _ =>
  split
  · rw [(removeConnection_rest _ _ _).pipeline]
    exact h
  next f _ =>
  have hread : (stateOf (readEvent config id events io c f s)).pipeline.Announced :=
    announced_readEvent id events io c f h
  split
  · next hresult =>
      rw [hresult] at hread
      exact hread
  next shouldRemove s₁ hresult =>
  rw [hresult, stateOf_ok] at hread
  have hwrite := pipeline_writeEvent config id events io shouldRemove s₁
  split
  · next hresult =>
      rw [hresult] at hwrite
      rw [stateOf_error] at hwrite ⊢
      rw [hwrite]
      exact hread
  · next hresult =>
      rw [hresult] at hwrite
      rw [stateOf_ok] at hwrite
      rw [(removeConnection_rest _ _ _).pipeline, hwrite]
      exact hread
  · next hresult =>
      rw [hresult] at hwrite
      rw [stateOf_ok] at hwrite
      rw [(settleConnection_rest _ _ _).pipeline, hwrite]
      exact hread

/-- Until the reactor is on its way to the swap, waiting results are announced. -/
def WakeupDue (s : Server) : Prop := s.phase.beforeSwap = false → s.pipeline.Announced

theorem wakeupDue_proceed {next : Phase} {outcome : Outcome Unit}
    (h : (stateOf outcome).pipeline.Announced) : WakeupDue (proceed next outcome) := by
  cases outcome with
  | ok => exact fun _ => h
  | error => exact fun _ => h

/-- `read` of an eventfd gives eight bytes, or it would block or is interrupted. -/
theorem wakeupRead_ne_error (e : Eventfd) (interrupted : Bool) (exception : Exception) :
    wakeupRead (e.read interrupted).1 ≠ some (.error exception) := by
  unfold Eventfd.read
  split
  · exact nofun
  · split
    · exact nofun
    · exact nofun

theorem wakeupDue_dispatchEvent (event : EpollEvent) (rest : List EpollEvent) (io : HandlerIo)
    (h : s.pipeline.Announced) : WakeupDue (dispatchEvent config event rest io s) := by
  unfold dispatchEvent
  split
  · apply wakeupDue_proceed
    rw [handleListenerEvent, pipeline_acceptLoop]
    exact h
  · exact nofun
  · apply wakeupDue_proceed
    rw [handleShutdownSignal, pipeline_readSignals]
    exact h
  · exact wakeupDue_proceed (announced_handleConnectionEvent _ _ _ h)

theorem WakeupDue.step (h : WakeupDue s) (action : Action) : WakeupDue (step config s action) := by
  cases action with
  | worker action => exact fun hphase => (h hphase).work action
  | requestStop => exact h
  | notifyStop interrupted =>
      exact fun hphase =>
        (h hphase).mono rfl (s.pipeline.workerWakeup.counter_le_write interrupted) rfl
  | stopPool => exact fun hphase => (h hphase).mono rfl (Nat.le_refl _) rfl
  | wait answer =>
      simp only [Server.step]
      split
      · next hphase =>
          have hannounced := h (by rw [hphase]; rfl)
          split
          · exact h
          · split
            · exact fun _ => hannounced
            · split
              · exact h
              · exact fun _ => hannounced
      · exact h
  | dispatch io =>
      simp only [Server.step]
      split
      · next hphase => exact fun _ => h (by rw [hphase]; rfl)
      · next hphase =>
          have hannounced := h (by rw [hphase]; rfl)
          split
          · exact fun _ => hannounced
          · exact wakeupDue_dispatchEvent _ _ io hannounced
      · exact h
  | readWakeup interrupted =>
      simp only [Server.step]
      split
      · next rest hphase =>
          split
          · intro hbefore
            simp only [hphase, Phase.beforeSwap, Bool.true_eq_false] at hbefore
          · intro hbefore
            cases hbefore
          · next exception herror =>
              exact absurd herror (wakeupRead_ne_error _ interrupted exception)
      · exact h
  | swapCompleted =>
      simp only [Server.step]
      split
      · exact fun _ hwaiting => absurd rfl hwaiting
      · exact h
  | complete fault =>
      simp only [Server.step]
      split
      · next hphase => exact fun _ => h (by rw [hphase]; rfl)
      · next hphase =>
          apply wakeupDue_proceed
          rw [(handleCompletedWork_rest _ _ _).pipeline]
          exact h (by rw [hphase]; rfl)
      · exact h
  | close faults =>
      simp only [Server.step]
      split
      · next hphase =>
          split
          · apply wakeupDue_proceed
            rw [closeAllConnections, pipeline_closeConnections]
            exact h (by rw [hphase]; rfl)
          · exact h
      · exact h

end Server

/-! ## Every run -/

open Server (run)

/-- When results are waiting, the eventfd is readable, a worker is about to write
it, or the reactor is in `HandleWorkerWakeup` in front of its swap. So a reactor
in `epoll_wait` is woken up: the wake-up is reported as soon as the workers that
owe one have written it. -/
theorem wakeup_not_lost (config : ServerConfig) (descriptors : Descriptors)
    (actions : List Action) :
    ((run config descriptors actions).pipeline.completedWork ≠ [] →
      0 < (run config descriptors actions).pipeline.workerWakeup.counter ∨
      Worker.notifying ∈ (run config descriptors actions).pipeline.workers ∨
      (run config descriptors actions).phase.beforeSwap = true) ∧
    ((run config descriptors actions).phase = .polling →
      (run config descriptors actions).pipeline.completedWork ≠ [] →
      (run config descriptors actions).reports workerWakeupEvent = true ∨
      Worker.notifying ∈ (run config descriptors actions).pipeline.workers) := by
  have hdue : Server.WakeupDue (run config descriptors actions) := by
    apply Server.run_induction
    · obtain ⟨calls, hstart⟩ := (Server.starting_start config descriptors).eq
      rw [hstart]
      exact fun _ hwaiting => absurd rfl hwaiting
    · exact fun s action h => h.step action
  have hinterest := Server.lookup_workerWakeup config descriptors actions
  generalize run config descriptors actions = s at hdue hinterest
  refine ⟨?_, ?_⟩
  · intro hwaiting
    cases hphase : s.phase.beforeSwap with
    | true => exact .inr (.inr rfl)
    | false =>
        rcases hdue hphase hwaiting with hpos | hnotifying
        · exact .inl hpos
        · exact .inr (.inl hnotifying)
  · intro hphase hwaiting
    refine (hdue (by rw [hphase]; rfl) hwaiting).imp_left ?_
    intro hpos
    exact Server.reports_of_lookup hinterest rfl rfl (.inr hpos)

end PulseCore.Network
