/-
# Stop ends Run

`Stop` sets a flag and writes the eventfd; the reactor finds the flag when it gets
there. It may be anywhere in its loop by then, and the workers go on publishing
results and writing the eventfd, which the reactor drains until it is empty. So
that `Run` returns is a race: what ends it is that a reactor that has seen the
flag submits nothing any more, so that only so many results can still come.

Every step of the reactor is paid for by a potential that bounds what is still in
front of it: the reads of the eventfd, the results to be handled, and the way to
the end of the loop. Workers do not raise it, whatever they do; only a further
call of `Stop` does, by the wake-up it writes.
-/

import PulseCore.Foundation.Potential
import PulseCore.Network.Isolation
import PulseCore.Network.Shutdown
import PulseCore.Network.Wakeup

namespace PulseCore.Network

open PulseCore.Foundation PulseCore.Core

/-- `Run` has returned or thrown. -/
def Phase.isOver : Phase → Bool
  | .finished => true
  | .failed _ => true
  | _ => false

namespace Pipeline

/-- The workers that owe a wake-up. -/
def notifiers (p : Pipeline) : ℕ := p.workers.countP fun worker => worker = .notifying

/-- How often the eventfd can still be read before it is empty for good, when nothing
more is submitted: once for every write that is still to come, and once for those
that came. -/
def wakeupsLeft (p : Pipeline) : ℕ :=
  p.items.length + p.notifiers + if 0 < p.workerWakeup.counter then 1 else 0

/-- How many results can still be swapped out, when nothing more is submitted. -/
def resultsLeft (p : Pipeline) : ℕ := p.items.length + p.completedWork.length

end Pipeline

namespace Server

/-- How many steps the reactor can still make behind `Stop`. -/
def stepsLeft (s : Server) : ℕ :=
  match s.phase with
  | .finished => 0
  | .failed _ => 0
  | .polling => 1
  | .dispatching _ => 2
  | .handling batch _ => batch.length + 3
  | .swapping _ => s.pipeline.resultsLeft + 4
  | .draining _ => s.pipeline.resultsLeft + s.pipeline.wakeupsLeft + 5

/-- The action is a step of the reactor where it stands, and not an interrupted call. -/
def advances (s : Server) : Action → Bool
  | .close _ =>
      match s.phase with
      | .polling => true
      | _ => false
  | .dispatch _ =>
      match s.phase with
      | .dispatching _ => true
      | _ => false
  | .readWakeup interrupted =>
      match s.phase with
      | .draining _ => !interrupted
      | _ => false
  | .swapCompleted =>
      match s.phase with
      | .swapping _ => true
      | _ => false
  | .complete _ =>
      match s.phase with
      | .handling _ _ => true
      | _ => false
  | .worker _ | .requestStop | .notifyStop _ | .stopPool | .wait _ => false

/-- A step of the reactor costs one. -/
def stepCost (s : Server) (action : Action) : ℕ := if s.advances action then 1 else 0

/-- A wake-up that `Stop` writes is charged one. -/
def stopCharge (_ : Server) : Action → ℕ
  | .notifyStop _ => 1
  | _ => 0

variable {config : ServerConfig} {s : Server}

/-- Workers neither add results nor take any away. -/
theorem resultsLeft_work (handler : WorkHandler) (p : Pipeline) (action : WorkerAction) :
    (p.work handler action).resultsLeft = p.resultsLeft := by
  have hperm := (p.work_spec handler action).keys_perm.length_eq
  simp only [Pipeline.keys, List.length_append, List.length_map] at hperm
  exact hperm

/-- A worker that pops stays as far from its wake-up as it was. -/
theorem wakeupsLeft_pop (handler : WorkHandler) (p : Pipeline) (i : ℕ) :
    (p.work handler (.pop i)).wakeupsLeft = p.wakeupsLeft := by
  simp only [Pipeline.work]
  split
  · next hworker =>
      split
      · next item queue hpop =>
          have hcount := countP_set_add (fun worker => worker = .notifying) hworker (.holding item)
          have hheld := (filterMap_set_perm Worker.held hworker (.holding item)).length_eq
          obtain ⟨hitems, -, -⟩ := BoundedQueue.pop_eq_item hpop
          simp only [reduceCtorEq, decide_false, Bool.toNat_false, Nat.add_zero] at hcount
          simp only [Worker.held, Option.toList_none, List.nil_append, Option.toList_some,
            List.singleton_append, List.length_cons] at hheld
          simp only [Pipeline.wakeupsLeft, Pipeline.items, Pipeline.notifiers, hitems,
            List.length_append, List.length_cons, hcount]
          omega
      · have hcount := countP_set_add (fun worker => worker = .notifying) hworker .exited
        have hheld := (filterMap_set_perm Worker.held hworker .exited).length_eq
        simp only [reduceCtorEq, decide_false, Bool.toNat_false, Nat.add_zero] at hcount
        simp only [Worker.held, Option.toList_none, List.nil_append] at hheld
        simp only [Pipeline.wakeupsLeft, Pipeline.items, Pipeline.notifiers, List.length_append,
          hcount, hheld]
      · rfl
  · rfl

/-- A worker that finishes owes a wake-up for its item. -/
theorem wakeupsLeft_finish (handler : WorkHandler) (p : Pipeline) (i : ℕ) :
    (p.work handler (.finish i)).wakeupsLeft = p.wakeupsLeft := by
  simp only [Pipeline.work]
  split
  · next item hworker =>
      have hcount := countP_set_add (fun worker => worker = .notifying) hworker .notifying
      have hheld := (filterMap_set_perm Worker.held hworker .notifying).length_eq
      simp only [reduceCtorEq, decide_false, decide_true, Bool.toNat_false, Bool.toNat_true,
        Nat.add_zero] at hcount
      simp only [Worker.held, Option.toList_none, List.nil_append, Option.toList_some,
        List.singleton_append, List.length_cons] at hheld
      simp only [Pipeline.wakeupsLeft, Pipeline.items, Pipeline.notifiers, List.length_append,
        hcount]
      omega
  · rfl

/-- Unless it is interrupted, a worker writes the eventfd once. -/
theorem notifyAgain_write (e : Eventfd) : notifyAgain (e.write false).1 = false := by
  unfold Eventfd.write
  rw [if_neg Bool.false_ne_true]
  split
  · rfl
  · rfl

/-- A worker that writes its wake-up makes the counter positive, if it was not. -/
theorem wakeupsLeft_notify (handler : WorkHandler) (p : Pipeline) (i : ℕ) (interrupted : Bool) :
    (p.work handler (.notify i interrupted)).wakeupsLeft ≤ p.wakeupsLeft := by
  simp only [Pipeline.work]
  split
  · next hworker =>
      cases interrupted with
      | true => exact Nat.le_refl _
      | false =>
          have hcount := countP_set_add (fun worker => worker = .notifying) hworker .idle
          have hheld := (filterMap_set_perm Worker.held hworker .idle).length_eq
          simp only [reduceCtorEq, decide_false, decide_true, Bool.toNat_false, Bool.toNat_true,
        Nat.add_zero] at hcount
          simp only [Worker.held, Option.toList_none, List.nil_append] at hheld
          simp only [notifyAgain_write, Bool.false_eq_true, if_false, Pipeline.wakeupsLeft,
            Pipeline.items, Pipeline.notifiers, List.length_append, hheld]
          split <;> split <;> omega
  · exact Nat.le_refl _

/-- Workers get closer to their wake-ups, or write them. -/
theorem wakeupsLeft_work (handler : WorkHandler) (p : Pipeline) (action : WorkerAction) :
    (p.work handler action).wakeupsLeft ≤ p.wakeupsLeft := by
  cases action with
  | pop i => exact Nat.le_of_eq (wakeupsLeft_pop handler p i)
  | finish i => exact Nat.le_of_eq (wakeupsLeft_finish handler p i)
  | notify i interrupted => exact wakeupsLeft_notify handler p i interrupted

theorem stopRequested_of_sameButTables {s s' : Server} (h : SameButTables s s') :
    s'.stopRequested = s.stopRequested := by rw [h]

theorem closeConnections_rest (passes : ℕ) (faults : List (Option CtlFault)) (s : Server) :
    SameButTables s (stateOf (closeConnections passes faults s)) := by
  induction passes generalizing faults s with
  | zero => rfl
  | succ passes ih =>
      rw [closeConnections]
      split
      · rfl
      · next entry _ _ =>
          have hremove := removeConnection_rest ⟨entry.1⟩ (faults.headD none) s
          split
          · next hresult =>
              rw [hresult] at hremove
              exact hremove
          · next hresult =>
              rw [hresult] at hremove
              exact hremove.trans (ih _ _)

theorem stopRequested_proceed (next : Phase) (outcome : Outcome Unit) :
    (proceed next outcome).stopRequested = (stateOf outcome).stopRequested := by
  cases outcome with
  | ok => rfl
  | error => rfl

/-- Nothing takes the flag back. -/
theorem stopRequested_step (hstop : s.stopRequested = true) (action : Action) :
    (step config s action).stopRequested = true := by
  cases action with
  | worker | requestStop | notifyStop | stopPool =>
      first | exact hstop | rfl
  | wait answer =>
      simp only [step]
      split
      · rw [if_pos hstop]
        exact hstop
      · exact hstop
  | dispatch io =>
      simp only [step]
      split
      · exact hstop
      · rw [if_pos hstop]
        exact hstop
      · exact hstop
  | readWakeup interrupted =>
      simp only [step]
      split
      · split
        · exact hstop
        · exact hstop
        · exact hstop
      · exact hstop
  | swapCompleted =>
      simp only [step]
      split
      · exact hstop
      · exact hstop
  | complete fault =>
      simp only [step]
      split
      · exact hstop
      · rw [stopRequested_proceed]
        exact (stopRequested_of_sameButTables (handleCompletedWork_rest _ _ _)).trans hstop
      · exact hstop
  | close faults =>
      simp only [step]
      split
      · rw [if_pos hstop, stopRequested_proceed]
        exact (stopRequested_of_sameButTables (closeConnections_rest _ _ _)).trans hstop
      · exact hstop

/-! ## Every step is paid for -/

theorem stepsLeft_proceed_le {next : Phase} {bound : ℕ}
    (hnext : ∀ s : Server, stepsLeft { s with phase := next } ≤ bound) (outcome : Outcome Unit) :
    (proceed next outcome).stepsLeft ≤ bound := by
  cases outcome with
  | ok value s => exact hnext s
  | error error s => exact Nat.zero_le _

/-- What happens to the pipeline matters by what is left in it. -/
theorem stepsLeft_pipeline_le {p : Pipeline} {extra : ℕ}
    (hresults : p.resultsLeft = s.pipeline.resultsLeft)
    (hwakeups : p.wakeupsLeft ≤ s.pipeline.wakeupsLeft + extra) :
    stepsLeft { s with pipeline := p } ≤ s.stepsLeft + extra := by
  unfold stepsLeft
  cases s.phase with
  | draining rest =>
      show p.resultsLeft + p.wakeupsLeft + 5 ≤
        s.pipeline.resultsLeft + s.pipeline.wakeupsLeft + 5 + extra
      omega
  | swapping rest =>
      show p.resultsLeft + 4 ≤ s.pipeline.resultsLeft + 4 + extra
      omega
  | polling | dispatching | handling | finished | failed => exact Nat.le_add_right _ _

/-- A wake-up that `Stop` writes may have to be read. -/
theorem wakeupsLeft_write_le (p : Pipeline) (interrupted : Bool) :
    Pipeline.wakeupsLeft { p with workerWakeup := (p.workerWakeup.write interrupted).2 } ≤
      p.wakeupsLeft + 1 := by
  simp only [Pipeline.wakeupsLeft, Pipeline.items, Pipeline.notifiers]
  split <;> split <;> omega

/-- A read of the eventfd empties it, or finds it empty and ends the loop. -/
theorem stepsLeft_readWakeup {rest : List EpollEvent} (hphase : s.phase = .draining rest) :
    1 + (step config s (.readWakeup false)).stepsLeft ≤ s.stepsLeft := by
  have hbefore : s.stepsLeft = s.pipeline.resultsLeft + s.pipeline.wakeupsLeft + 5 := by
    rw [stepsLeft, hphase]
  rw [hbefore]
  simp only [step, hphase]
  by_cases hempty : s.pipeline.workerWakeup.counter = 0
  · have hread : s.pipeline.workerWakeup.read false =
        (.failed .eagain, s.pipeline.workerWakeup) := by
      rw [Eventfd.read, if_neg Bool.false_ne_true, if_pos hempty]
    rw [hread]
    show 1 + (s.pipeline.resultsLeft + 4) ≤ _
    omega
  · have hread : s.pipeline.workerWakeup.read false = (.bytes 8, .create) := by
      rw [Eventfd.read, if_neg Bool.false_ne_true, if_neg hempty]
    rw [hread]
    have hafter : stepsLeft { s with
        pipeline := { s.pipeline with workerWakeup := .create }
        phase := .draining rest } =
          s.pipeline.resultsLeft + (s.pipeline.items.length + s.pipeline.notifiers + 0) + 5 := rfl
    show 1 + stepsLeft { s with
        pipeline := { s.pipeline with workerWakeup := .create }
        phase := .draining rest } ≤ _
    rw [hafter, Pipeline.wakeupsLeft, if_pos (Nat.pos_of_ne_zero hempty)]
    omega

/-- Behind `Stop` every step is paid for by what is left. -/
theorem stepCost_add_stepsLeft_le (hstop : s.stopRequested = true) (action : Action) :
    s.stepCost action + (step config s action).stepsLeft ≤ s.stepsLeft + s.stopCharge action := by
  have hidle : ∀ {action}, s.stepCost action = 0 → step config s action = s →
      s.stepCost action + (step config s action).stepsLeft ≤
        s.stepsLeft + s.stopCharge action := by
    intro action hcost hsame
    rw [hcost, hsame, Nat.zero_add]
    exact Nat.le_add_right _ _
  cases action with
  | worker action =>
      rw [show s.stepCost (.worker action) = 0 from rfl, Nat.zero_add]
      exact stepsLeft_pipeline_le (resultsLeft_work _ _ action) (wakeupsLeft_work _ _ action)
  | requestStop => exact Nat.le_of_eq (Nat.zero_add _)
  | notifyStop interrupted =>
      rw [show s.stepCost (.notifyStop interrupted) = 0 from rfl, Nat.zero_add]
      exact stepsLeft_pipeline_le rfl (wakeupsLeft_write_le s.pipeline interrupted)
  | stopPool => exact Nat.le_of_eq (Nat.zero_add _)
  | wait answer =>
      refine hidle rfl ?_
      simp only [step]
      split
      · exact if_pos hstop
      · rfl
  | dispatch io =>
      cases hphase : s.phase with
      | dispatching events =>
          have hafter : step config s (.dispatch io) = { s with phase := .polling } := by
            cases events with
            | nil => simp only [step, hphase]
            | cons event rest => simp only [step, hphase, if_pos hstop]
          rw [hafter, stepCost, advances, stepsLeft, stepsLeft, hphase]
          exact Nat.le_refl _
      | _ =>
          refine hidle ?_ ?_
          · rw [stepCost, advances, hphase]
            rfl
          · simp only [step, hphase]
  | readWakeup interrupted =>
      cases hphase : s.phase with
      | draining rest =>
          cases interrupted with
          | true =>
              refine hidle ?_ ?_
              · rw [stepCost, advances, hphase]
                rfl
              · simp only [step, hphase, Eventfd.read, if_true, wakeupRead]
                rw [← hphase]
          | false =>
              rw [stepCost, advances, hphase]
              exact stepsLeft_readWakeup hphase
      | _ =>
          refine hidle ?_ ?_
          · rw [stepCost, advances, hphase]
            rfl
          · simp only [step, hphase]
  | swapCompleted =>
      cases hphase : s.phase with
      | swapping rest =>
          have hbefore : s.stepsLeft = s.pipeline.resultsLeft + 4 := by
            rw [stepsLeft, hphase]
          rw [hbefore, stepCost, advances, hphase]
          simp only [step, hphase]
          show 1 + (s.pipeline.completedWork.length + 3) ≤
            s.pipeline.items.length + s.pipeline.completedWork.length + 4 + 0
          omega
      | _ =>
          refine hidle ?_ ?_
          · rw [stepCost, advances, hphase]
            rfl
          · simp only [step, hphase]
  | complete fault =>
      cases hphase : s.phase with
      | handling batch rest =>
          have hbefore : s.stepsLeft = batch.length + 3 := by
            rw [stepsLeft, hphase]
          rw [hbefore, stepCost, advances, hphase]
          cases batch with
          | nil =>
              simp only [step, hphase]
              exact Nat.le_refl _
          | cons result batch =>
              have hafter : (step config s (.complete fault)).stepsLeft ≤ batch.length + 3 := by
                simp only [step, hphase]
                exact stepsLeft_proceed_le (fun _ => Nat.le_refl _) _
              rw [List.length_cons]
              show 1 + _ ≤ _ + 0
              omega
      | _ =>
          refine hidle ?_ ?_
          · rw [stepCost, advances, hphase]
            rfl
          · simp only [step, hphase]
  | close faults =>
      cases hphase : s.phase with
      | polling =>
          have hbefore : s.stepsLeft = 1 := by
            rw [stepsLeft, hphase]
          have hafter : (step config s (.close faults)).stepsLeft ≤ 0 := by
            simp only [step, hphase, if_pos hstop]
            exact stepsLeft_proceed_le (fun _ => Nat.le_refl _) _
          rw [hbefore, stepCost, advances, hphase]
          show 1 + _ ≤ 1 + 0
          omega
      | _ =>
          refine hidle ?_ ?_
          · rw [stepCost, advances, hphase]
            rfl
          · simp only [step, hphase]

/-- `epoll_ctl` fails in this step for no reason that the interest set gives. -/
def faulted : Action → Bool
  | .complete fault => fault.isSome
  | .close faults => faults.any Option.isSome
  | _ => false

/-- `Run` has not thrown, and when it has returned there is no connection left. -/
structure EndsWell (s : Server) : Prop where
  running : s.phase.hasFailed = false
  closed : s.phase = .finished → s.connectionFlows.keys = [] ∧ s.connections.size = 0

theorem endsWell_of_running {s' : Server} (hrunning : s'.phase.isOver = false) :
    EndsWell s' := by
  constructor
  · cases hphase : s'.phase with
    | failed =>
        rw [hphase] at hrunning
        cases hrunning
    | _ => rfl
  · intro hfinished
    rw [hfinished] at hrunning
    cases hrunning

/-- A result can be handled in every state of the tables. -/
theorem handleCompletedWork_ok (h : WellFormed config s) (result : WorkResult) :
    ∃ s', handleCompletedWork result none s = .ok () s' := by
  unfold handleCompletedWork
  split
  · exact ⟨s, rfl⟩
  next c hfind =>
  split
  · exact ⟨s, rfl⟩
  next f hlookup =>
  have hlive := live_eq_some_iff.mpr ⟨hfind, hlookup⟩
  obtain ⟨queued, c', f', hrelease⟩ := exists_released c
    { f with
      completedResponses := emplace f.completedResponses result.sequence result.response }
  have hmoves : Moves config {result.connectionId} (Activation.idle s [result]) _ :=
    released_moves (Set.mem_singleton _) rfl hlive hrelease
  have hwf := hmoves.wellFormed h
  simp only [flushReadyResponses_eq hrelease]
  split
  · obtain ⟨s', hok, -⟩ := removeConnection_ok hwf result.connectionId
    exact ⟨s', hok⟩
  · obtain ⟨s', hok, -⟩ := settleConnection_ok hwf result.connectionId
    exact ⟨s', hok⟩

/-- All connections can be closed in every state of the tables. -/
theorem closeAllConnections_ok (h : WellFormed config s) {faults : List (Option CtlFault)}
    (hfaults : ∀ fault ∈ faults, fault = none) :
    ∃ s', closeAllConnections faults s = .ok () s' ∧ Closed s s' := by
  have hclosable := closable_of_wellFormed h
  have hloop := closeLoop_eq_closeConnections hclosable hfaults 0
  obtain ⟨-, s', hclosed, hdone⟩ := closeLoop_spec hclosable (fun _ => ⟨0, []⟩) 0
  rw [hdone _ (Nat.lt_succ_self _)] at hloop
  have houtcome := (Prod.mk.inj (Option.some.inj hloop)).2
  refine ⟨s', ?_, hclosed⟩
  rw [closeAllConnections, ← hclosable.size_eq]
  exact houtcome.symm

/-- Behind `Stop` the reactor does not throw, as long as `epoll_ctl` does what the
interest set asks of it. -/
theorem endsWell_step (hwf : WellFormed config s) (hstop : s.stopRequested = true)
    (h : EndsWell s) {action : Action} (hfault : faulted action = false) :
    EndsWell (step config s action) := by
  cases action with
  | worker | requestStop | notifyStop | stopPool => exact ⟨h.running, h.closed⟩
  | wait answer =>
      simp only [step]
      split
      · rw [if_pos hstop]
        exact h
      · exact h
  | dispatch io =>
      simp only [step]
      split
      · exact endsWell_of_running rfl
      · rw [if_pos hstop]
        exact endsWell_of_running rfl
      · exact h
  | readWakeup interrupted =>
      simp only [step]
      split
      · next rest hphase =>
          split
          · apply endsWell_of_running
            rw [hphase]
            rfl
          · exact endsWell_of_running rfl
          · next error hread =>
              exact absurd hread (wakeupRead_ne_error _ interrupted error)
      · exact h
  | swapCompleted =>
      simp only [step]
      split
      · exact endsWell_of_running rfl
      · exact h
  | complete fault =>
      cases fault with
      | some fault => cases hfault
      | none =>
          simp only [step]
          split
          · exact endsWell_of_running rfl
          · next result batch rest hphase =>
              obtain ⟨s', hok⟩ := handleCompletedWork_ok hwf result
              rw [hok]
              exact endsWell_of_running rfl
          · exact h
  | close faults =>
      have hnone : ∀ fault ∈ faults, fault = none := by
        intro fault hmem
        have hall := List.any_eq_false.mp hfault fault hmem
        cases fault with
        | none => rfl
        | some fault => exact absurd rfl hall
      simp only [step]
      split
      · obtain ⟨s', hok, hclosed⟩ := closeAllConnections_ok hwf hnone
        rw [if_pos hstop, hok]
        exact ⟨rfl, fun _ => ⟨hclosed.flows, hclosed.connections⟩⟩
      · exact h

/-- Where the reactor stands, it has a step to make. -/
theorem exists_advances (hphase : s.phase.isOver = false) :
    ∃ action, faulted action = false ∧ s.advances action = true := by
  cases h : s.phase with
  | polling => exact ⟨.close [], rfl, by rw [advances, h]⟩
  | dispatching events => exact ⟨.dispatch {}, rfl, by rw [advances, h]⟩
  | draining rest => exact ⟨.readWakeup false, rfl, by rw [advances, h]; rfl⟩
  | swapping rest => exact ⟨.swapCompleted, rfl, by rw [advances, h]⟩
  | handling batch rest => exact ⟨.complete none, rfl, by rw [advances, h]⟩
  | finished | failed =>
      rw [h] at hphase
      cases hphase

/-! ## The whole run -/

theorem stopRequested_run_append {descriptors : Descriptors} {before : List Action}
    (hstop : (run config descriptors before).stopRequested = true) (later : List Action) :
    (run config descriptors (before ++ later)).stopRequested = true := by
  induction later using List.reverseRecOn with
  | nil => rwa [List.append_nil]
  | append_singleton later action ih =>
      rw [← List.append_assoc, run_append_singleton]
      exact stopRequested_step ih action

theorem endsWell_run_append {descriptors : Descriptors} {before : List Action}
    (hstop : (run config descriptors before).stopRequested = true)
    (hrunning : (run config descriptors before).phase.isOver = false) {later : List Action}
    (hfaults : ∀ action ∈ later, faulted action = false) :
    EndsWell (run config descriptors (before ++ later)) := by
  induction later using List.reverseRecOn with
  | nil =>
      rw [List.append_nil]
      constructor
      · cases hphase : (run config descriptors before).phase with
        | failed =>
            rw [hphase] at hrunning
            cases hrunning
        | _ => rfl
      · intro hphase
        rw [hphase] at hrunning
        cases hrunning
  | append_singleton later action ih =>
      rw [← List.append_assoc, run_append_singleton]
      refine endsWell_step (run_wellFormed _ _ _) (stopRequested_run_append hstop later) ?_ ?_
      · exact ih fun action hmem => hfaults action (List.mem_append_left _ hmem)
      · exact hfaults action (List.mem_append_right _ (List.mem_singleton_self action))

/-- Once `Stop` has stored its flag between two calls of the handlers, `Run` ends, whatever
the workers do: in every continuation the reactor makes no more steps than were in
front of it and one for each further wake-up that `Stop` writes; until it is over
there always is such a step; and if `epoll_ctl` does what the interest set asks of it,
`Run` does not throw, and when it returns there is no connection left. A handler is one
step here, so nothing is said about the one that is under way when the flag is stored. -/
theorem stop_ends_run (config : ServerConfig) (descriptors : Descriptors)
    (before later : List Action)
    (hstop : (run config descriptors before).stopRequested = true) :
    tally (step config) stepCost (run config descriptors before) later ≤
        (run config descriptors before).stepsLeft +
          tally (step config) stopCharge (run config descriptors before) later ∧
    ((run config descriptors (before ++ later)).phase.isOver = false →
      ∃ action, faulted action = false ∧
        (run config descriptors (before ++ later)).advances action = true) ∧
    ((run config descriptors before).phase.isOver = false →
      (∀ action ∈ later, faulted action = false) →
      (run config descriptors (before ++ later)).phase.hasFailed = false ∧
      ((run config descriptors (before ++ later)).phase = .finished →
        (run config descriptors (before ++ later)).connectionFlows.keys = [] ∧
        (run config descriptors (before ++ later)).connections.size = 0)) := by
  refine ⟨?_, exists_advances, fun hrunning hfaults => ?_⟩
  · have hkept : ∀ (s : Server) (action : Action), s.stopRequested = true →
        (step config s action).stopRequested = true := fun _ action h => stopRequested_step h action
    have hpaid := tally_le_of_potential (fun s : Server => s.stopRequested = true) stepsLeft hkept
      (fun _ action h => stepCost_add_stepsLeft_le h action) hstop later
    exact Nat.le_trans (Nat.le_add_right _ _) hpaid
  · have hends := endsWell_run_append hstop hrunning hfaults
    exact ⟨hends.running, hends.closed⟩

/-- `Stop` is called while a response is on its way: a worker has published it and still
has its wake-up to write. -/
def Sample.interrupted : List Action :=
  Sample.arrival ++ [.worker (.pop 0), .worker (.finish 0), .requestStop]

theorem stop_ends_run_interrupted :
    let s := run Sample.config Sample.descriptors Sample.interrupted
    s.stopRequested = true ∧ s.phase.isOver = false ∧
      tally (step Sample.config) stepCost s [.worker (.notify 0 false), .close []] ≤ 1 := by
  have hphase : (run Sample.config Sample.descriptors Sample.interrupted).phase = .polling := by
    decide +kernel
  have hstop : (run Sample.config Sample.descriptors Sample.interrupted).stopRequested = true := by
    decide +kernel
  refine ⟨hstop, by rw [hphase]; rfl, ?_⟩
  have hbound := (stop_ends_run Sample.config Sample.descriptors Sample.interrupted
    [.worker (.notify 0 false), .close []] hstop).1
  rwa [stepsLeft, hphase] at hbound

end Server

end PulseCore.Network
