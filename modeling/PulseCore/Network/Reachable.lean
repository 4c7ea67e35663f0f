/-
# Every run consists of moves

The state after a run is reached from the initial state by moves. Between two
steps of a run every connection is settled and the reactor holds nothing but the
results it has swapped out, unless an exception has left `Run`: then the messages
of the read that threw are lost, and so may be a part of the batch.
-/

import PulseCore.Network.Settled

namespace PulseCore.Network

open PulseCore.Foundation PulseCore.Core PulseCore.Protocol

/-- An exception has left `Run`. -/
def Phase.hasFailed : Phase → Bool
  | .failed _ => true
  | _ => false

/-- Unless the reactor has failed, it holds nothing but its batch, and every
connection is settled. -/
def Activation.AtRest (a : Activation) : Prop :=
  a.server.phase.hasFailed = false →
    a.inbox = (fun _ => []) ∧ a.batch = a.server.phase.batch ∧ ∀ id, Settled a.server id

theorem Activation.AtRest.congr {a a' : Activation} (h : a.AtRest)
    (hphase : a'.server.phase = a.server.phase) (hinbox : a'.inbox = a.inbox)
    (hbatch : a'.batch = a.batch) (hlive : a'.server.live = a.server.live)
    (hrest : (a'.server.epoll, a'.server.sockets) = (a.server.epoll, a.server.sockets)) :
    a'.AtRest := by
  intro hok
  rw [hphase] at hok
  obtain ⟨hnone, hheld, hsettled⟩ := h hok
  refine ⟨hinbox.trans hnone, hbatch.trans (hheld.trans (by rw [hphase])), fun id => ?_⟩
  exact (hsettled id).congr (congrFun hlive id) (congrArg Prod.fst hrest)
    (congrFun (congrArg Prod.snd hrest) id.value)

section

variable {config : ServerConfig} {touched : Set ConnectionId} {a a' : Activation} {s s' : Server}

/-- The registrations of the server's own descriptors are the same in both states. -/
structure SameOwn (s s' : Server) : Prop where
  descriptors : s'.descriptors = s.descriptors
  epoll : ∀ fd ∈ s.descriptors.all, s'.epoll.lookup fd = s.epoll.lookup fd

theorem SameOwn.refl (s : Server) : SameOwn s s := ⟨rfl, fun _ _ => rfl⟩

theorem SameOwn.of_eq (hdescriptors : s'.descriptors = s.descriptors)
    (hepoll : s'.epoll = s.epoll) : SameOwn s s' :=
  ⟨hdescriptors, fun fd _ => by rw [hepoll]⟩

theorem SameOwn.trans {s₁ s₂ s₃ : Server} (h₁ : SameOwn s₁ s₂) (h₂ : SameOwn s₂ s₃) :
    SameOwn s₁ s₃ := by
  refine ⟨h₂.descriptors.trans h₁.descriptors, ?_⟩
  intro fd hfd
  rw [h₂.epoll fd (h₁.descriptors ▸ hfd), h₁.epoll fd hfd]

/-- A call on another descriptor. -/
theorem sameOwn_epollCtl {op : CtlOp} {fd : Fd} {event : EpollEvent} {fault : Option CtlFault}
    {answer : Option Errno} (hforeign : fd ∉ s.descriptors.all)
    (hctl : s.epollCtl op fd event fault = (answer, s')) : SameOwn s s' := by
  refine ⟨by rw [Server.epollCtl_rest hctl], ?_⟩
  intro own hown
  apply Server.lookup_epollCtl_of_ne hctl
  exact fun heq => hforeign (heq ▸ hown)

theorem sameOwn_wrote {id : ConnectionId} {c : Connection} {f : ConnectionFlow}
    (hwrote : Server.Wrote s s' id c f) : SameOwn s s' :=
  .of_eq (by rw [hwrote.rest]) (by rw [hwrote.rest])

theorem sameOwn_removed {id : ConnectionId} {c : Connection} {f : ConnectionFlow}
    (hforeign : c.fd ∉ s.descriptors.all) (hremoved : Server.Removed id c f s s') :
    SameOwn s s' := by
  cases hremoved with
  | unregistered => exact .of_eq rfl rfl
  | registered hregistered hctl => exact (sameOwn_epollCtl hforeign hctl).trans (.of_eq rfl rfl)

/-- The descriptors of connections are not the server's own. -/
theorem Move.sameOwn (hmove : Move config touched a a') (h : WellFormed config a.server) :
    SameOwn a.server a'.server := by
  cases hmove with
  | work | wake | stopPool | control | acceptErrors | swap | discard | dropInbox | read | write =>
      exact .of_eq rfl rfl
  | @accept fd _ _ hinbox hids hroom hfresh hctl =>
      have hforeign : fd ∉ a.server.descriptors.all :=
        fun hmem => hfresh (List.mem_append_left _ hmem)
      have hadmitted : SameOwn a.server (a.server.admitted fd) := .of_eq rfl rfl
      exact (hadmitted.trans (sameOwn_epollCtl hforeign hctl)).trans (.of_eq rfl rfl)
  | @acceptFailed fd _ _ _ hinbox hids hroom hfresh hctl =>
      have hforeign : fd ∉ a.server.descriptors.all :=
        fun hmem => hfresh (List.mem_append_left _ hmem)
      have hadmitted : SameOwn a.server (a.server.admitted fd) := .of_eq rfl rfl
      exact (hadmitted.trans (sameOwn_epollCtl hforeign hctl)).trans (.of_eq rfl rfl)
  | submit hid hlive hinbox hroom hsubmit hwrote =>
      exact (sameOwn_wrote hwrote).trans (.of_eq rfl rfl)
  | closing hid hlive hclosed hdecoded hwrote => exact sameOwn_wrote hwrote
  | writeBack hid hlive hwrote => exact sameOwn_wrote hwrote
  | deliver hid hbatch hlive hwrote => exact sameOwn_wrote hwrote
  | release hid hlive hready hqueued hwrote => exact sameOwn_wrote hwrote
  | refuse hid hlive hqueued hwrote => exact sameOwn_wrote hwrote
  | register hid hlive hunregistered hkey hctl hwrote =>
      exact (sameOwn_epollCtl (h.live _ _ _ hlive).foreign hctl).trans (sameOwn_wrote hwrote)
  | modify hid hlive hregistered hkey hctl =>
      exact sameOwn_epollCtl (h.live _ _ _ hlive).foreign hctl
  | unregister hid hlive hregistered hctl hwrote =>
      exact (sameOwn_epollCtl (h.live _ _ _ hlive).foreign hctl).trans (sameOwn_wrote hwrote)
  | ctlFailed hid hlive hctl hop => exact sameOwn_epollCtl (h.live _ _ _ hlive).foreign hctl
  | remove hid hlive hremoved => exact sameOwn_removed (h.live _ _ _ hlive).foreign hremoved
  | drain hid hlive hinbox hclose hremoved =>
      exact (sameOwn_removed (h.live _ _ _ hlive).foreign hremoved).trans (.of_eq rfl rfl)

theorem Moves.sameOwn (hmoves : Moves config touched a a') (h : WellFormed config a.server) :
    SameOwn a.server a'.server := by
  induction hmoves with
  | refl => exact .refl _
  | tail hmoves hmove ih => exact ih.trans (hmove.sameOwn (Moves.wellFormed hmoves h))

end

namespace Server

variable {config : ServerConfig} {descriptors : Descriptors} {s : Server} {a : Activation}

/-- A handler that returned or threw, and what `Run` does then. -/
theorem proceed_moves {next : Phase} {outcome : Outcome Unit}
    {inbox : ConnectionId → List Message} {batch : List WorkResult}
    (hmoves : Moves config Set.univ a ⟨stateOf outcome, inbox, batch⟩)
    (hnext : ∀ s', outcome = .ok () s' →
      inbox = (fun _ => []) ∧ batch = next.batch ∧ ∀ id, Settled s' id) :
    ∃ a', a'.server = proceed next outcome ∧ Moves config Set.univ a a' ∧ a'.AtRest := by
  cases outcome with
  | ok _ s' =>
      refine ⟨_, rfl, hmoves.tail (.control _ s'.stopRequested next), ?_⟩
      intro _
      obtain ⟨hinbox, hbatch, hsettled⟩ := hnext s' rfl
      exact ⟨hinbox, hbatch, fun id => (hsettled id).congr rfl rfl rfl⟩
  | error exception s' =>
      refine ⟨_, rfl, hmoves.tail (.control _ s'.stopRequested (.failed exception)), ?_⟩
      intro hfailed
      cases hfailed

/-- The reactor goes on to a phase with the same batch. -/
theorem control_moves (hrest : a.AtRest) (hphase : a.server.phase.hasFailed = false)
    (stopRequested : Bool) {next : Phase} (hbatch : next.batch = a.server.phase.batch) :
    ∃ a', a'.server = { a.server with stopRequested, phase := next } ∧
      Moves config Set.univ a a' ∧ a'.AtRest := by
  refine ⟨_, rfl, .single (.control a stopRequested next), ?_⟩
  intro _
  obtain ⟨hinbox, hold, hsettled⟩ := hrest hphase
  exact ⟨hinbox, hold.trans hbatch.symm, fun id => (hsettled id).congr rfl rfl rfl⟩

theorem dispatchEvent_moves (h : WellFormed config a.server) (hrest : a.AtRest)
    {events : List EpollEvent} (hphase : a.server.phase = .dispatching events)
    (event : EpollEvent) (rest : List EpollEvent) (io : HandlerIo) :
    ∃ a', a'.server = dispatchEvent config event rest io a.server ∧
      Moves config Set.univ a a' ∧ a'.AtRest := by
  have hok : a.server.phase.hasFailed = false := by
    rw [hphase]
    rfl
  obtain ⟨hinbox, hbatch, hsettled⟩ := hrest hok
  rw [hphase] at hbatch
  unfold dispatchEvent
  split
  · have hmoves : Moves config ∅ a _ := handleListenerEvent_moves io.accepts h hinbox
    refine proceed_moves (hmoves.mono (Set.subset_univ _)) ?_
    intro s' hs'
    rw [hs'] at hmoves
    exact ⟨hinbox, hbatch, fun id => hmoves.settled h (fun id _ => hsettled id) id nofun⟩
  · exact control_moves hrest hok a.server.stopRequested (by rw [hphase]; rfl)
  · have hmoves : Moves config ∅ a _ := handleShutdownSignal_moves io.signals
    refine proceed_moves (hmoves.mono (Set.subset_univ _)) ?_
    intro s' hs'
    rw [hs'] at hmoves
    exact ⟨hinbox, hbatch, fun id => hmoves.settled h (fun id _ => hsettled id) id nofun⟩
  · next id _ =>
      obtain ⟨inbox, hmoves, hnone⟩ :=
        handleConnectionEvent_moves h hinbox (hsettled id).unended event.events io
      refine proceed_moves (hmoves.mono (Set.subset_univ _)) ?_
      intro s' hs'
      rw [hs'] at hmoves
      exact ⟨hnone s' hs', hbatch, settled_of_moves hmoves h hsettled
        (handleConnectionEvent_settled h (hsettled id) hs')⟩

/-- Every step of the system consists of moves. -/
theorem step_moves (h : WellFormed config a.server) (hrest : a.AtRest) (action : Action) :
    ∃ a', a'.server = step config a.server action ∧ Moves config Set.univ a a' ∧ a'.AtRest := by
  have hsame : ∃ a', a'.server = a.server ∧ Moves config Set.univ a a' ∧ a'.AtRest :=
    ⟨a, rfl, .refl, hrest⟩
  cases action with
  | worker action => exact ⟨_, rfl, .single (.work a action), hrest.congr rfl rfl rfl rfl rfl⟩
  | requestStop =>
      exact ⟨_, rfl, .single (.control a true a.server.phase), hrest.congr rfl rfl rfl rfl rfl⟩
  | notifyStop interrupted =>
      exact ⟨_, rfl, .single (.wake a (a.server.pipeline.workerWakeup.write interrupted).2),
        hrest.congr rfl rfl rfl rfl rfl⟩
  | stopPool => exact ⟨_, rfl, .single (.stopPool a), hrest.congr rfl rfl rfl rfl rfl⟩
  | wait answer =>
      simp only [step]
      split
      · next hphase =>
          have hok : a.server.phase.hasFailed = false := by
            rw [hphase]
            rfl
          split
          · exact hsame
          · split
            · exact control_moves hrest hok a.server.stopRequested (by rw [hphase]; rfl)
            · split
              · exact hsame
              · refine ⟨_, rfl, .single (.control a a.server.stopRequested (.failed _)), ?_⟩
                intro hfailed
                cases hfailed
      · exact hsame
  | dispatch io =>
      simp only [step]
      split
      · next hphase =>
          exact control_moves hrest (by rw [hphase]; rfl) a.server.stopRequested
            (by rw [hphase]; rfl)
      · next event rest hphase =>
          split
          · exact control_moves hrest (by rw [hphase]; rfl) a.server.stopRequested
              (by rw [hphase]; rfl)
          · exact dispatchEvent_moves h hrest hphase event rest io
      · exact hsame
  | readWakeup interrupted =>
      simp only [step]
      split
      · next rest hphase =>
          have hmove : Move config Set.univ a _ :=
            .wake a (a.server.pipeline.workerWakeup.read interrupted).2
          split
          · exact ⟨_, rfl, .single hmove, hrest.congr rfl rfl rfl rfl rfl⟩
          · refine ⟨_, rfl, .head hmove
              (.single (.control _ a.server.stopRequested (.swapping rest))), ?_⟩
            intro _
            obtain ⟨hinbox, hbatch, hsettled⟩ := hrest (by rw [hphase]; rfl)
            rw [hphase] at hbatch
            exact ⟨hinbox, hbatch, fun id => (hsettled id).congr rfl rfl rfl⟩
          · next error _ =>
              refine ⟨_, rfl, .head hmove
                (.single (.control _ a.server.stopRequested (.failed error))), ?_⟩
              intro hfailed
              cases hfailed
      · exact hsame
  | swapCompleted =>
      simp only [step]
      split
      · next rest hphase =>
          obtain ⟨hinbox, hbatch, hsettled⟩ := hrest (by rw [hphase]; rfl)
          rw [hphase] at hbatch
          refine ⟨_, rfl, .head (.swap a hbatch) (.single (.control _ a.server.stopRequested
            (.handling a.server.pipeline.completedWork rest))), ?_⟩
          intro _
          exact ⟨hinbox, rfl, fun id => (hsettled id).congr rfl rfl rfl⟩
      · exact hsame
  | complete fault =>
      simp only [step]
      split
      · next rest hphase =>
          exact control_moves hrest (by rw [hphase]; rfl) a.server.stopRequested
            (by rw [hphase]; rfl)
      · next result batch rest hphase =>
          obtain ⟨hinbox, hbatch, hsettled⟩ := hrest (by rw [hphase]; rfl)
          rw [hphase] at hbatch
          have hmoves := handleCompletedWork_moves h hinbox hbatch fault
          refine proceed_moves (hmoves.mono (Set.subset_univ _)) ?_
          intro s' hs'
          rw [hs'] at hmoves
          exact ⟨hinbox, rfl, settled_of_moves hmoves h hsettled
            (handleCompletedWork_settled h (hsettled _) hs')⟩
      · exact hsame
  | close faults =>
      simp only [step]
      split
      · next hphase =>
          obtain ⟨hinbox, hbatch, hsettled⟩ := hrest (by rw [hphase]; rfl)
          rw [hphase] at hbatch
          split
          · exact proceed_moves (closeConnections_moves _ _ h) fun _ hs' =>
              ⟨hinbox, hbatch, closeConnections_settled h hsettled hs'⟩
          · exact hsame
      · exact hsame

theorem wellFormed_constructed (config : ServerConfig) (descriptors : Descriptors) :
    WellFormed config (constructed config descriptors) := by
  have hnone : ∀ id, (constructed config descriptors).live id = none := fun _ => rfl
  refine ⟨fun _ => rfl, ?_, ?_, nofun, nofun, Nat.zero_le _, rfl, rfl⟩
  · intro id c f hlive
    rw [hnone] at hlive
    cases hlive
  · intro id id' c c' f f' hlive
    rw [hnone] at hlive
    cases hlive

/-- The constructor at work: so far the interest set is `epoll`. -/
structure Starting (config : ServerConfig) (descriptors : Descriptors) (s : Server)
    (epoll : AList (fun _ : Fd => EpollEvent)) : Prop where
  wellFormed : WellFormed config s
  eq : ∃ ctlCalls, s = { constructed config descriptors with epoll, ctlCalls }

/-- It adds a descriptor that is not there yet. -/
theorem Starting.add {epoll : AList (fun _ : Fd => EpollEvent)}
    (h : Starting config descriptors s epoll) {fd : Fd} (hfd : fd ∈ descriptors.all)
    (habsent : fd ∉ epoll) (event : EpollEvent) :
    Starting config descriptors (s.epollCtl .add fd event none).2 (epoll.insert fd event) := by
  obtain ⟨hwf, calls, rfl⟩ := h
  generalize hctl : epollCtl _ .add fd event none = result
  obtain ⟨answer, s'⟩ := result
  cases answer with
  | none =>
      refine ⟨hwf.addInternal hfd hctl, ?_⟩
      obtain ⟨-, rfl⟩ := epollCtl_eq_none hctl
      exact ⟨_, rfl⟩
  | some error =>
      -- No fault was injected, and the precondition holds.
      obtain ⟨reason, hreason, -⟩ := (epollCtl_eq_some hctl).2 (decide_eq_false habsent)
      cases hreason

/-- The interest set with the listener and the eventfd. -/
def ownEpoll (descriptors : Descriptors) : AList (fun _ : Fd => EpollEvent) :=
  (AList.insert descriptors.listener listenerEvent ∅ : AList (fun _ : Fd => EpollEvent)).insert
    descriptors.workerWakeup workerWakeupEvent

/-- The interest set when the constructor has returned. -/
def startEpoll (config : ServerConfig) (descriptors : Descriptors) :
    AList (fun _ : Fd => EpollEvent) :=
  if config.options.shutdownSignals.isEmpty then ownEpoll descriptors
  else (ownEpoll descriptors).insert descriptors.shutdownSignal shutdownSignalEvent

/-- The constructor adds two or three descriptors, none of them twice. -/
theorem starting_start (config : ServerConfig) (descriptors : Descriptors) :
    Starting config descriptors (start config descriptors) (startEpoll config descriptors) := by
  obtain ⟨hlistener, hrest⟩ := List.nodup_cons.mp descriptors.nodup
  obtain ⟨-, hrest⟩ := List.nodup_cons.mp hrest
  obtain ⟨hwakeup, -⟩ := List.nodup_cons.mp hrest
  have hconstructed : Starting config descriptors (constructed config descriptors) ∅ :=
    ⟨wellFormed_constructed config descriptors, [], rfl⟩
  have hown : Starting config descriptors
      (addWorkerWakeupToEpoll (addListenerToEpoll (constructed config descriptors)))
      (ownEpoll descriptors) := by
    have hadded := hconstructed.add List.mem_cons_self (AList.notMem_empty _) listenerEvent
    obtain ⟨calls, hs⟩ := hadded.eq
    have hdescriptors : (addListenerToEpoll (constructed config descriptors)).descriptors =
        descriptors := congrArg Server.descriptors hs
    rw [addWorkerWakeupToEpoll, hdescriptors]
    refine hadded.add (by simp [Descriptors.all]) ?_ workerWakeupEvent
    rw [AList.mem_insert]
    rintro (heq | hmem)
    · exact hlistener (heq ▸ by simp)
    · exact AList.notMem_empty _ hmem
  unfold start addShutdownSignalToEpoll startEpoll
  split
  · exact hown
  · obtain ⟨calls, hs⟩ := hown.eq
    have hdescriptors := congrArg Server.descriptors hs
    rw [hdescriptors]
    refine hown.add (by simp [Descriptors.all, constructed]) ?_ shutdownSignalEvent
    rw [ownEpoll, AList.mem_insert, AList.mem_insert]
    rintro (heq | heq | hmem)
    · exact hwakeup (heq ▸ by simp [constructed])
    · exact hlistener (heq ▸ by simp [constructed])
    · exact AList.notMem_empty _ hmem

/-! ## Runs -/

/-- The state after a run, with what the reactor holds there. -/
theorem run_moves (config : ServerConfig) (descriptors : Descriptors) (actions : List Action) :
    ∃ a, a.server = run config descriptors actions ∧
      Moves config Set.univ (.idle (start config descriptors) []) a ∧ a.AtRest := by
  induction actions using List.reverseRecOn with
  | nil =>
      refine ⟨_, rfl, .refl, ?_⟩
      obtain ⟨calls, hstart⟩ := (starting_start config descriptors).eq
      intro _
      rw [hstart]
      exact ⟨rfl, rfl, fun _ => .of_none rfl⟩
  | append_singleton actions action ih =>
      obtain ⟨a, ha, hmoves, hrest⟩ := ih
      have hwf := hmoves.wellFormed (starting_start config descriptors).wellFormed
      obtain ⟨a', ha', hmoves', hrest'⟩ := step_moves hwf hrest action
      refine ⟨a', ?_, hmoves.trans hmoves', hrest'⟩
      rw [ha', ha, run_append_singleton]

/-- What the constructor leaves and every move keeps holds after every run. -/
theorem run_of_moves {descriptors : Descriptors} {P : Server → Prop}
    (hstart : ∀ epoll ctlCalls, P { constructed config descriptors with epoll, ctlCalls })
    (hmove : ∀ a a', Move config Set.univ a a' → P a.server → P a'.server)
    (actions : List Action) : P (run config descriptors actions) := by
  obtain ⟨a, ha, hmoves, -⟩ := run_moves config descriptors actions
  rw [← ha]
  clear ha
  induction hmoves with
  | refl =>
      obtain ⟨calls, heq⟩ := (starting_start config descriptors).eq
      rw [Activation.idle, heq]
      exact hstart _ calls
  | tail _ hlast ih => exact hmove _ _ hlast ih

theorem run_wellFormed (config : ServerConfig) (descriptors : Descriptors)
    (actions : List Action) : WellFormed config (run config descriptors actions) := by
  obtain ⟨a, ha, hmoves, -⟩ := run_moves config descriptors actions
  rw [← ha]
  exact hmoves.wellFormed (starting_start config descriptors).wellFormed

/-- The server's own descriptors are registered as the constructor left them. -/
theorem lookup_own (config : ServerConfig) (descriptors : Descriptors) (actions : List Action)
    {fd : Fd} (hfd : fd ∈ descriptors.all) :
    (run config descriptors actions).epoll.lookup fd =
      (startEpoll config descriptors).lookup fd := by
  obtain ⟨a, ha, hmoves, -⟩ := run_moves config descriptors actions
  have hstarting := starting_start config descriptors
  obtain ⟨calls, hstart⟩ := hstarting.eq
  have hown := (hmoves.sameOwn hstarting.wellFormed).epoll fd
  simp only [Activation.idle, hstart] at hown
  rw [← ha]
  exact hown hfd

theorem lookup_listener (config : ServerConfig) (descriptors : Descriptors)
    (actions : List Action) :
    (run config descriptors actions).epoll.lookup descriptors.listener = some listenerEvent := by
  have hnodup := descriptors.nodup
  simp only [List.nodup_cons, List.mem_cons, not_or] at hnodup
  rw [lookup_own config descriptors actions List.mem_cons_self, startEpoll]
  have hown : (ownEpoll descriptors).lookup descriptors.listener = some listenerEvent := by
    rw [ownEpoll, AList.lookup_insert_ne hnodup.1.2.1]
    exact AList.lookup_insert _
  split
  · exact hown
  · rw [AList.lookup_insert_ne hnodup.1.2.2.1]
    exact hown

theorem lookup_workerWakeup (config : ServerConfig) (descriptors : Descriptors)
    (actions : List Action) :
    (run config descriptors actions).epoll.lookup descriptors.workerWakeup =
      some workerWakeupEvent := by
  have hnodup := descriptors.nodup
  simp only [List.nodup_cons, List.mem_cons, not_or] at hnodup
  rw [lookup_own config descriptors actions (by simp [Descriptors.all]), startEpoll]
  split
  · exact AList.lookup_insert _
  · rw [AList.lookup_insert_ne hnodup.2.2.1.1]
    exact AList.lookup_insert _

end Server

end PulseCore.Network
