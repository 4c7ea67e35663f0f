/-
# The handlers consist of moves

For each member function of the reactor: whatever it returns or throws, the state
it leaves is reached from the state it was called in by moves, and by moves on
the connections it was called for only. The branches the source keeps for tables
that disagree are never taken, because the tables agree.
-/

import PulseCore.Network.WellFormed

namespace PulseCore.Network

open PulseCore.Foundation PulseCore.Core PulseCore.Protocol

namespace Server

/-- The state that a call leaves, whether it returns or throws. -/
def stateOf {α : Type} : Outcome α → Server
  | .ok _ s => s
  | .error _ s => s

@[simp]
theorem stateOf_ok {α : Type} (value : α) (s : Server) : stateOf (.ok value s) = s := rfl

@[simp]
theorem stateOf_error {α : Type} (exception : Exception) (s : Server) :
    stateOf (.error exception s : Outcome α) = s := rfl

variable {config : ServerConfig} {touched : Set ConnectionId} {s s' : Server} {id : ConnectionId}
  {c : Connection} {f : ConnectionFlow} {a : Activation} {fault : Option CtlFault}

/-- A call on behalf of a live connection fails for reasons of the kernel only. -/
theorem epollCtl_ne_enoent (h : WellFormed config s) (hlive : s.live id = some (c, f)) {op : CtlOp}
    {event : EpollEvent} {error : Errno}
    (hctl : s.epollCtl op c.fd event fault = (some error, s'))
    (hop : f.registeredWithEpoll = (op ≠ .add : Bool)) : error ≠ .enoent := by
  obtain ⟨reason, -, rfl⟩ := (epollCtl_eq_some hctl).2 ((h.present_eq hlive).trans hop)
  exact reason.ne_enoent

/-- `RemoveConnection` on a live connection goes through, or the kernel refuses
to take its descriptor out of the interest set. -/
theorem removeConnection_cases (h : WellFormed config s) (hlive : s.live id = some (c, f))
    (fault : Option CtlFault) :
    (∃ s', removeConnection id fault s = .ok () s' ∧ Removed id c f s s') ∨
    ∃ exception error s', removeConnection id fault s = .error exception s' ∧
      f.registeredWithEpoll = true ∧ s.epollCtl .del c.fd ⟨{}, 0⟩ fault = (some error, s') := by
  obtain ⟨hfind, hlookup⟩ := live_eq_some_iff.mp hlive
  simp only [removeConnection, hfind, hlookup]
  split
  · next hregistered =>
      split
      · next s' hctl => exact .inl ⟨_, rfl, .registered hregistered hctl⟩
      · next error s' hctl =>
          rw [if_pos (epollCtl_ne_enoent h hlive hctl hregistered)]
          exact .inr ⟨_, error, s', rfl, hregistered, hctl⟩
  · next hunregistered =>
      exact .inl ⟨_, rfl, .unregistered (Bool.eq_false_iff.mpr hunregistered)⟩

theorem removeConnection_of_find_none (hfind : s.connections.find id = none) :
    removeConnection id fault s = .ok () s := by
  simp only [removeConnection, hfind]

theorem removeConnection_moves (h : WellFormed config a.server) (hid : id ∈ touched)
    (fault : Option CtlFault) :
    Moves config touched a { a with server := stateOf (removeConnection id fault a.server) } := by
  cases hfind : a.server.connections.find id with
  | none =>
      rw [removeConnection_of_find_none hfind]
      exact .refl
  | some c =>
      obtain ⟨f, hlive⟩ := h.exists_live hfind
      rcases removeConnection_cases h hlive fault with
        ⟨s', hresult, hremoved⟩ | ⟨exception, error, s', hresult, hregistered, hctl⟩
      · rw [hresult]
        exact .single (.remove a hid hlive hremoved)
      · rw [hresult]
        exact .single (.ctlFailed a hid hlive hctl hregistered)

/-- A connection that was removed is not live. -/
theorem live_of_removeConnection (h : WellFormed config s)
    (hresult : removeConnection id fault s = .ok () s') : s'.live id = none := by
  cases hfind : s.connections.find id with
  | none =>
      rw [removeConnection_of_find_none hfind] at hresult
      cases hresult
      exact live_eq_none_iff.mpr (.inl hfind)
  | some c =>
      obtain ⟨f, hlive⟩ := h.exists_live hfind
      rcases removeConnection_cases h hlive fault with
        ⟨_, hok, hremoved⟩ | ⟨_, _, _, herror, -⟩
      · rw [hok] at hresult
        cases hresult
        cases hremoved with
        | unregistered => exact live_forget_self _ _
        | registered => exact live_forget_self _ _
      · rw [herror] at hresult
        cases hresult

/-- What `UpdateInterest` can do to a live connection: nothing when it is idle and
unregistered already, one change of its registration, or a call that fails. -/
inductive Interested (id : ConnectionId) (c : Connection) (f : ConnectionFlow)
    (fault : Option CtlFault) (s : Server) : Outcome Unit → Prop
  | idle (hwant : (!f.closeAfterFlush || c.hasPendingOutput) = false)
      (hunregistered : f.registeredWithEpoll = false) : Interested id c f fault s (.ok () s)
  | unregistered (hwant : (!f.closeAfterFlush || c.hasPendingOutput) = false)
      (hregistered : f.registeredWithEpoll = true) {s' : Server}
      (hctl : s.epollCtl .del c.fd ⟨{}, 0⟩ fault = (none, s')) :
      Interested id c f fault s (.ok () (s'.putFlow id { f with registeredWithEpoll := false }))
  | modified (hwant : (!f.closeAfterFlush || c.hasPendingOutput) = true)
      (hregistered : f.registeredWithEpoll = true) {s' : Server}
      (hctl : s.epollCtl .mod c.fd (connectionEvent id (!f.closeAfterFlush) c.hasPendingOutput)
        fault = (none, s')) :
      Interested id c f fault s (.ok () s')
  | registered (hwant : (!f.closeAfterFlush || c.hasPendingOutput) = true)
      (hunregistered : f.registeredWithEpoll = false) {s' : Server}
      (hctl : s.epollCtl .add c.fd (connectionEvent id (!f.closeAfterFlush) c.hasPendingOutput)
        fault = (none, s')) :
      Interested id c f fault s (.ok () (s'.putFlow id { f with registeredWithEpoll := true }))
  | failed {op : CtlOp} {event : EpollEvent} {error : Errno}
      {s' : Server} (exception : Exception)
      (hctl : s.epollCtl op c.fd event fault = (some error, s'))
      (hop : f.registeredWithEpoll = (op ≠ .add : Bool)) :
      Interested id c f fault s (.error exception s')

theorem updateInterest_cases (h : WellFormed config s) (hlive : s.live id = some (c, f))
    (fault : Option CtlFault) : Interested id c f fault s (updateInterest id c f fault s) := by
  have hid := (h.live id c f hlive).id_eq
  unfold updateInterest
  simp only
  split
  · next hidle =>
      have hwant : (!f.closeAfterFlush || c.hasPendingOutput) = false := by
        simpa [and_comm] using hidle
      split
      · next hregistered =>
          split
          · next s' hctl => exact .unregistered hwant hregistered hctl
          · next error s' hctl =>
              rw [if_pos (epollCtl_ne_enoent h hlive hctl hregistered)]
              exact .failed _ hctl hregistered
      · next hunregistered => exact .idle hwant (Bool.eq_false_iff.mpr hunregistered)
  · next hbusy =>
      have hwant : (!f.closeAfterFlush || c.hasPendingOutput) = true := by
        cases hclose : f.closeAfterFlush <;> cases hpending : c.hasPendingOutput <;>
          simp [hclose, hpending] at hbusy ⊢
      rw [hid]
      split
      · next hregistered =>
          split
          · next s' hctl => exact .modified hwant hregistered hctl
          · next error s' hctl => exact .failed _ hctl hregistered
      · next hunregistered =>
          split
          · next s' hctl => exact .registered hwant (Bool.eq_false_iff.mpr hunregistered) hctl
          · next error s' hctl => exact .failed _ hctl (Bool.eq_false_iff.mpr hunregistered)

/-- The connection stays live with its output, also when a call fails. -/
theorem live_updateInterest (h : WellFormed config s) (hlive : s.live id = some (c, f))
    (fault : Option CtlFault) :
    ∃ f', (stateOf (updateInterest id c f fault s)).live id = some (c, f') := by
  have hcases := updateInterest_cases h hlive fault
  generalize updateInterest id c f fault s = outcome at hcases
  cases hcases with
  | idle => exact ⟨f, hlive⟩
  | unregistered hwant hregistered hctl =>
      exact ⟨_, (wrote_putFlow ((live_epollCtl hctl id).trans hlive) _).live_self⟩
  | modified hwant hregistered hctl => exact ⟨f, (live_epollCtl hctl id).trans hlive⟩
  | registered hwant hunregistered hctl =>
      exact ⟨_, (wrote_putFlow ((live_epollCtl hctl id).trans hlive) _).live_self⟩
  | failed exception hctl hop => exact ⟨f, (live_epollCtl hctl id).trans hlive⟩

theorem updateInterest_moves (h : WellFormed config a.server) (hid : id ∈ touched)
    (hlive : a.server.live id = some (c, f)) (fault : Option CtlFault) :
    Moves config touched a
      { a with server := stateOf (updateInterest id c f fault a.server) } := by
  have hcases := updateInterest_cases h hlive fault
  revert hcases
  generalize updateInterest id c f fault a.server = outcome
  intro hcases
  cases hcases with
  | idle => exact .refl
  | unregistered hwant hregistered hctl =>
      exact .single (.unregister a hid hlive hregistered hctl
        (wrote_putFlow ((live_epollCtl hctl id).trans hlive) _))
  | modified hwant hregistered hctl =>
      exact .single (.modify a hid hlive hregistered rfl hctl)
  | registered hwant hunregistered hctl =>
      exact .single (.register a hid hlive hunregistered rfl hctl
        (wrote_putFlow ((live_epollCtl hctl id).trans hlive) _))
  | failed exception hctl hop => exact .single (.ctlFailed a hid hlive hctl hop)

theorem settleConnection_moves (h : WellFormed config a.server) (hid : id ∈ touched)
    (hinbox : a.inbox id = []) (fault : Option CtlFault) :
    Moves config touched a
      { a with server := stateOf (settleConnection id fault a.server) } := by
  unfold settleConnection
  split
  · next c f hfind hlookup =>
      have hlive := live_eq_some_iff.mpr ⟨hfind, hlookup⟩
      split
      · next hclose =>
          rcases removeConnection_cases h hlive fault with
            ⟨s', hresult, hremoved⟩ | ⟨exception, error, s', hresult, hregistered, hctl⟩
          · rw [hresult]
            exact .single (.drain a hid hlive hinbox hclose hremoved)
          · rw [hresult]
            exact .single (.ctlFailed a hid hlive hctl hregistered)
      · exact updateInterest_moves h hid hlive fault
  · exact .refl

/-! ## Accepting -/

/-- What the body of the accept loop can do with a client that is admitted. -/
inductive Admission (client : Client) (s : Server) : Outcome Unit → Prop
  | registered {s' : Server} (hids : s.connections.nextId.value ≠ kMaxUInt64)
      (hctl : (s.admitted (s.freshFd client.fd)).epollCtl .add (s.freshFd client.fd)
        (connectionEvent s.connections.nextId true false) client.ctl = (none, s')) :
      Admission client s
        (.ok () (s'.putFlow s.connections.nextId { registeredWithEpoll := true }))
  | rolledBack {s' : Server} {error : Errno} (exception : Exception)
      (hids : s.connections.nextId.value ≠ kMaxUInt64)
      (hctl : (s.admitted (s.freshFd client.fd)).epollCtl .add (s.freshFd client.fd)
        (connectionEvent s.connections.nextId true false) client.ctl = (some error, s')) :
      Admission client s (.error exception (s'.forget s.connections.nextId))
  | refused (exception : Exception)
      (hadd : s.connections.add (s.freshFd client.fd) client.fcntl =
        (.error exception, s.connections)) :
      Admission client s (.error exception s)

theorem registerClient_cases (h : WellFormed config s) (client : Client) :
    Admission client s (registerClient client s) := by
  rcases s.connections.add_cases (s.freshFd client.fd) client.fcntl h.notMem_nextId with
    ⟨hadd, hids⟩ | ⟨exception, hadd⟩
  · have hfind := s.connections.find_registered_self (s.freshFd client.fd)
    have hflow : s.connections.nextId.value ∉ s.connectionFlows :=
      AList.lookup_eq_none.mp h.lookup_nextId
    simp only [registerClient, hadd, hfind, if_neg hflow]
    split
    · next s' hctl => exact .registered hids hctl
    · next error s' hctl => exact .rolledBack _ hids hctl
  · simp only [registerClient, hadd]
    exact .refused exception hadd

/-- A client that finds room and a number is registered, unless a call fails. -/
theorem registerClient_ok (h : WellFormed config s) {client : Client}
    (hfcntl : setNonBlocking client.fcntl = .ok ()) (hfault : client.ctl = none)
    (hids : s.connections.nextId.value ≠ kMaxUInt64)
    (hroom : s.connections.size < config.options.maxConnections) :
    ∃ s', registerClient client s = .ok () s' ∧
      s'.connections = s.connections.registered (s.freshFd client.fd) ∧
      s'.stopRequested = s.stopRequested ∧ s'.acceptErrors = s.acceptErrors ∧
      s'.live s.connections.nextId =
        some (.create s.connections.nextId (s.freshFd client.fd) s.connections.limits,
          { registeredWithEpoll := true }) := by
  have hcases := registerClient_cases h client
  revert hcases
  generalize hresult : registerClient client s = outcome
  intro hcases
  have hlive := WellFormed.live_admitted_self s (s.freshFd client.fd)
  cases hcases with
  | registered hids hctl =>
      have hsame := (live_epollCtl hctl s.connections.nextId).trans hlive
      have hwritten := (wrote_putFlow hsame { registeredWithEpoll := true }).live_self
      obtain ⟨-, rfl⟩ := epollCtl_eq_none hctl
      exact ⟨_, rfl, rfl, rfl, rfl, hwritten⟩
  | rolledBack exception hids hctl =>
      -- There is no fault, and the descriptor is not in the interest set.
      have hadmitted := h.admission hids hroom (freshAmong_notMem s.openFds client.fd)
      obtain ⟨reason, hreason, -⟩ := (epollCtl_eq_some hctl).2 (hadmitted.present_eq hlive)
      rw [hfault] at hreason
      cases hreason
  | refused exception hadd =>
      have hvalid : s.freshFd client.fd ≠ kInvalidFd := freshAmong_ne_invalid s.openFds client.fd
      simp only [ConnectionRegistry.add, if_neg hvalid, if_neg hids,
        hfcntl, if_neg h.notMem_nextId, Prod.mk.injEq, reduceCtorEq, false_and] at hadd

theorem registerClient_moves (h : WellFormed config a.server) (hinbox : a.inbox = fun _ => [])
    (hroom : a.server.connections.size < config.options.maxConnections) (client : Client) :
    Moves config touched a { a with server := stateOf (registerClient client a.server) } := by
  have hcases := registerClient_cases h client
  revert hcases
  generalize registerClient client a.server = outcome
  intro hcases
  have hfresh := freshAmong_notMem a.server.openFds client.fd
  cases hcases with
  | registered hids hctl => exact .single (.accept a (congrFun hinbox _) hids hroom hfresh hctl)
  | rolledBack exception hids hctl =>
      exact .single (.acceptFailed a (congrFun hinbox _) hids hroom hfresh hctl)
  | refused => exact .refl

theorem acceptLoop_moves (accepts : ℕ) (answers : List AcceptAnswer)
    (h : WellFormed config a.server) (hinbox : a.inbox = fun _ => []) :
    Moves config touched a
      { a with server := stateOf (acceptLoop config accepts answers a.server) } := by
  induction accepts generalizing a answers with
  | zero => exact .refl
  | succ accepts ih =>
      rw [acceptLoop]
      split
      · next error errors _ _ => exact .single (.acceptErrors a errors)
      · next errors _ _ => exact .single (.acceptErrors a errors)
      · next client errors rest _ =>
          simp only
          have hmove : Move config touched a
            { a with server :=
                { a.server with acceptErrors := a.server.acceptErrors ++ errors } } :=
            .acceptErrors a errors
          have hwf := hmove.wellFormed h
          split
          · exact .head hmove (ih rest hwf hinbox)
          · next hroom =>
              have hmoves : Moves config touched _ _ :=
                registerClient_moves hwf hinbox (Nat.lt_of_not_le hroom) client
              split
              · next s' hresult =>
                  rw [hresult] at hmoves
                  exact (Relation.ReflTransGen.head hmove hmoves).trans
                    (ih rest (hmoves.wellFormed hwf) hinbox)
              · next exception s' hresult =>
                  rw [hresult] at hmoves
                  exact .head hmove hmoves

theorem handleListenerEvent_moves (answers : List AcceptAnswer) (h : WellFormed config a.server)
    (hinbox : a.inbox = fun _ => []) :
    Moves config touched a
      { a with server := stateOf (handleListenerEvent config answers a.server) } :=
  acceptLoop_moves _ _ h hinbox

theorem workAll_moves (actions : List WorkerAction) :
    Moves config touched a
      { a with server :=
          { a.server with
            pipeline := a.server.pipeline.workAll config.options.handler actions } } := by
  induction actions generalizing a with
  | nil => exact .refl
  | cons action actions ih => exact .head (.work a action) ih

/-- Submission counts requests and leaves the rest of a flow alone. -/
theorem submitMessages_flow (messages : List Message) (steps : List (List WorkerAction))
    (flow : ConnectionFlow) (pipeline : Pipeline) :
    (submitMessages config id messages steps flow pipeline).2.1 =
      { flow with
        nextRequestSequence :=
          (submitMessages config id messages steps flow pipeline).2.1.nextRequestSequence } := by
  induction messages generalizing steps flow pipeline with
  | nil => rfl
  | cons message messages ih =>
      rw [submitMessages]
      simp only
      split
      · rfl
      · split
        · rfl
        · rw [ih]

/-- The loop of `SubmitWork` on a connection whose messages are in the inbox. -/
theorem submitMessages_moves (hid : id ∈ touched) (messages : List Message)
    (steps : List (List WorkerAction)) (hlive : a.server.live id = some (c, f))
    (hinbox : a.inbox id = messages) {submitted : Bool} {f' : ConnectionFlow} {p : Pipeline}
    (hresult : submitMessages config id messages steps f a.server.pipeline = (submitted, f', p)) :
    ∃ rest, (submitted = true → rest = []) ∧
      Moves config touched a
        { a with
          server := { a.server with pipeline := p }.putFlow id f'
          inbox := Function.update a.inbox id rest } := by
  induction messages generalizing a steps f with
  | nil =>
      cases hresult
      refine ⟨[], fun _ => rfl, ?_⟩
      rw [← hinbox, Function.update_eq_self]
      exact .single (.writeBack a hid hlive (wrote_putFlow hlive _))
  | cons message messages ih =>
      rw [submitMessages] at hresult
      simp only at hresult
      split at hresult
      · cases hresult
        refine ⟨message :: messages, nofun, ?_⟩
        rw [← hinbox, Function.update_eq_self]
        exact .single (.writeBack a hid hlive (wrote_putFlow hlive _))
      · next hroom =>
          -- The workers that are in front of this submission.
          have hworked : Moves config touched a _ := workAll_moves (steps.headD [])
          generalize hpipeline : a.server.pipeline.workAll config.options.handler (steps.headD []) =
            pipeline at hresult hworked
          have hlive' : ({ a.server with pipeline } : Server).live id = some (c, f) := hlive
          split at hresult
          · next p' hsubmit =>
              cases hresult
              rcases pipeline.trySubmit_cases ⟨id, f'.nextRequestSequence, message⟩ with
                ⟨q, hq, -⟩ | hq
              · rw [hq] at hsubmit
                cases hsubmit
              · rw [hq] at hsubmit
                cases hsubmit
                refine ⟨message :: messages, nofun, hworked.trans ?_⟩
                rw [← hinbox, Function.update_eq_self]
                exact .single (.writeBack _ hid hlive' (wrote_putFlow hlive' _))
          · next p' hsubmit =>
              have hwrote := wrote_putFlow hlive'
                { f with nextRequestSequence := f.nextRequestSequence + 1 }
              let after : Server :=
                { ({ a.server with pipeline } : Server).putFlow id
                    { f with nextRequestSequence := f.nextRequestSequence + 1 } with
                  pipeline := p' }
              obtain ⟨rest, hrest, hmoves⟩ :=
                ih (a := ⟨after, Function.update a.inbox id messages, a.batch⟩) steps.tail
                  hwrote.live_self (Function.update_self _ _ _) hresult
              refine ⟨rest, hrest, hworked.trans (.head (.submit _ hid hlive' hinbox
                (Nat.lt_of_not_le hroom) hsubmit hwrote) ?_)⟩
              simpa only [after, putFlow, AList.insert_insert, Function.update_idem] using hmoves

/-- `SubmitWork` on a live connection whose messages are in the inbox. -/
theorem submitWork_moves (hid : id ∈ touched) (hlive : a.server.live id = some (c, f))
    (steps : List (List WorkerAction)) {messages : List Message} (hinbox : a.inbox id = messages)
    {submitted : Bool} {s' : Server}
    (hresult : submitWork config id messages steps a.server = (submitted, s')) :
    s'.sockets = a.server.sockets ∧
    (∃ n, s'.live id = some (c, { f with nextRequestSequence := n })) ∧
    ∃ rest, (submitted = true → rest = []) ∧
      Moves config touched a
        { a with server := s', inbox := Function.update a.inbox id rest } := by
  obtain ⟨-, hlookup⟩ := live_eq_some_iff.mp hlive
  simp only [submitWork, hlookup] at hresult
  have hflow : (submitMessages config id messages steps f a.server.pipeline).2.1 = _ :=
    submitMessages_flow messages steps f a.server.pipeline
  generalize hsubmit : submitMessages config id messages steps f a.server.pipeline = submission
    at hresult hflow
  obtain ⟨submitted', f', p⟩ := submission
  cases hresult
  have hlive' : ({ a.server with pipeline := p } : Server).live id = some (c, f) := hlive
  refine ⟨rfl, ⟨f'.nextRequestSequence, ?_⟩, submitMessages_moves hid messages steps hlive hinbox
    hsubmit⟩
  rw [(wrote_putFlow hlive' f').live_self]
  exact congrArg (fun flow => some (c, flow)) hflow

/-! ## Connection events -/

/-- Nothing is left in any inbox. -/
theorem update_inbox_nil {inbox : ConnectionId → List Message} (hinbox : inbox id = []) :
    Function.update inbox id [] = inbox := by
  rw [← hinbox]
  exact Function.update_eq_self id inbox

/-- A connection event leaves the responses of a flow alone, and marks the flow
when the peer is gone. -/
structure Served (f : ConnectionFlow) (s : Server) (id : ConnectionId) (c' : Connection)
    (f' : ConnectionFlow) : Prop where
  live : s.live id = some (c', f')
  responses : f'.completedResponses = f.completedResponses
  next : f'.nextResponseSequence = f.nextResponseSequence
  unended : f'.closeAfterFlush = false → (s.sockets id.value).peerClosed = false

/-- What the first half of a connection event does. When it does not ask for the
removal of the connection, all messages are submitted. -/
theorem readEvent_moves (hid : id ∈ touched) (hlive : a.server.live id = some (c, f))
    (hinbox : a.inbox id = []) (hunended : a.server.Unended id) (events : EventMask)
    (io : HandlerIo) :
    ∃ rest, Moves config touched a
        { a with
          server := stateOf (readEvent config id events io c f a.server)
          inbox := Function.update a.inbox id rest } ∧
      ∀ s', readEvent config id events io c f a.server = .ok false s' →
        rest = [] ∧ ∃ c' f', Served f s' id c' f' := by
  unfold readEvent
  split
  · next hread =>
      have hopen : f.closeAfterFlush = false := by
        simp only [Bool.and_eq_true, Bool.not_eq_true'] at hread
        exact hread.2
      have hclosed := hunended c f hlive hopen
      have hspec := c.readAvailable_spec config.options.maxReadBytesPerEvent io.recvs
      generalize c.readAvailable config.options.maxReadBytesPerEvent io.recvs = out at hspec
      obtain ⟨more, hsplits, hmessages⟩ := hspec.decoded
      have hmove : Move config touched a _ := .read a hid hlive hinbox hopen hclosed hspec hsplits
      have hlive' : ((a.server.putConnection id out.connection).logSocket id out.calls []).live id =
        some (out.connection, f) := (wrote_putConnection hlive out.connection).live_self
      have hpeer : (((a.server.putConnection id out.connection).logSocket id out.calls []).sockets
          id.value).peerClosed = out.calls.any RecvCall.isEnd := by
        rw [Socket.peerClosed] at hclosed
        simp only [logSocket, Function.update_self, Socket.peerClosed, List.any_append]
        exact (congrArg (· || _) hclosed).trans (Bool.false_or _)
      simp only
      generalize (a.server.putConnection id out.connection).logSocket id out.calls [] = s₁
        at hmove hlive' hpeer
      split
      · next error herror =>
          refine ⟨more, .single hmove, ?_⟩
          intro s' hok
          simp only [reduceCtorEq] at hok
      · next result hresult =>
          have hinbox' : Function.update a.inbox id more id = result.messages := by
            rw [Function.update_self, hmessages result hresult]
            rfl
          generalize hsubmit : submitWork config id result.messages io.workers s₁ = submission
          obtain ⟨submitted, s₂⟩ := submission
          obtain ⟨hsockets, ⟨n, hlive₂⟩, rest, hrest, hmoves⟩ :=
            submitWork_moves (a := ⟨s₁, Function.update a.inbox id more, a.batch⟩) hid hlive'
              io.workers hinbox' hsubmit
          rw [Function.update_idem] at hmoves
          simp only at hsockets ⊢
          split
          · refine ⟨rest, .head hmove hmoves, ?_⟩
            intro s' hok
            simp only [EStateM.Result.ok.injEq, Bool.true_eq_false, false_and] at hok
          · next hvalid =>
              split
              · next hpeerClosed =>
                  obtain ⟨-, hlookup₂⟩ := live_eq_some_iff.mp hlive₂
                  have hwrote := wrote_putFlow hlive₂
                    { f with nextRequestSequence := n, closeAfterFlush := true }
                  simp only [hlookup₂]
                  refine ⟨rest, (Relation.ReflTransGen.head hmove hmoves).tail ?_, ?_⟩
                  · refine .closing _ hid hlive₂ ?_ (hspec.drained result hresult hvalid) hwrote
                    simp only [hsockets, hpeer]
                    exact hspec.ended result hresult hpeerClosed
                  · intro s' hok
                    simp only [EStateM.Result.ok.injEq, Bool.not_eq_false'] at hok
                    obtain ⟨hsubmitted, rfl⟩ := hok
                    exact ⟨hrest hsubmitted, _, _, hwrote.live_self, rfl, rfl, nofun⟩
              · next hopenPeer =>
                  refine ⟨rest, .head hmove hmoves, ?_⟩
                  intro s' hok
                  simp only [EStateM.Result.ok.injEq, Bool.not_eq_false'] at hok
                  obtain ⟨hsubmitted, rfl⟩ := hok
                  refine ⟨hrest hsubmitted, _, _, hlive₂, rfl, rfl, fun _ => ?_⟩
                  rw [hsockets, hpeer]
                  exact hspec.unended result hresult hopenPeer
  · next hskip =>
      refine ⟨[], ?_, ?_⟩
      · rw [update_inbox_nil hinbox]
        exact .refl
      · intro s' hok
        simp only [EStateM.Result.ok.injEq] at hok
        obtain ⟨-, rfl⟩ := hok
        exact ⟨rfl, c, f, hlive, rfl, rfl, hunended c f hlive⟩

theorem writeEvent_moves (h : WellFormed config a.server) (hid : id ∈ touched)
    (events : EventMask) (io : HandlerIo) (shouldRemove : Bool) :
    Moves config touched a
      { a with server := stateOf (writeEvent config id events io shouldRemove a.server) } := by
  unfold writeEvent
  split
  · split
    · exact .refl
    · next c hfind =>
        obtain ⟨f, hlive⟩ := h.exists_live hfind
        have hspec := c.writeAvailable_spec config.options.maxWriteBytesPerEvent io.sends
        generalize c.writeAvailable config.options.maxWriteBytesPerEvent io.sends = out at hspec
        have hmove : Move config touched a _ := .write a hid hlive hspec
        simp only
        split
        · exact .single hmove
        · exact .single hmove
  · exact .refl

/-- The write never takes back the removal of a connection, and it concerns the
output only. -/
theorem served_of_writeEvent {events : EventMask} {io : HandlerIo} {shouldRemove : Bool}
    (hresult : writeEvent config id events io shouldRemove s = .ok false s') :
    shouldRemove = false ∧
      ∀ c₀ f₀ f', Served f₀ s id c₀ f' → ∃ c', Served f₀ s' id c' f' := by
  unfold writeEvent at hresult
  split at hresult
  · next hwrite =>
      simp only [Bool.and_eq_true, Bool.not_eq_true'] at hwrite
      refine ⟨hwrite.1, ?_⟩
      intro c₀ f₀ f' hserved
      obtain ⟨hfind, -⟩ := live_eq_some_iff.mp hserved.live
      simp only [hfind] at hresult
      split at hresult
      · simp only [reduceCtorEq] at hresult
      · simp only [EStateM.Result.ok.injEq] at hresult
        obtain ⟨-, rfl⟩ := hresult
        refine ⟨_, (wrote_putConnection hserved.live _).live_self, hserved.responses, hserved.next,
          ?_⟩
        intro hopen
        simp only [logSocket, Function.update_self, Socket.peerClosed, List.append_nil]
        exact hserved.unended hopen
  · simp only [EStateM.Result.ok.injEq] at hresult
    obtain ⟨rfl, rfl⟩ := hresult
    exact ⟨rfl, fun c₀ _ _ hserved => ⟨c₀, hserved⟩⟩

/-- The removal at the end of a connection event, with whatever was not submitted. -/
theorem removeConnection_moves_idle (h : WellFormed config a.server) (hid : id ∈ touched)
    (fault : Option CtlFault) {inbox : ConnectionId → List Message} {rest : List Message}
    (hinbox : inbox = fun _ => []) (hrest : a.inbox = Function.update inbox id rest) :
    ∃ inbox', Moves config touched a
        { a with server := stateOf (removeConnection id fault a.server), inbox := inbox' } ∧
      ∀ s', removeConnection id fault a.server = .ok () s' → inbox' = fun _ => [] := by
  have hremove : Moves config touched a _ := removeConnection_moves h hid fault
  cases hresult : removeConnection id fault a.server with
  | error exception s₁ =>
      rw [hresult] at hremove
      refine ⟨a.inbox, hremove, ?_⟩
      intro s' hok
      simp only [reduceCtorEq] at hok
  | ok _ s₁ =>
      rw [hresult] at hremove
      have hgone := live_of_removeConnection h hresult
      refine ⟨_, hremove.tail (.dropInbox _ hgone), ?_⟩
      intro _ _
      rw [hrest, Function.update_idem, update_inbox_nil (congrFun hinbox id), hinbox]

theorem handleConnectionEvent_moves (h : WellFormed config a.server)
    (hinbox : a.inbox = fun _ => []) (hunended : a.server.Unended id) (events : EventMask)
    (io : HandlerIo) :
    ∃ inbox, Moves config {id} a
        { a with
          server := stateOf (handleConnectionEvent config id events io a.server)
          inbox } ∧
      ∀ s', handleConnectionEvent config id events io a.server = .ok () s' →
        inbox = fun _ => [] := by
  have hid : id ∈ ({id} : Set ConnectionId) := rfl
  unfold handleConnectionEvent
  split
  · exact ⟨a.inbox, .refl, fun _ _ => hinbox⟩
  next c hfind =>
  split
  · exact ⟨a.inbox, removeConnection_moves h hid _, fun _ _ => hinbox⟩
  next f hlookup =>
  have hlive := live_eq_some_iff.mpr ⟨hfind, hlookup⟩
  obtain ⟨rest, hread, hrest⟩ : ∃ rest, Moves config {id} a _ ∧ _ :=
    readEvent_moves hid hlive (congrFun hinbox id) hunended events io
  have hwf₁ := hread.wellFormed h
  cases hreadResult : readEvent config id events io c f a.server with
  | error exception s₁ =>
      rw [hreadResult] at hread
      refine ⟨_, hread, ?_⟩
      intro s' hok
      simp only [reduceCtorEq] at hok
  | ok shouldRemove s₁ =>
      rw [hreadResult, stateOf_ok] at hread hwf₁
      have hwrite : Moves config {id} _ _ := writeEvent_moves hwf₁ hid events io shouldRemove
      have hwf₂ := hwrite.wellFormed hwf₁
      dsimp only at hwrite hwf₂ ⊢
      cases hwriteResult : writeEvent config id events io shouldRemove s₁ with
      | error exception s₂ =>
          rw [hwriteResult] at hwrite
          refine ⟨_, hread.trans hwrite, ?_⟩
          intro s' hok
          simp only [reduceCtorEq] at hok
      | ok remove s₂ =>
          rw [hwriteResult, stateOf_ok] at hwrite hwf₂
          have hmoves := hread.trans hwrite
          cases remove with
          | true =>
              obtain ⟨inbox, hremove, hok⟩ :=
                removeConnection_moves_idle (a := ⟨s₂, Function.update a.inbox id rest, a.batch⟩)
                  hwf₂ hid io.ctl hinbox rfl
              exact ⟨inbox, hmoves.trans hremove, hok⟩
          | false =>
              obtain rfl := (served_of_writeEvent hwriteResult).1
              obtain rfl := (hrest s₁ hreadResult).1
              rw [update_inbox_nil (congrFun hinbox id)] at hmoves
              have hsettle := settleConnection_moves (a := ⟨s₂, a.inbox, a.batch⟩) hwf₂ hid
                (congrFun hinbox id) io.ctl
              exact ⟨a.inbox, hmoves.trans hsettle, fun _ _ => hinbox⟩

/-- The loop of `FlushReadyResponses` on a live connection. Its passes are moves,
and what it leaves is written back. -/
theorem releaseReady_moves (hid : id ∈ touched) (fuel : ℕ) (hlive : a.server.live id = some (c, f))
    {queued : Bool} {c' : Connection} {f' : ConnectionFlow}
    (hresult : releaseReady fuel c f = (queued, c', f')) {s' : Server}
    (hwrote : Wrote a.server s' id c' f') : Moves config touched a { a with server := s' } := by
  induction fuel generalizing a c f with
  | zero =>
      cases hresult
      exact .single (.writeBack a hid hlive hwrote)
  | succ fuel ih =>
      rw [releaseReady] at hresult
      split at hresult
      · cases hresult
        exact .single (.writeBack a hid hlive hwrote)
      · next response hready =>
          split at hresult
          · next c₁ hqueued =>
              cases hresult
              exact .single (.refuse a hid hlive hqueued hwrote)
          · next c₁ hqueued =>
              let f₁ : ConnectionFlow :=
                { f with
                  nextResponseSequence := f.nextResponseSequence + 1
                  completedResponses := f.completedResponses.erase f.nextResponseSequence }
              have hput := wrote_putConnection hlive c₁
              have hwrote₁ := hput.trans (wrote_putFlow hput.live_self f₁)
              exact .head (.release a hid hlive hready hqueued hwrote₁)
                (ih hwrote₁.live_self hresult (hwrote₁.replace hwrote))

/-- What the loop of `FlushReadyResponses` comes to. -/
theorem exists_released (c : Connection) (f : ConnectionFlow) :
    ∃ queued c' f',
      releaseReady (f.completedResponses.keys.length + 1) c f = (queued, c', f') :=
  ⟨_, _, _, rfl⟩

/-- `FlushReadyResponses` once it is known what its loop does. -/
theorem flushReadyResponses_eq {queued : Bool} {c' : Connection} {f' : ConnectionFlow}
    (hrelease : releaseReady (f.completedResponses.keys.length + 1) c f = (queued, c', f')) :
    flushReadyResponses id c f fault s =
      if !queued then removeConnection id fault ((s.putConnection id c').putFlow id f')
      else settleConnection id fault ((s.putConnection id c').putFlow id f') := by
  simp only [flushReadyResponses, hrelease]

/-- A result is delivered and everything that is in order by then is released: the
moves of `HandleCompletedWork` on a live connection up to its last part. -/
theorem released_moves {result : WorkResult} {batch : List WorkResult}
    (hid : result.connectionId ∈ touched) (hbatch : a.batch = result :: batch)
    (hlive : a.server.live result.connectionId = some (c, f)) {fuel : ℕ} {queued : Bool}
    {c' : Connection} {f' : ConnectionFlow}
    (hresult : releaseReady fuel c
      { f with
        completedResponses := emplace f.completedResponses result.sequence result.response } =
      (queued, c', f')) :
    Moves config touched a
      { a with
        server := (a.server.putConnection result.connectionId c').putFlow result.connectionId f'
        batch } := by
  have hdelivered := wrote_putFlow hlive
    { f with
      completedResponses := emplace f.completedResponses result.sequence result.response }
  have hput := wrote_putConnection hlive c'
  have hreleased := hput.trans (wrote_putFlow hput.live_self f')
  exact .head (.deliver a hid hbatch hlive hdelivered)
    (releaseReady_moves hid fuel hdelivered.live_self hresult (hdelivered.replace hreleased))

/-- `HandleCompletedWork` takes the first result off the batch. -/
theorem handleCompletedWork_moves (h : WellFormed config a.server)
    (hinbox : a.inbox = fun _ => []) {result : WorkResult} {batch : List WorkResult}
    (hbatch : a.batch = result :: batch) (fault : Option CtlFault) :
    Moves config {result.connectionId} a
      { a with server := stateOf (handleCompletedWork result fault a.server), batch } := by
  have hid : result.connectionId ∈ ({result.connectionId} : Set ConnectionId) := rfl
  unfold handleCompletedWork
  split
  · next hfind => exact .single (.discard a hbatch (live_eq_none_iff.mpr (.inl hfind)))
  next c hfind =>
  split
  · next hlookup => exact .single (.discard a hbatch (live_eq_none_iff.mpr (.inr hlookup)))
  next f hlookup =>
  have hlive := live_eq_some_iff.mpr ⟨hfind, hlookup⟩
  obtain ⟨queued, c', f', hrelease⟩ := exists_released c
    { f with
      completedResponses := emplace f.completedResponses result.sequence result.response }
  have hmoves : Moves config {result.connectionId} a _ := released_moves hid hbatch hlive hrelease
  have hwf := hmoves.wellFormed h
  simp only [flushReadyResponses_eq hrelease]
  split
  · exact hmoves.trans (removeConnection_moves hwf hid fault)
  · exact hmoves.trans (settleConnection_moves hwf hid (congrFun hinbox _) fault)

theorem readSignals_moves (answers : List IoResult) :
    Moves config touched a { a with server := stateOf (readSignals answers a.server) } := by
  induction answers generalizing a with
  | nil => exact .refl
  | cons answer answers ih =>
      cases answer with
      | bytes count =>
          rw [readSignals]
          split
          · exact .head (.control a true a.server.phase) ih
          split
          · exact .refl
          · exact .refl
      | failed error =>
          rw [readSignals]
          split
          · exact ih
          split
          · exact .refl
          · exact .refl

theorem handleShutdownSignal_moves (answers : List IoResult) :
    Moves config touched a
      { a with server := stateOf (handleShutdownSignal config answers a.server) } :=
  readSignals_moves _

theorem closeConnections_moves (passes : ℕ) (faults : List (Option CtlFault))
    (h : WellFormed config a.server) :
    Moves config Set.univ a
      { a with server := stateOf (closeConnections passes faults a.server) } := by
  induction passes generalizing a faults with
  | zero => exact .refl
  | succ passes ih =>
      rw [closeConnections]
      split
      · exact .refl
      · next entry rest _ =>
          have hremove : Moves config Set.univ a _ :=
            removeConnection_moves h (Set.mem_univ ⟨entry.1⟩) (faults.headD none)
          split
          · next exception s₁ hresult =>
              rw [hresult] at hremove
              exact hremove
          · next s₁ hresult =>
              rw [hresult] at hremove
              exact hremove.trans (ih faults.tail (hremove.wellFormed h))

end Server

end PulseCore.Network
