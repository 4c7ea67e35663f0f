/-
# Fault isolation

What the failure of one system call does to the other connections. A handler
touches the connection it was called for and leaves all others as they are, also
when it throws. But an exception leaves `Run`, and with it the reactor is gone for
everybody. That happens for every error that the code does not test for: the
accept loop tests for interrupted calls and for an empty backlog, reading and
writing also for a peer that is gone.

The statement is about these errors. The other calls a handler makes, to `fcntl`
and `epoll_ctl`, are taken to succeed, and there is a number left for every client
that comes.
-/

import PulseCore.Network.Reachable

namespace PulseCore.Network

open PulseCore.Foundation PulseCore.Core PulseCore.Protocol
open Server (run)

/-- The errors that `AcceptNonBlocking` tests for. -/
def acceptHandles (error : Errno) : Bool := error = .eintr || isWouldBlock error

/-- The errors that `ReadAvailable` and `WriteAvailable` test for. -/
def socketHandles (error : Errno) : Bool :=
  error = .eintr || isWouldBlock error || isPeerClosedError error

def RecvCall.errno (call : RecvCall) : Option Errno :=
  match call.result with
  | .received _ => none
  | .failed error => some error

def SendCall.errno (call : SendCall) : Option Errno :=
  match call.result with
  | .sent _ => none
  | .failed error => some error

/-- The errors that were returned on a socket. -/
def Socket.errnos (socket : Socket) : List Errno :=
  socket.recvCalls.filterMap RecvCall.errno ++ socket.sendCalls.filterMap SendCall.errno

/-- What has happened on a socket since then. -/
def Socket.since (before after : Socket) : Socket where
  recvCalls := after.recvCalls.drop before.recvCalls.length
  sendCalls := after.sendCalls.drop before.sendCalls.length

/-- The errors that `accept4`, or `recv` and `send` on the socket of a connection,
have returned between two states. -/
def Target.errnos (target : Target) (before after : Server) : List Errno :=
  match target with
  | .listener => after.acceptErrors.drop before.acceptErrors.length
  | .connection id => ((before.sockets id.value).since (after.sockets id.value)).errnos
  | .workerWakeup => []
  | .shutdownSignal => []

/-- The errors that the handler of an event tests for. -/
def Target.handles : Target → Errno → Bool
  | .listener => acceptHandles
  | .connection _ => socketHandles
  | .workerWakeup => fun _ => true
  | .shutdownSignal => fun _ => true

/-- The connection that an event concerns. -/
def Target.concerned : Target → Set ConnectionId
  | .connection id => {id}
  | _ => ∅

/-- `Run` goes on, and every other connection is live and as it was. -/
structure Isolated (target : Target) (before after : Server) : Prop where
  running : after.phase.hasFailed = false
  others : ∀ id c f, id ∉ target.concerned → before.live id = some (c, f) →
    after.live id = some (c, f)

/-- The calls to `fcntl` and `epoll_ctl` in a handler succeed. -/
structure Server.HandlerIo.OthersSucceed (io : Server.HandlerIo) : Prop where
  ctl : io.ctl = none
  fcntl : ∀ client, .client client ∈ io.accepts → setNonBlocking client.fcntl = .ok ()
  admission : ∀ client, .client client ∈ io.accepts → client.ctl = none

/-- A call returns if and only if all the errors it met are tested for. -/
def Reports {α : Type} (outcome : Outcome α) (errors : List Errno) (handles : Errno → Bool) :
    Prop :=
  match outcome with
  | .ok _ _ => ∀ error ∈ errors, handles error = true
  | .error _ _ => ∃ error ∈ errors, handles error = false

variable {config : ServerConfig} {descriptors : Descriptors} {touched : Set ConnectionId}
  {a a' : Activation} {s s' : Server} {id : ConnectionId} {c : Connection} {f : ConnectionFlow}

/-! ## Other connections -/

theorem live_removed_of_ne {other : ConnectionId} (hremoved : Server.Removed id c f s s')
    (hne : other ≠ id) : s'.live other = s.live other := by
  cases hremoved with
  | unregistered => exact s.live_forget_of_ne hne
  | registered hregistered hctl =>
      exact (Server.live_forget_of_ne _ hne).trans (Server.live_epollCtl hctl other)

/-- A connection that is not touched stays live and as it is. -/
theorem Move.live_of_notMem (hmove : Move config touched a a') (h : WellFormed config a.server)
    (hid : id ∉ touched) (hlive : a.server.live id = some (c, f)) :
    a'.server.live id = some (c, f) := by
  rw [← hlive]
  have hne : ∀ {other : ConnectionId}, other ∈ touched → id ≠ other :=
    fun hother heq => hid (heq ▸ hother)
  cases hmove with
  | work | wake | stopPool | control | acceptErrors | swap | discard | dropInbox => rfl
  | @accept fd fault s₁ hinbox hids hroom hfresh hctl =>
      have hnew := h.ne_nextId hlive
      have hadmitted := WellFormed.live_admitted_self a.server fd
      have hwrote := Server.wrote_putFlow ((Server.live_epollCtl hctl _).trans hadmitted)
        { registeredWithEpoll := true }
      exact ((hwrote.live_other hnew).trans (Server.live_epollCtl hctl id)).trans
        (WellFormed.live_admitted_of_ne a.server fd hnew)
  | @acceptFailed fd fault s₁ error hinbox hids hroom hfresh hctl =>
      have hnew := h.ne_nextId hlive
      exact ((Server.live_forget_of_ne _ hnew).trans (Server.live_epollCtl hctl id)).trans
        (WellFormed.live_admitted_of_ne a.server fd hnew)
  | read hother hlive' =>
      exact (Server.wrote_putConnection hlive' _).live_other (hne hother)
  | submit hother hlive' hinbox hroom hsubmit hwrote => exact hwrote.live_other (hne hother)
  | closing hother hlive' hclosed hdecoded hwrote => exact hwrote.live_other (hne hother)
  | writeBack hother hlive' hwrote => exact hwrote.live_other (hne hother)
  | write hother hlive' =>
      exact (Server.wrote_putConnection hlive' _).live_other (hne hother)
  | deliver hother hbatch hlive' hwrote => exact hwrote.live_other (hne hother)
  | release hother hlive' hready hqueued hwrote => exact hwrote.live_other (hne hother)
  | refuse hother hlive' hqueued hwrote => exact hwrote.live_other (hne hother)
  | register hother hlive' hunregistered hkey hctl hwrote =>
      exact (hwrote.live_other (hne hother)).trans (Server.live_epollCtl hctl id)
  | modify hother hlive' hregistered hkey hctl => exact Server.live_epollCtl hctl id
  | unregister hother hlive' hregistered hctl hwrote =>
      exact (hwrote.live_other (hne hother)).trans (Server.live_epollCtl hctl id)
  | ctlFailed hother hlive' hctl hop => exact Server.live_epollCtl hctl id
  | remove hother hlive' hremoved => exact live_removed_of_ne hremoved (hne hother)
  | drain hother hlive' hinbox hclose hremoved =>
      have hsame := live_removed_of_ne hremoved (hne hother)
      exact hsame

theorem Moves.live_of_notMem (hmoves : Moves config touched a a') (h : WellFormed config a.server)
    (hid : id ∉ touched) (hlive : a.server.live id = some (c, f)) :
    a'.server.live id = some (c, f) := by
  induction hmoves with
  | refl => exact hlive
  | tail hmoves hmove ih => exact hmove.live_of_notMem (Moves.wellFormed hmoves h) hid ih

namespace Server

/-- What `AcceptNonBlocking` comes to, and the errors it met on the way. -/
inductive Accepts (answers : List AcceptAnswer) :
    Except Exception (Option Client) × List Errno × List AcceptAnswer → Prop
  | nobody {errors : List Errno} {rest : List AcceptAnswer}
      (hhandled : ∀ error ∈ errors, acceptHandles error = true) :
      Accepts answers (.ok none, errors, rest)
  | client {client : Client} {errors : List Errno} {rest : List AcceptAnswer}
      (hmem : .client client ∈ answers) (hrest : rest ⊆ answers)
      (hhandled : ∀ error ∈ errors, acceptHandles error = true) :
      Accepts answers (.ok (some client), errors, rest)
  | threw {exception : Exception} {errors : List Errno} {rest : List AcceptAnswer}
      (hunhandled : ∃ error ∈ errors, acceptHandles error = false) :
      Accepts answers (.error exception, errors, rest)

theorem acceptNonBlocking_accepts (answers : List AcceptAnswer) :
    Accepts answers (acceptNonBlocking answers) := by
  induction answers with
  | nil => exact .nobody (by decide)
  | cons answer answers ih =>
      cases answer with
      | client client =>
          exact .client List.mem_cons_self (List.subset_cons_self _ _) (List.forall_mem_nil _)
      | failed error =>
          rw [acceptNonBlocking]
          split
          · next hintr =>
              -- An interrupted call is repeated.
              have hfirst : acceptHandles error = true := by
                rw [hintr]
                rfl
              generalize acceptNonBlocking answers = outcome at ih
              simp only
              cases ih with
              | nobody hhandled => exact .nobody (List.forall_mem_cons.mpr ⟨hfirst, hhandled⟩)
              | client hmem hrest hhandled =>
                  exact .client (List.mem_cons_of_mem _ hmem)
                    (fun other hother => List.mem_cons_of_mem _ (hrest hother))
                    (List.forall_mem_cons.mpr ⟨hfirst, hhandled⟩)
              | threw hunhandled =>
                  obtain ⟨other, hmem, hother⟩ := hunhandled
                  exact .threw ⟨other, List.mem_cons_of_mem _ hmem, hother⟩
          · next hintr =>
              split
              · next hblock =>
                  refine .nobody (List.forall_mem_singleton.mpr ?_)
                  rw [acceptHandles, hblock, Bool.or_true]
              · next hblock =>
                  refine .threw ⟨error, List.mem_singleton_self _, ?_⟩
                  rw [acceptHandles, decide_eq_false hintr, Bool.false_or]
                  exact Bool.eq_false_iff.mpr hblock

end Server

theorem Reports.nil {α : Type} (value : α) (s : Server) (handles : Errno → Bool) :
    Reports (.ok value s) [] handles := List.forall_mem_nil _

theorem Reports.append {α : Type} {outcome : Outcome α} {errors more : List Errno}
    {handles : Errno → Bool} (hmore : Reports outcome more handles)
    (herrors : ∀ error ∈ errors, handles error = true) :
    Reports outcome (errors ++ more) handles := by
  cases outcome with
  | ok =>
      intro error hmem
      rcases List.mem_append.mp hmem with hfirst | hsecond
      · exact herrors error hfirst
      · exact hmore error hsecond
  | error =>
      obtain ⟨error, hmem, hunhandled⟩ := hmore
      exact ⟨error, List.mem_append_right _ hmem, hunhandled⟩

namespace Server

/-- The accept loop, with numbers left and calls that succeed. -/
theorem acceptLoop_reports (accepts : ℕ) (answers : List AcceptAnswer) (h : WellFormed config s)
    (hfcntl : ∀ client, .client client ∈ answers → setNonBlocking client.fcntl = .ok ())
    (hctl : ∀ client, .client client ∈ answers → client.ctl = none)
    (hids : s.connections.nextId.value.toNat + accepts < UInt64.size) :
    ∃ errors, (stateOf (acceptLoop config accepts answers s)).acceptErrors =
        s.acceptErrors ++ errors ∧
      Reports (acceptLoop config accepts answers s) errors acceptHandles := by
  induction accepts generalizing s answers with
  | zero => exact ⟨[], (List.append_nil _).symm, .nil _ _ _⟩
  | succ accepts ih =>
      rw [acceptLoop]
      have haccepts := acceptNonBlocking_accepts answers
      generalize acceptNonBlocking answers = outcome at haccepts
      cases haccepts with
      | threw hunhandled => exact ⟨_, rfl, hunhandled⟩
      | nobody hhandled => exact ⟨_, rfl, hhandled⟩
      | @client client errors rest hmem hrest hhandled =>
          simp only
          have hwf : WellFormed config { s with acceptErrors := s.acceptErrors ++ errors } :=
            h.congr rfl rfl rfl rfl rfl rfl
          have hfcntl' : ∀ client, .client client ∈ rest → setNonBlocking client.fcntl = .ok () :=
            fun other hother => hfcntl other (hrest hother)
          have hctl' : ∀ client, .client client ∈ rest → client.ctl = none :=
            fun other hother => hctl other (hrest hother)
          split
          · obtain ⟨more, hmore, hreports⟩ := ih rest hwf hfcntl' hctl' (by
              show s.connections.nextId.value.toNat + accepts < UInt64.size
              omega)
            refine ⟨errors ++ more, ?_, hreports.append hhandled⟩
            rw [hmore, List.append_assoc]
          · next hroom =>
              have hroom' := Nat.lt_of_not_le hroom
              have hnext : s.connections.nextId.value ≠ kMaxUInt64 := by
                intro hmax
                have hvalue : kMaxUInt64.toNat + 1 = UInt64.size := rfl
                rw [hmax] at hids
                omega
              obtain ⟨s₁, hregister, hconnections, -, herrors, -⟩ :=
                registerClient_ok hwf (hfcntl client hmem) (hctl client hmem) hnext hroom'
              have hmoves : Moves config ∅ (.idle { s with acceptErrors := s.acceptErrors ++ errors }
                  []) _ := registerClient_moves hwf rfl hroom' client
              have hwf₁ := hmoves.wellFormed hwf
              simp only [Activation.idle, hregister, stateOf_ok] at hwf₁
              simp only [hregister]
              obtain ⟨more, hmore, hreports⟩ := ih rest hwf₁ hfcntl' hctl' (by
                rw [hconnections]
                show (s.connections.nextId.value + 1).toNat + accepts < UInt64.size
                rw [WellFormed.toNat_nextId_succ hnext]
                omega)
              refine ⟨errors ++ more, ?_, hreports.append hhandled⟩
              rw [hmore, herrors, List.append_assoc]

theorem mem_filterMap_recvErrno {calls : List RecvCall} {error : Errno} :
    error ∈ calls.filterMap RecvCall.errno ↔ .failed error ∈ calls.map RecvCall.result := by
  simp only [List.mem_filterMap, List.mem_map, RecvCall.errno]
  refine exists_congr fun call => and_congr_right fun _ => ?_
  cases call.result with
  | received bytes => exact iff_of_false nofun nofun
  | failed other => simp

theorem mem_filterMap_sendErrno {calls : List SendCall} {error : Errno} :
    error ∈ calls.filterMap SendCall.errno ↔ .failed error ∈ calls.map SendCall.result := by
  simp only [List.mem_filterMap, List.mem_map, SendCall.errno]
  refine exists_congr fun call => and_congr_right fun _ => ?_
  cases call.result with
  | sent count => exact iff_of_false nofun nofun
  | failed other => simp

theorem socketHandles_iff {error : Errno} :
    socketHandles error = true ↔
      error = .eintr ∨ isWouldBlock error = true ∨ isPeerClosedError error = true := by
  simp only [socketHandles, Bool.or_eq_true, decide_eq_true_eq, or_assoc]

theorem socketHandles_eq_false {error : Errno} (hintr : error ≠ .eintr)
    (hblock : isWouldBlock error = false) (hpeer : isPeerClosedError error = false) :
    socketHandles error = false := by
  rw [socketHandles, decide_eq_false hintr, hblock, hpeer]
  rfl

theorem sockets_submitWork (config : ServerConfig) (id : ConnectionId) (messages : List Message)
    (steps : List (List WorkerAction)) (s : Server) :
    (submitWork config id messages steps s).2.sockets = s.sockets := by
  unfold submitWork
  split
  · rfl
  · rfl

/-- What the first half of a connection event has to do with `recv`. -/
theorem readEvent_reports (config : ServerConfig) (id : ConnectionId) (events : EventMask)
    (io : HandlerIo) (c : Connection) (f : ConnectionFlow) (s : Server) :
    ∃ calls, (stateOf (readEvent config id events io c f s)).sockets id.value =
        ⟨(s.sockets id.value).recvCalls ++ calls, (s.sockets id.value).sendCalls⟩ ∧
      Reports (readEvent config id events io c f s) (calls.filterMap RecvCall.errno)
        socketHandles ∧
      ((!events.epollErr && events.readable && !f.closeAfterFlush) = true →
        calls = (c.readAvailable config.options.maxReadBytesPerEvent io.recvs).calls) := by
  unfold readEvent
  split
  · have hspec := c.readAvailable_spec config.options.maxReadBytesPerEvent io.recvs
    generalize c.readAvailable config.options.maxReadBytesPerEvent io.recvs = out at hspec
    simp only
    have hlogged : ((s.putConnection id out.connection).logSocket id out.calls []).sockets
        id.value = ⟨(s.sockets id.value).recvCalls ++ out.calls,
          (s.sockets id.value).sendCalls⟩ := by
      simp only [logSocket, Function.update_self, List.append_nil]
      rfl
    generalize (s.putConnection id out.connection).logSocket id out.calls [] = s₁ at hlogged
    refine ⟨out.calls, ?_⟩
    split
    · next error herror =>
        obtain ⟨e, hmem, hintr, hblock, hpeer⟩ := hspec.thrown error herror
        exact ⟨hlogged, ⟨e, mem_filterMap_recvErrno.mpr hmem,
          socketHandles_eq_false hintr hblock hpeer⟩, fun _ => rfl⟩
    · next result hresult =>
        have hhandled : ∀ e ∈ out.calls.filterMap RecvCall.errno, socketHandles e = true :=
          fun e hmem => socketHandles_iff.mpr
            (hspec.handled result hresult e (mem_filterMap_recvErrno.mp hmem))
        have hsubmit := sockets_submitWork config id result.messages io.workers s₁
        generalize submitWork config id result.messages io.workers s₁ = submission at hsubmit
        obtain ⟨submitted, s₂⟩ := submission
        have hlogged₂ := (congrFun hsubmit id.value).trans hlogged
        simp only
        split
        · exact ⟨hlogged₂, hhandled, fun _ => trivial⟩
        · split
          · split
            · exact ⟨hlogged₂, hhandled, fun _ => trivial⟩
            · exact ⟨hlogged₂, hhandled, fun _ => trivial⟩
          · exact ⟨hlogged₂, hhandled, fun _ => trivial⟩
  · next hskip =>
      exact ⟨[], by rw [List.append_nil]; rfl, .nil _ _ _, fun hread => absurd hread hskip⟩

/-- What the second half of a connection event has to do with `send`. -/
theorem writeEvent_reports (config : ServerConfig) (id : ConnectionId) (events : EventMask)
    (io : HandlerIo) (shouldRemove : Bool) (s : Server) :
    ∃ calls, (stateOf (writeEvent config id events io shouldRemove s)).sockets id.value =
        ⟨(s.sockets id.value).recvCalls, (s.sockets id.value).sendCalls ++ calls⟩ ∧
      Reports (writeEvent config id events io shouldRemove s) (calls.filterMap SendCall.errno)
        socketHandles := by
  unfold writeEvent
  split
  · split
    · exact ⟨[], by rw [List.append_nil]; rfl, .nil _ _ _⟩
    · next c hfind =>
        have hspec := c.writeAvailable_spec config.options.maxWriteBytesPerEvent io.sends
        generalize c.writeAvailable config.options.maxWriteBytesPerEvent io.sends = out at hspec
        simp only
        have hlogged : ((s.putConnection id out.connection).logSocket id [] out.calls).sockets
            id.value = ⟨(s.sockets id.value).recvCalls,
              (s.sockets id.value).sendCalls ++ out.calls⟩ := by
          simp only [logSocket, Function.update_self, List.append_nil]
          rfl
        refine ⟨out.calls, ?_⟩
        split
        · next error herror =>
            obtain ⟨e, hmem, hintr, hblock, hpeer⟩ := hspec.thrown error herror
            exact ⟨hlogged, e, mem_filterMap_sendErrno.mpr hmem,
              socketHandles_eq_false hintr hblock hpeer⟩
        · next result hresult =>
            exact ⟨hlogged, fun e hmem => socketHandles_iff.mpr
              (hspec.handled result hresult e (mem_filterMap_sendErrno.mp hmem))⟩
  · exact ⟨[], by rw [List.append_nil]; rfl, .nil _ _ _⟩

/-- Without a fault, a connection that is to be removed is removed. -/
theorem removeConnection_ok (h : WellFormed config s) (id : ConnectionId) :
    ∃ s', removeConnection id none s = .ok () s' ∧ s'.sockets = s.sockets := by
  cases hfind : s.connections.find id with
  | none => exact ⟨s, removeConnection_of_find_none hfind, rfl⟩
  | some c =>
      obtain ⟨f, hlive⟩ := h.exists_live hfind
      rcases removeConnection_cases h hlive none with
        ⟨s', hok, hremoved⟩ | ⟨exception, error, s', -, hregistered, hctl⟩
      · exact ⟨s', hok, sockets_removed hremoved⟩
      · obtain ⟨reason, hreason, -⟩ :=
          (epollCtl_eq_some hctl).2 ((h.present_eq hlive).trans hregistered)
        cases hreason

/-- Without a fault, the interest of a connection can be brought up to date. -/
theorem settleConnection_ok (h : WellFormed config s) (id : ConnectionId) :
    ∃ s', settleConnection id none s = .ok () s' ∧ s'.sockets = s.sockets := by
  unfold settleConnection
  split
  · next c f hfind hlookup =>
      have hlive := live_eq_some_iff.mpr ⟨hfind, hlookup⟩
      split
      · obtain ⟨s', hok, hsockets⟩ := removeConnection_ok h id
        rw [hok]
        exact ⟨_, rfl, hsockets⟩
      · have hcases := updateInterest_cases h hlive none
        generalize updateInterest id c f none s = outcome at hcases
        cases hcases with
        | idle => exact ⟨s, rfl, rfl⟩
        | unregistered hwant hregistered hctl =>
            have hsockets := sockets_epollCtl hctl
            exact ⟨_, rfl, hsockets⟩
        | modified hwant hregistered hctl => exact ⟨_, rfl, sockets_epollCtl hctl⟩
        | registered hwant hunregistered hctl =>
            have hsockets := sockets_epollCtl hctl
            exact ⟨_, rfl, hsockets⟩
        | failed exception hctl hop =>
            obtain ⟨reason, hreason, -⟩ := (epollCtl_eq_some hctl).2 ((h.present_eq hlive).trans hop)
            cases hreason
  · exact ⟨s, rfl, rfl⟩

/-- The errors since then are those of the calls since then. -/
theorem errnos_since {before after : Socket} {recvCalls : List RecvCall}
    {sendCalls : List SendCall}
    (hafter : after = ⟨before.recvCalls ++ recvCalls, before.sendCalls ++ sendCalls⟩) :
    (before.since after).errnos =
      recvCalls.filterMap RecvCall.errno ++ sendCalls.filterMap SendCall.errno := by
  simp only [hafter, Socket.since, Socket.errnos, List.drop_left]

/-- A connection event, with calls to `epoll_ctl` that succeed. -/
theorem handleConnectionEvent_reports (h : WellFormed config s) (hunended : s.Unended id)
    (events : EventMask) {io : HandlerIo} (hctl : io.ctl = none) :
    Reports (handleConnectionEvent config id events io s)
      ((s.sockets id.value).since ((stateOf (handleConnectionEvent config id events io s)).sockets
        id.value)).errnos socketHandles := by
  unfold handleConnectionEvent
  split
  · have hnothing : ((s.sockets id.value).since (s.sockets id.value)).errnos = [] :=
      errnos_since (by rw [List.append_nil, List.append_nil])
    rw [stateOf_ok, hnothing]
    exact .nil _ _ _
  next c hfind =>
  obtain ⟨f, hlive⟩ := h.exists_live hfind
  obtain ⟨-, hlookup⟩ := live_eq_some_iff.mp hlive
  simp only [hlookup]
  obtain ⟨rest, hread, -⟩ : ∃ rest, Moves config {id} (.idle s []) _ ∧ _ :=
    readEvent_moves (Set.mem_singleton id) hlive rfl hunended events io
  have hwf₁ := hread.wellFormed h
  simp only [Activation.idle] at hwf₁
  obtain ⟨recvCalls, hrecvs, hreceived, -⟩ := readEvent_reports config id events io c f s
  generalize readEvent config id events io c f s = outcome at hwf₁ hrecvs hreceived
  cases outcome with
  | error exception s₁ =>
      have hafter : s₁.sockets id.value = ⟨(s.sockets id.value).recvCalls ++ recvCalls,
          (s.sockets id.value).sendCalls ++ []⟩ := by
        rw [List.append_nil]
        exact hrecvs
      simp only [stateOf_error]
      rw [errnos_since hafter, List.filterMap_nil, List.append_nil]
      exact hreceived
  | ok shouldRemove s₁ =>
      rw [stateOf_ok] at hrecvs hwf₁
      have hwrite : Moves config {id} (.idle s₁ []) _ :=
        writeEvent_moves hwf₁ (Set.mem_singleton id) events io shouldRemove
      have hwf₂ := hwrite.wellFormed hwf₁
      simp only [Activation.idle] at hwf₂
      obtain ⟨sendCalls, hsends, hsent⟩ := writeEvent_reports config id events io shouldRemove s₁
      simp only
      generalize writeEvent config id events io shouldRemove s₁ = outcome at hwf₂ hsends hsent
      -- Whatever comes behind the write, nothing happens on the socket any more.
      have hafter : (stateOf outcome).sockets id.value =
          ⟨(s.sockets id.value).recvCalls ++ recvCalls,
            (s.sockets id.value).sendCalls ++ sendCalls⟩ := by rw [hsends, hrecvs]
      cases outcome with
      | error exception s₂ =>
          rw [stateOf_error] at hafter
          simp only [stateOf_error]
          rw [errnos_since hafter]
          exact hsent.append hreceived
      | ok remove s₂ =>
          rw [stateOf_ok] at hafter hwf₂
          have hhandled : ∀ e ∈ recvCalls.filterMap RecvCall.errno ++
              sendCalls.filterMap SendCall.errno, socketHandles e = true := by
            intro e hmem
            exact (List.mem_append.mp hmem).elim (hreceived e) (hsent e)
          cases remove with
          | true =>
              obtain ⟨s₃, hok, hsockets⟩ := removeConnection_ok hwf₂ id
              simp only [hctl, hok, stateOf_ok]
              rw [errnos_since ((congrFun hsockets id.value).trans hafter)]
              exact hhandled
          | false =>
              obtain ⟨s₃, hok, hsockets⟩ := settleConnection_ok hwf₂ id
              simp only [hctl, hok, stateOf_ok]
              rw [errnos_since ((congrFun hsockets id.value).trans hafter)]
              exact hhandled

end Server

/-! ## One event -/

/-- A handler that leaves the other connections alone isolates them if and only if
it returns. -/
theorem isolated_proceed_iff {target : Target} {next : Phase} {outcome : Outcome Unit}
    {errors : List Errno} {handles : Errno → Bool} (hnext : next.hasFailed = false)
    (hreports : Reports outcome errors handles)
    (hothers : ∀ id c f, id ∉ target.concerned → s.live id = some (c, f) →
      (Server.stateOf outcome).live id = some (c, f)) :
    Isolated target s (Server.proceed next outcome) ↔ ∀ error ∈ errors, handles error = true := by
  cases outcome with
  | ok _ s' => exact iff_of_true ⟨hnext, hothers⟩ hreports
  | error exception s' =>
      refine iff_of_false (fun hisolated => Bool.noConfusion hisolated.running) ?_
      intro hhandled
      obtain ⟨error, hmem, hunhandled⟩ := hreports
      rw [hhandled error hmem] at hunhandled
      cases hunhandled

theorem acceptErrors_proceed (next : Phase) (outcome : Outcome Unit) :
    (Server.proceed next outcome).acceptErrors = (Server.stateOf outcome).acceptErrors := by
  cases outcome <;> rfl

theorem sockets_proceed (next : Phase) (outcome : Outcome Unit) :
    (Server.proceed next outcome).sockets = (Server.stateOf outcome).sockets := by
  cases outcome <;> rfl

/-- In every reachable state, the handler of an event leaves `Run` going and the
other connections alone if and only if every error that `accept4`, `recv` or `send`
returns to it is one that it tests for. -/
theorem fault_isolation_iff (config : ServerConfig) (descriptors : Descriptors)
    (actions : List Action) (event : EpollEvent) (rest : List EpollEvent) (io : Server.HandlerIo)
    (hphase : (run config descriptors actions).phase = .dispatching (event :: rest))
    (hrunning : (run config descriptors actions).stopRequested = false)
    (htarget : route event.key ≠ .shutdownSignal) (hsucceed : io.OthersSucceed)
    (hids : (run config descriptors actions).connections.nextId.value.toNat +
      kMaxAcceptsPerEvent < UInt64.size) :
    Isolated (route event.key) (run config descriptors actions)
        (run config descriptors (actions ++ [.dispatch io])) ↔
      ∀ error ∈ (route event.key).errnos (run config descriptors actions)
        (run config descriptors (actions ++ [.dispatch io])),
        (route event.key).handles error = true := by
  have hwf := Server.run_wellFormed config descriptors actions
  obtain ⟨a, ha, -, hrest⟩ := Server.run_moves config descriptors actions
  rw [Server.run_append_singleton]
  rw [← ha] at hphase hrunning hids hwf ⊢
  obtain ⟨hinbox, -, hsettled⟩ := hrest (by rw [hphase]; rfl)
  have hstep : Server.step config a.server (.dispatch io) =
      Server.dispatchEvent config event rest io a.server := by
    simp only [Server.step, hphase, hrunning, Bool.false_eq_true, if_false]
  rw [hstep, Server.dispatchEvent]
  cases hroute : route event.key with
  | shutdownSignal => exact absurd hroute htarget
  | workerWakeup => exact iff_of_true ⟨rfl, fun _ _ _ _ hlive => hlive⟩ (List.forall_mem_nil _)
  | listener =>
      have hmoves : Moves config ∅ a _ := Server.handleListenerEvent_moves io.accepts hwf hinbox
      obtain ⟨errors, herrors, hreports⟩ := Server.acceptLoop_reports kMaxAcceptsPerEvent
        io.accepts hwf hsucceed.fcntl hsucceed.admission hids
      have hsince : Target.listener.errnos a.server (Server.proceed (.dispatching rest)
          (Server.handleListenerEvent config io.accepts a.server)) = errors := by
        rw [Target.errnos, acceptErrors_proceed, Server.handleListenerEvent, herrors,
          List.drop_left]
      rw [hsince]
      exact isolated_proceed_iff rfl hreports fun id c f _ hlive =>
        hmoves.live_of_notMem hwf (Set.notMem_empty id) hlive
  | connection id =>
      obtain ⟨inbox, hmoves, -⟩ :=
        Server.handleConnectionEvent_moves hwf hinbox (hsettled id).unended event.events io
      have hreports := Server.handleConnectionEvent_reports hwf (hsettled id).unended event.events
        hsucceed.ctl
      simp only [Target.errnos, sockets_proceed]
      exact isolated_proceed_iff rfl hreports fun other c f hother hlive =>
        hmoves.live_of_notMem hwf hother hlive

/-- In the sample run, an interrupted `accept4` and an empty backlog are survived. -/
theorem fault_isolation_sample :
    Isolated (route listenerEvent.key)
      (run Server.Sample.config Server.Sample.descriptors
        (Server.Sample.arrival ++ [.wait (.ready [listenerEvent])]))
      (run Server.Sample.config Server.Sample.descriptors
        (Server.Sample.arrival ++ [.wait (.ready [listenerEvent])] ++
          [.dispatch { accepts := [.failed .eintr] }])) := by
  have hsucceed : Server.HandlerIo.OthersSucceed { accepts := [.failed .eintr] } := by
    refine ⟨rfl, ?_, ?_⟩ <;> simp
  have hphase : (run Server.Sample.config Server.Sample.descriptors
      (Server.Sample.arrival ++ [.wait (.ready [listenerEvent])])).phase =
        .dispatching [listenerEvent] := by decide +kernel
  refine (fault_isolation_iff _ _ _ listenerEvent [] _ hphase (by decide +kernel) (by decide)
    hsucceed (by decide +kernel)).mpr ?_
  decide +kernel

/-- In the sample run, `Run` does not survive that the process is out of
descriptors when a client comes, nor that the socket of a client times out. -/
theorem fault_not_isolated :
    ((run Server.Sample.config Server.Sample.descriptors
      (Server.Sample.arrival ++ [.wait (.ready [listenerEvent])])).live ⟨1⟩).isSome = true ∧
    ¬ Isolated .listener
      (run Server.Sample.config Server.Sample.descriptors
        (Server.Sample.arrival ++ [.wait (.ready [listenerEvent])]))
      (run Server.Sample.config Server.Sample.descriptors
        (Server.Sample.arrival ++ [.wait (.ready [listenerEvent])] ++
          [.dispatch { accepts := [.failed .emfile] }])) ∧
    ¬ Isolated (.connection ⟨1⟩)
      (run Server.Sample.config Server.Sample.descriptors
        (Server.Sample.arrival ++ [.wait (.ready [⟨{ epollIn := true }, 1⟩])]))
      (run Server.Sample.config Server.Sample.descriptors
        (Server.Sample.arrival ++ [.wait (.ready [⟨{ epollIn := true }, 1⟩])] ++
          [.dispatch { recvs := [.failed .etimedout] }])) := by
  have haccept : (run Server.Sample.config Server.Sample.descriptors
      (Server.Sample.arrival ++ [.wait (.ready [listenerEvent])] ++
        [.dispatch { accepts := [.failed .emfile] }])).phase =
      .failed (.syscallError "accept4" .emfile) := by decide +kernel
  have hrecv : (run Server.Sample.config Server.Sample.descriptors
      (Server.Sample.arrival ++ [.wait (.ready [⟨{ epollIn := true }, 1⟩])] ++
        [.dispatch { recvs := [.failed .etimedout] }])).phase =
      .failed (.syscallError "recv" .etimedout) := by decide +kernel
  refine ⟨by decide +kernel, ?_, ?_⟩
  · intro hisolated
    have hgoing := hisolated.running
    rw [haccept] at hgoing
    cases hgoing
  · intro hisolated
    have hgoing := hisolated.running
    rw [hrecv] at hgoing
    cases hgoing

end PulseCore.Network
