/-
# What the handlers are made of

Each handler of the reactor is a sequence of a few kinds of move: reading from a
socket, submitting one message, changing one epoll registration, removing one
connection. This module lists the moves, each with everything that is known when
it is made. That the handlers consist of them is proved once; every invariant is
then a statement about single moves.

A move is made by a handler that is running, so it also acts on what that handler
holds in its local variables: the messages a read returned that are not yet
submitted, and the results that were swapped out and are not yet handled.

The tables are maps whose order is of no account. What a move says about them is
what lookups say.
-/

import PulseCore.Network.Run
import Mathlib.Logic.Relation
import Mathlib.Data.Set.Insert

namespace PulseCore.Network

open PulseCore.Foundation PulseCore.Core PulseCore.Protocol

/-- What a call of `epoll_ctl` that succeeds makes of the interest set. -/
def CtlOp.effect (op : CtlOp) (fd : Fd) (event : EpollEvent)
    (epoll : AList (fun _ : Fd => EpollEvent)) : AList (fun _ : Fd => EpollEvent) :=
  match op with
  | .add => epoll.insert fd event
  | .mod => epoll.insert fd event
  | .del => epoll.erase fd

namespace Server

/-- A connection that both tables know. -/
def live (s : Server) (id : ConnectionId) : Option (Connection × ConnectionFlow) :=
  match s.connections.find id, s.connectionFlows.lookup id.value with
  | some connection, some flow => some (connection, flow)
  | _, _ => none

variable {s s' s₁ s₂ : Server} {id other : ConnectionId} {c c' : Connection} {f f' : ConnectionFlow}

theorem live_eq_some_iff :
    s.live id = some (c, f) ↔
      s.connections.find id = some c ∧ s.connectionFlows.lookup id.value = some f := by
  unfold live
  split
  · next c' f' hfind hlookup => simp [hfind, hlookup]
  · next hnone =>
      constructor
      · exact nofun
      · intro ⟨hfind, hlookup⟩
        exact absurd hlookup (hnone c f hfind)

theorem live_eq_none_iff :
    s.live id = none ↔
      s.connections.find id = none ∨ s.connectionFlows.lookup id.value = none := by
  unfold live
  split
  · next c' f' hfind hlookup => simp [hfind, hlookup]
  · next hnone =>
      simp only [true_iff]
      cases hfind : s.connections.find id with
      | none => exact .inl rfl
      | some c =>
          refine .inr (Option.eq_none_iff_forall_ne_some.mpr ?_)
          intro f hlookup
          exact hnone c f hfind hlookup

/-- Liveness is a matter of lookups. -/
theorem live_congr (hfind : s'.connections.find id = s.connections.find id)
    (hlookup : s'.connectionFlows.lookup id.value = s.connectionFlows.lookup id.value) :
    s'.live id = s.live id := by
  rw [live, live, hfind, hlookup]

theorem lookup_insert_of_ne {flows : AList (fun _ : UInt64 => ConnectionFlow)}
    (hne : other ≠ id) (f : ConnectionFlow) :
    (flows.insert id.value f).lookup other.value = flows.lookup other.value :=
  AList.lookup_insert_ne fun hvalue => hne (congrArg ConnectionId.mk hvalue)

theorem lookup_erase_of_ne {flows : AList (fun _ : UInt64 => ConnectionFlow)}
    (hne : other ≠ id) : (flows.erase id.value).lookup other.value = flows.lookup other.value :=
  AList.lookup_erase_ne fun hvalue => hne (congrArg ConnectionId.mk hvalue)

@[simp]
theorem live_forget_self (s : Server) (id : ConnectionId) : (s.forget id).live id = none :=
  live_eq_none_iff.mpr (.inl (ConnectionRegistry.find_remove_self _ _))

theorem live_forget_of_ne (s : Server) (hne : other ≠ id) :
    (s.forget id).live other = s.live other :=
  live_congr (ConnectionRegistry.find_remove_of_ne _ hne) (lookup_erase_of_ne hne)

/-- `s'` is `s` after `connection` and `flow` were written to the tables under
`id`, where a connection was before. -/
structure Wrote (s s' : Server) (id : ConnectionId) (connection : Connection)
    (flow : ConnectionFlow) : Prop where
  find_self : s'.connections.find id = some connection
  lookup_self : s'.connectionFlows.lookup id.value = some flow
  find_other : ∀ other, other ≠ id → s'.connections.find other = s.connections.find other
  lookup_other : ∀ other : ConnectionId, other ≠ id →
    s'.connectionFlows.lookup other.value = s.connectionFlows.lookup other.value
  size : s'.connections.size = s.connections.size
  registry : s'.connections = { s.connections with connections := s'.connections.connections }
  rest : s' = { s with connections := s'.connections, connectionFlows := s'.connectionFlows }

theorem Wrote.live_self (h : Wrote s s' id c f) : s'.live id = some (c, f) :=
  live_eq_some_iff.mpr ⟨h.find_self, h.lookup_self⟩

theorem Wrote.live_other (h : Wrote s s' id c f) (hne : other ≠ id) :
    s'.live other = s.live other :=
  live_congr (h.find_other other hne) (h.lookup_other other hne)

theorem wrote_putConnection (hlive : s.live id = some (c, f)) (c' : Connection) :
    Wrote s (s.putConnection id c') id c' f := by
  obtain ⟨hfind, hlookup⟩ := live_eq_some_iff.mp hlive
  exact ⟨ConnectionRegistry.find_put_self _ _ _, hlookup,
    fun _ hne => ConnectionRegistry.find_put_of_ne _ _ hne, fun _ _ => rfl,
    ConnectionRegistry.size_put _ hfind _, rfl, rfl⟩

theorem wrote_putFlow (hlive : s.live id = some (c, f)) (f' : ConnectionFlow) :
    Wrote s (s.putFlow id f') id c f' := by
  obtain ⟨hfind, hlookup⟩ := live_eq_some_iff.mp hlive
  exact ⟨hfind, AList.lookup_insert _, fun _ _ => rfl,
    fun _ hne => lookup_insert_of_ne hne _, rfl, rfl, rfl⟩

/-- Nothing was written. -/
theorem wrote_refl (hlive : s.live id = some (c, f)) : Wrote s s id c f := by
  obtain ⟨hfind, hlookup⟩ := live_eq_some_iff.mp hlive
  exact ⟨hfind, hlookup, fun _ _ => rfl, fun _ _ => rfl, rfl, rfl, rfl⟩

/-- The second of two writes stays. -/
theorem Wrote.trans (h₁ : Wrote s s₁ id c f) (h₂ : Wrote s₁ s₂ id c' f') : Wrote s s₂ id c' f' where
  find_self := h₂.find_self
  lookup_self := h₂.lookup_self
  find_other other hne := (h₂.find_other other hne).trans (h₁.find_other other hne)
  lookup_other other hne := (h₂.lookup_other other hne).trans (h₁.lookup_other other hne)
  size := h₂.size.trans h₁.size
  registry := by rw [h₂.registry, h₁.registry]
  rest := by rw [h₂.rest, h₁.rest]

/-- A write may be replaced by another one. -/
theorem Wrote.replace (h₁ : Wrote s s₁ id c f) (h₂ : Wrote s s₂ id c' f') :
    Wrote s₁ s₂ id c' f' where
  find_self := h₂.find_self
  lookup_self := h₂.lookup_self
  find_other other hne := (h₂.find_other other hne).trans (h₁.find_other other hne).symm
  lookup_other other hne := (h₂.lookup_other other hne).trans (h₁.lookup_other other hne).symm
  size := h₂.size.trans h₁.size.symm
  registry := by rw [h₂.registry, h₁.registry]
  rest := by rw [h₂.rest, h₁.rest]

/-- A call that succeeds met its precondition and does what it was asked to. -/
theorem epollCtl_eq_none {op : CtlOp} {fd : Fd} {event : EpollEvent} {fault : Option CtlFault}
    (hctl : s.epollCtl op fd event fault = (none, s')) :
    decide (fd ∈ s.epoll) = (op ≠ .add : Bool) ∧
    s' = { s with
      ctlCalls := s.ctlCalls ++ [⟨op, fd, (op ≠ .add : Bool)⟩]
      epoll := op.effect fd event s.epoll } := by
  cases op with
  | add =>
      simp only [epollCtl] at hctl
      split at hctl
      · cases hctl
      · next habsent =>
          cases fault with
          | some fault => cases hctl
          | none =>
              cases hctl
              simp [habsent, CtlOp.effect]
  | mod | del =>
      simp only [epollCtl] at hctl
      split at hctl
      · cases hctl
      · next hpresent =>
          simp only [Bool.not_eq_true', decide_eq_false_iff_not, not_not] at hpresent
          cases fault with
          | some fault => cases hctl
          | none =>
              cases hctl
              simp [hpresent, CtlOp.effect]

/-- A call that fails changes nothing, and if it met its precondition the kernel
had another reason. -/
theorem epollCtl_eq_some {op : CtlOp} {fd : Fd} {event : EpollEvent} {fault : Option CtlFault}
    {error : Errno} (hctl : s.epollCtl op fd event fault = (some error, s')) :
    s' = { s with ctlCalls := s.ctlCalls ++ [⟨op, fd, decide (fd ∈ s.epoll)⟩] } ∧
    (decide (fd ∈ s.epoll) = (op ≠ .add : Bool) →
      ∃ reason, fault = some reason ∧ error = reason.errno) := by
  cases op with
  | add =>
      simp only [epollCtl] at hctl
      split at hctl
      · next hpresent =>
          cases hctl
          refine ⟨rfl, ?_⟩
          rw [hpresent]
          exact nofun
      · cases fault with
        | none => cases hctl
        | some reason =>
            cases hctl
            exact ⟨rfl, fun _ => ⟨reason, rfl, rfl⟩⟩
  | mod | del =>
      simp only [epollCtl] at hctl
      split at hctl
      · next habsent =>
          cases hctl
          simp only [Bool.not_eq_true'] at habsent
          refine ⟨rfl, ?_⟩
          rw [habsent]
          exact nofun
      · cases fault with
        | none => cases hctl
        | some reason =>
            cases hctl
            exact ⟨rfl, fun _ => ⟨reason, rfl, rfl⟩⟩

/-- Whatever a call answers, only the interest set and the log of calls change. -/
theorem epollCtl_rest {op : CtlOp} {fd : Fd} {event : EpollEvent} {fault : Option CtlFault}
    {answer : Option Errno} (hctl : s.epollCtl op fd event fault = (answer, s')) :
    s' = { s with epoll := s'.epoll, ctlCalls := s'.ctlCalls } := by
  cases answer with
  | none =>
      obtain ⟨-, rfl⟩ := epollCtl_eq_none hctl
      rfl
  | some error =>
      obtain ⟨rfl, -⟩ := epollCtl_eq_some hctl
      rfl

/-- Liveness has nothing to do with the interest set. -/
theorem live_epollCtl {op : CtlOp} {fd : Fd} {event : EpollEvent} {fault : Option CtlFault}
    {answer : Option Errno} (hctl : s.epollCtl op fd event fault = (answer, s'))
    (id : ConnectionId) : s'.live id = s.live id :=
  live_congr (by rw [epollCtl_rest hctl]) (by rw [epollCtl_rest hctl])

/-- A call leaves the other descriptors as they were. -/
theorem lookup_epollCtl_of_ne {op : CtlOp} {fd other : Fd} {event : EpollEvent}
    {fault : Option CtlFault} {answer : Option Errno}
    (hctl : s.epollCtl op fd event fault = (answer, s')) (hne : other ≠ fd) :
    s'.epoll.lookup other = s.epoll.lookup other := by
  cases answer with
  | none =>
      obtain ⟨-, rfl⟩ := epollCtl_eq_none hctl
      cases op with
      | add | mod => exact AList.lookup_insert_ne hne
      | del => exact AList.lookup_erase_ne hne
  | some error =>
      obtain ⟨rfl, -⟩ := epollCtl_eq_some hctl
      rfl

/-- The flow of a connection is marked once `recv` has reported that its peer is
gone. -/
def Unended (s : Server) (id : ConnectionId) : Prop :=
  ∀ c f, s.live id = some (c, f) → f.closeAfterFlush = false →
    (s.sockets id.value).peerClosed = false

/-- The server when a client was entered into both tables and not yet into the
interest set. -/
def admitted (s : Server) (fd : Fd) : Server :=
  { s with
    connections := s.connections.registered fd
    sockets := Function.update s.sockets s.connections.nextId.value {} }.putFlow
      s.connections.nextId {}

/-- `RemoveConnection` has gone through: the descriptor of a registered
connection has left the interest set, and both tables have forgotten it. -/
inductive Removed (id : ConnectionId) (c : Connection) (f : ConnectionFlow) (s : Server) :
    Server → Prop
  | unregistered (hunregistered : f.registeredWithEpoll = false) : Removed id c f s (s.forget id)
  | registered (hregistered : f.registeredWithEpoll = true) {fault : Option CtlFault} {s' : Server}
      (hctl : s.epollCtl .del c.fd ⟨{}, 0⟩ fault = (none, s')) :
      Removed id c f s (s'.forget id)

theorem sockets_epollCtl {op : CtlOp} {fd : Fd} {event : EpollEvent}
    {fault : Option CtlFault} {answer : Option Errno}
    (hctl : s.epollCtl op fd event fault = (answer, s')) : s'.sockets = s.sockets := by
  rw [epollCtl_rest hctl]

theorem sockets_wrote (hwrote : Wrote s s' id c f) :
    s'.sockets = s.sockets := by
  rw [hwrote.rest]

theorem sockets_removed (hremoved : Removed id c f s s') :
    s'.sockets = s.sockets := by
  cases hremoved with
  | unregistered => rfl
  | registered hregistered hctl =>
      have hsockets := sockets_epollCtl hctl
      exact hsockets

end Server

/-! ## Moves -/

/-- The server together with the local variables of the handler that runs. -/
structure Activation where
  server : Server
  /-- Decoded messages that are still to be submitted, for each connection. -/
  inbox : ConnectionId → List Message
  /-- Swapped-out results that are still to be handled. -/
  batch : List WorkResult

/-- The activation between two calls: nothing is held. -/
def Activation.idle (s : Server) (batch : List WorkResult) : Activation := ⟨s, fun _ => [], batch⟩

/-- One move. Moves on a connection are confined to those in `touched`. -/
inductive Move (config : ServerConfig) (touched : Set ConnectionId) : Activation → Activation → Prop
  /-- A worker thread takes a step. -/
  | work (a : Activation) (action : WorkerAction) :
      Move config touched a
        { a with server :=
            { a.server with
              pipeline := a.server.pipeline.work config.options.handler action } }
  /-- The eventfd is read or written. -/
  | wake (a : Activation) (workerWakeup : Eventfd) :
      Move config touched a
        { a with server :=
            { a.server with pipeline := { a.server.pipeline with workerWakeup } } }
  /-- The worker pool is stopped. -/
  | stopPool (a : Activation) :
      Move config touched a
        { a with server := { a.server with pipeline := a.server.pipeline.stop } }
  /-- The reactor goes on to another place in `Run`, or is asked to stop. -/
  | control (a : Activation) (stopRequested : Bool) (phase : Phase) :
      Move config touched a { a with server := { a.server with stopRequested, phase } }
  /-- `accept4` fails. -/
  | acceptErrors (a : Activation) (errors : List Errno) :
      Move config touched a
        { a with server := { a.server with acceptErrors := a.server.acceptErrors ++ errors } }
  /-- A client is accepted and registered. -/
  | accept (a : Activation) {fd : Fd} {fault : Option CtlFault} {s : Server}
      (hinbox : a.inbox a.server.connections.nextId = [])
      (hids : a.server.connections.nextId.value ≠ kMaxUInt64)
      (hroom : a.server.connections.size < config.options.maxConnections)
      (hfresh : fd ∉ a.server.openFds)
      (hctl : (a.server.admitted fd).epollCtl .add fd
        (connectionEvent a.server.connections.nextId true false) fault = (none, s)) :
      Move config touched a
        { a with server := s.putFlow a.server.connections.nextId { registeredWithEpoll := true } }
  /-- A client is accepted and cannot be registered. -/
  | acceptFailed (a : Activation) {fd : Fd} {fault : Option CtlFault} {s : Server} {error : Errno}
      (hinbox : a.inbox a.server.connections.nextId = [])
      (hids : a.server.connections.nextId.value ≠ kMaxUInt64)
      (hroom : a.server.connections.size < config.options.maxConnections)
      (hfresh : fd ∉ a.server.openFds)
      (hctl : (a.server.admitted fd).epollCtl .add fd
        (connectionEvent a.server.connections.nextId true false) fault = (some error, s)) :
      Move config touched a { a with server := s.forget a.server.connections.nextId }
  /-- `ReadAvailable` is called. -/
  | read (a : Activation) {id : ConnectionId} {c : Connection} {f : ConnectionFlow} {budget : ℕ}
      {out : Connection.ReadOutcome} {messages : List Message} (hid : id ∈ touched)
      (hlive : a.server.live id = some (c, f)) (hinbox : a.inbox id = [])
      (hopen : f.closeAfterFlush = false)
      (hunended : (a.server.sockets id.value).peerClosed = false)
      (hspec : Connection.ReadSpec budget ⟨c, [], false, 0⟩ out)
      (hsplits : frameFormat.Splits (c.undecoded ++ receivedBytes out.calls) messages
        out.connection.undecoded) :
      Move config touched a
        { a with
          server := (a.server.putConnection id out.connection).logSocket id out.calls []
          inbox := Function.update a.inbox id messages }
  /-- The first message of the inbox is submitted. -/
  | submit (a : Activation) {id : ConnectionId} {c : Connection} {f : ConnectionFlow}
      {message : Message} {messages : List Message} {pipeline : Pipeline} {s : Server}
      (hid : id ∈ touched) (hlive : a.server.live id = some (c, f))
      (hinbox : a.inbox id = message :: messages)
      (hroom : (f.nextRequestSequence - f.nextResponseSequence).toNat <
        config.options.maxInFlightRequestsPerConnection)
      (hsubmit : a.server.pipeline.trySubmit ⟨id, f.nextRequestSequence, message⟩ =
        (true, pipeline))
      (hwrote : Server.Wrote a.server s id c
        { f with nextRequestSequence := f.nextRequestSequence + 1 }) :
      Move config touched a
        { a with server := { s with pipeline }, inbox := Function.update a.inbox id messages }
  /-- A connection is to be closed once it is flushed. -/
  | closing (a : Activation) {id : ConnectionId} {c : Connection} {f : ConnectionFlow} {s : Server}
      (hid : id ∈ touched) (hlive : a.server.live id = some (c, f))
      (hclosed : (a.server.sockets id.value).peerClosed = true)
      (hdecoded : tryDecodeFrame c.undecoded = .needMoreData)
      (hwrote : Server.Wrote a.server s id c { f with closeAfterFlush := true }) :
      Move config touched a { a with server := s }
  /-- A connection and its flow are written back as they were. -/
  | writeBack (a : Activation) {id : ConnectionId} {c : Connection} {f : ConnectionFlow}
      {s : Server} (hid : id ∈ touched) (hlive : a.server.live id = some (c, f))
      (hwrote : Server.Wrote a.server s id c f) : Move config touched a { a with server := s }
  /-- `WriteAvailable` is called. -/
  | write (a : Activation) {id : ConnectionId} {c : Connection} {f : ConnectionFlow}
      {out : Connection.WriteOutcome} (hid : id ∈ touched) (hlive : a.server.live id = some (c, f))
      (hspec : Connection.WriteSpec c out) :
      Move config touched a
        { a with
          server := (a.server.putConnection id out.connection).logSocket id [] out.calls }
  /-- The completed work is swapped out. -/
  | swap (a : Activation) (hbatch : a.batch = []) :
      Move config touched a
        { a with
          server :=
            { a.server with pipeline := { a.server.pipeline with completedWork := [] } }
          batch := a.server.pipeline.completedWork }
  /-- A result goes to the reorder map of its connection. -/
  | deliver (a : Activation) {result : WorkResult} {batch : List WorkResult} {c : Connection}
      {f : ConnectionFlow} {s : Server} (hid : result.connectionId ∈ touched)
      (hbatch : a.batch = result :: batch)
      (hlive : a.server.live result.connectionId = some (c, f))
      (hwrote : Server.Wrote a.server s result.connectionId c
        { f with
          completedResponses := Server.emplace f.completedResponses result.sequence
            result.response }) :
      Move config touched a { a with server := s, batch }
  /-- A result of a connection that is gone is dropped. -/
  | discard (a : Activation) {result : WorkResult} {batch : List WorkResult}
      (hbatch : a.batch = result :: batch) (hgone : a.server.live result.connectionId = none) :
      Move config touched a { a with batch }
  /-- The next response in order is queued for output. -/
  | release (a : Activation) {id : ConnectionId} {c c' : Connection} {f : ConnectionFlow}
      {response : Message} {s : Server} (hid : id ∈ touched)
      (hlive : a.server.live id = some (c, f))
      (hready : f.completedResponses.lookup f.nextResponseSequence = some response)
      (hqueued : c.queueOutput response = (true, c'))
      (hwrote : Server.Wrote a.server s id c'
        { f with
          nextResponseSequence := f.nextResponseSequence + 1
          completedResponses := f.completedResponses.erase f.nextResponseSequence }) :
      Move config touched a { a with server := s }
  /-- A response cannot be queued. -/
  | refuse (a : Activation) {id : ConnectionId} {c c' : Connection} {f : ConnectionFlow}
      {response : Message} {s : Server} (hid : id ∈ touched)
      (hlive : a.server.live id = some (c, f))
      (hqueued : c.queueOutput response = (false, c'))
      (hwrote : Server.Wrote a.server s id c' f) : Move config touched a { a with server := s }
  /-- A connection enters the interest set. -/
  | register (a : Activation) {id : ConnectionId} {c : Connection} {f : ConnectionFlow}
      {event : EpollEvent} {fault : Option CtlFault} {s s' : Server} (hid : id ∈ touched)
      (hlive : a.server.live id = some (c, f)) (hunregistered : f.registeredWithEpoll = false)
      (hkey : event.key = id.value)
      (hctl : a.server.epollCtl .add c.fd event fault = (none, s))
      (hwrote : Server.Wrote s s' id c { f with registeredWithEpoll := true }) :
      Move config touched a { a with server := s' }
  /-- The interest of a connection changes. -/
  | modify (a : Activation) {id : ConnectionId} {c : Connection} {f : ConnectionFlow}
      {event : EpollEvent} {fault : Option CtlFault} {s : Server} (hid : id ∈ touched)
      (hlive : a.server.live id = some (c, f)) (hregistered : f.registeredWithEpoll = true)
      (hkey : event.key = id.value)
      (hctl : a.server.epollCtl .mod c.fd event fault = (none, s)) :
      Move config touched a { a with server := s }
  /-- A connection leaves the interest set. -/
  | unregister (a : Activation) {id : ConnectionId} {c : Connection} {f : ConnectionFlow}
      {event : EpollEvent} {fault : Option CtlFault} {s s' : Server} (hid : id ∈ touched)
      (hlive : a.server.live id = some (c, f)) (hregistered : f.registeredWithEpoll = true)
      (hctl : a.server.epollCtl .del c.fd event fault = (none, s))
      (hwrote : Server.Wrote s s' id c { f with registeredWithEpoll := false }) :
      Move config touched a { a with server := s' }
  /-- `epoll_ctl` fails for a connection. -/
  | ctlFailed (a : Activation) {id : ConnectionId} {c : Connection} {f : ConnectionFlow}
      {op : CtlOp} {event : EpollEvent} {fault : Option CtlFault} {error : Errno} {s : Server}
      (hid : id ∈ touched) (hlive : a.server.live id = some (c, f))
      (hctl : a.server.epollCtl op c.fd event fault = (some error, s))
      (hop : f.registeredWithEpoll = (op ≠ .add : Bool)) :
      Move config touched a { a with server := s }
  /-- A connection is removed. -/
  | remove (a : Activation) {id : ConnectionId} {c : Connection} {f : ConnectionFlow} {s : Server}
      (hid : id ∈ touched) (hlive : a.server.live id = some (c, f))
      (hremoved : Server.Removed id c f a.server s) : Move config touched a { a with server := s }
  /-- A connection that has nothing left to do is removed. -/
  | drain (a : Activation) {id : ConnectionId} {c : Connection} {f : ConnectionFlow} {s : Server}
      (hid : id ∈ touched) (hlive : a.server.live id = some (c, f)) (hinbox : a.inbox id = [])
      (hclose : Server.shouldCloseAfterFlush c f = true)
      (hremoved : Server.Removed id c f a.server s) :
      Move config touched a { a with server := { s with drained := id :: s.drained } }
  /-- The inbox of a connection that is gone is dropped. -/
  | dropInbox (a : Activation) {id : ConnectionId} (hgone : a.server.live id = none) :
      Move config touched a { a with inbox := Function.update a.inbox id [] }

/-- Any number of moves. -/
abbrev Moves (config : ServerConfig) (touched : Set ConnectionId) :
    Activation → Activation → Prop :=
  Relation.ReflTransGen (Move config touched)

theorem Move.mono {config : ServerConfig} {touched touched' : Set ConnectionId}
    {a a' : Activation} (hmove : Move config touched a a') (hsub : touched ⊆ touched') :
    Move config touched' a a' := by
  cases hmove with
  | work action => exact .work a action
  | wake workerWakeup => exact .wake a workerWakeup
  | stopPool => exact .stopPool a
  | control stopRequested phase => exact .control a stopRequested phase
  | acceptErrors errors => exact .acceptErrors a errors
  | accept hinbox hids hroom hfresh hctl => exact .accept a hinbox hids hroom hfresh hctl
  | acceptFailed hinbox hids hroom hfresh hctl =>
      exact .acceptFailed a hinbox hids hroom hfresh hctl
  | read hid hlive hinbox hopen hunended hspec hsplits =>
      exact .read a (hsub hid) hlive hinbox hopen hunended hspec hsplits
  | submit hid hlive hinbox hroom hsubmit hwrote =>
      exact .submit a (hsub hid) hlive hinbox hroom hsubmit hwrote
  | closing hid hlive hclosed hdecoded hwrote =>
      exact .closing a (hsub hid) hlive hclosed hdecoded hwrote
  | writeBack hid hlive hwrote => exact .writeBack a (hsub hid) hlive hwrote
  | write hid hlive hspec => exact .write a (hsub hid) hlive hspec
  | swap hbatch => exact .swap a hbatch
  | deliver hid hbatch hlive hwrote => exact .deliver a (hsub hid) hbatch hlive hwrote
  | discard hbatch hgone => exact .discard a hbatch hgone
  | release hid hlive hready hqueued hwrote =>
      exact .release a (hsub hid) hlive hready hqueued hwrote
  | refuse hid hlive hqueued hwrote => exact .refuse a (hsub hid) hlive hqueued hwrote
  | register hid hlive hunregistered hkey hctl hwrote =>
      exact .register a (hsub hid) hlive hunregistered hkey hctl hwrote
  | modify hid hlive hregistered hkey hctl =>
      exact .modify a (hsub hid) hlive hregistered hkey hctl
  | unregister hid hlive hregistered hctl hwrote =>
      exact .unregister a (hsub hid) hlive hregistered hctl hwrote
  | ctlFailed hid hlive hctl hop => exact .ctlFailed a (hsub hid) hlive hctl hop
  | remove hid hlive hremoved => exact .remove a (hsub hid) hlive hremoved
  | drain hid hlive hinbox hclose hremoved =>
      exact .drain a (hsub hid) hlive hinbox hclose hremoved
  | dropInbox hgone => exact .dropInbox a hgone

theorem Moves.mono {config : ServerConfig} {touched touched' : Set ConnectionId}
    {a a' : Activation} (hmoves : Moves config touched a a') (hsub : touched ⊆ touched') :
    Moves config touched' a a' := by
  induction hmoves with
  | refl => exact .refl
  | tail _ hmove ih => exact ih.tail (hmove.mono hsub)

end PulseCore.Network
