/-
# The epoll server: state and handlers

One reactor thread owns the connections, their flows and the epoll set; worker
threads run the handlers. This module holds the server's data and the member
functions the reactor calls, each from a state to the state it leaves together
with what it returns or throws. A state that a function has changed before it
throws stays changed, as in the source.

The kernel's answers are arguments here too. Worker threads run while a handler
does; the only thing a handler shares with them is the queue, which it touches in
`TrySubmit`, so `submitMessages` takes the worker steps that fall before each
submission.
-/

import PulseCore.Network.ConnectionRegistry
import PulseCore.Network.WorkerPool

namespace PulseCore.Network

open PulseCore.Foundation PulseCore.Core PulseCore.Protocol

def kListenerKey : UInt64 := 0
def kWorkerWakeupKey : UInt64 := kMaxUInt64
def kShutdownSignalKey : UInt64 := kMaxUInt64 - 1
def kMaxEpollEvents : ℕ := 64
def kMaxAcceptsPerEvent : ℕ := 64
def kDefaultMaxConnections : ℕ := 1024
def kDefaultMaxInFlightRequestsPerConnection : ℕ := 1024

structure EpollEchoServerOptions where
  workerCount : ℕ := 2
  workQueueCapacity : ℕ := 1024
  maxReadBytesPerEvent : ℕ := kDefaultMaxReadBytesPerEvent
  maxWriteBytesPerEvent : ℕ := kDefaultMaxWriteBytesPerEvent
  maxConnections : ℕ := kDefaultMaxConnections
  maxInFlightRequestsPerConnection : ℕ := kDefaultMaxInFlightRequestsPerConnection
  connectionLimits : ConnectionLimits := {}
  handler : WorkHandler := defaultHandler
  shutdownSignals : List ℕ := []

/-- The options of a server that was constructed: every limit is positive. -/
structure ServerConfig where
  options : EpollEchoServerOptions
  maxInputBuffer_pos : 0 < options.connectionLimits.maxInputBuffer
  maxOutputBuffer_pos : 0 < options.connectionLimits.maxOutputBuffer
  maxReadBytesPerEvent_pos : 0 < options.maxReadBytesPerEvent
  maxWriteBytesPerEvent_pos : 0 < options.maxWriteBytesPerEvent
  maxConnections_pos : 0 < options.maxConnections
  maxInFlight_pos : 0 < options.maxInFlightRequestsPerConnection
  workQueueCapacity_pos : 0 < options.workQueueCapacity
  workerCount_pos : 0 < options.workerCount

def requirePositiveBudget (value : ℕ) (name : String) : Except Exception (PLift (0 < value)) :=
  if hzero : value = 0 then
    .error (.invalidArgument (name ++ " must be greater than zero"))
  else .ok ⟨Nat.pos_of_ne_zero hzero⟩

/-- The checks of the constructor, in the order of its member initialisers; the
last two are those of the queue and of the worker pool. -/
def ServerConfig.create (options : EpollEchoServerOptions) : Except Exception ServerConfig := do
  let input ← requirePositiveBudget options.connectionLimits.maxInputBuffer "max input buffer"
  let output ← requirePositiveBudget options.connectionLimits.maxOutputBuffer "max output buffer"
  let read ← requirePositiveBudget options.maxReadBytesPerEvent "max read bytes per event"
  let write ← requirePositiveBudget options.maxWriteBytesPerEvent "max write bytes per event"
  let connections ← requirePositiveBudget options.maxConnections "max connections"
  let inFlight ← requirePositiveBudget options.maxInFlightRequestsPerConnection
    "max in-flight requests per connection"
  let capacity ← requirePositiveBudget options.workQueueCapacity "bounded queue capacity"
  let workers ← requirePositiveBudget options.workerCount "worker count"
  return ⟨options, input.down, output.down, read.down, write.down, connections.down,
    inFlight.down, capacity.down, workers.down⟩

/-- The event bits the server uses. -/
structure EventMask where
  epollIn : Bool := false
  epollRdHup : Bool := false
  epollOut : Bool := false
  epollErr : Bool := false
  epollHup : Bool := false
  deriving DecidableEq

/-- The event asks for a read. -/
def EventMask.readable (events : EventMask) : Bool :=
  events.epollIn || events.epollRdHup || events.epollHup

/-- `epoll_event`, with the key in `data.u64`. -/
structure EpollEvent where
  events : EventMask
  key : UInt64
  deriving DecidableEq

inductive CtlOp
  | add
  | mod
  | del
  deriving DecidableEq

/-- A failure of `epoll_ctl` that has nothing to do with whether the descriptor
is in the set. `EEXIST` and `ENOENT` are reported for that reason only. -/
structure CtlFault where
  errno : Errno
  ne_eexist : errno ≠ .eexist
  ne_enoent : errno ≠ .enoent

/-- One `epoll_ctl` as it happened. -/
structure CtlCall where
  op : CtlOp
  fd : Fd
  /-- Whether the descriptor was in the set. -/
  present : Bool
  deriving DecidableEq

/-- The call met its precondition: `ADD` an absent descriptor, `MOD` and `DEL` a
present one. -/
def CtlCall.Met (call : CtlCall) : Prop := call.present = (call.op ≠ .add : Bool)

def listenerEvent : EpollEvent := ⟨{ epollIn := true }, kListenerKey⟩

def workerWakeupEvent : EpollEvent := ⟨{ epollIn := true }, kWorkerWakeupKey⟩

def shutdownSignalEvent : EpollEvent := ⟨{ epollIn := true }, kShutdownSignalKey⟩

def connectionEvent (id : ConnectionId) (wantsRead wantsWrite : Bool) : EpollEvent :=
  ⟨{ epollIn := wantsRead, epollRdHup := wantsRead, epollOut := wantsWrite }, id.value⟩

/-! ## The server -/

structure ConnectionFlow where
  nextRequestSequence : UInt64 := 0
  nextResponseSequence : UInt64 := 0
  completedResponses : AList (fun _ : UInt64 => Message) := ∅
  closeAfterFlush : Bool := false
  registeredWithEpoll : Bool := false

/-- What has happened on the socket of one connection. -/
structure Socket where
  recvCalls : List RecvCall := []
  sendCalls : List SendCall := []

/-- The bytes received on a socket. -/
def Socket.received (socket : Socket) : List Byte := receivedBytes socket.recvCalls

/-- The bytes a socket accepted for sending. -/
def Socket.sent (socket : Socket) : List Byte := sentBytes socket.sendCalls

/-- `recv` has reported that the peer closed. -/
def Socket.peerClosed (socket : Socket) : Bool := socket.recvCalls.any RecvCall.isEnd

/-- Where the reactor stands in `Run`. -/
inductive Phase
  /-- About to test `stop_requested_` and to call `epoll_wait`. -/
  | polling
  /-- In the loop over the reported events; these are still to be dispatched. -/
  | dispatching (events : List EpollEvent)
  /-- In `HandleWorkerWakeup`, reading the eventfd. -/
  | draining (events : List EpollEvent)
  /-- In `HandleWorkerWakeup`, behind the reads and before the swap. -/
  | swapping (events : List EpollEvent)
  /-- In `HandleWorkerWakeup`, with results that are still to be handled. -/
  | handling (batch : List WorkResult) (events : List EpollEvent)
  /-- `Run` has returned. -/
  | finished
  /-- An exception has left `Run`. -/
  | failed (error : Exception)
  deriving DecidableEq

/-- The results that `HandleWorkerWakeup` has swapped out and not yet handled. -/
def Phase.batch : Phase → List WorkResult
  | .handling batch _ => batch
  | _ => []

/-- The descriptors the server itself holds. -/
structure Descriptors where
  listener : Fd
  epoll : Fd
  workerWakeup : Fd
  shutdownSignal : Fd
  nodup : [listener, epoll, workerWakeup, shutdownSignal].Nodup

def Descriptors.all (d : Descriptors) : List Fd :=
  [d.listener, d.epoll, d.workerWakeup, d.shutdownSignal]

structure Server where
  descriptors : Descriptors
  connections : ConnectionRegistry
  connectionFlows : AList (fun _ : UInt64 => ConnectionFlow)
  /-- The epoll interest set. -/
  epoll : AList (fun _ : Fd => EpollEvent)
  pipeline : Pipeline
  stopRequested : Bool
  phase : Phase
  /-- What has happened on each connection's socket. -/
  sockets : UInt64 → Socket
  /-- The `epoll_ctl` calls made so far. -/
  ctlCalls : List CtlCall
  /-- The errors `accept4` has returned so far. -/
  acceptErrors : List Errno
  /-- The connections removed through `ShouldCloseAfterFlush` so far. -/
  drained : List ConnectionId

/-- What a member function comes to: a value or an exception, and the state. -/
abbrev Outcome (α : Type) := EStateM.Result Exception Server α

namespace Server

/-- `EpollCtl` and the two calls of `epoll_ctl` that look at the error. -/
def epollCtl (s : Server) (op : CtlOp) (fd : Fd) (event : EpollEvent)
    (fault : Option CtlFault) : Option Errno × Server :=
  let present := decide (fd ∈ s.epoll)
  let s := { s with ctlCalls := s.ctlCalls ++ [⟨op, fd, present⟩] }
  match op with
  | .add =>
      if present then (some .eexist, s)
      else
        match fault with
        | some fault => (some fault.errno, s)
        | none => (none, { s with epoll := s.epoll.insert fd event })
  | .mod =>
      if !present then (some .enoent, s)
      else
        match fault with
        | some fault => (some fault.errno, s)
        | none => (none, { s with epoll := s.epoll.insert fd event })
  | .del =>
      if !present then (some .enoent, s)
      else
        match fault with
        | some fault => (some fault.errno, s)
        | none => (none, { s with epoll := s.epoll.erase fd })

/-- Write through the pointer to a connection. -/
def putConnection (s : Server) (id : ConnectionId) (connection : Connection) : Server :=
  { s with connections := s.connections.put id connection }

/-- Write through the reference to a flow. -/
def putFlow (s : Server) (id : ConnectionId) (flow : ConnectionFlow) : Server :=
  { s with connectionFlows := s.connectionFlows.insert id.value flow }

/-- Record what happened on a socket. -/
def logSocket (s : Server) (id : ConnectionId) (recvCalls : List RecvCall)
    (sendCalls : List SendCall) : Server :=
  { s with
    sockets := Function.update s.sockets id.value
      { recvCalls := (s.sockets id.value).recvCalls ++ recvCalls
        sendCalls := (s.sockets id.value).sendCalls ++ sendCalls } }

/-- The end of `RemoveConnection`: both tables forget the connection. -/
def forget (s : Server) (id : ConnectionId) : Server :=
  { s with
    connectionFlows := s.connectionFlows.erase id.value
    connections := (s.connections.remove id).2 }

def removeConnection (id : ConnectionId) (fault : Option CtlFault) (s : Server) : Outcome Unit :=
  match s.connections.find id with
  | none => .ok () s
  | some connection =>
      let registeredWithEpoll :=
        match s.connectionFlows.lookup id.value with
        | none => true
        | some flow => flow.registeredWithEpoll
      if registeredWithEpoll then
        match s.epollCtl .del connection.fd ⟨{}, 0⟩ fault with
        | (none, s) => .ok () (s.forget id)
        | (some error, s) =>
            if error ≠ .enoent then .error (.syscallError "epoll_ctl(DEL connection)" error) s
            else .ok () (s.forget id)
      else .ok () (s.forget id)

def shouldCloseAfterFlush (connection : Connection) (flow : ConnectionFlow) : Bool :=
  flow.closeAfterFlush && !connection.hasPendingOutput &&
    flow.nextResponseSequence ≥ flow.nextRequestSequence

def updateInterest (id : ConnectionId) (connection : Connection) (flow : ConnectionFlow)
    (fault : Option CtlFault) (s : Server) : Outcome Unit :=
  let wantsRead := !flow.closeAfterFlush
  let wantsWrite := connection.hasPendingOutput
  if !wantsRead && !wantsWrite then
    if flow.registeredWithEpoll then
      match s.epollCtl .del connection.fd ⟨{}, 0⟩ fault with
      | (none, s) => .ok () (s.putFlow id { flow with registeredWithEpoll := false })
      | (some error, s) =>
          if error ≠ .enoent then .error (.syscallError "epoll_ctl(DEL idle connection)" error) s
          else .ok () (s.putFlow id { flow with registeredWithEpoll := false })
    else .ok () s
  else
    let event := connectionEvent connection.id wantsRead wantsWrite
    if flow.registeredWithEpoll then
      match s.epollCtl .mod connection.fd event fault with
      | (none, s) => .ok () s
      | (some error, s) => .error (.syscallError "epoll_ctl(MOD connection)" error) s
    else
      match s.epollCtl .add connection.fd event fault with
      | (none, s) => .ok () (s.putFlow id { flow with registeredWithEpoll := true })
      | (some error, s) => .error (.syscallError "epoll_ctl(ADD connection)" error) s

/-- The common end of `HandleConnectionEvent` and `FlushReadyResponses`: remove
a connection that has nothing left to do, or bring its interest up to date. -/
def settleConnection (id : ConnectionId) (fault : Option CtlFault) (s : Server) : Outcome Unit :=
  match s.connections.find id, s.connectionFlows.lookup id.value with
  | some connection, some flow =>
      if shouldCloseAfterFlush connection flow then
        match removeConnection id fault s with
        | .ok () s => .ok () { s with drained := id :: s.drained }
        | .error error s => .error error s
      else updateInterest id connection flow fault s
  | _, _ => .ok () s

/-- A client the kernel hands out, with what follows for it: a wish for its
descriptor, and the answers to `fcntl` and to `epoll_ctl`. -/
structure Client where
  fd : ℕ
  fcntl : FcntlAnswers := {}
  ctl : Option CtlFault := none

inductive AcceptAnswer
  | client (client : Client)
  | failed (error : Errno)

/-- `AcceptNonBlocking`: a client, or none when there is none waiting; with the
errors it met and the answers it did not use. -/
def acceptNonBlocking : List AcceptAnswer →
    Except Exception (Option Client) × List Errno × List AcceptAnswer
  | [] => (.ok none, [.eagain], [])
  | .client client :: answers => (.ok (some client), [], answers)
  | .failed error :: answers =>
      if error = .eintr then
        let (result, errors, answers) := acceptNonBlocking answers
        (result, error :: errors, answers)
      else if isWouldBlock error then (.ok none, [error], answers)
      else (.error (.syscallError "accept4" error), [error], answers)

/-- The descriptors that are open: the server's own and those of its live
connections. -/
def openFds (s : Server) : List Fd :=
  s.descriptors.all ++ s.connections.connections.entries.map fun entry => entry.2.fd

/-- The descriptor of the next client. -/
def freshFd (s : Server) (wish : ℕ) : Fd := freshAmong s.openFds wish

/-- The body of the accept loop for a client that is admitted. -/
def registerClient (client : Client) (s : Server) : Outcome Unit :=
  match s.connections.add (s.freshFd client.fd) client.fcntl with
  | (.error error, connections) => .error error { s with connections }
  | (.ok id, connections) =>
      let s := { s with connections, sockets := Function.update s.sockets id.value {} }
      match s.connections.find id with
      | none => .error (.runtimeError "registered connection cannot be found") s
      | some connection =>
          if id.value ∈ s.connectionFlows then
            .error (.runtimeError "connection flow already exists") s
          else
            let s := s.putFlow id {}
            let event := connectionEvent id true connection.hasPendingOutput
            match s.epollCtl .add connection.fd event client.ctl with
            | (none, s) => .ok () (s.putFlow id { registeredWithEpoll := true })
            | (some error, s) =>
                .error (.syscallError "epoll_ctl(ADD connection)" error) (s.forget id)

/-- The loop of `HandleListenerEvent`. A client over the limit is accepted and
dropped. -/
def acceptLoop (config : ServerConfig) : ℕ → List AcceptAnswer → Server → Outcome Unit
  | 0, _, s => .ok () s
  | accepts + 1, answers, s =>
      match acceptNonBlocking answers with
      | (.error error, errors, _) =>
          .error error { s with acceptErrors := s.acceptErrors ++ errors }
      | (.ok none, errors, _) => .ok () { s with acceptErrors := s.acceptErrors ++ errors }
      | (.ok (some client), errors, answers) =>
          let s := { s with acceptErrors := s.acceptErrors ++ errors }
          if s.connections.size ≥ config.options.maxConnections then
            acceptLoop config accepts answers s
          else
            match registerClient client s with
            | .ok () s => acceptLoop config accepts answers s
            | .error error s => .error error s

def handleListenerEvent (config : ServerConfig) (answers : List AcceptAnswer) (s : Server) :
    Outcome Unit :=
  acceptLoop config kMaxAcceptsPerEvent answers s

/-- The loop of `SubmitWork`, on the flow of the connection. -/
def submitMessages (config : ServerConfig) (id : ConnectionId) :
    List Message → List (List WorkerAction) → ConnectionFlow → Pipeline →
      Bool × ConnectionFlow × Pipeline
  | [], _, flow, pipeline => (true, flow, pipeline)
  | message :: messages, steps, flow, pipeline =>
      let inFlight := flow.nextRequestSequence - flow.nextResponseSequence
      if inFlight.toNat ≥ config.options.maxInFlightRequestsPerConnection then
        (false, flow, pipeline)
      else
        let pipeline := pipeline.workAll config.options.handler (steps.headD [])
        let item : WorkItem :=
          { connectionId := id
            sequence := flow.nextRequestSequence
            request := message }
        match pipeline.trySubmit item with
        | (false, pipeline) => (false, flow, pipeline)
        | (true, pipeline) =>
            submitMessages config id messages steps.tail
              { flow with nextRequestSequence := flow.nextRequestSequence + 1 } pipeline

def submitWork (config : ServerConfig) (id : ConnectionId) (messages : List Message)
    (steps : List (List WorkerAction)) (s : Server) : Bool × Server :=
  match s.connectionFlows.lookup id.value with
  | none => (false, s)
  | some flow =>
      match submitMessages config id messages steps flow s.pipeline with
      | (submitted, flow, pipeline) => (submitted, { s with pipeline }.putFlow id flow)

/-! ## Connection events -/

/-- The answers of the kernel during one handler call, and the worker steps that
fall before each submission. -/
structure HandlerIo where
  accepts : List AcceptAnswer := []
  recvs : List RecvResult := []
  sends : List SendResult := []
  workers : List (List WorkerAction) := []
  signals : List IoResult := []
  ctl : Option CtlFault := none

/-- The first half of `HandleConnectionEvent`: whether the connection is to be
removed after the error check and the read. -/
def readEvent (config : ServerConfig) (id : ConnectionId) (events : EventMask) (io : HandlerIo)
    (connection : Connection) (flow : ConnectionFlow) (s : Server) : Outcome Bool :=
  if !events.epollErr && events.readable && !flow.closeAfterFlush then
    let read := connection.readAvailable config.options.maxReadBytesPerEvent io.recvs
    let s := (s.putConnection id read.connection).logSocket id read.calls []
    match read.result with
    | .error error => .error error s
    | .ok result =>
        let (submitted, s) := submitWork config id result.messages io.workers s
        if result.status = .kProtocolError then .ok true s
        else if result.status = .kPeerClosed then
          match s.connectionFlows.lookup id.value with
          | some flow => .ok (!submitted) (s.putFlow id { flow with closeAfterFlush := true })
          | none => .ok (!submitted) s
        else .ok (!submitted) s
  else .ok events.epollErr s

/-- The second half: the write, unless the connection is to be removed anyway. -/
def writeEvent (config : ServerConfig) (id : ConnectionId) (events : EventMask) (io : HandlerIo)
    (shouldRemove : Bool) (s : Server) : Outcome Bool :=
  if !shouldRemove && events.epollOut then
    match s.connections.find id with
    | none => .ok shouldRemove s
    | some connection =>
        let write := connection.writeAvailable config.options.maxWriteBytesPerEvent io.sends
        let s := (s.putConnection id write.connection).logSocket id [] write.calls
        match write.result with
        | .error error => .error error s
        | .ok result => .ok (result.status = .kPeerClosed) s
  else .ok shouldRemove s

def handleConnectionEvent (config : ServerConfig) (id : ConnectionId) (events : EventMask)
    (io : HandlerIo) (s : Server) : Outcome Unit :=
  match s.connections.find id with
  | none => .ok () s
  | some connection =>
      match s.connectionFlows.lookup id.value with
      | none => removeConnection id io.ctl s
      | some flow =>
          match readEvent config id events io connection flow s with
          | .error error s => .error error s
          | .ok shouldRemove s =>
              match writeEvent config id events io shouldRemove s with
              | .error error s => .error error s
              | .ok true s => removeConnection id io.ctl s
              | .ok false s => settleConnection id io.ctl s

/-- `std::map::emplace`: an entry that is there already stays. -/
def emplace (responses : AList (fun _ : UInt64 => Message)) (sequence : UInt64)
    (response : Message) : AList (fun _ : UInt64 => Message) :=
  if sequence ∈ responses then responses else responses.insert sequence response

/-- The loop of `FlushReadyResponses`: whether every response it came to could
be queued. Each pass takes one response out of the map. -/
def releaseReady : ℕ → Connection → ConnectionFlow → Bool × Connection × ConnectionFlow
  | 0, connection, flow => (true, connection, flow)
  | fuel + 1, connection, flow =>
      match flow.completedResponses.lookup flow.nextResponseSequence with
      | none => (true, connection, flow)
      | some response =>
          match connection.queueOutput response with
          | (false, connection) => (false, connection, flow)
          | (true, connection) =>
              releaseReady fuel connection
                { flow with
                  nextResponseSequence := flow.nextResponseSequence + 1
                  completedResponses := flow.completedResponses.erase flow.nextResponseSequence }

def flushReadyResponses (id : ConnectionId) (connection : Connection) (flow : ConnectionFlow)
    (fault : Option CtlFault) (s : Server) : Outcome Unit :=
  match releaseReady (flow.completedResponses.keys.length + 1) connection flow with
  | (queued, connection, flow) =>
      let s := (s.putConnection id connection).putFlow id flow
      if !queued then removeConnection id fault s else settleConnection id fault s

def handleCompletedWork (result : WorkResult) (fault : Option CtlFault) (s : Server) :
    Outcome Unit :=
  match s.connections.find result.connectionId with
  | none => .ok () s
  | some connection =>
      match s.connectionFlows.lookup result.connectionId.value with
      | none => .ok () s
      | some flow =>
          let responses := emplace flow.completedResponses result.sequence result.response
          flushReadyResponses result.connectionId connection
            { flow with completedResponses := responses } fault s

/-- `sizeof(signalfd_siginfo)`. -/
def kSiginfoSize : ℕ := 128

/-- The loop of `HandleShutdownSignal`. -/
def readSignals : List IoResult → Server → Outcome Unit
  | [], s => .ok () s
  | .bytes count :: answers, s =>
      if count = kSiginfoSize then readSignals answers { s with stopRequested := true }
      else if count ≠ 0 then .error (.runtimeError "read(signalfd): short read") s
      else .ok () s
  | .failed error :: answers, s =>
      if error = .eintr then readSignals answers s
      else if isWouldBlock error then .ok () s
      else .error (.syscallError "read(signalfd)" error) s

/-- Without configured signals there is no signalfd to read. -/
def handleShutdownSignal (config : ServerConfig) (answers : List IoResult) (s : Server) :
    Outcome Unit :=
  readSignals (if config.options.shutdownSignals.isEmpty then [.failed .ebadf] else answers) s

/-- The loop of `CloseAllConnections`, for so many passes. -/
def closeConnections : ℕ → List (Option CtlFault) → Server → Outcome Unit
  | 0, _, s => .ok () s
  | passes + 1, faults, s =>
      match s.connectionFlows.entries with
      | [] => .ok () s
      | entry :: _ =>
          match removeConnection ⟨entry.1⟩ (faults.headD none) s with
          | .error error s => .error error s
          | .ok () s => closeConnections passes faults.tail s

def closeAllConnections (faults : List (Option CtlFault)) (s : Server) : Outcome Unit :=
  closeConnections s.connectionFlows.keys.length faults s

end Server

end PulseCore.Network
