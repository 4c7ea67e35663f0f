/-
# Running the server

A run interleaves atomic steps of three kinds of thread: the reactor in `Run`,
the workers, and whoever calls `Stop`. One reactor step is one call of
`epoll_wait`, one iteration of the dispatch loop, one `read` of the eventfd, the
swap of the completed work, or one call of `HandleCompletedWork`. The script of a
run is a list of actions; an action that cannot be taken in the current state
changes nothing, so every list is a run and every run is a list.

`epoll_wait` reports events of descriptors in the interest set only, with bits
that were asked for or that are always reported; the eventfd is reported while
its counter is positive. Which of the possible events it reports, and in which
order, is up to the script.
-/

import PulseCore.Network.EpollEchoServer
import Mathlib.Data.List.Induction

namespace PulseCore.Network

open PulseCore.Core

/-- What `Run` does with the key of an event. -/
inductive Target
  | listener
  | workerWakeup
  | shutdownSignal
  | connection (id : ConnectionId)
  deriving DecidableEq

/-- The dispatch of `Run` on `data.u64`. -/
def route (key : UInt64) : Target :=
  if key = kListenerKey then .listener
  else if key = kWorkerWakeupKey then .workerWakeup
  else if key = kShutdownSignalKey then .shutdownSignal
  else .connection ⟨key⟩

/-- An answer of `epoll_wait`. -/
inductive WaitAnswer
  | ready (events : List EpollEvent)
  | failed (error : Errno)

/-- The bits `reported` may come from an entry registered with `registered`. -/
def EventMask.reportable (registered reported : EventMask) : Bool :=
  (!reported.epollIn || registered.epollIn) &&
    (!reported.epollRdHup || registered.epollRdHup) &&
    (!reported.epollOut || registered.epollOut)

/-- An atomic step of some thread. -/
inductive Action
  /-- A step of a worker thread. -/
  | worker (action : WorkerAction)
  /-- `Stop` stores the flag. -/
  | requestStop
  /-- `Stop` writes the eventfd. -/
  | notifyStop (interrupted : Bool)
  /-- The destructor stops the worker pool. -/
  | stopPool
  /-- The reactor calls `epoll_wait`. -/
  | wait (answer : WaitAnswer)
  /-- The reactor takes the next reported event, or finds that there is none. -/
  | dispatch (io : Server.HandlerIo)
  /-- The reactor reads the eventfd. -/
  | readWakeup (interrupted : Bool)
  /-- The reactor swaps out the completed work. -/
  | swapCompleted
  /-- The reactor handles the next result of the batch, or finds that there is none. -/
  | complete (fault : Option CtlFault)
  /-- The reactor leaves its loop and closes all connections. -/
  | close (faults : List (Option CtlFault))

namespace Server

/-- `epoll_wait` may report the event. -/
def reports (s : Server) (event : EpollEvent) : Bool :=
  (s.epoll.entries.any fun entry =>
    entry.2.key = event.key && entry.2.events.reportable event.events) &&
  (event.key ≠ kWorkerWakeupKey || 0 < s.pipeline.workerWakeup.counter)

/-- An event that is registered and asked for may be reported. -/
theorem reports_of_lookup {s : Server} {fd : Fd} {event reported : EpollEvent}
    (hlookup : s.epoll.lookup fd = some event) (hkey : event.key = reported.key)
    (hbits : event.events.reportable reported.events = true)
    (hready : reported.key ≠ kWorkerWakeupKey ∨ 0 < s.pipeline.workerWakeup.counter) :
    s.reports reported = true := by
  have hentry := AList.mem_lookup_iff.mp hlookup
  rw [reports, Bool.and_eq_true, Bool.or_eq_true]
  refine ⟨List.any_eq_true.mpr ⟨_, hentry, ?_⟩, hready.imp decide_eq_true decide_eq_true⟩
  rw [Bool.and_eq_true]
  exact ⟨decide_eq_true hkey, hbits⟩

/-- The reactor goes on behind a call that returned; an exception leaves `Run`. -/
def proceed (next : Phase) : Outcome Unit → Server
  | .ok () s => { s with phase := next }
  | .error error s => { s with phase := .failed error }

/-- One iteration of the dispatch loop. `HandleWorkerWakeup` is not one atomic
step and is entered only. -/
def dispatchEvent (config : ServerConfig) (event : EpollEvent) (rest : List EpollEvent)
    (io : HandlerIo) (s : Server) : Server :=
  match route event.key with
  | .listener => proceed (.dispatching rest) (handleListenerEvent config io.accepts s)
  | .workerWakeup => { s with phase := .draining rest }
  | .shutdownSignal => proceed (.dispatching rest) (handleShutdownSignal config io.signals s)
  | .connection id =>
      proceed (.dispatching rest) (handleConnectionEvent config id event.events io s)

/-- What the loop in `HandleWorkerWakeup` does behind a read: go round (`none`),
leave the loop, or throw. -/
def wakeupRead : IoResult → Option (Except Exception Unit)
  | .bytes count =>
      if count = 8 then none
      else if count ≠ 0 then some (.error (.runtimeError "read(eventfd): short read"))
      else some (.ok ())
  | .failed error =>
      if error = .eintr then none
      else if isWouldBlock error then some (.ok ())
      else some (.error (.syscallError "read(eventfd)" error))

/-- One atomic step. -/
def step (config : ServerConfig) (s : Server) : Action → Server
  | .worker action =>
      { s with pipeline := s.pipeline.work config.options.handler action }
  | .requestStop => { s with stopRequested := true }
  | .notifyStop interrupted =>
      { s with
        pipeline :=
          { s.pipeline with workerWakeup := (s.pipeline.workerWakeup.write interrupted).2 } }
  | .stopPool => { s with pipeline := s.pipeline.stop }
  | .wait answer =>
      match s.phase with
      | .polling =>
          if s.stopRequested then s
          else
            match answer with
            | .ready events =>
                { s with
                  phase := .dispatching ((events.filter s.reports).take kMaxEpollEvents) }
            | .failed error =>
                if error = .eintr then s
                else { s with phase := .failed (.syscallError "epoll_wait" error) }
      | _ => s
  | .dispatch io =>
      match s.phase with
      | .dispatching [] => { s with phase := .polling }
      | .dispatching (event :: rest) =>
          if s.stopRequested then { s with phase := .polling }
          else dispatchEvent config event rest io s
      | _ => s
  | .readWakeup interrupted =>
      match s.phase with
      | .draining rest =>
          let (answer, workerWakeup) := s.pipeline.workerWakeup.read interrupted
          let s := { s with pipeline := { s.pipeline with workerWakeup } }
          match wakeupRead answer with
          | none => s
          | some (.ok ()) => { s with phase := .swapping rest }
          | some (.error error) => { s with phase := .failed error }
      | _ => s
  | .swapCompleted =>
      match s.phase with
      | .swapping rest =>
          { s with
            pipeline := { s.pipeline with completedWork := [] }
            phase := .handling s.pipeline.completedWork rest }
      | _ => s
  | .complete fault =>
      match s.phase with
      | .handling [] rest => { s with phase := .dispatching rest }
      | .handling (result :: batch) rest =>
          proceed (.handling batch rest) (handleCompletedWork result fault s)
      | _ => s
  | .close faults =>
      match s.phase with
      | .polling =>
          if s.stopRequested then proceed .finished (closeAllConnections faults s) else s
      | _ => s

/-! ## The initial state and runs -/

/-- The members as the constructor initialises them. -/
def constructed (config : ServerConfig) (descriptors : Descriptors) : Server where
  descriptors
  connections := .create config.options.connectionLimits
  connectionFlows := ∅
  epoll := ∅
  pipeline :=
    { queue := ⟨config.options.workQueueCapacity, [], false, Nat.zero_le _⟩
      workers := List.replicate config.options.workerCount .idle
      completedWork := []
      workerWakeup := .create
      accepted := [] }
  stopRequested := false
  phase := .polling
  sockets := fun _ => {}
  ctlCalls := []
  acceptErrors := []
  drained := []

def addListenerToEpoll (s : Server) : Server :=
  (s.epollCtl .add s.descriptors.listener listenerEvent none).2

def addWorkerWakeupToEpoll (s : Server) : Server :=
  (s.epollCtl .add s.descriptors.workerWakeup workerWakeupEvent none).2

def addShutdownSignalToEpoll (config : ServerConfig) (s : Server) : Server :=
  if config.options.shutdownSignals.isEmpty then s
  else (s.epollCtl .add s.descriptors.shutdownSignal shutdownSignalEvent none).2

/-- The server when its constructor has returned. -/
def start (config : ServerConfig) (descriptors : Descriptors) : Server :=
  addShutdownSignalToEpoll config
    (addWorkerWakeupToEpoll (addListenerToEpoll (constructed config descriptors)))

/-- The server after a run. -/
def run (config : ServerConfig) (descriptors : Descriptors) (actions : List Action) : Server :=
  actions.foldl (step config) (start config descriptors)

@[simp]
theorem run_nil (config : ServerConfig) (descriptors : Descriptors) :
    run config descriptors [] = start config descriptors := rfl

theorem run_append (config : ServerConfig) (descriptors : Descriptors)
    (before later : List Action) :
    run config descriptors (before ++ later) =
      later.foldl (step config) (run config descriptors before) := List.foldl_append

@[simp]
theorem run_append_singleton (config : ServerConfig) (descriptors : Descriptors)
    (actions : List Action) (action : Action) :
    run config descriptors (actions ++ [action]) =
      step config (run config descriptors actions) action := run_append ..

/-- A property of states that holds at the start and survives every step holds
after every run. -/
theorem run_induction {config : ServerConfig} {descriptors : Descriptors}
    {motive : Server → Prop} (hstart : motive (start config descriptors))
    (hstep : ∀ s action, motive s → motive (step config s action)) (actions : List Action) :
    motive (run config descriptors actions) := by
  induction actions using List.reverseRecOn with
  | nil => exact hstart
  | append_singleton actions action ih =>
      rw [run_append_singleton]
      exact hstep _ _ ih

/-! ## Sample runs

One client sends one echo request, reads a part of the response, closes its side
and reads the rest. Two clients send two requests each, those of the first at once, and
the work overtakes itself. Statements about runs are tried on them. -/

namespace Sample

def config : ServerConfig :=
  ⟨{}, by decide, by decide, by decide, by decide, by decide, by decide, by decide, by decide⟩

def descriptors : Descriptors := ⟨3, 4, 5, 6, by decide⟩

def request : List Protocol.Byte :=
  (Protocol.encodeMessage ⟨.kEchoRequest, 7, [1, 2, 3]⟩).getD []

/-- The client is accepted and its request is submitted. -/
def arrival : List Action :=
  [.wait (.ready [listenerEvent]), .dispatch { accepts := [.client { fd := 7 }] }, .dispatch {},
    .wait (.ready [⟨{ epollIn := true }, 1⟩]), .dispatch { recvs := [.received request] },
    .dispatch {}]

/-- A worker publishes the response, and the first five bytes of it are sent. -/
def answer : List Action :=
  arrival ++
    [.worker (.pop 0), .worker (.finish 0), .worker (.notify 0 false),
      .wait (.ready [workerWakeupEvent]), .dispatch {}, .readWakeup false, .readWakeup false,
      .swapCompleted, .complete none, .complete none, .dispatch {},
      .wait (.ready [⟨{ epollOut := true }, 1⟩]), .dispatch { sends := [.sent 5] }, .dispatch {}]

/-- The client closes its side, and the rest of the response is sent. -/
def farewell : List Action :=
  answer ++
    [.wait (.ready [⟨{ epollIn := true }, 1⟩]), .dispatch { recvs := [.received []] },
      .dispatch {}, .wait (.ready [⟨{ epollOut := true }, 1⟩]),
      .dispatch { sends := [.sent 100] }, .dispatch {}]

/-- Another request, behind the first one. -/
def pipelined : List Protocol.Byte :=
  request ++ (Protocol.encodeMessage ⟨.kEchoRequest, 8, [4]⟩).getD []

/-- The server reads something from a connection. -/
def arriving (key : UInt64) (bytes : List Protocol.Byte) : List Action :=
  [.wait (.ready [⟨{ epollIn := true }, key⟩]), .dispatch { recvs := [.received bytes] },
    .dispatch {}]

/-- It writes so many bytes to one. -/
def leaving (key : UInt64) (count : ℕ) : List Action :=
  [.wait (.ready [⟨{ epollOut := true }, key⟩]), .dispatch { sends := [.sent count] },
    .dispatch {}]

/-- A worker takes an item, and is through with it. -/
def working (worker : ℕ) : List Action :=
  [.worker (.pop worker), .worker (.finish worker), .worker (.notify worker false)]

/-- The reactor is woken up and handles so many results. -/
def wakeup (results : ℕ) : List Action :=
  [.wait (.ready [workerWakeupEvent]), .dispatch {}, .readWakeup false, .readWakeup false,
    .swapCompleted] ++ List.replicate (results + 1) (.complete none) ++ [.dispatch {}]

/-- Two clients are accepted. The first sends two requests at once, and a worker is
through with the second of them while the other has still the first. -/
def overtaken : List Action :=
  [.wait (.ready [listenerEvent]),
    .dispatch { accepts := [.client { fd := 7 }, .client { fd := 8 }] }, .dispatch {}] ++
  arriving 1 pipelined ++ arriving 2 request ++ [.worker (.pop 0)] ++ working 1 ++ wakeup 1

/-- The first client closes its side in the meantime. -/
def halfClosed : List Action := overtaken ++ arriving 1 []

/-- The second client sends another request; then the workers are through with everything,
and a part of what the first client gets is sent. -/
def caughtUp : List Action :=
  overtaken ++ arriving 2 request ++ working 1 ++ working 1 ++
  [.worker (.finish 0), .worker (.notify 0 false)] ++ wakeup 3 ++ leaving 1 30

/-- One worker, and small budgets. -/
def narrow : ServerConfig :=
  ⟨{ workerCount := 1, maxReadBytesPerEvent := 20, maxWriteBytesPerEvent := 16 }, by decide,
    by decide, by decide, by decide, by decide, by decide, by decide, by decide⟩

/-- One client sends what the first of the two has sent, in pieces, and is answered request
by request. -/
def patient : List Action :=
  [.wait (.ready [listenerEvent]), .dispatch { accepts := [.client { fd := 9 }] },
    .dispatch {}] ++
  arriving 1 (pipelined.take 20) ++ arriving 1 ((pipelined.drop 20).take 20) ++ working 0 ++
  wakeup 1 ++ leaving 1 16 ++ arriving 1 (pipelined.drop 40) ++ working 0 ++ wakeup 1

end Sample

end Server

end PulseCore.Network
