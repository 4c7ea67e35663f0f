/-
# Construction and destruction

The constructor of the server opens descriptors, blocks signals, starts threads and fills
the epoll instance, and each of these calls can fail. What it has done by then is undone
by the destructors of the members, the last one first: descriptors are closed, the signal
mask is put back, and the worker pool, which would terminate the process if a thread of it
were still running, joins its threads before it passes the exception on.

The process is seen here from the thread that constructs the server: the descriptors that
are open, the signals that the thread blocks, and the other threads, each with the mask it
has inherited. How every call ends is up to the kernel; the memory for the threads of the
worker pool is asked for like anything else.
-/

import PulseCore.Common.UniqueFd
import PulseCore.Foundation.Scoped
import PulseCore.Network.Reachable
import Mathlib.Data.Finset.Lattice.Lemmas

namespace PulseCore.Network

open PulseCore.Foundation PulseCore.Common

abbrev SignalSet := Finset ℕ

structure Thread where
  id : ℕ
  mask : SignalSet
  deriving DecidableEq

/-- How a call ends. When it opens a descriptor, the number is the one the kernel would like
to give out. -/
inductive KernelAnswer
  | failed (error : Errno)
  | succeeded (wish : ℕ)

structure Process where
  descriptors : List Fd
  /-- The signals that the constructing thread blocks. -/
  mask : SignalSet
  /-- The other threads. -/
  threads : List Thread
  /-- A descriptor was closed that was not open, or a thread was destroyed that was not
  joined. -/
  misused : Bool
  /-- The port that the kernel picks for a socket that asks for none. -/
  ephemeralPort : UInt16
  /-- How the calls to come end. When there is nothing more, they succeed. -/
  answers : List KernelAnswer

abbrev Call := EStateM ConstructionError Process

abbrev Construction := Scoped ConstructionError Process

namespace Process

/-- A call that fails with an error, or does this. -/
def attempt {α : Type} (failure : Errno → ConstructionError)
    (success : ℕ → Process → α × Process) : Call α := fun p =>
  match p.answers with
  | .failed error :: answers => .error (failure error) { p with answers }
  | .succeeded wish :: answers =>
      let (value, p) := success wish { p with answers }
      .ok value p
  | [] =>
      let (value, p) := success 0 p
      .ok value p

/-- A call that is followed by `ThrowLastError` when it fails. -/
def attemptOrThrow {α : Type} (operation : String) (success : ℕ → Process → α × Process) :
    Call α :=
  attempt (fun error => .exception (.syscallError operation error)) success

/-- A call without an effect on the process. -/
def check (operation : String) : Construction Unit :=
  .call (attemptOrThrow operation fun _ p => ((), p))

def freshFd (p : Process) (wish : ℕ) : Fd := freshAmong p.descriptors wish

def close (p : Process) (fd : Fd) : Process :=
  if fd ∈ p.descriptors then { p with descriptors := p.descriptors.erase fd }
  else { p with misused := true }

/-- `~UniqueFd`. -/
def destroyFd (u : UniqueFd) (p : Process) : Process :=
  match (u.reset UniqueFd.kInvalidFd).1 with
  | some fd => p.close fd
  | none => p

/-- A call that opens a descriptor. -/
def openFd (operation : String) : Construction UniqueFd :=
  .owned (attemptOrThrow operation fun wish p =>
    (⟨p.freshFd wish⟩, { p with descriptors := p.freshFd wish :: p.descriptors })) destroyFd

def freshThreadId (p : Process) : ℕ := (p.threads.map Thread.id).foldr max 0 + 1

/-- The constructor of `std::thread`. The new thread inherits the mask. -/
def startThread : Call Thread :=
  attempt .systemError fun _ p =>
    (⟨p.freshThreadId, p.mask⟩,
      { p with threads := ⟨p.freshThreadId, p.mask⟩ :: p.threads })

/-- `join` returns when the thread is gone. -/
def join (p : Process) (thread : Thread) : Process :=
  { p with threads := p.threads.erase thread }

end Process

def buildSignalSet (signals : List ℕ) : Construction SignalSet := do
  Process.check "sigemptyset"
  signals.foldlM (fun signalSet signal => do
    Process.check "sigaddset"
    return insert signal signalSet) ∅

structure ShutdownSignalMaskState where
  previousMask : SignalSet
  active : Bool

namespace ShutdownSignalMaskState

/-- `Restore`, with the object it leaves. -/
def restore (state : ShutdownSignalMaskState) (p : Process) :
    ShutdownSignalMaskState × Process :=
  if state.active then ({ state with active := false }, { p with mask := state.previousMask })
  else (state, p)

/-- `~ShutdownSignalMaskState`. -/
def destroy (state : ShutdownSignalMaskState) (p : Process) : Process := (state.restore p).2

end ShutdownSignalMaskState

def blockShutdownSignals (signals : List ℕ) : Construction ShutdownSignalMaskState :=
  if signals.isEmpty then .owned (pure ⟨∅, false⟩) ShutdownSignalMaskState.destroy
  else do
    let signalSet ← buildSignalSet signals
    .owned (Process.attemptOrThrow "pthread_sigmask(SIG_BLOCK)" fun _ p =>
      (⟨p.mask, true⟩, { p with mask := p.mask ∪ signalSet })) ShutdownSignalMaskState.destroy

/-- The four calls of `CreateListener`. -/
def createListener : Construction UniqueFd := do
  let listener ← Process.openFd "socket"
  Process.check "setsockopt(SO_REUSEADDR)"
  Process.check "bind"
  Process.check "listen"
  return listener

def createEpoll : Construction UniqueFd := Process.openFd "epoll_create1"

def createWorkerWakeup : Construction UniqueFd := Process.openFd "eventfd"

def createShutdownSignalFd (signals : List ℕ) : Construction UniqueFd :=
  if signals.isEmpty then return ⟨UniqueFd.kInvalidFd⟩
  else do
    let _ ← buildSignalSet signals
    Process.openFd "signalfd"

/-- The port a listener on this one is bound to. -/
def boundPort (port : UInt16) : Construction UInt16 :=
  .call (Process.attemptOrThrow "getsockname" fun _ p =>
    (if port = 0 then p.ephemeralPort else port, p))

/-- The objects in `workers_`; one that was joined is no longer joinable. -/
abbrev Workers := List (Option Thread)

namespace Workers

/-- `WorkerPool::Stop`, as far as the threads are concerned. -/
def stop : Workers → Process → Workers × Process
  | [], p => ([], p)
  | none :: workers, p =>
      let (workers, p) := stop workers p
      (none :: workers, p)
  | some thread :: workers, p =>
      let (workers, p) := stop workers (p.join thread)
      (none :: workers, p)

/-- The destructor of `workers_`: a thread that is joinable terminates the process. -/
def destroy (workers : Workers) (p : Process) : Process :=
  if workers.any Option.isSome then { p with misused := true } else p

/-- The constructor of `WorkerPool` asks for a handler. -/
def requireHandler (handlerSet : Bool) : Construction Unit :=
  .call fun p =>
    if handlerSet then .ok () p
    else .error (.exception (.invalidArgument "worker handler must be set")) p

/-- `workers_.reserve`. -/
def reserve (count : ℕ) : Construction Unit :=
  .call fun p =>
    if count > kMaxVectorSize then .error (.lengthError "vector::reserve") p
    else Process.attempt (fun _ => .badAlloc) (fun _ p => ((), p)) p

/-- The loop in the constructor of `WorkerPool`. When a thread cannot be started, the
others are joined, and the exception is thrown again. -/
def start : ℕ → Workers → Call Workers
  | 0, workers => pure workers
  | count + 1, workers => fun p =>
      match Process.startThread p with
      | .ok thread p => start count (workers ++ [some thread]) p
      | .error exception p =>
          let (workers, p) := workers.stop p
          .error exception (workers.destroy p)

/-- `~WorkerPool`. -/
def destroyPool (workers : Workers) (p : Process) : Process :=
  let (workers, p) := workers.stop p
  workers.destroy p

end Workers

/-! ## The server -/

/-- The members of the server that hold something, and what the epoll instance holds. -/
structure Members where
  listener : UniqueFd
  epoll : UniqueFd
  signalMaskState : ShutdownSignalMaskState
  workerWakeup : UniqueFd
  shutdownSignal : UniqueFd
  config : ServerConfig
  workers : Workers
  port : UInt16
  interest : AList (fun _ : Fd => EpollEvent)

namespace Members

def addToEpoll (operation : String) (fd : UniqueFd) (event : EpollEvent) (s : Members) :
    Construction Members := do
  Process.check operation
  return { s with interest := s.interest.insert fd.fd event }

def addListenerToEpoll (s : Members) : Construction Members :=
  s.addToEpoll "epoll_ctl(ADD listener)" s.listener listenerEvent

def addWorkerWakeupToEpoll (s : Members) : Construction Members :=
  s.addToEpoll "epoll_ctl(ADD worker wakeup)" s.workerWakeup workerWakeupEvent

def addShutdownSignalToEpoll (s : Members) : Construction Members :=
  if s.shutdownSignal.fd = UniqueFd.kInvalidFd then return s
  else s.addToEpoll "epoll_ctl(ADD shutdown signal)" s.shutdownSignal shutdownSignalEvent

/-- `RequireConnectionLimits`, `RequirePositiveBudget` and the checks of the sizes of the
pool. -/
def requireOptions (options : EpollEchoServerOptions) : Construction ServerConfig :=
  .call fun p =>
    match ServerConfig.create options with
    | .ok config => .ok config p
    | .error exception => .error (.exception exception) p

/-- The member initialisers of the constructor, in the order of declaration. That the
handler is set means that it is not an empty `std::function`. -/
def initialise (options : EpollEchoServerOptions) (handlerSet : Bool) :
    Construction Members := do
  let listener ← createListener
  let epoll ← createEpoll
  let signalMaskState ← blockShutdownSignals options.shutdownSignals
  let workerWakeup ← createWorkerWakeup
  let shutdownSignal ← createShutdownSignalFd options.shutdownSignals
  let config ← requireOptions options
  Workers.requireHandler handlerSet
  Workers.reserve options.workerCount
  let workers ← .owned (Workers.start options.workerCount []) Workers.destroyPool
  return ⟨listener, epoll, signalMaskState, workerWakeup, shutdownSignal, config, workers, 0, ∅⟩

/-- The constructor. -/
def construct (port : UInt16) (options : EpollEchoServerOptions) (handlerSet : Bool) :
    Construction Members := do
  let s ← initialise options handlerSet
  let port ← boundPort port
  let s ← addListenerToEpoll { s with port }
  let s ← s.addWorkerWakeupToEpoll
  s.addShutdownSignalToEpoll

/-- `~EpollEchoServer`: its body, and the members, the last one first. `Stop` concerns
nothing but the server itself. -/
def destroy (s : Members) (p : Process) : Process :=
  let (workers, p) := s.workers.stop p
  let (signalMaskState, p) := s.signalMaskState.restore p
  let p := workers.destroyPool p
  let p := Process.destroyFd s.shutdownSignal p
  let p := Process.destroyFd s.workerWakeup p
  let p := signalMaskState.destroy p
  let p := Process.destroyFd s.epoll p
  Process.destroyFd s.listener p

end Members

end PulseCore.Network
