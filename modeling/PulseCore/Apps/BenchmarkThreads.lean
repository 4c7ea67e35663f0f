/-
# The threads of the benchmark

The benchmark starts a thread for the server, makes room for the threads of the clients and
for their times, starts the clients, waits until all of them are ready, lets them go at once,
joins them, stops the server, and reports the times that they have written. The threads meet
in a counter, a flag, the first error, and the vector of the times. There is one way to lose
the process: a thread that cannot be started while others are running already.
-/

import PulseCore.Apps.BenchmarkClients

namespace PulseCore.Apps.Benchmark

open PulseCore.Foundation PulseCore.Core PulseCore.Protocol PulseCore.Network

/-- What the threads throw: `std::thread` a `std::system_error`, and a vector a
`std::length_error` or a `std::bad_alloc`. -/
inductive BenchmarkError
  | app (error : AppError)
  | network (exception : Exception)
  | systemError (error : Errno)
  | lengthError (what : String)
  | badAlloc
  deriving DecidableEq

/-- Where the thread of a client stands. -/
inductive ClientThread
  /-- In front of `ready_clients.fetch_add`. -/
  | starting
  /-- In the loop in front of `ConnectTcp`. -/
  | waiting
  | running
  /-- In front of `RecordFirstException`. -/
  | failing (error : BenchmarkError) (places : List UInt64)
  /-- With the error, if there was one, and the places it has written. -/
  | ended (error : Option BenchmarkError) (places : List UInt64)
  deriving DecidableEq

/-- Where `main` stands. -/
inductive MainThread
  /-- In front of `clients.reserve`. -/
  | reserving
  /-- In front of the constructor of `latencies_seconds`. -/
  | sizing
  | spawning
  /-- In the loop that waits for the clients to be ready. -/
  | waiting
  | joining (joined : ℕ)
  /-- In `StopAndJoin`. -/
  | stopping
  /-- In `~ServerThread`, on the way out with an exception. -/
  | unwinding (error : BenchmarkError)
  /-- It has reported the times, or an error. -/
  | exited (error : Option BenchmarkError)
  /-- A thread was destroyed that was not joined. -/
  | terminated
  deriving DecidableEq

structure Harness where
  main : MainThread
  clients : List ClientThread
  readyClients : ℕ
  start : Bool
  firstError : Option BenchmarkError
  stopRequested : Bool
  /-- How `Run` has ended in the thread of the server, once it has. -/
  server : Option (Option Exception)
  deriving DecidableEq

/-- What the kernel answers to a client: the exception of `ConnectTcp`, if any, and what
follows when there is none. -/
structure ClientIo where
  connect : Option Exception := none
  recvs : List RecvResult := []
  sends : List SendResult := []

/-- The thread that goes on. -/
inductive HarnessAction
  | main
  /-- `main` cannot start a thread. -/
  | spawnFails (error : Errno)
  /-- There is no memory for what `main` asks for. -/
  | memoryFails
  | client (index : ℕ) (io : ClientIo)
  /-- `Run` ends. -/
  | server (error : Option Exception)

def MainThread.isOver : MainThread → Bool
  | .exited _ => true
  | .terminated => true
  | _ => false

def ClientThread.hasEnded : ClientThread → Bool
  | .ended _ _ => true
  | _ => false

/-- Where `RunClient` leaves a client that has been let go. -/
def clientOutcome (config : BenchmarkConfig) (index : ℕ) (io : ClientIo) : ClientThread :=
  match io.connect with
  | some exception => .failing (.network exception) []
  | none =>
      match runClient (UInt64.ofNat index) config io.recvs io.sends with
      | .error error => .failing (.app error) []
      | .ok run =>
          match run.result with
          | .returned () => .ended none run.latencies
          | .threw exception => .failing (.network exception) run.latencies
          | .waiting => .running

namespace Harness

/-- `main` has constructed the server and started its thread. -/
def initial : Harness := ⟨.reserving, [], 0, false, none, false, none⟩

/-- `main` is left with an exception while no client runs; the server is stopped. -/
def unwind (error : BenchmarkError) (s : Harness) : Harness :=
  { s with main := .unwinding error, stopRequested := true }

/-- How long `latencies_seconds` shall be. -/
def latencyCount (config : BenchmarkConfig) : ℕ :=
  (config.clients * config.requestsPerClient).toNat

def mainStep (config : BenchmarkConfig) (s : Harness) : Harness :=
  match s.main with
  | .reserving =>
      if config.clients.toNat > kMaxVectorSize then s.unwind (.lengthError "vector::reserve")
      else { s with main := .sizing }
  | .sizing =>
      if latencyCount config > kMaxVectorSize then
        s.unwind (.lengthError "cannot create std::vector larger than max_size()")
      else { s with main := .spawning }
  | .spawning =>
      if s.clients.length < config.clients.toNat then
        { s with clients := s.clients ++ [.starting] }
      else { s with main := .waiting }
  | .waiting =>
      if s.readyClients < config.clients.toNat then s
      else { s with main := .joining 0, start := true }
  | .joining joined =>
      match s.clients[joined]? with
      | none => { s with main := .stopping, stopRequested := true }
      | some client => if client.hasEnded then { s with main := .joining (joined + 1) } else s
  | .stopping =>
      match s.server with
      | none => s
      | some (some exception) => { s with main := .exited (some (.network exception)) }
      | some none => { s with main := .exited s.firstError }
  | .unwinding error =>
      match s.server with
      | none => s
      | some _ => { s with main := .exited (some error) }
  | .exited _ => s
  | .terminated => s

/-- The vector of threads is destroyed on the way out, and the server is stopped when there
are none in it. -/
def spawnFailsStep (config : BenchmarkConfig) (error : BenchmarkError) (s : Harness) : Harness :=
  match s.main with
  | .spawning =>
      if s.clients.length < config.clients.toNat then
        if s.clients.isEmpty then s.unwind error else { s with main := .terminated }
      else s
  | _ => s

/-- A vector that is too long has thrown before it asks for memory. A thread needs some too. -/
def memoryFailsStep (config : BenchmarkConfig) (s : Harness) : Harness :=
  match s.main with
  | .reserving => if config.clients.toNat > kMaxVectorSize then s else s.unwind .badAlloc
  | .sizing => if latencyCount config > kMaxVectorSize then s else s.unwind .badAlloc
  | _ => s.spawnFailsStep config .badAlloc

def clientStep (config : BenchmarkConfig) (index : ℕ) (io : ClientIo) (s : Harness) : Harness :=
  match s.clients[index]? with
  | none => s
  | some .starting =>
      { s with
        clients := s.clients.set index .waiting
        readyClients := s.readyClients + 1 }
  | some .waiting => if s.start then { s with clients := s.clients.set index .running } else s
  | some .running => { s with clients := s.clients.set index (clientOutcome config index io) }
  | some (.failing error places) =>
      { s with
        clients := s.clients.set index (.ended (some error) places)
        firstError := if s.firstError = none then some error else s.firstError }
  | some (.ended _ _) => s

/-- `Run` throws, or returns when it was stopped. -/
def serverStep (error : Option Exception) (s : Harness) : Harness :=
  match s.server, error with
  | some _, _ => s
  | none, some exception => { s with server := some (some exception) }
  | none, none => if s.stopRequested then { s with server := some none } else s

def step (config : BenchmarkConfig) (s : Harness) (action : HarnessAction) : Harness :=
  if s.main.isOver then s
  else
    match action with
    | .main => s.mainStep config
    | .spawnFails error => s.spawnFailsStep config (.systemError error)
    | .memoryFails => s.memoryFailsStep config
    | .client index io => s.clientStep config index io
    | .server error => s.serverStep error

def run (config : BenchmarkConfig) (actions : List HarnessAction) : Harness :=
  actions.foldl (step config) initial

/-- A step that changes something. -/
def stepCost (config : BenchmarkConfig) (s : Harness) (action : HarnessAction) : ℕ :=
  if s.step config action = s then 0 else 1

/-! ## What a step can do -/

/-- What `main` can be left with while no client runs. -/
inductive StartError (config : BenchmarkConfig) : BenchmarkError → Prop
  | tooManyClients (hcount : kMaxVectorSize < config.clients.toNat) :
      StartError config (.lengthError "vector::reserve")
  | tooManyTimes (hcount : kMaxVectorSize < latencyCount config) :
      StartError config (.lengthError "cannot create std::vector larger than max_size()")
  | memory : StartError config .badAlloc
  | thread (error : Errno) : StartError config (.systemError error)

/-- Everything that changes the state, with what is known when it happens. -/
inductive Stepped (config : BenchmarkConfig) (s : Harness) : Harness → Prop
  | reserved (hmain : s.main = .reserving) : Stepped config s { s with main := .sizing }
  | sized (hmain : s.main = .sizing) : Stepped config s { s with main := .spawning }
  | noRoom {error : BenchmarkError} (hmain : s.main = .reserving ∨ s.main = .sizing)
      (herror : StartError config error) : Stepped config s (s.unwind error)
  | spawn (hmain : s.main = .spawning) (hroom : s.clients.length < config.clients.toNat) :
      Stepped config s { s with clients := s.clients ++ [.starting] }
  | spawned (hmain : s.main = .spawning) (hall : ¬ s.clients.length < config.clients.toNat) :
      Stepped config s { s with main := .waiting }
  | spawnFailed {error : BenchmarkError} (hmain : s.main = .spawning)
      (hroom : s.clients.length < config.clients.toNat) (hnone : s.clients = [])
      (herror : StartError config error) : Stepped config s (s.unwind error)
  | terminate (hmain : s.main = .spawning) (hroom : s.clients.length < config.clients.toNat)
      (hsome : s.clients ≠ []) : Stepped config s { s with main := .terminated }
  | release (hmain : s.main = .waiting) (hready : ¬ s.readyClients < config.clients.toNat) :
      Stepped config s { s with main := .joining 0, start := true }
  | join {joined : ℕ} {client : ClientThread} (hmain : s.main = .joining joined)
      (hclient : s.clients[joined]? = some client) (hended : client.hasEnded = true) :
      Stepped config s { s with main := .joining (joined + 1) }
  | joinedAll {joined : ℕ} (hmain : s.main = .joining joined)
      (hnone : s.clients[joined]? = none) :
      Stepped config s { s with main := .stopping, stopRequested := true }
  | exit {outcome : Option Exception} (hmain : s.main = .stopping)
      (hserver : s.server = some outcome) :
      Stepped config s { s with main := .exited ((outcome.map .network).or s.firstError) }
  | unwound {error : BenchmarkError} {outcome : Option Exception}
      (hmain : s.main = .unwinding error) (hserver : s.server = some outcome) :
      Stepped config s { s with main := .exited (some error) }
  | ready {index : ℕ} (hclient : s.clients[index]? = some .starting) :
      Stepped config s
        { s with
          clients := s.clients.set index .waiting
          readyClients := s.readyClients + 1 }
  | go {index : ℕ} (hclient : s.clients[index]? = some .waiting) (hstart : s.start = true) :
      Stepped config s { s with clients := s.clients.set index .running }
  | finish {index : ℕ} (hclient : s.clients[index]? = some .running) (io : ClientIo)
      (hdone : clientOutcome config index io ≠ .running) :
      Stepped config s { s with clients := s.clients.set index (clientOutcome config index io) }
  | record {index : ℕ} {error : BenchmarkError} {places : List UInt64}
      (hclient : s.clients[index]? = some (.failing error places)) :
      Stepped config s
        { s with
          clients := s.clients.set index (.ended (some error) places)
          firstError := if s.firstError = none then some error else s.firstError }
  | serve {outcome : Option Exception} (hserver : s.server = none)
      (hstopped : outcome = none → s.stopRequested = true) :
      Stepped config s { s with server := some outcome }

variable {config : BenchmarkConfig} {s s' : Harness}

theorem mainStep_cases (config : BenchmarkConfig) (s : Harness) :
    s.mainStep config = s ∨ Stepped config s (s.mainStep config) := by
  unfold mainStep
  split
  · next hmain =>
      split
      · next hcount => exact .inr (.noRoom (.inl hmain) (.tooManyClients hcount))
      · exact .inr (.reserved hmain)
  · next hmain =>
      split
      · next hcount => exact .inr (.noRoom (.inr hmain) (.tooManyTimes hcount))
      · exact .inr (.sized hmain)
  · next hmain =>
      split
      · next hroom => exact .inr (.spawn hmain hroom)
      · next hall => exact .inr (.spawned hmain hall)
  · next hmain =>
      split
      · exact .inl rfl
      · next hready => exact .inr (.release hmain hready)
  · next joined hmain =>
      split
      · next hnone => exact .inr (.joinedAll hmain hnone)
      · next client hclient =>
          split
          · next hended => exact .inr (.join hmain hclient hended)
          · exact .inl rfl
  · next hmain =>
      split
      · exact .inl rfl
      · next hserver => exact .inr (.exit hmain hserver)
      · next hserver => exact .inr (.exit hmain hserver)
  · next hmain =>
      split
      · exact .inl rfl
      · next hserver => exact .inr (.unwound hmain hserver)
  · exact .inl rfl
  · exact .inl rfl

theorem spawnFailsStep_cases {error : BenchmarkError} (herror : StartError config error)
    (s : Harness) :
    s.spawnFailsStep config error = s ∨ Stepped config s (s.spawnFailsStep config error) := by
  unfold spawnFailsStep
  split
  · next hmain =>
      split
      · next hroom =>
          split
          · next hempty =>
              exact .inr (.spawnFailed hmain hroom (List.isEmpty_iff.mp hempty) herror)
          · next hsome =>
              exact .inr (.terminate hmain hroom fun hnil => hsome (List.isEmpty_iff.mpr hnil))
      · exact .inl rfl
  · exact .inl rfl

theorem memoryFailsStep_cases (config : BenchmarkConfig) (s : Harness) :
    s.memoryFailsStep config = s ∨ Stepped config s (s.memoryFailsStep config) := by
  unfold memoryFailsStep
  split
  · next hmain =>
      split
      · exact .inl rfl
      · exact .inr (.noRoom (.inl hmain) .memory)
  · next hmain =>
      split
      · exact .inl rfl
      · exact .inr (.noRoom (.inr hmain) .memory)
  · exact spawnFailsStep_cases .memory s

theorem set_self {clients : List ClientThread} {index : ℕ} {client : ClientThread}
    (hclient : clients[index]? = some client) : clients.set index client = clients := by
  obtain ⟨hindex, rfl⟩ := List.getElem?_eq_some_iff.mp hclient
  exact List.set_getElem_self hindex

theorem clientStep_cases (config : BenchmarkConfig) (index : ℕ) (io : ClientIo) (s : Harness) :
    s.clientStep config index io = s ∨ Stepped config s (s.clientStep config index io) := by
  unfold clientStep
  split
  · exact .inl rfl
  · next hclient => exact .inr (.ready hclient)
  · next hclient =>
      split
      · next hstart => exact .inr (.go hclient hstart)
      · exact .inl rfl
  · next hclient =>
      by_cases hdone : clientOutcome config index io = .running
      · rw [hdone, set_self hclient]
        exact .inl rfl
      · exact .inr (.finish hclient io hdone)
  · next hclient => exact .inr (.record hclient)
  · exact .inl rfl

theorem serverStep_cases (error : Option Exception) (s : Harness) :
    s.serverStep error = s ∨ Stepped config s (s.serverStep error) := by
  unfold serverStep
  split
  · exact .inl rfl
  · next hserver => exact .inr (.serve hserver nofun)
  · next hserver =>
      split
      · next hstopped => exact .inr (.serve hserver fun _ => hstopped)
      · exact .inl rfl

theorem step_cases (config : BenchmarkConfig) (s : Harness) (action : HarnessAction) :
    s.step config action = s ∨
      (s.main.isOver = false ∧ Stepped config s (s.step config action)) := by
  unfold step
  split
  · exact .inl rfl
  next hover =>
  rw [Bool.not_eq_true] at hover
  have hcases : ∀ {s' : Harness}, s' = s ∨ Stepped config s s' →
      s' = s ∨ (s.main.isOver = false ∧ Stepped config s s') :=
    fun h => h.imp_right fun hstepped => ⟨hover, hstepped⟩
  cases action with
  | main => exact hcases (mainStep_cases config s)
  | spawnFails error => exact hcases (spawnFailsStep_cases (.thread error) s)
  | memoryFails => exact hcases (memoryFailsStep_cases config s)
  | client index io => exact hcases (clientStep_cases config index io s)
  | server error => exact hcases (serverStep_cases error s)

end Harness

end PulseCore.Apps.Benchmark
