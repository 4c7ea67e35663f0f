/-
# A client with too many requests

The two sequence numbers of a connection are 64-bit counters, and `>=` compares them
as numbers. When the request counter has wrapped around and the response counter has
not, a connection with a request in flight looks as if it had none. If its client has
closed its side by then, the connection is removed and the response is lost.

The client of this module repeats one request, waits for each response, and closes its
side together with its last request. It is well behaved all the time, and so is
everything around it. It is served to the end unless the number of its requests is a
multiple of the number of sequence numbers.
-/

import PulseCore.Traffic.Turns

namespace PulseCore.Network

open PulseCore.Foundation PulseCore.Core PulseCore.Protocol PulseCore.Traffic
open Server (run)
open Client.Sample (client message response)

namespace Wraparound

/-- The request of the client is read and submitted. -/
def asking : List Action :=
  [.wait (.ready [⟨{ epollIn := true }, 1⟩]),
    .dispatch { recvs := [.received Server.Sample.request] }, .dispatch {}]

/-- A worker answers it. -/
def working : List Action := [.worker (.pop 0), .worker (.finish 0), .worker (.notify 0 false)]

/-- The result is handled. -/
def completing : List Action :=
  [.wait (.ready [workerWakeupEvent]), .dispatch {}, .readWakeup false, .readWakeup false,
    .swapCompleted, .complete none, .complete none, .dispatch {}]

/-- The response is sent. -/
def answering : List Action :=
  [.wait (.ready [⟨{ epollOut := true }, 1⟩]), .dispatch { sends := [.sent 100] }, .dispatch {}]

/-- The last request is read together with the end of the input. -/
def ending : Server.HandlerIo := { recvs := [.received Server.Sample.request, .received []] }

def parting : List Action := [.wait (.ready [⟨{ epollIn := true }, 1⟩]), .dispatch ending]

/-- That many requests are answered one by one. -/
def exchanges : ℕ → List Turn
  | 0 => []
  | n + 1 =>
      exchanges n ++
        (asking ++ working ++ completing ++ answering).map (Turn.mk (client n false))

/-- So many requests are answered, and with one more the client closes its side. -/
def turns (n : ℕ) : List Turn := exchanges n ++ parting.map (Turn.mk (client n true))

/-- What the reactor and the workers share. -/
structure Stock where
  items : List WorkItem := []
  workers : List Worker := [.idle, .idle]
  completed : List WorkResult := []
  counter : ℕ := 0

/-- What matters about the server and the socket of the client. -/
structure Scene where
  phase : Phase := .polling
  connection : Connection
  flow : ConnectionFlow
  writes : Bool := false
  stock : Stock := {}
  /-- The requests that were received. -/
  received : ℕ
  /-- The responses that were sent. -/
  sent : ℕ
  /-- The end of the input was reported. -/
  ended : Bool := false

structure Stocks (p : Pipeline) (stock : Stock) : Prop where
  accepting : p.queue.closed = false
  capacity : p.queue.capacity = 1024
  items : p.queue.items = stock.items
  workers : p.workers = stock.workers
  completed : p.completedWork = stock.completed
  counter : p.workerWakeup.counter = stock.counter

/-- So many requests were received and so many responses were sent, without an error. -/
structure Wired (socket : Socket) (received sent : ℕ) (ended : Bool) : Prop where
  received : socket.received = (List.replicate received Server.Sample.request).flatten
  sent : socket.sent = (List.replicate sent response).flatten
  errnos : ∀ error ∈ socket.errnos, error = .eintr ∨ isWouldBlock error = true
  ended : socket.peerClosed = ended

structure Shows (s : Server) (scene : Scene) : Prop where
  phase : s.phase = scene.phase
  running : s.stopRequested = false
  live : s.live ⟨1⟩ = some (scene.connection, scene.flow)
  pipeline : Stocks s.pipeline scene.stock
  wakeup : s.epoll.lookup 5 = some workerWakeupEvent
  registered : s.epoll.lookup 7 = some (connectionEvent ⟨1⟩ true scene.writes)
  socket : Wired (s.sockets 1) scene.received scene.sent scene.ended

variable {s s' : Server} {scene scene' : Scene} {n : ℕ} {closed : Bool} {action : Action}
  {first second : List Action} {event : EpollEvent} {io : Server.HandlerIo}

theorem Shows.enter (h : Shows s scene) (phase : Phase) :
    Shows { s with phase } { scene with phase } :=
  ⟨rfl, h.running, h.live, h.pipeline, h.wakeup, h.registered, h.socket⟩

theorem Shows.putConnection (h : Shows s scene) (connection : Connection) :
    Shows (s.putConnection ⟨1⟩ connection) { scene with connection } :=
  { h with live := (Server.wrote_putConnection h.live connection).live_self }

theorem Shows.putFlow (h : Shows s scene) (flow : ConnectionFlow) :
    Shows (s.putFlow ⟨1⟩ flow) { scene with flow } :=
  { h with live := (Server.wrote_putFlow h.live flow).live_self }

theorem Shows.putPipeline (h : Shows s scene) {pipeline : Pipeline} {stock : Stock}
    (hpipeline : Stocks pipeline stock) : Shows { s with pipeline } { scene with stock } :=
  { h with pipeline := hpipeline }

/-- Requests were received or responses were sent, without an error. -/
theorem Shows.logSocket (h : Shows s scene) (hunended : scene.ended = false)
    {recvCalls : List RecvCall} {sendCalls : List SendCall} {received sent : ℕ}
    (hreceived : receivedBytes recvCalls =
      (List.replicate received Server.Sample.request).flatten)
    (hsent : sentBytes sendCalls = (List.replicate sent response).flatten)
    (herrnos : ∀ error ∈ recvCalls.filterMap RecvCall.errno ++
      sendCalls.filterMap SendCall.errno, error = .eintr ∨ isWouldBlock error = true) :
    Shows (s.logSocket ⟨1⟩ recvCalls sendCalls)
      { scene with
        received := scene.received + received
        sent := scene.sent + sent
        ended := recvCalls.any RecvCall.isEnd } := by
  have hbefore : (s.sockets 1).recvCalls.any RecvCall.isEnd = false :=
    h.socket.ended.trans hunended
  have hsocket : (s.logSocket ⟨1⟩ recvCalls sendCalls).sockets 1 =
      ⟨(s.sockets 1).recvCalls ++ recvCalls, (s.sockets 1).sendCalls ++ sendCalls⟩ := by
    simp only [Server.logSocket, Function.update_self]
  refine { h with socket := ⟨?_, ?_, ?_, ?_⟩ }
  · rw [hsocket, List.replicate_add, List.flatten_append, ← h.socket.received, ← hreceived]
    exact receivedBytes_append _ _
  · rw [hsocket, List.replicate_add, List.flatten_append, ← h.socket.sent, ← hsent]
    exact sentBytes_append _ _
  · intro error hmem
    rw [hsocket] at hmem
    simp only [Socket.errnos, List.filterMap_append, List.mem_append] at hmem
    rcases hmem with (hold | hnew) | (hold | hnew)
    · exact h.socket.errnos error (List.mem_append_left _ hold)
    · exact herrnos error (List.mem_append_left _ hnew)
    · exact h.socket.errnos error (List.mem_append_right _ hold)
    · exact herrnos error (List.mem_append_right _ hnew)
  · rw [hsocket, Socket.peerClosed, List.any_append, hbefore, Bool.false_or]

theorem mem_of_lookup {fd : Fd} {epoll : AList (fun _ : Fd => EpollEvent)}
    (hlookup : epoll.lookup fd = some event) : fd ∈ epoll := by
  rw [← AList.lookup_isSome, hlookup]
  rfl

/-- The interest of an open connection is brought up to date. -/
theorem Shows.settle (h : Shows s scene) (hid : scene.connection.id = ⟨1⟩)
    (hfd : scene.connection.fd = 7) (hopen : scene.flow.closeAfterFlush = false)
    (hregistered : scene.flow.registeredWithEpoll = true) :
    ∃ s', Server.settleConnection ⟨1⟩ none s = .ok () s' ∧
      Shows s' { scene with writes := scene.connection.hasPendingOutput } := by
  obtain ⟨hfind, hlookup⟩ := Server.live_eq_some_iff.mp h.live
  have hpresent : decide ((7 : Fd) ∈ s.epoll) = true := decide_eq_true (mem_of_lookup h.registered)
  refine ⟨{ s with
    ctlCalls := s.ctlCalls ++ [⟨.mod, 7, true⟩]
    epoll := s.epoll.insert 7 (connectionEvent ⟨1⟩ true scene.connection.hasPendingOutput) },
    ?_, ?_⟩
  · simp only [Server.settleConnection, hfind, hlookup, Server.shouldCloseAfterFlush,
      Server.updateInterest, Server.epollCtl, hid, hfd, hopen, hregistered, hpresent,
      Bool.false_and, Bool.not_false, Bool.not_true, Bool.false_eq_true, if_false, if_true]
  · refine { h with wakeup := ?_, registered := AList.lookup_insert _ }
    rw [AList.lookup_insert_ne (by decide)]
    exact h.wakeup

theorem flatten_replicate_isPrefix {i k : ℕ} (hle : i ≤ k) (frame : List Byte) :
    (List.replicate i frame).flatten <+: (List.replicate k frame).flatten := by
  obtain ⟨d, rfl⟩ := Nat.exists_eq_add_of_le hle
  rw [List.replicate_add, List.flatten_append]
  exact List.prefix_append _ _

/-- A turn within the exchange number `n` is regular. -/
theorem Shows.regular (h : Shows s scene) {received sent : ℕ} {ended : Bool}
    (hwired : Wired ((Server.step Server.Sample.config s action).sockets 1) received sent ended)
    (hreceived : received ≤ n + 1) (hsent : n ≤ scene.sent)
    (hended : ended = true → closed = true ∧ received = n + 1)
    (hundisturbed : s.undisturbed Server.Sample.config ⟨1⟩ action = true) :
    Turn.Regular Server.Sample.config ⟨1⟩ s ⟨client n closed, action⟩ where
  running := h.running
  accepting := h.pipeline.accepting
  undisturbed := hundisturbed
  errnos := hwired.errnos
  input := by
    have hprefix := flatten_replicate_isPrefix hreceived Server.Sample.request
    rw [← hwired.received] at hprefix
    exact hprefix
  output := by
    have hprefix := flatten_replicate_isPrefix hsent response
    rw [← h.socket.sent] at hprefix
    exact hprefix
  ended := by
    intro hpeerClosed
    obtain ⟨hclosed, rfl⟩ := hended (hwired.ended.symm.trans hpeerClosed)
    exact ⟨hclosed, hwired.received⟩

/-- The actions lead from one scene to the other, and every turn on the way is regular. -/
def Passes (peer : Peer) (scene : Scene) (actions : List Action) (scene' : Scene) : Prop :=
  ∀ s, Shows s scene → Shows (actions.foldl (Server.step Server.Sample.config) s) scene' ∧
    AllRegular Server.Sample.config ⟨1⟩ s (actions.map (Turn.mk peer))

theorem Passes.trans {peer : Peer} {scene'' : Scene} (h₁ : Passes peer scene first scene')
    (h₂ : Passes peer scene' second scene'') : Passes peer scene (first ++ second) scene'' := by
  intro s hshows
  obtain ⟨hbetween, hfirst⟩ := h₁ s hshows
  obtain ⟨hafter, hsecond⟩ := h₂ _ hbetween
  rw [List.foldl_append, List.map_append]
  exact ⟨hafter, allRegular_append.mpr ⟨hfirst, by rw [afterTurns_map]; exact hsecond⟩⟩

/-- One step. -/
theorem passes_step (hreceived : scene'.received ≤ n + 1) (hsent : n ≤ scene.sent)
    (hended : scene'.ended = false)
    (hundisturbed : ∀ s, Shows s scene → s.undisturbed Server.Sample.config ⟨1⟩ action = true)
    (hstep : ∀ s, Shows s scene → Shows (Server.step Server.Sample.config s action) scene') :
    Passes (client n closed) scene [action] scene' := by
  intro s hshows
  have hafter := hstep s hshows
  refine ⟨hafter, hshows.regular hafter.socket hreceived hsent ?_ (hundisturbed s hshows), trivial⟩
  intro htrue
  rw [hended] at htrue
  cases htrue

/-! ## The steps of an exchange -/

/-- An event is reported. -/
theorem passes_wait (hphase : scene.phase = .polling) (hreceived : scene.received ≤ n + 1)
    (hsent : n ≤ scene.sent) (hended : scene.ended = false)
    (hreports : ∀ s, Shows s scene → s.reports event = true) :
    Passes (client n closed) scene [.wait (.ready [event])]
      { scene with phase := .dispatching [event] } := by
  refine passes_step hreceived hsent hended (fun _ _ => rfl) fun s hshows => ?_
  have hstep : Server.step Server.Sample.config s (.wait (.ready [event])) =
      { s with phase := .dispatching [event] } := by
    simp only [Server.step, hshows.phase, hphase, hshows.running, Bool.false_eq_true, if_false,
      List.filter_cons_of_pos (hreports s hshows), List.filter_nil]
    rfl
  rw [hstep]
  exact hshows.enter _

/-- The last event was dispatched. -/
theorem passes_return (hphase : scene.phase = .dispatching [])
    (hreceived : scene.received ≤ n + 1) (hsent : n ≤ scene.sent)
    (hended : scene.ended = false) :
    Passes (client n false) scene [.dispatch {}] { scene with phase := .polling } := by
  refine passes_step hreceived hsent hended ?_ fun s hshows => ?_
  · intro s hshows
    simp only [Server.undisturbed, hshows.phase, hphase]
  · simp only [Server.step, hshows.phase, hphase]
    exact hshows.enter _

/-- The handler of an event of the connection returns. -/
theorem passes_dispatch (hphase : scene.phase = .dispatching [event]) (hkey : event.key = 1)
    (herr : event.events.epollErr = false)
    (hreceived : scene'.received ≤ n + 1) (hsent : n ≤ scene.sent) (hended : scene'.ended = false)
    (hroom : ∀ s, Shows s scene →
      s.findsRoom Server.Sample.config ⟨1⟩ event.events io = true)
    (hevent : ∀ s, Shows s scene → ∃ s',
      Server.handleConnectionEvent Server.Sample.config ⟨1⟩ event.events io s = .ok () s' ∧
        Shows s' scene') :
    Passes (client n false) scene [.dispatch io] { scene' with phase := .dispatching [] } := by
  refine passes_step hreceived hsent hended ?_ fun s hshows => ?_
  · intro s hshows
    simp only [Server.undisturbed, hshows.phase, hphase, herr, hroom s hshows, Bool.not_false,
      Bool.and_self, Bool.or_true]
  · obtain ⟨s', hhandled, hafter⟩ := hevent s hshows
    have hroute : route event.key = .connection ⟨1⟩ := by
      rw [hkey]
      rfl
    have hstep : Server.step Server.Sample.config s (.dispatch io) =
        { s' with phase := .dispatching [] } := by
      simp only [Server.step, hshows.phase, hphase, hshows.running, Bool.false_eq_true, if_false,
        Server.dispatchEvent, hroute, hhandled, Server.proceed]
    rw [hstep]
    exact hafter.enter _

/-- The connection when it has nothing to send, and when it has one response to send. -/
def quiet : Connection := .create ⟨1⟩ 7 Server.Sample.config.options.connectionLimits

def loaded : Connection := { quiet with output := .ofList response }

/-- The flow behind so many requests and responses. -/
def flow (requests responses : ℕ) : ConnectionFlow where
  nextRequestSequence := .ofNat requests
  nextResponseSequence := .ofNat responses
  registeredWithEpoll := true

def item (n : ℕ) : WorkItem := ⟨⟨1⟩, .ofNat n, message⟩

def result (n : ℕ) : WorkResult := ⟨⟨1⟩, .ofNat n, handleRequest message⟩

/-- So many requests are answered. -/
def resting (n : ℕ) : Scene where
  connection := quiet
  flow := flow n n
  received := n
  sent := n

/-- One more request was submitted; the workers are that far. -/
def asked (n : ℕ) (stock : Stock) : Scene where
  connection := quiet
  flow := flow (n + 1) n
  stock := stock
  received := n + 1
  sent := n

/-- Its response is queued. -/
def answered (n : ℕ) : Scene where
  connection := loaded
  flow := flow (n + 1) (n + 1)
  writes := true
  received := n + 1
  sent := n

theorem readAvailable_quiet :
    quiet.readAvailable Server.Sample.config.options.maxReadBytesPerEvent
      [.received Server.Sample.request] =
      ⟨.ok (.ok [message]), quiet,
        [⟨4096, .received Server.Sample.request⟩, ⟨4096, .failed .eagain⟩]⟩ := rfl

theorem readAvailable_quiet_end :
    quiet.readAvailable Server.Sample.config.options.maxReadBytesPerEvent
      [.received Server.Sample.request, .received []] =
      ⟨.ok (.peerClosed [message]), quiet,
        [⟨4096, .received Server.Sample.request⟩, ⟨4096, .received []⟩]⟩ := rfl

theorem queueOutput_quiet : quiet.queueOutput (handleRequest message) = (true, loaded) := rfl

theorem writeAvailable_loaded :
    loaded.writeAvailable Server.Sample.config.options.maxWriteBytesPerEvent [.sent 100] =
      ⟨.ok ⟨.kOk, response.length⟩, quiet, [⟨response, .sent response.length⟩]⟩ := rfl

/-- An empty queue takes the request. -/
theorem Stocks.trySubmit {p : Pipeline} (h : Stocks p {}) (item : WorkItem) :
    ∃ p', p.trySubmit item = (true, p') ∧ Stocks p' { items := [item] } := by
  obtain ⟨⟨capacity, items, closed, hle⟩, workers, completed, ⟨counter, hcounter⟩, accepted⟩ := p
  obtain rfl : closed = false := h.accepting
  obtain rfl : capacity = 1024 := h.capacity
  obtain rfl : items = [] := h.items
  exact ⟨_, rfl, rfl, rfl, rfl, h.workers, h.completed, h.counter⟩

theorem ofNat_succ (n : ℕ) : UInt64.ofNat n + 1 = .ofNat (n + 1) := (UInt64.ofNat_add n 1).symm

/-- No request is in flight when all are answered, whatever the counters are. -/
theorem inFlight_flow (n : ℕ) :
    ((flow n n).nextRequestSequence - (flow n n).nextResponseSequence).toNat = 0 := by
  rw [flow, UInt64.sub_self]
  rfl

/-- The request is submitted. -/
theorem submitMessages_flow {p : Pipeline} (h : Stocks p {}) (n : ℕ) :
    ∃ p', Server.submitMessages Server.Sample.config ⟨1⟩ [message] [] (flow n n) p =
        (true, flow (n + 1) n, p') ∧ Stocks p' { items := [item n] } := by
  obtain ⟨p', hsubmit, hafter⟩ := h.trySubmit (item n)
  refine ⟨p', ?_, hafter⟩
  have hitem : p.trySubmit ⟨⟨1⟩, (flow n n).nextRequestSequence, message⟩ = (true, p') := hsubmit
  rw [Server.submitMessages, inFlight_flow, if_neg (by decide)]
  simp only [List.headD_nil, Pipeline.workAll, List.foldl_nil, hitem, Server.submitMessages]
  rw [flow, flow, ofNat_succ]

theorem hasRoomForEach_flow {p : Pipeline} (h : Stocks p {}) (n : ℕ) :
    hasRoomForEach Server.Sample.config ⟨1⟩ [message] [] (flow n n) p = true := by
  obtain ⟨p', hsubmit, -⟩ := h.trySubmit (item n)
  have hitem : p.trySubmit ⟨⟨1⟩, (flow n n).nextRequestSequence, message⟩ = (true, p') := hsubmit
  rw [hasRoomForEach, inFlight_flow, if_neg (by decide)]
  simp only [List.headD_nil, Pipeline.workAll, List.foldl_nil, hitem, hasRoomForEach, h.items,
    h.capacity]
  rfl

theorem Shows.submitWork (h : Shows s scene) (hflow : scene.flow = flow n n)
    (hstock : scene.stock = {}) :
    ∃ s', Server.submitWork Server.Sample.config ⟨1⟩ [message] [] s = (true, s') ∧
      Shows s' { scene with flow := flow (n + 1) n, stock := { items := [item n] } } := by
  obtain ⟨-, hlookup⟩ := Server.live_eq_some_iff.mp h.live
  have hpipeline := h.pipeline
  rw [hstock] at hpipeline
  obtain ⟨p', hsubmit, hafter⟩ := submitMessages_flow hpipeline n
  refine ⟨{ s with pipeline := p' }.putFlow ⟨1⟩ (flow (n + 1) n), ?_,
    (h.putPipeline hafter).putFlow _⟩
  simp only [Server.submitWork, hlookup, hflow, hsubmit]

/-- Both halves of the handler go well. -/
theorem Shows.handle {events : EventMask} {s₁ s₂ : Server} (h : Shows s scene)
    (hread : Server.readEvent Server.Sample.config ⟨1⟩ events io scene.connection scene.flow s =
      .ok false s₁)
    (hwrite : Server.writeEvent Server.Sample.config ⟨1⟩ events io false s₁ = .ok false s₂) :
    Server.handleConnectionEvent Server.Sample.config ⟨1⟩ events io s =
      Server.settleConnection ⟨1⟩ io.ctl s₂ := by
  obtain ⟨hfind, hlookup⟩ := Server.live_eq_some_iff.mp h.live
  simp only [Server.handleConnectionEvent, hfind, hlookup, hread, hwrite]

/-- The request is read and submitted, and the input goes on. -/
theorem Shows.read {phase : Phase} (h : Shows s { resting n with phase }) :
    ∃ s', Server.handleConnectionEvent Server.Sample.config ⟨1⟩ { epollIn := true }
        { recvs := [.received Server.Sample.request] } s = .ok () s' ∧
      Shows s' { asked n { items := [item n] } with phase } := by
  have hreceived : receivedBytes
      [⟨4096, .received Server.Sample.request⟩, ⟨4096, .failed .eagain⟩] =
        (List.replicate 1 Server.Sample.request).flatten := rfl
  have hsent : sentBytes [] = (List.replicate 0 response).flatten := rfl
  have hlogged := (h.putConnection quiet).logSocket rfl hreceived hsent (by decide)
  obtain ⟨s₂, hsubmit, hsubmitted⟩ := hlogged.submitWork rfl rfl
  obtain ⟨s', hsettle, hsettled⟩ := hsubmitted.settle rfl rfl rfl rfl
  refine ⟨s', ?_, hsettled⟩
  have hread : Server.readEvent Server.Sample.config ⟨1⟩ { epollIn := true }
      { recvs := [.received Server.Sample.request] } quiet (flow n n) s = .ok false s₂ := by
    simp only [Server.readEvent, readAvailable_quiet, ReadAvailableResult.ok, hsubmit]
    rfl
  exact (h.handle hread rfl).trans hsettle

theorem Shows.findsRoom {phase : Phase} (h : Shows s { resting n with phase })
    {result : ReadAvailableResult}
    (hread : (quiet.readAvailable Server.Sample.config.options.maxReadBytesPerEvent
      io.recvs).result = .ok result)
    (hmessages : result.messages = [message]) (hworkers : io.workers = []) :
    s.findsRoom Server.Sample.config ⟨1⟩ { epollIn := true } io = true := by
  have hroom := hasRoomForEach_flow h.pipeline n
  simp only [Server.findsRoom, h.live, resting, hread, hmessages, hworkers]
  exact hroom

theorem passes_asking (n : ℕ) :
    Passes (client n false) (resting n) asking (asked n { items := [item n] }) := by
  have hwait : Passes (client n false) (resting n) [.wait (.ready [⟨{ epollIn := true }, 1⟩])] _ :=
    passes_wait rfl (Nat.le_succ n) (Nat.le_refl n) rfl fun s hshows =>
      Server.reports_of_lookup hshows.registered rfl rfl (.inl (by decide))
  have hroom : ∀ s, Shows s { resting n with phase := .dispatching [⟨{ epollIn := true }, 1⟩] } →
      s.findsRoom Server.Sample.config ⟨1⟩ { epollIn := true }
        { recvs := [.received Server.Sample.request] } = true :=
    fun s hshows => hshows.findsRoom (congrArg _ readAvailable_quiet) rfl rfl
  have hread := passes_dispatch rfl rfl rfl (Nat.le_refl (n + 1)) (Nat.le_refl n) rfl hroom
    fun s hshows => hshows.read
  exact hwait.trans (hread.trans (passes_return rfl (Nat.le_refl _) (Nat.le_refl n) rfl))

theorem Stocks.pop {p : Pipeline} (h : Stocks p { items := [item n] }) :
    Stocks (p.work Server.Sample.config.options.handler (.pop 0))
      { workers := [.holding (item n), .idle] } := by
  obtain ⟨⟨capacity, items, closed, hle⟩, workers, completed, wakeup, accepted⟩ := p
  obtain rfl : items = [item n] := h.items
  obtain rfl : workers = [.idle, .idle] := h.workers
  exact ⟨h.accepting, h.capacity, rfl, rfl, h.completed, h.counter⟩

theorem Stocks.finish {p : Pipeline} (h : Stocks p { workers := [.holding (item n), .idle] }) :
    Stocks (p.work Server.Sample.config.options.handler (.finish 0))
      { workers := [.notifying, .idle], completed := [result n] } := by
  obtain ⟨queue, workers, completed, wakeup, accepted⟩ := p
  obtain rfl : workers = [.holding (item n), .idle] := h.workers
  obtain rfl : completed = [] := h.completed
  exact ⟨h.accepting, h.capacity, h.items, rfl, rfl, h.counter⟩

theorem Stocks.notify {p : Pipeline}
    (h : Stocks p { workers := [.notifying, .idle], completed := [result n] }) :
    Stocks (p.work Server.Sample.config.options.handler (.notify 0 false))
      { completed := [result n], counter := 1 } := by
  obtain ⟨queue, workers, completed, ⟨counter, hle⟩, accepted⟩ := p
  obtain rfl : workers = [.notifying, .idle] := h.workers
  obtain rfl : counter = 0 := h.counter
  exact ⟨h.accepting, h.capacity, h.items, rfl, h.completed, rfl⟩

theorem passes_worker {workerAction : WorkerAction} {stock stock' : Stock}
    (hwork : ∀ p, Stocks p stock →
      Stocks (p.work Server.Sample.config.options.handler workerAction) stock') :
    Passes (client n false) (asked n stock) [.worker workerAction] (asked n stock') :=
  passes_step (Nat.le_refl _) (Nat.le_refl n) rfl (fun _ _ => rfl) fun _ hshows =>
    hshows.putPipeline (hwork _ hshows.pipeline)

theorem passes_working (n : ℕ) :
    Passes (client n false) (asked n { items := [item n] }) working
      (asked n { completed := [result n], counter := 1 }) :=
  (passes_worker fun _ h => h.pop).trans
    ((passes_worker fun _ h => h.finish).trans (passes_worker fun _ h => h.notify))

/-- The response is taken out of the reorder map and queued. -/
theorem releaseReady_flow (n : ℕ) :
    Server.releaseReady 2 quiet
        { flow (n + 1) n with
          completedResponses := AList.insert (.ofNat n) (handleRequest message) ∅ } =
      (true, loaded, flow (n + 1) (n + 1)) := by
  have herase : (AList.insert (UInt64.ofNat n) (handleRequest message)
      (∅ : AList fun _ : UInt64 => Message)).erase (.ofNat n) = ∅ := by
    apply AList.ext
    rw [AList.insert_empty]
    exact List.kerase_cons_eq rfl
  simp only [Server.releaseReady, flow, AList.lookup_insert, queueOutput_quiet, herase, ofNat_succ,
    AList.lookup_empty]

theorem Shows.complete {phase : Phase} (h : Shows s { asked n {} with phase }) :
    ∃ s', Server.handleCompletedWork (result n) none s = .ok () s' ∧
      Shows s' { answered n with phase } := by
  have hlive : s.live ⟨1⟩ = some (quiet, flow (n + 1) n) := h.live
  obtain ⟨hfind, hlookup⟩ := Server.live_eq_some_iff.mp hlive
  have hqueued := (h.putConnection loaded).putFlow (flow (n + 1) (n + 1))
  obtain ⟨s', hsettle, hsettled⟩ := hqueued.settle rfl rfl rfl rfl
  refine ⟨s', ?_, hsettled⟩
  have hemplace : Server.emplace (flow (n + 1) n).completedResponses (.ofNat n)
      (handleRequest message) = AList.insert (.ofNat n) (handleRequest message) ∅ := rfl
  have hrelease : Server.releaseReady
      ((AList.insert (.ofNat n) (handleRequest message)
        (∅ : AList fun _ : UInt64 => Message)).keys.length + 1) quiet
        { flow (n + 1) n with
          completedResponses := AList.insert (.ofNat n) (handleRequest message) ∅ } = _ :=
    releaseReady_flow n
  simp only [Server.handleCompletedWork, result, hfind, hlookup, Server.flushReadyResponses,
    hemplace, hrelease]
  exact hsettle

/-- The eventfd is read until it is empty, and the result is swapped out. -/
theorem passes_draining (n : ℕ) :
    Passes (client n false)
      { asked n { completed := [result n], counter := 1 } with phase := .draining [] }
      [.readWakeup false, .readWakeup false, .swapCompleted]
      { asked n {} with phase := .handling [result n] [] } := by
  have hfull : Passes (client n false)
      { asked n { completed := [result n], counter := 1 } with phase := .draining [] }
      [.readWakeup false]
      { asked n { completed := [result n] } with phase := .draining [] } := by
    refine passes_step (Nat.le_refl (n + 1)) (Nat.le_refl n) rfl (fun _ _ => rfl) ?_
    intro s hshows
    have hphase : s.phase = .draining [] := hshows.phase
    have hread : s.pipeline.workerWakeup.read false = (.bytes 8, .create) := by
      rw [Eventfd.read, hshows.pipeline.counter]
      rfl
    have hpipeline : Stocks { s.pipeline with workerWakeup := .create }
        { completed := [result n] } := { hshows.pipeline with counter := rfl }
    simp only [Server.step, hphase, hread]
    exact (hshows.putPipeline hpipeline).enter _
  have hempty : Passes (client n false)
      { asked n { completed := [result n] } with phase := .draining [] }
      [.readWakeup false]
      { asked n { completed := [result n] } with phase := .swapping [] } := by
    refine passes_step (Nat.le_refl (n + 1)) (Nat.le_refl n) rfl (fun _ _ => rfl) ?_
    intro s hshows
    have hphase : s.phase = .draining [] := hshows.phase
    have hread : s.pipeline.workerWakeup.read false =
        (.failed .eagain, s.pipeline.workerWakeup) := by
      rw [Eventfd.read, hshows.pipeline.counter]
      rfl
    simp only [Server.step, hphase, hread]
    exact hshows.enter _
  have hswap : Passes (client n false)
      { asked n { completed := [result n] } with phase := .swapping [] }
      [.swapCompleted] { asked n {} with phase := .handling [result n] [] } := by
    refine passes_step (Nat.le_refl (n + 1)) (Nat.le_refl n) rfl (fun _ _ => rfl) ?_
    intro s hshows
    have hphase : s.phase = .swapping [] := hshows.phase
    have hpipeline : Stocks { s.pipeline with completedWork := [] } {} :=
      { hshows.pipeline with completed := rfl }
    simp only [Server.step, hphase, hshows.pipeline.completed]
    exact (hshows.putPipeline hpipeline).enter _
  exact hfull.trans (hempty.trans hswap)

/-- The result is handled, and there is no other. -/
theorem passes_handling (n : ℕ) :
    Passes (client n false) { asked n {} with phase := .handling [result n] [] }
      [.complete none, .complete none] { answered n with phase := .dispatching [] } := by
  have hresult : Passes (client n false) { asked n {} with phase := .handling [result n] [] }
      [.complete none] { answered n with phase := .handling [] [] } := by
    refine passes_step (Nat.le_refl (n + 1)) (Nat.le_refl n) rfl (fun _ _ => rfl) ?_
    intro s hshows
    have hphase : s.phase = .handling [result n] [] := hshows.phase
    obtain ⟨s', hcomplete, hafter⟩ := hshows.complete
    simp only [Server.step, hphase, hcomplete]
    exact hafter.enter _
  have hnone : Passes (client n false) { answered n with phase := .handling [] [] }
      [.complete none] { answered n with phase := .dispatching [] } := by
    refine passes_step (Nat.le_refl (n + 1)) (Nat.le_refl n) rfl (fun _ _ => rfl) ?_
    intro s hshows
    have hphase : s.phase = .handling [] [] := hshows.phase
    simp only [Server.step, hphase]
    exact hshows.enter _
  exact hresult.trans hnone

theorem passes_completing (n : ℕ) :
    Passes (client n false) (asked n { completed := [result n], counter := 1 }) completing
      (answered n) := by
  have hwait : Passes (client n false) (asked n { completed := [result n], counter := 1 })
      [.wait (.ready [workerWakeupEvent])] _ :=
    passes_wait rfl (Nat.le_refl (n + 1)) (Nat.le_refl n) rfl fun s hshows =>
      Server.reports_of_lookup hshows.wakeup rfl rfl
        (.inr (by rw [hshows.pipeline.counter]; exact Nat.one_pos))
  have henter : Passes (client n false)
      { asked n { completed := [result n], counter := 1 } with
        phase := .dispatching [workerWakeupEvent] }
      [.dispatch {}]
      { asked n { completed := [result n], counter := 1 } with phase := .draining [] } := by
    refine passes_step (Nat.le_refl (n + 1)) (Nat.le_refl n) rfl ?_ ?_
    · intro s hshows
      have hphase : s.phase = .dispatching [workerWakeupEvent] := hshows.phase
      simp only [Server.undisturbed, hphase]
      rfl
    · intro s hshows
      have hphase : s.phase = .dispatching [workerWakeupEvent] := hshows.phase
      have hroute : route workerWakeupEvent.key = .workerWakeup := by decide
      have hstep : Server.step Server.Sample.config s (.dispatch {}) =
          { s with phase := .draining [] } := by
        simp only [Server.step, hphase, hshows.running, Bool.false_eq_true, if_false,
          Server.dispatchEvent, hroute]
      rw [hstep]
      exact hshows.enter _
  have hreturn : Passes (client n false) { answered n with phase := .dispatching [] } [.dispatch {}]
      (answered n) := passes_return rfl (Nat.le_refl (n + 1)) (Nat.le_refl n) rfl
  exact hwait.trans (henter.trans ((passes_draining n).trans ((passes_handling n).trans hreturn)))

/-- The response is sent in one piece. -/
theorem Shows.write {phase : Phase} (h : Shows s { answered n with phase }) :
    ∃ s', Server.handleConnectionEvent Server.Sample.config ⟨1⟩ { epollOut := true }
        { sends := [.sent 100] } s = .ok () s' ∧ Shows s' { resting (n + 1) with phase } := by
  have hlive : s.live ⟨1⟩ = some (loaded, flow (n + 1) (n + 1)) := h.live
  obtain ⟨hfind, -⟩ := Server.live_eq_some_iff.mp hlive
  have hreceived : receivedBytes [] = (List.replicate 0 Server.Sample.request).flatten := rfl
  have hsent : sentBytes [⟨response, .sent response.length⟩] =
      (List.replicate 1 response).flatten := rfl
  have hlogged := (h.putConnection quiet).logSocket rfl hreceived hsent (by decide)
  obtain ⟨s', hsettle, hsettled⟩ := hlogged.settle rfl rfl rfl rfl
  refine ⟨s', ?_, hsettled⟩
  have hwrite : Server.writeEvent Server.Sample.config ⟨1⟩ { epollOut := true }
      { sends := [.sent 100] } false s =
        .ok false ((s.putConnection ⟨1⟩ quiet).logSocket ⟨1⟩ []
          [⟨response, .sent response.length⟩]) := by
    simp only [Server.writeEvent, hfind, writeAvailable_loaded]
    rfl
  exact (h.handle rfl hwrite).trans hsettle

theorem passes_answering (n : ℕ) :
    Passes (client n false) (answered n) answering (resting (n + 1)) := by
  have hwait : Passes (client n false) (answered n)
      [.wait (.ready [⟨{ epollOut := true }, 1⟩])] _ :=
    passes_wait rfl (Nat.le_refl (n + 1)) (Nat.le_refl n) rfl fun s hshows =>
      Server.reports_of_lookup hshows.registered rfl rfl (.inl (by decide))
  have hroom : ∀ s, Shows s { answered n with phase := .dispatching [⟨{ epollOut := true }, 1⟩] } →
      s.findsRoom Server.Sample.config ⟨1⟩ { epollOut := true } { sends := [.sent 100] } =
        true := by
    intro s hshows
    simp only [Server.findsRoom, hshows.live]
    rfl
  have hwrite := passes_dispatch rfl rfl rfl (Nat.le_refl (n + 1)) (Nat.le_refl n) rfl hroom
    fun s hshows => hshows.write
  exact hwait.trans (hwrite.trans (passes_return rfl (Nat.le_refl _) (Nat.le_succ n) rfl))

theorem passes_exchange (n : ℕ) :
    Passes (client n false) (resting n) (asking ++ working ++ completing ++ answering)
      (resting (n + 1)) :=
  (((passes_asking n).trans (passes_working n)).trans (passes_completing n)).trans
    (passes_answering n)

/-! ## The last request -/

/-- The client was accepted and has sent nothing yet. -/
def start : Server :=
  run Server.Sample.config Server.Sample.descriptors (Server.Sample.farewell.take 3)

theorem shows_start : Shows start (resting 0) := by
  refine ⟨rfl, rfl, rfl, ⟨rfl, rfl, rfl, rfl, rfl, rfl⟩, rfl, rfl, rfl, rfl, ?_, rfl⟩
  intro error hmem
  cases hmem

theorem shows_exchanges (n : ℕ) :
    Shows (afterTurns Server.Sample.config start (exchanges n)) (resting n) ∧
      AllRegular Server.Sample.config ⟨1⟩ start (exchanges n) := by
  induction n with
  | zero => exact ⟨shows_start, trivial⟩
  | succ n ih =>
      obtain ⟨hshows, hregular⟩ := ih
      obtain ⟨hafter, hexchange⟩ := passes_exchange n _ hshows
      rw [exchanges, afterTurns_append, afterTurns_map, allRegular_append]
      exact ⟨hafter, hregular, hexchange⟩

theorem peer_exchanges {turn : Turn} (hmem : turn ∈ exchanges n) :
    ∃ k, turn.peer = client k false := by
  induction n with
  | zero => cases hmem
  | succ n ih =>
      rcases List.mem_append.mp hmem with hold | hnew
      · exact ih hold
      · obtain ⟨action, -, rfl⟩ := List.mem_map.mp hnew
        exact ⟨n, rfl⟩

/-- Its descriptor is in the interest set, so `DEL` succeeds. -/
theorem Shows.epollCtl_del (h : Shows s scene) :
    ∃ s₁ : Server, s.epollCtl .del 7 ⟨{}, 0⟩ none = (none, s₁) ∧
      s₁ = { s with epoll := s₁.epoll, ctlCalls := s₁.ctlCalls } := by
  have hpresent : decide ((7 : Fd) ∈ s.epoll) = true := decide_eq_true (mem_of_lookup h.registered)
  refine ⟨{ s with
    ctlCalls := s.ctlCalls ++ [⟨.del, 7, true⟩]
    epoll := s.epoll.erase 7 }, ?_, rfl⟩
  simp only [Server.epollCtl, hpresent, Bool.not_true, Bool.false_eq_true, if_false]

/-- A connection that seems to have nothing left to do is removed. -/
theorem Shows.drain (h : Shows s scene) (hfd : scene.connection.fd = 7)
    (hregistered : scene.flow.registeredWithEpoll = true)
    (hclose : Server.shouldCloseAfterFlush scene.connection scene.flow = true) :
    ∃ s', Server.settleConnection ⟨1⟩ none s = .ok () s' ∧ s'.live ⟨1⟩ = none ∧
      s'.sockets = s.sockets := by
  obtain ⟨hfind, hlookup⟩ := Server.live_eq_some_iff.mp h.live
  obtain ⟨unregistered, hctl, hrest⟩ := h.epollCtl_del
  have hsockets : unregistered.sockets = s.sockets := by rw [hrest]
  refine ⟨{ unregistered.forget ⟨1⟩ with drained := ⟨1⟩ :: unregistered.drained }, ?_,
    Server.live_forget_self unregistered ⟨1⟩, hsockets⟩
  simp only [Server.settleConnection, hfind, hlookup, hclose, if_true, Server.removeConnection,
    hregistered, hfd, hctl]
  rfl

/-- A connection that waits for a response only is taken out of the interest set. -/
theorem Shows.rest (h : Shows s scene) (hfd : scene.connection.fd = 7)
    (hregistered : scene.flow.registeredWithEpoll = true)
    (hclosing : scene.flow.closeAfterFlush = true)
    (hidle : scene.connection.hasPendingOutput = false)
    (hclose : Server.shouldCloseAfterFlush scene.connection scene.flow = false) :
    ∃ s', Server.settleConnection ⟨1⟩ none s = .ok () s' ∧ s'.live ⟨1⟩ ≠ none ∧
      s'.sockets = s.sockets := by
  obtain ⟨hfind, hlookup⟩ := Server.live_eq_some_iff.mp h.live
  obtain ⟨unregistered, hctl, hrest⟩ := h.epollCtl_del
  have hlive : unregistered.live ⟨1⟩ = _ := (Server.live_epollCtl hctl ⟨1⟩).trans h.live
  have hsockets : unregistered.sockets = s.sockets := by rw [hrest]
  have hwrote := Server.wrote_putFlow hlive { scene.flow with registeredWithEpoll := false }
  refine ⟨unregistered.putFlow ⟨1⟩ { scene.flow with registeredWithEpoll := false }, ?_, ?_,
    hsockets⟩
  · simp only [Server.settleConnection, hfind, hlookup, hclose, Server.updateInterest, hclosing,
      hidle, hregistered, hfd, hctl, Bool.not_true, Bool.not_false, Bool.and_self,
      Bool.false_eq_true, if_true, if_false]
  · rw [hwrote.live_self]
    exact Option.some_ne_none _

/-- Behind a request the counter of the requests is not the larger one when it has wrapped
around. -/
theorem ofNat_succ_le_iff (n : ℕ) :
    UInt64.ofNat (n + 1) ≤ UInt64.ofNat n ↔ UInt64.size ∣ n + 1 := by
  rw [UInt64.le_iff_toNat_le, UInt64.toNat_ofNat', UInt64.toNat_ofNat', Nat.dvd_iff_mod_eq_zero,
    show UInt64.size = 2 ^ 64 from rfl]
  omega

/-- A closing connection with one request in flight seems to have nothing left to do when its
counter of the requests has wrapped around. -/
theorem shouldCloseAfterFlush_flow (n : ℕ) :
    Server.shouldCloseAfterFlush quiet { flow (n + 1) n with closeAfterFlush := true } =
      decide (UInt64.size ∣ n + 1) :=
  decide_eq_decide.mpr (ofNat_succ_le_iff n)

/-- The request is read with the end of the input. The connection is removed when the counter
of its requests has wrapped around, although this request is not answered. -/
theorem Shows.part {phase : Phase} (h : Shows s { resting n with phase }) :
    ∃ s', Server.handleConnectionEvent Server.Sample.config ⟨1⟩ { epollIn := true } ending s =
        .ok () s' ∧
      (s'.live ⟨1⟩ = none ↔ UInt64.size ∣ n + 1) ∧ Wired (s'.sockets 1) (n + 1) n true := by
  have hreceived : receivedBytes
      [⟨4096, .received Server.Sample.request⟩, ⟨4096, .received []⟩] =
        (List.replicate 1 Server.Sample.request).flatten := rfl
  have hsent : sentBytes [] = (List.replicate 0 response).flatten := rfl
  have hlogged := (h.putConnection quiet).logSocket rfl hreceived hsent (by decide)
  obtain ⟨s₂, hsubmit, hsubmitted⟩ := hlogged.submitWork rfl rfl
  have hclosing := hsubmitted.putFlow { flow (n + 1) n with closeAfterFlush := true }
  have hlookup : s₂.connectionFlows.lookup 1 = some (flow (n + 1) n) :=
    (Server.live_eq_some_iff.mp hsubmitted.live).2
  have hread : Server.readEvent Server.Sample.config ⟨1⟩ { epollIn := true } ending quiet
      (flow n n) s =
        .ok false (s₂.putFlow ⟨1⟩ { flow (n + 1) n with closeAfterFlush := true }) := by
    simp only [Server.readEvent, ending, readAvailable_quiet_end, ReadAvailableResult.peerClosed,
      hsubmit, hlookup]
    rfl
  have hclose := shouldCloseAfterFlush_flow n
  by_cases hwrapped : UInt64.size ∣ n + 1
  · rw [decide_eq_true hwrapped] at hclose
    obtain ⟨s', hsettle, hgone, hsockets⟩ := hclosing.drain rfl rfl hclose
    refine ⟨s', (h.handle hread rfl).trans hsettle, iff_of_true hgone hwrapped, ?_⟩
    rw [hsockets]
    exact hclosing.socket
  · rw [decide_eq_false hwrapped] at hclose
    obtain ⟨s', hsettle, hlive, hsockets⟩ := hclosing.rest rfl rfl rfl rfl hclose
    refine ⟨s', (h.handle hread rfl).trans hsettle, iff_of_false hlive hwrapped, ?_⟩
    rw [hsockets]
    exact hclosing.socket

/-- The client sends one more request and closes its side. Its turns are regular, no response
is sent in them, and its connection is gone behind them when the counter of its requests has
wrapped around. -/
structure Parted (s : Server) (n : ℕ) : Prop where
  regular : AllRegular Server.Sample.config ⟨1⟩ s (parting.map (Turn.mk (client n true)))
  gone : (parting.foldl (Server.step Server.Sample.config) s).live ⟨1⟩ = none ↔
    UInt64.size ∣ n + 1
  sent : ∀ k, (((parting.take k).foldl (Server.step Server.Sample.config) s).sockets 1).sent =
    (List.replicate n response).flatten

/-- The event of the last request is dispatched. -/
theorem Shows.ends
    (h : Shows s { resting n with phase := .dispatching [⟨{ epollIn := true }, 1⟩] }) :
    Turn.Regular Server.Sample.config ⟨1⟩ s ⟨client n true, .dispatch ending⟩ ∧
      ((Server.step Server.Sample.config s (.dispatch ending)).live ⟨1⟩ = none ↔
        UInt64.size ∣ n + 1) ∧
      ((Server.step Server.Sample.config s (.dispatch ending)).sockets 1).sent =
        (List.replicate n response).flatten := by
  obtain ⟨s', hhandled, hgone, hwired⟩ := h.part
  have hphase : s.phase = .dispatching [⟨{ epollIn := true }, 1⟩] := h.phase
  have hroute : route 1 = .connection ⟨1⟩ := rfl
  have hstep : Server.step Server.Sample.config s (.dispatch ending) =
      { s' with phase := .dispatching [] } := by
    simp only [Server.step, hphase, h.running, Bool.false_eq_true, if_false,
      Server.dispatchEvent, hroute, hhandled, Server.proceed]
  have hundisturbed : s.undisturbed Server.Sample.config ⟨1⟩ (.dispatch ending) = true := by
    have hroom : s.findsRoom Server.Sample.config ⟨1⟩ { epollIn := true } ending = true :=
      h.findsRoom (congrArg _ readAvailable_quiet_end) rfl rfl
    simp only [Server.undisturbed, hphase, hroom]
    rfl
  have hafter : Wired ((Server.step Server.Sample.config s (.dispatch ending)).sockets 1)
      (n + 1) n true := by
    rw [hstep]
    exact hwired
  refine ⟨?_, ?_, hafter.sent⟩
  · exact h.regular hafter (Nat.le_refl _) (Nat.le_refl _) (fun _ => ⟨rfl, rfl⟩) hundisturbed
  · rw [hstep]
    exact hgone

theorem Shows.parted (h : Shows s (resting n)) : Parted s n := by
  have hwait : Passes (client n true) (resting n)
      [.wait (.ready [⟨{ epollIn := true }, 1⟩])] _ :=
    passes_wait rfl (Nat.le_succ _) (Nat.le_refl _) rfl fun s hshows =>
      Server.reports_of_lookup hshows.registered rfl rfl (.inl (by decide))
  obtain ⟨hreported, hregular, -⟩ := hwait s h
  obtain ⟨hlast, hgone, hsent⟩ := hreported.ends
  refine ⟨⟨hregular, hlast, trivial⟩, hgone, fun k => ?_⟩
  rcases k with _ | _ | k
  · exact h.socket.sent
  · exact hreported.socket.sent
  · rw [List.take_of_length_le (Nat.le_add_left 2 k)]
    exact hsent

/-- The turns in which the client has closed its side come last. -/
theorem turns_closed {done todo : List Turn} {turn : Turn}
    (hturns : turns n = done ++ turn :: todo) (hclosed : turn.peer.closed = true) :
    turn.peer = client n true ∧
      ∃ k, done ++ [turn] = exchanges n ++ (parting.take k).map (Turn.mk (client n true)) := by
  have hopen : turn ∉ exchanges n := by
    intro hmem
    obtain ⟨k, hpeer⟩ := peer_exchanges hmem
    rw [hpeer] at hclosed
    cases hclosed
  rw [turns, List.append_cons] at hturns
  rcases List.append_eq_append_iff.mp hturns with ⟨last, hdone, hlast⟩ | ⟨rest, hdone, -⟩
  · have hparting : last <+: parting.map (Turn.mk (client n true)) := ⟨todo, hlast.symm⟩
    have hturn : turn ∈ exchanges n ++ last := by
      rw [← hdone]
      exact List.mem_append_right _ List.mem_cons_self
    obtain ⟨action, -, rfl⟩ := List.mem_map.mp
      (hparting.subset ((List.mem_append.mp hturn).resolve_left hopen))
    refine ⟨rfl, last.length, ?_⟩
    rw [hdone, List.map_take, ← List.prefix_iff_eq_take.mp hparting]
  · exfalso
    apply hopen
    rw [hdone, List.append_assoc]
    exact List.mem_append_right _ List.mem_cons_self

/-- However often the request is repeated, the client is well behaved and its turns are
regular. -/
theorem conversation_turns (n : ℕ) :
    Conversation Server.Sample.config ⟨1⟩ start (turns n) := by
  obtain ⟨hshows, hregular⟩ := shows_exchanges n
  refine conversation_of_allRegular ?_
    (allRegular_append.mpr ⟨hregular, hshows.parted.regular⟩)
  intro turn hmem
  rcases List.mem_append.mp hmem with hopen | hclosed
  · obtain ⟨k, hpeer⟩ := peer_exchanges hopen
    rw [hpeer]
    exact Client.Sample.wellBehaved_client k false
  · obtain ⟨action, -, rfl⟩ := List.mem_map.mp hclosed
    exact Client.Sample.wellBehaved_client n true

/-- Behind its last request the client is served to the end, unless the number of its requests
is one that the counter takes for none. -/
theorem servedToTheEnd_turns_iff (n : ℕ) :
    ServedToTheEnd Server.Sample.config ⟨1⟩ start (turns n) ↔ ¬ UInt64.size ∣ n + 1 := by
  have hparted := (shows_exchanges n).1.parted
  have hgone : (afterTurns Server.Sample.config start (turns n)).live ⟨1⟩ = none ↔
      UInt64.size ∣ n + 1 := by
    rw [turns, afterTurns_append, afterTurns_map]
    exact hparted.gone
  constructor
  · rintro (hlive | ⟨done, turn, todo, hturns, -, hclosed, hencode⟩)
    · exact fun hwrapped => hlive (hgone.mpr hwrapped)
    · exfalso
      obtain ⟨hpeer, k, hdone⟩ := turns_closed hturns hclosed
      -- One response more is owed than was sent.
      rw [hpeer, Client.Sample.requests_client, List.map_replicate,
        encodeAll_replicate Client.Sample.encodeMessage_response, hdone, afterTurns_append,
        afterTurns_map] at hencode
      have hbytes := (Option.some.inj hencode).trans (hparted.sent k)
      rw [List.replicate_succ, List.flatten_cons, List.append_left_eq_self] at hbytes
      exact absurd hbytes (by decide)
  · exact fun hnot => .inl fun hnone => hnot (hgone.mp hnone)

end Wraparound

/-- A client that has repeated its request as often as there are sequence numbers: it is
well behaved, everything around it is regular, and its connection is removed when its last
request is not answered. -/
theorem well_behaved_client_dropped :
    Server.Sample.config.options.handler = defaultHandler ∧
    (run Server.Sample.config Server.Sample.descriptors
      (Server.Sample.farewell.take 3)).live ⟨1⟩ ≠ none ∧
    Conversation Server.Sample.config ⟨1⟩
      (run Server.Sample.config Server.Sample.descriptors (Server.Sample.farewell.take 3))
      (Wraparound.turns (UInt64.size - 1)) ∧
    ¬ ServedToTheEnd Server.Sample.config ⟨1⟩
      (run Server.Sample.config Server.Sample.descriptors (Server.Sample.farewell.take 3))
      (Wraparound.turns (UInt64.size - 1)) := by
  have hwrapped : UInt64.size ∣ UInt64.size - 1 + 1 := by decide
  generalize UInt64.size - 1 = n at hwrapped ⊢
  have hconversation := Wraparound.conversation_turns n
  have hserved := Wraparound.servedToTheEnd_turns_iff n
  have hlive := Wraparound.shows_start.live
  rw [Wraparound.start] at hconversation hserved hlive
  refine ⟨rfl, ?_, hconversation, fun hend => hserved.mp hend hwrapped⟩
  rw [hlive]
  exact Option.some_ne_none _

end PulseCore.Network
