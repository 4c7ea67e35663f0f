/-
# A well-behaved client is served to the end

The books of a connection say how far the server is: which requests are submitted,
which responses are released, and what of them was sent. Set against what the client
has sent and received by then, they show that a turn leaves the connection live, or
that it had nothing left to do. Turn by turn this is a statement about whole runs.

Sequence numbers are 64-bit counters, and it takes as many requests as there are
sequence numbers for the comparison of the two counters to go wrong. The statement is
about clients that send fewer.
-/

import PulseCore.Traffic.Client

namespace PulseCore.Network

open PulseCore.Foundation PulseCore.Core PulseCore.Protocol PulseCore.Traffic
open Server (run)

variable {config : ServerConfig} {descriptors : Descriptors} {s s' : Server} {id : ConnectionId}
  {c : Connection} {f : ConnectionFlow} {peer : Peer} {fault : Option CtlFault}

/-- What is known about a live connection between two steps, in terms of its
requests and their responses. -/
structure Books (s : Server) (id : ConnectionId) (c : Connection) (f : ConnectionFlow) : Prop where
  live : s.live id = some (c, f)
  parsed : frameFormat.Splits (s.sockets id.value).received (s.pipeline.requestsOf id) c.undecoded
  requests : f.nextRequestSequence.toNat = (s.pipeline.requestsOf id).length
  ordered : f.nextResponseSequence.toNat ≤ f.nextRequestSequence.toNat
  output : encodeAll
      (((s.pipeline.requestsOf id).map handleRequest).take f.nextResponseSequence.toNat) =
    some ((s.sockets id.value).sent ++ c.unsent)
  responses : ∀ n response, f.completedResponses.lookup n = some response →
    ((s.pipeline.requestsOf id).map handleRequest)[n.toNat]? = some response
  results : ∀ result ∈ s.phase.batch, result.connectionId = id →
    ((s.pipeline.requestsOf id).map handleRequest)[result.sequence.toNat]? = some result.response

/-- After every run the books of a live connection are in order. -/
theorem run_books {actions : List Action} (hhandler : config.options.handler = defaultHandler)
    (hphase : (run config descriptors actions).phase.hasFailed = false)
    (hlive : (run config descriptors actions).live id = some (c, f))
    (hcount : ((run config descriptors actions).pipeline.requestsOf id).length < UInt64.size) :
    Books (run config descriptors actions) id c f := by
  obtain ⟨a, ha, hrest, hparsed, hinv⟩ := run_sessionInv hlive hcount
  rw [← ha] at hphase hlive ⊢
  obtain ⟨hinbox, hbatch, -⟩ := hrest hphase
  have hreply := reply_of_defaultHandler hhandler
  have hanswers : ∀ {n : UInt64} {response : Message},
      Answers config (a.server.pipeline.requestsOf id) n response →
      ((a.server.pipeline.requestsOf id).map handleRequest)[n.toNat]? = some response := by
    rintro n response ⟨request, hrequest, rfl⟩
    rw [List.getElem?_map, hrequest, hreply]
    rfl
  refine ⟨hlive, ?_, hinv.flow.requests, hinv.flow.ordered, ?_, ?_, ?_⟩
  · have hsplits := hparsed.live _ (view_sessions hlive)
    simp only [hinbox, List.append_nil] at hsplits
    exact hsplits
  · have houtput := hinv.stream.output
    rw [hreply, List.map_take] at houtput
    exact houtput
  · intro n response hlookup
    exact hanswers (hinv.flow.responses n response hlookup)
  · intro result hmem hid
    rw [← hbatch] at hmem
    exact hanswers (hinv.flow.results result (List.mem_append_right _ hmem) hid)

/-- A client has received responses that were released. -/
theorem Books.answered_le (h : Books s id c f) (hread : peer.read <+: (s.sockets id.value).sent) :
    peer.answered ≤ f.nextResponseSequence.toNat := by
  have hframes := FrameFormat.frames_isPrefix_of_isPrefix (F := frameFormat)
    (hread.trans (List.prefix_append _ c.unsent))
  rw [frames_encodeAll h.output] at hframes
  exact Nat.le_trans hframes.length_le (List.length_take_le _ _)

/-- The window of a well-behaved client covers what it has sent. -/
theorem Books.window (h : Books s id c f) (hpeer : peer.WellBehaved config.options)
    (hread : peer.read <+: (s.sockets id.value).sent) {bytes rest : List Byte}
    {messages : List Message}
    (hsplits : frameFormat.Splits (c.undecoded ++ bytes) messages rest)
    (hinput : (s.sockets id.value).received ++ bytes <+: peer.written) :
    f.nextRequestSequence.toNat + messages.length ≤ peer.requests.length ∧
      f.nextRequestSequence.toNat + messages.length ≤
        f.nextResponseSequence.toNat + config.options.maxInFlightRequestsPerConnection := by
  have hle := ((h.parsed.extend hsplits).isPrefix_frames.trans
    (FrameFormat.frames_isPrefix_of_isPrefix hinput)).length_le
  have hlength : f.nextRequestSequence.toNat + messages.length ≤ peer.requests.length := by
    rw [List.length_append] at hle
    rw [h.requests]
    exact hle
  have hanswered := h.answered_le hread
  have hwindow := hpeer.window
  exact ⟨hlength, by omega⟩

namespace Server

/-- Behind the write of a connection event nothing happens on its socket. -/
theorem sockets_handleConnectionEvent (hlive : s.live id = some (c, f)) (events : EventMask)
    (io : HandlerIo) {shouldRemove : Bool} {s₁ : Server}
    (hread : readEvent config id events io c f s = .ok shouldRemove s₁) :
    (stateOf (handleConnectionEvent config id events io s)).sockets =
      (stateOf (writeEvent config id events io shouldRemove s₁)).sockets := by
  obtain ⟨hfind, hlookup⟩ := live_eq_some_iff.mp hlive
  simp only [handleConnectionEvent, hfind, hlookup, hread]
  generalize writeEvent config id events io shouldRemove s₁ = outcome
  cases outcome with
  | error exception s₂ => rfl
  | ok remove s₂ =>
      cases remove with
      | true => exact (removeConnection_rest id io.ctl s₂).sockets
      | false => exact (settleConnection_rest id io.ctl s₂).sockets

/-- What a connection event receives, it receives in its first half. -/
theorem recvCalls_handleConnectionEvent (hlive : s.live id = some (c, f)) (events : EventMask)
    (io : HandlerIo) :
    ((stateOf (handleConnectionEvent config id events io s)).sockets id.value).recvCalls =
      ((stateOf (readEvent config id events io c f s)).sockets id.value).recvCalls := by
  cases hread : readEvent config id events io c f s with
  | error exception s₁ =>
      obtain ⟨hfind, hlookup⟩ := live_eq_some_iff.mp hlive
      simp only [handleConnectionEvent, hfind, hlookup, hread]
      rfl
  | ok shouldRemove s₁ =>
      obtain ⟨calls, hcalls, -⟩ := writeEvent_reports config id events io shouldRemove s₁
      rw [sockets_handleConnectionEvent hlive events io hread, hcalls]
      rfl

/-- What a well-behaved client has sent is read and accepted. -/
theorem readAvailable_goesOn (hwf : WellFormed config s) (hbooks : Books s id c f)
    (hpeer : peer.WellBehaved config.options) {maxReadBytes : ℕ} {answers : List RecvResult}
    (hinput : (s.sockets id.value).received ++
      receivedBytes (c.readAvailable maxReadBytes answers).calls <+: peer.written)
    (hbenign : ∀ error ∈ (c.readAvailable maxReadBytes answers).calls.filterMap RecvCall.errno,
      error = .eintr ∨ isWouldBlock error = true) :
    ∃ result, (c.readAvailable maxReadBytes answers).result = .ok result ∧
      result.status ≠ .kProtocolError ∧
      frameFormat.Splits
        (c.undecoded ++ receivedBytes (c.readAvailable maxReadBytes answers).calls)
        result.messages (c.readAvailable maxReadBytes answers).connection.undecoded := by
  have hinv := hwf.live id c f hbooks.live
  have hspec := c.readAvailable_spec maxReadBytes answers
  obtain ⟨more, hsplits, hmessages⟩ := hspec.decoded
  cases hresult : (c.readAvailable maxReadBytes answers).result with
  | error exception =>
      obtain ⟨error, hmem, hintr, hblock, -⟩ := hspec.thrown exception hresult
      rcases hbenign error (mem_filterMap_recvErrno.mpr hmem) with rfl | hblocked
      · exact absurd rfl hintr
      · rw [hblock] at hblocked
        cases hblocked
  | ok result =>
      obtain rfl : result.messages = more := hmessages result hresult
      obtain ⟨messages, bytes, hencode, hwritten, hfit⟩ := hpeer.wellFormed
      obtain ⟨later, rfl⟩ := hinput.trans hwritten
      rw [← hinv.limits] at hfit
      refine ⟨result, rfl, ?_, hsplits⟩
      refine Connection.readAvailable_accepts ?_ ?_ hbooks.parsed hencode hfit hresult
      · rw [hinv.limits]
        exact config.maxInputBuffer_pos
      · rw [hinv.limits]
        exact hinv.input

/-- An event whose messages are all submitted does not end the connection. -/
theorem readEvent_of_submitted (hlive : s.live id = some (c, f)) {events : EventMask}
    {io : HandlerIo} {result : ReadAvailableResult}
    (hreads : (!events.epollErr && events.readable && !f.closeAfterFlush) = true)
    (hresult : (c.readAvailable config.options.maxReadBytesPerEvent io.recvs).result = .ok result)
    (hstatus : result.status ≠ .kProtocolError)
    (hsubmitted : (submitMessages config id result.messages io.workers f s.pipeline).1 = true) :
    ∃ s' c' f', readEvent config id events io c f s = .ok false s' ∧
      s'.live id = some (c', f') := by
  simp only [readEvent, hreads, if_true, hresult]
  generalize c.readAvailable config.options.maxReadBytesPerEvent io.recvs = out
  have hlive' : ((s.putConnection id out.connection).logSocket id out.calls []).live id =
      some (out.connection, f) :=
    (wrote_putConnection hlive out.connection).live_self
  have hpipeline : ((s.putConnection id out.connection).logSocket id out.calls
    []).pipeline = s.pipeline := rfl
  rw [← hpipeline] at hsubmitted
  generalize (s.putConnection id out.connection).logSocket id out.calls [] = s₁
    at hlive' hsubmitted
  obtain ⟨-, hlookup⟩ := live_eq_some_iff.mp hlive'
  simp only [submitWork, hlookup, hsubmitted, if_neg hstatus]
  have hlive₂ := (wrote_putFlow (s := { s₁ with pipeline := (submitMessages config id
    result.messages io.workers f s₁.pipeline).2.2 }) hlive'
    (submitMessages config id result.messages io.workers f s₁.pipeline).2.1).live_self
  split
  · obtain ⟨-, hlookup₂⟩ := live_eq_some_iff.mp hlive₂
    simp only [hlookup₂]
    exact ⟨_, _, _, rfl, (wrote_putFlow hlive₂ _).live_self⟩
  · exact ⟨_, _, _, rfl, hlive₂⟩

/-- The first half of an event of a well-behaved client: what it sent is accepted,
and all of it is submitted. -/
theorem readEvent_goesOn (hwf : WellFormed config s) (hbooks : Books s id c f)
    (hpeer : peer.WellBehaved config.options) (hfew : peer.requests.length < UInt64.size)
    (hreceived : peer.read <+: (s.sockets id.value).sent)
    (hopen : s.pipeline.queue.closed = false) {events : EventMask} {io : HandlerIo}
    (hevents : events.epollErr = false) (hroom : s.findsRoom config id events io = true)
    (hinput : receivedBytes ((stateOf (readEvent config id events io c f s)).sockets
      id.value).recvCalls <+: peer.written)
    (hbenign : ∀ error ∈ ((stateOf (readEvent config id events io c f s)).sockets
      id.value).recvCalls.filterMap RecvCall.errno, error = .eintr ∨ isWouldBlock error = true) :
    ∃ s' c' f', readEvent config id events io c f s = .ok false s' ∧
      s'.live id = some (c', f') := by
  obtain ⟨calls, hlogged, -, hcalls⟩ := readEvent_reports config id events io c f s
  rw [hlogged] at hinput hbenign
  by_cases hreads : (!events.epollErr && events.readable && !f.closeAfterFlush) = true
  · obtain rfl := hcalls hreads
    rw [receivedBytes_append] at hinput
    have hbenignNow : ∀ error ∈ (c.readAvailable config.options.maxReadBytesPerEvent
        io.recvs).calls.filterMap RecvCall.errno, error = .eintr ∨ isWouldBlock error = true := by
      intro error hmem
      apply hbenign error
      rw [List.filterMap_append]
      exact List.mem_append_right _ hmem
    obtain ⟨result, hresult, hstatus, hsplits⟩ :=
      readAvailable_goesOn hwf hbooks hpeer hinput hbenignNow
    obtain ⟨hlength, hwindow⟩ := hbooks.window hpeer hreceived hsplits hinput
    have hopenFlow := hreads
    simp only [Bool.and_eq_true, Bool.not_eq_true'] at hopenFlow
    simp only [findsRoom, hbooks.live, hopenFlow.1.2, hopenFlow.2, Bool.not_false, Bool.and_self,
      if_true, hresult] at hroom
    have hsubmitted := submitMessages_submitted result.messages io.workers hopen hbooks.ordered
      hwindow (Nat.lt_of_le_of_lt hlength hfew) hroom
    exact readEvent_of_submitted hbooks.live hreads hresult hstatus hsubmitted
  · refine ⟨s, c, f, ?_, hbooks.live⟩
    rw [readEvent, if_neg hreads, hevents]

/-- An event of a well-behaved client leaves its connection live, or it had nothing
left to do. -/
theorem handleConnectionEvent_kept (hwf : WellFormed config s) (hunended : s.Unended id)
    (hbooks : Books s id c f) (hpeer : peer.WellBehaved config.options)
    (hfew : peer.requests.length < UInt64.size)
    (hreceived : peer.read <+: (s.sockets id.value).sent)
    (hopen : s.pipeline.queue.closed = false) {events : EventMask} {io : HandlerIo}
    (hevents : events.epollErr = false) (hroom : s.findsRoom config id events io = true)
    (hinput : ((stateOf (handleConnectionEvent config id events io s)).sockets
      id.value).received <+: peer.written)
    (hbenign : ∀ error ∈ ((stateOf (handleConnectionEvent config id events io s)).sockets
      id.value).errnos, error = .eintr ∨ isWouldBlock error = true) :
    (stateOf (handleConnectionEvent config id events io s)).live id ≠ none ∨
      id ∈ (stateOf (handleConnectionEvent config id events io s)).drained := by
  have hlive := hbooks.live
  have hrecvs : ((stateOf (handleConnectionEvent config id events io s)).sockets
      id.value).recvCalls = _ := recvCalls_handleConnectionEvent hlive events io
  rw [Socket.received, hrecvs] at hinput
  have hbenignRecv : ∀ error ∈ ((stateOf (readEvent config id events io c f s)).sockets
      id.value).recvCalls.filterMap RecvCall.errno,
      error = .eintr ∨ isWouldBlock error = true := by
    intro error hmem
    rw [← hrecvs] at hmem
    exact hbenign error (List.mem_append_left _ hmem)
  obtain ⟨s₁, c₁, f₁, hread, hlive₁⟩ := readEvent_goesOn hwf hbooks hpeer hfew hreceived hopen
    hevents hroom hinput hbenignRecv
  rw [sockets_handleConnectionEvent hlive events io hread] at hbenign
  obtain ⟨s₂, c₂, hwrite, hlive₂⟩ := writeEvent_goesOn hlive₁ events io hbenign
  obtain ⟨rest, hreadMoves, -⟩ : ∃ rest, Moves config {id} (.idle s []) _ ∧ _ :=
    readEvent_moves (Set.mem_singleton id) hlive rfl hunended events io
  have hwf₁ := hreadMoves.wellFormed hwf
  simp only [Activation.idle, hread, stateOf_ok] at hwf₁
  have hwriteMoves : Moves config {id} (.idle s₁ []) _ :=
    writeEvent_moves hwf₁ (Set.mem_singleton id) events io false
  have hwf₂ := hwriteMoves.wellFormed hwf₁
  simp only [Activation.idle, hwrite, stateOf_ok] at hwf₂
  obtain ⟨hfind, hlookup⟩ := live_eq_some_iff.mp hlive
  simp only [handleConnectionEvent, hfind, hlookup, hread, hwrite]
  exact settleConnection_live_or_drained hwf₂ hlive₂ io.ctl

theorem lookup_emplace {responses : AList (fun _ : UInt64 => Message)} {sequence n : UInt64}
    {response other : Message}
    (hlookup : (emplace responses sequence response).lookup n = some other) :
    responses.lookup n = some other ∨ n = sequence ∧ other = response := by
  unfold emplace at hlookup
  split at hlookup
  · exact .inl hlookup
  · by_cases hn : n = sequence
    · subst hn
      rw [AList.lookup_insert] at hlookup
      exact .inr ⟨rfl, (Option.some.inj hlookup).symm⟩
    · rw [AList.lookup_insert_ne hn] at hlookup
      exact .inl hlookup

/-- A response of a well-behaved client is queued, and its connection stays live, or
it had nothing left to do. -/
theorem handleCompletedWork_kept (hwf : WellFormed config s) {result : WorkResult}
    (hbooks : Books s result.connectionId c f) (hmem : result ∈ s.phase.batch)
    (hpeer : peer.WellBehaved config.options) (hfew : peer.requests.length < UInt64.size)
    (hreceived : peer.read <+: (s.sockets result.connectionId.value).sent)
    (hinput : (s.sockets result.connectionId.value).received <+: peer.written)
    (fault : Option CtlFault) :
    (stateOf (handleCompletedWork result fault s)).live result.connectionId ≠ none ∨
      result.connectionId ∈ (stateOf (handleCompletedWork result fault s)).drained := by
  have hlive := hbooks.live
  obtain ⟨hfind, hlookup⟩ := live_eq_some_iff.mp hlive
  obtain ⟨queued, c', f', hrelease⟩ := exists_released c
    { f with
      completedResponses := emplace f.completedResponses result.sequence result.response }
  have hrequests : s.pipeline.requestsOf result.connectionId <+: peer.requests :=
    hbooks.parsed.isPrefix_frames.trans (FrameFormat.frames_isPrefix_of_isPrefix hinput)
  have hfits : ∀ n unsent response frame,
      encodeAll (((s.pipeline.requestsOf result.connectionId).map handleRequest).take n) =
        some ((s.sockets result.connectionId.value).sent ++ unsent) →
      ((s.pipeline.requestsOf result.connectionId).map handleRequest)[n]? = some response →
      encodeMessage response = some frame →
      frame.length + unsent.length ≤ c.limits.maxOutputBuffer := by
    intro n unsent response frame houtput hresponse hframe
    rw [(hwf.live _ c f hlive).limits]
    exact hpeer.response_fits (hrequests.map handleRequest) hreceived houtput hresponse hframe
  have hqueued : queued = true := by
    rw [show queued = (queued, c', f').1 from rfl, ← hrelease]
    refine releaseReady_queued ?_ ?_ hfits _ rfl hbooks.output ?_
    · rw [List.length_map]
      exact Nat.lt_of_le_of_lt hrequests.length_le hfew
    · intro response hresponse
      obtain ⟨request, hrequest, rfl⟩ := List.mem_map.mp hresponse
      obtain ⟨buffer, n, hdecode⟩ := hbooks.parsed.decoded_of_mem hrequest
      exact Option.isSome_iff_exists.mp
        (encodeMessage_handleOwnedRequest (tryDecodeFrame_decoded hdecode).2.2.1)
    · intro n response hready
      rcases lookup_emplace hready with hold | ⟨rfl, rfl⟩
      · exact hbooks.responses n response hold
      · exact hbooks.results result hmem rfl
  subst hqueued
  have hmoves : Moves config {result.connectionId} (.idle s [result]) _ :=
    released_moves (Set.mem_singleton _) rfl hlive hrelease
  have hput := wrote_putConnection hlive c'
  have hwrote := hput.trans (wrote_putFlow hput.live_self f')
  simp only [handleCompletedWork, hfind, hlookup, flushReadyResponses_eq hrelease, Bool.not_true,
    Bool.false_eq_true, if_false]
  exact settleConnection_live_or_drained (hmoves.wellFormed hwf) hwrote.live_self fault

end Server

theorem live_proceed (next : Phase) (outcome : Outcome Unit) (id : ConnectionId) :
    (Server.proceed next outcome).live id = (Server.stateOf outcome).live id := by
  cases outcome <;> rfl

theorem drained_proceed (next : Phase) (outcome : Outcome Unit) :
    (Server.proceed next outcome).drained = (Server.stateOf outcome).drained := by
  cases outcome <;> rfl

/-- The key of an event that goes to a connection is its number. -/
theorem value_of_route {key : UInt64} (hroute : route key = .connection id) : id.value = key := by
  unfold route at hroute
  split at hroute
  · cases hroute
  split at hroute
  · cases hroute
  split at hroute
  · cases hroute
  cases hroute
  rfl

/-- The requests of a connection are requests of its client. -/
theorem requestsOf_isPrefix {actions : List Action}
    (hinput : ((run config descriptors actions).sockets id.value).received <+: peer.written) :
    (run config descriptors actions).pipeline.requestsOf id <+: peer.requests := by
  obtain ⟨a, ha, -, -, hsound⟩ := run_sound config descriptors actions
  rw [← ha] at hinput ⊢
  exact (hsound.parsed id).frames.trans (FrameFormat.frames_isPrefix_of_isPrefix hinput)

/-- The turn dispatches an event. -/
theorem dispatch_kept {actions : List Action} {io : Server.HandlerIo} {event : EpollEvent}
    {rest : List EpollEvent} (hhandler : config.options.handler = defaultHandler)
    (hphase : (run config descriptors actions).phase = .dispatching (event :: rest))
    (hlive : (run config descriptors actions).live id = some (c, f))
    (hpeer : peer.WellBehaved config.options)
    (hregular : Turn.Regular config id (run config descriptors actions) ⟨peer, .dispatch io⟩)
    (hfew : peer.requests.length < UInt64.size) :
    (run config descriptors (actions ++ [.dispatch io])).live id ≠ none ∨
      id ∈ (run config descriptors (actions ++ [.dispatch io])).drained := by
  have hwf := Server.run_wellFormed config descriptors actions
  obtain ⟨a, ha, -, hrest⟩ := Server.run_moves config descriptors actions
  have hbooks : ((run config descriptors actions).sockets id.value).received <+: peer.written →
      Books (run config descriptors actions) id c f := by
    intro hinput
    exact run_books hhandler (by rw [hphase]; rfl) hlive
      (Nat.lt_of_le_of_lt (requestsOf_isPrefix hinput).length_le hfew)
  rw [Server.run_append_singleton]
  rw [← ha] at hphase hlive hregular hwf hbooks ⊢
  obtain ⟨hinbox, -, hsettled⟩ := hrest (by rw [hphase]; rfl)
  have hstep : Server.step config a.server (.dispatch io) =
      Server.dispatchEvent config event rest io a.server := by
    simp only [Server.step, hphase, hregular.running, Bool.false_eq_true, if_false]
  have hundisturbed := hregular.undisturbed
  simp only [Server.undisturbed, hphase, Bool.or_eq_true, Bool.and_eq_true, Bool.not_eq_true',
    decide_eq_true_eq] at hundisturbed
  have hinput := hregular.input
  have hbenign := hregular.errnos
  have hkept : ∀ {s' : Server}, s'.live id = some (c, f) → s'.live id ≠ none ∨ id ∈ s'.drained :=
    fun hsome => .inl fun hnone => Option.some_ne_none _ (hsome.symm.trans hnone)
  simp only [hstep, Server.dispatchEvent] at hinput hbenign ⊢
  cases hroute : route event.key with
  | listener =>
      have hmoves : Moves config ∅ a _ := Server.handleListenerEvent_moves io.accepts hwf hinbox
      apply hkept
      rw [live_proceed]
      exact hmoves.live_of_notMem hwf (Set.notMem_empty id) hlive
  | workerWakeup => exact hkept hlive
  | shutdownSignal =>
      have hmoves : Moves config ∅ a _ := Server.handleShutdownSignal_moves io.signals
      apply hkept
      rw [live_proceed]
      exact hmoves.live_of_notMem hwf (Set.notMem_empty id) hlive
  | connection other =>
      simp only [hroute, sockets_proceed] at hinput hbenign
      simp only [live_proceed, drained_proceed]
      by_cases hother : other = id
      · subst hother
        obtain ⟨hevents, hroom⟩ := hundisturbed.resolve_left
          (not_not.mpr (value_of_route hroute).symm)
        have hreceived : (a.server.sockets other.value).received <+: peer.written := by
          obtain ⟨calls, hcalls, -⟩ :=
            Server.readEvent_reports config other event.events io c f a.server
          rw [Socket.received, Server.recvCalls_handleConnectionEvent hlive, hcalls,
            receivedBytes_append] at hinput
          exact (List.prefix_append _ _).trans hinput
        exact Server.handleConnectionEvent_kept hwf (hsettled other).unended (hbooks hreceived)
          hpeer hfew hregular.output hregular.accepting hevents hroom hinput hbenign
      · obtain ⟨inbox, hmoves, -⟩ := Server.handleConnectionEvent_moves hwf hinbox
          (hsettled other).unended event.events io
        exact hkept (hmoves.live_of_notMem hwf (fun hmem => hother hmem.symm) hlive)

/-- The turn handles a result. -/
theorem complete_kept {actions : List Action} {fault : Option CtlFault} {result : WorkResult}
    {batch : List WorkResult} {rest : List EpollEvent}
    (hhandler : config.options.handler = defaultHandler)
    (hphase : (run config descriptors actions).phase = .handling (result :: batch) rest)
    (hlive : (run config descriptors actions).live id = some (c, f))
    (hpeer : peer.WellBehaved config.options)
    (hregular : Turn.Regular config id (run config descriptors actions) ⟨peer, .complete fault⟩)
    (hfew : peer.requests.length < UInt64.size) :
    (run config descriptors (actions ++ [.complete fault])).live id ≠ none ∨
      id ∈ (run config descriptors (actions ++ [.complete fault])).drained := by
  have hwf := Server.run_wellFormed config descriptors actions
  obtain ⟨a, ha, -, hrest⟩ := Server.run_moves config descriptors actions
  have hstep : Server.step config (run config descriptors actions) (.complete fault) =
      Server.proceed (.handling batch rest)
        (Server.handleCompletedWork result fault (run config descriptors actions)) := by
    simp only [Server.step, hphase]
  have hinput := hregular.input
  simp only [hstep, sockets_proceed,
    (Server.handleCompletedWork_rest result fault _).sockets] at hinput
  have hbooks : Books (run config descriptors actions) id c f :=
    run_books hhandler (by rw [hphase]; rfl) hlive
      (Nat.lt_of_le_of_lt (requestsOf_isPrefix hinput).length_le hfew)
  rw [Server.run_append_singleton, hstep, live_proceed, drained_proceed]
  rw [← ha] at hphase hlive hregular hwf hbooks hinput ⊢
  obtain ⟨hinbox, hbatch, -⟩ := hrest (by rw [hphase]; rfl)
  rw [hphase] at hbatch
  by_cases hid : result.connectionId = id
  · subst hid
    have hmem : result ∈ a.server.phase.batch := by
      rw [hphase]
      exact List.mem_cons_self
    exact Server.handleCompletedWork_kept hwf hbooks hmem hpeer hfew hregular.output hinput fault
  · have hmoves := Server.handleCompletedWork_moves hwf hinbox hbatch fault
    have hsame := hmoves.live_of_notMem hwf (fun hmem => hid hmem.symm) hlive
    exact .inl fun hnone => Option.some_ne_none _ (hsame.symm.trans hnone)

/-- A turn leaves the connection live, or it had nothing left to do. -/
theorem turn_kept {actions : List Action} {turn : Turn}
    (hhandler : config.options.handler = defaultHandler)
    (hlive : (run config descriptors actions).live id = some (c, f))
    (hpeer : turn.peer.WellBehaved config.options)
    (hregular : turn.Regular config id (run config descriptors actions))
    (hfew : turn.peer.requests.length < UInt64.size) :
    (run config descriptors (actions ++ [turn.action])).live id ≠ none ∨
      id ∈ (run config descriptors (actions ++ [turn.action])).drained := by
  obtain ⟨peer, action⟩ := turn
  -- All other steps leave the tables alone.
  have hsame : (Server.step config (run config descriptors actions) action).live id =
        (run config descriptors actions).live id →
      (run config descriptors (actions ++ [action])).live id ≠ none ∨
        id ∈ (run config descriptors (actions ++ [action])).drained := by
    intro hstep
    rw [Server.run_append_singleton, hstep, hlive]
    exact .inl (Option.some_ne_none _)
  cases action with
  | worker | requestStop | notifyStop | stopPool => exact hsame rfl
  | wait answer =>
      apply hsame
      simp only [Server.step]
      split
      · split
        · rfl
        split
        · rfl
        split <;> rfl
      · rfl
  | dispatch io =>
      cases hphase : (run config descriptors actions).phase with
      | dispatching events =>
          cases events with
          | nil => exact hsame (by simp only [Server.step, hphase]; rfl)
          | cons event rest => exact dispatch_kept hhandler hphase hlive hpeer hregular hfew
      | _ => exact hsame (by simp only [Server.step, hphase])
  | readWakeup interrupted =>
      apply hsame
      simp only [Server.step]
      split
      · split <;> rfl
      · rfl
  | swapCompleted =>
      apply hsame
      simp only [Server.step]
      split <;> rfl
  | complete fault =>
      cases hphase : (run config descriptors actions).phase with
      | handling batch rest =>
          cases batch with
          | nil => exact hsame (by simp only [Server.step, hphase]; rfl)
          | cons result batch => exact complete_kept hhandler hphase hlive hpeer hregular hfew
      | _ => exact hsame (by simp only [Server.step, hphase])
  | close faults =>
      apply hsame
      simp only [Server.step, hregular.running, Bool.false_eq_true, if_false]
      split <;> rfl

/-- A connection that had nothing left to do: the client has closed its side, and
all its responses were sent. -/
theorem served_of_drained {actions : List Action} {turn : Turn}
    (hhandler : config.options.handler = defaultHandler)
    (hregular : turn.Regular config id (run config descriptors actions))
    (hfew : turn.peer.requests.length < UInt64.size)
    (hdrained : id ∈ (run config descriptors (actions ++ [turn.action])).drained) :
    turn.peer.closed = true ∧
      encodeAll (turn.peer.requests.map handleRequest) =
        some ((run config descriptors (actions ++ [turn.action])).sockets id.value).sent := by
  obtain ⟨a, ha, -, -, hsound⟩ := run_sound config descriptors (actions ++ [turn.action])
  have hinput := hregular.input
  have hended := hregular.ended
  rw [← Server.run_append_singleton] at hinput hended
  have hcount := Nat.lt_of_le_of_lt (requestsOf_isPrefix hinput).length_le hfew
  rw [← ha] at hdrained hcount hended ⊢
  have hinv := (hsound.connection id hcount).drained hdrained
  obtain ⟨hclosed, hreceived⟩ := hended hinv.peerClosed
  refine ⟨hclosed, ?_⟩
  have hrequests : a.view.requests id = turn.peer.requests := by
    rw [hinv.requests, Peer.requests, ← hreceived]
    rfl
  have hsent := hinv.sent
  rw [hrequests] at hsent
  rw [reply_of_defaultHandler hhandler] at hsent
  exact hsent

theorem afterTurns_append (config : ServerConfig) (s : Server) (first second : List Turn) :
    afterTurns config s (first ++ second) =
      afterTurns config (afterTurns config s first) second := by
  rw [afterTurns, List.map_append, List.foldl_append]
  rfl

/-- Every turn has the same client. -/
theorem afterTurns_map (config : ServerConfig) (s : Server) (peer : Peer) (actions : List Action) :
    afterTurns config s (actions.map (Turn.mk peer)) =
      actions.foldl (Server.step config) s := by
  have hactions : (actions.map (Turn.mk peer)).map Turn.action = actions := by
    rw [List.map_map]
    exact List.map_id actions
  rw [afterTurns, hactions]

/-- A client of the default handler that is well behaved, and that sends fewer requests
than there are sequence numbers, is not disconnected: at every moment its connection
is live, or it was removed when the client had closed its side and all its responses
had been sent. -/
theorem well_behaved_client_served (config : ServerConfig) (descriptors : Descriptors)
    (before : List Action) (turns : List Turn) (id : ConnectionId)
    (hhandler : config.options.handler = defaultHandler)
    (haccepted : (run config descriptors before).live id ≠ none)
    (hturns : Conversation config id (run config descriptors before) turns)
    (hfew : ∀ turn ∈ turns, turn.peer.requests.length < UInt64.size) :
    ServedToTheEnd config id (run config descriptors before) turns := by
  induction turns generalizing before with
  | nil => exact .inl haccepted
  | cons turn turns ih =>
      obtain ⟨hturn, hlater⟩ := hturns
      obtain ⟨hpeer, hregular⟩ := hturn haccepted
      obtain ⟨hfewNow, hfewLater⟩ := List.forall_mem_cons.mp hfew
      obtain ⟨⟨c, f⟩, hlive⟩ := Option.ne_none_iff_exists'.mp haccepted
      rw [← Server.run_append_singleton] at hlater
      rcases turn_kept hhandler hlive hpeer hregular hfewNow with hkept | hdrained
      · -- The later turns are those of a run that is one step longer.
        have hserved := ih (before ++ [turn.action]) hkept hlater hfewLater
        rw [Server.run_append_singleton] at hserved
        refine hserved.imp_right ?_
        rintro ⟨done, last, todo, rfl, hlast⟩
        exact ⟨turn :: done, last, todo, rfl, hlast⟩
      · obtain ⟨hclosed, hsent⟩ := served_of_drained hhandler hregular hfewNow hdrained
        rw [Server.run_append_singleton] at hsent
        exact .inr ⟨[], turn, turns, rfl, haccepted, hclosed, hsent⟩

/-! ## A sample conversation -/

instance (config : ServerConfig) (id : ConnectionId) (s : Server) (turn : Turn) :
    Decidable (turn.Regular config id s) :=
  decidable_of_iff
    (s.stopRequested = false ∧ s.pipeline.queue.closed = false ∧
      s.undisturbed config id turn.action = true ∧
      (∀ error ∈ ((Server.step config s turn.action).sockets id.value).errnos,
        error = .eintr ∨ isWouldBlock error = true) ∧
      ((Server.step config s turn.action).sockets id.value).received <+: turn.peer.written ∧
      turn.peer.read <+: (s.sockets id.value).sent ∧
      (((Server.step config s turn.action).sockets id.value).peerClosed = true →
        turn.peer.closed = true ∧
          ((Server.step config s turn.action).sockets id.value).received = turn.peer.written))
    ⟨fun ⟨hrunning, haccepting, hundisturbed, herrnos, hinput, houtput, hended⟩ =>
        ⟨hrunning, haccepting, hundisturbed, herrnos, hinput, houtput, hended⟩,
      fun h => ⟨h.running, h.accepting, h.undisturbed, h.errnos, h.input, h.output, h.ended⟩⟩

/-- Every turn is regular. -/
def AllRegular (config : ServerConfig) (id : ConnectionId) : Server → List Turn → Prop
  | _, [] => True
  | s, turn :: turns =>
      turn.Regular config id s ∧ AllRegular config id (Server.step config s turn.action) turns

instance decidableAllRegular (config : ServerConfig) (id : ConnectionId) :
    ∀ (s : Server) (turns : List Turn), Decidable (AllRegular config id s turns)
  | _, [] => .isTrue trivial
  | s, turn :: turns =>
      have := decidableAllRegular config id (Server.step config s turn.action) turns
      inferInstanceAs (Decidable (_ ∧ _))

theorem conversation_of_allRegular {turns : List Turn}
    (hpeers : ∀ turn ∈ turns, turn.peer.WellBehaved config.options)
    (hregular : AllRegular config id s turns) : Conversation config id s turns := by
  induction turns generalizing s with
  | nil => trivial
  | cons turn turns ih =>
      obtain ⟨hnow, hlater⟩ := List.forall_mem_cons.mp hpeers
      exact ⟨fun _ => ⟨hnow, hregular.1⟩, ih hlater hregular.2⟩

theorem allRegular_append {first second : List Turn} :
    AllRegular config id s (first ++ second) ↔
      AllRegular config id s first ∧ AllRegular config id (afterTurns config s first) second := by
  induction first generalizing s with
  | nil => exact (iff_of_eq (true_and _)).symm
  | cons turn first ih => exact (and_congr_right fun _ => ih).trans and_assoc.symm

/-- A message that is repeated is a frame that is repeated. -/
theorem encodeAll_replicate {message : Message} {frame : List Byte}
    (hframe : encodeMessage message = some frame) (n : ℕ) :
    encodeAll (List.replicate n message) = some (List.replicate n frame).flatten := by
  induction n with
  | zero => rfl
  | succ n ih =>
      rw [List.replicate_succ, List.replicate_succ, encodeAll, hframe, ih, List.flatten_cons]

namespace Client.Sample

def message : Message := ⟨.kEchoRequest, 7, [1, 2, 3]⟩

def response : List Byte := (encodeMessage ⟨.kEchoResponse, 7, [1, 2, 3]⟩).getD []

theorem encodeMessage_message : encodeMessage message = some Server.Sample.request := by
  decide +kernel

theorem encodeMessage_response : encodeMessage (handleRequest message) = some response := by
  decide +kernel

/-- A client that repeats one request, and has one response still to come. -/
def client (n : ℕ) (closed : Bool) : Peer where
  written := (List.replicate (n + 1) Server.Sample.request).flatten
  read := (List.replicate n response).flatten
  closed := closed

theorem requests_client (n : ℕ) (closed : Bool) :
    (client n closed).requests = List.replicate (n + 1) message :=
  frames_encodeAll (encodeAll_replicate encodeMessage_message (n + 1))

theorem answered_client (n : ℕ) (closed : Bool) : (client n closed).answered = n := by
  have hframes := frames_encodeAll (encodeAll_replicate encodeMessage_response n)
  rw [Peer.answered, client, hframes, List.length_replicate]

theorem wellBehaved_client (n : ℕ) (closed : Bool) :
    (client n closed).WellBehaved Server.Sample.config.options := by
  refine ⟨⟨_, _, encodeAll_replicate encodeMessage_message (n + 1), List.prefix_rfl, ?_⟩, ?_, ?_⟩
  · intro other hmem
    rw [List.eq_of_mem_replicate hmem]
    decide
  · rw [requests_client, answered_client, List.length_replicate, Nat.add_sub_cancel_left]
    decide
  · intro bytes hbytes
    rw [Peer.outstanding, requests_client, answered_client, List.drop_replicate,
      Nat.add_sub_cancel_left, List.map_replicate,
      encodeAll_replicate encodeMessage_response] at hbytes
    cases hbytes
    decide +kernel

/-- The client has sent one request and closed its side; the rest is the sample run. -/
def turns : List Turn := (Server.Sample.farewell.drop 3).map (Turn.mk (client 0 true))

end Client.Sample

/-- In the sample run, the client is served until it has got its response. -/
theorem well_behaved_client_served_sample :
    (run Server.Sample.config Server.Sample.descriptors
      (Server.Sample.farewell.take 3)).live ⟨1⟩ ≠ none ∧
    ServedToTheEnd Server.Sample.config ⟨1⟩
      (run Server.Sample.config Server.Sample.descriptors (Server.Sample.farewell.take 3))
      Client.Sample.turns := by
  have hsome : ((run Server.Sample.config Server.Sample.descriptors
      (Server.Sample.farewell.take 3)).live ⟨1⟩).isSome = true := by decide +kernel
  have haccepted : (run Server.Sample.config Server.Sample.descriptors
      (Server.Sample.farewell.take 3)).live ⟨1⟩ ≠ none :=
    Option.isSome_iff_ne_none.mp hsome
  have hpeers : ∀ turn ∈ Client.Sample.turns, turn.peer = Client.Sample.client 0 true := by
    intro turn hmem
    obtain ⟨action, -, rfl⟩ := List.mem_map.mp hmem
    rfl
  refine ⟨haccepted, well_behaved_client_served _ _ _ _ _ rfl haccepted
    (conversation_of_allRegular ?_ (by decide +kernel)) ?_⟩
  · intro turn hmem
    rw [hpeers turn hmem]
    exact Client.Sample.wellBehaved_client 0 true
  · intro turn hmem
    rw [hpeers turn hmem, Client.Sample.requests_client, List.length_replicate]
    decide

end PulseCore.Network
