/-
# A well-behaved client

The server closes a connection for five reasons: the decoder rejects its input, a
frame does not fit into the input buffer, it has too many requests in flight, its
output does not fit into the output buffer, or it has nothing left to do. A client
can keep clear of the first four by what it observes itself: it sends well-formed
frames that are not too long, and it waits for responses when too many of them, or
too many bytes of them, are still to come.

The client is not part of the server, and neither is the kernel in between. A run
of the server is therefore accompanied by the client as it is at each step: what it
has sent and received by then, and whether it has closed its side. A handler
receives before it sends, so for a step that runs a handler this is the client when
the last `recv` of that handler returns.
-/

import PulseCore.Network.InputLaw
import PulseCore.Network.Isolation
import PulseCore.Network.OutputLaw
import PulseCore.Network.Wakeup
import PulseCore.Traffic.Responses

namespace PulseCore.Network

open PulseCore.Foundation PulseCore.Core PulseCore.Protocol PulseCore.Traffic
open Server (run)

/-- A client at one moment. -/
structure Peer where
  /-- The bytes it has sent. -/
  written : List Byte
  /-- The bytes it has received. -/
  read : List Byte
  /-- It has closed its side. -/
  closed : Bool

namespace Peer

/-- The requests that it has sent completely. -/
def requests (peer : Peer) : List Message := frameFormat.frames peer.written

/-- How many responses it has received completely. -/
def answered (peer : Peer) : ℕ := (frameFormat.frames peer.read).length

/-- The requests whose responses it has not received completely. -/
def outstanding (peer : Peer) : List Message := peer.requests.drop peer.answered

/-- What a client does that keeps to the limits of a server: it sends well-formed
frames that fit into the input buffer, and of the requests that are outstanding
there are not too many, and their responses fit into the output buffer. -/
structure WellBehaved (options : EpollEchoServerOptions) (peer : Peer) : Prop where
  wellFormed : ∃ messages bytes, encodeAll messages = some bytes ∧ peer.written <+: bytes ∧
    ∀ message ∈ messages,
      kHeaderSize + message.payload.length ≤ options.connectionLimits.maxInputBuffer
  window : peer.requests.length - peer.answered ≤ options.maxInFlightRequestsPerConnection
  output : ∀ bytes, encodeAll (peer.outstanding.map handleRequest) = some bytes →
    bytes.length ≤ options.connectionLimits.maxOutputBuffer

end Peer

/-! ## The server and the kernel -/

/-- The queue has room whenever one of the messages is submitted. -/
def hasRoomForEach (config : ServerConfig) (id : ConnectionId) :
    List Message → List (List WorkerAction) → ConnectionFlow → Pipeline → Bool
  | [], _, _, _ => true
  | message :: messages, steps, flow, pipeline =>
      let inFlight := flow.nextRequestSequence - flow.nextResponseSequence
      -- Nothing more is submitted.
      if inFlight.toNat ≥ config.options.maxInFlightRequestsPerConnection then true
      else
        let pipeline := pipeline.workAll config.options.handler (steps.headD [])
        pipeline.queue.items.length < pipeline.queue.capacity &&
          match pipeline.trySubmit ⟨id, flow.nextRequestSequence, message⟩ with
          | (false, _) => true
          | (true, pipeline) =>
              hasRoomForEach config id messages steps.tail
                { flow with nextRequestSequence := flow.nextRequestSequence + 1 } pipeline

namespace Server

/-- The queue has room for every request that an event of a connection submits. -/
def findsRoom (config : ServerConfig) (id : ConnectionId) (events : EventMask) (io : HandlerIo)
    (s : Server) : Bool :=
  match s.live id with
  | none => true
  | some (connection, flow) =>
      if events.readable && !flow.closeAfterFlush then
        match (connection.readAvailable config.options.maxReadBytesPerEvent io.recvs).result with
        | .ok result => hasRoomForEach config id result.messages io.workers flow s.pipeline
        | .error _ => true
      else true

/-- A step that dispatches an event of the connection finds no error on its socket,
and room in the queue. -/
def undisturbed (config : ServerConfig) (id : ConnectionId) (s : Server) : Action → Bool
  | .dispatch io =>
      match s.phase with
      | .dispatching (event :: _) =>
          event.key ≠ id.value ||
            (!event.events.epollErr && s.findsRoom config id event.events io)
      | _ => true
  | _ => true

end Server

/-- A step of the server, and the client at that moment. -/
structure Turn where
  peer : Peer
  action : Action

namespace Turn

/-- What is taken for granted about a step: the server is not stopped, the socket of
the connection reports no error, the queue is not full when one of its requests is
submitted, and the kernel passes on what each side has sent, in order, and the end
of it when the client has closed its side. -/
structure Regular (config : ServerConfig) (id : ConnectionId) (s : Server) (turn : Turn) :
    Prop where
  running : s.stopRequested = false
  accepting : s.pipeline.queue.closed = false
  undisturbed : s.undisturbed config id turn.action = true
  errnos : ∀ error ∈ ((Server.step config s turn.action).sockets id.value).errnos,
    error = .eintr ∨ isWouldBlock error = true
  input : ((Server.step config s turn.action).sockets id.value).received <+: turn.peer.written
  output : turn.peer.read <+: (s.sockets id.value).sent
  ended : ((Server.step config s turn.action).sockets id.value).peerClosed = true →
    turn.peer.closed = true ∧
      ((Server.step config s turn.action).sockets id.value).received = turn.peer.written

end Turn

/-- The client is well behaved in every turn, and the turns are regular, as long as
the connection is live. -/
def Conversation (config : ServerConfig) (id : ConnectionId) : Server → List Turn → Prop
  | _, [] => True
  | s, turn :: turns =>
      (s.live id ≠ none → turn.peer.WellBehaved config.options ∧ turn.Regular config id s) ∧
        Conversation config id (Server.step config s turn.action) turns

/-- The server behind some turns. -/
def afterTurns (config : ServerConfig) (s : Server) (turns : List Turn) : Server :=
  (turns.map Turn.action).foldl (Server.step config) s

/-- The connection is live behind the turns, or it was removed in one of them, when
the client had closed its side and all its responses had been sent. -/
def ServedToTheEnd (config : ServerConfig) (id : ConnectionId) (s : Server)
    (turns : List Turn) : Prop :=
  (afterTurns config s turns).live id ≠ none ∨
    ∃ done turn todo, turns = done ++ turn :: todo ∧
      (afterTurns config s done).live id ≠ none ∧ turn.peer.closed = true ∧
      encodeAll (turn.peer.requests.map handleRequest) =
        some ((afterTurns config s (done ++ [turn])).sockets id.value).sent

variable {config : ServerConfig} {descriptors : Descriptors} {s s' : Server} {id : ConnectionId}
  {c : Connection} {f : ConnectionFlow} {peer : Peer} {fault : Option CtlFault}

/-- The stream of a well-behaved client is never rejected: a frame that is not
complete yet becomes complete within the limit. -/
theorem Connection.readAvailable_accepts {maxReadBytes : ℕ} {answers : List RecvResult}
    {received later : List Byte} {before messages : List Message}
    {result : ReadAvailableResult} (hpos : 0 < c.limits.maxInputBuffer)
    (hbounded : c.undecoded.length ≤ c.limits.maxInputBuffer)
    (hparsed : frameFormat.Splits received before c.undecoded)
    (hencode : encodeAll messages =
      some (received ++ receivedBytes (c.readAvailable maxReadBytes answers).calls ++ later))
    (hfit : ∀ message ∈ messages,
      kHeaderSize + message.payload.length ≤ c.limits.maxInputBuffer)
    (hok : (c.readAvailable maxReadBytes answers).result = .ok result) :
    result.status ≠ .kProtocolError := by
  intro herror
  have hspec := c.readAvailable_spec maxReadBytes answers
  have hinput : ReadInput ⟨c, [], false, 0⟩ (c.readAvailable maxReadBytes answers) :=
    readLoop_input maxReadBytes answers ⟨c, [], false, 0⟩ hbounded
  obtain ⟨more, hsplits, -⟩ := hspec.decoded
  obtain ⟨remaining, rfl, hremaining⟩ := encodeAll_remaining hencode (hparsed.extend hsplits)
  have hrejected := hinput.rejected result hok herror
  generalize (c.readAvailable maxReadBytes answers).connection.undecoded = rest
    at hremaining hrejected
  cases remaining with
  | nil =>
      -- Everything is decoded.
      obtain ⟨rfl, -⟩ := List.append_eq_nil_iff.mp (Option.some.inj hremaining).symm
      rcases hrejected with ⟨e, -, hdecode⟩ | ⟨-, -, hfull⟩
      · cases hdecode
      · exact absurd hpos (Nat.not_lt.mpr hfull)
  | cons message remaining =>
      rw [encodeAll] at hremaining
      split at hremaining
      · next frame behind hframe hbehind =>
          have hnext : tryDecodeFrame (rest ++ later) =
              .decoded message (kHeaderSize + message.payload.length) := by
            rw [← Option.some.inj hremaining]
            exact tryDecodeFrame_encoded hframe behind
          rcases hrejected with ⟨e, -, hdecode⟩ | ⟨-, hdecode, hfull⟩
          · have hreject := frameFormat.error_append later hdecode
            rw [show frameFormat.decode (rest ++ later) = _ from hnext] at hreject
            cases hreject
          · have hsize := hfit message (List.mem_append_right _ List.mem_cons_self)
            have hfront := tryDecodeFrame_of_append hnext (Nat.le_trans hsize hfull)
            rw [hdecode] at hfront
            cases hfront
      · cases hremaining

theorem Pipeline.closed_work (handler : WorkHandler) (p : Pipeline) (action : WorkerAction) :
    (p.work handler action).queue.closed = p.queue.closed := by
  cases action with
  | pop i =>
      simp only [work]
      split
      · split
        · next hpop => exact (BoundedQueue.pop_eq_item hpop).2.2
        · rfl
        · rfl
      · rfl
  | finish i =>
      simp only [work]
      split <;> rfl
  | notify i interrupted =>
      simp only [work]
      split
      · split <;> rfl
      · rfl

/-- No worker closes the queue. -/
theorem Pipeline.closed_workAll (handler : WorkHandler) (p : Pipeline)
    (actions : List WorkerAction) : (p.workAll handler actions).queue.closed = p.queue.closed := by
  induction actions generalizing p with
  | nil => rfl
  | cons action actions ih => exact (ih _).trans (p.closed_work handler action)

/-- An open queue that is not full accepts. -/
theorem Pipeline.trySubmit_of_room {p : Pipeline} (hopen : p.queue.closed = false)
    (hroom : p.queue.items.length < p.queue.capacity) (item : WorkItem) :
    (p.trySubmit item).1 = true := by
  have hpush : ¬ (p.queue.closed = true ∨ p.queue.items.length ≥ p.queue.capacity) := by
    rw [hopen, not_or]
    exact ⟨Bool.false_ne_true, Nat.not_le.mpr hroom⟩
  unfold trySubmit BoundedQueue.tryPush
  rw [dif_neg hpush]

/-- Requests within the window are all submitted while the queue has room. -/
theorem submitMessages_submitted (messages : List Message) (steps : List (List WorkerAction))
    {flow : ConnectionFlow} {p : Pipeline} (hopen : p.queue.closed = false)
    (hordered : flow.nextResponseSequence.toNat ≤ flow.nextRequestSequence.toNat)
    (hwindow : flow.nextRequestSequence.toNat + messages.length ≤
      flow.nextResponseSequence.toNat + config.options.maxInFlightRequestsPerConnection)
    (hfew : flow.nextRequestSequence.toNat + messages.length < UInt64.size)
    (hroom : hasRoomForEach config id messages steps flow p = true) :
    (Server.submitMessages config id messages steps flow p).1 = true := by
  induction messages generalizing steps flow p with
  | nil => rfl
  | cons message messages ih =>
      rw [List.length_cons] at hwindow hfew
      have hinFlight : ¬ (flow.nextRequestSequence - flow.nextResponseSequence).toNat ≥
          config.options.maxInFlightRequestsPerConnection := by
        rw [toNat_sub hordered]
        omega
      rw [hasRoomForEach] at hroom
      rw [Server.submitMessages]
      simp only [if_neg hinFlight, Bool.and_eq_true, decide_eq_true_eq] at hroom ⊢
      obtain ⟨hfree, hrest⟩ := hroom
      have hopen' := (p.closed_workAll config.options.handler (steps.headD [])).trans hopen
      have haccepted := Pipeline.trySubmit_of_room hopen' hfree
        ⟨id, flow.nextRequestSequence, message⟩
      generalize p.workAll config.options.handler (steps.headD []) = q at hopen' hrest haccepted
      rcases q.trySubmit_cases ⟨id, flow.nextRequestSequence, message⟩ with
        ⟨q', hq, -, -, -, -, -, -, hclosed⟩ | hq
      · simp only [hq] at hrest ⊢
        have hnext : (flow.nextRequestSequence + 1).toNat = flow.nextRequestSequence.toNat + 1 :=
          toNat_succ (by omega)
        apply ih steps.tail (hclosed.trans hopen') _ _ _ hrest
        · show flow.nextResponseSequence.toNat ≤ (flow.nextRequestSequence + 1).toNat
          omega
        · show (flow.nextRequestSequence + 1).toNat + messages.length ≤
            flow.nextResponseSequence.toNat + config.options.maxInFlightRequestsPerConnection
          omega
        · show (flow.nextRequestSequence + 1).toNat + messages.length < _
          omega
      · rw [hq] at haccepted
        cases haccepted

/-- What is decoded has a response that can be encoded. -/
theorem encodeAll_handleRequest {bytes rest : List Byte} {messages : List Message}
    (hsplits : frameFormat.Splits bytes messages rest) :
    ∃ output, encodeAll (messages.map handleRequest) = some output := by
  induction hsplits with
  | nil => exact ⟨[], rfl⟩
  | @cons _ message n messages _ hdecode _ ih =>
      obtain ⟨output, houtput⟩ := ih
      have hpayload := (tryDecodeFrame_decoded hdecode).2.2.1
      obtain ⟨frame, hframe⟩ := Option.isSome_iff_exists.mp
        (encodeMessage_handleOwnedRequest hpayload)
      refine ⟨frame ++ output, ?_⟩
      rw [List.map_cons, encodeAll, handleRequest_eq, hframe, houtput]

/-- The next response of a well-behaved client fits behind its pending output: both
are responses to requests that are outstanding. -/
theorem Peer.WellBehaved.response_fits {options : EpollEchoServerOptions}
    (hpeer : peer.WellBehaved options) {responses : List Message}
    (hresponses : responses <+: peer.requests.map handleRequest)
    {sent unsent frame : List Byte} {n : ℕ} {response : Message} (hread : peer.read <+: sent)
    (houtput : encodeAll (responses.take n) = some (sent ++ unsent))
    (hresponse : responses[n]? = some response) (hframe : encodeMessage response = some frame) :
    frame.length + unsent.length ≤ options.connectionLimits.maxOutputBuffer := by
  obtain ⟨front, hfront, hreceived⟩ := encodeAll_splits (frameFormat.splits_frames peer.read)
  have htake : responses.take (n + 1) = responses.take n ++ [response] := by
    rw [List.take_add_one, hresponse]
    rfl
  have hnext := encodeAll_append_singleton houtput hframe
  rw [← htake] at hnext
  -- The responses that the client has got are the first ones, and the others are outstanding.
  have hgot : frameFormat.frames peer.read <+: responses.take (n + 1) := by
    have hframes := FrameFormat.frames_isPrefix_of_isPrefix (F := frameFormat)
      (hread.trans (List.prefix_append sent unsent))
    rw [frames_encodeAll houtput] at hframes
    exact hframes.trans (List.take_prefix_take_left (Nat.le_succ n))
  obtain ⟨others, hothers⟩ := hgot
  have houtstanding : others <+: peer.outstanding.map handleRequest := by
    obtain ⟨later, hlater⟩ := (List.take_prefix (n + 1) responses).trans hresponses
    refine ⟨later, ?_⟩
    rw [Peer.outstanding, List.map_drop, ← hlater, ← hothers, List.append_assoc, Peer.answered,
      List.drop_left]
  obtain ⟨bytes, hbytes⟩ : ∃ bytes,
      encodeAll (peer.outstanding.map handleRequest) = some bytes := by
    obtain ⟨all, hall⟩ := encodeAll_handleRequest (frameFormat.splits_frames peer.written)
    rw [← List.take_append_drop peer.answered (frameFormat.frames peer.written),
      List.map_append] at hall
    obtain ⟨-, bytes, -, hbytes, -⟩ := encodeAll_append_eq_some hall
    exact ⟨bytes, hbytes⟩
  obtain ⟨behind, hbehind, hle⟩ := encodeAll_isPrefix houtstanding hbytes
  rw [← hothers, encodeAll_append hfront hbehind] at hnext
  have hlimit := hpeer.output bytes hbytes
  have hbehindLength := hle.length_le
  have hreadLength := hread.length_le
  have htotal := congrArg List.length (Option.some.inj hnext)
  rw [hreceived, List.length_append] at hreadLength
  simp only [List.length_append] at htotal
  omega

/-- Responses that fit one by one are all queued. -/
theorem releaseReady_queued {responses : List Message} {sent : List Byte} {limit : ℕ}
    (hfew : responses.length < UInt64.size)
    (hencodable : ∀ response ∈ responses, ∃ frame, encodeMessage response = some frame)
    (hfits : ∀ n unsent response frame, encodeAll (responses.take n) = some (sent ++ unsent) →
      responses[n]? = some response → encodeMessage response = some frame →
      frame.length + unsent.length ≤ limit)
    (fuel : ℕ) (hlimit : c.limits.maxOutputBuffer = limit)
    (houtput : encodeAll (responses.take f.nextResponseSequence.toNat) = some (sent ++ c.unsent))
    (hready : ∀ n response, f.completedResponses.lookup n = some response →
      responses[n.toNat]? = some response) :
    (Server.releaseReady fuel c f).1 = true := by
  induction fuel generalizing c f with
  | zero => rfl
  | succ fuel ih =>
      rw [Server.releaseReady]
      split
      · rfl
      next response hlookup =>
      have hresponse := hready _ _ hlookup
      obtain ⟨frame, hframe⟩ := hencodable response (List.mem_of_getElem? hresponse)
      have hfit := hfits _ _ _ _ houtput hresponse hframe
      have hqueued : (c.queueOutput response).1 = true := by
        rw [c.queueOutput_eq_true_iff]
        refine ⟨frame, hframe, ?_⟩
        rw [c.pendingOutputBytes_eq, hlimit]
        exact hfit
      have hspec := c.queueOutput_spec response
      generalize c.queueOutput response = outcome at hqueued hspec
      obtain ⟨queued, c'⟩ := outcome
      obtain rfl : queued = true := hqueued
      obtain ⟨frame', hframe', -, hunsent⟩ := hspec.appended rfl
      rw [hframe] at hframe'
      cases hframe'
      have hlength := (List.getElem?_eq_some_iff.mp hresponse).1
      have hnext : (f.nextResponseSequence + 1).toNat = f.nextResponseSequence.toNat + 1 :=
        toNat_succ (by omega)
      apply ih
      · rw [hspec.same.limits]
        exact hlimit
      · simp only
        rw [hnext, List.take_add_one, hresponse, hunsent, ← List.append_assoc]
        exact encodeAll_append_singleton houtput hframe
      · intro n other hother
        simp only at hother
        by_cases hn : n = f.nextResponseSequence
        · rw [hn, AList.lookup_erase] at hother
          cases hother
        · rw [AList.lookup_erase_ne hn] at hother
          exact hready n other hother

/-- A write that reports a peer that is gone was told so by `send`. -/
theorem Connection.writeLoop_peerClosed (maxWriteBytes : ℕ) (answers : List SendResult)
    (c : Connection) (written : ℕ) :
    ∀ result, (writeLoop maxWriteBytes answers c written).result = .ok result →
      result.status = .kPeerClosed →
      ∃ error, .failed error ∈ (writeLoop maxWriteBytes answers c written).calls.map
        SendCall.result ∧ isPeerClosedError error = true := by
  fun_induction writeLoop maxWriteBytes answers c written with
  | case3 c written hpending hbudget _ _ offered answers out call ih =>
      intro result hok hclosed
      obtain ⟨error, hmem, hpeer⟩ := ih result hok hclosed
      exact ⟨error, List.mem_cons_of_mem _ hmem, hpeer⟩
  | case8 c written hpending hbudget _ _ offered count answers sent call hsome output out ih =>
      intro result hok hclosed
      obtain ⟨error, hmem, hpeer⟩ := ih result hok hclosed
      exact ⟨error, List.mem_cons_of_mem _ hmem, hpeer⟩
  | case5 c written hpending hbudget _ _ offered error answers call hintr hblock hpeer =>
      intro result hok hclosed
      exact ⟨error, List.mem_cons_self, hpeer⟩
  | case6 =>
      intro result hok
      cases hok
  | case1 | case2 | case4 | case7 | case9 =>
      rintro result ⟨⟩ hclosed
      cases hclosed

namespace Server

/-- Settling a live connection leaves it live, or it had nothing left to do. -/
theorem settleConnection_live_or_drained (h : WellFormed config s)
    (hlive : s.live id = some (c, f)) (fault : Option CtlFault) :
    (stateOf (settleConnection id fault s)).live id ≠ none ∨
      id ∈ (stateOf (settleConnection id fault s)).drained := by
  obtain ⟨hfind, hlookup⟩ := live_eq_some_iff.mp hlive
  simp only [settleConnection, hfind, hlookup]
  split
  · rcases removeConnection_cases h hlive fault with
      ⟨s', hresult, -⟩ | ⟨exception, error, s', hresult, -, hctl⟩
    · rw [hresult]
      exact .inr List.mem_cons_self
    · rw [hresult, stateOf_error, live_epollCtl hctl id, hlive]
      exact .inl (Option.some_ne_none _)
  · obtain ⟨f', hkept⟩ := live_updateInterest h hlive fault
    rw [hkept]
    exact .inl (Option.some_ne_none _)

/-- Interrupted and blocked calls only: the write goes through. -/
theorem writeEvent_goesOn (hlive : s.live id = some (c, f)) (events : EventMask) (io : HandlerIo)
    (hbenign : ∀ error ∈ ((stateOf (writeEvent config id events io false s)).sockets
      id.value).errnos, error = .eintr ∨ isWouldBlock error = true) :
    ∃ s' c', writeEvent config id events io false s = .ok false s' ∧
      s'.live id = some (c', f) := by
  obtain ⟨hfind, -⟩ := live_eq_some_iff.mp hlive
  unfold writeEvent at hbenign ⊢
  split at hbenign
  · next hwrite =>
      simp only [hfind] at hbenign ⊢
      have hspec := c.writeAvailable_spec config.options.maxWriteBytesPerEvent io.sends
      have hpeerClosed :=
        Connection.writeLoop_peerClosed config.options.maxWriteBytesPerEvent io.sends c 0
      rw [← Connection.writeAvailable] at hpeerClosed
      generalize c.writeAvailable config.options.maxWriteBytesPerEvent io.sends = out
        at hbenign hspec hpeerClosed
      have hlive' : ((s.putConnection id out.connection).logSocket id [] out.calls).live id =
        some (out.connection, f) := (wrote_putConnection hlive out.connection).live_self
      have hlogged : ∀ error, .failed error ∈ out.calls.map SendCall.result →
          error ∈ (((s.putConnection id out.connection).logSocket id [] out.calls).sockets
            id.value).errnos := by
        intro error hmem
        simp only [logSocket, Function.update_self, Socket.errnos, List.filterMap_append]
        exact List.mem_append_right _
          (List.mem_append_right _ (mem_filterMap_sendErrno.mpr hmem))
      generalize (s.putConnection id out.connection).logSocket id [] out.calls = s₁
        at hbenign hlive' hlogged
      split at hbenign
      · next exception hthrown =>
          obtain ⟨error, hmem, hintr, hblock, -⟩ := hspec.thrown exception hthrown
          rcases hbenign error (hlogged error hmem) with rfl | hblocked
          · exact absurd rfl hintr
          · rw [hblock] at hblocked
            cases hblocked
      · next result hok =>
          have hopen : result.status ≠ .kPeerClosed := by
            intro hclosed
            obtain ⟨error, hmem, hpeer⟩ := hpeerClosed result hok hclosed
            rcases hbenign error (hlogged error hmem) with rfl | hblocked
            · cases hpeer
            · rw [isPeerClosedError_of_isWouldBlock hblocked] at hpeer
              cases hpeer
          rw [if_pos hwrite, decide_eq_false hopen]
          exact ⟨s₁, out.connection, rfl, hlive'⟩
  · next hskip => exact ⟨s, c, if_neg hskip, hlive⟩

end Server

end PulseCore.Network
