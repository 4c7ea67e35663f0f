/-
# The blocking server and a peer that goes away

`ServeOne` accepts a client and serves it, and the main program does that for ever,
until an exception escapes. With a peer that sends a stream and closes its side,
and a kernel that goes on taking what it is offered, serving ends with a return.

A peer may also go away otherwise, and then it depends. `ReadMessage` and `SendAll`
throw on every error but an interruption, also on the two that only say that the
peer is gone, so the exception ends the main loop. Serving returns exactly when the
server never gets to see such an error: the responses to all complete frames are
taken before a `send` fails, and either `recv` reports an orderly close or the bytes
behind the frames are malformed, so that the server stops before the next `recv`.
-/

import PulseCore.Network.BlockingTcp
import PulseCore.Protocol.RoundTrip
import PulseCore.Protocol.Stream

namespace PulseCore.Network

open PulseCore.Foundation PulseCore.Core PulseCore.Protocol

/-- An answer of `accept`. -/
inductive BlockingAccept
  | accepted (fd : ℕ)
  | failed (error : Errno)
  deriving DecidableEq

def acceptOne : List BlockingAccept → BlockingResult ℕ
  | [] => .waiting
  | .accepted fd :: _ => .returned fd
  | .failed error :: answers =>
      if error = .eintr then acceptOne answers else .threw (.syscallError "accept" error)

/-- What the kernel answers while one client is accepted and served. -/
structure ClientAnswers where
  accepts : List BlockingAccept
  recvs : List RecvResult
  sends : List SendResult

/-- `BlockingEchoServer::ServeOne`, with the bytes it sent. -/
def serveOne (client : ClientAnswers) : BlockingResult Unit × List Byte :=
  match acceptOne client.accepts with
  | .waiting => (.waiting, [])
  | .threw exception => (.threw exception, [])
  | .returned _ => serveClient client.recvs client.sends

/-- The loop of the main program: how many clients were served, and the exception
that ended it, if one did. -/
def serverLoop : List ClientAnswers → ℕ × Option Exception
  | [] => (0, none)
  | client :: clients =>
      match (serveOne client).1 with
      | .waiting => (0, none)
      | .threw exception => (0, some exception)
      | .returned () =>
          let (served, exception) := serverLoop clients
          (served + 1, exception)

/-- The response to a frame can be encoded, and its size is known. -/
theorem encodeMessage_handleRequest {buffer : List Byte} {message : Message} {n : ℕ}
    (hdecode : tryDecodeFrame buffer = .decoded message n) :
    ∃ bytes, encodeMessage (handleRequest message) = some bytes ∧
      bytes.length = kHeaderSize + (handleRequest message).payload.length := by
  obtain ⟨bytes, hencode⟩ := Option.isSome_iff_exists.mp
    (encodeMessage_handleOwnedRequest (tryDecodeFrame_decoded hdecode).2.2.1)
  exact ⟨bytes, hencode, length_encodeMessage hencode⟩

/-- The reference sends the responses to the frames of a stream and returns,
whatever follows them. Every response can be encoded. -/
theorem blocking_end_to_end {recvs : List RecvResult} {sends : List SendResult}
    {stream : List Byte} (h : Delivers recvs stream)
    (hsends : ∀ answer ∈ sends, answer.succeeds = true) :
    (∀ message ∈ frameFormat.frames stream,
      (encodeMessage (handleRequest message)).isSome = true) ∧
    ∃ bytes, encodeAll ((frameFormat.frames stream).map handleRequest) = some bytes ∧
      serveClient recvs sends = (.returned (), bytes) := by
  refine ⟨?_, serveClient_returned h hsends⟩
  intro message hmem
  obtain ⟨buffer, n, hdecode⟩ := (frameFormat.splits_frames stream).decoded_of_mem hmem
  obtain ⟨bytes, hencode, -⟩ := encodeMessage_handleRequest hdecode
  rw [hencode]
  rfl

/-! ## A peer that goes away -/

/-- How `recv` learns that the peer is gone. -/
inductive Departure
  | closed
  | reset
  deriving DecidableEq

def Departure.answer : Departure → RecvResult
  | .closed => .received []
  | .reset => .failed .econnreset

/-- The kernel delivers a stream in pieces, and then that the peer is gone. -/
inductive Departs (departure : Departure) : List RecvResult → List Byte → Prop
  | gone (recvs : List RecvResult) : Departs departure (departure.answer :: recvs) []
  | interrupted {recvs : List RecvResult} {stream : List Byte}
      (hrest : Departs departure recvs stream) :
      Departs departure (.failed .eintr :: recvs) stream
  | piece {bytes : List Byte} {recvs : List RecvResult} {stream : List Byte}
      (hsome : bytes ≠ []) (hsize : bytes.length ≤ kReadMessageChunk)
      (hrest : Departs departure recvs stream) :
      Departs departure (.received bytes :: recvs) (bytes ++ stream)

/-- `send` takes something, is interrupted, or learns that the peer is gone. -/
def SendResult.succeedsOrGone : SendResult → Bool
  | .sent count => 0 < count
  | .failed error => error = .eintr || isPeerClosedError error

/-- The answers to `send` take frames of these sizes, each by itself, before the
first one that is a failure other than an interruption. -/
def absorbs : List SendResult → List ℕ → Bool
  | _, [] => true
  | [], _ :: _ => true
  | .failed error :: sends, size :: sizes => error = .eintr && absorbs sends (size :: sizes)
  | .sent count :: sends, size :: sizes =>
      if count < size then absorbs sends ((size - count) :: sizes) else absorbs sends sizes

/-- The sizes of the responses to the frames of a stream. -/
def responseSizes (stream : List Byte) : List ℕ :=
  (frameFormat.frames stream).map fun message =>
    kHeaderSize + (handleRequest message).payload.length

variable {departure : Departure} {recvs : List RecvResult} {sends : List SendResult}
  {stream : List Byte}

theorem Departs.length_le (h : Departs departure recvs stream) :
    stream.length ≤ (recvs.flatMap RecvResult.bytes).length := by
  induction h with
  | gone => exact Nat.zero_le _
  | interrupted _ ih => simpa [RecvResult.bytes] using ih
  | piece _ _ _ ih =>
      rw [List.length_append, List.flatMap_cons, List.length_append]
      exact Nat.add_le_add_left ih _

/-- What `ReadMessage` comes to while the kernel delivers a stream and the departure
of the peer. -/
inductive ReadsUntilGone (departure : Departure) (decoder : FrameDecoder) (stream : List Byte) :
    BlockingResult ReadMessageResult × List RecvResult × FrameDecoder → Prop
  | message {message : Message} {n : ℕ} {recvs : List RecvResult} {decoder' : FrameDecoder}
      {stream' : List Byte} (hrest : Departs departure recvs stream')
      (hdecode : tryDecodeFrame (decoder.pending ++ stream) = .decoded message n)
      (hpending : decoder'.pending ++ stream' = (decoder.pending ++ stream).drop n) :
      ReadsUntilGone departure decoder stream (.returned (.message message), recvs, decoder')
  | protocolError {error : ProtocolError} {recvs : List RecvResult} {decoder' : FrameDecoder}
      (hdecode : tryDecodeFrame (decoder.pending ++ stream) = .error error) :
      ReadsUntilGone departure decoder stream
        (.returned (.protocolError error), recvs, decoder')
  | closed {recvs : List RecvResult} {decoder' : FrameDecoder} (hclosed : departure = .closed)
      (hmore : tryDecodeFrame (decoder.pending ++ stream) = .needMoreData) :
      ReadsUntilGone departure decoder stream (.returned .closed, recvs, decoder')
  | reset {recvs : List RecvResult} {decoder' : FrameDecoder} (hreset : departure = .reset)
      (hmore : tryDecodeFrame (decoder.pending ++ stream) = .needMoreData) :
      ReadsUntilGone departure decoder stream
        (.threw (.syscallError "recv" .econnreset), recvs, decoder')

/-- A frame that is buffered already, or input that is already known to be bad. -/
theorem readsUntilGone_buffered (h : Departs departure recvs stream) (decoder : FrameDecoder)
    (hmore : tryDecodeFrame decoder.pending ≠ .needMoreData) :
    ReadsUntilGone departure decoder stream (readMessage recvs decoder) := by
  rw [readMessage.eq_def]
  obtain ⟨hdecode, -⟩ | ⟨e, hdecode, hnext⟩ | ⟨m, n, d', hdecode, hnext, hpending⟩ :=
    decoder.next_cases
  · exact absurd hdecode hmore
  · simp only [hnext]
    exact .protocolError (frameFormat.error_append stream hdecode)
  · simp only [hnext]
    refine .message h (frameFormat.decoded_append stream hdecode) ?_
    rw [List.drop_append_of_le_length (frameFormat.le_of_decoded hdecode), hpending]

theorem readMessage_readsUntilGone (h : Departs departure recvs stream) (decoder : FrameDecoder) :
    ReadsUntilGone departure decoder stream (readMessage recvs decoder) := by
  induction h generalizing decoder with
  | gone recvs =>
      by_cases hmore : tryDecodeFrame decoder.pending = .needMoreData
      · rw [readMessage, FrameDecoder.next_of_needMoreData hmore]
        have hend : tryDecodeFrame (decoder.pending ++ []) = .needMoreData := by
          rw [List.append_nil]
          exact hmore
        cases departure with
        | closed => exact .closed rfl hend
        | reset => exact .reset rfl hend
      · exact readsUntilGone_buffered (.gone recvs) decoder hmore
  | interrupted hrest ih =>
      by_cases hmore : tryDecodeFrame decoder.pending = .needMoreData
      · rw [readMessage, FrameDecoder.next_of_needMoreData hmore]
        exact ih decoder
      · exact readsUntilGone_buffered (.interrupted hrest) decoder hmore
  | @piece bytes recvs stream hsome hsize hrest ih =>
      by_cases hmore : tryDecodeFrame decoder.pending = .needMoreData
      · rw [readMessage_piece hmore hsome hsize]
        have hreads := ih (decoder.append bytes)
        generalize readMessage recvs (decoder.append bytes) = outcome at hreads
        cases hreads with
        | message hrest' hdecode hpending =>
            rw [FrameDecoder.pending_append, List.append_assoc] at hdecode hpending
            exact .message hrest' hdecode hpending
        | protocolError hdecode =>
            rw [FrameDecoder.pending_append, List.append_assoc] at hdecode
            exact .protocolError hdecode
        | closed hclosed hend =>
            rw [FrameDecoder.pending_append, List.append_assoc] at hend
            exact .closed hclosed hend
        | reset hreset hend =>
            rw [FrameDecoder.pending_append, List.append_assoc] at hend
            exact .reset hreset hend
      · exact readsUntilGone_buffered (.piece hsome hsize hrest) decoder hmore

theorem sendAll_nil (sends : List SendResult) : sendAll sends [] = (.ok (), sends, []) := by
  cases sends with
  | nil => rfl
  | cons answer sends => cases answer <;> rfl

theorem sendAll_interrupted {bytes : List Byte} (hsome : bytes.isEmpty = false) :
    sendAll (.failed .eintr :: sends) bytes = sendAll sends bytes := by
  rw [sendAll, hsome, if_neg Bool.false_ne_true, if_pos rfl]

theorem sendAll_failed {bytes : List Byte} {error : Errno} (hsome : bytes.isEmpty = false)
    (herror : error ≠ .eintr) :
    sendAll (.failed error :: sends) bytes = (.error (.syscallError "send" error), sends, []) := by
  rw [sendAll, hsome, if_neg Bool.false_ne_true, if_neg herror]

theorem sendAll_sent {bytes : List Byte} {count : ℕ} (hsome : bytes.isEmpty = false)
    (hcount : 0 < count) :
    sendAll (.sent count :: sends) bytes =
      ((sendAll sends (bytes.drop (min count bytes.length))).1,
        (sendAll sends (bytes.drop (min count bytes.length))).2.1,
        bytes.take (min count bytes.length) ++
          (sendAll sends (bytes.drop (min count bytes.length))).2.2) := by
  have hlength : 0 < bytes.length := by
    apply List.length_pos_iff.mpr
    simpa using hsome
  have hsent : ¬ min count bytes.length = 0 := by omega
  rw [sendAll, hsome, if_neg Bool.false_ne_true]
  exact if_neg hsent

theorem absorbs_interrupted (size : ℕ) (sizes : List ℕ) :
    absorbs (.failed .eintr :: sends) (size :: sizes) = absorbs sends (size :: sizes) := by
  rw [absorbs]
  exact Bool.true_and _

/-- `SendAll` returns exactly when the answers take the frame. -/
theorem sendAll_absorbs (hsends : ∀ answer ∈ sends, answer.succeedsOrGone = true)
    {bytes : List Byte} (hsome : bytes.isEmpty = false) :
    (∃ sends' sent, sendAll sends bytes = (.ok (), sends', sent) ∧
      (∀ answer ∈ sends', answer.succeedsOrGone = true) ∧
      ∀ sizes, absorbs sends (bytes.length :: sizes) = absorbs sends' sizes) ∨
    ∃ exception sends' sent, sendAll sends bytes = (.error exception, sends', sent) ∧
      ∀ sizes, absorbs sends (bytes.length :: sizes) = false := by
  induction sends generalizing bytes with
  | nil =>
      refine .inl ⟨[], bytes, ?_, List.forall_mem_nil _, ?_⟩
      · rw [sendAll, hsome]
        rfl
      · intro sizes
        cases sizes <;> rfl
  | cons answer sends ih =>
      obtain ⟨hanswer, hrest⟩ := List.forall_mem_cons.mp hsends
      cases answer with
      | failed error =>
          by_cases hintr : error = .eintr
          · subst hintr
            rw [sendAll_interrupted hsome]
            simp only [absorbs_interrupted]
            exact ih hrest hsome
          · refine .inr ⟨.syscallError "send" error, sends, [], sendAll_failed hsome hintr, ?_⟩
            intro sizes
            rw [absorbs, decide_eq_false hintr, Bool.false_and]
      | sent count =>
          have hcount : 0 < count := of_decide_eq_true hanswer
          rw [sendAll_sent hsome hcount]
          by_cases hpart : count < bytes.length
          · -- What is left of the frame goes on as a frame of its own.
            have hleft : (bytes.drop (min count bytes.length)).isEmpty = false := by
              rw [Bool.eq_false_iff, ne_eq, List.isEmpty_iff, List.drop_eq_nil_iff]
              omega
            have hlength : (bytes.drop (min count bytes.length)).length =
                bytes.length - count := by
              rw [List.length_drop]
              omega
            have habsorbs : ∀ sizes, absorbs (.sent count :: sends) (bytes.length :: sizes) =
                absorbs sends ((bytes.drop (min count bytes.length)).length :: sizes) := by
              intro sizes
              rw [absorbs, if_pos hpart, hlength]
            simp only [habsorbs]
            obtain ⟨sends', sent, hsent, hlater⟩ | ⟨exception, sends', sent, hsent, hlater⟩ :=
              ih hrest hleft
            · exact .inl ⟨sends', _, by rw [hsent], hlater⟩
            · exact .inr ⟨exception, sends', _, by rw [hsent], hlater⟩
          · have hdone : bytes.drop (min count bytes.length) = [] := by
              rw [List.drop_eq_nil_iff]
              omega
            rw [hdone, sendAll_nil]
            refine .inl ⟨sends, _, rfl, hrest, ?_⟩
            intro sizes
            rw [absorbs, if_neg hpart]

/-- Whether the loop of `ServeClient` returns, from any pass of it. -/
theorem serveClientWith_returned_iff (fuel : ℕ) (h : Departs departure recvs stream)
    (hsends : ∀ answer ∈ sends, answer.succeedsOrGone = true) (decoder : FrameDecoder)
    (hfuel : (decoder.pending ++ stream).length < fuel) :
    (serveClientWith fuel recvs sends decoder).1 = .returned () ↔
      (departure = .closed ∨
        ∃ e, tryDecodeFrame (frameFormat.leftover (decoder.pending ++ stream)) = .error e) ∧
      absorbs sends (responseSizes (decoder.pending ++ stream)) = true := by
  induction fuel generalizing recvs sends stream decoder with
  | zero => exact absurd hfuel (Nat.not_lt_zero _)
  | succ fuel ih =>
      have hreads := readMessage_readsUntilGone h decoder
      rw [serveClientWith]
      generalize readMessage recvs decoder = outcome at hreads
      cases hreads with
      | @message message n recvs' decoder' stream' hrest hdecode hpending =>
          obtain ⟨frame, hframe, hlength⟩ := encodeMessage_handleRequest hdecode
          have hsome : frame.isEmpty = false := by
            simpa using encodeMessage_ne_nil hframe
          have hfuel' : (decoder'.pending ++ stream').length < fuel := by
            have hshorter := frameFormat.length_drop_lt_of_decoded hdecode
            rw [hpending]
            exact Nat.lt_of_lt_of_le hshorter (Nat.le_of_lt_succ hfuel)
          have hsizes : responseSizes (decoder.pending ++ stream) =
              frame.length :: responseSizes (decoder'.pending ++ stream') := by
            rw [responseSizes, FrameFormat.frames_eq_cons hdecode, List.map_cons, hlength, hpending]
            rfl
          have hleftover : frameFormat.leftover (decoder.pending ++ stream) =
              frameFormat.leftover (decoder'.pending ++ stream') := by
            have hfirst : frameFormat.Splits _ [message] _ := .single hdecode
            have hsplit := hfirst.leftover_append []
            rwa [List.append_nil, List.append_nil, ← hpending] at hsplit
          rw [hsizes, hleftover]
          simp only [sendMessage, hframe]
          obtain ⟨sends', sent, hsent, hsends', habsorbs⟩ |
            ⟨exception, sends', sent, hsent, habsorbs⟩ := sendAll_absorbs hsends hsome
          · simp only [hsent, habsorbs]
            exact ih hrest hsends' decoder' hfuel'
          · simp only [hsent, habsorbs, Bool.false_eq_true, and_false, iff_false]
            intro hreturned
            cases hreturned
      | @protocolError error _ _ hdecode =>
          have hnone : frameFormat.Exhausted (decoder.pending ++ stream) :=
            FrameFormat.exhausted_of_error hdecode
          obtain ⟨hframes, hleftover⟩ := FrameFormat.Splits.eq_frames (.nil _) hnone
          refine iff_of_true rfl ⟨.inr ⟨error, ?_⟩, ?_⟩
          · rw [← hleftover]
            exact hdecode
          · rw [responseSizes, ← hframes]
            cases sends <;> rfl
      | closed hclosed hmore =>
          have hnone : frameFormat.Exhausted (decoder.pending ++ stream) :=
            FrameFormat.exhausted_of_needMoreData hmore
          obtain ⟨hframes, -⟩ := FrameFormat.Splits.eq_frames (.nil _) hnone
          refine iff_of_true rfl ⟨.inl hclosed, ?_⟩
          rw [responseSizes, ← hframes]
          cases sends <;> rfl
      | reset hreset hmore =>
          have hnone : frameFormat.Exhausted (decoder.pending ++ stream) :=
            FrameFormat.exhausted_of_needMoreData hmore
          obtain ⟨-, hleftover⟩ := FrameFormat.Splits.eq_frames (.nil _) hnone
          refine iff_of_false (by intro hreturned; cases hreturned) ?_
          rintro ⟨hclosed | ⟨e, herror⟩, -⟩
          · rw [hreset] at hclosed
            cases hclosed
          · rw [← hleftover, hmore] at herror
            cases herror

theorem serveClient_returned_iff (h : Departs departure recvs stream)
    (hsends : ∀ answer ∈ sends, answer.succeedsOrGone = true) :
    (serveClient recvs sends).1 = .returned () ↔
      (departure = .closed ∨
        ∃ e, tryDecodeFrame (frameFormat.leftover stream) = .error e) ∧
      absorbs sends (responseSizes stream) = true := by
  refine serveClientWith_returned_iff _ h hsends .empty ?_
  rw [FrameDecoder.pending_empty, List.nil_append]
  exact Nat.lt_succ_of_le h.length_le

/-- The main loop gets to the next client exactly when this one was served. -/
theorem serverLoop_cons_iff (client : ClientAnswers) :
    (∀ clients, serverLoop (client :: clients) =
      ((serverLoop clients).1 + 1, (serverLoop clients).2)) ↔
    (serveOne client).1 = .returned () := by
  constructor
  · intro hnext
    have hlast : serverLoop [client] = (1, none) := hnext []
    rw [serverLoop] at hlast
    split at hlast
    · cases hlast
    · cases hlast
    · next hserved => exact hserved
  · intro hserved clients
    rw [serverLoop, hserved]

/-- When a peer goes away, `ServeClient` returns, and with it `ServeOne`, and the main
loop gets to the next client, exactly when the server does not see it go: `recv`
reports an orderly close or is not called again, and no `send` fails. -/
theorem disconnect_returns_iff {accepts : List BlockingAccept} {fd : ℕ}
    (haccept : acceptOne accepts = .returned fd) (h : Departs departure recvs stream)
    (hsends : ∀ answer ∈ sends, answer.succeedsOrGone = true) :
    ((serveClient recvs sends).1 = .returned () ↔
      (departure = .closed ∨
        ∃ e, tryDecodeFrame (frameFormat.leftover stream) = .error e) ∧
      absorbs sends (responseSizes stream) = true) ∧
    ((serveOne ⟨accepts, recvs, sends⟩).1 = .returned () ↔
      (departure = .closed ∨
        ∃ e, tryDecodeFrame (frameFormat.leftover stream) = .error e) ∧
      absorbs sends (responseSizes stream) = true) ∧
    ((∀ clients, serverLoop (⟨accepts, recvs, sends⟩ :: clients) =
        ((serverLoop clients).1 + 1, (serverLoop clients).2)) ↔
      (departure = .closed ∨
        ∃ e, tryDecodeFrame (frameFormat.leftover stream) = .error e) ∧
      absorbs sends (responseSizes stream) = true) := by
  have hclient := serveClient_returned_iff h hsends
  have hone : (serveOne ⟨accepts, recvs, sends⟩).1 = (serveClient recvs sends).1 := by
    rw [serveOne, haccept]
  refine ⟨hclient, ?_, ?_⟩
  · rw [hone]
    exact hclient
  · rw [serverLoop_cons_iff, hone]
    exact hclient

namespace BlockingServer.Sample

/-- An echo request with an empty payload. -/
def request : List Byte :=
  [0x50, 0x55, 0x4C, 0x53, 0, 1, 0, 1, 0, 0, 0, 0, 0, 0, 0, 0, 0, 0, 0, 7]

/-- The request in two pieces, with an interruption between them, and then that the
peer is gone. -/
def arrivals (departure : Departure) : List RecvResult :=
  [.received (request.take 5), .failed .eintr, .received (request.drop 5), departure.answer]

theorem departs (departure : Departure) : Departs departure (arrivals departure) request := by
  show Departs departure _ (request.take 5 ++ (request.drop 5 ++ []))
  exact .piece (by decide) (by decide) (.interrupted (.piece (by decide) (by decide) (.gone [])))

end BlockingServer.Sample

theorem blocking_end_to_end_sample :
    ∃ bytes, encodeAll ((frameFormat.frames BlockingServer.Sample.request).map handleRequest) =
        some bytes ∧
      serveClient (BlockingServer.Sample.arrivals .closed) [.sent 3, .failed .eintr] =
        (.returned (), bytes) := by
  have hdelivers : Delivers (BlockingServer.Sample.arrivals .closed)
      BlockingServer.Sample.request := by
    show Delivers _ (BlockingServer.Sample.request.take 5 ++
      (BlockingServer.Sample.request.drop 5 ++ []))
    exact .piece (by decide) (by decide)
      (.interrupted (.piece (by decide) (by decide) (.closed [])))
  exact (blocking_end_to_end hdelivers (by decide)).2

/-- With an orderly close and sends that do not fail the server goes on. -/
theorem disconnect_returns_iff_sample :
    (serveOne ⟨[.failed .eintr, .accepted 4], BlockingServer.Sample.arrivals .closed,
      [.sent 3, .sent 40, .failed .epipe]⟩).1 = .returned () := by
  have haccept : acceptOne [.failed .eintr, .accepted 4] = .returned 4 := rfl
  exact (disconnect_returns_iff haccept (BlockingServer.Sample.departs .closed)
    (by decide)).2.1.mpr ⟨.inl rfl, by decide +kernel⟩

/-- A reset behind a request, and a send that fails half way through the response,
each end the main loop. -/
theorem disconnect_ends_server :
    (Departs .reset (BlockingServer.Sample.arrivals .reset) BlockingServer.Sample.request ∧
      (serveClient (BlockingServer.Sample.arrivals .reset) []).1 =
        .threw (.syscallError "recv" .econnreset) ∧
      serverLoop [⟨[.accepted 4], BlockingServer.Sample.arrivals .reset, []⟩,
          ⟨[.accepted 5], [.received []], []⟩] =
        (0, some (.syscallError "recv" .econnreset))) ∧
    (Departs .closed (BlockingServer.Sample.arrivals .closed) BlockingServer.Sample.request ∧
      (∀ answer ∈ [SendResult.sent 3, .failed .epipe], answer.succeedsOrGone = true) ∧
      (serveClient (BlockingServer.Sample.arrivals .closed) [.sent 3, .failed .epipe]).1 =
        .threw (.syscallError "send" .epipe) ∧
      serverLoop [⟨[.accepted 4], BlockingServer.Sample.arrivals .closed,
          [.sent 3, .failed .epipe]⟩, ⟨[.accepted 5], [.received []], []⟩] =
        (0, some (.syscallError "send" .epipe))) := by
  refine ⟨⟨BlockingServer.Sample.departs .reset, rfl, rfl⟩,
    BlockingServer.Sample.departs .closed, by decide, rfl, rfl⟩

end PulseCore.Network
