/-
# The blocking reference server

`ServeClient` reads one message, handles it and sends the response, until the
peer closes or sends something malformed. It is what the epoll server is to be
compared with.

The kernel's answers are arguments as before, and calls block: `recv` waits until
there is something to deliver, so a list of answers that runs out is a call that
does not return; `send` waits until there is room, so a kernel that has nothing
more to say takes all it is offered. What the reference sends for a stream is
determined by the stream: neither the sizes of its pieces nor the pieces `send`
takes have any influence.
-/

import PulseCore.Core.Handler
import PulseCore.Network.Syscall

namespace PulseCore.Network

open PulseCore.Foundation PulseCore.Core PulseCore.Protocol

/-- What a call that may wait for the kernel comes to. -/
inductive BlockingResult (α : Type)
  | returned (value : α)
  | threw (exception : Exception)
  | waiting

/-- The three shapes of result that the source builds with
`ReadMessageResult::Message`, `::Closed` and `::ProtocolError`. -/
inductive ReadMessageResult
  | message (message : Message)
  | closed
  | protocolError (error : ProtocolError)

/-- The size of the buffer on the stack of `ReadMessage`. -/
def kReadMessageChunk : ℕ := 4096

/-- `ReadMessage`, with the answers it did not use and the decoder it leaves. -/
def readMessage (recvs : List RecvResult) (decoder : FrameDecoder) :
    BlockingResult ReadMessageResult × List RecvResult × FrameDecoder :=
  match decoder.next with
  | (.decoded message _, decoder) => (.returned (.message message), recvs, decoder)
  | (.error error, decoder) => (.returned (.protocolError error), recvs, decoder)
  | (.needMoreData, decoder) =>
      match recvs with
      | [] => (.waiting, [], decoder)
      | answer :: recvs =>
          match answer.within kReadMessageChunk with
          | .failed error =>
              if error = .eintr then readMessage recvs decoder
              else (.threw (.syscallError "recv" error), recvs, decoder)
          | .received [] => (.returned .closed, recvs, decoder)
          | .received (byte :: bytes) => readMessage recvs (decoder.append (byte :: bytes))

/-- `SendAll`, with the answers it did not use and the bytes that were taken. -/
def sendAll (sends : List SendResult) (bytes : List Byte) :
    Except Exception Unit × List SendResult × List Byte :=
  if bytes.isEmpty then (.ok (), sends, [])
  else
    match sends with
    | [] => (.ok (), [], bytes)
    | .failed error :: sends =>
        if error = .eintr then sendAll sends bytes
        else (.error (.syscallError "send" error), sends, [])
    | .sent count :: sends =>
        let sent := min count bytes.length
        if sent = 0 then (.error (.runtimeError "send: wrote zero bytes"), sends, [])
        else
          match sendAll sends (bytes.drop sent) with
          | (result, sends, more) => (result, sends, bytes.take sent ++ more)

def sendMessage (sends : List SendResult) (message : Message) :
    Except Exception Unit × List SendResult × List Byte :=
  match encodeMessage message with
  | none => (.error (.runtimeError "failed to encode protocol message"), sends, [])
  | some encoded => sendAll sends encoded

/-- The loop of `ServeClient`, for so many passes, with the bytes it sent. -/
def serveClientWith : ℕ → List RecvResult → List SendResult → FrameDecoder →
    BlockingResult Unit × List Byte
  | 0, _, _, _ => (.waiting, [])
  | fuel + 1, recvs, sends, decoder =>
      match readMessage recvs decoder with
      | (.threw exception, _) => (.threw exception, [])
      | (.waiting, _) => (.waiting, [])
      | (.returned .closed, _) => (.returned (), [])
      | (.returned (.protocolError _), _) => (.returned (), [])
      | (.returned (.message message), recvs, decoder) =>
          match sendMessage sends (handleRequest message) with
          | (.error exception, _, sent) => (.threw exception, sent)
          | (.ok (), sends, sent) =>
              match serveClientWith fuel recvs sends decoder with
              | (result, more) => (result, sent ++ more)

/-- The bytes an answer delivers. -/
def RecvResult.bytes : RecvResult → List Byte
  | .received bytes => bytes
  | .failed _ => []

/-- Each pass but the last one takes a frame, so the number of bytes bounds the
number of passes. -/
def serveClient (recvs : List RecvResult) (sends : List SendResult) :
    BlockingResult Unit × List Byte :=
  serveClientWith ((recvs.flatMap RecvResult.bytes).length + 1) recvs sends .empty

/-! ## What the kernel does -/

/-- The kernel delivers a stream in pieces, and then its end. -/
inductive Delivers : List RecvResult → List Byte → Prop
  | closed (recvs : List RecvResult) : Delivers (.received [] :: recvs) []
  | interrupted {recvs : List RecvResult} {stream : List Byte} (hrest : Delivers recvs stream) :
      Delivers (.failed .eintr :: recvs) stream
  | piece {bytes : List Byte} {recvs : List RecvResult} {stream : List Byte}
      (hsome : bytes ≠ []) (hsize : bytes.length ≤ kReadMessageChunk)
      (hrest : Delivers recvs stream) : Delivers (.received bytes :: recvs) (bytes ++ stream)

/-- `send` takes something or is interrupted. -/
def SendResult.succeeds : SendResult → Bool
  | .sent count => 0 < count
  | .failed error => error = .eintr

variable {recvs : List RecvResult} {sends : List SendResult} {stream : List Byte}

theorem Delivers.length_le (h : Delivers recvs stream) :
    stream.length ≤ (recvs.flatMap RecvResult.bytes).length := by
  induction h with
  | closed => exact Nat.zero_le _
  | interrupted _ ih => simpa [RecvResult.bytes] using ih
  | piece _ _ _ ih =>
      rw [List.length_append, List.flatMap_cons, List.length_append]
      exact Nat.add_le_add_left ih _

/-- What `ReadMessage` returns while the kernel delivers a stream: the first frame
of what is buffered and still to come, or the end when there is none. -/
inductive Reads (decoder : FrameDecoder) (stream : List Byte) :
    BlockingResult ReadMessageResult × List RecvResult × FrameDecoder → Prop
  | message {message : Message} {n : ℕ} {recvs : List RecvResult} {decoder' : FrameDecoder}
      {stream' : List Byte} (hrest : Delivers recvs stream')
      (hdecode : tryDecodeFrame (decoder.pending ++ stream) = .decoded message n)
      (hpending : decoder'.pending ++ stream' = (decoder.pending ++ stream).drop n) :
      Reads decoder stream (.returned (.message message), recvs, decoder')
  | closed {recvs : List RecvResult} {decoder' : FrameDecoder}
      (hnone : frameFormat.Exhausted (decoder.pending ++ stream)) :
      Reads decoder stream (.returned .closed, recvs, decoder')
  | protocolError {error : ProtocolError} {recvs : List RecvResult} {decoder' : FrameDecoder}
      (hnone : frameFormat.Exhausted (decoder.pending ++ stream)) :
      Reads decoder stream (.returned (.protocolError error), recvs, decoder')

/-- A frame that is buffered already, or input that is already known to be bad. -/
theorem reads_buffered (h : Delivers recvs stream) (decoder : FrameDecoder)
    (hmore : tryDecodeFrame decoder.pending ≠ .needMoreData) :
    Reads decoder stream (readMessage recvs decoder) := by
  rw [readMessage.eq_def]
  obtain ⟨hdecode, -⟩ | ⟨error, hdecode, hnext⟩ |
    ⟨message, n, decoder', hdecode, hnext, hpending⟩ := decoder.next_cases
  · exact absurd hdecode hmore
  · simp only [hnext]
    exact .protocolError
      (FrameFormat.exhausted_of_error (frameFormat.error_append stream hdecode))
  · simp only [hnext]
    refine .message h (frameFormat.decoded_append stream hdecode) ?_
    rw [List.drop_append_of_le_length (frameFormat.le_of_decoded hdecode), hpending]

/-- Reading on with a piece in the decoder is reading from where it came. -/
theorem readMessage_piece {decoder : FrameDecoder} {bytes : List Byte}
    (hmore : tryDecodeFrame decoder.pending = .needMoreData) (hsome : bytes ≠ [])
    (hsize : bytes.length ≤ kReadMessageChunk) :
    readMessage (.received bytes :: recvs) decoder = readMessage recvs (decoder.append bytes) := by
  have hwithin : (RecvResult.received bytes).within kReadMessageChunk = .received bytes := by
    rw [RecvResult.within, List.take_of_length_le hsize]
  rw [readMessage, FrameDecoder.next_of_needMoreData hmore]
  cases bytes with
  | nil => exact absurd rfl hsome
  | cons byte bytes => simp only [hwithin]

theorem readMessage_reads (h : Delivers recvs stream) (decoder : FrameDecoder) :
    Reads decoder stream (readMessage recvs decoder) := by
  induction h generalizing decoder with
  | closed recvs =>
      by_cases hmore : tryDecodeFrame decoder.pending = .needMoreData
      · rw [readMessage, FrameDecoder.next_of_needMoreData hmore]
        refine .closed ?_
        rw [List.append_nil]
        exact FrameFormat.exhausted_of_needMoreData hmore
      · exact reads_buffered (.closed recvs) decoder hmore
  | @interrupted recvs stream hrest ih =>
      by_cases hmore : tryDecodeFrame decoder.pending = .needMoreData
      · rw [readMessage, FrameDecoder.next_of_needMoreData hmore]
        exact ih decoder
      · exact reads_buffered (.interrupted hrest) decoder hmore
  | @piece bytes recvs stream hsome hsize hrest ih =>
      by_cases hmore : tryDecodeFrame decoder.pending = .needMoreData
      · rw [readMessage_piece hmore hsome hsize]
        have hreads := ih (decoder.append bytes)
        generalize readMessage recvs (decoder.append bytes) = outcome at hreads
        cases hreads with
        | message hrest' hdecode hpending =>
            rw [FrameDecoder.pending_append, List.append_assoc] at hdecode hpending
            exact .message hrest' hdecode hpending
        | closed hnone =>
            rw [FrameDecoder.pending_append, List.append_assoc] at hnone
            exact .closed hnone
        | protocolError hnone =>
            rw [FrameDecoder.pending_append, List.append_assoc] at hnone
            exact .protocolError hnone
      · exact reads_buffered (.piece hsome hsize hrest) decoder hmore

/-- `SendAll` sends all. -/
theorem sendAll_ok (bytes : List Byte) (hsends : ∀ answer ∈ sends, answer.succeeds = true) :
    ∃ sends', sendAll sends bytes = (.ok (), sends', bytes) ∧
      ∀ answer ∈ sends', answer.succeeds = true := by
  induction sends generalizing bytes with
  | nil =>
      rw [sendAll]
      split
      · next hempty =>
          rw [List.isEmpty_iff] at hempty
          exact ⟨[], by rw [hempty], nofun⟩
      · exact ⟨[], rfl, nofun⟩
  | cons answer sends ih =>
      have hrest : ∀ answer ∈ sends, answer.succeeds = true := fun other hmem =>
        hsends other (List.mem_cons_of_mem _ hmem)
      have hanswer := hsends answer List.mem_cons_self
      rw [sendAll.eq_def]
      split
      · next hempty =>
          rw [List.isEmpty_iff] at hempty
          exact ⟨_, by rw [hempty], hsends⟩
      · next hsome =>
          cases answer with
          | failed error =>
              have hintr : error = .eintr := of_decide_eq_true hanswer
              simp only [hintr, if_true]
              exact ih bytes hrest
          | sent count =>
              have hcount : 0 < count := of_decide_eq_true hanswer
              have hlength : 0 < bytes.length := by
                rw [List.isEmpty_iff] at hsome
                exact List.length_pos_iff.mpr hsome
              have hpos : ¬ min count bytes.length = 0 := by omega
              obtain ⟨sends', hsent, hsends'⟩ := ih (bytes.drop (min count bytes.length)) hrest
              refine ⟨sends', ?_, hsends'⟩
              simp only [if_neg hpos, hsent, List.take_append_drop]

/-- The loop of `ServeClient` returns and has sent the responses to all frames. -/
theorem serveClientWith_returned (fuel : ℕ) (h : Delivers recvs stream)
    (hsends : ∀ answer ∈ sends, answer.succeeds = true) (decoder : FrameDecoder)
    (hfuel : (decoder.pending ++ stream).length < fuel) :
    ∃ bytes, encodeAll ((frameFormat.frames (decoder.pending ++ stream)).map handleRequest) =
        some bytes ∧
      serveClientWith fuel recvs sends decoder = (.returned (), bytes) := by
  induction fuel generalizing recvs sends stream decoder with
  | zero => exact absurd hfuel (Nat.not_lt_zero _)
  | succ fuel ih =>
      have hreads := readMessage_reads h decoder
      rw [serveClientWith]
      generalize readMessage recvs decoder = outcome at hreads
      cases hreads with
      | @message message n recvs' decoder' stream' hrest hdecode hpending =>
          have hpayload := (tryDecodeFrame_decoded hdecode).2.2.1
          obtain ⟨frame, hframe⟩ := Option.isSome_iff_exists.mp
            (encodeMessage_handleOwnedRequest hpayload)
          obtain ⟨sends', hsent, hsends'⟩ := sendAll_ok frame hsends
          have hfuel' : (decoder'.pending ++ stream').length < fuel := by
            have hshorter := frameFormat.length_drop_lt_of_decoded hdecode
            rw [hpending]
            exact Nat.lt_of_lt_of_le hshorter (Nat.le_of_lt_succ hfuel)
          obtain ⟨more, hencode, hserved⟩ := ih hrest hsends' decoder' hfuel'
          rw [hpending] at hencode
          refine ⟨frame ++ more, ?_, ?_⟩
          · rw [FrameFormat.frames_eq_cons hdecode, List.map_cons, encodeAll, handleRequest_eq, hframe,
              hencode]
          · simp only [sendMessage, handleRequest_eq, hframe, hsent, hserved]
      | closed hnone =>
          refine ⟨[], ?_, rfl⟩
          rw [FrameFormat.frames_eq_nil hnone]
          rfl
      | protocolError hnone =>
          refine ⟨[], ?_, rfl⟩
          rw [FrameFormat.frames_eq_nil hnone]
          rfl

/-- When the kernel delivers a stream and its end, the reference returns and has
sent the responses to the frames of the stream. -/
theorem serveClient_returned (h : Delivers recvs stream)
    (hsends : ∀ answer ∈ sends, answer.succeeds = true) :
    ∃ bytes, encodeAll ((frameFormat.frames stream).map handleRequest) = some bytes ∧
      serveClient recvs sends = (.returned (), bytes) := by
  refine serveClientWith_returned _ h hsends .empty ?_
  rw [FrameDecoder.pending_empty, List.nil_append]
  exact Nat.lt_succ_of_le h.length_le

end PulseCore.Network
