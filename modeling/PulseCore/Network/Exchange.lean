/-
# A client and the blocking server

The client programs of the repository send a request, wait for the response, check
it, and go on with the next request; the blocking server reads a request, answers it,
and goes on. Between them are two streams of bytes with buffers of some size. A call
of `send` takes as much as there is room for or less, and waits when there is none; a
call of `recv` delivers a piece of what has arrived, and waits when nothing has. Which
party runs, how much its call transfers and whether it is interrupted is up to the
schedule.

Both parties block in both directions, so it is not obvious that they cannot wait for
each other. They take turns: at every moment either a request or a response is on its
way, and whoever has to move next can.
-/

import PulseCore.Foundation.Potential
import PulseCore.Network.BlockingTcp
import PulseCore.Protocol.RoundTrip

namespace PulseCore.Network

open PulseCore.Foundation PulseCore.Core PulseCore.Protocol

/-! ## The two programs -/

/-- A request of a client, and whether it is content with a response. -/
structure ClientCall where
  request : Message
  accepts : Message → Bool

/-- What a client does on its connection, and what it throws when the connection is
closed, the response is malformed, or it is not the expected one. -/
structure ClientProgram where
  calls : List ClientCall
  closed : Exception
  protocolError : Exception
  unexpected : Exception

/-- `SendRequestAndReadResponse` behind `ConnectTcp`. It takes any response. -/
def sendRequestAndReadResponse (request : Message) : ClientProgram where
  calls := [⟨request, fun _ => true⟩]
  closed := .runtimeError "connection closed before response"
  protocolError := .runtimeError "protocol error while reading response"
  unexpected := .runtimeError ""

/-- Where the client stands. -/
inductive ClientState
  /-- In `SendAll`, with what is left of the frame. -/
  | sending (bytes : List Byte) (call : ClientCall) (later : List ClientCall)
  /-- In `ReadMessage`, in front of `recv`. -/
  | reading (call : ClientCall) (later : List ClientCall)
  /-- It has made all its calls, and its socket is closed. -/
  | finished
  | failed (exception : Exception)

/-- Where `ServeClient` stands. -/
inductive ServeState
  /-- In `ReadMessage`, in front of `recv`. -/
  | reading
  /-- In `SendAll`, with what is left of the frame. -/
  | sending (bytes : List Byte)
  | returned
  | threw (exception : Exception)

/-- The two parties and what is between them. -/
structure Exchange where
  client : ClientState
  clientDecoder : FrameDecoder
  server : ServeState
  serverDecoder : FrameDecoder
  toServer : List Byte
  toClient : List Byte
  /-- The responses the client was content with, in order. -/
  responses : List Message

/-- One party makes a system call, which transfers at most so many bytes; none when it
is interrupted. -/
inductive ExchangeAction
  | client (count : ℕ)
  | server (count : ℕ)

/-- The client goes on to its next call. -/
def clientSend : List ClientCall → ClientState
  | [] => .finished
  | call :: later =>
      match encodeMessage call.request with
      | none => .failed (.runtimeError "failed to encode protocol message")
      | some bytes => .sending bytes call later

/-- `ReadMessage` in the client, with the answer of `recv` if there is one. -/
def clientRead (program : ClientProgram) (answers : List RecvResult) (call : ClientCall)
    (later : List ClientCall) (s : Exchange) : Exchange :=
  match readMessage answers s.clientDecoder with
  | (.waiting, _, clientDecoder) => { s with client := .reading call later, clientDecoder }
  | (.threw exception, _, clientDecoder) => { s with client := .failed exception, clientDecoder }
  | (.returned .closed, _, clientDecoder) =>
      { s with client := .failed program.closed, clientDecoder }
  | (.returned (.protocolError _), _, clientDecoder) =>
      { s with client := .failed program.protocolError, clientDecoder }
  | (.returned (.message message), _, clientDecoder) =>
      if call.accepts message then
        { s with
          client := clientSend later
          clientDecoder
          responses := s.responses ++ [message] }
      else { s with client := .failed program.unexpected, clientDecoder }

/-- `ReadMessage` in the server, with the answer of `recv` if there is one, and what the
loop of `ServeClient` does behind it. -/
def serverRead (answers : List RecvResult) (s : Exchange) : Exchange :=
  match readMessage answers s.serverDecoder with
  | (.waiting, _, serverDecoder) => { s with server := .reading, serverDecoder }
  | (.threw exception, _, serverDecoder) => { s with server := .threw exception, serverDecoder }
  | (.returned .closed, _, serverDecoder) => { s with server := .returned, serverDecoder }
  | (.returned (.protocolError _), _, serverDecoder) =>
      { s with server := .returned, serverDecoder }
  | (.returned (.message message), _, serverDecoder) =>
      match encodeMessage (handleRequest message) with
      | none =>
          { s with
            server := .threw (.runtimeError "failed to encode protocol message")
            serverDecoder }
      | some bytes => { s with server := .sending bytes, serverDecoder }

/-- The socket of the client is closed. -/
def ClientState.isClosed : ClientState → Bool
  | .finished => true
  | .failed _ => true
  | _ => false

/-- The socket of the server is closed. -/
def ServeState.isClosed : ServeState → Bool
  | .returned => true
  | .threw _ => true
  | _ => false

namespace Exchange

/-- The client has connected, and the server has accepted it. -/
def start (program : ClientProgram) : Exchange where
  client := clientSend program.calls
  clientDecoder := .empty
  server := .reading
  serverDecoder := .empty
  toServer := []
  toClient := []
  responses := []

/-- How much a `send` of these bytes takes. -/
def sendable (capacity count : ℕ) (bytes buffered : List Byte) : ℕ :=
  min count (min bytes.length (capacity - buffered.length))

/-- How much a `recv` delivers. -/
def receivable (count : ℕ) (buffered : List Byte) : ℕ :=
  min count (min buffered.length kReadMessageChunk)

/-- The call of the client, between buffers of this capacity. -/
def clientStep (program : ClientProgram) (capacity count : ℕ) (s : Exchange) : Exchange :=
  match s.client with
  | .sending bytes call later =>
      if s.server.isClosed then { s with client := .failed (.syscallError "send" .epipe) }
      else
        let sent := sendable capacity count bytes s.toServer
        let s := { s with toServer := s.toServer ++ bytes.take sent }
        if (bytes.drop sent).isEmpty then clientRead program [] call later s
        else { s with client := .sending (bytes.drop sent) call later }
  | .reading call later =>
      if s.toClient.isEmpty then
        if s.server.isClosed then clientRead program [.received []] call later s else s
      else
        let received := receivable count s.toClient
        if received = 0 then s
        else
          clientRead program [.received (s.toClient.take received)] call later
            { s with toClient := s.toClient.drop received }
  | .finished => s
  | .failed _ => s

/-- The call of the server. -/
def serverStep (capacity count : ℕ) (s : Exchange) : Exchange :=
  match s.server with
  | .reading =>
      if s.toServer.isEmpty then
        if s.client.isClosed then serverRead [.received []] s else s
      else
        let received := receivable count s.toServer
        if received = 0 then s
        else
          serverRead [.received (s.toServer.take received)]
            { s with toServer := s.toServer.drop received }
  | .sending bytes =>
      if s.client.isClosed then { s with server := .threw (.syscallError "send" .epipe) }
      else
        let sent := sendable capacity count bytes s.toClient
        let s := { s with toClient := s.toClient ++ bytes.take sent }
        if (bytes.drop sent).isEmpty then serverRead [] s
        else { s with server := .sending (bytes.drop sent) }
  | .returned => s
  | .threw _ => s

def step (program : ClientProgram) (capacity : ℕ) (s : Exchange) : ExchangeAction → Exchange
  | .client count => s.clientStep program capacity count
  | .server count => s.serverStep capacity count

def run (program : ClientProgram) (capacity : ℕ) (actions : List ExchangeAction) : Exchange :=
  actions.foldl (step program capacity) (start program)

/-- The call transfers something, or it meets the end of the stream. -/
def advances (capacity : ℕ) (s : Exchange) : ExchangeAction → Bool
  | .client count =>
      match s.client with
      | .sending bytes _ _ => s.server.isClosed || 0 < sendable capacity count bytes s.toServer
      | .reading _ _ =>
          if s.toClient.isEmpty then s.server.isClosed else 0 < receivable count s.toClient
      | .finished => false
      | .failed _ => false
  | .server count =>
      match s.server with
      | .reading =>
          if s.toServer.isEmpty then s.client.isClosed else 0 < receivable count s.toServer
      | .sending bytes => s.client.isClosed || 0 < sendable capacity count bytes s.toClient
      | .returned => false
      | .threw _ => false

/-- Such a call costs one. -/
def stepCost (capacity : ℕ) (s : Exchange) (action : ExchangeAction) : ℕ :=
  if s.advances capacity action then 1 else 0

end Exchange

/-- As long as a part of a frame is missing, the decoder asks for more. -/
theorem tryDecodeFrame_part {message : Message} {arrived missing frame : List Byte}
    (hencode : encodeMessage message = some frame) (hframe : arrived ++ missing = frame)
    (hmissing : missing ≠ []) : tryDecodeFrame arrived = .needMoreData := by
  have hwhole := tryDecodeFrame_encoded hencode []
  rw [List.append_nil, ← hframe] at hwhole
  cases hdecode : tryDecodeFrame arrived with
  | needMoreData => rfl
  | error error =>
      have herror := frameFormat.error_append missing hdecode
      exact absurd (hwhole.symm.trans herror) nofun
  | decoded other n =>
      have hother := frameFormat.decoded_append missing hdecode
      have hle := frameFormat.le_of_decoded hdecode
      have hlength := length_encodeMessage hencode
      have hpos := List.length_pos_iff.mpr hmissing
      cases hwhole.symm.trans hother
      rw [← hframe, List.length_append] at hlength
      omega

/-- A frame that has arrived is the message, and nothing is left of it. -/
theorem readMessage_frame {message : Message} {frame : List Byte} {decoder : FrameDecoder}
    (hencode : encodeMessage message = some frame) (hpending : decoder.pending = frame) :
    ∃ decoder', readMessage [] decoder = (.returned (.message message), [], decoder') ∧
      decoder'.pending = [] := by
  have hdecode := tryDecodeFrame_encoded hencode []
  rw [List.append_nil, ← hpending] at hdecode
  have hrest := FrameDecoder.pending_next_of_decoded hdecode
  rw [hpending, ← length_encodeMessage hencode, List.drop_length] at hrest
  rw [readMessage.eq_def]
  refine ⟨decoder.next.2, ?_, hrest⟩
  have hnext : decoder.next = (.decoded message (kHeaderSize + message.payload.length),
      decoder.next.2) := Prod.ext (decoder.next_fst.trans hdecode) rfl
  rw [hnext]

theorem tryDecodeFrame_drained {decoder : FrameDecoder} (hdrained : decoder.pending = []) :
    tryDecodeFrame decoder.pending = .needMoreData := by
  rw [hdrained]
  rfl

theorem readMessage_waiting {decoder : FrameDecoder}
    (hmore : tryDecodeFrame decoder.pending = .needMoreData) :
    readMessage [] decoder = (.waiting, [], decoder) := by
  rw [readMessage, FrameDecoder.next_of_needMoreData hmore]

/-- A piece of a frame of which something is still missing. -/
theorem readMessage_part {message : Message} {piece missing frame : List Byte}
    {decoder : FrameDecoder} (hencode : encodeMessage message = some frame)
    (hsome : piece ≠ []) (hsize : piece.length ≤ kReadMessageChunk)
    (hframe : decoder.pending ++ (piece ++ missing) = frame) (hmissing : missing ≠ []) :
    readMessage [.received piece] decoder = (.waiting, [], decoder.append piece) := by
  have hmore := tryDecodeFrame_part hencode hframe (List.append_ne_nil_of_left_ne_nil hsome _)
  have happend : (decoder.append piece).pending ++ missing = frame := by
    rw [FrameDecoder.pending_append, List.append_assoc, hframe]
  rw [readMessage_piece hmore hsome hsize]
  exact readMessage_waiting (tryDecodeFrame_part hencode happend hmissing)

/-- The last piece of a frame. -/
theorem readMessage_last {message : Message} {piece frame : List Byte} {decoder : FrameDecoder}
    (hencode : encodeMessage message = some frame) (hsome : piece ≠ [])
    (hsize : piece.length ≤ kReadMessageChunk) (hframe : decoder.pending ++ piece = frame) :
    ∃ decoder', readMessage [.received piece] decoder =
        (.returned (.message message), [], decoder') ∧ decoder'.pending = [] := by
  rw [readMessage_piece (tryDecodeFrame_part hencode hframe hsome) hsome hsize]
  exact readMessage_frame hencode (by rw [FrameDecoder.pending_append, hframe])

namespace ClientCall

/-- The request can be encoded, and the client is content with the answer of the
handler. -/
def Fits (call : ClientCall) : Prop :=
  (encodeMessage call.request).isSome = true ∧ call.accepts (handleRequest call.request) = true

/-- The frame of the request. -/
def requestBytes (call : ClientCall) : List Byte := (encodeMessage call.request).getD []

/-- The frame of the response. -/
def responseBytes (call : ClientCall) : List Byte :=
  (encodeMessage (handleRequest call.request)).getD []

/-- Every byte of a call is sent and received once. -/
def transfers (call : ClientCall) : ℕ :=
  2 * (call.requestBytes.length + call.responseBytes.length)

variable {call : ClientCall}

theorem Fits.encode_request (hfits : call.Fits) :
    encodeMessage call.request = some call.requestBytes := by
  obtain ⟨frame, hframe⟩ := Option.isSome_iff_exists.mp hfits.1
  rw [requestBytes, hframe, Option.getD_some]

theorem Fits.encode_response (hfits : call.Fits) :
    encodeMessage (handleRequest call.request) = some call.responseBytes := by
  have hpayload := (valid_of_encodeMessage hfits.encode_request).1
  obtain ⟨frame, hframe⟩ := Option.isSome_iff_exists.mp
    (encodeMessage_handleOwnedRequest hpayload)
  rw [responseBytes, handleRequest_eq, hframe, Option.getD_some]

end ClientCall

/-! ## The stages of an exchange -/

namespace Exchange

/-- What is to be transferred for these calls. -/
def transfersOf (calls : List ClientCall) : ℕ := (calls.map ClientCall.transfers).sum

/-- These calls are still to be answered, and the ones before them have been. -/
structure Due (calls later : List ClientCall) (s : Exchange) : Prop where
  fits : ∀ call ∈ later, call.Fits
  answered : s.responses ++ later.map (fun call => handleRequest call.request) =
    calls.map fun call => handleRequest call.request

/-- Where a client and the server can be, with the number of transfers that are left. A
request is being sent, or sent and not yet read, or a response is being sent, or sent
and not yet read; and at last the client has closed, and the server has seen it. -/
inductive OnTrack (calls : List ClientCall) (s : Exchange) : ℕ → Prop
  | requesting {unsent : List Byte} {call : ClientCall} {later : List ClientCall}
      (hdue : Due calls (call :: later) s) (hclient : s.client = .sending unsent call later)
      (hserver : s.server = .reading) (hunsent : unsent ≠ [])
      (hrequest : s.serverDecoder.pending ++ (s.toServer ++ unsent) = call.requestBytes)
      (hdecoder : s.clientDecoder.pending = []) (hempty : s.toClient = []) :
      OnTrack calls s (2 * unsent.length + s.toServer.length + 2 * call.responseBytes.length +
        transfersOf later + 1)
  | requested {call : ClientCall} {later : List ClientCall}
      (hdue : Due calls (call :: later) s) (hclient : s.client = .reading call later)
      (hserver : s.server = .reading) (hsent : s.toServer ≠ [])
      (hrequest : s.serverDecoder.pending ++ s.toServer = call.requestBytes)
      (hdecoder : s.clientDecoder.pending = []) (hempty : s.toClient = []) :
      OnTrack calls s (s.toServer.length + 2 * call.responseBytes.length + transfersOf later + 1)
  | responding {unsent : List Byte} {call : ClientCall} {later : List ClientCall}
      (hdue : Due calls (call :: later) s) (hclient : s.client = .reading call later)
      (hserver : s.server = .sending unsent) (hunsent : unsent ≠ [])
      (hresponse : s.clientDecoder.pending ++ (s.toClient ++ unsent) = call.responseBytes)
      (hdecoder : s.serverDecoder.pending = []) (hempty : s.toServer = []) :
      OnTrack calls s (2 * unsent.length + s.toClient.length + transfersOf later + 1)
  | responded {call : ClientCall} {later : List ClientCall}
      (hdue : Due calls (call :: later) s) (hclient : s.client = .reading call later)
      (hserver : s.server = .reading) (hsent : s.toClient ≠ [])
      (hresponse : s.clientDecoder.pending ++ s.toClient = call.responseBytes)
      (hdecoder : s.serverDecoder.pending = []) (hempty : s.toServer = []) :
      OnTrack calls s (s.toClient.length + transfersOf later + 1)
  | closing (hdue : Due calls [] s) (hclient : s.client = .finished)
      (hserver : s.server = .reading) (hdecoder : s.serverDecoder.pending = [])
      (hempty : s.toServer = []) : OnTrack calls s 1
  | ended (hdue : Due calls [] s) (hclient : s.client = .finished)
      (hserver : s.server = .returned) : OnTrack calls s 0

variable {program : ClientProgram} {calls later : List ClientCall} {s : Exchange} {n : ℕ}

/-- The client goes on with the next call, when nothing is on its way. -/
theorem onTrack_clientSend (hdue : Due calls later s) (hclient : s.client = clientSend later)
    (hserver : s.server = .reading) (hserverDecoder : s.serverDecoder.pending = [])
    (hclientDecoder : s.clientDecoder.pending = []) (htoServer : s.toServer = [])
    (htoClient : s.toClient = []) : OnTrack calls s (transfersOf later + 1) := by
  cases later with
  | nil => exact .closing hdue hclient hserver hserverDecoder htoServer
  | cons call later =>
      have hencode := (hdue.fits call List.mem_cons_self).encode_request
      rw [clientSend, hencode] at hclient
      have htrack := OnTrack.requesting hdue hclient hserver (encodeMessage_ne_nil hencode)
        (by rw [hserverDecoder, htoServer, List.nil_append, List.nil_append]) hclientDecoder
        htoClient
      convert htrack using 1
      rw [htoServer, List.length_nil, transfersOf, transfersOf, List.map_cons, List.sum_cons,
        ClientCall.transfers]
      omega

theorem onTrack_start (hfits : ∀ call ∈ program.calls, call.Fits) :
    OnTrack program.calls (start program) (transfersOf program.calls + 1) :=
  onTrack_clientSend ⟨hfits, rfl⟩ rfl rfl rfl rfl rfl rfl

/-- The piece a `recv` delivers. -/
theorem piece_of_receivable {count : ℕ} {buffered : List Byte}
    (hsome : receivable count buffered ≠ 0) :
    buffered.take (receivable count buffered) ≠ [] ∧
      (buffered.take (receivable count buffered)).length ≤ kReadMessageChunk ∧
      (buffered.drop (receivable count buffered)).length + receivable count buffered =
        buffered.length := by
  have hle : receivable count buffered ≤ buffered.length :=
    (Nat.min_le_right _ _).trans (Nat.min_le_left _ _)
  have hchunk : receivable count buffered ≤ kReadMessageChunk :=
    (Nat.min_le_right _ _).trans (Nat.min_le_right _ _)
  have hlength : (buffered.take (receivable count buffered)).length =
      receivable count buffered := by
    rw [List.length_take, Nat.min_eq_left hle]
  refine ⟨List.ne_nil_of_length_pos ?_, ?_, ?_⟩
  · omega
  · omega
  · rw [List.length_drop]
    omega

/-- What a `send` has taken is on its way, in front of what it has not. -/
theorem sent_part {sent : ℕ} {arrived buffered unsent frame : List Byte}
    (hle : sent ≤ unsent.length) (hframe : arrived ++ (buffered ++ unsent) = frame) :
    (buffered ++ unsent.take sent).length = buffered.length + sent ∧
      arrived ++ ((buffered ++ unsent.take sent) ++ unsent.drop sent) = frame := by
  constructor
  · rw [List.length_append, List.length_take, Nat.min_eq_left hle]
  · rw [List.append_assoc, List.take_append_drop, hframe]

theorem sendable_le (capacity count : ℕ) (bytes buffered : List Byte) :
    sendable capacity count bytes buffered ≤ bytes.length :=
  (Nat.min_le_right _ _).trans (Nat.min_le_left _ _)

/-- `SendAll` in the client. -/
theorem clientStep_requesting (capacity count : ℕ) {unsent : List Byte} {call : ClientCall}
    (hdue : Due calls (call :: later) s) (hclient : s.client = .sending unsent call later)
    (hserver : s.server = .reading) (hunsent : unsent ≠ [])
    (hrequest : s.serverDecoder.pending ++ (s.toServer ++ unsent) = call.requestBytes)
    (hdecoder : s.clientDecoder.pending = []) (hempty : s.toClient = []) :
    ∃ n', OnTrack calls (s.clientStep program capacity count) n' ∧
      s.stepCost capacity (.client count) + n' ≤
        2 * unsent.length + s.toServer.length + 2 * call.responseBytes.length +
          transfersOf later + 1 := by
  obtain ⟨client, clientDecoder, server, serverDecoder, toServer, toClient, responses⟩ := s
  subst hclient hserver
  have hle := sendable_le capacity count unsent toServer
  simp only [stepCost, advances, clientStep, ServeState.isClosed, Bool.false_or, decide_eq_true_eq,
    Bool.false_eq_true, if_false]
  generalize sendable capacity count unsent toServer = sent at hle
  obtain ⟨htaken, hframe⟩ := sent_part hle hrequest
  by_cases hall : unsent.drop sent = []
  · have hlength := List.drop_eq_nil_iff.mp hall
    have hpos := List.length_pos_iff.mpr hunsent
    rw [hall, List.append_nil] at hframe
    simp only [hall, List.isEmpty_nil, if_true, clientRead,
      readMessage_waiting (tryDecodeFrame_drained hdecoder)]
    refine ⟨_, .requested ⟨hdue.fits, hdue.answered⟩ rfl rfl ?_ hframe hdecoder hempty, ?_⟩
    · exact List.ne_nil_of_length_pos (by rw [htaken]; omega)
    · simp only [htaken]
      split <;> omega
  · simp only [List.isEmpty_iff, hall, if_false]
    refine ⟨_, .requesting ⟨hdue.fits, hdue.answered⟩ rfl rfl hall hframe hdecoder hempty, ?_⟩
    simp only [htaken, List.length_drop]
    split <;> omega

/-- `ReadMessage` in the server, while the client is still sending. -/
theorem serverStep_requesting (capacity count : ℕ) {unsent : List Byte} {call : ClientCall}
    (hdue : Due calls (call :: later) s) (hclient : s.client = .sending unsent call later)
    (hserver : s.server = .reading) (hunsent : unsent ≠ [])
    (hrequest : s.serverDecoder.pending ++ (s.toServer ++ unsent) = call.requestBytes)
    (hdecoder : s.clientDecoder.pending = []) (hempty : s.toClient = []) :
    ∃ n', OnTrack calls (s.serverStep capacity count) n' ∧
      s.stepCost capacity (.server count) + n' ≤
        2 * unsent.length + s.toServer.length + 2 * call.responseBytes.length +
          transfersOf later + 1 := by
  have htrack := OnTrack.requesting hdue hclient hserver hunsent hrequest hdecoder hempty
  obtain ⟨client, clientDecoder, server, serverDecoder, toServer, toClient, responses⟩ := s
  subst hclient hserver
  simp only [stepCost, advances, serverStep, ClientState.isClosed, Bool.false_eq_true, if_false,
    List.isEmpty_iff]
  by_cases hnone : toServer = []
  · simp only [hnone, if_true, Bool.false_eq_true, if_false, Nat.zero_add]
    subst hnone
    exact ⟨_, htrack, Nat.le_refl _⟩
  by_cases hreceived : receivable count toServer = 0
  · simp only [hnone, hreceived, if_true, if_false, Nat.lt_irrefl, decide_false,
      Bool.false_eq_true, Nat.zero_add]
    exact ⟨_, htrack, Nat.le_refl _⟩
  obtain ⟨hsome, hsize, hlength⟩ := piece_of_receivable hreceived
  have hencode := (hdue.fits call List.mem_cons_self).encode_request
  have hframe : serverDecoder.pending ++ (toServer.take (receivable count toServer) ++
      (toServer.drop (receivable count toServer) ++ unsent)) = call.requestBytes := by
    rw [← List.append_assoc (toServer.take _), List.take_append_drop]
    exact hrequest
  have hread := readMessage_part hencode hsome hsize hframe
    (List.append_ne_nil_of_right_ne_nil _ hunsent)
  simp only [hnone, hreceived, if_false, serverRead, hread]
  refine ⟨_, .requesting ⟨hdue.fits, hdue.answered⟩ rfl rfl hunsent ?_ hdecoder hempty, ?_⟩
  · rw [FrameDecoder.pending_append, List.append_assoc]
    exact hframe
  · dsimp only
    split <;> omega

/-- The server reads the rest of the request. -/
theorem serverStep_requested (capacity count : ℕ) {call : ClientCall}
    (hdue : Due calls (call :: later) s) (hclient : s.client = .reading call later)
    (hserver : s.server = .reading) (hsent : s.toServer ≠ [])
    (hrequest : s.serverDecoder.pending ++ s.toServer = call.requestBytes)
    (hdecoder : s.clientDecoder.pending = []) (hempty : s.toClient = []) :
    ∃ n', OnTrack calls (s.serverStep capacity count) n' ∧
      s.stepCost capacity (.server count) + n' ≤
        s.toServer.length + 2 * call.responseBytes.length + transfersOf later + 1 := by
  have htrack := OnTrack.requested hdue hclient hserver hsent hrequest hdecoder hempty
  obtain ⟨client, clientDecoder, server, serverDecoder, toServer, toClient, responses⟩ := s
  subst hclient hserver hempty
  replace hsent : toServer ≠ [] := hsent
  simp only [stepCost, advances, serverStep, ClientState.isClosed, List.isEmpty_iff, hsent,
    if_false]
  by_cases hreceived : receivable count toServer = 0
  · simp only [hreceived, if_true, if_false, Nat.lt_irrefl, decide_false, Bool.false_eq_true,
      Nat.zero_add]
    exact ⟨_, htrack, Nat.le_refl _⟩
  obtain ⟨hsome, hsize, hlength⟩ := piece_of_receivable hreceived
  have hfits := hdue.fits call List.mem_cons_self
  have hframe : serverDecoder.pending ++ (toServer.take (receivable count toServer) ++
      toServer.drop (receivable count toServer)) = call.requestBytes := by
    rw [List.take_append_drop]
    exact hrequest
  simp only [hreceived, if_false, serverRead]
  by_cases hrest : toServer.drop (receivable count toServer) = []
  · rw [hrest, List.append_nil] at hframe
    rw [hrest, List.length_nil] at hlength
    obtain ⟨decoder', hread, hdrained⟩ := readMessage_last hfits.encode_request hsome hsize hframe
    simp only [hread, hfits.encode_response, hrest]
    refine ⟨_, .responding ⟨hdue.fits, hdue.answered⟩ rfl rfl
      (encodeMessage_ne_nil hfits.encode_response) ?_ hdrained rfl, ?_⟩
    · rw [show clientDecoder.pending = [] from hdecoder]
      rfl
    · dsimp only [List.length_nil]
      split <;> omega
  · have hread := readMessage_part hfits.encode_request hsome hsize hframe hrest
    simp only [hread]
    refine ⟨_, .requested ⟨hdue.fits, hdue.answered⟩ rfl rfl hrest ?_ hdecoder rfl, ?_⟩
    · rw [FrameDecoder.pending_append, List.append_assoc]
      exact hframe
    · dsimp only
      split <;> omega

/-- `SendAll` in the server. -/
theorem serverStep_responding (capacity count : ℕ) {unsent : List Byte} {call : ClientCall}
    (hdue : Due calls (call :: later) s) (hclient : s.client = .reading call later)
    (hserver : s.server = .sending unsent) (hunsent : unsent ≠ [])
    (hresponse : s.clientDecoder.pending ++ (s.toClient ++ unsent) = call.responseBytes)
    (hdecoder : s.serverDecoder.pending = []) (hempty : s.toServer = []) :
    ∃ n', OnTrack calls (s.serverStep capacity count) n' ∧
      s.stepCost capacity (.server count) + n' ≤
        2 * unsent.length + s.toClient.length + transfersOf later + 1 := by
  obtain ⟨client, clientDecoder, server, serverDecoder, toServer, toClient, responses⟩ := s
  subst hclient hserver
  have hle := sendable_le capacity count unsent toClient
  simp only [stepCost, advances, serverStep, ClientState.isClosed, Bool.false_or,
    decide_eq_true_eq, Bool.false_eq_true, if_false]
  generalize sendable capacity count unsent toClient = sent at hle
  obtain ⟨htaken, hframe⟩ := sent_part hle hresponse
  by_cases hall : unsent.drop sent = []
  · have hlength := List.drop_eq_nil_iff.mp hall
    have hpos := List.length_pos_iff.mpr hunsent
    rw [hall, List.append_nil] at hframe
    simp only [hall, List.isEmpty_nil, if_true, serverRead,
      readMessage_waiting (tryDecodeFrame_drained hdecoder)]
    refine ⟨_, .responded ⟨hdue.fits, hdue.answered⟩ rfl rfl ?_ hframe hdecoder hempty, ?_⟩
    · exact List.ne_nil_of_length_pos (by rw [htaken]; omega)
    · simp only [htaken]
      split <;> omega
  · simp only [List.isEmpty_iff, hall, if_false]
    refine ⟨_, .responding ⟨hdue.fits, hdue.answered⟩ rfl rfl hall hframe hdecoder hempty, ?_⟩
    simp only [htaken, List.length_drop]
    split <;> omega

/-- `ReadMessage` in the client, while the server is still sending. -/
theorem clientStep_responding (capacity count : ℕ) {unsent : List Byte} {call : ClientCall}
    (hdue : Due calls (call :: later) s) (hclient : s.client = .reading call later)
    (hserver : s.server = .sending unsent) (hunsent : unsent ≠ [])
    (hresponse : s.clientDecoder.pending ++ (s.toClient ++ unsent) = call.responseBytes)
    (hdecoder : s.serverDecoder.pending = []) (hempty : s.toServer = []) :
    ∃ n', OnTrack calls (s.clientStep program capacity count) n' ∧
      s.stepCost capacity (.client count) + n' ≤
        2 * unsent.length + s.toClient.length + transfersOf later + 1 := by
  have htrack := OnTrack.responding hdue hclient hserver hunsent hresponse hdecoder hempty
  obtain ⟨client, clientDecoder, server, serverDecoder, toServer, toClient, responses⟩ := s
  subst hclient hserver
  simp only [stepCost, advances, clientStep, ServeState.isClosed, Bool.false_eq_true, if_false,
    List.isEmpty_iff]
  by_cases hnone : toClient = []
  · simp only [hnone, if_true, Bool.false_eq_true, if_false, Nat.zero_add]
    subst hnone
    exact ⟨_, htrack, Nat.le_refl _⟩
  by_cases hreceived : receivable count toClient = 0
  · simp only [hnone, hreceived, if_true, if_false, Nat.lt_irrefl, decide_false,
      Bool.false_eq_true, Nat.zero_add]
    exact ⟨_, htrack, Nat.le_refl _⟩
  obtain ⟨hsome, hsize, hlength⟩ := piece_of_receivable hreceived
  have hencode := (hdue.fits call List.mem_cons_self).encode_response
  have hframe : clientDecoder.pending ++ (toClient.take (receivable count toClient) ++
      (toClient.drop (receivable count toClient) ++ unsent)) = call.responseBytes := by
    rw [← List.append_assoc (toClient.take _), List.take_append_drop]
    exact hresponse
  have hread := readMessage_part hencode hsome hsize hframe
    (List.append_ne_nil_of_right_ne_nil _ hunsent)
  simp only [hnone, hreceived, if_false, clientRead, hread]
  refine ⟨_, .responding ⟨hdue.fits, hdue.answered⟩ rfl rfl hunsent ?_ hdecoder hempty, ?_⟩
  · rw [FrameDecoder.pending_append, List.append_assoc]
    exact hframe
  · dsimp only
    split <;> omega

/-- The client reads the rest of the response, and goes on. -/
theorem clientStep_responded (capacity count : ℕ) {call : ClientCall}
    (hdue : Due calls (call :: later) s) (hclient : s.client = .reading call later)
    (hserver : s.server = .reading) (hsent : s.toClient ≠ [])
    (hresponse : s.clientDecoder.pending ++ s.toClient = call.responseBytes)
    (hdecoder : s.serverDecoder.pending = []) (hempty : s.toServer = []) :
    ∃ n', OnTrack calls (s.clientStep program capacity count) n' ∧
      s.stepCost capacity (.client count) + n' ≤ s.toClient.length + transfersOf later + 1 := by
  have htrack := OnTrack.responded hdue hclient hserver hsent hresponse hdecoder hempty
  obtain ⟨client, clientDecoder, server, serverDecoder, toServer, toClient, responses⟩ := s
  subst hclient hserver hempty
  replace hsent : toClient ≠ [] := hsent
  simp only [stepCost, advances, clientStep, ServeState.isClosed, List.isEmpty_iff, hsent,
    if_false]
  by_cases hreceived : receivable count toClient = 0
  · simp only [hreceived, if_true, if_false, Nat.lt_irrefl, decide_false, Bool.false_eq_true,
      Nat.zero_add]
    exact ⟨_, htrack, Nat.le_refl _⟩
  obtain ⟨hsome, hsize, hlength⟩ := piece_of_receivable hreceived
  have hfits := hdue.fits call List.mem_cons_self
  have hframe : clientDecoder.pending ++ (toClient.take (receivable count toClient) ++
      toClient.drop (receivable count toClient)) = call.responseBytes := by
    rw [List.take_append_drop]
    exact hresponse
  simp only [hreceived, if_false, clientRead]
  by_cases hrest : toClient.drop (receivable count toClient) = []
  · rw [hrest, List.append_nil] at hframe
    rw [hrest, List.length_nil] at hlength
    obtain ⟨decoder', hread, hdrained⟩ := readMessage_last hfits.encode_response hsome hsize hframe
    simp only [hread, hfits.2, if_true, hrest]
    refine ⟨_, onTrack_clientSend ⟨?_, ?_⟩ rfl rfl hdecoder hdrained rfl rfl, ?_⟩
    · exact fun other hmem => hdue.fits other (List.mem_cons_of_mem _ hmem)
    · rw [← hdue.answered, List.map_cons, List.append_assoc]
      rfl
    · split <;> omega
  · have hread := readMessage_part hfits.encode_response hsome hsize hframe hrest
    simp only [hread]
    refine ⟨_, .responded ⟨hdue.fits, hdue.answered⟩ rfl rfl hrest ?_ hdecoder rfl, ?_⟩
    · rw [FrameDecoder.pending_append, List.append_assoc]
      exact hframe
    · dsimp only
      split <;> omega

/-- The server sees that the client has closed. -/
theorem serverStep_closing (capacity count : ℕ) (hdue : Due calls [] s)
    (hclient : s.client = .finished) (hserver : s.server = .reading)
    (hdecoder : s.serverDecoder.pending = []) (hempty : s.toServer = []) :
    ∃ n', OnTrack calls (s.serverStep capacity count) n' ∧
      s.stepCost capacity (.server count) + n' ≤ 1 := by
  obtain ⟨client, clientDecoder, server, serverDecoder, toServer, toClient, responses⟩ := s
  subst hclient hserver hempty
  have hread : readMessage [.received []] serverDecoder =
      (.returned .closed, [], serverDecoder) := by
    rw [readMessage, FrameDecoder.next_of_needMoreData (tryDecodeFrame_drained hdecoder)]
    rfl
  simp only [stepCost, advances, serverStep, ClientState.isClosed, List.isEmpty_nil, if_true,
    serverRead, hread]
  exact ⟨0, .ended ⟨hdue.fits, hdue.answered⟩ rfl rfl, Nat.le_refl _⟩

/-- A party that can do nothing does nothing. -/
theorem step_idle (program : ClientProgram) (capacity : ℕ) (action : ExchangeAction)
    (htrack : OnTrack calls s n)
    (hidle : s.advances capacity action = false) (hstep : s.step program capacity action = s) :
    ∃ n', OnTrack calls (s.step program capacity action) n' ∧
      s.stepCost capacity action + n' ≤ n := by
  rw [hstep]
  refine ⟨n, htrack, ?_⟩
  rw [stepCost, hidle, if_neg Bool.false_ne_true, Nat.zero_add]

theorem receivable_one_pos {buffered : List Byte} (hsome : buffered ≠ []) :
    0 < receivable 1 buffered := by
  have hlength := List.length_pos_iff.mpr hsome
  have hchunk : 0 < kReadMessageChunk := by decide
  rw [receivable]
  omega

theorem sendable_one_pos {capacity : ℕ} {bytes buffered : List Byte} (hcapacity : 0 < capacity)
    (hsome : bytes ≠ []) (hempty : buffered = []) : 0 < sendable capacity 1 bytes buffered := by
  have hlength := List.length_pos_iff.mpr hsome
  rw [sendable, hempty, List.length_nil]
  omega

/-- Every call keeps the exchange on its track, and one that transfers something brings it
forward. -/
theorem step_onTrack (capacity : ℕ) (action : ExchangeAction) (htrack : OnTrack calls s n) :
    ∃ n', OnTrack calls (s.step program capacity action) n' ∧
      s.stepCost capacity action + n' ≤ n := by
  have hidle := step_idle program capacity action htrack
  cases htrack with
  | requesting hdue hclient hserver hunsent hrequest hdecoder hempty =>
      cases action with
      | client count =>
          exact clientStep_requesting capacity count hdue hclient hserver hunsent hrequest hdecoder
            hempty
      | server count =>
          exact serverStep_requesting capacity count hdue hclient hserver hunsent hrequest hdecoder
            hempty
  | requested hdue hclient hserver hsent hrequest hdecoder hempty =>
      cases action with
      | client count =>
          refine hidle ?_ ?_
          · simp [advances, hclient, hserver, hempty, ServeState.isClosed]
          · simp [step, clientStep, hclient, hserver, hempty, ServeState.isClosed]
      | server count =>
          exact serverStep_requested capacity count hdue hclient hserver hsent hrequest hdecoder
            hempty
  | responding hdue hclient hserver hunsent hresponse hdecoder hempty =>
      cases action with
      | client count =>
          exact clientStep_responding capacity count hdue hclient hserver hunsent hresponse
            hdecoder hempty
      | server count =>
          exact serverStep_responding capacity count hdue hclient hserver hunsent hresponse
            hdecoder hempty
  | responded hdue hclient hserver hsent hresponse hdecoder hempty =>
      cases action with
      | client count =>
          exact clientStep_responded capacity count hdue hclient hserver hsent hresponse hdecoder
            hempty
      | server count =>
          refine hidle ?_ ?_
          · simp [advances, hclient, hserver, hempty, ClientState.isClosed]
          · simp [step, serverStep, hclient, hserver, hempty, ClientState.isClosed]
  | closing hdue hclient hserver hdecoder hempty =>
      cases action with
      | client count =>
          refine hidle ?_ ?_
          · simp [advances, hclient]
          · simp [step, clientStep, hclient]
      | server count => exact serverStep_closing capacity count hdue hclient hserver hdecoder hempty
  | ended hdue hclient hserver =>
      cases action with
      | client count =>
          refine hidle ?_ ?_
          · simp [advances, hclient]
          · simp [step, clientStep, hclient]
      | server count =>
          refine hidle ?_ ?_
          · simp [advances, hserver]
          · simp [step, serverStep, hserver]

/-- Somebody can always go on. -/
theorem OnTrack.exists_advances {capacity : ℕ} (hcapacity : 0 < capacity)
    (htrack : OnTrack calls s n) :
    (s.client = .finished ∧ s.server = .returned) ∨
      ∃ action, s.advances capacity action = true := by
  cases htrack with
  | requesting hdue hclient hserver hunsent hrequest hdecoder hempty =>
      by_cases hnone : s.toServer = []
      · refine .inr ⟨.client 1, ?_⟩
        simp [advances, hclient, sendable_one_pos hcapacity hunsent hnone]
      · refine .inr ⟨.server 1, ?_⟩
        simp [advances, hserver, hnone, receivable_one_pos hnone]
  | requested hdue hclient hserver hsent hrequest hdecoder hempty =>
      refine .inr ⟨.server 1, ?_⟩
      simp [advances, hserver, hsent, receivable_one_pos hsent]
  | responding hdue hclient hserver hunsent hresponse hdecoder hempty =>
      by_cases hnone : s.toClient = []
      · refine .inr ⟨.server 1, ?_⟩
        simp [advances, hserver, sendable_one_pos hcapacity hunsent hnone]
      · refine .inr ⟨.client 1, ?_⟩
        simp [advances, hclient, hnone, receivable_one_pos hnone]
  | responded hdue hclient hserver hsent hresponse hdecoder hempty =>
      refine .inr ⟨.client 1, ?_⟩
      simp [advances, hclient, hsent, receivable_one_pos hsent]
  | closing hdue hclient hserver hdecoder hempty =>
      exact .inr ⟨.server 0, by simp [advances, hclient, hserver, hempty, ClientState.isClosed]⟩
  | ended hdue hclient hserver => exact .inl ⟨hclient, hserver⟩

/-- Nothing goes wrong on the way, and the responses are those of the handler. -/
theorem OnTrack.outcome (htrack : OnTrack calls s n) :
    (∀ exception, s.client ≠ .failed exception) ∧
      (∀ exception, s.server ≠ .threw exception) ∧
      (s.server = .returned → s.client = .finished) ∧
      ∃ later, (s.client = .finished → later = []) ∧ Due calls later s := by
  cases htrack with
  | requesting hdue hclient hserver | requested hdue hclient hserver
  | responding hdue hclient hserver | responded hdue hclient hserver =>
      rw [hclient, hserver]
      exact ⟨nofun, nofun, nofun, _, nofun, hdue⟩
  | closing hdue hclient hserver =>
      rw [hclient, hserver]
      exact ⟨nofun, nofun, nofun, [], fun _ => rfl, hdue⟩
  | ended hdue hclient hserver =>
      rw [hclient, hserver]
      exact ⟨nofun, nofun, fun _ => rfl, [], fun _ => rfl, hdue⟩

theorem run_onTrack {capacity : ℕ} (hfits : ∀ call ∈ program.calls, call.Fits)
    (actions : List ExchangeAction) :
    ∃ n', OnTrack program.calls (run program capacity actions) n' ∧
      tally (step program capacity) (stepCost capacity) (start program) actions + n' ≤
        transfersOf program.calls + 1 := by
  have hstep : ∀ (s : Exchange) (n : ℕ) (action : ExchangeAction), OnTrack program.calls s n →
      ∃ n', OnTrack program.calls (s.step program capacity action) n' ∧
        s.stepCost capacity action + n' ≤ n + 0 :=
    fun s n action htrack => step_onTrack capacity action htrack
  have hrun := tally_le_of_rank (OnTrack program.calls) hstep (onTrack_start hfits) actions
  rw [tally_zero] at hrun
  exact hrun

end Exchange

/-- A client whose requests can be encoded, and that is content with the answers of the
handler, gets through with the blocking server, however small the buffers between them
are and however the calls are scheduled. Neither party ever throws, and the server does
not leave before the client. The responses of the client are those of the handler in the
order of its requests, and when it is done it has all of them. Until both are done some
call can transfer something, and the calls that do are at most two for every byte and
one for the end. -/
theorem exchange_completes (program : ClientProgram) {capacity : ℕ} (hcapacity : 0 < capacity)
    (hfits : ∀ call ∈ program.calls, call.Fits) (actions : List ExchangeAction) :
    let s := Exchange.run program capacity actions
    let answers := program.calls.map fun call => handleRequest call.request
    ((∀ exception, s.client ≠ .failed exception) ∧ (∀ exception, s.server ≠ .threw exception) ∧
      (s.server = .returned → s.client = .finished)) ∧
    (s.responses <+: answers ∧ (s.client = .finished → s.responses = answers)) ∧
    ((s.client = .finished ∧ s.server = .returned) ∨
      ∃ action, s.advances capacity action = true) ∧
    tally (Exchange.step program capacity) (Exchange.stepCost capacity) (.start program) actions ≤
      Exchange.transfersOf program.calls + 1 := by
  intro s answers
  obtain ⟨n, htrack, hpaid⟩ := Exchange.run_onTrack hfits actions
  obtain ⟨hclient, hserver, hlast, later, hnone, hdue⟩ := htrack.outcome
  refine ⟨⟨hclient, hserver, hlast⟩, ⟨⟨_, hdue.answered⟩, ?_⟩, htrack.exists_advances hcapacity,
    Nat.le_of_add_right_le hpaid⟩
  intro hfinished
  have hanswered := hdue.answered
  rw [hnone hfinished, List.map_nil, List.append_nil] at hanswered
  exact hanswered

/-- Two bytes of payload, a buffer of three bytes, and four calls. -/
theorem exchange_completes_sample :
    let program := sendRequestAndReadResponse ⟨.kEchoRequest, 7, [1, 2]⟩
    let s := Exchange.run program 3 [.client 2, .server 5, .client 1, .server 0]
    let answers := [handleRequest ⟨.kEchoRequest, 7, [1, 2]⟩]
    ((∀ exception, s.client ≠ .failed exception) ∧ (∀ exception, s.server ≠ .threw exception) ∧
      (s.server = .returned → s.client = .finished)) ∧
    (s.responses <+: answers ∧ (s.client = .finished → s.responses = answers)) ∧
    ((s.client = .finished ∧ s.server = .returned) ∨ ∃ action, s.advances 3 action = true) ∧
    tally (Exchange.step program 3) (Exchange.stepCost 3) (.start program)
      [.client 2, .server 5, .client 1, .server 0] ≤ Exchange.transfersOf program.calls + 1 :=
  exchange_completes (sendRequestAndReadResponse ⟨.kEchoRequest, 7, [1, 2]⟩) (by decide)
    (fun call hmem => by
      cases List.mem_singleton.mp hmem
      exact ⟨by decide, rfl⟩)
    [.client 2, .server 5, .client 1, .server 0]

end PulseCore.Network
