/-
# The clients of the benchmark

Every client of the benchmark has a connection of its own. It sends a request, waits
for a response, compares it with the one it expects, and writes the time it took to a
place in a vector that all clients share. The place is the request id, and the id is
computed from the index of the client and that of the request.

A client meets the server only through the kernel, which passes on what one side has
sent, in order and not all at once. Put together with a run of the epoll server, a client
that is answered is answered as it expects, whatever the schedule of the server is; and
when the server is quiet and everything has been passed on, the client is done.

The benchmark accepts work that the handler refuses. Its clients find that out behind
`ConnectTcp`, and leave with an exception before they have sent anything.
-/

import PulseCore.Apps.FrontEnds
import PulseCore.Network.Exchange
import PulseCore.Traffic.Client
import PulseCore.Traffic.Quiescence
import PulseCore.Traffic.Reference

namespace PulseCore.Apps.Benchmark

open PulseCore.Foundation PulseCore.Core PulseCore.Protocol PulseCore.Network

def requestMessage (requestId : UInt64) (template : ClientRequestTemplate) : Message where
  type := template.requestType
  requestId
  payload := template.requestPayload

/-- The id of a request, in the arithmetic of `std::size_t`. -/
def requestIdOf (config : BenchmarkConfig) (clientIndex requestIndex : UInt64) : UInt64 :=
  clientIndex * config.requestsPerClient + requestIndex

/-- What `RunClient` comes to, with the bytes that were sent and the places of
`latencies_seconds` that were written, in order. -/
structure ClientRun where
  result : BlockingResult Unit
  sent : List Byte
  latencies : List UInt64

def noResponse : Exception := .runtimeError "benchmark client did not receive a response"

def unexpectedResponse : Exception :=
  .runtimeError "benchmark client received an unexpected response"

/-- The loop of `RunClient`, for so many more requests. -/
def runRequests (config : BenchmarkConfig) (clientIndex : UInt64)
    (template : ClientRequestTemplate) :
    ℕ → UInt64 → List RecvResult → List SendResult → FrameDecoder → ClientRun
  | 0, _, _, _, _ => ⟨.returned (), [], []⟩
  | requests + 1, requestIndex, recvs, sends, decoder =>
      let requestId := requestIdOf config clientIndex requestIndex
      match sendMessage sends (requestMessage requestId template) with
      | (.error exception, _, sent) => ⟨.threw exception, sent, []⟩
      | (.ok (), sends, sent) =>
          match readMessage recvs decoder with
          | (.waiting, _) => ⟨.waiting, sent, []⟩
          | (.threw exception, _) => ⟨.threw exception, sent, []⟩
          | (.returned .closed, _) => ⟨.threw noResponse, sent, []⟩
          | (.returned (.protocolError _), _) => ⟨.threw noResponse, sent, []⟩
          | (.returned (.message message), recvs, decoder) =>
              if message.type ≠ template.expectedResponseType ∨ message.requestId ≠ requestId ∨
                  message.payload ≠ template.expectedResponsePayload then
                ⟨.threw unexpectedResponse, sent, []⟩
              else
                let more := runRequests config clientIndex template requests (requestIndex + 1)
                  recvs sends decoder
                ⟨more.result, sent ++ more.sent, requestId :: more.latencies⟩

/-- `RunClient` behind `ConnectTcp`. -/
def runClient (clientIndex : UInt64) (config : BenchmarkConfig) (recvs : List RecvResult)
    (sends : List SendResult) : Except AppError ClientRun :=
  match buildClientRequestTemplate clientIndex config with
  | .error error => .error error
  | .ok template =>
      .ok (runRequests config clientIndex template config.requestsPerClient.toNat 0 recvs sends
        .empty)

/-- What a client has sent: nothing without a template. -/
def sentOf : Except AppError ClientRun → List Byte
  | .ok run => run.sent
  | .error _ => []

/-- The kernel has delivered so much of a stream, and perhaps its end. -/
inductive Arrives : List RecvResult → List Byte → Prop
  | waiting : Arrives [] []
  | closed (recvs : List RecvResult) : Arrives (.received [] :: recvs) []
  | interrupted {recvs : List RecvResult} {stream : List Byte} (hrest : Arrives recvs stream) :
      Arrives (.failed .eintr :: recvs) stream
  | piece {bytes : List Byte} {recvs : List RecvResult} {stream : List Byte}
      (hsome : bytes ≠ []) (hsize : bytes.length ≤ kReadMessageChunk)
      (hrest : Arrives recvs stream) : Arrives (.received bytes :: recvs) (bytes ++ stream)

variable {recvs : List RecvResult} {sends : List SendResult} {stream bytes : List Byte}

/-- What `ReadMessage` returns when what arrives is the beginning of some messages: the
first of them, or nothing when it has not arrived. -/
inductive Obtains (message : Message) (decoder : FrameDecoder) (stream : List Byte) :
    BlockingResult ReadMessageResult × List RecvResult × FrameDecoder → Prop
  | message {n : ℕ} {recvs : List RecvResult} {decoder' : FrameDecoder} {stream' : List Byte}
      (hrest : Arrives recvs stream')
      (hdecode : tryDecodeFrame (decoder.pending ++ stream) = .decoded message n)
      (hpending : decoder'.pending ++ stream' = (decoder.pending ++ stream).drop n) :
      Obtains message decoder stream (.returned (.message message), recvs, decoder')
  | waiting {recvs : List RecvResult} {decoder' : FrameDecoder}
      (hnone : frameFormat.frames (decoder.pending ++ stream) = []) :
      Obtains message decoder stream (.waiting, recvs, decoder')
  | closed {recvs : List RecvResult} {decoder' : FrameDecoder}
      (hnone : frameFormat.frames (decoder.pending ++ stream) = []) :
      Obtains message decoder stream (.returned .closed, recvs, decoder')

/-- The beginning of some messages holds the first of them, or asks for more. -/
theorem tryDecodeFrame_beginning {message : Message} {messages : List Message}
    {beginning : List Byte} (hbytes : encodeAll (message :: messages) = some bytes)
    (hbeginning : beginning <+: bytes) :
    tryDecodeFrame beginning = .needMoreData ∨
      ∃ n, tryDecodeFrame beginning = .decoded message n := by
  have hsplits := splits_encodeAll hbytes []
  rw [List.append_nil] at hsplits
  cases hsplits with
  | @cons _ _ n _ _ hfirst htail =>
      obtain ⟨later, rfl⟩ := hbeginning
      cases hdecode : tryDecodeFrame beginning with
      | needMoreData => exact .inl rfl
      | error error =>
          have herror := frameFormat.error_append later hdecode
          exact absurd (hfirst.symm.trans herror) nofun
      | decoded other n' =>
          have hother := frameFormat.decoded_append later hdecode
          cases hfirst.symm.trans hother
          exact .inr ⟨n, rfl⟩

/-- A message that is in the decoder already. -/
theorem obtains_buffered {message : Message} {n : ℕ} (harrives : Arrives recvs stream)
    {decoder : FrameDecoder} (hdecode : tryDecodeFrame decoder.pending = .decoded message n) :
    Obtains message decoder stream (readMessage recvs decoder) := by
  have hnext : decoder.next = (.decoded message n, decoder.next.2) :=
    Prod.ext (decoder.next_fst.trans hdecode) rfl
  rw [readMessage.eq_def, hnext]
  refine .message harrives (frameFormat.decoded_append stream hdecode) ?_
  rw [FrameDecoder.pending_next_of_decoded hdecode,
    List.drop_append_of_le_length (frameFormat.le_of_decoded hdecode)]

theorem readMessage_obtains {message : Message} {messages : List Message}
    (hbytes : encodeAll (message :: messages) = some bytes) (harrives : Arrives recvs stream)
    (decoder : FrameDecoder) (hbeginning : decoder.pending ++ stream <+: bytes) :
    Obtains message decoder stream (readMessage recvs decoder) := by
  induction harrives generalizing decoder with
  | waiting =>
      rcases tryDecodeFrame_beginning hbytes ((List.prefix_append _ _).trans hbeginning) with
        hmore | ⟨n, hdecode⟩
      · rw [readMessage_waiting hmore]
        refine .waiting ?_
        rw [List.append_nil]
        exact FrameFormat.frames_eq_nil (FrameFormat.exhausted_of_needMoreData hmore)
      · exact obtains_buffered .waiting hdecode
  | closed recvs =>
      rcases tryDecodeFrame_beginning hbytes ((List.prefix_append _ _).trans hbeginning) with
        hmore | ⟨n, hdecode⟩
      · rw [readMessage, FrameDecoder.next_of_needMoreData hmore]
        refine .closed ?_
        rw [List.append_nil]
        exact FrameFormat.frames_eq_nil (FrameFormat.exhausted_of_needMoreData hmore)
      · exact obtains_buffered (.closed recvs) hdecode
  | @interrupted recvs stream hrest ih =>
      rcases tryDecodeFrame_beginning hbytes ((List.prefix_append _ _).trans hbeginning) with
        hmore | ⟨n, hdecode⟩
      · rw [readMessage, FrameDecoder.next_of_needMoreData hmore]
        exact ih decoder hbeginning
      · exact obtains_buffered (.interrupted hrest) hdecode
  | @piece piece recvs stream hsome hsize hrest ih =>
      rcases tryDecodeFrame_beginning hbytes ((List.prefix_append _ _).trans hbeginning) with
        hmore | ⟨n, hdecode⟩
      · rw [readMessage_piece hmore hsome hsize]
        have happend : (decoder.append piece).pending ++ stream =
            decoder.pending ++ (piece ++ stream) := by
          rw [FrameDecoder.pending_append, List.append_assoc]
        have hobtains := ih (decoder.append piece) (happend ▸ hbeginning)
        generalize readMessage recvs (decoder.append piece) = outcome at hobtains
        cases hobtains with
        | message hrest' hdecode hpending =>
            exact .message hrest' (happend ▸ hdecode) (happend ▸ hpending)
        | waiting hnone => exact .waiting (happend ▸ hnone)
        | closed hnone => exact .closed (happend ▸ hnone)
      · exact obtains_buffered (.piece hsome hsize hrest) hdecode

/-! ## What the client expects -/

/-- The handler answers every request of the template as expected, and the requests can be
encoded. -/
structure ClientRequestTemplate.Sound (template : ClientRequestTemplate) : Prop where
  encodes : ∀ requestId, (encodeMessage (requestMessage requestId template)).isSome = true
  expects : ∀ requestId, handleRequest (requestMessage requestId template) =
    ⟨template.expectedResponseType, requestId, template.expectedResponsePayload⟩

/-- The requests from this one on. -/
def requestsFrom (config : BenchmarkConfig) (clientIndex : UInt64)
    (template : ClientRequestTemplate) : ℕ → UInt64 → List Message
  | 0, _ => []
  | requests + 1, requestIndex =>
      requestMessage (requestIdOf config clientIndex requestIndex) template ::
        requestsFrom config clientIndex template requests (requestIndex + 1)

variable {config : BenchmarkConfig} {clientIndex : UInt64} {template : ClientRequestTemplate}

@[simp]
theorem length_requestsFrom (requests : ℕ) (requestIndex : UInt64) :
    (requestsFrom config clientIndex template requests requestIndex).length = requests := by
  induction requests generalizing requestIndex with
  | zero => rfl
  | succ requests ih => rw [requestsFrom, List.length_cons, ih]

namespace ClientRequestTemplate

theorem Sound.encodeAll_requestsFrom (hsound : template.Sound) (config : BenchmarkConfig)
    (clientIndex : UInt64) (requests : ℕ) (requestIndex : UInt64) :
    ∃ bytes, encodeAll (requestsFrom config clientIndex template requests requestIndex) =
      some bytes := by
  induction requests generalizing requestIndex with
  | zero => exact ⟨[], rfl⟩
  | succ requests ih =>
      obtain ⟨frame, hframe⟩ := Option.isSome_iff_exists.mp
        (hsound.encodes (requestIdOf config clientIndex requestIndex))
      obtain ⟨rest, hrest⟩ := ih (requestIndex + 1)
      exact ⟨frame ++ rest, by rw [requestsFrom, encodeAll, hframe, hrest]⟩

end ClientRequestTemplate

/-- The request is sent as a whole. -/
theorem sendMessage_ok (hsound : template.Sound) (requestId : UInt64)
    (hsends : ∀ answer ∈ sends, answer.succeeds = true) :
    ∃ frame sends', encodeMessage (requestMessage requestId template) = some frame ∧
      sendMessage sends (requestMessage requestId template) = (.ok (), sends', frame) ∧
      ∀ answer ∈ sends', answer.succeeds = true := by
  obtain ⟨frame, hframe⟩ := Option.isSome_iff_exists.mp (hsound.encodes requestId)
  obtain ⟨sends', hsent, hsends'⟩ := sendAll_ok frame hsends
  exact ⟨frame, sends', hframe, by simp only [sendMessage, hframe, hsent], hsends'⟩

/-- Whatever it is answered, the client sends its requests, and nothing else. -/
theorem runRequests_sent (config : BenchmarkConfig) (clientIndex : UInt64)
    (hsound : template.Sound) (requests : ℕ) (requestIndex : UInt64) (recvs : List RecvResult)
    (hsends : ∀ answer ∈ sends, answer.succeeds = true) (decoder : FrameDecoder) :
    ∃ started ≤ requests,
      encodeAll ((requestsFrom config clientIndex template requests requestIndex).take started) =
        some (runRequests config clientIndex template requests requestIndex recvs sends
          decoder).sent := by
  induction requests generalizing requestIndex recvs sends decoder with
  | zero => exact ⟨0, Nat.le_refl _, rfl⟩
  | succ requests ih =>
      obtain ⟨frame, sends', hframe, hsend, hsends'⟩ := sendMessage_ok hsound
        (requestIdOf config clientIndex requestIndex) hsends
      have hfirst : encodeAll ((requestsFrom config clientIndex template (requests + 1)
          requestIndex).take 1) = some frame := by
        rw [requestsFrom, List.take_succ_cons, List.take_zero, encodeAll, hframe]
        exact congrArg some (List.append_nil frame)
      unfold runRequests
      simp only [hsend]
      split
      · exact ⟨1, Nat.succ_le_succ (Nat.zero_le _), hfirst⟩
      · exact ⟨1, Nat.succ_le_succ (Nat.zero_le _), hfirst⟩
      · exact ⟨1, Nat.succ_le_succ (Nat.zero_le _), hfirst⟩
      · exact ⟨1, Nat.succ_le_succ (Nat.zero_le _), hfirst⟩
      · next recvs' decoder' _ =>
          split
          · exact ⟨1, Nat.succ_le_succ (Nat.zero_le _), hfirst⟩
          · obtain ⟨started, hstarted, hrest⟩ := ih (requestIndex + 1) recvs' hsends' decoder'
            refine ⟨started + 1, Nat.succ_le_succ hstarted, ?_⟩
            rw [requestsFrom, List.take_succ_cons, encodeAll, hframe, hrest]

/-- How far the client gets with what arrives: it is content with every response, and
has started one more request than it has responses, if there is one. -/
structure Reaches (config : BenchmarkConfig) (clientIndex : UInt64)
    (template : ClientRequestTemplate) (requests : ℕ) (requestIndex : UInt64) (answered : ℕ)
    (run : ClientRun) : Prop where
  answered_le : answered ≤ requests
  latencies : run.latencies =
    ((requestsFrom config clientIndex template requests requestIndex).take answered).map
      Message.requestId
  sent : encodeAll ((requestsFrom config clientIndex template requests requestIndex).take
    (answered + 1)) = some run.sent
  result : if answered = requests then run.result = .returned ()
    else run.result = .waiting ∨ run.result = .threw noResponse

theorem runRequests_reaches (hsound : template.Sound) (requests : ℕ) (requestIndex : UInt64)
    (harrives : Arrives recvs stream) (hsends : ∀ answer ∈ sends, answer.succeeds = true)
    (decoder : FrameDecoder)
    (hbytes : encodeAll ((requestsFrom config clientIndex template requests requestIndex).map
      handleRequest) = some bytes)
    (hbeginning : decoder.pending ++ stream <+: bytes) :
    Reaches config clientIndex template requests requestIndex
      (frameFormat.frames (decoder.pending ++ stream)).length
      (runRequests config clientIndex template requests requestIndex recvs sends decoder) := by
  induction requests generalizing requestIndex recvs sends stream decoder bytes with
  | zero =>
      cases hbytes
      rw [List.prefix_nil.mp hbeginning]
      exact ⟨Nat.le_refl _, rfl, rfl, rfl⟩
  | succ requests ih =>
      obtain ⟨frame, sends', hframe, hsend, hsends'⟩ := sendMessage_ok hsound
        (requestIdOf config clientIndex requestIndex) hsends
      have hfirst : encodeAll ((requestsFrom config clientIndex template (requests + 1)
          requestIndex).take 1) = some frame := by
        rw [requestsFrom, List.take_succ_cons, List.take_zero, encodeAll, hframe]
        exact congrArg some (List.append_nil frame)
      rw [requestsFrom, List.map_cons, hsound.expects] at hbytes
      have hobtains := readMessage_obtains hbytes harrives decoder hbeginning
      unfold runRequests
      simp only [hsend]
      generalize readMessage recvs decoder = outcome at hobtains
      cases hobtains with
      | waiting hnone =>
          rw [hnone]
          exact ⟨Nat.zero_le _, rfl, hfirst, .inl rfl⟩
      | closed hnone =>
          rw [hnone]
          exact ⟨Nat.zero_le _, rfl, hfirst, .inr rfl⟩
      | @message n recvs' decoder' stream' hrest hdecode hpending =>
          obtain ⟨later, rfl⟩ := hbeginning
          obtain ⟨remaining, hmessages, hremaining⟩ :=
            encodeAll_remaining hbytes (FrameFormat.Splits.single hdecode)
          cases (List.cons.inj hmessages).2
          rw [← hpending] at hremaining
          have hreaches := ih (requestIndex + 1) hrest hsends' decoder' hremaining
            (List.prefix_append _ later)
          have hframes := FrameFormat.frames_eq_cons (F := frameFormat) hdecode
          rw [← hpending] at hframes
          simp only [ne_eq, not_true_eq_false, or_self, if_false]
          rw [hframes, List.length_cons]
          refine ⟨Nat.succ_le_succ hreaches.answered_le, ?_, ?_, ?_⟩
          · rw [requestsFrom, List.take_succ_cons, List.map_cons, ← hreaches.latencies]
            rfl
          · rw [requestsFrom, List.take_succ_cons, encodeAll, hframe, hreaches.sent]
          · have hresult := hreaches.result
            simp only [Nat.add_right_cancel_iff]
            exact hresult

/-- What the sizes of an accepted configuration come to. -/
theorem parseArgs_sizes {hardwareConcurrency : UInt32} {argv : List (List Byte)}
    (hparse : parseArgs hardwareConcurrency argv = .ok config) :
    (config.messageType = .kEcho → config.payloadSize.toNat ≤ kMaxPayloadSize) ∧
      config.clients.toNat * config.requestsPerClient.toNat ≤ kMaxSize := by
  obtain ⟨parsed, hoptions, hsizes⟩ := ok_of_bind hparse
  unfold checkSizes at hsizes
  split at hsizes
  · cases hsizes
  next hpayload =>
  split at hsizes
  · cases hsizes
  split at hsizes
  · cases hsizes
  · next hproduct =>
      cases hsizes
      refine ⟨fun hecho => Nat.le_of_not_lt fun hlong => hpayload ⟨hecho, hlong⟩, ?_⟩
      exact (Nat.mul_le_mul_left _ (Nat.le_of_not_lt hproduct)).trans (Nat.mul_div_le _ _)

/-- The configuration asks for more work than the handler does for one request. -/
def TooMuchWork (config : BenchmarkConfig) : Prop :=
  config.messageType = .kWork ∧
    kMaxWorkUnits.toNat < config.workIterations.toNat * config.payloadSize.toNat

instance : Decidable (TooMuchWork config) := inferInstanceAs (Decidable (_ ∧ _))

/-- What every client of such a configuration throws. -/
def noTemplate : AppError :=
  .logicError (bytesOf "failed to prepare expected work response")

theorem buildClientRequestTemplate_of_tooMuchWork {hardwareConcurrency : UInt32}
    {argv : List (List Byte)} (hparse : parseArgs hardwareConcurrency argv = .ok config)
    (hwork : TooMuchWork config) (clientIndex : UInt64) :
    buildClientRequestTemplate clientIndex config = .error noTemplate := by
  obtain ⟨hchecked, hroom⟩ := parseArgs_checked hparse
  have htemplate := buildClientRequestTemplate_work hwork.1 hchecked (hroom hwork.1) clientIndex
  rwa [if_neg (Nat.not_le.mpr hwork.2)] at htemplate

theorem exists_clientRequestTemplate {hardwareConcurrency : UInt32}
    {argv : List (List Byte)} (hparse : parseArgs hardwareConcurrency argv = .ok config)
    (hwork : ¬ TooMuchWork config) (clientIndex : UInt64) :
    ∃ template, buildClientRequestTemplate clientIndex config = .ok template := by
  obtain ⟨hchecked, hroom⟩ := parseArgs_checked hparse
  cases htype : config.messageType with
  | kEcho => exact ⟨_, by rw [buildClientRequestTemplate, if_pos htype]⟩
  | kWork =>
      have htemplate := buildClientRequestTemplate_work htype hchecked (hroom htype) clientIndex
      rw [if_pos (Nat.le_of_not_lt fun hover => hwork ⟨htype, hover⟩)] at htemplate
      obtain ⟨template, hok, -⟩ := htemplate
      exact ⟨template, hok⟩

/-- The template of an accepted configuration expects what the handler answers. -/
theorem buildClientRequestTemplate_sound {hardwareConcurrency : UInt32}
    {argv : List (List Byte)} (hparse : parseArgs hardwareConcurrency argv = .ok config)
    (htemplate : buildClientRequestTemplate clientIndex config = .ok template) :
    template.Sound := by
  obtain ⟨hchecked, hroom⟩ := parseArgs_checked hparse
  cases htype : config.messageType with
  | kEcho =>
      have hpayload := (parseArgs_sizes hparse).1 htype
      rw [buildClientRequestTemplate, if_pos htype] at htemplate
      cases htemplate
      refine ⟨fun requestId => ?_, fun requestId => rfl⟩
      rw [encodeMessage_isSome_iff]
      exact ⟨by simpa [requestMessage] using hpayload, rfl⟩
  | kWork =>
      have hsize := hroom htype
      -- The template exists, so the total work keeps the limit.
      have hexpects : ∀ requestId,
          handleRequest ⟨template.requestType, requestId, template.requestPayload⟩ =
            ⟨.kWorkResponse, requestId, template.expectedResponsePayload⟩ := by
        have hwork := buildClientRequestTemplate_work htype hchecked hsize clientIndex
        rw [htemplate] at hwork
        split at hwork
        · obtain ⟨_, hsame, hanswers⟩ := hwork
          cases hsame
          exact hanswers
        · cases hwork
      simp only [buildClientRequestTemplate, if_neg (ne_kEcho_of_kWork htype)] at htemplate
      split at htemplate
      · cases htemplate
      cases htemplate
      refine ⟨fun requestId => ?_, hexpects⟩
      rw [encodeMessage_isSome_iff]
      refine ⟨?_, rfl⟩
      show (encodeWorkRequestPayload _ _).length ≤ kMaxPayloadSize
      rw [length_encodeWorkRequestPayload, List.length_replicate]
      have hmax : kMaxPayloadSize = 65536 := rfl
      have hiteration : kIterationBytes = 4 := rfl
      have hmetadata : kWorkIterationBytes = 4 := rfl
      omega

/-- The ids of a client are consecutive numbers: nothing wraps around. -/
theorem toNat_requestIdOf {requestIndex : UInt64}
    (hindex : clientIndex.toNat < config.clients.toNat)
    (hrequest : requestIndex.toNat < config.requestsPerClient.toNat)
    (hsize : config.clients.toNat * config.requestsPerClient.toNat ≤ kMaxSize) :
    (requestIdOf config clientIndex requestIndex).toNat =
      clientIndex.toNat * config.requestsPerClient.toNat + requestIndex.toNat := by
  have hbehind : (clientIndex.toNat + 1) * config.requestsPerClient.toNat ≤
      config.clients.toNat * config.requestsPerClient.toNat := Nat.mul_le_mul_right _ hindex
  rw [Nat.succ_mul] at hbehind
  have hmax : kMaxSize = 2 ^ 64 - 1 := rfl
  rw [requestIdOf, UInt64.toNat_add, UInt64.toNat_mul,
    Nat.mod_eq_of_lt (a := clientIndex.toNat * _) (by omega), Nat.mod_eq_of_lt (by omega)]

theorem requestIds_requestsFrom (hindex : clientIndex.toNat < config.clients.toNat)
    (hsize : config.clients.toNat * config.requestsPerClient.toNat ≤ kMaxSize) (requests : ℕ)
    {requestIndex : UInt64}
    (hrequests : requestIndex.toNat + requests ≤ config.requestsPerClient.toNat) :
    (requestsFrom config clientIndex template requests requestIndex).map
        (fun request => request.requestId.toNat) =
      List.range' (clientIndex.toNat * config.requestsPerClient.toNat + requestIndex.toNat)
        requests := by
  induction requests generalizing requestIndex with
  | zero => rfl
  | succ requests ih =>
      have hlt := config.requestsPerClient.toNat_lt
      have hnext : (requestIndex + 1).toNat = requestIndex.toNat + 1 := by
        rw [UInt64.toNat_add]
        exact Nat.mod_eq_of_lt (by
          have hone : (1 : UInt64).toNat = 1 := rfl
          omega)
      rw [requestsFrom, List.map_cons, ih (by omega), List.range'_succ, hnext, Nat.add_assoc]
      exact congrArg (· :: _) (toNat_requestIdOf hindex (by omega) hsize)

/-! ## The clients and the server -/

section Served

variable {server : ServerConfig} {descriptors : Descriptors} {actions : List Action}
  {id : ConnectionId} {requests : List Message} {input : List Byte}

/-- A connection that gets some requests has fewer requests in the pipeline than the
counters of the server can hold. -/
theorem requestsOf_lt (hinput : encodeAll requests = some input)
    (hreceived : ((Server.run server descriptors actions).sockets id.value).received <+: input)
    (hcount : requests.length < UInt64.size) :
    ((Server.run server descriptors actions).pipeline.requestsOf id).length < UInt64.size := by
  obtain ⟨a, ha, -, -, hsound⟩ := run_sound server descriptors actions
  rw [← ha] at hreceived ⊢
  have hframes := (hsound.parsed id).frames.trans
    (FrameFormat.frames_isPrefix_of_isPrefix hreceived)
  rw [frames_encodeAll hinput] at hframes
  exact Nat.lt_of_le_of_lt hframes.length_le hcount

/-- What the server sends on it are the first bytes of the answers. -/
theorem sent_isPrefix (hhandler : server.options.handler = defaultHandler)
    (hinput : encodeAll requests = some input)
    (hreceived : ((Server.run server descriptors actions).sockets id.value).received <+: input)
    (hcount : requests.length < UInt64.size)
    (hbytes : encodeAll (requests.map handleRequest) = some bytes) :
    ((Server.run server descriptors actions).sockets id.value).sent <+: bytes := by
  have hfew := requestsOf_lt hinput hreceived hcount
  obtain ⟨a, ha, -, -, hsound⟩ := run_sound server descriptors actions
  rw [← ha] at hreceived hfew ⊢
  have hframes := FrameFormat.frames_isPrefix_of_isPrefix (F := frameFormat) hreceived
  rw [frames_encodeAll hinput] at hframes
  obtain ⟨initial, hinitial, hle⟩ := encodeAll_isPrefix (hframes.map handleRequest) hbytes
  have hwire := (hsound.connection id hfew).wire
  exact (isPrefix_of_wireInv hhandler hwire ⟨List.prefix_rfl, fun _ => rfl⟩ hinitial).trans hle

end Served

/-- A client has a connection of a server: `ConnectTcp` has returned, and this is what the
client has got since then, and what it has done with it. The kernel passes on what each
side has sent, in order; no `send` of the client fails, and no `recv` but with `EINTR`. -/
structure Attached (config : BenchmarkConfig) (s : Server) (clientIndex : UInt64)
    (id : ConnectionId) (stream : List Byte) (outcome : Except AppError ClientRun) : Prop where
  runs : ∃ recvs sends, Arrives recvs stream ∧ (∀ answer ∈ sends, answer.succeeds = true) ∧
    runClient clientIndex config recvs sends = outcome
  input : (s.sockets id.value).received <+: sentOf outcome
  output : stream <+: (s.sockets id.value).sent

/-- Everything has been passed on, and nothing waits for the socket. -/
def PassedOn (s : Server) (id : ConnectionId) (stream : List Byte)
    (outcome : Except AppError ClientRun) : Prop :=
  (∃ c f, s.live id = some (c, f) ∧ c.unsent = []) ∧
    (s.sockets id.value).received = sentOf outcome ∧ stream = (s.sockets id.value).sent

section Together

variable {server : ServerConfig} {descriptors : Descriptors} {actions : List Action}
  {id : ConnectionId} {outcome : Except AppError ClientRun} {run : ClientRun}
  {hardwareConcurrency : UInt32} {argv : List (List Byte)}

/-- A client that has too much work to ask for asks for nothing, and gets nothing. -/
theorem Attached.refused (hparse : parseArgs hardwareConcurrency argv = .ok config)
    (hhandler : server.options.handler = defaultHandler)
    (hclient : Attached config (Server.run server descriptors actions) clientIndex id stream
      outcome)
    (hwork : TooMuchWork config) : outcome = .error noTemplate ∧ stream = [] := by
  obtain ⟨recvs, sends, -, -, hrun⟩ := hclient.runs
  rw [runClient, buildClientRequestTemplate_of_tooMuchWork hparse hwork] at hrun
  subst hrun
  have hnothing : encodeAll ([] : List Message) = some [] := rfl
  have hsent := sent_isPrefix hhandler hnothing hclient.input (by decide) hnothing
  exact ⟨rfl, List.prefix_nil.mp (hclient.output.trans hsent)⟩

/-- How far any other client has got, and that the answers of the server are the expected
ones. -/
theorem Attached.reaches (hparse : parseArgs hardwareConcurrency argv = .ok config)
    (hhandler : server.options.handler = defaultHandler)
    (hclient : Attached config (Server.run server descriptors actions) clientIndex id stream
      outcome)
    (hwork : ¬ TooMuchWork config) :
    ∃ template run, outcome = .ok run ∧
      Reaches config clientIndex template config.requestsPerClient.toNat 0
        (frameFormat.frames stream).length run ∧
      ((Server.run server descriptors actions).pipeline.requestsOf id).length < UInt64.size := by
  obtain ⟨recvs, sends, harrives, hsends, hrun⟩ := hclient.runs
  obtain ⟨template, htemplate⟩ := exists_clientRequestTemplate hparse hwork clientIndex
  rw [runClient, htemplate] at hrun
  subst hrun
  have hsound := buildClientRequestTemplate_sound hparse htemplate
  obtain ⟨started, -, hsent⟩ := runRequests_sent config clientIndex hsound
    config.requestsPerClient.toNat 0 recvs hsends .empty
  obtain ⟨allInput, hall⟩ := hsound.encodeAll_requestsFrom config clientIndex
    config.requestsPerClient.toNat 0
  obtain ⟨allOutput, houtput⟩ := encodeAll_handleRequest (splits_encodeAll hall [])
  obtain ⟨initial, hinitial, hle⟩ := encodeAll_isPrefix (List.take_prefix started _) hall
  rw [hsent] at hinitial
  cases hinitial
  have hreceived := hclient.input.trans hle
  have hcount : (requestsFrom config clientIndex template config.requestsPerClient.toNat
      0).length < UInt64.size := by
    rw [length_requestsFrom]
    exact config.requestsPerClient.toNat_lt
  have hstream := hclient.output.trans (sent_isPrefix hhandler hall hreceived hcount houtput)
  refine ⟨template, _, rfl, ?_, requestsOf_lt hall hreceived hcount⟩
  exact runRequests_reaches hsound _ 0 harrives hsends .empty houtput hstream

/-- The places the client has written are consecutive, from the first one of its own. -/
theorem Reaches.latencies_toNat {answered : ℕ}
    (hreaches : Reaches config clientIndex template config.requestsPerClient.toNat 0 answered run)
    (hindex : clientIndex.toNat < config.clients.toNat)
    (hsize : config.clients.toNat * config.requestsPerClient.toNat ≤ kMaxSize) :
    run.latencies.map UInt64.toNat =
      List.range' (clientIndex.toNat * config.requestsPerClient.toNat) answered := by
  rw [hreaches.latencies, List.map_map, List.map_take]
  show ((requestsFrom config clientIndex template config.requestsPerClient.toNat 0).map
    (fun request => request.requestId.toNat)).take answered = _
  rw [requestIds_requestsFrom hindex hsize _ (Nat.le_of_eq (Nat.zero_add _)),
    List.take_range'_of_length_ge hreaches.answered_le]
  rfl

/-- When the server is quiet and everything has been passed on, nothing is missing. -/
theorem Attached.answered_of_quiet (hparse : parseArgs hardwareConcurrency argv = .ok config)
    (hhandler : server.options.handler = defaultHandler)
    (hclient : Attached config (Server.run server descriptors actions) clientIndex id stream
      outcome)
    (hwork : ¬ TooMuchWork config)
    (hquiet : (Server.run server descriptors actions).Quiet)
    (hpassed : PassedOn (Server.run server descriptors actions) id stream outcome) :
    (frameFormat.frames stream).length = config.requestsPerClient.toNat := by
  obtain ⟨template, run, rfl, hreaches, hfew⟩ := hclient.reaches hparse hhandler hwork
  obtain ⟨⟨c, f, hlive, hunsent⟩, hreceived, hstream⟩ := hpassed
  have hanswers := (Network.answered_of_quiet hquiet hlive hfew).2.2
  have hrequests := frames_encodeAll hreaches.sent
  rw [sentOf] at hreceived
  rw [hunsent, List.append_nil, hreceived, hrequests, ← hstream] at hanswers
  have hlength := congrArg List.length (frames_encodeAll hanswers)
  rw [List.length_map, List.length_take, length_requestsFrom] at hlength
  have hle := hreaches.answered_le
  omega

end Together

/-- The places of all clients, one client behind the other, are all places of the
vector. -/
theorem flatMap_range' (clients requests : ℕ) :
    (List.range clients).flatMap (fun client => List.range' (client * requests) requests) =
      List.range (clients * requests) := by
  induction clients with
  | zero => rw [Nat.zero_mul, List.range_zero, List.flatMap_nil]
  | succ clients ih =>
      have hlast := List.range'_append_1 (s := 0) (m := clients * requests) (n := requests)
      rw [Nat.zero_add] at hlast
      rw [List.range_succ, List.flatMap_append, ih, List.flatMap_singleton, Nat.succ_mul,
        List.range_eq_range', List.range_eq_range', hlast]

namespace Sample

/-- Two clients with two requests of two bytes each. -/
def args : List (List Byte) :=
  ["pulsecore_epoll_benchmark", "--clients", "2", "--requests-per-client", "2",
    "--payload-size", "2"].map bytesOf

def benchmark : BenchmarkConfig := ⟨2, 2, 2, 1, .kEcho, 1000⟩

def request (requestId : UInt64) (byte : Byte) : List Byte :=
  (encodeMessage ⟨.kEchoRequest, requestId, [byte, byte]⟩).getD []

def response (requestId : UInt64) (byte : Byte) : List Byte :=
  (encodeMessage ⟨.kEchoResponse, requestId, [byte, byte]⟩).getD []

open Server.Sample (arriving leaving working wakeup) in
/-- The second client is accepted first, and answered last. -/
def actions : List Action :=
  [.wait (.ready [listenerEvent]),
    .dispatch { accepts := [.client { fd := 7 }, .client { fd := 8 }] }, .dispatch {}] ++
  arriving 1 (request 2 1) ++ arriving 2 (request 0 0) ++ [.worker (.pop 0)] ++ working 1 ++
  wakeup 1 ++ leaving 2 22 ++ arriving 2 (request 1 0) ++ working 1 ++
  [.worker (.finish 0), .worker (.notify 0 false)] ++ wakeup 2 ++ leaving 1 22 ++
  leaving 2 22 ++ arriving 1 (request 3 1) ++ working 0 ++ wakeup 1 ++ leaving 1 22

def idOf (clientIndex : UInt64) : ConnectionId := ⟨2 - clientIndex⟩

def streamOf (clientIndex : UInt64) : List Byte :=
  response (2 * clientIndex) clientIndex.toUInt8 ++
    response (2 * clientIndex + 1) clientIndex.toUInt8

def outcomeOf (clientIndex : UInt64) : Except AppError ClientRun :=
  .ok ⟨.returned (), request (2 * clientIndex) clientIndex.toUInt8 ++
    request (2 * clientIndex + 1) clientIndex.toUInt8, [2 * clientIndex, 2 * clientIndex + 1]⟩

theorem parseArgs_args : parseArgs 2 args = .ok benchmark := by decide +kernel

theorem index_cases {clientIndex : UInt64} (hindex : clientIndex.toNat < 2) :
    clientIndex = 0 ∨ clientIndex = 1 := by
  rcases Nat.le_one_iff_eq_zero_or_eq_one.mp (Nat.le_of_lt_succ hindex) with hzero | hone
  · exact .inl (UInt64.toNat_inj.mp hzero)
  · exact .inr (UInt64.toNat_inj.mp hone)

theorem attached (clientIndex : UInt64) (hindex : clientIndex.toNat < 2) :
    Attached benchmark (Server.run Server.Sample.config Server.Sample.descriptors actions)
      clientIndex (idOf clientIndex) (streamOf clientIndex) (outcomeOf clientIndex) := by
  rcases index_cases hindex with rfl | rfl
  · refine ⟨⟨[.received (response 0 0), .received (response 1 0)], [], ?_, nofun, ?_⟩,
      by decide +kernel, by decide +kernel⟩
    · exact .piece (by decide +kernel) (by decide +kernel)
        (.piece (by decide +kernel) (by decide +kernel) .waiting)
    · rfl
  · refine ⟨⟨[.received (response 2 1), .received (response 3 1)], [], ?_, nofun, ?_⟩,
      by decide +kernel, by decide +kernel⟩
    · exact .piece (by decide +kernel) (by decide +kernel)
        (.piece (by decide +kernel) (by decide +kernel) .waiting)
    · rfl

end Sample

/-- Take any configuration that the benchmark accepts, and any client of it with a
connection of the epoll server, in any run of the server. If the configuration asks for
more work than the handler does, the client has left with an exception, and nothing was
sent. Otherwise it is content with every response that arrives; it is done when it has
one for each of its requests, and until then it waits, or has seen the end of the stream.
The places of the latencies that it has written are as many as there are responses,
consecutive from the first one of its own. -/
theorem benchmark_client_served {hardwareConcurrency : UInt32} {argv : List (List Byte)}
    {benchmark : BenchmarkConfig} (hparse : parseArgs hardwareConcurrency argv = .ok benchmark)
    (server : ServerConfig) (descriptors : Descriptors) (actions : List Action)
    (hhandler : server.options.handler = defaultHandler) (clientIndex : UInt64)
    (hindex : clientIndex.toNat < benchmark.clients.toNat) (id : ConnectionId)
    (stream : List Byte) (outcome : Except AppError ClientRun)
    (hclient : Attached benchmark (Server.run server descriptors actions) clientIndex id stream
      outcome) :
    if TooMuchWork benchmark then outcome = .error noTemplate ∧ stream = []
    else
      let answered := (frameFormat.frames stream).length
      ∃ run, outcome = .ok run ∧ answered ≤ benchmark.requestsPerClient.toNat ∧
        run.latencies.map UInt64.toNat =
          List.range' (clientIndex.toNat * benchmark.requestsPerClient.toNat) answered ∧
        (if answered = benchmark.requestsPerClient.toNat then run.result = .returned ()
          else run.result = .waiting ∨ run.result = .threw noResponse) := by
  split
  · next hwork => exact hclient.refused hparse hhandler hwork
  · next hwork =>
      intro answered
      obtain ⟨template, run, hrun, hreaches, -⟩ := hclient.reaches hparse hhandler hwork
      exact ⟨run, hrun, hreaches.answered_le,
        hreaches.latencies_toNat hindex (parseArgs_sizes hparse).2, hreaches.result⟩

/-- The second client of the sample run has the last two places. -/
theorem benchmark_client_served_sample :
    parseArgs 2 Sample.args = .ok Sample.benchmark ∧ ∃ run, Sample.outcomeOf 1 = .ok run ∧
      run.latencies.map UInt64.toNat = [2, 3] := by
  have hserved := benchmark_client_served Sample.parseArgs_args Server.Sample.config
    Server.Sample.descriptors Sample.actions rfl 1 (by decide) (Sample.idOf 1)
    (Sample.streamOf 1) (Sample.outcomeOf 1) (Sample.attached 1 (by decide))
  rw [if_neg (by decide)] at hserved
  obtain ⟨run, hrun, -, hplaces, -⟩ := hserved
  have hanswered : (frameFormat.frames (Sample.streamOf 1)).length = 2 := by decide +kernel
  rw [hanswered] at hplaces
  exact ⟨Sample.parseArgs_args, run, hrun, hplaces⟩

end PulseCore.Apps.Benchmark
