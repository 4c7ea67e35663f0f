/-
# The input of a connection over its whole life

A peer sends a stream and closes its side. The kernel delivers the stream in
pieces of any size, interrupts and blocks at any point, and the reactor reads with
any budgets. What the reads return together is nevertheless determined by the
stream and the input limit alone: the frames from its front, up to the first one
that is malformed, incomplete or larger than the limit. So is the way reading
ends, which depends on what follows these frames.

A frame can only be read from a buffer that holds it, and the buffer never holds
more than the limit; `FrameFormat.limit` is the format this makes of the protocol.
-/

import PulseCore.Network.Budgets
import PulseCore.Protocol.RoundTrip

namespace PulseCore.Network

open PulseCore.Foundation PulseCore.Protocol

/-- The calls are a way to deliver the first of two streams, up to the second one
that is still to come: each call delivers a piece no longer than it asked for, is
interrupted or would block, and the end is reported once nothing is left. -/
inductive Delivered : List Byte → List RecvCall → List Byte → Prop
  | nil (stream : List Byte) : Delivered stream [] stream
  | failed {stream rest : List Byte} {calls : List RecvCall} {length : ℕ} {error : Errno}
      (herror : error = .eintr ∨ isWouldBlock error = true)
      (hrest : Delivered stream calls rest) :
      Delivered stream (⟨length, .failed error⟩ :: calls) rest
  | piece {stream rest bytes : List Byte} {calls : List RecvCall} {length : ℕ}
      (hsome : bytes ≠ []) (hlength : bytes.length ≤ length)
      (hrest : Delivered stream calls rest) :
      Delivered (bytes ++ stream) (⟨length, .received bytes⟩ :: calls) rest
  | closed {rest : List Byte} {calls : List RecvCall} {length : ℕ}
      (hrest : Delivered [] calls rest) :
      Delivered [] (⟨length, .received []⟩ :: calls) rest

namespace Delivered

variable {stream rest : List Byte} {calls : List RecvCall}

/-- What was received and what is to come is the stream. -/
theorem stream_eq (h : Delivered stream calls rest) : stream = receivedBytes calls ++ rest := by
  induction h with
  | nil => rfl
  | failed _ _ ih => exact ih
  | piece _ _ _ ih =>
      rw [receivedBytes_cons, List.append_assoc, ← ih]
      rfl
  | closed _ ih => exact ih

/-- Delivery up to some call, and from there on. -/
theorem append_iff {later : List RecvCall} :
    Delivered stream (calls ++ later) rest ↔
      ∃ middle, Delivered stream calls middle ∧ Delivered middle later rest := by
  constructor
  · intro h
    induction calls generalizing stream with
    | nil => exact ⟨stream, .nil _, h⟩
    | cons call calls ih =>
        cases h with
        | failed herror hrest =>
            obtain ⟨middle, hfirst, hlater⟩ := ih hrest
            exact ⟨middle, .failed herror hfirst, hlater⟩
        | piece hsome hlength hrest =>
            obtain ⟨middle, hfirst, hlater⟩ := ih hrest
            exact ⟨middle, .piece hsome hlength hfirst, hlater⟩
        | closed hrest =>
            obtain ⟨middle, hfirst, hlater⟩ := ih hrest
            exact ⟨middle, .closed hfirst, hlater⟩
  · rintro ⟨middle, hfirst, hlater⟩
    induction hfirst with
    | nil => exact hlater
    | failed herror _ ih => exact .failed herror (ih hlater)
    | piece hsome hlength _ ih => exact .piece hsome hlength (ih hlater)
    | closed _ ih => exact .closed (ih hlater)

/-- Nothing is to come behind a call that reported the end. -/
theorem rest_eq_nil (h : Delivered stream calls rest)
    (hend : calls.any RecvCall.isEnd = true) : rest = [] := by
  induction h with
  | nil => cases hend
  | @failed _ _ _ _ error herror _ ih =>
      have hopen : isPeerClosedError error = false := by
        rcases herror with rfl | hblock
        · rfl
        · exact isPeerClosedError_of_isWouldBlock hblock
      simp only [List.any_cons, RecvCall.isEnd, hopen, Bool.false_or] at hend
      exact ih hend
  | @piece _ _ bytes _ _ hsome _ _ ih =>
      have hopen : bytes.isEmpty = false := by simpa using hsome
      simp only [List.any_cons, RecvCall.isEnd, hopen, Bool.false_or] at hend
      exact ih hend
  | closed hrest => exact (List.append_eq_nil_iff.mp hrest.stream_eq.symm).2

/-- Failures are interruptions or would-blocks. -/
theorem error_of_mem (h : Delivered stream calls rest) {e : Errno}
    (hmem : .failed e ∈ calls.map RecvCall.result) : e = .eintr ∨ isWouldBlock e = true := by
  induction h with
  | nil => cases hmem
  | failed herror _ ih =>
      rcases List.mem_cons.mp hmem with hhead | htail
      · cases hhead
        exact herror
      · exact ih htail
  | piece _ _ _ ih =>
      rcases List.mem_cons.mp hmem with hhead | htail
      · cases hhead
      · exact ih htail
  | closed _ ih =>
      rcases List.mem_cons.mp hmem with hhead | htail
      · cases hhead
      · exact ih htail

end Delivered

/-! ## One read -/

namespace Connection

/-- How the read loop ends before it gets to `recv`. -/
theorem beforeRecv_finished {maxReadBytes : ℕ} {st before : ReadState}
    {result : ReadAvailableResult}
    (hpass : beforeRecv maxReadBytes st = (before, .finished result)) :
    (∃ e, tryDecodeFrame before.connection.undecoded = .error e ∧
      result = .protocolErrorResult e before.messages) ∨
    (tryDecodeFrame before.connection.undecoded = .needMoreData ∧
      ((maxReadBytes ≤ st.totalRead ∧ result = .ok before.messages) ∨
      (before.connection.limits.maxInputBuffer ≤ before.connection.undecoded.length ∧
        result = .protocolErrorResult .kPayloadTooLarge before.messages))) := by
  obtain ⟨more, -, -, hverdict⟩ := drainDecoder_spec st.connection.decoder st.messages
  unfold beforeRecv at hpass
  split at hpass
  · next error decoder messages hdrain =>
      rw [hdrain] at hverdict
      cases hpass
      exact .inl ⟨error, hverdict, rfl⟩
  · next decoder messages hdrain =>
      rw [hdrain] at hverdict
      simp only at hpass
      split at hpass
      · next hbudget =>
          cases hpass
          exact .inr ⟨hverdict, .inl ⟨hbudget, rfl⟩⟩
      split at hpass
      · next hspace =>
          cases hpass
          rw [FrameDecoder.bufferedSize_eq] at hspace
          exact .inr ⟨hverdict, .inr ⟨hspace, rfl⟩⟩
      · cases hpass

/-- What a read finds in its input, seen from any pass of its loop: frames within
the limit, and with a final status the reason for it. -/
structure ReadInput (st : ReadState) (out : ReadOutcome) : Prop where
  decoded : ∃ more,
    (frameFormat.limit st.connection.limits.maxInputBuffer).Splits
      (st.connection.undecoded ++ receivedBytes out.calls) more out.connection.undecoded ∧
    ∀ result, out.result = .ok result → result.messages = st.messages ++ more
  rejected : ∀ result, out.result = .ok result → result.status = .kProtocolError →
    (∃ e, result.protocolError = some e ∧
      tryDecodeFrame out.connection.undecoded = .error e) ∨
    (result.protocolError = some .kPayloadTooLarge ∧
      tryDecodeFrame out.connection.undecoded = .needMoreData ∧
      st.connection.limits.maxInputBuffer ≤ out.connection.undecoded.length)
  closed : ∀ result, out.result = .ok result → result.status = .kPeerClosed →
    result.protocolError = none ∧
      out.connection.undecoded.length < st.connection.limits.maxInputBuffer

/-- The loop ended behind a call that delivered nothing. -/
theorem ReadInput.stop {maxReadBytes n : ℕ} {st before : ReadState} {call : RecvCall}
    {result : Except Exception ReadAvailableResult}
    (hbounded : st.connection.undecoded.length ≤ st.connection.limits.maxInputBuffer)
    (hpass : beforeRecv maxReadBytes st = (before, .recv n)) (hbytes : call.bytes = [])
    (hresult : ∀ r, result = .ok r → r.messages = before.messages ∧
      r.status ≠ .kProtocolError ∧ (r.status = .kPeerClosed → r.protocolError = none)) :
    ReadInput st ⟨result, before.connection, [call]⟩ := by
  have hspec := beforeRecv_spec maxReadBytes st
  rw [hpass] at hspec
  obtain ⟨more, hmore, hsplits⟩ := hspec.decoded
  obtain ⟨-, hpos, -, -, hspace⟩ := hspec.recv n rfl
  rw [hspec.same.limits] at hspace
  refine ⟨⟨more, ?_, ?_⟩, ?_, ?_⟩
  · rw [receivedBytes_cons, hbytes, receivedBytes_nil, List.append_nil, List.append_nil]
    exact hsplits.limit hbounded
  · intro r hok
    rw [(hresult r hok).1]
    exact hmore
  · intro r hok hstatus
    exact absurd hstatus (hresult r hok).2.1
  · intro r hok hstatus
    refine ⟨(hresult r hok).2.2 hstatus, ?_⟩
    simp only at hspace ⊢
    omega

theorem readLoop_input (maxReadBytes : ℕ) (answers : List RecvResult) (st : ReadState)
    (hbounded : st.connection.undecoded.length ≤ st.connection.limits.maxInputBuffer) :
    ReadInput st (readLoop maxReadBytes answers st) := by
  have hblocked : ∀ st r, Except.ok (ε := Exception) (readWouldBlock st) = .ok r →
      r.messages = st.messages ∧ r.status ≠ .kProtocolError ∧
        (r.status = .kPeerClosed → r.protocolError = none) := by
    rintro st r ⟨⟩
    obtain ⟨hopen, hmore⟩ := readWouldBlock_status st
    exact ⟨readWouldBlock_messages st, hopen, fun hstatus => absurd hstatus hmore⟩
  fun_induction readLoop maxReadBytes answers st with
  | case1 answers st before result hpass =>
      have hspec := beforeRecv_spec maxReadBytes st
      have hfinished := beforeRecv_finished hpass
      rw [hpass] at hspec
      obtain ⟨more, hmore, hsplits⟩ := hspec.decoded
      refine ⟨⟨more, ?_, ?_⟩, ?_, ?_⟩
      · rw [receivedBytes_nil, List.append_nil]
        exact hsplits.limit hbounded
      · rintro r ⟨⟩
        exact (hspec.finished result rfl).1.trans hmore
      · rintro r ⟨⟩ hstatus
        rw [← hspec.same.limits]
        obtain ⟨e, hverdict, rfl⟩ | ⟨hverdict, ⟨-, rfl⟩ | ⟨hfull, rfl⟩⟩ := hfinished
        · exact .inl ⟨e, rfl, hverdict⟩
        · cases hstatus
        · exact .inr ⟨rfl, hverdict, hfull⟩
      · rintro r ⟨⟩ hstatus
        exact absurd hstatus (hspec.finished result rfl).2.1
  | case2 st before n hpass => exact .stop hbounded hpass rfl (hblocked before)
  | case3 st before n hpass answer answers call last result hafter =>
      have hbytes := bytes_of_afterRecv_some hafter
      obtain ⟨rfl, ⟨-, rfl⟩ | ⟨e, -, -, rfl⟩ | ⟨e, -, -, rfl⟩ | ⟨e, -, -, -, -, rfl⟩⟩ :=
        afterRecv_some hafter
      · refine .stop hbounded hpass hbytes ?_
        rintro r ⟨⟩
        exact ⟨rfl, by simp [ReadAvailableResult.peerClosed], fun _ => rfl⟩
      · refine .stop hbounded hpass hbytes ?_
        rintro r ⟨⟩
        exact ⟨rfl, by simp [ReadAvailableResult.peerClosed], fun _ => rfl⟩
      · exact .stop hbounded hpass hbytes (hblocked last)
      · exact .stop hbounded hpass hbytes (by rintro r ⟨⟩)
  | case4 st before n hpass answer answers call last hafter out ih =>
      have hspec := beforeRecv_spec maxReadBytes st
      rw [hpass] at hspec
      obtain ⟨more, hmore, hsplits⟩ := hspec.decoded
      obtain ⟨-, -, -, -, hspace⟩ := hspec.recv n rfl
      obtain ⟨hundecoded, hkept, hmessages, -⟩ := goRound_spec hafter
      have hlimits := hkept.limits
      have hlength : call.bytes.length ≤ n := length_bytes_within n answer
      have hlater := ih (by
        rw [hundecoded, List.length_append, hlimits]
        simp only at hspace
        omega)
      have hsame : last.connection.limits = st.connection.limits :=
        hlimits.trans hspec.same.limits
      obtain ⟨later, hsplits', hresult⟩ := hlater.decoded
      rw [hsame, hundecoded] at hsplits'
      refine ⟨⟨more ++ later, ?_, ?_⟩, ?_, ?_⟩
      · rw [receivedBytes_cons, ← List.append_assoc]
        exact ((hsplits.limit hbounded).append call.bytes).extend hsplits'
      · intro r hok
        rw [hresult r hok, hmessages, hmore, List.append_assoc]
      · rw [← hsame]
        exact hlater.rejected
      · rw [← hsame]
        exact hlater.closed

/-- Without a frame to decode, the first half of the loop changes nothing. -/
theorem beforeRecv_drained {maxReadBytes n : ℕ} {st before : ReadState}
    (hdrained : tryDecodeFrame st.connection.undecoded = .needMoreData)
    (hpass : beforeRecv maxReadBytes st = (before, .recv n)) :
    before.messages = st.messages ∧ before.connection.undecoded = st.connection.undecoded ∧
      before.madeProgress = st.madeProgress ∧ before.totalRead = st.totalRead := by
  have hspec := beforeRecv_spec maxReadBytes st
  rw [hpass] at hspec
  obtain ⟨more, hmore, hsplits⟩ := hspec.decoded
  obtain ⟨rfl, hundecoded⟩ :=
    hsplits.of_exhausted (FrameFormat.exhausted_of_needMoreData hdrained)
  rw [List.append_nil] at hmore
  exact ⟨hmore, hundecoded, hspec.progress, hspec.total⟩

/-- A read that starts with nothing to decode and reports progress has received
something. -/
theorem readLoop_progress (maxReadBytes : ℕ) (answers : List RecvResult) (st : ReadState)
    (hdrained : tryDecodeFrame st.connection.undecoded = .needMoreData)
    (hmessages : st.messages = []) (hprogress : st.madeProgress = false)
    (hbudget : st.totalRead < maxReadBytes) {result : ReadAvailableResult}
    (hok : (readLoop maxReadBytes answers st).result = .ok result) (hstatus : result.status = .kOk) :
    receivedBytes (readLoop maxReadBytes answers st).calls ≠ [] := by
  have hblocked : ∀ {st : ReadState}, st.messages = [] → st.madeProgress = false →
      (readWouldBlock st).status ≠ .kOk := by
    intro st hmessages hprogress
    simp [readWouldBlock, hmessages, hprogress, ReadAvailableResult.wouldBlock]
  fun_induction readLoop maxReadBytes answers st with
  | case1 answers st before early hpass =>
      cases hok
      obtain ⟨e, -, rfl⟩ | ⟨-, ⟨hover, -⟩ | ⟨-, rfl⟩⟩ := beforeRecv_finished hpass
      · cases hstatus
      · exact absurd hbudget (Nat.not_lt.mpr hover)
      · cases hstatus
  | case2 st before n hpass =>
      cases hok
      obtain ⟨hmessages', -, hprogress', -⟩ := beforeRecv_drained hdrained hpass
      exact absurd hstatus (hblocked (hmessages'.trans hmessages) (hprogress'.trans hprogress))
  | case3 st before n hpass answer answers call last last' hafter =>
      obtain ⟨hmessages', -, hprogress', -⟩ := beforeRecv_drained hdrained hpass
      obtain ⟨rfl, ⟨-, rfl⟩ | ⟨e, -, -, rfl⟩ | ⟨e, -, -, rfl⟩ | ⟨e, -, -, -, -, rfl⟩⟩ :=
        afterRecv_some hafter
      · cases hok
        cases hstatus
      · cases hok
        cases hstatus
      · cases hok
        exact absurd hstatus (hblocked (hmessages'.trans hmessages) (hprogress'.trans hprogress))
      · cases hok
  | case4 st before n hpass answer answers call last hafter out ih =>
      obtain ⟨hmessages', hundecoded, hprogress', htotal⟩ := beforeRecv_drained hdrained hpass
      rw [receivedBytes_cons]
      obtain ⟨hcall, rfl⟩ | ⟨bytes, hsome, hcall, -⟩ := afterRecv_none hafter
      · apply List.append_ne_nil_of_right_ne_nil
        apply ih _ (hmessages'.trans hmessages) (hprogress'.trans hprogress) _ hok
        · rw [hundecoded]
          exact hdrained
        · rw [htotal]
          exact hbudget
      · apply List.append_ne_nil_of_left_ne_nil
        rw [RecvCall.bytes, hcall]
        exact hsome

end Connection

/-! ## Successive reads -/

/-- No further read is made behind such a result. -/
def ReadAvailableResult.isFinal (result : ReadAvailableResult) : Bool :=
  result.status = .kPeerClosed || result.status = .kProtocolError

/-- What successive reads come to. -/
structure InputHistory where
  /-- The messages they returned, one read behind the other. -/
  messages : List Message
  /-- The first final result, or the first exception. -/
  ended : Option (Except Exception (ReadAvailableStatus × Option ProtocolError))
  /-- Every `recv` they issued. -/
  calls : List RecvCall
  /-- How many of them returned `kWouldBlock`. -/
  blocked : ℕ

/-- Successive calls of `ReadAvailable`, each with its budget and the answers of the
kernel, up to the first final result. -/
def Connection.readUntilEnd (c : Connection) : List (ℕ × List RecvResult) → InputHistory
  | [] => ⟨[], none, [], 0⟩
  | (maxReadBytes, answers) :: reads =>
      let out := c.readAvailable maxReadBytes answers
      match out.result with
      | .error exception => ⟨[], some (.error exception), out.calls, 0⟩
      | .ok result =>
          if result.isFinal then
            ⟨result.messages, some (.ok (result.status, result.protocolError)), out.calls, 0⟩
          else
            let later := out.connection.readUntilEnd reads
            ⟨result.messages ++ later.messages, later.ended, out.calls ++ later.calls,
              (if result.status = .kWouldBlock then 1 else 0) + later.blocked⟩

/-- What is wrong with the header in front of a buffer. -/
def headerError (bytes : List Byte) : Option ProtocolError :=
  match tryDecodeFrame (bytes.take kHeaderSize) with
  | .error e => some e
  | _ => none

/-- The frames that a connection with an input limit reads from a stream. -/
def inputFrames (limit : ℕ) (stream : List Byte) : List Message :=
  (frameFormat.limit limit).frames stream

/-- What follows these frames. -/
def inputRest (limit : ℕ) (stream : List Byte) : List Byte :=
  (frameFormat.limit limit).leftover stream

/-- How reading a stream ends: by what is wrong with the header behind the frames if
the buffer can hold a header, otherwise by the limit if the rest reaches it, and
otherwise with the stream. -/
def inputEnd (limit : ℕ) (stream : List Byte) : ReadAvailableStatus × Option ProtocolError :=
  match (if kHeaderSize ≤ limit then headerError (inputRest limit stream) else none) with
  | some e => (.kProtocolError, some e)
  | none =>
      if limit ≤ (inputRest limit stream).length then (.kProtocolError, some .kPayloadTooLarge)
      else (.kPeerClosed, none)

theorem headerError_eq_some_iff {bytes : List Byte} {e : ProtocolError} :
    headerError bytes = some e ↔ tryDecodeFrame bytes = .error e := by
  constructor
  · intro hheader
    unfold headerError at hheader
    split at hheader
    · next e' hdecode =>
        cases hheader
        have happend := frameFormat.error_append (bytes.drop kHeaderSize) hdecode
        rwa [List.take_append_drop] at happend
    · cases hheader
  · intro hdecode
    have hlength : kHeaderSize ≤ bytes.length := by
      by_contra hshort
      rw [tryDecodeFrame, if_pos (Nat.lt_of_not_le hshort)] at hdecode
      cases hdecode
    unfold headerError
    cases hfront : tryDecodeFrame (bytes.take kHeaderSize) with
    | error e' =>
        have happend := frameFormat.error_append (bytes.drop kHeaderSize) hfront
        rw [List.take_append_drop] at happend
        rw [show frameFormat.decode _ = _ from hdecode] at happend
        cases happend
        rfl
    | decoded m n =>
        have happend := frameFormat.decoded_append (bytes.drop kHeaderSize) hfront
        rw [List.take_append_drop] at happend
        rw [show frameFormat.decode _ = _ from hdecode] at happend
        cases happend
    | needMoreData =>
        have hgood := tryDecodeFrame_append_ne_error
          (by rw [List.length_take]; omega) hfront (bytes.drop kHeaderSize) e
        rw [List.take_append_drop] at hgood
        exact absurd hdecode hgood

/-- How reading ends depends on what follows the frames only. -/
theorem inputEnd_congr {limit : ℕ} {stream other : List Byte}
    (hrest : inputRest limit stream = inputRest limit other) :
    inputEnd limit stream = inputEnd limit other := by
  rw [inputEnd, inputEnd, hrest]

/-- Frames that were read do not matter to what comes behind them. -/
theorem input_append {limit : ℕ} {bytes rest : List Byte} {messages : List Message}
    (hsplits : (frameFormat.limit limit).Splits bytes messages rest) (more : List Byte) :
    inputFrames limit (bytes ++ more) = messages ++ inputFrames limit (rest ++ more) ∧
      inputEnd limit (bytes ++ more) = inputEnd limit (rest ++ more) :=
  ⟨hsplits.frames_append more, inputEnd_congr (hsplits.leftover_append more)⟩

/-- A stream that starts with no frame within the limit. -/
theorem input_of_exhausted {limit : ℕ} {stream : List Byte}
    (hnone : (frameFormat.limit limit).Exhausted stream) :
    inputFrames limit stream = [] ∧ inputRest limit stream = stream := by
  obtain ⟨hframes, hrest⟩ := FrameFormat.Splits.eq_frames (.nil stream) hnone
  exact ⟨hframes.symm, hrest.symm⟩

/-- The decoder rejects what it has. -/
theorem input_of_error {limit : ℕ} {bytes : List Byte} {e : ProtocolError}
    (hdecode : tryDecodeFrame bytes = .error e) (hlength : bytes.length ≤ limit)
    (more : List Byte) :
    inputFrames limit (bytes ++ more) = [] ∧
      inputEnd limit (bytes ++ more) = (.kProtocolError, some e) := by
  have hmore : tryDecodeFrame (bytes ++ more) = .error e := frameFormat.error_append more hdecode
  have hheader : kHeaderSize ≤ bytes.length := by
    by_contra hshort
    rw [tryDecodeFrame, if_pos (Nat.lt_of_not_le hshort)] at hdecode
    cases hdecode
  have hnone : (frameFormat.limit limit).Exhausted (bytes ++ more) :=
    FrameFormat.exhausted_of_error (Verdict.limit_eq_error_iff.mpr hmore)
  obtain ⟨hframes, hrest⟩ := input_of_exhausted hnone
  refine ⟨hframes, ?_⟩
  rw [inputEnd, hrest, if_pos (Nat.le_trans hheader hlength), headerError_eq_some_iff.mpr hmore]

/-- A buffer as long as the limit holds no frame, and none will become complete. -/
theorem input_of_full {limit : ℕ} {bytes : List Byte}
    (hdecode : tryDecodeFrame bytes = .needMoreData) (hfull : limit ≤ bytes.length)
    (more : List Byte) :
    inputFrames limit (bytes ++ more) = [] ∧
      inputEnd limit (bytes ++ more) = (.kProtocolError, some .kPayloadTooLarge) := by
  have hnone : (frameFormat.limit limit).Exhausted (bytes ++ more) := by
    intro m n hframe
    obtain ⟨hframe, hn⟩ := FrameFormat.limit_decode_eq_decoded_iff.mp hframe
    have hfront := tryDecodeFrame_of_append hframe (Nat.le_trans hn hfull)
    rw [hdecode] at hfront
    cases hfront
  obtain ⟨hframes, hrest⟩ := input_of_exhausted hnone
  refine ⟨hframes, ?_⟩
  have hheader : (if kHeaderSize ≤ limit then headerError (bytes ++ more) else none) = none := by
    split
    · next hlimit =>
        apply Option.eq_none_iff_forall_ne_some.mpr
        intro e herror
        exact tryDecodeFrame_append_ne_error (Nat.le_trans hlimit hfull) hdecode more e
          (headerError_eq_some_iff.mp herror)
    · rfl
  rw [inputEnd, hrest, hheader]
  simp only
  rw [if_pos (by rw [List.length_append]; omega)]

/-- The stream ends in front of a complete frame and of the limit. -/
theorem input_of_closed {limit : ℕ} {bytes : List Byte}
    (hdecode : tryDecodeFrame bytes = .needMoreData) (hroom : bytes.length < limit) :
    inputFrames limit bytes = [] ∧ inputEnd limit bytes = (.kPeerClosed, none) := by
  have hnone : (frameFormat.limit limit).Exhausted bytes := by
    intro m n hframe
    obtain ⟨hframe, -⟩ := FrameFormat.limit_decode_eq_decoded_iff.mp hframe
    rw [show frameFormat.decode bytes = _ from hdecode] at hframe
    cases hframe
  obtain ⟨hframes, hrest⟩ := input_of_exhausted hnone
  refine ⟨hframes, ?_⟩
  have hheader : (if kHeaderSize ≤ limit then headerError bytes else none) = none := by
    split
    · apply Option.eq_none_iff_forall_ne_some.mpr
      intro e herror
      rw [headerError_eq_some_iff, hdecode] at herror
      cases herror
    · rfl
  rw [inputEnd, hrest, hheader]
  simp only
  rw [if_neg (Nat.not_le.mpr hroom)]

/-- A read whose result is final has read the last frames, and says how the stream
ends. -/
theorem Connection.readAvailable_final {c : Connection} {maxReadBytes : ℕ}
    {answers : List RecvResult} {stream rest : List Byte} {result : ReadAvailableResult}
    (hbounded : c.undecoded.length ≤ c.limits.maxInputBuffer)
    (hkernel : Delivered stream (c.readAvailable maxReadBytes answers).calls rest)
    (hok : (c.readAvailable maxReadBytes answers).result = .ok result)
    (hfinal : result.isFinal = true) :
    result.messages = inputFrames c.limits.maxInputBuffer (c.undecoded ++ stream) ∧
      (result.status, result.protocolError) =
        inputEnd c.limits.maxInputBuffer (c.undecoded ++ stream) := by
  have hspec := c.readAvailable_spec maxReadBytes answers
  have hinput : ReadInput ⟨c, [], false, 0⟩ (c.readAvailable maxReadBytes answers) :=
    readLoop_input maxReadBytes answers ⟨c, [], false, 0⟩ hbounded
  have hbounded' := hspec.bounded hbounded
  obtain ⟨more, hsplits, hmessages⟩ := hinput.decoded
  rw [hmessages result hok, hkernel.stream_eq, ← List.append_assoc, List.nil_append]
  obtain ⟨hframes, hend⟩ := input_append hsplits rest
  simp only at hframes hend
  rw [hframes, hend]
  simp only [ReadAvailableResult.isFinal, Bool.or_eq_true, decide_eq_true_eq] at hfinal
  rcases hfinal with hclosed | herror
  · obtain ⟨hnoerror, hroom⟩ := hinput.closed result hok hclosed
    have hdrained := hspec.drained result hok (by rw [hclosed]; decide)
    obtain rfl := hkernel.rest_eq_nil (hspec.ended result hok hclosed)
    obtain ⟨hnone, hlast⟩ := input_of_closed hdrained hroom
    rw [List.append_nil, hnone, hlast, hclosed, hnoerror, List.append_nil]
    exact ⟨rfl, rfl⟩
  · rw [herror]
    obtain ⟨e, he, hdecode⟩ | ⟨he, hdecode, hfull⟩ := hinput.rejected result hok herror
    · obtain ⟨hnone, hlast⟩ := input_of_error hdecode hbounded' rest
      rw [hnone, hlast, he, List.append_nil]
      exact ⟨rfl, rfl⟩
    · obtain ⟨hnone, hlast⟩ := input_of_full hdecode hfull rest
      rw [hnone, hlast, he, List.append_nil]
      exact ⟨rfl, rfl⟩

/-- A read whose result is not final has read some frames and leaves the others. -/
theorem Connection.readAvailable_more {c : Connection} {maxReadBytes : ℕ}
    {answers : List RecvResult} {stream rest : List Byte} {result : ReadAvailableResult}
    (hbounded : c.undecoded.length ≤ c.limits.maxInputBuffer)
    (hkernel : Delivered stream (c.readAvailable maxReadBytes answers).calls rest)
    (hok : (c.readAvailable maxReadBytes answers).result = .ok result) :
    inputFrames c.limits.maxInputBuffer (c.undecoded ++ stream) =
        result.messages ++ inputFrames c.limits.maxInputBuffer
          ((c.readAvailable maxReadBytes answers).connection.undecoded ++ rest) ∧
      inputEnd c.limits.maxInputBuffer (c.undecoded ++ stream) =
        inputEnd c.limits.maxInputBuffer
          ((c.readAvailable maxReadBytes answers).connection.undecoded ++ rest) := by
  have hinput : ReadInput ⟨c, [], false, 0⟩ (c.readAvailable maxReadBytes answers) :=
    readLoop_input maxReadBytes answers ⟨c, [], false, 0⟩ hbounded
  obtain ⟨more, hsplits, hmessages⟩ := hinput.decoded
  rw [hmessages result hok, hkernel.stream_eq, ← List.append_assoc, List.nil_append]
  exact input_append hsplits rest

/-- Interrupted and blocked calls make no read throw. -/
theorem Connection.readAvailable_ok {c : Connection} {maxReadBytes : ℕ}
    {answers : List RecvResult} {stream rest : List Byte}
    (hkernel : Delivered stream (c.readAvailable maxReadBytes answers).calls rest)
    (exception : Exception) : (c.readAvailable maxReadBytes answers).result ≠ .error exception := by
  intro hthrown
  obtain ⟨e, hmem, hintr, hblock, -⟩ :=
    (c.readAvailable_spec maxReadBytes answers).thrown exception hthrown
  rcases hkernel.error_of_mem hmem with rfl | hblocked
  · exact hintr rfl
  · rw [hblock] at hblocked
    cases hblocked

theorem readUntilEnd_spec (reads : List (ℕ × List RecvResult)) {c : Connection}
    {stream rest : List Byte} (hbounded : c.undecoded.length ≤ c.limits.maxInputBuffer)
    (hkernel : Delivered stream (c.readUntilEnd reads).calls rest) :
    (∀ exception, (c.readUntilEnd reads).ended ≠ some (.error exception)) ∧
    (∀ final, (c.readUntilEnd reads).ended = some (.ok final) →
      (c.readUntilEnd reads).messages =
          inputFrames c.limits.maxInputBuffer (c.undecoded ++ stream) ∧
        final = inputEnd c.limits.maxInputBuffer (c.undecoded ++ stream)) ∧
    (c.readUntilEnd reads).messages <+:
      inputFrames c.limits.maxInputBuffer (c.undecoded ++ stream) := by
  induction reads generalizing c stream with
  | nil => exact ⟨nofun, nofun, List.nil_prefix⟩
  | cons read reads ih =>
      obtain ⟨maxReadBytes, answers⟩ := read
      have hspec := c.readAvailable_spec maxReadBytes answers
      rw [Connection.readUntilEnd] at hkernel ⊢
      simp only at hkernel ⊢
      split at hkernel
      · next exception hthrown => exact absurd hthrown (Connection.readAvailable_ok hkernel _)
      next result hok =>
      split at hkernel
      · next hfinal =>
          obtain ⟨hframes, hend⟩ := Connection.readAvailable_final hbounded hkernel hok hfinal
          rw [if_pos hfinal]
          refine ⟨nofun, ?_, ?_⟩
          · rintro final ⟨⟩
            exact ⟨hframes, hend⟩
          · exact hframes ▸ List.prefix_rfl
      · next hfinal =>
          obtain ⟨middle, hfirst, hlater⟩ := Delivered.append_iff.mp hkernel
          obtain ⟨hframes, hend⟩ := Connection.readAvailable_more hbounded hfirst hok
          have hlimits := hspec.same.limits
          have hbounded' := hspec.bounded hbounded
          obtain ⟨hthrown, hended, hinitial⟩ := ih (by rw [hlimits]; exact hbounded') hlater
          rw [hlimits] at hended hinitial
          simp only at hended hinitial
          rw [if_neg hfinal, hframes, hend]
          refine ⟨hthrown, ?_, ?_⟩
          · intro final hlast
            obtain ⟨hmessages, hfinal⟩ := hended final hlast
            exact ⟨congrArg (result.messages ++ ·) hmessages, hfinal⟩
          · exact (List.prefix_append_right_inj _).mpr hinitial

/-- Every read that does not end the stream and does not just block takes a byte. -/
theorem readUntilEnd_progress (reads : List (ℕ × List RecvResult)) {c : Connection}
    (hdrained : tryDecodeFrame c.undecoded = .needMoreData)
    (hbudgets : ∀ read ∈ reads, 1 ≤ read.1) (hopen : (c.readUntilEnd reads).ended = none) :
    reads.length ≤ (c.readUntilEnd reads).blocked +
      (receivedBytes (c.readUntilEnd reads).calls).length := by
  induction reads generalizing c with
  | nil => exact Nat.zero_le _
  | cons read reads ih =>
      obtain ⟨maxReadBytes, answers⟩ := read
      obtain ⟨hbudget, hlater⟩ := List.forall_mem_cons.mp hbudgets
      have hspec := c.readAvailable_spec maxReadBytes answers
      rw [Connection.readUntilEnd] at hopen ⊢
      simp only at hopen ⊢
      split at hopen
      · cases hopen
      next result hok =>
      split at hopen
      · cases hopen
      next hmore =>
      simp only [if_neg hmore]
      simp only [ReadAvailableResult.isFinal, Bool.or_eq_true, decide_eq_true_eq,
        not_or] at hmore
      have hrest := ih (hspec.drained result hok hmore.2) hlater hopen
      rw [receivedBytes_append, List.length_append, List.length_cons]
      by_cases hblock : result.status = .kWouldBlock
      · rw [if_pos hblock]
        omega
      · have hstatus : result.status = .kOk := by
          cases hcase : result.status with
          | kOk => rfl
          | kWouldBlock => exact absurd hcase hblock
          | kPeerClosed => exact absurd hcase hmore.1
          | kProtocolError => exact absurd hcase hmore.2
        have hreceived := Connection.readLoop_progress maxReadBytes answers ⟨c, [], false, 0⟩
          hdrained rfl rfl hbudget hok hstatus
        have hpos := List.length_pos_iff.mpr hreceived
        have hsame : (receivedBytes (c.readAvailable maxReadBytes answers).calls).length =
          (receivedBytes (Connection.readLoop maxReadBytes answers
            ⟨c, [], false, 0⟩).calls).length := rfl
        omega

/-- The input law: successive reads of a stream and its end throw nothing; up to the
first final result they return the frames of the stream that are within the limit,
and that result is determined by the stream and the limit. They get there unless
they go on blocking, because any other read takes at least one byte. -/
theorem input_law (id : ConnectionId) (fd : Fd) (limits : ConnectionLimits)
    (stream rest : List Byte) (reads : List (ℕ × List RecvResult))
    (hbudgets : ∀ read ∈ reads, 1 ≤ read.1)
    (hkernel : Delivered stream ((Connection.create id fd limits).readUntilEnd reads).calls rest) :
    (∀ exception,
      ((Connection.create id fd limits).readUntilEnd reads).ended ≠ some (.error exception)) ∧
    (∀ final, ((Connection.create id fd limits).readUntilEnd reads).ended = some (.ok final) →
      ((Connection.create id fd limits).readUntilEnd reads).messages =
        inputFrames limits.maxInputBuffer stream ∧
      final = inputEnd limits.maxInputBuffer stream) ∧
    (((Connection.create id fd limits).readUntilEnd reads).ended = none →
      ((Connection.create id fd limits).readUntilEnd reads).messages <+:
        inputFrames limits.maxInputBuffer stream ∧
      reads.length ≤ ((Connection.create id fd limits).readUntilEnd reads).blocked +
        stream.length) := by
  obtain ⟨hthrown, hended, hinitial⟩ := readUntilEnd_spec reads (Nat.zero_le _) hkernel
  refine ⟨hthrown, hended, fun hopen => ⟨hinitial, ?_⟩⟩
  have hprogress := readUntilEnd_progress reads rfl hbudgets hopen
  have hlength := congrArg List.length hkernel.stream_eq
  rw [List.length_append] at hlength
  omega

namespace InputLaw.Sample

/-- A frame of 24 bytes. -/
def frame : List Byte :=
  [0x50, 0x55, 0x4C, 0x53, 0, 1, 0, 1, 0, 0, 0, 4, 0, 0, 0, 0, 0, 0, 0, 7, 1, 2, 3, 4]

/-- Two reads: the first one is interrupted and runs out of budget, the second one
gets the rest of the frame, a byte behind it, and the end. -/
def reads : List (ℕ × List RecvResult) :=
  [(7, [.received (frame.take 5), .failed .eintr, .received ((frame.drop 5).take 2)]),
    (64, [.received (frame.drop 7), .received [9], .received []])]

end InputLaw.Sample

theorem input_law_sample :
    ((Connection.create ⟨1⟩ 5 ⟨24, 24⟩).readUntilEnd InputLaw.Sample.reads).messages =
      inputFrames 24 (InputLaw.Sample.frame ++ [9]) ∧
    inputFrames 24 (InputLaw.Sample.frame ++ [9]) = [⟨.kEchoRequest, 7, [1, 2, 3, 4]⟩] ∧
    (.kPeerClosed, none) = inputEnd 24 (InputLaw.Sample.frame ++ [9]) := by
  have hcalls : ((Connection.create ⟨1⟩ 5 ⟨24, 24⟩).readUntilEnd InputLaw.Sample.reads).calls =
      [⟨7, .received (InputLaw.Sample.frame.take 5)⟩, ⟨2, .failed .eintr⟩,
        ⟨2, .received ((InputLaw.Sample.frame.drop 5).take 2)⟩,
        ⟨17, .received (InputLaw.Sample.frame.drop 7)⟩, ⟨24, .received [9]⟩,
        ⟨23, .received []⟩] := by
    decide +kernel
  have hended : ((Connection.create ⟨1⟩ 5 ⟨24, 24⟩).readUntilEnd InputLaw.Sample.reads).ended =
      some (.ok (.kPeerClosed, none)) := rfl
  have hkernel : Delivered (InputLaw.Sample.frame ++ [9])
      ((Connection.create ⟨1⟩ 5 ⟨24, 24⟩).readUntilEnd InputLaw.Sample.reads).calls [] := by
    rw [hcalls]
    show Delivered (InputLaw.Sample.frame.take 5 ++ ((InputLaw.Sample.frame.drop 5).take 2 ++
      (InputLaw.Sample.frame.drop 7 ++ ([9] ++ [])))) _ _
    exact .piece (by decide) (by decide) (.failed (.inl rfl) (.piece (by decide) (by decide)
      (.piece (by decide) (by decide) (.piece (by decide) (by decide) (.closed (.nil _))))))
  obtain ⟨hmessages, hfinal⟩ := (input_law ⟨1⟩ 5 ⟨24, 24⟩ (InputLaw.Sample.frame ++ [9]) []
    InputLaw.Sample.reads (by decide) hkernel).2.1 _ hended
  exact ⟨hmessages, by decide +kernel, hfinal⟩

end PulseCore.Network
