/-
# What one connection call does to the streams

A connection sits between two byte streams. On the input side, the bytes still
in the decoder followed by what a read receives fall into the messages the read
returns and the bytes it leaves in the decoder. On the output side, the bytes
that are pending before a write are those it sends followed by those still
pending after it. Both hold for every budget, every limit and every sequence of
kernel answers, also when the call ends in an exception.
-/

import PulseCore.Network.Connection

namespace PulseCore.Network

open PulseCore.Foundation PulseCore.Protocol

namespace Connection

/-- The undecoded input of a connection. -/
def undecoded (c : Connection) : List Byte := c.decoder.pending

/-- The output of a connection that is still to be sent. -/
def unsent (c : Connection) : List Byte := c.output.pending

theorem pendingOutputBytes_eq (c : Connection) : c.pendingOutputBytes = c.unsent.length :=
  (OffsetBuffer.length_pending _).symm

theorem hasPendingOutput_eq_true_iff (c : Connection) :
    c.hasPendingOutput = true ↔ c.unsent ≠ [] := by
  rw [hasPendingOutput, decide_eq_true_iff, pendingOutputBytes_eq, gt_iff_lt,
    List.length_pos_iff]

theorem hasPendingOutput_eq_false_iff (c : Connection) :
    c.hasPendingOutput = false ↔ c.unsent = [] := by
  rw [← Bool.not_eq_true, hasPendingOutput_eq_true_iff, not_not]

/-- What the decoder says once it is drained. -/
def drainVerdict : Option ProtocolError → DecodeResult
  | none => .needMoreData
  | some error => .error error

theorem drainDecoderWith_spec (fuel : ℕ) (decoder : FrameDecoder) (messages : List Message)
    (hfuel : decoder.pending.length < fuel) :
    ∃ more, (drainDecoderWith fuel decoder messages).2.2 = messages ++ more ∧
      frameFormat.Splits decoder.pending more
        (drainDecoderWith fuel decoder messages).2.1.pending ∧
      tryDecodeFrame (drainDecoderWith fuel decoder messages).2.1.pending =
        drainVerdict (drainDecoderWith fuel decoder messages).1 := by
  induction fuel generalizing decoder messages with
  | zero => exact absurd hfuel (Nat.not_lt_zero _)
  | succ fuel ih =>
      rw [drainDecoderWith]
      obtain ⟨hdecode, hnext⟩ | ⟨e, hdecode, hnext⟩ | ⟨message, n, after, hdecode, hnext, hafter⟩ :=
        decoder.next_cases
      · simp only [hnext]
        exact ⟨[], (List.append_nil _).symm, .nil _, hdecode⟩
      · simp only [hnext]
        exact ⟨[], (List.append_nil _).symm, .nil _, hdecode⟩
      · obtain ⟨hsize, hle, -⟩ := tryDecodeFrame_decoded hdecode
        have hshorter : after.pending.length < fuel := by
          have hheader : 0 < kHeaderSize := by decide
          rw [hafter, List.length_drop]
          omega
        obtain ⟨more, hmessages, hsplits, hlast⟩ := ih after (messages ++ [message]) hshorter
        simp only [hnext]
        refine ⟨message :: more, ?_, .cons hdecode ?_, hlast⟩
        · rw [hmessages, List.append_assoc, List.singleton_append]
        · rwa [← hafter]

theorem drainDecoder_spec (decoder : FrameDecoder) (messages : List Message) :
    ∃ more, (drainDecoder decoder messages).2.2 = messages ++ more ∧
      frameFormat.Splits decoder.pending more (drainDecoder decoder messages).2.1.pending ∧
      tryDecodeFrame (drainDecoder decoder messages).2.1.pending =
        drainVerdict (drainDecoder decoder messages).1 :=
  drainDecoderWith_spec _ _ _ (by rw [FrameDecoder.bufferedSize_eq]; omega)

/-! ## Reading -/

/-- Everything of a connection but its decoder. -/
structure SameButDecoder (c c' : Connection) : Prop where
  id : c'.id = c.id
  fd : c'.fd = c.fd
  limits : c'.limits = c.limits
  output : c'.output = c.output

theorem SameButDecoder.refl (c : Connection) : SameButDecoder c c := ⟨rfl, rfl, rfl, rfl⟩

theorem SameButDecoder.trans {c₁ c₂ c₃ : Connection} (h₁ : SameButDecoder c₁ c₂)
    (h₂ : SameButDecoder c₂ c₃) : SameButDecoder c₁ c₃ :=
  ⟨h₂.id.trans h₁.id, h₂.fd.trans h₁.fd, h₂.limits.trans h₁.limits, h₂.output.trans h₁.output⟩

/-- The first half of the read loop: it decodes what is buffered, and either
returns or asks for a length that fits the chunk, the budget and the limit. -/
structure BeforeRecvSpec (maxReadBytes : ℕ) (st st' : ReadState) (pass : ReadPass) : Prop where
  same : SameButDecoder st.connection st'.connection
  progress : st'.madeProgress = st.madeProgress
  total : st'.totalRead = st.totalRead
  decoded : ∃ more, st'.messages = st.messages ++ more ∧
    frameFormat.Splits st.connection.undecoded more st'.connection.undecoded
  finished : ∀ result, pass = .finished result →
    result.messages = st'.messages ∧ result.status ≠ .kPeerClosed ∧
      (result.status ≠ .kProtocolError →
        tryDecodeFrame st'.connection.undecoded = .needMoreData)
  recv : ∀ n, pass = .recv n →
    tryDecodeFrame st'.connection.undecoded = .needMoreData ∧
      1 ≤ n ∧ n ≤ kReadChunk ∧ st'.totalRead + n ≤ maxReadBytes ∧
      st'.connection.undecoded.length + n ≤ st'.connection.limits.maxInputBuffer

theorem beforeRecv_spec (maxReadBytes : ℕ) (st : ReadState) :
    BeforeRecvSpec maxReadBytes st (beforeRecv maxReadBytes st).1
      (beforeRecv maxReadBytes st).2 := by
  obtain ⟨more, hmessages, hsplits, hverdict⟩ :=
    drainDecoder_spec st.connection.decoder st.messages
  unfold beforeRecv
  split
  · next error decoder messages hdrain =>
      rw [hdrain] at hmessages hsplits
      refine ⟨⟨rfl, rfl, rfl, rfl⟩, rfl, rfl, ⟨more, hmessages, hsplits⟩, ?_, nofun⟩
      rintro result ⟨⟩
      exact ⟨rfl, nofun, fun hstatus => absurd rfl hstatus⟩
  · next decoder messages hdrain =>
      rw [hdrain] at hmessages hsplits hverdict
      simp only
      split
      · refine ⟨⟨rfl, rfl, rfl, rfl⟩, rfl, rfl, ⟨more, hmessages, hsplits⟩, ?_, nofun⟩
        rintro result ⟨⟩
        exact ⟨rfl, nofun, fun _ => hverdict⟩
      split
      · refine ⟨⟨rfl, rfl, rfl, rfl⟩, rfl, rfl, ⟨more, hmessages, hsplits⟩, ?_, nofun⟩
        rintro result ⟨⟩
        exact ⟨rfl, nofun, fun hstatus => absurd rfl hstatus⟩
      · next hbudget hspace =>
          refine ⟨⟨rfl, rfl, rfl, rfl⟩, rfl, rfl, ⟨more, hmessages, hsplits⟩, nofun, ?_⟩
          rintro n ⟨⟩
          rw [FrameDecoder.bufferedSize_eq] at hspace ⊢
          have hchunk : 1 ≤ kReadChunk := by decide
          have hundecoded : ({ st.connection with decoder } : Connection).undecoded =
            decoder.pending := rfl
          refine ⟨hverdict, ?_, ?_, ?_, ?_⟩
          · omega
          · exact Nat.min_le_left _ _
          · simp only
            omega
          · rw [hundecoded]
            simp only
            omega

/-- What a call of `ReadAvailable` does, seen from any pass of its loop. -/
structure ReadSpec (maxReadBytes : ℕ) (st : ReadState) (out : ReadOutcome) : Prop where
  same : SameButDecoder st.connection out.connection
  decoded : ∃ more,
    frameFormat.Splits (st.connection.undecoded ++ receivedBytes out.calls) more
      out.connection.undecoded ∧
    ∀ result, out.result = .ok result → result.messages = st.messages ++ more
  bounded : st.connection.undecoded.length ≤ st.connection.limits.maxInputBuffer →
    out.connection.undecoded.length ≤ st.connection.limits.maxInputBuffer
  drained : ∀ result, out.result = .ok result → result.status ≠ .kProtocolError →
    tryDecodeFrame out.connection.undecoded = .needMoreData
  ended : ∀ result, out.result = .ok result → result.status = .kPeerClosed →
    out.calls.any RecvCall.isEnd = true
  unended : ∀ result, out.result = .ok result → result.status ≠ .kPeerClosed →
    out.calls.any RecvCall.isEnd = false
  endLast : ∀ call ∈ out.calls.dropLast, call.isEnd = false
  thrown : ∀ error, out.result = .error error →
    ∃ e, .failed e ∈ out.calls.map RecvCall.result ∧ e ≠ .eintr ∧ isWouldBlock e = false ∧
      isPeerClosedError e = false
  handled : ∀ result, out.result = .ok result →
    ∀ e, .failed e ∈ out.calls.map RecvCall.result →
      e = .eintr ∨ isWouldBlock e = true ∨ isPeerClosedError e = true

/-- What is not new after a would-block is nothing at all. -/
theorem readWouldBlock_messages (st : ReadState) : (readWouldBlock st).messages = st.messages := by
  unfold readWouldBlock
  split
  · rfl
  · next hnone =>
      simp only [Bool.or_eq_true, not_or, Bool.not_eq_true, Bool.not_eq_false',
        List.isEmpty_iff] at hnone
      rw [hnone.2]
      rfl

theorem readWouldBlock_status (st : ReadState) :
    (readWouldBlock st).status ≠ .kProtocolError ∧ (readWouldBlock st).status ≠ .kPeerClosed := by
  unfold readWouldBlock
  split
  · exact ⟨nofun, nofun⟩
  · exact ⟨nofun, nofun⟩

/-- When the read loop goes round, it was interrupted or has received something. -/
theorem afterRecv_none {st after : ReadState} {answer : RecvResult}
    (hafter : afterRecv st answer = (after, none)) :
    (answer = .failed .eintr ∧ after = st) ∨
    ∃ bytes, bytes ≠ [] ∧ answer = .received bytes ∧
      after = { st with
        connection := { st.connection with decoder := st.connection.decoder.append bytes }
        madeProgress := true
        totalRead := st.totalRead + bytes.length } := by
  cases answer with
  | failed error =>
      rw [afterRecv] at hafter
      split at hafter
      · next hintr =>
          cases hafter
          exact .inl ⟨congrArg _ hintr, rfl⟩
      split at hafter
      · cases hafter
      split at hafter
      · cases hafter
      · cases hafter
  | received bytes =>
      cases bytes with
      | nil => cases hafter
      | cons byte bytes =>
          cases hafter
          exact .inr ⟨byte :: bytes, List.cons_ne_nil _ _, rfl, rfl⟩

/-- When the read loop ends behind a call, the call delivered nothing: it reported
the end of the stream, would have blocked, or failed otherwise. -/
theorem afterRecv_some {st after : ReadState} {answer : RecvResult}
    {result : Except Exception ReadAvailableResult}
    (hafter : afterRecv st answer = (after, some result)) :
    after = st ∧
      ((answer = .received [] ∧ result = .ok (.peerClosed st.messages)) ∨
      (∃ e, answer = .failed e ∧ isPeerClosedError e = true ∧
        result = .ok (.peerClosed st.messages)) ∨
      (∃ e, answer = .failed e ∧ isWouldBlock e = true ∧ result = .ok (readWouldBlock st)) ∨
      ∃ e, answer = .failed e ∧ e ≠ .eintr ∧ isWouldBlock e = false ∧
        isPeerClosedError e = false ∧ result = .error (.syscallError "recv" e)) := by
  cases answer with
  | failed error =>
      rw [afterRecv] at hafter
      split at hafter
      · cases hafter
      next hintr =>
      split at hafter
      · next hblock =>
          cases hafter
          exact ⟨rfl, .inr (.inr (.inl ⟨error, rfl, hblock, rfl⟩))⟩
      next hblock =>
      split at hafter
      · next hclosed =>
          cases hafter
          exact ⟨rfl, .inr (.inl ⟨error, rfl, hclosed, rfl⟩)⟩
      · next hclosed =>
          cases hafter
          exact ⟨rfl, .inr (.inr (.inr ⟨error, rfl, hintr, Bool.eq_false_iff.mpr hblock,
            Bool.eq_false_iff.mpr hclosed, rfl⟩))⟩
  | received bytes =>
      cases bytes with
      | nil =>
          cases hafter
          exact ⟨rfl, .inl ⟨rfl, rfl⟩⟩
      | cons byte bytes => cases hafter

/-- A call that ended the loop delivered nothing. -/
theorem bytes_of_afterRecv_some {st after : ReadState} {call : RecvCall}
    {result : Except Exception ReadAvailableResult}
    (hafter : afterRecv st call.result = (after, some result)) : call.bytes = [] := by
  rw [RecvCall.bytes]
  obtain ⟨-, ⟨hcall, -⟩ | ⟨e, hcall, -⟩ | ⟨e, hcall, -⟩ | ⟨e, hcall, -⟩⟩ := afterRecv_some hafter
  all_goals rw [hcall]

/-- The call that the loop made delivered at most what was asked for. -/
theorem length_bytes_within (length : ℕ) (answer : RecvResult) :
    (RecvCall.mk length (answer.within length)).bytes.length ≤ length := by
  cases answer with
  | failed error => exact Nat.zero_le _
  | received bytes => exact List.length_take_le _ _

/-- What the loop has behind a call it goes round with. -/
theorem goRound_spec {st after : ReadState} {call : RecvCall}
    (hafter : afterRecv st call.result = (after, none)) :
    after.connection.undecoded = st.connection.undecoded ++ call.bytes ∧
      SameButDecoder st.connection after.connection ∧ after.messages = st.messages ∧
      after.totalRead = st.totalRead + call.bytes.length := by
  rw [RecvCall.bytes]
  obtain ⟨hcall, rfl⟩ | ⟨bytes, -, hcall, rfl⟩ := afterRecv_none hafter
  · rw [hcall]
    exact ⟨(List.append_nil _).symm, .refl _, rfl, rfl⟩
  · rw [hcall]
    exact ⟨FrameDecoder.pending_append _ _, ⟨rfl, rfl, rfl, rfl⟩, rfl, rfl⟩

/-- The loop went round: what it does from here on, it does with one more call
in front. -/
theorem ReadSpec.goRound {maxReadBytes n : ℕ} {st before after : ReadState} {call : RecvCall}
    {out : ReadOutcome} (hbefore : BeforeRecvSpec maxReadBytes st before (.recv n))
    (hsame : SameButDecoder before.connection after.connection)
    (hmessages : after.messages = before.messages)
    (hundecoded : after.connection.undecoded = before.connection.undecoded ++ call.bytes)
    (hlength : call.bytes.length ≤ n) (hmore : call.isEnd = false)
    (hcall : ∀ e, call.result = .failed e → e = .eintr)
    (hout : ReadSpec maxReadBytes after out) :
    ReadSpec maxReadBytes st ⟨out.result, out.connection, call :: out.calls⟩ := by
  obtain ⟨more, hfirst, hsplits⟩ := hbefore.decoded
  obtain ⟨later, hlater, hresult⟩ := hout.decoded
  have hfits := (hbefore.recv n rfl).2.2.2.2
  have hlimits : after.connection.limits = st.connection.limits :=
    hsame.limits.trans hbefore.same.limits
  refine ⟨(hbefore.same.trans hsame).trans hout.same, ⟨more ++ later, ?_, ?_⟩, ?_, hout.drained,
    ?_, ?_, ?_, ?_, ?_⟩
  · rw [receivedBytes_cons, ← List.append_assoc]
    rw [hundecoded] at hlater
    exact FrameFormat.Splits.extend (hsplits.append call.bytes) hlater
  · intro result hok
    rw [hresult result hok, hmessages, hfirst, List.append_assoc]
  · intro _
    rw [← hlimits]
    refine hout.bounded ?_
    rw [hundecoded, List.length_append, hlimits, ← hbefore.same.limits]
    omega
  · intro result hok hstatus
    rw [List.any_cons, hout.ended result hok hstatus, Bool.or_true]
  · intro result hok hstatus
    rw [List.any_cons, hmore, hout.unended result hok hstatus, Bool.or_false]
  · intro other hother
    have hlast := hout.endLast
    cases hcalls : out.calls with
    | nil =>
        rw [hcalls] at hother
        cases hother
    | cons first rest =>
        rw [hcalls] at hother hlast
        rcases List.mem_cons.mp hother with rfl | hrest
        · exact hmore
        · exact hlast other hrest
  · intro error herror
    obtain ⟨e, hmem, he⟩ := hout.thrown error herror
    exact ⟨e, List.mem_cons_of_mem _ hmem, he⟩
  · intro result hok e hmem
    rcases List.mem_cons.mp hmem with hhead | htail
    · exact .inl (hcall e hhead.symm)
    · exact hout.handled result hok e htail

/-- The loop returned or threw behind a `recv` that delivered nothing. -/
theorem ReadSpec.stop {maxReadBytes n : ℕ} {st before : ReadState} {call : RecvCall}
    {result : Except Exception ReadAvailableResult}
    (hbefore : BeforeRecvSpec maxReadBytes st before (.recv n))
    (hbytes : call.bytes = [])
    (hmessages : ∀ r, result = .ok r → r.messages = before.messages)
    (hended : ∀ r, result = .ok r → (r.status = .kPeerClosed ↔ call.isEnd = true))
    (hthrown : ∀ error, result = .error error → ∃ e, call.result = .failed e ∧ e ≠ .eintr ∧
      isWouldBlock e = false ∧ isPeerClosedError e = false)
    (hhandled : ∀ r, result = .ok r → ∀ e, call.result = .failed e →
      e = .eintr ∨ isWouldBlock e = true ∨ isPeerClosedError e = true) :
    ReadSpec maxReadBytes st ⟨result, before.connection, [call]⟩ := by
  obtain ⟨more, hmore, hsplits⟩ := hbefore.decoded
  obtain ⟨hverdict, hpos, hchunk, hbudget, hfits⟩ := hbefore.recv n rfl
  refine ⟨hbefore.same, ⟨more, ?_, ?_⟩, ?_, fun _ _ _ => hverdict, ?_, ?_, nofun, ?_, ?_⟩
  · rw [receivedBytes_cons, receivedBytes_nil, List.append_nil, hbytes, List.append_nil]
    exact hsplits
  · intro r hok
    rw [hmessages r hok, hmore]
  · intro _
    rw [← hbefore.same.limits]
    simp only
    omega
  · intro r hok hstatus
    simp only [List.any_cons, List.any_nil, Bool.or_false]
    exact (hended r hok).mp hstatus
  · intro r hok hstatus
    simp only [List.any_cons, List.any_nil, Bool.or_false]
    exact Bool.eq_false_iff.mpr fun hend => hstatus ((hended r hok).mpr hend)
  · intro error herror
    obtain ⟨e, he, hrest⟩ := hthrown error herror
    exact ⟨e, List.mem_singleton.mpr he.symm, hrest⟩
  · intro r hok e hmem
    exact hhandled r hok e (List.mem_singleton.mp hmem).symm

/-- The loop returned before it got to `recv`. -/
theorem ReadSpec.early {maxReadBytes : ℕ} {st before : ReadState} {result : ReadAvailableResult}
    (hbefore : BeforeRecvSpec maxReadBytes st before (.finished result)) :
    ReadSpec maxReadBytes st ⟨.ok result, before.connection, []⟩ := by
  obtain ⟨more, hmore, hsplits⟩ := hbefore.decoded
  obtain ⟨hmessages, hopen, hdrained⟩ := hbefore.finished result rfl
  refine ⟨hbefore.same, ⟨more, ?_, ?_⟩, ?_, ?_, ?_, fun _ _ _ => rfl, nofun, nofun, ?_⟩
  · rwa [receivedBytes_nil, List.append_nil]
  · rintro r ⟨⟩
    rw [hmessages, hmore]
  · exact Nat.le_trans hsplits.length_rest_le
  · rintro r ⟨⟩
    exact hdrained
  · rintro r ⟨⟩ hstatus
    exact absurd hstatus hopen
  · rintro r _ e hmem
    exact absurd hmem List.not_mem_nil

theorem readLoop_spec (maxReadBytes : ℕ) (answers : List RecvResult) (st : ReadState) :
    ReadSpec maxReadBytes st (readLoop maxReadBytes answers st) := by
  have hblocked : ∀ st r, Except.ok (ε := Exception) (readWouldBlock st) = .ok r →
      r.messages = st.messages ∧ r.status ≠ .kPeerClosed := by
    rintro st r ⟨⟩
    exact ⟨readWouldBlock_messages st, (readWouldBlock_status st).2⟩
  fun_induction readLoop maxReadBytes answers st with
  | case1 answers st before result hpass =>
      have hbefore := beforeRecv_spec maxReadBytes st
      rw [hpass] at hbefore
      exact .early hbefore
  | case2 st before n hpass =>
      have hbefore := beforeRecv_spec maxReadBytes st
      rw [hpass] at hbefore
      refine .stop hbefore rfl (fun r hok => (hblocked before r hok).1) ?_ nofun ?_
      · intro r hok
        exact iff_of_false (hblocked before r hok).2 nofun
      · rintro r _ e ⟨⟩
        exact .inr (.inl rfl)
  | case3 st before n hpass answer answers call last result hafter =>
      have hbefore := beforeRecv_spec maxReadBytes st
      rw [hpass] at hbefore
      have hbytes := bytes_of_afterRecv_some hafter
      obtain ⟨rfl, hend⟩ := afterRecv_some hafter
      obtain ⟨hcall, rfl⟩ | ⟨e, hcall, hclosed, rfl⟩ | ⟨e, hcall, hblock, rfl⟩ |
        ⟨e, hcall, hintr, hblock, hclosed, rfl⟩ := hend
      · refine .stop hbefore hbytes ?_ ?_ nofun ?_
        · rintro r ⟨⟩
          rfl
        · rintro r ⟨⟩
          refine iff_of_true rfl ?_
          rw [RecvCall.isEnd, hcall]
          rfl
        · intro r _ e hfailed
          rw [hcall] at hfailed
          cases hfailed
      · refine .stop hbefore hbytes ?_ ?_ nofun ?_
        · rintro r ⟨⟩
          rfl
        · rintro r ⟨⟩
          refine iff_of_true rfl ?_
          rw [RecvCall.isEnd, hcall]
          exact hclosed
        · intro r _ other hfailed
          rw [hcall] at hfailed
          cases hfailed
          exact .inr (.inr hclosed)
      · refine .stop hbefore hbytes (fun r hok => (hblocked last r hok).1) ?_ nofun ?_
        · intro r hok
          refine iff_of_false (hblocked last r hok).2 ?_
          rw [RecvCall.isEnd, hcall]
          exact Bool.eq_false_iff.mp (isPeerClosedError_of_isWouldBlock hblock)
        · intro r _ other hfailed
          rw [hcall] at hfailed
          cases hfailed
          exact .inr (.inl hblock)
      · refine .stop hbefore hbytes nofun nofun ?_ nofun
        rintro error ⟨⟩
        exact ⟨e, hcall, hintr, hblock, hclosed⟩
  | case4 st before n hpass answer answers call last hafter out ih =>
      have hbefore := beforeRecv_spec maxReadBytes st
      rw [hpass] at hbefore
      obtain ⟨hundecoded, hsame, hmessages, -⟩ := goRound_spec hafter
      have hlength : call.bytes.length ≤ n := length_bytes_within n answer
      refine .goRound hbefore hsame hmessages hundecoded hlength ?_ ?_ ih
      · rw [RecvCall.isEnd]
        obtain ⟨hcall, -⟩ | ⟨bytes, hsome, hcall, -⟩ := afterRecv_none hafter
        · rw [hcall]
          rfl
        · rw [hcall]
          exact List.isEmpty_eq_false_iff.mpr hsome
      · intro e hfailed
        obtain ⟨hcall, -⟩ | ⟨bytes, -, hcall, -⟩ := afterRecv_none hafter
        · rw [hcall] at hfailed
          cases hfailed
          rfl
        · rw [hcall] at hfailed
          cases hfailed

/-- A read on a connection: what the bytes it received and had amount to. -/
theorem readAvailable_spec (c : Connection) (maxReadBytes : ℕ) (answers : List RecvResult) :
    ReadSpec maxReadBytes ⟨c, [], false, 0⟩ (c.readAvailable maxReadBytes answers) :=
  readLoop_spec _ _ _

/-- Everything of a connection but its output buffer. -/
structure SameButOutput (c c' : Connection) : Prop where
  id : c'.id = c.id
  fd : c'.fd = c.fd
  limits : c'.limits = c.limits
  decoder : c'.decoder = c.decoder

theorem SameButOutput.undecoded {c c' : Connection} (h : SameButOutput c c') :
    c'.undecoded = c.undecoded :=
  congrArg FrameDecoder.pending h.decoder

theorem SameButDecoder.unsent {c c' : Connection} (h : SameButDecoder c c') :
    c'.unsent = c.unsent :=
  congrArg OffsetBuffer.pending h.output

/-- Compaction keeps what is pending. -/
@[simp]
theorem pending_compactOutputBuffer (output : OffsetBuffer Byte) :
    (compactOutputBuffer output).pending = output.pending := by
  unfold compactOutputBuffer
  split
  · rfl
  split
  · next hall => exact (OffsetBuffer.pending_eq_nil_of_le output hall).symm
  · rfl

/-- Behind compaction nothing consumed is stored. -/
theorem buffer_compactOutputBuffer (output : OffsetBuffer Byte) :
    (compactOutputBuffer output).buffer = output.pending := by
  unfold compactOutputBuffer
  split
  · next hzero => simp [OffsetBuffer.pending, hzero]
  split
  · next hall => exact (OffsetBuffer.pending_eq_nil_of_le output hall).symm
  · rfl

/-- The two outcomes of queueing a message: its frame is appended and fits, or
nothing is pending that was not pending before. -/
structure QueueOutputSpec (c : Connection) (message : Message) (queued : Bool)
    (c' : Connection) : Prop where
  same : SameButOutput c c'
  appended : queued = true → ∃ bytes, encodeMessage message = some bytes ∧
    c.unsent.length + bytes.length ≤ c.limits.maxOutputBuffer ∧ c'.unsent = c.unsent ++ bytes
  refused : queued = false → c'.unsent = c.unsent
  storage : c.outputStorageBytes ≤ c.limits.maxOutputBuffer →
    c'.outputStorageBytes ≤ c.limits.maxOutputBuffer

theorem queueOutput_spec (c : Connection) (message : Message) :
    QueueOutputSpec c message (c.queueOutput message).1 (c.queueOutput message).2 := by
  unfold queueOutput
  split
  · exact ⟨⟨rfl, rfl, rfl, rfl⟩, nofun, fun _ => rfl, fun hle => hle⟩
  next bytes hencode =>
  have hpending : ({ c with output := compactOutputBuffer c.output } : Connection).unsent =
      c.unsent := pending_compactOutputBuffer _
  have hbytes : ({ c with output := compactOutputBuffer c.output } :
      Connection).pendingOutputBytes = c.unsent.length := by
    rw [pendingOutputBytes_eq, hpending]
  have hstorage : (compactOutputBuffer c.output).buffer.length ≤ c.outputStorageBytes := by
    rw [buffer_compactOutputBuffer]
    exact OffsetBuffer.length_pending_le _
  simp only [hbytes]
  split
  · exact ⟨⟨rfl, rfl, rfl, rfl⟩, nofun, fun _ => hpending, Nat.le_trans hstorage⟩
  split
  · exact ⟨⟨rfl, rfl, rfl, rfl⟩, nofun, fun _ => hpending, Nat.le_trans hstorage⟩
  next hfull hfits =>
  have hroom : c.unsent.length + bytes.length ≤ c.limits.maxOutputBuffer := by omega
  split
  · next hempty =>
      have hnothing : c.unsent = [] := List.length_eq_zero_iff.mp hempty
      refine ⟨⟨rfl, rfl, rfl, rfl⟩, fun _ => ⟨bytes, hencode, hroom, ?_⟩, nofun, fun _ => ?_⟩
      · rw [hnothing]
        rfl
      · exact Nat.le_trans (Nat.le_add_left _ _) hroom
  · refine ⟨⟨rfl, rfl, rfl, rfl⟩, fun _ => ⟨bytes, hencode, hroom, ?_⟩, nofun, fun _ => ?_⟩
    · rw [← hpending]
      exact OffsetBuffer.pending_append _ _
    · show ((compactOutputBuffer c.output).buffer ++ bytes).length ≤ _
      rw [buffer_compactOutputBuffer, List.length_append]
      exact hroom

/-! ## Writing -/

/-- What a call of `WriteAvailable` does, seen from any pass of its loop. -/
structure WriteSpec (c : Connection) (out : WriteOutcome) : Prop where
  same : SameButOutput c out.connection
  split : c.unsent = sentBytes out.calls ++ out.connection.unsent
  storage : out.connection.outputStorageBytes ≤ c.outputStorageBytes
  thrown : ∀ error, out.result = .error error →
    ∃ e, .failed e ∈ out.calls.map SendCall.result ∧ e ≠ .eintr ∧ isWouldBlock e = false ∧
      isPeerClosedError e = false
  handled : ∀ result, out.result = .ok result →
    ∀ e, .failed e ∈ out.calls.map SendCall.result →
      e = .eintr ∨ isWouldBlock e = true ∨ isPeerClosedError e = true

/-- The write loop went round behind one more call. -/
theorem WriteSpec.goRound {c after : Connection} {call : SendCall} {out : WriteOutcome}
    (hsame : SameButOutput c after) (hunsent : c.unsent = call.bytes ++ after.unsent)
    (hstorage : after.outputStorageBytes ≤ c.outputStorageBytes)
    (hcall : ∀ e, call.result = .failed e → e = .eintr) (hout : WriteSpec after out) :
    WriteSpec c ⟨out.result, out.connection, call :: out.calls⟩ := by
  refine ⟨⟨hout.same.id.trans hsame.id, hout.same.fd.trans hsame.fd,
    hout.same.limits.trans hsame.limits, hout.same.decoder.trans hsame.decoder⟩, ?_,
    Nat.le_trans hout.storage hstorage, ?_, ?_⟩
  · rw [sentBytes_cons, List.append_assoc, ← hout.split]
    exact hunsent
  · intro error herror
    obtain ⟨e, hmem, he⟩ := hout.thrown error herror
    exact ⟨e, List.mem_cons_of_mem _ hmem, he⟩
  · intro result hok e hmem
    rcases List.mem_cons.mp hmem with hhead | htail
    · exact .inl (hcall e hhead.symm)
    · exact hout.handled result hok e htail

/-- The write loop ended behind a `send` that took nothing. -/
theorem WriteSpec.stop {c : Connection} {call : SendCall}
    {result : Except Exception WriteAvailableResult} (hbytes : call.bytes = [])
    (hthrown : ∀ error, result = .error error → ∃ e, call.result = .failed e ∧ e ≠ .eintr ∧
      isWouldBlock e = false ∧ isPeerClosedError e = false)
    (hhandled : ∀ r, result = .ok r → ∀ e, call.result = .failed e →
      e = .eintr ∨ isWouldBlock e = true ∨ isPeerClosedError e = true) :
    WriteSpec c ⟨result, c, [call]⟩ := by
  refine ⟨⟨rfl, rfl, rfl, rfl⟩, ?_, Nat.le_refl _, ?_, ?_⟩
  · rw [sentBytes_cons, sentBytes_nil, hbytes]
    rfl
  · intro error herror
    obtain ⟨e, he, hrest⟩ := hthrown error herror
    exact ⟨e, List.mem_singleton.mpr he.symm, hrest⟩
  · intro r hok e hmem
    exact hhandled r hok e (List.mem_singleton.mp hmem).symm

/-- With nothing pending the write loop clears its buffer and returns. -/
theorem WriteSpec.finished {c : Connection} {result : WriteAvailableResult}
    (hdone : c.output.buffer.length ≤ c.output.offset) :
    WriteSpec c ⟨.ok result, { c with output := .empty }, []⟩ := by
  refine ⟨⟨rfl, rfl, rfl, rfl⟩, ?_, Nat.zero_le _, nofun, ?_⟩
  · exact OffsetBuffer.pending_eq_nil_of_le _ hdone
  · rintro r _ e hmem
    exact absurd hmem List.not_mem_nil

/-- With its budget used up the write loop returns. -/
theorem WriteSpec.exhausted (c : Connection) (result : WriteAvailableResult) :
    WriteSpec c ⟨.ok result, c, []⟩ := by
  refine ⟨⟨rfl, rfl, rfl, rfl⟩, rfl, Nat.le_refl _, nofun, ?_⟩
  rintro r _ e hmem
  exact absurd hmem List.not_mem_nil

theorem writeLoop_spec (maxWriteBytes : ℕ) (answers : List SendResult) (c : Connection)
    (written : ℕ) : WriteSpec c (writeLoop maxWriteBytes answers c written) := by
  induction answers generalizing c written with
  | nil =>
      rw [writeLoop]
      split
      · split
        · exact .exhausted _ _
        · refine .stop rfl nofun ?_
          rintro r _ e ⟨⟩
          exact .inr (.inl rfl)
      · next hdone => exact .finished (Nat.le_of_not_lt hdone)
  | cons answer answers ih =>
      rw [writeLoop]
      split
      · split
        · exact .exhausted _ _
        cases answer with
        | failed error =>
            simp only
            by_cases hintr : error = .eintr
            · rw [if_pos hintr]
              refine .goRound ⟨rfl, rfl, rfl, rfl⟩ rfl (Nat.le_refl _) ?_ (ih c written)
              rintro e ⟨⟩
              exact hintr
            rw [if_neg hintr]
            by_cases hblock : isWouldBlock error = true
            · rw [if_pos hblock]
              refine .stop rfl nofun ?_
              rintro r _ e ⟨⟩
              exact .inr (.inl hblock)
            rw [if_neg hblock]
            by_cases hclosed : isPeerClosedError error = true
            · rw [if_pos hclosed]
              refine .stop rfl nofun ?_
              rintro r _ e ⟨⟩
              exact .inr (.inr hclosed)
            rw [if_neg hclosed]
            refine .stop rfl ?_ nofun
            rintro e ⟨⟩
            exact ⟨error, rfl, hintr, Bool.eq_false_iff.mpr hblock, Bool.eq_false_iff.mpr hclosed⟩
        | sent count =>
            simp only
            split
            · next hnone =>
                refine .stop ?_ nofun nofun
                simp [SendCall.bytes, hnone]
            · refine .goRound ?_ ?_ ?_ nofun (ih _ _)
              · exact ⟨rfl, rfl, rfl, rfl⟩
              · simp only [SendCall.bytes, unsent, OffsetBuffer.pending_advance, List.take_take]
                rw [Nat.min_eq_left (Nat.min_le_right _ _)]
                exact (List.take_append_drop _ _).symm
              · exact Nat.le_refl _
      · next hdone => exact .finished (Nat.le_of_not_lt hdone)

/-- A write on a connection: pending output moves to the socket from the front. -/
theorem writeAvailable_spec (c : Connection) (maxWriteBytes : ℕ) (answers : List SendResult) :
    WriteSpec c (c.writeAvailable maxWriteBytes answers) :=
  writeLoop_spec _ _ _ _

end Connection

end PulseCore.Network
