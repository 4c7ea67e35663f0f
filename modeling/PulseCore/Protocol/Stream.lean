/-
# A decoder fed in pieces

The bytes of a stream reach a `FrameDecoder` in pieces of any size, and `next`
may be called at any moment between them. What it returns is nevertheless
determined by the stream: it is the reference parse, which inspects the whole
stream from its beginning and advances frame by frame, as far as the bytes that
arrived allow.

Every fact is about a decoder in any state, so that a sequence of calls is dealt
with call by call from its front. The state enters only through the bytes that
are pending; where the decoder keeps them and when it compacts is settled by
`next_cases`.
-/

import PulseCore.Protocol.Codec

namespace PulseCore.Protocol

open PulseCore.Foundation

/-- One use of a decoder. -/
inductive DecoderCall
  | append (bytes : List Byte)
  | next
  deriving DecidableEq

/-- The bytes a call hands over. -/
def DecoderCall.bytes : DecoderCall → List Byte
  | .append bytes => bytes
  | .next => []

/-- The stream a sequence of calls hands over. -/
def appendedBytes (calls : List DecoderCall) : List Byte := calls.flatMap DecoderCall.bytes

namespace FrameDecoder

/-- The decoder behind some calls, and what the calls of `next` among them
returned. -/
def runCalls : FrameDecoder → List DecoderCall → FrameDecoder × List DecodeResult
  | d, [] => (d, [])
  | d, .append bytes :: calls => runCalls (d.append bytes) calls
  | d, .next :: calls =>
      let (result, d) := d.next
      let (d, results) := runCalls d calls
      (d, result :: results)

theorem runCalls_append (d : FrameDecoder) (before after : List DecoderCall) :
    d.runCalls (before ++ after) =
      (((d.runCalls before).1.runCalls after).1,
        (d.runCalls before).2 ++ ((d.runCalls before).1.runCalls after).2) := by
  induction before generalizing d with
  | nil => rfl
  | cons call before ih =>
      cases call with
      | append bytes => exact ih _
      | next => simp only [List.cons_append, runCalls, ih]

theorem appendedBytes_cons_append (bytes : List Byte) (calls : List DecoderCall) :
    appendedBytes (.append bytes :: calls) = bytes ++ appendedBytes calls := rfl

theorem appendedBytes_cons_next (calls : List DecoderCall) :
    appendedBytes (.next :: calls) = appendedBytes calls := rfl

/-- Nothing is lost: what was pending and what arrived is returned or pending. -/
theorem frameBytes_runCalls (d : FrameDecoder) (calls : List DecoderCall) :
    Verdict.frameBytes (d.runCalls calls).2 + (d.runCalls calls).1.pending.length =
      d.pending.length + (appendedBytes calls).length := by
  induction calls generalizing d with
  | nil => simp [runCalls, Verdict.frameBytes, appendedBytes]
  | cons call calls ih =>
      cases call with
      | append bytes =>
          rw [runCalls, ih, pending_append, appendedBytes_cons_append, List.length_append,
            List.length_append, Nat.add_assoc]
      | next =>
          rw [appendedBytes_cons_next]
          obtain ⟨-, hnext⟩ | ⟨e, -, hnext⟩ | ⟨m, n, d', hdecode, hnext, hpending⟩ := d.next_cases
          · simpa only [runCalls, hnext, Verdict.frameBytes] using ih d
          · simpa only [runCalls, hnext, Verdict.frameBytes] using ih d
          · have hle := frameFormat.le_of_decoded hdecode
            have hrest := ih d'
            rw [hpending, List.length_drop] at hrest
            simp only [runCalls, hnext, Verdict.frameBytes]
            omega

/-- A rejected decoder repeats itself and takes nothing more out of its buffer. -/
theorem runCalls_of_error {d : FrameDecoder} {e : ProtocolError}
    (hdecode : tryDecodeFrame d.pending = .error e) (calls : List DecoderCall) :
    (∀ result ∈ (d.runCalls calls).2, result = .error e) ∧
      (d.runCalls calls).1.pending = d.pending ++ appendedBytes calls := by
  induction calls generalizing d with
  | nil => exact ⟨List.forall_mem_nil _, (List.append_nil _).symm⟩
  | cons call calls ih =>
      cases call with
      | append bytes =>
          have hlonger : tryDecodeFrame (d.append bytes).pending = .error e := by
            rw [pending_append]
            exact frameFormat.error_append bytes hdecode
          obtain ⟨hresults, hpending⟩ := ih hlonger
          refine ⟨hresults, ?_⟩
          rw [runCalls, hpending, pending_append, appendedBytes_cons_append, List.append_assoc]
      | next =>
          obtain ⟨hresults, hpending⟩ := ih hdecode
          simp only [runCalls, next_of_error hdecode, appendedBytes_cons_next]
          exact ⟨List.forall_mem_cons.mpr ⟨rfl, hresults⟩, hpending⟩

/-- Once `next` has rejected the stream, the decoder is a rejected one. -/
theorem tryDecodeFrame_of_error_mem {d : FrameDecoder} {calls : List DecoderCall}
    {e : ProtocolError} (hmem : .error e ∈ (d.runCalls calls).2) :
    tryDecodeFrame (d.runCalls calls).1.pending = .error e := by
  induction calls generalizing d with
  | nil => cases hmem
  | cons call calls ih =>
      cases call with
      | append bytes => exact ih hmem
      | next =>
          obtain ⟨-, hnext⟩ | ⟨e', hdecode, hnext⟩ | ⟨m, n, d', -, hnext, -⟩ := d.next_cases
          · simp only [runCalls, hnext, List.mem_cons, reduceCtorEq, false_or] at hmem ⊢
            exact ih hmem
          · obtain ⟨hresults, hpending⟩ := runCalls_of_error hdecode (.next :: calls)
            cases hresults _ hmem
            rw [hpending]
            exact frameFormat.error_append _ hdecode
          · simp only [runCalls, hnext, List.mem_cons, reduceCtorEq, false_or] at hmem ⊢
            exact ih hmem

/-- As long as nothing was rejected, the reference parse goes on behind what was
returned with what is pending. -/
theorem verdicts_of_no_error {d : FrameDecoder} {calls : List DecoderCall}
    (hnone : ∀ e, .error e ∉ (d.runCalls calls).2) :
    frameFormat.verdicts (d.pending ++ appendedBytes calls) =
      Verdict.throughFirstError (d.runCalls calls).2 ++
        frameFormat.verdicts (d.runCalls calls).1.pending := by
  induction calls generalizing d with
  | nil =>
      rw [show appendedBytes [] = [] from rfl, List.append_nil]
      rfl
  | cons call calls ih =>
      cases call with
      | append bytes =>
          rw [appendedBytes_cons_append, ← List.append_assoc, ← pending_append]
          exact ih hnone
      | next =>
          rw [appendedBytes_cons_next]
          obtain ⟨-, hnext⟩ | ⟨e, -, hnext⟩ | ⟨m, n, d', hdecode, hnext, hpending⟩ := d.next_cases
          · simp only [runCalls, hnext, List.mem_cons, reduceCtorEq, false_or] at hnone ⊢
            exact ih hnone
          · simp only [runCalls, hnext] at hnone
            exact absurd List.mem_cons_self (hnone e)
          · simp only [runCalls, hnext, List.mem_cons, reduceCtorEq, false_or] at hnone ⊢
            rw [FrameFormat.verdicts_append_of_decoded hdecode, ← hpending, ih hnone]
            rfl

/-- With a rejection the reference parse is complete. -/
theorem verdicts_of_error_mem {d : FrameDecoder} {calls : List DecoderCall} {e : ProtocolError}
    (hmem : .error e ∈ (d.runCalls calls).2) :
    frameFormat.verdicts (d.pending ++ appendedBytes calls) =
      Verdict.throughFirstError (d.runCalls calls).2 := by
  induction calls generalizing d with
  | nil => cases hmem
  | cons call calls ih =>
      cases call with
      | append bytes =>
          rw [appendedBytes_cons_append, ← List.append_assoc, ← pending_append]
          exact ih hmem
      | next =>
          rw [appendedBytes_cons_next]
          obtain ⟨-, hnext⟩ | ⟨e', hdecode, hnext⟩ | ⟨m, n, d', hdecode, hnext, hpending⟩ :=
            d.next_cases
          · simp only [runCalls, hnext, List.mem_cons, reduceCtorEq, false_or] at hmem ⊢
            exact ih hmem
          · simp only [runCalls, hnext]
            exact FrameFormat.verdicts_of_error (frameFormat.error_append _ hdecode)
          · simp only [runCalls, hnext, List.mem_cons, reduceCtorEq, false_or] at hmem ⊢
            rw [FrameFormat.verdicts_append_of_decoded hdecode, ← hpending, ih hmem]
            rfl

/-- Without new bytes a decoder that asks for more stays as it is. -/
theorem runCalls_of_needMoreData {d : FrameDecoder} {calls : List DecoderCall}
    (hcalls : ∀ call ∈ calls, call = .next) (hdecode : tryDecodeFrame d.pending = .needMoreData) :
    (d.runCalls calls).1 = d := by
  induction calls with
  | nil => rfl
  | cons call calls ih =>
      obtain ⟨rfl, hrest⟩ := List.forall_mem_cons.mp hcalls
      simp only [runCalls, next_of_needMoreData hdecode]
      exact ih hrest

theorem needMoreData_of_mem {d : FrameDecoder} {calls : List DecoderCall}
    (hcalls : ∀ call ∈ calls, call = .next) (hmem : .needMoreData ∈ (d.runCalls calls).2) :
    tryDecodeFrame (d.runCalls calls).1.pending = .needMoreData := by
  induction calls generalizing d with
  | nil => cases hmem
  | cons call calls ih =>
      obtain ⟨rfl, hrest⟩ := List.forall_mem_cons.mp hcalls
      obtain ⟨hdecode, -⟩ | ⟨e, -, hnext⟩ | ⟨m, n, d', -, hnext, -⟩ := d.next_cases
      · rw [runCalls_of_needMoreData hcalls hdecode]
        exact hdecode
      · simp only [runCalls, hnext, List.mem_cons, reduceCtorEq, false_or] at hmem ⊢
        exact ih hrest hmem
      · simp only [runCalls, hnext, List.mem_cons, reduceCtorEq, false_or] at hmem ⊢
        exact ih hrest hmem

/-- What was returned is an initial part of the reference parse. -/
theorem throughFirstError_isPrefix (d : FrameDecoder) (calls : List DecoderCall) :
    Verdict.throughFirstError (d.runCalls calls).2 <+:
      frameFormat.verdicts (d.pending ++ appendedBytes calls) := by
  by_cases hnone : ∀ e, .error e ∉ (d.runCalls calls).2
  · rw [verdicts_of_no_error hnone]
    exact List.prefix_append _ _
  · push Not at hnone
    obtain ⟨e, hmem⟩ := hnone
    exact (verdicts_of_error_mem hmem).symm ▸ List.prefix_rfl

/-- What was returned is all of the reference parse when a call of `next` behind
the last new bytes returned no frame. -/
theorem throughFirstError_eq_verdicts {d : FrameDecoder} {before after : List DecoderCall}
    (hafter : ∀ call ∈ after, call = .next)
    (hend : ∃ result ∈ ((d.runCalls before).1.runCalls after).2,
      result = .needMoreData ∨ ∃ e, result = .error e) :
    Verdict.throughFirstError (d.runCalls (before ++ after)).2 =
      frameFormat.verdicts (d.pending ++ appendedBytes (before ++ after)) := by
  have hresults : (d.runCalls (before ++ after)).2 =
      (d.runCalls before).2 ++ ((d.runCalls before).1.runCalls after).2 := by
    rw [runCalls_append]
  by_cases hnone : ∀ e, .error e ∉ (d.runCalls (before ++ after)).2
  · obtain ⟨result, hmem, rfl | ⟨e, rfl⟩⟩ := hend
    · have hlast := needMoreData_of_mem hafter hmem
      rw [verdicts_of_no_error hnone, runCalls_append, FrameFormat.verdicts_of_needMoreData hlast,
        List.append_nil]
    · rw [hresults] at hnone
      exact absurd (List.mem_append_right _ hmem) (hnone e)
  · push Not at hnone
    obtain ⟨e, hmem⟩ := hnone
    exact (verdicts_of_error_mem hmem).symm

/-- A decoder that is fed a stream in any pieces and asked at any moments returns
the reference parse of the stream, as far as it got; it buffers exactly the bytes
that it has not returned; and a rejection is final. -/
theorem fragmentation_independent (calls : List DecoderCall) :
    (Verdict.throughFirstError (empty.runCalls calls).2 <+:
      frameFormat.verdicts (appendedBytes calls)) ∧
    (∀ before after, calls = before ++ after → (∀ call ∈ after, call = .next) →
      (∃ result ∈ ((empty.runCalls before).1.runCalls after).2,
        result = .needMoreData ∨ ∃ e, result = .error e) →
      Verdict.throughFirstError (empty.runCalls calls).2 =
        frameFormat.verdicts (appendedBytes calls)) ∧
    (Verdict.frameBytes (empty.runCalls calls).2 ≤ (appendedBytes calls).length ∧
      (empty.runCalls calls).1.bufferedSize =
        (appendedBytes calls).length - Verdict.frameBytes (empty.runCalls calls).2) ∧
    (∀ before after e, calls = before ++ after → .error e ∈ (empty.runCalls before).2 →
      (∀ result ∈ ((empty.runCalls before).1.runCalls after).2, result = .error e) ∧
      (empty.runCalls calls).1.pending =
        (empty.runCalls before).1.pending ++ appendedBytes after) := by
  refine ⟨throughFirstError_isPrefix empty calls, ?_, ?_, ?_⟩
  · intro before after hcalls hafter hend
    rw [hcalls]
    exact throughFirstError_eq_verdicts hafter hend
  · have hkept := frameBytes_runCalls empty calls
    rw [pending_empty, List.length_nil, Nat.zero_add] at hkept
    rw [bufferedSize_eq]
    omega
  · intro before after e hcalls hmem
    obtain ⟨hresults, hpending⟩ := runCalls_of_error (tryDecodeFrame_of_error_mem hmem) after
    refine ⟨hresults, ?_⟩
    rw [hcalls, runCalls_append]
    exact hpending

end FrameDecoder

end PulseCore.Protocol
