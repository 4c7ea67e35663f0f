/-
# What compaction costs

Erasing the consumed part of a vector moves the rest of it to the front. A
decoder that did so behind every frame would move a long buffer once for each
frame in it. `CompactIfNeeded` waits until at least half of the storage is
consumed, and then a move of one byte is paid for by a byte that was returned
since the last time.

The potential is the read offset. The half is rounded down, so a compaction may
move one byte more than were consumed, and every frame is charged one byte on top
of its size for that.
-/

import PulseCore.Foundation.Potential
import PulseCore.Network.InputStorage

namespace PulseCore.Protocol

open PulseCore.Foundation

namespace FrameDecoder

/-- How many bytes `erase` moves to the front in `CompactIfNeeded`. -/
def compactionMoves (offset size : ℕ) : ℕ :=
  if offset = 0 then 0
  else if offset = size then 0
  else if offset ≥ size / 2 then size - offset
  else 0

/-- How many bytes `Next` moves inside the buffer: it compacts behind a frame only. -/
def nextMoves (d : FrameDecoder) : ℕ :=
  match tryDecodeFrame d.pending with
  | .decoded _ n => compactionMoves (d.bytes.offset + n) d.bytes.buffer.length
  | .needMoreData => 0
  | .error _ => 0

/-- How many bytes a call moves inside the buffer. -/
def callMoves (d : FrameDecoder) : DecoderCall → ℕ
  | .append _ => 0
  | .next => d.nextMoves

/-- The size of a frame that was returned, and one more. -/
def chargeOf : DecodeResult → ℕ
  | .decoded _ n => n + 1
  | .needMoreData => 0
  | .error _ => 0

/-- What a call is charged. -/
def callCharge (d : FrameDecoder) : DecoderCall → ℕ
  | .append _ => 0
  | .next => chargeOf d.next.1

/-- The decoder behind one call. -/
def afterCall (d : FrameDecoder) : DecoderCall → FrameDecoder
  | .append bytes => d.append bytes
  | .next => d.next.2

/-- How many bytes a sequence of calls moves inside the buffer. -/
def moves (d : FrameDecoder) (calls : List DecoderCall) : ℕ := tally afterCall callMoves d calls

/-- A compaction moves at most one byte more than were consumed, and then no consumed
byte is left. -/
theorem compactionMoves_add_offset_le (d : FrameDecoder) :
    compactionMoves d.bytes.offset d.bytes.buffer.length + d.compactIfNeeded.bytes.offset ≤
      d.bytes.offset + 1 := by
  have hle := d.bytes.offset_le
  unfold compactionMoves compactIfNeeded
  by_cases hzero : d.bytes.offset = 0
  · rw [if_pos hzero, if_pos hzero]
    omega
  rw [if_neg hzero, if_neg hzero]
  by_cases hall : d.bytes.offset = d.bytes.buffer.length
  · rw [if_pos hall, if_pos hall]
    exact Nat.zero_le _
  rw [if_neg hall, if_neg hall]
  by_cases hhalf : d.bytes.offset ≥ d.bytes.buffer.length / 2
  · rw [if_pos hhalf, if_pos hhalf]
    show d.bytes.buffer.length - d.bytes.offset + 0 ≤ d.bytes.offset + 1
    omega
  · rw [if_neg hhalf, if_neg hhalf]
    omega

/-- What a call moves is paid for by the read offset and by the frame it returns. -/
theorem callMoves_add_offset_le (d : FrameDecoder) (call : DecoderCall) :
    d.callMoves call + (d.afterCall call).bytes.offset ≤ d.bytes.offset + d.callCharge call := by
  cases call with
  | append bytes =>
      show 0 + d.bytes.offset ≤ d.bytes.offset + 0
      omega
  | next =>
      rw [callMoves, afterCall, callCharge]
      cases hdecode : tryDecodeFrame d.pending with
      | decoded message n =>
          have hcompact := compactionMoves_add_offset_le
            ⟨d.bytes.advance n (tryDecodeFrame_decoded hdecode).2.1⟩
          rw [nextMoves, hdecode, next_of_decoded hdecode]
          exact hcompact
      | needMoreData =>
          rw [nextMoves, hdecode, next_of_needMoreData hdecode, Nat.zero_add]
          exact Nat.le_add_right _ _
      | error e =>
          rw [nextMoves, hdecode, next_of_error hdecode, Nat.zero_add]
          exact Nat.le_add_right _ _

/-- The header alone makes a frame long enough to pay for its extra byte many times. -/
theorem mul_tally_callCharge_le (d : FrameDecoder) (calls : List DecoderCall) :
    kHeaderSize * tally afterCall callCharge d calls ≤
      (kHeaderSize + 1) * Verdict.frameBytes (d.runCalls calls).2 := by
  induction calls generalizing d with
  | nil => exact Nat.le_refl 0
  | cons call calls ih =>
      cases call with
      | append bytes =>
          rw [tally_cons, callCharge, Nat.zero_add]
          exact ih _
      | next =>
          have hrest := ih d.next.2
          rw [tally_cons, callCharge, afterCall, Nat.mul_add]
          simp only [runCalls]
          obtain ⟨-, hnext⟩ | ⟨e, -, hnext⟩ | ⟨m, n, d', hdecode, hnext, -⟩ := d.next_cases
          · rw [hnext] at hrest ⊢
            simpa only [chargeOf, Verdict.frameBytes, Nat.mul_zero, Nat.zero_add] using hrest
          · rw [hnext] at hrest ⊢
            simpa only [chargeOf, Verdict.frameBytes, Nat.mul_zero, Nat.zero_add] using hrest
          · have hsize : kHeaderSize ≤ n := by
              rw [(tryDecodeFrame_decoded hdecode).1]
              exact Nat.le_add_right _ _
            rw [hnext] at hrest ⊢
            simp only [chargeOf, Verdict.frameBytes, Nat.mul_add, Nat.add_mul] at hrest ⊢
            omega

/-- Behind every sequence of calls the bytes moved are in proportion to the bytes
appended. -/
theorem moves_le (d : FrameDecoder) (hstart : d.bytes.offset = 0) (calls : List DecoderCall) :
    kHeaderSize * d.moves calls ≤
      (kHeaderSize + 1) * (d.pending.length + (appendedBytes calls).length) := by
  have hpaid := tally_le_of_potential (fun _ => True) (fun d => d.bytes.offset)
    (fun _ _ _ => trivial) (fun d call _ => callMoves_add_offset_le d call) (s := d) trivial calls
  have hcharge := mul_tally_callCharge_le d calls
  have hbytes := frameBytes_runCalls d calls
  rw [hstart, Nat.zero_add] at hpaid
  calc kHeaderSize * d.moves calls
      ≤ kHeaderSize * tally afterCall callCharge d calls :=
        Nat.mul_le_mul_left _ (Nat.le_trans (Nat.le_add_right _ _) hpaid)
    _ ≤ (kHeaderSize + 1) * Verdict.frameBytes (d.runCalls calls).2 := hcharge
    _ ≤ (kHeaderSize + 1) * (d.pending.length + (appendedBytes calls).length) :=
        Nat.mul_le_mul_left _ (hbytes ▸ Nat.le_add_right _ _)

end FrameDecoder

end PulseCore.Protocol

namespace PulseCore.Network

open PulseCore.Foundation PulseCore.Protocol

namespace Connection

/-- The bytes that some reads receive. -/
def receivedByReads : Connection → List Read → List Byte
  | _, [] => []
  | c, call :: calls =>
      receivedBytes (c.readAvailable call.maxReadBytes call.answers).calls ++
        receivedByReads (c.readAvailable call.maxReadBytes call.answers).connection calls

theorem appendedBytes_drainCalls (fuel : ℕ) (decoder : FrameDecoder) :
    appendedBytes (drainCalls fuel decoder) = [] := by
  rw [appendedBytes, List.flatMap_eq_nil_iff]
  intro call hmem
  rw [mem_drainCalls hmem]
  rfl

theorem appendedBytes_appendCalls (call : RecvCall) :
    appendedBytes (appendCalls call.result) = call.bytes := by
  obtain ⟨length, result⟩ := call
  cases result with
  | received bytes => exact List.append_nil bytes
  | failed error => rfl

/-- What reaches the decoder in the course of a read is what the read receives. -/
theorem appendedBytes_readCalls (maxReadBytes : ℕ) (answers : List RecvResult) (st : ReadState) :
    appendedBytes (readCalls maxReadBytes answers st) =
      receivedBytes (readLoop maxReadBytes answers st).calls := by
  fun_induction readLoop maxReadBytes answers st with
  | case1 answers st before result hbefore =>
      rw [readCalls, hbefore, List.append_nil]
      exact appendedBytes_drainCalls _ _
  | case2 st before n hbefore =>
      rw [readCalls, hbefore, List.append_nil]
      exact appendedBytes_drainCalls _ _
  | case3 st before n hbefore answer answers call after result hafter =>
      have hcalls : readCalls maxReadBytes (answer :: answers) st =
          drainCalls (st.connection.decoder.bufferedSize + 1) st.connection.decoder ++ [] := by
        rw [readCalls, hbefore]
        simp only
        rw [hafter]
      rw [hcalls, List.append_nil, appendedBytes_drainCalls, receivedBytes_cons, receivedBytes_nil,
        List.append_nil]
      exact (bytes_of_afterRecv_some hafter).symm
  | case4 st before n hbefore answer answers call after hafter outcome ih =>
      have hcalls : readCalls maxReadBytes (answer :: answers) st =
          drainCalls (st.connection.decoder.bufferedSize + 1) st.connection.decoder ++
            (appendCalls call.result ++ readCalls maxReadBytes answers after) := by
        rw [readCalls, hbefore]
        simp only
        rw [hafter]
      have happended := appendedBytes_appendCalls call
      have hdrained := appendedBytes_drainCalls (st.connection.decoder.bufferedSize + 1)
        st.connection.decoder
      rw [hcalls, receivedBytes_cons, ← ih, ← happended]
      simp only [appendedBytes, List.flatMap_append] at hdrained ⊢
      rw [hdrained, List.nil_append]

theorem appendedBytes_decoderCalls (c : Connection) (calls : List Read) :
    appendedBytes (decoderCalls c calls) = c.receivedByReads calls := by
  induction calls generalizing c with
  | nil => rfl
  | cons call calls ih =>
      have hfirst := appendedBytes_readCalls call.maxReadBytes call.answers ⟨c, [], false, 0⟩
      rw [decoderCalls, receivedByReads, ← ih, appendedBytes, List.flatMap_append]
      exact congrArg (· ++ _) hfirst

end Connection

/-- Whatever calls are made on a decoder, compaction moves no more than `21 / 20` of
the bytes that were appended; so over any number of reads the bytes that a connection
moves inside its input buffer are in the same proportion to the bytes it received. -/
theorem compaction_cost_linear (id : ConnectionId) (fd : Fd) (limits : ConnectionLimits) :
    (∀ calls : List DecoderCall, kHeaderSize * FrameDecoder.empty.moves calls ≤
      (kHeaderSize + 1) * (appendedBytes calls).length) ∧
    ∀ calls : List Connection.Read,
      kHeaderSize * FrameDecoder.empty.moves
          (Connection.decoderCalls (.create id fd limits) calls) ≤
        (kHeaderSize + 1) * ((Connection.create id fd limits).receivedByReads calls).length := by
  have hmoves : ∀ calls : List DecoderCall, kHeaderSize * FrameDecoder.empty.moves calls ≤
      (kHeaderSize + 1) * (appendedBytes calls).length := by
    intro calls
    have hle := FrameDecoder.empty.moves_le rfl calls
    rwa [FrameDecoder.pending_empty, List.length_nil, Nat.zero_add] at hle
  refine ⟨hmoves, fun calls => ?_⟩
  have hle := hmoves (Connection.decoderCalls (.create id fd limits) calls)
  rwa [Connection.appendedBytes_decoderCalls] at hle

end PulseCore.Network
