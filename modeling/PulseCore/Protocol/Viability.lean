/-
# When the decoder gives up

The decoder looks at a frame only when its header is complete. From then on it knows
everything it will ever know: it rejects the stream exactly when nothing that may still
arrive could make it a sequence of frames, and otherwise it waits for a number of bytes
that the header fixes, whatever these bytes are. A stream that is beyond help can hide
in front of a complete header, but no longer than that.
-/

import PulseCore.Protocol.RoundTrip
import PulseCore.Protocol.Stream

namespace PulseCore.Protocol

open PulseCore.Foundation

/-- The stream consists of complete frames. -/
def Encoded (stream : List Byte) : Prop := ∃ messages, encodeAll messages = some stream

/-- More input can make the stream a sequence of complete frames. -/
def Viable (stream : List Byte) : Prop := ∃ more, Encoded (stream ++ more)

variable {stream rest bytes : List Byte} {messages : List Message}

/-- Behind a complete header that is not rejected, the number of bytes that are missing is
known, and it does not matter what they are. -/
theorem exists_missing (hheader : kHeaderSize ≤ bytes.length)
    (hverdict : tryDecodeFrame bytes = .needMoreData) :
    ∃ missing, 0 < missing ∧ bytes.length + missing ≤ kHeaderSize + kMaxPayloadSize ∧
      ∀ more : List Byte,
        (more.length < missing → tryDecodeFrame (bytes ++ more) = .needMoreData) ∧
        (more.length = missing →
          ∃ message, tryDecodeFrame (bytes ++ more) = .decoded message (bytes ++ more).length) := by
  have hsize : 20 ≤ bytes.length := hheader
  unfold tryDecodeFrame at hverdict
  rw [if_neg (Nat.not_lt.mpr hheader)] at hverdict
  split at hverdict
  · cases hverdict
  next hmagic =>
  split at hverdict
  · cases hverdict
  next hversion =>
  split at hverdict
  · cases hverdict
  next messageType htype =>
  simp only at hverdict
  split at hverdict
  · cases hverdict
  next hpayload =>
  split at hverdict
  · cases hverdict
  next hoverflow =>
  split at hverdict
  · next hshort =>
      refine ⟨kHeaderSize + (readU32 bytes 8).toNat - bytes.length, by omega, by omega, ?_⟩
      intro more
      have hlonger : ¬ (bytes ++ more).length < kHeaderSize := by
        rw [List.length_append]
        omega
      -- The checks of the header come out as before; only the length is another one.
      unfold tryDecodeFrame
      rw [if_neg hlonger, readU32_append (by omega), readU16_append (by omega),
        readU16_append (by omega), readU32_append (by omega), if_neg hmagic, if_neg hversion,
        htype]
      simp only [if_neg hpayload, if_neg hoverflow]
      rw [List.length_append]
      constructor
      · intro hmore
        exact if_pos (by omega)
      · intro hmore
        rw [if_neg (by omega)]
        have hframe : bytes.length + more.length = kHeaderSize + (readU32 bytes 8).toNat := by
          omega
        rw [hframe]
        exact ⟨_, rfl⟩
  · cases hverdict

/-- A stream that is one frame. -/
theorem encoded_of_decoded {message : Message}
    (hdecode : tryDecodeFrame bytes = .decoded message bytes.length) : Encoded bytes := by
  refine ⟨[message], ?_⟩
  rw [encodeAll, encodeMessage_decoded hdecode, List.take_length]
  simp only [encodeAll, List.append_nil]

/-- A sequence of frames that is not empty starts with one. -/
theorem Encoded.exists_decoded (h : Encoded stream) (hsome : stream ≠ []) :
    ∃ message n, tryDecodeFrame stream = .decoded message n := by
  obtain ⟨messages, hencode⟩ := h
  have hsplits := splits_encodeAll hencode []
  rw [List.append_nil] at hsplits
  cases hsplits with
  | nil => exact absurd rfl hsome
  | cons hdecode _ => exact ⟨_, _, hdecode⟩

/-- Frames that were read off do not matter. -/
theorem encoded_append_iff (hsplits : frameFormat.Splits stream messages rest)
    (more : List Byte) : Encoded (stream ++ more) ↔ Encoded (rest ++ more) := by
  constructor
  · rintro ⟨all, hencode⟩
    obtain ⟨remaining, -, hremaining⟩ := encodeAll_remaining hencode hsplits
    exact ⟨remaining, hremaining⟩
  · rintro ⟨remaining, hremaining⟩
    obtain ⟨front, hfront, rfl⟩ := encodeAll_splits hsplits
    rw [List.append_assoc]
    exact ⟨messages ++ remaining, encodeAll_append hfront hremaining⟩

/-- A rejected buffer is beyond help. -/
theorem not_viable_of_error {e : ProtocolError} (hdecode : tryDecodeFrame rest = .error e) :
    ¬ Viable rest := by
  rintro ⟨more, hencoded⟩
  have herror : tryDecodeFrame (rest ++ more) = .error e := frameFormat.error_append more hdecode
  have hsome : rest ++ more ≠ [] := by
    intro hnil
    rw [hnil] at herror
    cases herror
  obtain ⟨message, n, hdecoded⟩ := hencoded.exists_decoded hsome
  rw [herror] at hdecoded
  cases hdecoded

/-- A buffer that waits behind a complete header is a sequence of frames as soon as the
missing bytes are there, and not before. -/
theorem exists_completion (hheader : kHeaderSize ≤ rest.length)
    (hverdict : tryDecodeFrame rest = .needMoreData) :
    ∃ missing, 0 < missing ∧ rest.length + missing ≤ kHeaderSize + kMaxPayloadSize ∧
      ∀ more, more.length ≤ missing → (Encoded (rest ++ more) ↔ more.length = missing) := by
  obtain ⟨missing, hpos, hle, hmissing⟩ := exists_missing hheader hverdict
  refine ⟨missing, hpos, hle, ?_⟩
  intro more hmore
  obtain ⟨hwaits, hcompletes⟩ := hmissing more
  constructor
  · intro hencoded
    by_contra hne
    have hsome : rest ++ more ≠ [] := by
      intro hnil
      rw [(List.append_eq_nil_iff.mp hnil).1] at hheader
      cases hheader
    obtain ⟨message, n, hdecoded⟩ := hencoded.exists_decoded hsome
    rw [hwaits (Nat.lt_of_le_of_ne hmore hne)] at hdecoded
    cases hdecoded
  · intro hlength
    obtain ⟨message, hdecoded⟩ := hcompletes hlength
    exact encoded_of_decoded hdecoded

namespace FrameDecoder

/-- What was returned and what is pending are the stream. -/
theorem splits_runCalls (d : FrameDecoder) (calls : List DecoderCall) :
    ∃ messages, frameFormat.Splits (d.pending ++ appendedBytes calls) messages
      (d.runCalls calls).1.pending := by
  induction calls generalizing d with
  | nil =>
      rw [show appendedBytes [] = [] from rfl, List.append_nil]
      exact ⟨[], .nil _⟩
  | cons call calls ih =>
      cases call with
      | append bytes =>
          obtain ⟨messages, hsplits⟩ := ih (d.append bytes)
          rw [pending_append, List.append_assoc] at hsplits
          exact ⟨messages, hsplits⟩
      | next =>
          rw [appendedBytes_cons_next]
          obtain ⟨-, hnext⟩ | ⟨e, -, hnext⟩ | ⟨m, n, d', hdecode, hnext, hpending⟩ := d.next_cases
          · simp only [runCalls, hnext]
            exact ih d
          · simp only [runCalls, hnext]
            exact ih d
          · obtain ⟨messages, hsplits⟩ := ih d'
            have hfirst : frameFormat.Splits d.pending [m] d'.pending := by
              rw [hpending]
              exact .single hdecode
            simp only [runCalls, hnext]
            exact ⟨[m] ++ messages, hfirst.extend hsplits⟩

/-- Give a decoder any stream in any pieces, and ask it for frames at any time. Once it has
returned an error, or would now, nothing that may still arrive makes the stream a sequence
of frames. When it has no frame to return and as much as a header, it returns an error in
that case only; otherwise the stream will be a sequence of frames after so many more bytes,
whatever they are, and not before. -/
theorem rejects_iff_not_viable (calls : List DecoderCall) :
    (∀ e, .error e ∈ (empty.runCalls calls).2 → ¬ Viable (appendedBytes calls)) ∧
    ((∀ message n, (empty.runCalls calls).1.next.1 ≠ .decoded message n) →
      ((∃ e, (empty.runCalls calls).1.next.1 = .error e) ↔
        kHeaderSize ≤ (empty.runCalls calls).1.bufferedSize ∧
          ¬ Viable (appendedBytes calls))) ∧
    ((empty.runCalls calls).1.next.1 = .needMoreData →
      kHeaderSize ≤ (empty.runCalls calls).1.bufferedSize →
        ∃ missing, 0 < missing ∧
          (empty.runCalls calls).1.bufferedSize + missing ≤ kHeaderSize + kMaxPayloadSize ∧
          ∀ more, more.length ≤ missing →
            (Encoded (appendedBytes calls ++ more) ↔ more.length = missing)) := by
  obtain ⟨messages, hsplits⟩ := empty.splits_runCalls calls
  rw [pending_empty, List.nil_append] at hsplits
  have hviable : Viable (appendedBytes calls) ↔ Viable (empty.runCalls calls).1.pending :=
    exists_congr fun more => encoded_append_iff hsplits more
  have hcompletion : tryDecodeFrame (empty.runCalls calls).1.pending = .needMoreData →
      kHeaderSize ≤ (empty.runCalls calls).1.pending.length →
        ∃ missing, 0 < missing ∧
          (empty.runCalls calls).1.pending.length + missing ≤ kHeaderSize + kMaxPayloadSize ∧
          ∀ more, more.length ≤ missing →
            (Encoded (appendedBytes calls ++ more) ↔ more.length = missing) := by
    intro hverdict hheader
    obtain ⟨missing, hpos, hle, hmissing⟩ := exists_completion hheader hverdict
    refine ⟨missing, hpos, hle, ?_⟩
    intro more hmore
    rw [encoded_append_iff hsplits]
    exact hmissing more hmore
  rw [next_fst, bufferedSize_eq, hviable]
  refine ⟨?_, ?_, hcompletion⟩
  · intro e hmem
    exact not_viable_of_error (tryDecodeFrame_of_error_mem hmem)
  · intro hnone
    constructor
    · rintro ⟨e, hdecode⟩
      refine ⟨?_, not_viable_of_error hdecode⟩
      by_contra hshort
      rw [tryDecodeFrame, if_pos (Nat.lt_of_not_le hshort)] at hdecode
      cases hdecode
    · rintro ⟨hheader, hhopeless⟩
      cases hdecode : tryDecodeFrame (empty.runCalls calls).1.pending with
      | error e => exact ⟨e, rfl⟩
      | decoded message n => exact absurd hdecode (hnone message n)
      | needMoreData =>
          obtain ⟨missing, -, -, hmissing⟩ := hcompletion hdecode hheader
          have hencoded := (hmissing (List.replicate missing 0) (by simp)).mpr (by simp)
          exact absurd (hviable.mp ⟨_, hencoded⟩) hhopeless

end FrameDecoder

end PulseCore.Protocol
