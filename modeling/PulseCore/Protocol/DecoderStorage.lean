/-
# What a decoder keeps in storage

A returned frame is not taken out of the storage at once: the read offset moves
past it, and the consumed part is dropped when it has become half of what is
stored. So the storage is either all pending, or less than twice what is pending,
behind every sequence of calls.

`FrameDecoder` has the offset within the storage by its type. The members as the
source declares them are two unrelated values, and taking a subspan or the
difference of sizes is then not always possible; `RawDecoder` has them that way,
and runs through every sequence of calls as `FrameDecoder` does.
-/

import PulseCore.Protocol.Stream

namespace PulseCore.Protocol

open PulseCore.Foundation

/-- `buffer_` and `read_offset_`. -/
structure RawDecoder where
  buffer : List Byte
  readOffset : ℕ
  deriving DecidableEq

namespace RawDecoder

/-- `span::subspan(read_offset_)`, which has to lie within the span. -/
def subspan (d : RawDecoder) : Option (List Byte) :=
  if d.readOffset ≤ d.buffer.length then some (d.buffer.drop d.readOffset) else none

/-- `BufferedSize`; there is no result when the difference would wrap around. -/
def bufferedSize (d : RawDecoder) : Option ℕ :=
  if d.readOffset ≤ d.buffer.length then some (d.buffer.length - d.readOffset) else none

def append (d : RawDecoder) (bytes : List Byte) : RawDecoder :=
  { d with buffer := d.buffer ++ bytes }

/-- `CompactIfNeeded`; erasing needs the consumed part to lie within the buffer. -/
def compactIfNeeded (d : RawDecoder) : Option RawDecoder :=
  if d.readOffset = 0 then some d
  else if d.readOffset = d.buffer.length then some ⟨[], 0⟩
  else if d.readOffset ≥ d.buffer.length / 2 then
    match d.subspan with
    | some rest => some ⟨rest, 0⟩
    | none => none
  else some d

def next (d : RawDecoder) : Option (DecodeResult × RawDecoder) :=
  match d.subspan with
  | none => none
  | some pending =>
      match tryDecodeFrame pending with
      | .decoded message n =>
          match compactIfNeeded { d with readOffset := d.readOffset + n } with
          | some d => some (.decoded message n, d)
          | none => none
      | .needMoreData => some (.needMoreData, d)
      | .error e => some (.error e, d)

/-- The decoder behind some calls with what they returned, unless one of them goes
wrong. -/
def runCalls : RawDecoder → List DecoderCall → Option (RawDecoder × List DecodeResult)
  | d, [] => some (d, [])
  | d, .append bytes :: calls => runCalls (d.append bytes) calls
  | d, .next :: calls =>
      match d.next with
      | none => none
      | some (result, d) =>
          match runCalls d calls with
          | none => none
          | some (d, results) => some (d, result :: results)

end RawDecoder

namespace FrameDecoder

/-- The members of a decoder. -/
def raw (d : FrameDecoder) : RawDecoder := ⟨d.bytes.buffer, d.bytes.offset⟩

theorem subspan_raw (d : FrameDecoder) : d.raw.subspan = some d.pending :=
  if_pos d.bytes.offset_le

theorem bufferedSize_raw (d : FrameDecoder) : d.raw.bufferedSize = some d.bufferedSize :=
  if_pos d.bytes.offset_le

theorem compactIfNeeded_raw (d : FrameDecoder) :
    d.raw.compactIfNeeded = some d.compactIfNeeded.raw := by
  unfold RawDecoder.compactIfNeeded
  by_cases hzero : d.raw.readOffset = 0
  · have hsame : d.compactIfNeeded = d := if_pos hzero
    rw [if_pos hzero, hsame]
  rw [if_neg hzero]
  by_cases hall : d.raw.readOffset = d.raw.buffer.length
  · have hempty : d.compactIfNeeded = ⟨.empty⟩ := (if_neg hzero).trans (if_pos hall)
    rw [if_pos hall, hempty]
    rfl
  rw [if_neg hall]
  by_cases hhalf : d.raw.readOffset ≥ d.raw.buffer.length / 2
  · have hcompact : d.compactIfNeeded = ⟨d.bytes.compact⟩ :=
      (if_neg hzero).trans ((if_neg hall).trans (if_pos hhalf))
    rw [if_pos hhalf, subspan_raw, hcompact]
    rfl
  · have hsame : d.compactIfNeeded = d :=
      (if_neg hzero).trans ((if_neg hall).trans (if_neg hhalf))
    rw [if_neg hhalf, hsame]

theorem next_raw (d : FrameDecoder) : d.raw.next = some (d.next.1, d.next.2.raw) := by
  cases hdecode : tryDecodeFrame d.pending with
  | decoded message n =>
      have hcompact := compactIfNeeded_raw
        ⟨d.bytes.advance n (tryDecodeFrame_decoded hdecode).2.1⟩
      rw [next_of_decoded hdecode, RawDecoder.next, subspan_raw]
      simp only [hdecode]
      exact hcompact ▸ rfl
  | needMoreData =>
      rw [next_of_needMoreData hdecode, RawDecoder.next, subspan_raw]
      simp only [hdecode]
  | error e =>
      rw [next_of_error hdecode, RawDecoder.next, subspan_raw]
      simp only [hdecode]

/-- The members run through every sequence of calls as the decoder does. -/
theorem runCalls_raw (d : FrameDecoder) (calls : List DecoderCall) :
    d.raw.runCalls calls = some ((d.runCalls calls).1.raw, (d.runCalls calls).2) := by
  induction calls generalizing d with
  | nil => rfl
  | cons call calls ih =>
      cases call with
      | append bytes => exact ih (d.append bytes)
      | next => simp only [RawDecoder.runCalls, next_raw, ih, runCalls]

/-- Nothing consumed is stored, or less than half of what is stored. -/
def Compacted (d : FrameDecoder) : Prop :=
  d.bytes.offset = 0 ∨ 2 * d.bytes.offset < d.bytes.buffer.length

theorem compacted_empty : Compacted empty := .inl rfl

/-- The storage grows, the consumed part does not. -/
theorem Compacted.append {d : FrameDecoder} (h : Compacted d) (bytes : List Byte) :
    Compacted (d.append bytes) := by
  refine h.imp id fun hhalf => ?_
  show 2 * d.bytes.offset < (d.bytes.buffer ++ bytes).length
  rw [List.length_append]
  omega

/-- Compaction starts from anything. -/
theorem compacted_compactIfNeeded (d : FrameDecoder) : Compacted d.compactIfNeeded := by
  unfold compactIfNeeded
  split
  · next hzero => exact .inl hzero
  split
  · exact .inl rfl
  split
  · exact .inl rfl
  · next hhalf => exact .inr (by omega)

theorem Compacted.next {d : FrameDecoder} (h : Compacted d) : Compacted d.next.2 := by
  cases hdecode : tryDecodeFrame d.pending with
  | decoded message n =>
      rw [next_of_decoded hdecode]
      exact compacted_compactIfNeeded _
  | needMoreData =>
      rw [next_of_needMoreData hdecode]
      exact h
  | error e =>
      rw [next_of_error hdecode]
      exact h

theorem Compacted.runCalls {d : FrameDecoder} (h : Compacted d) (calls : List DecoderCall) :
    Compacted (d.runCalls calls).1 := by
  induction calls generalizing d with
  | nil => exact h
  | cons call calls ih =>
      cases call with
      | append bytes => exact ih (h.append bytes)
      | next => exact ih h.next

/-- With consumed bytes in it, the storage is less than twice what is pending. -/
theorem Compacted.storage_lt {d : FrameDecoder} (h : Compacted d) (hpos : 0 < d.bytes.offset) :
    d.bytes.buffer.length < 2 * d.bufferedSize := by
  have hle := d.bytes.offset_le
  have hhalf := h.resolve_left (Nat.ne_of_gt hpos)
  rw [bufferedSize]
  omega

theorem Compacted.storage_le {d : FrameDecoder} (h : Compacted d) :
    d.bytes.buffer.length ≤ 2 * d.pending.length := by
  rw [← bufferedSize_eq]
  rcases Nat.eq_zero_or_pos d.bytes.offset with hzero | hpos
  · rw [bufferedSize, hzero]
    omega
  · exact Nat.le_of_lt (h.storage_lt hpos)

end FrameDecoder

end PulseCore.Protocol
