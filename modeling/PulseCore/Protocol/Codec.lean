/-
# The binary protocol codec

A frame is a 20-byte big-endian header (magic, version, type, payload size,
request id) and a payload of at most 64 KiB. `encodeMessage` builds one,
`tryDecodeFrame` reads one off the front of a buffer, and `FrameDecoder` does so
on a stream whose bytes arrive in pieces.

The message type is an enumeration with a fixed 16-bit representation, so a
value of it may be any 16-bit number and not only one of the five named ones; the
encoder checks for that and the model keeps the possibility.
-/

import PulseCore.Foundation.Framing
import PulseCore.Foundation.OffsetBuffer

namespace PulseCore.Protocol

open PulseCore.Foundation

abbrev Byte := UInt8

def kMagic : UInt32 := 0x50554C53
def kVersion : UInt16 := 1
def kHeaderSize : ℕ := 20
def kMaxPayloadSize : ℕ := 64 * 1024

/-- `std::numeric_limits<std::size_t>::max()` on a 64-bit target. -/
def kMaxSize : ℕ := UInt64.size - 1

/-- The message type, by its wire representation. -/
structure MessageType where
  raw : UInt16
  deriving DecidableEq

namespace MessageType

def kEchoRequest : MessageType := ⟨1⟩
def kEchoResponse : MessageType := ⟨2⟩
def kWorkRequest : MessageType := ⟨3⟩
def kWorkResponse : MessageType := ⟨4⟩
def kErrorResponse : MessageType := ⟨5⟩

end MessageType

structure Message where
  type : MessageType
  requestId : UInt64
  payload : List Byte
  deriving DecidableEq

inductive ProtocolError
  | kInvalidMagic
  | kUnsupportedVersion
  | kUnknownMessageType
  | kPayloadTooLarge
  | kFrameSizeOverflow
  deriving DecidableEq

/-- The three shapes of result that the source builds with
`DecodeResult::NeedMoreData`, `::Decoded` and `::Error`. -/
abbrev DecodeResult := Verdict Message ProtocolError

def appendU16 (out : List Byte) (value : UInt16) : List Byte :=
  out ++ [((value >>> 8) &&& 0xFF).toUInt8, (value &&& 0xFF).toUInt8]

def appendU32 (out : List Byte) (value : UInt32) : List Byte :=
  out ++ [((value >>> 24) &&& 0xFF).toUInt8, ((value >>> 16) &&& 0xFF).toUInt8,
    ((value >>> 8) &&& 0xFF).toUInt8, (value &&& 0xFF).toUInt8]

def appendU64 (out : List Byte) (value : UInt64) : List Byte :=
  out ++ [((value >>> 56) &&& 0xFF).toUInt8, ((value >>> 48) &&& 0xFF).toUInt8,
    ((value >>> 40) &&& 0xFF).toUInt8, ((value >>> 32) &&& 0xFF).toUInt8,
    ((value >>> 24) &&& 0xFF).toUInt8, ((value >>> 16) &&& 0xFF).toUInt8,
    ((value >>> 8) &&& 0xFF).toUInt8, (value &&& 0xFF).toUInt8]

/-- Indexing into a span. The code only does it below the checked size. -/
def byteAt (bytes : List Byte) (i : ℕ) : Byte := bytes.getD i 0

def readU16 (bytes : List Byte) (offset : ℕ) : UInt16 :=
  ((byteAt bytes offset).toUInt16 <<< 8) ||| (byteAt bytes (offset + 1)).toUInt16

def readU32 (bytes : List Byte) (offset : ℕ) : UInt32 :=
  ((byteAt bytes offset).toUInt32 <<< 24) ||| ((byteAt bytes (offset + 1)).toUInt32 <<< 16) |||
    ((byteAt bytes (offset + 2)).toUInt32 <<< 8) ||| (byteAt bytes (offset + 3)).toUInt32

def readU64 (bytes : List Byte) (offset : ℕ) : UInt64 :=
  ((byteAt bytes offset).toUInt64 <<< 56) ||| ((byteAt bytes (offset + 1)).toUInt64 <<< 48) |||
    ((byteAt bytes (offset + 2)).toUInt64 <<< 40) |||
    ((byteAt bytes (offset + 3)).toUInt64 <<< 32) |||
    ((byteAt bytes (offset + 4)).toUInt64 <<< 24) |||
    ((byteAt bytes (offset + 5)).toUInt64 <<< 16) |||
    ((byteAt bytes (offset + 6)).toUInt64 <<< 8) ||| (byteAt bytes (offset + 7)).toUInt64

def isKnownMessageType (type : UInt16) : Bool :=
  let value : MessageType := ⟨type⟩
  value = .kEchoRequest || value = .kEchoResponse || value = .kWorkRequest ||
    value = .kWorkResponse || value = .kErrorResponse

def toMessageType (type : UInt16) : Option MessageType :=
  if !isKnownMessageType type then none else some ⟨type⟩

def encodeMessage (message : Message) : Option (List Byte) :=
  if message.payload.length > kMaxPayloadSize then none
  else
    let rawType := message.type.raw
    if !isKnownMessageType rawType then none
    else
      let out := appendU32 [] kMagic
      let out := appendU16 out kVersion
      let out := appendU16 out rawType
      let out := appendU32 out (UInt32.ofNat message.payload.length)
      let out := appendU64 out message.requestId
      some (out ++ message.payload)

def tryDecodeFrame (bytes : List Byte) : DecodeResult :=
  if bytes.length < kHeaderSize then .needMoreData
  else if readU32 bytes 0 ≠ kMagic then .error .kInvalidMagic
  else if readU16 bytes 4 ≠ kVersion then .error .kUnsupportedVersion
  else
    match toMessageType (readU16 bytes 6) with
    | none => .error .kUnknownMessageType
    | some messageType =>
        let payloadSize := (readU32 bytes 8).toNat
        if payloadSize > kMaxPayloadSize then .error .kPayloadTooLarge
        else if payloadSize > kMaxSize - kHeaderSize then .error .kFrameSizeOverflow
        else
          let frameSize := kHeaderSize + payloadSize
          if bytes.length < frameSize then .needMoreData
          else
            .decoded
              { type := messageType
                requestId := readU64 bytes 12
                payload := (bytes.drop kHeaderSize).take payloadSize }
              frameSize

/-! ## Verdicts depend on a prefix -/

theorem byteAt_append {bytes : List Byte} {i : ℕ} (hi : i < bytes.length) (more : List Byte) :
    byteAt (bytes ++ more) i = byteAt bytes i := by
  simp only [byteAt, List.getD_eq_getElem?_getD, List.getElem?_append_left hi]

theorem readU16_append {bytes : List Byte} {i : ℕ} (hi : i + 1 < bytes.length)
    (more : List Byte) : readU16 (bytes ++ more) i = readU16 bytes i := by
  simp only [readU16, byteAt_append hi, byteAt_append (Nat.lt_of_succ_lt hi)]

theorem readU32_append {bytes : List Byte} {i : ℕ} (hi : i + 3 < bytes.length)
    (more : List Byte) : readU32 (bytes ++ more) i = readU32 bytes i := by
  simp (disch := omega) only [readU32, byteAt_append]

theorem readU64_append {bytes : List Byte} {i : ℕ} (hi : i + 7 < bytes.length)
    (more : List Byte) : readU64 (bytes ++ more) i = readU64 bytes i := by
  simp (disch := omega) only [readU64, byteAt_append]

/-- Behind a complete header, more input changes no verdict but the one that the
payload is incomplete. -/
theorem tryDecodeFrame_append {bytes : List Byte} (more : List Byte)
    (hverdict : tryDecodeFrame bytes ≠ .needMoreData) :
    tryDecodeFrame (bytes ++ more) = tryDecodeFrame bytes := by
  have hheader : kHeaderSize ≤ bytes.length := by
    by_contra hshort
    exact hverdict (if_pos (Nat.lt_of_not_le hshort))
  have hsize : 20 ≤ bytes.length := hheader
  have hmagic : readU32 (bytes ++ more) 0 = readU32 bytes 0 := readU32_append (by omega) more
  have hversion : readU16 (bytes ++ more) 4 = readU16 bytes 4 := readU16_append (by omega) more
  have htype : readU16 (bytes ++ more) 6 = readU16 bytes 6 := readU16_append (by omega) more
  have hpayload : readU32 (bytes ++ more) 8 = readU32 bytes 8 := readU32_append (by omega) more
  have hid : readU64 (bytes ++ more) 12 = readU64 bytes 12 := readU64_append (by omega) more
  have hdrop : (bytes ++ more).drop kHeaderSize = bytes.drop kHeaderSize ++ more :=
    List.drop_append_of_le_length hheader
  have hlonger : kHeaderSize ≤ (bytes ++ more).length := by
    rw [List.length_append]
    omega
  unfold tryDecodeFrame at hverdict ⊢
  rw [if_neg (Nat.not_lt.mpr hheader)] at hverdict ⊢
  rw [if_neg (Nat.not_lt.mpr hlonger), hmagic, hversion, htype, hpayload, hid, hdrop]
  -- The checks on header fields now agree; only the length check still differs.
  by_cases hbadMagic : readU32 bytes 0 ≠ kMagic
  · rw [if_pos hbadMagic, if_pos hbadMagic]
  rw [if_neg hbadMagic] at hverdict ⊢
  rw [if_neg hbadMagic]
  by_cases hbadVersion : readU16 bytes 4 ≠ kVersion
  · rw [if_pos hbadVersion, if_pos hbadVersion]
  rw [if_neg hbadVersion] at hverdict ⊢
  rw [if_neg hbadVersion]
  cases hmessageType : toMessageType (readU16 bytes 6) with
  | none => rfl
  | some messageType =>
      simp only [hmessageType] at hverdict ⊢
      split
      · rfl
      split
      · rfl
      next hlarge hoverflow =>
      rw [if_neg hlarge, if_neg hoverflow] at hverdict
      have hframe : ¬ bytes.length < kHeaderSize + (readU32 bytes 8).toNat := fun hshort =>
        hverdict (if_pos hshort)
      have hframe' : ¬ (bytes ++ more).length < kHeaderSize + (readU32 bytes 8).toNat := by
        rw [List.length_append]
        omega
      rw [if_neg hframe, if_neg hframe',
        List.take_append_of_le_length (by rw [List.length_drop]; omega)]

/-- Behind a complete header, more input does not make it a bad one. -/
theorem tryDecodeFrame_append_ne_error {bytes : List Byte} (hheader : kHeaderSize ≤ bytes.length)
    (hverdict : tryDecodeFrame bytes = .needMoreData) (more : List Byte) (e : ProtocolError) :
    tryDecodeFrame (bytes ++ more) ≠ .error e := by
  have hsize : 20 ≤ bytes.length := hheader
  have hlonger : kHeaderSize ≤ (bytes ++ more).length := by
    rw [List.length_append]
    omega
  unfold tryDecodeFrame at hverdict ⊢
  rw [if_neg (Nat.not_lt.mpr hheader)] at hverdict
  rw [if_neg (Nat.not_lt.mpr hlonger), readU32_append (by omega), readU16_append (by omega),
    readU16_append (by omega), readU32_append (by omega)]
  split at hverdict
  · cases hverdict
  next hmagic =>
  split at hverdict
  · cases hverdict
  next hversion =>
  split at hverdict
  · cases hverdict
  next messageType htype =>
  rw [if_neg hmagic, if_neg hversion]
  simp only at hverdict ⊢
  split at hverdict
  · cases hverdict
  next hpayload =>
  split at hverdict
  · cases hverdict
  next hoverflow =>
  rw [if_neg hpayload, if_neg hoverflow]
  split <;> simp

/-- What a decoded frame says about the buffer it came from. -/
theorem tryDecodeFrame_decoded {bytes : List Byte} {message : Message} {n : ℕ}
    (hdecode : tryDecodeFrame bytes = .decoded message n) :
    n = kHeaderSize + message.payload.length ∧ n ≤ bytes.length ∧
      message.payload.length ≤ kMaxPayloadSize ∧ isKnownMessageType message.type.raw = true := by
  unfold tryDecodeFrame at hdecode
  split at hdecode
  · cases hdecode
  split at hdecode
  · cases hdecode
  split at hdecode
  · cases hdecode
  split at hdecode
  · cases hdecode
  next messageType htype =>
  simp only at hdecode
  split at hdecode
  · cases hdecode
  next hpayload =>
  split at hdecode
  · cases hdecode
  split at hdecode
  · cases hdecode
  next hframe =>
  cases hdecode
  have hlength : ((bytes.drop kHeaderSize).take (readU32 bytes 8).toNat).length =
      (readU32 bytes 8).toNat := by
    rw [List.length_take, List.length_drop]
    omega
  refine ⟨by rw [hlength], Nat.le_of_not_lt hframe, by rw [hlength]; omega, ?_⟩
  unfold toMessageType at htype
  split at htype
  · cases htype
  · next hknown =>
      cases htype
      simpa using hknown

/-- The codec as a frame format. -/
def frameFormat : FrameFormat Byte Message ProtocolError where
  decode := tryDecodeFrame
  pos_of_decoded hdecode := by
    obtain ⟨hn, -⟩ := tryDecodeFrame_decoded hdecode
    rw [hn]
    exact Nat.add_pos_left (by decide) _
  le_of_decoded hdecode := (tryDecodeFrame_decoded hdecode).2.1
  decoded_append more hdecode := by
    rw [tryDecodeFrame_append more (by rw [hdecode]; nofun), hdecode]
  error_append more hdecode := by
    rw [tryDecodeFrame_append more (by rw [hdecode]; nofun), hdecode]

/-- Encoding succeeds on exactly the messages the protocol allows. -/
theorem encodeMessage_isSome_iff (message : Message) :
    (encodeMessage message).isSome = true ↔
      message.payload.length ≤ kMaxPayloadSize ∧ isKnownMessageType message.type.raw = true := by
  unfold encodeMessage
  split
  · next hlong => simp; omega
  · next hshort =>
      simp only
      split
      · next hunknown => simp at hunknown; simp [hunknown]
      · next hknown => simp at hknown; simp [hknown]; omega

/-- A frame has a header. -/
theorem encodeMessage_ne_nil {message : Message} {bytes : List Byte}
    (hencode : encodeMessage message = some bytes) : bytes ≠ [] := by
  unfold encodeMessage at hencode
  split at hencode
  · cases hencode
  simp only at hencode
  split at hencode
  · cases hencode
  · cases hencode
    simp [appendU64]

/-- The frames of several messages one behind the other, if all can be encoded. -/
def encodeAll : List Message → Option (List Byte)
  | [] => some []
  | message :: messages =>
      match encodeMessage message, encodeAll messages with
      | some bytes, some rest => some (bytes ++ rest)
      | _, _ => none

theorem encodeAll_append {first second : List Message} {bytes rest : List Byte}
    (hfirst : encodeAll first = some bytes) (hsecond : encodeAll second = some rest) :
    encodeAll (first ++ second) = some (bytes ++ rest) := by
  induction first generalizing bytes with
  | nil =>
      cases hfirst
      exact hsecond
  | cons message messages ih =>
      rw [encodeAll] at hfirst
      split at hfirst
      · next frame later hframe hlater =>
          cases hfirst
          rw [List.cons_append, encodeAll, hframe, ih hlater, List.append_assoc]
      · cases hfirst

/-- One more message behind a sequence. -/
theorem encodeAll_append_singleton {messages : List Message} {message : Message}
    {bytes frame : List Byte} (hmessages : encodeAll messages = some bytes)
    (hmessage : encodeMessage message = some frame) :
    encodeAll (messages ++ [message]) = some (bytes ++ frame) := by
  apply encodeAll_append hmessages
  simp only [encodeAll, hmessage, List.append_nil]

/-- Fewer messages give an initial part of the bytes. -/
theorem encodeAll_isPrefix {messages more : List Message} {bytes : List Byte}
    (hpre : messages <+: more) (hmore : encodeAll more = some bytes) :
    ∃ initial, encodeAll messages = some initial ∧ initial <+: bytes := by
  induction messages generalizing more bytes with
  | nil => exact ⟨[], rfl, List.nil_prefix⟩
  | cons message messages ih =>
      obtain ⟨later, rfl⟩ := hpre
      rw [List.cons_append, encodeAll] at hmore
      split at hmore
      · next frame rest hframe hrest =>
          cases hmore
          obtain ⟨initial, hinitial, hle⟩ := ih (List.prefix_append _ _) hrest
          refine ⟨frame ++ initial, ?_, (List.prefix_append_right_inj frame).mpr hle⟩
          rw [encodeAll, hframe, hinitial]
      · cases hmore

/-! ## The incremental decoder -/

/-- `FrameDecoder`: the bytes received so far, and how many of them belong to
frames that were already returned. -/
structure FrameDecoder where
  bytes : OffsetBuffer Byte

namespace FrameDecoder

/-- A decoder that has seen nothing. -/
def empty : FrameDecoder := ⟨.empty⟩

/-- The bytes that are buffered and not part of a returned frame. -/
def pending (d : FrameDecoder) : List Byte := d.bytes.pending

def append (d : FrameDecoder) (bytes : List Byte) : FrameDecoder :=
  ⟨d.bytes.append bytes⟩

def bufferedSize (d : FrameDecoder) : ℕ := d.bytes.buffer.length - d.bytes.offset

def compactIfNeeded (d : FrameDecoder) : FrameDecoder :=
  if d.bytes.offset = 0 then d
  else if d.bytes.offset = d.bytes.buffer.length then ⟨.empty⟩
  else if d.bytes.offset ≥ d.bytes.buffer.length / 2 then ⟨d.bytes.compact⟩
  else d

def next (d : FrameDecoder) : DecodeResult × FrameDecoder :=
  match hdecode : tryDecodeFrame d.pending with
  | .decoded message n =>
      (.decoded message n,
        compactIfNeeded ⟨d.bytes.advance n (tryDecodeFrame_decoded hdecode).2.1⟩)
  | .needMoreData => (.needMoreData, d)
  | .error e => (.error e, d)

@[simp]
theorem pending_empty : empty.pending = [] := rfl

@[simp]
theorem pending_append (d : FrameDecoder) (bytes : List Byte) :
    (d.append bytes).pending = d.pending ++ bytes :=
  OffsetBuffer.pending_append _ _

@[simp]
theorem bufferedSize_eq (d : FrameDecoder) : d.bufferedSize = d.pending.length :=
  (OffsetBuffer.length_pending _).symm

/-- Compaction moves bytes around and changes nothing that is buffered. -/
@[simp]
theorem pending_compactIfNeeded (d : FrameDecoder) :
    d.compactIfNeeded.pending = d.pending := by
  unfold compactIfNeeded
  split
  · rfl
  split
  · next hall => exact (OffsetBuffer.pending_eq_nil_of_le d.bytes (Nat.le_of_eq hall.symm)).symm
  split
  · rfl
  · rfl

/-- The result of `next` is the verdict on the buffered bytes. -/
theorem next_fst (d : FrameDecoder) : d.next.1 = tryDecodeFrame d.pending := by
  unfold next
  split <;> simp_all

/-- A returned frame is passed over, and the storage compacted. -/
theorem next_of_decoded {d : FrameDecoder} {message : Message} {n : ℕ}
    (hdecode : tryDecodeFrame d.pending = .decoded message n) :
    d.next = (.decoded message n,
      compactIfNeeded ⟨d.bytes.advance n (tryDecodeFrame_decoded hdecode).2.1⟩) := by
  unfold next
  split
  · next hmatch =>
      rw [hdecode] at hmatch
      cases hmatch
      rfl
  · next hmatch => rw [hdecode] at hmatch; cases hmatch
  · next hmatch => rw [hdecode] at hmatch; cases hmatch

/-- A returned frame leaves the buffer. -/
theorem pending_next_of_decoded {d : FrameDecoder} {message : Message} {n : ℕ}
    (hdecode : tryDecodeFrame d.pending = .decoded message n) :
    d.next.2.pending = d.pending.drop n := by
  rw [next_of_decoded hdecode, pending_compactIfNeeded]
  exact OffsetBuffer.pending_advance d.bytes n (tryDecodeFrame_decoded hdecode).2.1

/-- Without a frame `next` leaves the decoder alone. -/
theorem next_of_not_decoded {d : FrameDecoder}
    (hdecode : ∀ message n, tryDecodeFrame d.pending ≠ .decoded message n) :
    d.next = (tryDecodeFrame d.pending, d) := by
  refine Prod.ext d.next_fst ?_
  unfold next
  split
  · next hmatch => exact absurd hmatch (hdecode _ _)
  · rfl
  · rfl

theorem next_of_needMoreData {d : FrameDecoder}
    (hdecode : tryDecodeFrame d.pending = .needMoreData) : d.next = (.needMoreData, d) := by
  rw [next_of_not_decoded (by rw [hdecode]; nofun), hdecode]

theorem next_of_error {d : FrameDecoder} {e : ProtocolError}
    (hdecode : tryDecodeFrame d.pending = .error e) : d.next = (.error e, d) := by
  rw [next_of_not_decoded (by rw [hdecode]; nofun), hdecode]

/-- What one call of `next` can do. -/
theorem next_cases (d : FrameDecoder) :
    (tryDecodeFrame d.pending = .needMoreData ∧ d.next = (.needMoreData, d)) ∨
    (∃ e, tryDecodeFrame d.pending = .error e ∧ d.next = (.error e, d)) ∨
    ∃ m n d', tryDecodeFrame d.pending = .decoded m n ∧ d.next = (.decoded m n, d') ∧
      d'.pending = d.pending.drop n := by
  cases hdecode : tryDecodeFrame d.pending with
  | needMoreData => exact .inl ⟨rfl, next_of_needMoreData hdecode⟩
  | error e => exact .inr (.inl ⟨e, rfl, next_of_error hdecode⟩)
  | decoded m n =>
      refine .inr (.inr ⟨m, n, d.next.2, rfl, ?_, pending_next_of_decoded hdecode⟩)
      exact Prod.ext (d.next_fst.trans hdecode) rfl

end FrameDecoder

end PulseCore.Protocol
