/-
# Encoding and decoding are inverse

The header fields are big-endian numbers that both sides put together by hand.
Field by field, what is written is the digits of a value and what is read is the
value of the bytes; so a frame that was encoded decodes to its message, whatever
follows it, and a frame that decodes is the encoding of its message.
-/

import PulseCore.Foundation.BigEndian
import PulseCore.Protocol.Codec

namespace PulseCore.Protocol

open PulseCore.Foundation

/-- The `count` bytes at an offset. -/
def field (bytes : List Byte) (offset count : ℕ) : List Byte := (bytes.drop offset).take count

theorem toUInt8_mask_u16 (value : UInt16) :
    (value &&& 0xFF).toUInt8 = UInt8.ofNat value.toNat := by
  apply UInt8.toNat_inj.mp
  simp [BigEndian.and_mask]

theorem toUInt8_mask_u32 (value : UInt32) :
    (value &&& 0xFF).toUInt8 = UInt8.ofNat value.toNat := by
  apply UInt8.toNat_inj.mp
  simp [BigEndian.and_mask]

theorem toUInt8_mask_u64 (value : UInt64) :
    (value &&& 0xFF).toUInt8 = UInt8.ofNat value.toNat := by
  apply UInt8.toNat_inj.mp
  simp [BigEndian.and_mask]

theorem appendU16_eq (out : List Byte) (value : UInt16) :
    appendU16 out value = out ++ BigEndian.digits 2 value.toNat := by
  simp only [appendU16, toUInt8_mask_u16, UInt16.toNat_shiftRight, Nat.shiftRight_eq_div_pow]
  rfl

theorem appendU32_eq (out : List Byte) (value : UInt32) :
    appendU32 out value = out ++ BigEndian.digits 4 value.toNat := by
  simp only [appendU32, toUInt8_mask_u32, UInt32.toNat_shiftRight, Nat.shiftRight_eq_div_pow,
    BigEndian.digits, Nat.div_div_eq_div_mul]
  rfl

theorem appendU64_eq (out : List Byte) (value : UInt64) :
    appendU64 out value = out ++ BigEndian.digits 8 value.toNat := by
  simp only [appendU64, toUInt8_mask_u64, UInt64.toNat_shiftRight, Nat.shiftRight_eq_div_pow,
    BigEndian.digits, Nat.div_div_eq_div_mul]
  rfl

/-- A field, byte by byte. -/
theorem value_field_succ (bytes : List Byte) (offset count : ℕ)
    (hend : offset + count < bytes.length) :
    BigEndian.value (field bytes offset (count + 1)) =
      256 * BigEndian.value (field bytes offset count) + (byteAt bytes (offset + count)).toNat := by
  have hlast : field bytes offset (count + 1) =
      field bytes offset count ++ [byteAt bytes (offset + count)] := by
    rw [field, List.take_add_one, List.getElem?_drop, byteAt, List.getD_eq_getElem?_getD,
      List.getElem?_eq_getElem hend]
    rfl
  rw [hlast, BigEndian.value_append_singleton]

@[simp]
theorem value_field_zero (bytes : List Byte) (offset : ℕ) :
    BigEndian.value (field bytes offset 0) = 0 := rfl

theorem toNat_readU16 {bytes : List Byte} {offset : ℕ} (hend : offset + 2 ≤ bytes.length) :
    (readU16 bytes offset).toNat = BigEndian.value (field bytes offset 2) := by
  have hlow := fun i => (byteAt bytes i).toNat_lt
  simp (disch := omega) only [value_field_succ, value_field_zero, Nat.mul_zero, Nat.zero_add,
    Nat.add_zero]
  simp only [readU16, UInt16.toNat_or, UInt16.toNat_shiftLeft, UInt8.toNat_toUInt16,
    UInt16.reduceToNat, Nat.reduceMod]
  simp (disch := first | exact hlow _ | decide) only [BigEndian.shift_mod]
  exact BigEndian.or_digit _ (hlow _)

theorem toNat_readU32 {bytes : List Byte} {offset : ℕ} (hend : offset + 4 ≤ bytes.length) :
    (readU32 bytes offset).toNat = BigEndian.value (field bytes offset 4) := by
  have hlow := fun i => (byteAt bytes i).toNat_lt
  simp (disch := omega) only [value_field_succ, value_field_zero, Nat.mul_zero, Nat.zero_add,
    Nat.add_zero]
  simp only [readU32, UInt32.toNat_or, UInt32.toNat_shiftLeft, UInt8.toNat_toUInt32,
    UInt32.reduceToNat, Nat.reduceMod]
  simp (disch := first | exact hlow _ | decide) only [BigEndian.shift_mod]
  rw [BigEndian.shift_or _ (hlow _) 16, BigEndian.shift_or _ (hlow _) 8]
  exact BigEndian.or_digit _ (hlow _)

theorem toNat_readU64 {bytes : List Byte} {offset : ℕ} (hend : offset + 8 ≤ bytes.length) :
    (readU64 bytes offset).toNat = BigEndian.value (field bytes offset 8) := by
  have hlow := fun i => (byteAt bytes i).toNat_lt
  simp (disch := omega) only [value_field_succ, value_field_zero, Nat.mul_zero, Nat.zero_add,
    Nat.add_zero]
  simp only [readU64, UInt64.toNat_or, UInt64.toNat_shiftLeft, UInt8.toNat_toUInt64,
    UInt64.reduceToNat, Nat.reduceMod]
  simp (disch := first | exact hlow _ | decide) only [BigEndian.shift_mod]
  rw [BigEndian.shift_or _ (hlow _) 48, BigEndian.shift_or _ (hlow _) 40,
    BigEndian.shift_or _ (hlow _) 32, BigEndian.shift_or _ (hlow _) 24,
    BigEndian.shift_or _ (hlow _) 16, BigEndian.shift_or _ (hlow _) 8]
  exact BigEndian.or_digit _ (hlow _)

/-- A field is the digits of its value. -/
theorem digits_field {bytes : List Byte} {offset count : ℕ}
    (hend : offset + count ≤ bytes.length) :
    BigEndian.digits count (BigEndian.value (field bytes offset count)) =
      field bytes offset count := by
  have hlength : (field bytes offset count).length = count := by
    rw [field, List.length_take, List.length_drop]
    omega
  have hdigits := BigEndian.digits_value (field bytes offset count)
  rwa [hlength] at hdigits

/-- The first field of a buffer. -/
theorem field_append_first {first rest : List Byte} {count : ℕ} (hlength : first.length = count) :
    field (first ++ rest) 0 count = first := by
  rw [← hlength]
  exact List.take_left

/-- A field behind the first one. -/
theorem field_append_behind {first rest : List Byte} {start : ℕ} (hlength : first.length = start)
    (offset count : ℕ) : field (first ++ rest) (start + offset) count = field rest offset count := by
  rw [← hlength, field, List.drop_append, List.drop_eq_nil_of_le (Nat.le_add_right _ _),
    List.nil_append, Nat.add_sub_cancel_left]
  rfl

/-- The bytes up to the end of a field. -/
theorem take_append_field (bytes : List Byte) (offset count : ℕ) :
    bytes.take offset ++ field bytes offset count = bytes.take (offset + count) :=
  List.take_add.symm

/-! ## Frames -/

/-- The header of a message. -/
def header (message : Message) : List Byte :=
  BigEndian.digits 4 kMagic.toNat ++ BigEndian.digits 2 kVersion.toNat ++
    BigEndian.digits 2 message.type.raw.toNat ++ BigEndian.digits 4 message.payload.length ++
    BigEndian.digits 8 message.requestId.toNat

@[simp]
theorem length_header (message : Message) : (header message).length = kHeaderSize := by
  simp only [header, List.length_append, BigEndian.length_digits]
  rfl

/-- What the protocol allows a message to be. -/
def Message.Valid (message : Message) : Prop :=
  message.payload.length ≤ kMaxPayloadSize ∧ isKnownMessageType message.type.raw = true

/-- A valid message becomes its header and its payload. -/
theorem encodeMessage_of_valid {message : Message} (hvalid : message.Valid) :
    encodeMessage message = some (header message ++ message.payload) := by
  have hsize : (UInt32.ofNat message.payload.length).toNat = message.payload.length := by
    apply UInt32.toNat_ofNat_of_lt'
    exact Nat.lt_of_le_of_lt hvalid.1 (by decide)
  rw [encodeMessage, if_neg (Nat.not_lt.mpr hvalid.1)]
  simp only [hvalid.2, appendU16_eq, appendU32_eq, appendU64_eq, hsize, List.nil_append]
  rfl

theorem valid_of_encodeMessage {message : Message} {bytes : List Byte}
    (hencode : encodeMessage message = some bytes) : message.Valid :=
  (encodeMessage_isSome_iff message).mp (by rw [hencode]; rfl)

/-- A frame is a header and a payload. -/
theorem length_encodeMessage {message : Message} {bytes : List Byte}
    (hencode : encodeMessage message = some bytes) :
    bytes.length = kHeaderSize + message.payload.length := by
  rw [encodeMessage_of_valid (valid_of_encodeMessage hencode)] at hencode
  cases hencode
  rw [List.length_append, length_header]

/-- A buffer that starts with a frame: the header has the fields of the message, and
the payload is there. -/
structure Framed (bytes : List Byte) (message : Message) : Prop where
  magic : readU32 bytes 0 = kMagic
  version : readU16 bytes 4 = kVersion
  type : readU16 bytes 6 = message.type.raw
  size : (readU32 bytes 8).toNat = message.payload.length
  requestId : readU64 bytes 12 = message.requestId
  complete : kHeaderSize + message.payload.length ≤ bytes.length
  payload : field bytes kHeaderSize message.payload.length = message.payload

theorem framed_of_decoded {bytes : List Byte} {message : Message} {n : ℕ}
    (hdecode : tryDecodeFrame bytes = .decoded message n) : Framed bytes message := by
  obtain ⟨hn, hle, -⟩ := tryDecodeFrame_decoded hdecode
  unfold tryDecodeFrame at hdecode
  split at hdecode
  · cases hdecode
  split at hdecode
  · cases hdecode
  next hmagic =>
  split at hdecode
  · cases hdecode
  next hversion =>
  split at hdecode
  · cases hdecode
  next messageType htype =>
  have hraw : readU16 bytes 6 = messageType.raw := by
    unfold toMessageType at htype
    split at htype
    · cases htype
    · cases htype
      rfl
  simp only at hdecode
  split at hdecode
  · cases hdecode
  split at hdecode
  · cases hdecode
  split at hdecode
  · cases hdecode
  next hframe =>
  cases hdecode
  have hsize : (readU32 bytes 8).toNat =
      ((bytes.drop kHeaderSize).take (readU32 bytes 8).toNat).length := by
    simp only at hn
    omega
  refine ⟨not_not.mp hmagic, not_not.mp hversion, hraw, hsize, rfl, ?_, ?_⟩
  · rw [← hn]
    exact hle
  · rw [← hsize]
    rfl

/-- The decoder reads the frames of valid messages. -/
theorem tryDecodeFrame_eq_decoded_iff {bytes : List Byte} {message : Message} {n : ℕ} :
    tryDecodeFrame bytes = .decoded message n ↔
      message.Valid ∧ Framed bytes message ∧ n = kHeaderSize + message.payload.length := by
  constructor
  · intro hdecode
    obtain ⟨hn, -, hvalid⟩ := tryDecodeFrame_decoded hdecode
    exact ⟨hvalid, framed_of_decoded hdecode, hn⟩
  · rintro ⟨⟨hpayload, hknown⟩, hframed, rfl⟩
    have hcomplete := hframed.complete
    have htype : toMessageType message.type.raw = some message.type := by
      rw [toMessageType, hknown]
      rfl
    have hfits : kMaxPayloadSize ≤ kMaxSize - kHeaderSize := by decide
    rw [tryDecodeFrame, if_neg (by omega), if_neg (not_not.mpr hframed.magic),
      if_neg (not_not.mpr hframed.version), hframed.type, htype]
    simp only [hframed.size]
    rw [if_neg (Nat.not_lt.mpr hpayload), if_neg (by omega), if_neg (Nat.not_lt.mpr hcomplete),
      hframed.requestId]
    rw [show (bytes.drop kHeaderSize).take message.payload.length = message.payload from
      hframed.payload]

theorem readU16_eq_of_field {bytes : List Byte} {offset : ℕ} {value : UInt16}
    (hend : offset + 2 ≤ bytes.length)
    (hfield : field bytes offset 2 = BigEndian.digits 2 value.toNat) :
    readU16 bytes offset = value := by
  apply UInt16.toNat_inj.mp
  rw [toNat_readU16 hend, hfield, BigEndian.value_digits value.toNat_lt]

theorem readU32_eq_of_field {bytes : List Byte} {offset : ℕ} {value : UInt32}
    (hend : offset + 4 ≤ bytes.length)
    (hfield : field bytes offset 4 = BigEndian.digits 4 value.toNat) :
    readU32 bytes offset = value := by
  apply UInt32.toNat_inj.mp
  rw [toNat_readU32 hend, hfield, BigEndian.value_digits value.toNat_lt]

theorem readU64_eq_of_field {bytes : List Byte} {offset : ℕ} {value : UInt64}
    (hend : offset + 8 ≤ bytes.length)
    (hfield : field bytes offset 8 = BigEndian.digits 8 value.toNat) :
    readU64 bytes offset = value := by
  apply UInt64.toNat_inj.mp
  rw [toNat_readU64 hend, hfield, BigEndian.value_digits value.toNat_lt]

/-- The fields of a header, with anything behind it. -/
theorem header_fields (message : Message) (rest : List Byte) :
    field (header message ++ rest) 0 4 = BigEndian.digits 4 kMagic.toNat ∧
    field (header message ++ rest) 4 2 = BigEndian.digits 2 kVersion.toNat ∧
    field (header message ++ rest) 6 2 = BigEndian.digits 2 message.type.raw.toNat ∧
    field (header message ++ rest) 8 4 = BigEndian.digits 4 message.payload.length ∧
    field (header message ++ rest) 12 8 = BigEndian.digits 8 message.requestId.toNat := by
  have hlength := BigEndian.length_digits
  simp only [header, List.append_assoc]
  refine ⟨field_append_first (hlength _ _), ?_, ?_, ?_, ?_⟩
  · rw [field_append_behind (hlength 4 _) 0]
    exact field_append_first (hlength _ _)
  · rw [field_append_behind (hlength 4 _) 2, field_append_behind (hlength 2 _) 0]
    exact field_append_first (hlength _ _)
  · rw [field_append_behind (hlength 4 _) 4, field_append_behind (hlength 2 _) 2,
      field_append_behind (hlength 2 _) 0]
    exact field_append_first (hlength _ _)
  · rw [field_append_behind (hlength 4 _) 8, field_append_behind (hlength 2 _) 6,
      field_append_behind (hlength 2 _) 4, field_append_behind (hlength 4 _) 0]
    exact field_append_first (hlength _ _)

/-- A frame that was encoded, with anything behind it. -/
theorem framed_encoded {message : Message} (hvalid : message.Valid) (rest : List Byte) :
    Framed (header message ++ message.payload ++ rest) message := by
  have hpayload : message.payload.length < 256 ^ 4 := Nat.lt_of_le_of_lt hvalid.1 (by decide)
  have hsize : (header message ++ (message.payload ++ rest)).length =
      20 + (message.payload.length + rest.length) := by
    rw [List.length_append, length_header, List.length_append]
    rfl
  obtain ⟨hmagic, hversion, htype, hlength, hid⟩ :=
    header_fields message (message.payload ++ rest)
  rw [List.append_assoc]
  refine ⟨readU32_eq_of_field (by omega) hmagic, readU16_eq_of_field (by omega) hversion,
    readU16_eq_of_field (by omega) htype, ?_, readU64_eq_of_field (by omega) hid, ?_, ?_⟩
  · rw [toNat_readU32 (by omega), hlength, BigEndian.value_digits hpayload]
  · rw [hsize]
    show 20 + _ ≤ _
    omega
  · rw [← Nat.add_zero kHeaderSize, field_append_behind (length_header message)]
    exact field_append_first rfl

/-- A buffer that starts with a frame starts with its encoding. -/
theorem Framed.take_eq {bytes : List Byte} {message : Message} (hframed : Framed bytes message) :
    bytes.take (kHeaderSize + message.payload.length) = header message ++ message.payload := by
  have hlength : 20 + message.payload.length ≤ bytes.length := hframed.complete
  have hmagic := digits_field (show 0 + 4 ≤ bytes.length by omega)
  have hversion := digits_field (show 4 + 2 ≤ bytes.length by omega)
  have htype := digits_field (show 6 + 2 ≤ bytes.length by omega)
  have hsize := digits_field (show 8 + 4 ≤ bytes.length by omega)
  have hid := digits_field (show 12 + 8 ≤ bytes.length by omega)
  rw [← toNat_readU32 (by omega), hframed.magic] at hmagic
  rw [← toNat_readU16 (by omega), hframed.version] at hversion
  rw [← toNat_readU16 (by omega), hframed.type] at htype
  rw [← toNat_readU32 (by omega), hframed.size] at hsize
  rw [← toNat_readU64 (by omega), hframed.requestId] at hid
  have hheader : header message = bytes.take kHeaderSize := by
    rw [header, hmagic, hversion, htype, hsize, hid]
    show bytes.take 4 ++ field bytes 4 2 ++ field bytes 6 2 ++ field bytes 8 4 ++
      field bytes 12 8 = bytes.take 20
    simp only [take_append_field, Nat.reduceAdd]
  rw [hheader, ← take_append_field, hframed.payload]

theorem isKnownMessageType_iff (type : MessageType) :
    isKnownMessageType type.raw = true ↔
      type ∈ [.kEchoRequest, .kEchoResponse, .kWorkRequest, .kWorkResponse,
        MessageType.kErrorResponse] := by
  simp only [isKnownMessageType, Bool.or_eq_true, decide_eq_true_eq, List.mem_cons,
    List.not_mem_nil, or_false, or_assoc]

/-- What was encoded decodes to the message, whatever follows. -/
theorem tryDecodeFrame_encoded {message : Message} {bytes : List Byte}
    (hencode : encodeMessage message = some bytes) (rest : List Byte) :
    tryDecodeFrame (bytes ++ rest) = .decoded message (kHeaderSize + message.payload.length) := by
  have hvalid := valid_of_encodeMessage hencode
  rw [encodeMessage_of_valid hvalid] at hencode
  cases hencode
  exact tryDecodeFrame_eq_decoded_iff.mpr ⟨hvalid, framed_encoded hvalid rest, rfl⟩

/-- What decodes is the encoding of the message. -/
theorem encodeMessage_decoded {bytes : List Byte} {message : Message} {n : ℕ}
    (hdecode : tryDecodeFrame bytes = .decoded message n) :
    encodeMessage message = some (bytes.take n) := by
  obtain ⟨hvalid, hframed, rfl⟩ := tryDecodeFrame_eq_decoded_iff.mp hdecode
  rw [encodeMessage_of_valid hvalid, hframed.take_eq]

/-- A frame is read from its own bytes, whatever follows it. -/
theorem tryDecodeFrame_of_append {bytes more : List Byte} {message : Message} {n : ℕ}
    (hdecode : tryDecodeFrame (bytes ++ more) = .decoded message n) (hn : n ≤ bytes.length) :
    tryDecodeFrame bytes = .decoded message n := by
  have hencode := encodeMessage_decoded hdecode
  rw [List.take_append_of_le_length hn] at hencode
  have hsize := (tryDecodeFrame_decoded hdecode).1
  have hfront := tryDecodeFrame_encoded hencode (bytes.drop n)
  rwa [List.take_append_drop, ← hsize] at hfront

/-- The codec is a bijection between the valid messages and their frames: the valid
messages are the ones that can be encoded, an encoded message decodes to itself with
any bytes behind it, and a buffer that decodes starts with the encoding. -/
theorem codec_bijection :
    (∀ message : Message, (encodeMessage message).isSome = true ↔
      message.payload.length ≤ kMaxPayloadSize ∧
        message.type ∈ [.kEchoRequest, .kEchoResponse, .kWorkRequest, .kWorkResponse,
          MessageType.kErrorResponse]) ∧
    (∀ message bytes, encodeMessage message = some bytes → ∀ rest,
      tryDecodeFrame (bytes ++ rest) =
        .decoded message (kHeaderSize + message.payload.length)) ∧
    ∀ bytes message n, tryDecodeFrame bytes = .decoded message n →
      encodeMessage message = some (bytes.take n) := by
  refine ⟨?_, ?_, ?_⟩
  · intro message
    rw [encodeMessage_isSome_iff, isKnownMessageType_iff]
  · intro message bytes hencode rest
    exact tryDecodeFrame_encoded hencode rest
  · intro bytes message n hdecode
    exact encodeMessage_decoded hdecode

/-- What is encoded behind each other falls apart into what is encoded. -/
theorem encodeAll_append_eq_some {first second : List Message} {bytes : List Byte}
    (hbytes : encodeAll (first ++ second) = some bytes) :
    ∃ front rest, encodeAll first = some front ∧ encodeAll second = some rest ∧
      bytes = front ++ rest := by
  induction first generalizing bytes with
  | nil => exact ⟨[], bytes, rfl, hbytes, rfl⟩
  | cons message messages ih =>
      rw [List.cons_append, encodeAll] at hbytes
      split at hbytes
      · next frame later hframe hlater =>
          cases hbytes
          obtain ⟨front, rest, hfront, hrest, rfl⟩ := ih hlater
          refine ⟨frame ++ front, rest, ?_, hrest, (List.append_assoc _ _ _).symm⟩
          rw [encodeAll, hframe, hfront]
      · cases hbytes

/-- The frames of encoded messages are the messages, whatever follows. -/
theorem splits_encodeAll {messages : List Message} {bytes : List Byte}
    (hencode : encodeAll messages = some bytes) (rest : List Byte) :
    frameFormat.Splits (bytes ++ rest) messages rest := by
  induction messages generalizing bytes with
  | nil =>
      cases hencode
      exact .nil _
  | cons message messages ih =>
      rw [encodeAll] at hencode
      split at hencode
      · next frame later hframe hlater =>
          cases hencode
          have hlength := length_encodeMessage hframe
          rw [List.append_assoc]
          refine .cons (tryDecodeFrame_encoded hframe _) ?_
          rw [List.drop_left' hlength]
          exact ih hlater
      · cases hencode

/-- A buffer that splits starts with the encoding of its messages. -/
theorem encodeAll_splits {messages : List Message} {bytes rest : List Byte}
    (hsplits : frameFormat.Splits bytes messages rest) :
    ∃ front, encodeAll messages = some front ∧ bytes = front ++ rest := by
  induction hsplits with
  | nil bytes => exact ⟨[], rfl, rfl⟩
  | @cons bytes m n messages rest hdecode htail ih =>
      obtain ⟨front, hfront, hbytes⟩ := ih
      refine ⟨bytes.take n ++ front, ?_, ?_⟩
      · rw [encodeAll, encodeMessage_decoded hdecode, hfront]
      · rw [List.append_assoc, ← hbytes, List.take_append_drop]

theorem frames_encodeAll {messages : List Message} {bytes : List Byte}
    (hencode : encodeAll messages = some bytes) : frameFormat.frames bytes = messages := by
  have hsplits := splits_encodeAll hencode []
  rw [List.append_nil] at hsplits
  have hnone : frameFormat.Exhausted [] := FrameFormat.exhausted_of_needMoreData rfl
  exact (hsplits.eq_frames hnone).1.symm

/-- What was read off an encoded stream are its first messages, and the rest is the
encoding of the others. -/
theorem encodeAll_remaining {messages read : List Message} {bytes rest later : List Byte}
    (hencode : encodeAll messages = some (bytes ++ later))
    (hsplits : frameFormat.Splits bytes read rest) :
    ∃ remaining, messages = read ++ remaining ∧ encodeAll remaining = some (rest ++ later) := by
  have hread : read <+: messages :=
    frames_encodeAll hencode ▸ (hsplits.append later).isPrefix_frames
  obtain ⟨remaining, rfl⟩ := hread
  obtain ⟨front, hfront, rfl⟩ := encodeAll_splits hsplits
  obtain ⟨front', behind, hfront', hbehind, hbytes⟩ := encodeAll_append_eq_some hencode
  rw [hfront] at hfront'
  cases hfront'
  rw [List.append_assoc] at hbytes
  exact ⟨remaining, rfl, (List.append_cancel_left hbytes) ▸ hbehind⟩

end PulseCore.Protocol
