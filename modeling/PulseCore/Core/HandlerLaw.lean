/-
# What the handler answers

A work request names a number of rounds and a seed. It is accepted when neither
the number of rounds nor the product of rounds and seed bytes passes its limit,
and the answer is a digest that is defined on natural numbers. The code has the
product compared by a truncating division, in words of two widths; the bound
check is also evaluated on unbounded numbers with every value held against its
type, and nothing goes wrong there.

The other results are about whatever request arrives: the answer belongs to it,
can be encoded, and is itself refused when it comes back as a request.
-/

import PulseCore.Core.Handler
import PulseCore.Protocol.RoundTrip

namespace PulseCore.Core

open PulseCore.Foundation PulseCore.Protocol

/-- `std::span<const Byte>`: bytes whose number fits `std::size_t`. -/
structure ByteSpan where
  bytes : List Byte
  size_le : bytes.length ≤ kMaxSize

/-- Take up one number: exclusive or, then the multiplication modulo `2 ^ 64`. -/
def absorb (hash value : ℕ) : ℕ := (hash ^^^ value) * 1099511628211 % 2 ^ 64

/-- One round takes up its own number and the seed, and folds the upper half of the
result into the lower one. -/
def digestRound (seed : List Byte) (hash round : ℕ) : ℕ :=
  let hash := (round :: seed.map UInt8.toNat).foldl absorb hash
  hash ^^^ (hash >>> 32)

/-- The digest of so many rounds. -/
def digest (rounds : ℕ) (seed : List Byte) : ℕ :=
  (List.range rounds).foldl (digestRound seed) 1469598103934665603

theorem toNat_absorb (hash value : UInt64) :
    ((hash ^^^ value) * kFnvPrime).toNat = absorb hash.toNat value.toNat := by
  rw [UInt64.toNat_mul, UInt64.toNat_xor]
  rfl

theorem toNat_foldl_seed (seed : List Byte) (hash : UInt64) :
    (seed.foldl (fun hash byte => (hash ^^^ byte.toUInt64) * kFnvPrime) hash).toNat =
      (seed.map UInt8.toNat).foldl absorb hash.toNat := by
  induction seed generalizing hash with
  | nil => rfl
  | cons byte seed ih =>
      rw [List.foldl_cons, ih, toNat_absorb, UInt8.toNat_toUInt64, List.map_cons, List.foldl_cons]

theorem toNat_workRound (seed : List Byte) (hash : UInt64) (round : UInt32) :
    (workRound seed hash round).toNat = digestRound seed hash.toNat round.toNat := by
  simp only [workRound, digestRound, UInt64.toNat_xor, UInt64.toNat_shiftRight, toNat_foldl_seed,
    toNat_absorb, UInt32.toNat_toUInt64, List.foldl_cons]
  rfl

/-- The words of the loop count as natural numbers do, for as many rounds as a
32-bit counter can reach. -/
theorem toNat_foldl_workRound (seed : List Byte) {rounds : ℕ} (hrounds : rounds ≤ UInt32.size) :
    ((List.range rounds).foldl (fun hash round => workRound seed hash (UInt32.ofNat round))
      kFnvOffset).toNat = digest rounds seed := by
  induction rounds with
  | zero => rfl
  | succ rounds ih =>
      have hround : (UInt32.ofNat rounds).toNat = rounds := UInt32.toNat_ofNat_of_lt' hrounds
      rw [digest, List.range_succ, List.foldl_append, List.foldl_append, List.foldl_cons,
        List.foldl_nil, List.foldl_cons, List.foldl_nil, toNat_workRound, hround,
        ih (Nat.le_of_succ_le hrounds)]
      rfl

theorem toNat_workDigest (iterations : UInt32) (seed : List Byte) :
    (workDigest iterations seed).toNat = digest iterations.toNat seed :=
  toNat_foldl_workRound seed (Nat.le_of_lt iterations.toNat_lt)

/-- What can go wrong in the arithmetic of the bound check. -/
inductive ArithmeticFault
  | outOfRange
  | divisionByZero
  | overflow
  deriving DecidableEq

/-- A value that has to fit an unsigned word. -/
def fitting (width value : ℕ) : Except ArithmeticFault ℕ :=
  if value < 2 ^ width then .ok value else .error .overflow

def quotient (dividend divisor : ℕ) : Except ArithmeticFault ℕ :=
  if divisor = 0 then .error .divisionByZero else .ok (dividend / divisor)

/-- `span::subspan(offset)`. -/
def subspan (bytes : List Byte) (offset : ℕ) : Except ArithmeticFault (List Byte) :=
  if offset ≤ bytes.length then .ok (bytes.drop offset) else .error .outOfRange

/-- `seed_work_units`, whose size is cast to 64 bits. -/
def checkedSeedWorkUnits (seed : List Byte) : Except ArithmeticFault ℕ :=
  if seed.isEmpty then .ok 1 else fitting 64 seed.length

/-- The checks of `ComputeWorkResponsePayload` on unbounded numbers, in the order of
the source, with each operation held against what it may do. It tells whether the
payload is refused. -/
def boundCheck (payload : List Byte) : Except ArithmeticFault Bool := do
  if payload.length < kIterationBytes then
    return true
  let iterations := (readU32 (payload.take kIterationBytes) 0).toNat
  if iterations > kMaxWorkIterations.toNat then
    return true
  let seed ← subspan payload kIterationBytes
  let seedWorkUnits ← checkedSeedWorkUnits seed
  if iterations > 0 then
    let divisor ← fitting 64 iterations
    let share ← quotient kMaxWorkUnits.toNat divisor
    return decide (seedWorkUnits > share)
  return false

/-- What a work request may cost. -/
def WithinLimits (iterations : UInt32) (seed : List Byte) : Prop :=
  iterations.toNat ≤ kMaxWorkIterations.toNat ∧
    iterations.toNat * max 1 seed.length ≤ kMaxWorkUnits.toNat

instance (iterations : UInt32) (seed : List Byte) : Decidable (WithinLimits iterations seed) :=
  inferInstanceAs (Decidable (_ ∧ _))

/-- No rounds, no work. -/
theorem withinLimits_of_zero {iterations : UInt32} (seed : List Byte)
    (hzero : iterations.toNat = 0) : WithinLimits iterations seed := by
  rw [WithinLimits, hzero, Nat.zero_mul]
  exact ⟨Nat.zero_le _, Nat.zero_le _⟩

theorem toNat_seedWorkUnits {seed : List Byte} (hsize : seed.length ≤ kMaxSize) :
    (seedWorkUnits seed).toNat = max 1 seed.length := by
  unfold seedWorkUnits
  cases seed with
  | nil => rfl
  | cons byte seed =>
      have hfits : (byte :: seed).length < UInt64.size := Nat.lt_of_le_of_lt hsize (by decide)
      rw [List.isEmpty_cons, if_neg Bool.false_ne_true, UInt64.toNat_ofNat_of_lt' hfits,
        List.length_cons]
      omega

/-- The truncating division refuses exactly the products that pass the limit. -/
theorem exceeds_share_iff {iterations : UInt32} {seed : List Byte} (hpos : iterations > 0)
    (hsize : seed.length ≤ kMaxSize) :
    seedWorkUnits seed > kMaxWorkUnits / iterations.toUInt64 ↔
      ¬ iterations.toNat * max 1 seed.length ≤ kMaxWorkUnits.toNat := by
  have hdivisor : 0 < iterations.toNat := UInt32.lt_iff_toNat_lt.mp hpos
  rw [gt_iff_lt, UInt64.lt_iff_toNat_lt, UInt64.toNat_div, UInt32.toNat_toUInt64,
    toNat_seedWorkUnits hsize, ← Nat.not_le, Nat.le_div_iff_mul_le hdivisor, Nat.mul_comm]

theorem length_appendU32 (value : UInt32) : (appendU32 [] value).length = 4 := by
  rw [appendU32_eq, List.nil_append, BigEndian.length_digits]

/-- The handler's field codec: what is appended is what is read. -/
theorem readU32_appendU32 (value : UInt32) : readU32 (appendU32 [] value) 0 = value := by
  apply UInt32.toNat_inj.mp
  rw [toNat_readU32 (Nat.le_of_eq (length_appendU32 value).symm)]
  have hfield : field (appendU32 [] value) 0 4 = BigEndian.digits 4 value.toNat := by
    rw [field, List.drop_zero, List.take_of_length_le (Nat.le_of_eq (length_appendU32 value)),
      appendU32_eq, List.nil_append]
  rw [hfield, BigEndian.value_digits value.toNat_lt]

theorem take_encodeWorkRequestPayload (iterations : UInt32) (seed : List Byte) :
    (encodeWorkRequestPayload iterations seed).take kIterationBytes = appendU32 [] iterations :=
  List.take_left' (length_appendU32 iterations)

theorem drop_encodeWorkRequestPayload (iterations : UInt32) (seed : List Byte) :
    (encodeWorkRequestPayload iterations seed).drop kIterationBytes = seed :=
  List.drop_left' (length_appendU32 iterations)

theorem length_encodeWorkRequestPayload (iterations : UInt32) (seed : List Byte) :
    (encodeWorkRequestPayload iterations seed).length = kIterationBytes + seed.length := by
  rw [encodeWorkRequestPayload, List.length_append, length_appendU32]
  rfl

/-- A payload too short for the number of rounds is refused. -/
theorem computeWorkResponsePayload_of_short {payload : List Byte}
    (hshort : payload.length < kIterationBytes) : computeWorkResponsePayload payload = none :=
  if_pos hshort

/-- The checks on a payload, as one condition on what it encodes. -/
theorem computeWorkResponsePayload_encode (iterations : UInt32) {seed : List Byte}
    (hsize : seed.length ≤ kMaxSize) :
    computeWorkResponsePayload (encodeWorkRequestPayload iterations seed) =
      if WithinLimits iterations seed then
        some (BigEndian.digits 8 (digest iterations.toNat seed))
      else none := by
  have hlong : ¬ (encodeWorkRequestPayload iterations seed).length < kIterationBytes := by
    rw [length_encodeWorkRequestPayload]
    omega
  rw [computeWorkResponsePayload, if_neg hlong]
  simp only [take_encodeWorkRequestPayload, drop_encodeWorkRequestPayload, readU32_appendU32,
    appendU64_eq, List.nil_append, toNat_workDigest]
  by_cases hmany : iterations > kMaxWorkIterations
  · have hover : ¬ WithinLimits iterations seed := fun hwithin =>
      Nat.not_le.mpr (UInt32.lt_iff_toNat_lt.mp hmany) hwithin.1
    rw [if_pos hmany, if_neg hover]
  have hfew : iterations.toNat ≤ kMaxWorkIterations.toNat :=
    Nat.le_of_not_lt fun hlt => hmany (UInt32.lt_iff_toNat_lt.mpr hlt)
  rw [if_neg hmany]
  by_cases hpos : iterations > 0
  · simp only [hpos, decide_true, Bool.true_and, decide_eq_true_eq, exceeds_share_iff hpos hsize]
    simp only [WithinLimits, hfew, true_and]
    exact ite_not _ _ _
  · -- the division is not reached
    have hzero : iterations.toNat = 0 :=
      Nat.eq_zero_of_not_pos fun hlt => hpos (UInt32.lt_iff_toNat_lt.mpr hlt)
    have hwithin := withinLimits_of_zero seed hzero
    simp only [hpos, decide_false, Bool.false_and, Bool.false_eq_true, if_false, if_pos hwithin]

/-- A payload that is long enough encodes a request. -/
theorem encodeWorkRequestPayload_of_long {payload : List Byte}
    (hlong : kIterationBytes ≤ payload.length) :
    encodeWorkRequestPayload (readU32 (payload.take kIterationBytes) 0)
      (payload.drop kIterationBytes) = payload := by
  have hlength : (payload.take kIterationBytes).length = 4 := List.length_take_of_le hlong
  have hfield : field (payload.take kIterationBytes) 0 4 = payload.take kIterationBytes := by
    rw [field, List.drop_zero, List.take_of_length_le (Nat.le_of_eq hlength)]
  have hdigits := digits_field (Nat.le_of_eq (Nat.zero_add 4 ▸ hlength.symm))
  rw [hfield] at hdigits
  rw [encodeWorkRequestPayload, appendU32_eq, toNat_readU32 (Nat.le_of_eq hlength.symm), hfield,
    hdigits, List.nil_append, List.take_append_drop]

theorem fitting_of_lt {width value : ℕ} (hlt : value < 2 ^ width) :
    fitting width value = .ok value :=
  if_pos hlt

theorem quotient_of_pos (dividend : ℕ) {divisor : ℕ} (hpos : 0 < divisor) :
    quotient dividend divisor = .ok (dividend / divisor) :=
  if_neg (Nat.ne_of_gt hpos)

theorem checkedSeedWorkUnits_eq {seed : List Byte} (hsize : seed.length ≤ kMaxSize) :
    checkedSeedWorkUnits seed = .ok (max 1 seed.length) := by
  unfold checkedSeedWorkUnits
  cases seed with
  | nil => rfl
  | cons byte seed =>
      have hmax : max 1 (byte :: seed).length = (byte :: seed).length := by
        rw [List.length_cons]
        omega
      rw [List.isEmpty_cons, if_neg Bool.false_ne_true, hmax]
      exact fitting_of_lt (Nat.lt_of_le_of_lt hsize (by decide))

/-- Held against the types of the source, the bound check runs through and refuses
exactly what the code refuses. -/
theorem boundCheck_eq {payload : List Byte} (hsize : payload.length ≤ kMaxSize) :
    boundCheck payload = .ok (computeWorkResponsePayload payload).isNone := by
  by_cases hshort : payload.length < kIterationBytes
  · rw [computeWorkResponsePayload_of_short hshort]
    exact if_pos hshort
  have hseed : (payload.drop kIterationBytes).length ≤ kMaxSize := by
    rw [List.length_drop]
    omega
  have hrefused := computeWorkResponsePayload_encode
    (readU32 (payload.take kIterationBytes) 0) hseed
  rw [encodeWorkRequestPayload_of_long (Nat.le_of_not_lt hshort)] at hrefused
  rw [hrefused, boundCheck, if_neg hshort, subspan, if_pos (Nat.le_of_not_lt hshort)]
  generalize readU32 (payload.take kIterationBytes) 0 = iterations
  generalize payload.drop kIterationBytes = seed at hseed
  by_cases hmany : iterations.toNat > kMaxWorkIterations.toNat
  · have hover : ¬ WithinLimits iterations seed := fun hwithin =>
      Nat.not_le.mpr hmany hwithin.1
    rw [if_pos hmany, if_neg hover]
    rfl
  have hfew := Nat.le_of_not_lt hmany
  simp only [if_neg hmany, bind, pure, Except.bind, Except.pure, checkedSeedWorkUnits_eq hseed]
  by_cases hpos : iterations.toNat > 0
  · have hshare : max 1 seed.length > kMaxWorkUnits.toNat / iterations.toNat ↔
        ¬ iterations.toNat * max 1 seed.length ≤ kMaxWorkUnits.toNat := by
      rw [gt_iff_lt, ← Nat.not_le, Nat.le_div_iff_mul_le hpos, Nat.mul_comm]
    rw [if_pos hpos, fitting_of_lt (Nat.lt_trans iterations.toNat_lt (by decide))]
    simp only [quotient_of_pos _ hpos, hshare]
    by_cases hunits : iterations.toNat * max 1 seed.length ≤ kMaxWorkUnits.toNat
    · have hwithin : WithinLimits iterations seed := ⟨hfew, hunits⟩
      simp only [hunits, not_true, decide_false, if_pos hwithin, Option.isNone_some]
    · have hover : ¬ WithinLimits iterations seed := fun hwithin => hunits hwithin.2
      simp only [hunits, not_false_eq_true, decide_true, if_neg hover, Option.isNone_none]
  · have hwithin := withinLimits_of_zero seed (Nat.eq_zero_of_not_pos hpos)
    rw [if_neg hpos, if_pos hwithin, Option.isNone_some]

/-! ## Answers -/

/-- A work request is answered with what the hash loop returned, if it was run. -/
theorem handleOwnedRequest_work (requestId : UInt64) (payload : List Byte) :
    handleOwnedRequest ⟨.kWorkRequest, requestId, payload⟩ =
      match computeWorkResponsePayload payload with
      | some payload => ⟨.kWorkResponse, requestId, payload⟩
      | none => errorResponse requestId "invalid work request payload" := rfl

/-- A work request within the limits gets the digest. -/
theorem handleOwnedRequest_work_of_within {iterations : UInt32} {seed : List Byte}
    (hsize : seed.length ≤ kMaxSize) (hwithin : WithinLimits iterations seed)
    (requestId : UInt64) :
    handleOwnedRequest ⟨.kWorkRequest, requestId, encodeWorkRequestPayload iterations seed⟩ =
      ⟨.kWorkResponse, requestId, BigEndian.digits 8 (digest iterations.toNat seed)⟩ := by
  rw [handleOwnedRequest_work, computeWorkResponsePayload_encode iterations hsize, if_pos hwithin]

/-- Any other gets an error. -/
theorem handleOwnedRequest_work_of_not_within {iterations : UInt32} {seed : List Byte}
    (hsize : seed.length ≤ kMaxSize) (hover : ¬ WithinLimits iterations seed)
    (requestId : UInt64) :
    handleOwnedRequest ⟨.kWorkRequest, requestId, encodeWorkRequestPayload iterations seed⟩ =
      errorResponse requestId "invalid work request payload" := by
  rw [handleOwnedRequest_work, computeWorkResponsePayload_encode iterations hsize, if_neg hover]

/-- So its type tells whether the limits were kept. -/
theorem type_handleOwnedRequest_work_iff {iterations : UInt32} {seed : List Byte}
    (hsize : seed.length ≤ kMaxSize) (requestId : UInt64) :
    (handleOwnedRequest ⟨.kWorkRequest, requestId,
      encodeWorkRequestPayload iterations seed⟩).type = .kWorkResponse ↔
      WithinLimits iterations seed := by
  by_cases hwithin : WithinLimits iterations seed
  · rw [handleOwnedRequest_work_of_within hsize hwithin]
    exact iff_of_true rfl hwithin
  · rw [handleOwnedRequest_work_of_not_within hsize hwithin]
    exact iff_of_false (show ¬ MessageType.kErrorResponse = .kWorkResponse by decide) hwithin

/-- A work request is answered with the digest when it keeps within the limits, and
with an error otherwise; a payload too short to be one gets an error; and the bound
check neither divides by zero nor leaves the range of its words. -/
theorem workRequest_law (iterations : UInt32) (seed : ByteSpan) (requestId : UInt64) :
    ((handleRequest ⟨.kWorkRequest, requestId,
        encodeWorkRequestPayload iterations seed.bytes⟩).type = .kWorkResponse ↔
      iterations.toNat ≤ kMaxWorkIterations.toNat ∧
        iterations.toNat * max 1 seed.bytes.length ≤ kMaxWorkUnits.toNat) ∧
    (WithinLimits iterations seed.bytes →
      handleRequest ⟨.kWorkRequest, requestId, encodeWorkRequestPayload iterations seed.bytes⟩ =
        ⟨.kWorkResponse, requestId,
          BigEndian.digits 8 (digest iterations.toNat seed.bytes)⟩) ∧
    (¬ WithinLimits iterations seed.bytes →
      (handleRequest ⟨.kWorkRequest, requestId,
        encodeWorkRequestPayload iterations seed.bytes⟩).type = .kErrorResponse) ∧
    (∀ payload : List Byte, payload.length < 4 →
      (handleRequest ⟨.kWorkRequest, requestId, payload⟩).type = .kErrorResponse) ∧
    ∀ payload : ByteSpan,
      boundCheck payload.bytes = .ok (computeWorkResponsePayload payload.bytes).isNone := by
  simp only [handleRequest_eq]
  refine ⟨type_handleOwnedRequest_work_iff seed.size_le requestId, fun hwithin => ?_,
    fun hover => ?_, fun payload hshort => ?_, fun payload => boundCheck_eq payload.size_le⟩
  · exact handleOwnedRequest_work_of_within seed.size_le hwithin requestId
  · rw [handleOwnedRequest_work_of_not_within seed.size_le hover]
    rfl
  · rw [handleOwnedRequest_work, computeWorkResponsePayload_of_short hshort]
    rfl

/-- The digest of the unit tests. -/
example : BigEndian.digits 8 (digest 3 [0xAA, 0xBB]) =
    [0xA2, 0x89, 0x7E, 0x00, 0x44, 0x62, 0x2F, 0x90] := by decide

/-- Everything the handler can answer, with the request that leads to it. -/
theorem handleOwnedRequest_cases (request : Message) :
    (request.type = .kEchoRequest ∧
      handleOwnedRequest request = ⟨.kEchoResponse, request.requestId, request.payload⟩) ∨
    (request.type = .kWorkRequest ∧ ∃ payload, payload.length = 8 ∧
      handleOwnedRequest request = ⟨.kWorkResponse, request.requestId, payload⟩) ∨
    (request.type ≠ .kEchoRequest ∧ ∃ message, (errorPayload message).length ≤ kMaxPayloadSize ∧
      handleOwnedRequest request = errorResponse request.requestId message) := by
  unfold handleOwnedRequest
  split
  · next hecho => exact .inl ⟨hecho, rfl⟩
  next hecho =>
  split
  · next hwork =>
      split
      · next payload hpayload =>
          exact .inr (.inl ⟨hwork, payload, length_computeWorkResponsePayload hpayload, rfl⟩)
      · exact .inr (.inr ⟨hecho, _, by decide, rfl⟩)
  split
  · exact .inr (.inr ⟨hecho, "unexpected response message from client", by decide, rfl⟩)
  · exact .inr (.inr ⟨hecho, _, by decide, rfl⟩)

@[simp]
theorem requestId_handleOwnedRequest (request : Message) :
    (handleOwnedRequest request).requestId = request.requestId := by
  obtain ⟨-, h⟩ | ⟨-, _, -, h⟩ | ⟨-, _, -, h⟩ := handleOwnedRequest_cases request
  all_goals exact (congrArg Message.requestId h).trans rfl

/-- An answer has a type of its own, never that of a request. -/
theorem type_handleOwnedRequest (request : Message) :
    (handleOwnedRequest request).type = .kEchoResponse ∨
      (handleOwnedRequest request).type = .kWorkResponse ∨
      (handleOwnedRequest request).type = .kErrorResponse := by
  obtain ⟨-, h⟩ | ⟨-, _, -, h⟩ | ⟨-, _, -, h⟩ := handleOwnedRequest_cases request <;> rw [h]
  · exact .inl rfl
  · exact .inr (.inl rfl)
  · exact .inr (.inr rfl)

/-- An answer that comes back as a request is refused. -/
theorem handleOwnedRequest_of_response {response : Message}
    (htype : response.type = .kEchoResponse ∨ response.type = .kWorkResponse ∨
      response.type = .kErrorResponse) :
    handleOwnedRequest response =
      errorResponse response.requestId "unexpected response message from client" := by
  have hecho : ¬ response.type = .kEchoRequest := by
    rcases htype with h | h | h <;> rw [h] <;> decide
  have hwork : ¬ response.type = .kWorkRequest := by
    rcases htype with h | h | h <;> rw [h] <;> decide
  rw [handleOwnedRequest, if_neg hecho, if_neg hwork, if_pos htype]
  rfl

/-- What a request of each type is answered with. -/
def AnswerOf (request response : Message) : Prop :=
  response.requestId = request.requestId ∧
    if request.type = .kEchoRequest then
      response.type = .kEchoResponse ∧ response.payload = request.payload
    else if request.type = .kWorkRequest then
      response.type = .kWorkResponse ∨ response.type = .kErrorResponse
    else response.type = .kErrorResponse

theorem answerOf_handleOwnedRequest (request : Message) :
    AnswerOf request (handleOwnedRequest request) := by
  refine ⟨requestId_handleOwnedRequest request, ?_⟩
  obtain ⟨hecho, h⟩ | ⟨hwork, payload, -, h⟩ | ⟨hecho, message, -, h⟩ :=
    handleOwnedRequest_cases request
  · rw [if_pos hecho, h]
    exact ⟨rfl, rfl⟩
  · have hecho : ¬ request.type = .kEchoRequest := by
      rw [hwork]
      decide
    rw [if_neg hecho, if_pos hwork, h]
    exact .inl rfl
  · rw [if_neg hecho, h]
    split
    · exact .inr rfl
    · rfl

end PulseCore.Core
