/-
# The request handler

Echo requests are answered with their own payload, work requests with the digest
of a bounded amount of hashing, and everything else with an error response. The
handler is a total function; it is what the blocking server calls directly and
what the epoll server hands to its workers by default.
-/

import PulseCore.Protocol.Codec

namespace PulseCore.Core

open PulseCore.Protocol

def kMaxWorkIterations : UInt32 := 1000000
def kMaxWorkUnits : UInt64 := 64 * 1024 * 1024

/-- The bytes of a text, as `std::vector<Byte>{message.begin(), message.end()}`. -/
def errorPayload (message : String) : List Byte := message.toUTF8.data.toList

def errorResponse (requestId : UInt64) (message : String) : Message :=
  { type := .kErrorResponse
    requestId
    payload := errorPayload message }

def kIterationBytes : ℕ := 4
def kFnvOffset : UInt64 := 1469598103934665603
def kFnvPrime : UInt64 := 1099511628211

/-- One round of the work loop: the round number, then every byte of the seed. -/
def workRound (seed : List Byte) (hash : UInt64) (round : UInt32) : UInt64 :=
  let hash := (hash ^^^ round.toUInt64) * kFnvPrime
  let hash := seed.foldl (fun hash byte => (hash ^^^ byte.toUInt64) * kFnvPrime) hash
  hash ^^^ (hash >>> 32)

/-- The hash loop of `ComputeWorkResponsePayload`. -/
def workDigest (iterations : UInt32) (seed : List Byte) : UInt64 :=
  (List.range iterations.toNat).foldl
    (fun hash round => workRound seed hash (UInt32.ofNat round)) kFnvOffset

/-- The work one round costs: one unit per seed byte, and at least one. -/
def seedWorkUnits (seed : List Byte) : UInt64 :=
  if seed.isEmpty then 1 else UInt64.ofNat seed.length

def computeWorkResponsePayload (payload : List Byte) : Option (List Byte) :=
  if payload.length < kIterationBytes then none
  else
    let iterations := readU32 (payload.take kIterationBytes) 0
    if iterations > kMaxWorkIterations then none
    else
      let seed := payload.drop kIterationBytes
      if iterations > 0 && seedWorkUnits seed > kMaxWorkUnits / iterations.toUInt64 then none
      else some (appendU64 [] (workDigest iterations seed))

def encodeWorkRequestPayload (iterations : UInt32) (seed : List Byte) : List Byte :=
  appendU32 [] iterations ++ seed

def handleOwnedRequest (request : Message) : Message :=
  if request.type = .kEchoRequest then
    { type := .kEchoResponse
      requestId := request.requestId
      payload := request.payload }
  else if request.type = .kWorkRequest then
    match computeWorkResponsePayload request.payload with
    | some payload =>
        { type := .kWorkResponse
          requestId := request.requestId
          payload }
    | none => errorResponse request.requestId "invalid work request payload"
  else if request.type = .kEchoResponse ∨ request.type = .kWorkResponse ∨
      request.type = .kErrorResponse then
    { type := .kErrorResponse
      requestId := request.requestId
      payload := errorPayload "unexpected response message from client" }
  else errorResponse request.requestId "unknown request message"

def handleRequest (request : Message) : Message :=
  handleOwnedRequest
    { type := request.type
      requestId := request.requestId
      payload := request.payload }

@[simp]
theorem handleRequest_eq (request : Message) :
    handleRequest request = handleOwnedRequest request := rfl

theorem length_computeWorkResponsePayload {payload digest : List Byte}
    (hdigest : computeWorkResponsePayload payload = some digest) : digest.length = 8 := by
  unfold computeWorkResponsePayload at hdigest
  split at hdigest
  · cases hdigest
  simp only at hdigest
  split at hdigest
  · cases hdigest
  split at hdigest
  · cases hdigest
  cases hdigest
  simp [appendU64]

/-- Whatever a client can get decoded, its response can be encoded. -/
theorem encodeMessage_handleOwnedRequest {request : Message}
    (hpayload : request.payload.length ≤ kMaxPayloadSize) :
    (encodeMessage (handleOwnedRequest request)).isSome = true := by
  rw [encodeMessage_isSome_iff]
  unfold handleOwnedRequest
  split
  · exact ⟨hpayload, rfl⟩
  split
  · split
    · next digest hdigest =>
        refine ⟨?_, rfl⟩
        rw [length_computeWorkResponsePayload hdigest]
        decide
    · exact ⟨show (errorPayload "invalid work request payload").length ≤ kMaxPayloadSize by
        decide, rfl⟩
  split
  · exact ⟨show (errorPayload "unexpected response message from client").length ≤
      kMaxPayloadSize by decide, rfl⟩
  · exact ⟨show (errorPayload "unknown request message").length ≤ kMaxPayloadSize by decide,
      rfl⟩

end PulseCore.Core
