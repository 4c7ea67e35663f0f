/-
# The client program

The client builds one request from its arguments, exchanges it for a response of the
blocking server, and prints the response on a line: its type, its id, and its payload in
hexadecimal digits. Whatever the client accepts as arguments it can send, so the line is
about the response of the handler, and the payload can be read back from it.
-/

import PulseCore.Apps.FrontEnds
import PulseCore.Network.Exchange

namespace PulseCore.Apps.Client

open PulseCore.Foundation PulseCore.Core PulseCore.Protocol PulseCore.Network

def messageTypeName (type : MessageType) : List Byte :=
  if type = .kEchoRequest then bytesOf "echo_request"
  else if type = .kEchoResponse then bytesOf "echo_response"
  else if type = .kWorkRequest then bytesOf "work_request"
  else if type = .kWorkResponse then bytesOf "work_response"
  else if type = .kErrorResponse then bytesOf "error_response"
  else bytesOf "unknown"

/-- A digit of `std::hex`. -/
def hexDigit (value : UInt8) : Byte := if value < 10 then 0x30 + value else 0x57 + value

/-- Two digits for each byte, as `std::setw(2)` and `std::setfill('0')` have it. -/
def hexPayload (payload : List Byte) : List Byte :=
  payload.flatMap fun byte => [hexDigit (byte / 16), hexDigit (byte % 16)]

/-- A number on `std::cout`. -/
def printNumber (value : UInt64) : List Byte := bytesOf (toString value.toNat)

/-- What `main` prints. -/
def responseLine (response : Message) : List Byte :=
  bytesOf "response type=" ++ messageTypeName response.type ++ bytesOf " request_id=" ++
    printNumber response.requestId ++ bytesOf " payload_hex=" ++ hexPayload response.payload ++
    bytesOf "\n"

/-- The value of a hexadecimal digit. -/
def hexValue (digit : Byte) : Option UInt8 :=
  if 0x30 ≤ digit ∧ digit ≤ 0x39 then some (digit - 0x30)
  else if 0x61 ≤ digit ∧ digit ≤ 0x66 then some (digit - 0x57)
  else none

/-- The bytes that pairs of digits stand for. -/
def readHex : List Byte → Option (List Byte)
  | [] => some []
  | [_] => none
  | high :: low :: digits =>
      match hexValue high, hexValue low, readHex digits with
      | some high, some low, some bytes => some ((16 * high + low) :: bytes)
      | _, _, _ => none

theorem hexValue_hexDigit {value : UInt8} (hvalue : value.toNat < 16) :
    hexValue (hexDigit value) = some value := by
  have hall : ∀ n < 16, hexValue (hexDigit (UInt8.ofNat n)) = some (UInt8.ofNat n) := by decide
  have hsame := hall value.toNat hvalue
  rwa [UInt8.ofNat_toNat] at hsame

theorem readHex_hexPayload (payload : List Byte) : readHex (hexPayload payload) = some payload := by
  induction payload with
  | nil => rfl
  | cons byte payload ih =>
      have hbyte := byte.toNat_lt
      have hhigh : (byte / 16).toNat < 16 := by
        rw [UInt8.toNat_div]
        exact Nat.div_lt_of_lt_mul hbyte
      have hlow : (byte % 16).toNat < 16 := by
        rw [UInt8.toNat_mod]
        exact Nat.mod_lt _ (by decide)
      have hbytes : 16 * (byte / 16) + byte % 16 = byte := by
        apply UInt8.toNat_inj.mp
        rw [UInt8.toNat_add, UInt8.toNat_mul, UInt8.toNat_div, UInt8.toNat_mod]
        show (16 * (byte.toNat / 16) % 256 + byte.toNat % 16) % 256 = byte.toNat
        omega
      show readHex (hexDigit (byte / 16) :: hexDigit (byte % 16) :: hexPayload payload) = _
      rw [readHex, hexValue_hexDigit hhigh, hexValue_hexDigit hlow, ih]
      simp only [hbytes]

variable {argv : List (List Byte)} {config : ClientConfig}

theorem echo_checked (hparse : parseArgs argv = .ok config) (hecho : config.messageType = .kEcho) :
    config.payload.length ≤ kMaxPayloadSize := by
  unfold parseArgs at hparse
  split at hparse
  · obtain ⟨port, -, hrest⟩ := ok_of_bind hparse
    obtain ⟨parsed, -, hsizes⟩ := ok_of_bind hrest
    unfold checkSizes at hsizes
    split at hsizes
    · cases hsizes
    next hsize =>
    split at hsizes
    · cases hsizes
    · cases hsizes
      exact Nat.le_of_not_lt fun hlong => hsize ⟨hecho, hlong⟩
  · cases hparse

/-- The request of an accepted command line can be sent, and any response will do. -/
theorem fits_buildRequest (hparse : parseArgs argv = .ok config) :
    ∀ call ∈ (sendRequestAndReadResponse (buildRequest config)).calls, call.Fits := by
  intro call hmem
  cases List.mem_singleton.mp hmem
  refine ⟨?_, rfl⟩
  show (encodeMessage (buildRequest config)).isSome = true
  cases hkind : config.messageType with
  | kEcho =>
      rw [encodeMessage_isSome_iff, buildRequest, if_pos hkind]
      exact ⟨echo_checked hparse hkind, rfl⟩
  | kWork => exact encodeMessage_buildRequest hkind ((parseArgs_checked hparse).2 hkind)

/-- What the handler answers to the request, by the arguments. -/
theorem handleRequest_cases (hparse : parseArgs argv = .ok config) :
    (config.messageType = .kEcho ∧
      handleRequest (buildRequest config) = ⟨.kEchoResponse, 1, config.payload⟩) ∨
    (config.messageType = .kWork ∧
      config.workIterations.toNat * max 1 config.payload.length ≤ kMaxWorkUnits.toNat ∧
      handleRequest (buildRequest config) =
        ⟨.kWorkResponse, 1,
          BigEndian.digits 8 (digest config.workIterations.toNat config.payload)⟩) ∨
    (config.messageType = .kWork ∧
      ¬ config.workIterations.toNat * max 1 config.payload.length ≤ kMaxWorkUnits.toNat ∧
      handleRequest (buildRequest config) =
        ⟨.kErrorResponse, 1, errorPayload "invalid work request payload"⟩) := by
  cases hkind : config.messageType with
  | kEcho =>
      refine .inl ⟨rfl, ?_⟩
      rw [buildRequest, if_pos hkind]
      rfl
  | kWork =>
      obtain ⟨hiterations, hroom⟩ := parseArgs_checked hparse
      have hsize := le_kMaxSize_of_accepted (hroom hkind)
      have hwork := ne_kEcho_of_kWork hkind
      rw [handleRequest_eq, buildRequest, if_neg hwork]
      by_cases hunits :
          config.workIterations.toNat * max 1 config.payload.length ≤ kMaxWorkUnits.toNat
      · exact .inr (.inl ⟨rfl, hunits,
          handleOwnedRequest_work_of_within hsize ⟨hiterations, hunits⟩ 1⟩)
      · exact .inr (.inr ⟨rfl, hunits,
          handleOwnedRequest_work_of_not_within hsize (fun hwithin => hunits hwithin.2) 1⟩)

/-- The line about a response with this type and id, in front of the payload. -/
def linePrefix (name : String) : List Byte :=
  bytesOf "response type=" ++ bytesOf name ++ bytesOf " request_id=1 payload_hex="

theorem responseLine_eq {type : MessageType} {name : String} (payload : List Byte)
    (hname : messageTypeName type = bytesOf name) :
    responseLine ⟨type, 1, payload⟩ =
      linePrefix name ++ hexPayload payload ++ bytesOf "\n" := by
  have hid : bytesOf " request_id=" ++ (printNumber 1 ++ bytesOf " payload_hex=") =
      bytesOf " request_id=1 payload_hex=" := by decide +kernel
  simp only [responseLine, linePrefix, hname, ← hid, List.append_assoc]

/-- Take any arguments that the client accepts, and let it talk to the blocking server
through buffers of any size, with the calls of the two in any order. The client does not
throw; until both are done some call can transfer something; and when the client is done it
prints one line. For an echo the payload can be read back from its digits; for work they are
those of the digest, or of an error when the total work is over the limit of the handler. -/
theorem client_prints_response (hparse : parseArgs argv = .ok config) {capacity : ℕ}
    (hcapacity : 0 < capacity) (actions : List ExchangeAction) :
    let s := Exchange.run (sendRequestAndReadResponse (buildRequest config)) capacity actions
    (∀ exception, s.client ≠ .failed exception) ∧
    ((s.client = .finished ∧ s.server = .returned) ∨
      ∃ action, s.advances capacity action = true) ∧
    (s.client = .finished → ∃ name digits,
      s.responses.map responseLine = [linePrefix name ++ digits ++ bytesOf "\n"] ∧
      ((config.messageType = .kEcho ∧ name = "echo_response" ∧
        readHex digits = some config.payload) ∨
      (config.messageType = .kWork ∧
        config.workIterations.toNat * max 1 config.payload.length ≤ kMaxWorkUnits.toNat ∧
        name = "work_response" ∧ readHex digits =
          some (BigEndian.digits 8 (digest config.workIterations.toNat config.payload))) ∨
      (config.messageType = .kWork ∧
        ¬ config.workIterations.toNat * max 1 config.payload.length ≤ kMaxWorkUnits.toNat ∧
        name = "error_response" ∧
        readHex digits = some (errorPayload "invalid work request payload")))) := by
  intro s
  obtain ⟨n, htrack, -⟩ := Exchange.run_onTrack (fits_buildRequest hparse) actions
  obtain ⟨hclient, -, -, later, hnone, hdue⟩ := htrack.outcome
  refine ⟨hclient, htrack.exists_advances hcapacity, ?_⟩
  intro hfinished
  have hresponses : s.responses = [handleRequest (buildRequest config)] := by
    have hanswered := hdue.answered
    rw [hnone hfinished, List.map_nil, List.append_nil] at hanswered
    exact hanswered
  rw [hresponses, List.map_singleton]
  rcases handleRequest_cases hparse with ⟨hkind, hanswer⟩ | ⟨hkind, hunits, hanswer⟩ |
    ⟨hkind, hunits, hanswer⟩
  · refine ⟨"echo_response", hexPayload config.payload, ?_, .inl ⟨hkind, rfl, ?_⟩⟩
    · rw [hanswer, responseLine_eq _ rfl]
    · exact readHex_hexPayload _
  · refine ⟨"work_response",
      hexPayload (BigEndian.digits 8 (digest config.workIterations.toNat config.payload)), ?_,
      .inr (.inl ⟨hkind, hunits, rfl, ?_⟩)⟩
    · rw [hanswer, responseLine_eq _ rfl]
    · exact readHex_hexPayload _
  · refine ⟨"error_response", hexPayload (errorPayload "invalid work request payload"), ?_,
      .inr (.inr ⟨hkind, hunits, rfl, ?_⟩)⟩
    · rw [hanswer, responseLine_eq _ rfl]
    · exact readHex_hexPayload _

namespace Sample

def args : List (List Byte) := ["pulsecore_client", "9000", "hi"].map bytesOf

def accepted : ClientConfig := { port := 9000, payload := [0x68, 0x69] }

theorem parseArgs_args : parseArgs args = .ok accepted := by decide +kernel

/-- A buffer of sixteen bytes, so that the frames of 22 bytes go in two parts. -/
def actions : List ExchangeAction :=
  [.client 100, .server 100, .client 100, .server 100, .server 100, .client 100, .server 100,
    .client 100]

end Sample

/-- The client sends two bytes, and prints a line when it has them back. -/
theorem client_prints_response_sample :
    ∃ name digits, (Exchange.run (sendRequestAndReadResponse (buildRequest Sample.accepted)) 16
      Sample.actions).responses.map responseLine =
        [linePrefix name ++ digits ++ bytesOf "\n"] := by
  obtain ⟨hfailed, -, hprints⟩ :=
    client_prints_response Sample.parseArgs_args (show 0 < 16 by decide) Sample.actions
  have hclosed : (Exchange.run (sendRequestAndReadResponse (buildRequest Sample.accepted)) 16
      Sample.actions).client.isClosed = true := by decide +kernel
  cases hclient : (Exchange.run (sendRequestAndReadResponse (buildRequest Sample.accepted)) 16
      Sample.actions).client with
  | finished =>
      obtain ⟨name, digits, hline, -⟩ := hprints hclient
      exact ⟨name, digits, hline⟩
  | failed exception => exact absurd hclient (hfailed exception)
  | sending _ _ _ | reading _ _ =>
      rw [hclient] at hclosed
      cases hclosed

end PulseCore.Apps.Client
