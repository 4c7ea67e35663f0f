/-
# The client and the benchmark

Two programs send requests from the command line. Both check the number of work
iterations against the limit of the handler, and the size of the payload against
that of the protocol; the total work that the handler also limits is a product of
the two, which neither of them looks at. The benchmark finds out when it asks the
handler for the response it is to expect, the client when the response arrives.

Arguments are bytes, as the programs get them. A text that is not a number, an
option that is not known and a value that is missing are errors with the texts of
the source.
-/

import PulseCore.Core.HandlerLaw

namespace PulseCore.Apps

open PulseCore.Protocol PulseCore.Core

/-- The exceptions of the two programs, with their texts. -/
inductive AppError
  | runtimeError (what : List Byte)
  | logicError (what : List Byte)
  deriving DecidableEq

/-- The bytes of a text. -/
def bytesOf (text : String) : List Byte := text.toUTF8.data.toList

/-- What `std::stoul` and `std::stoull` throw. -/
inductive NumberError
  | invalidArgument
  | outOfRange
  deriving DecidableEq

/-- `std::isspace` in the C locale. -/
def isSpace (byte : Byte) : Bool := byte = 0x20 || (0x09 ≤ byte && byte ≤ 0x0D)

def isDigit (byte : Byte) : Bool := 0x30 ≤ byte && byte ≤ 0x39

def isMinus (byte : Byte) : Bool := byte = 0x2D

/-- How long the sign in front of a number is, and whether it is a minus. -/
def signOf : List Byte → ℕ × Bool
  | [] => (0, false)
  | byte :: _ => if byte = 0x2B then (1, false) else if isMinus byte then (1, true) else (0, false)

def digitsValue (digits : List Byte) : ℕ :=
  digits.foldl (fun value digit => 10 * value + (digit.toNat - 0x30)) 0

/-- `std::stoull` in base ten: white space, a sign and digits, with the value and the
number of characters that were used. A minus negates modulo `2 ^ 64`. -/
def stoull (input : List Byte) : Except NumberError (UInt64 × ℕ) :=
  let spaces := input.takeWhile isSpace
  let rest := input.drop spaces.length
  let (signLength, negative) := signOf rest
  let digits := (rest.drop signLength).takeWhile isDigit
  if digits.isEmpty then .error .invalidArgument
  else if digitsValue digits > kMaxSize then .error .outOfRange
  else
    let value := UInt64.ofNat (digitsValue digits)
    .ok (if negative then 0 - value else value, spaces.length + signLength + digits.length)

/-- `std::stoul`; `unsigned long` has 64 bits too. -/
def stoul (input : List Byte) : Except NumberError (UInt64 × ℕ) := stoull input

/-- The text is empty or starts with a minus. -/
def isEmptyOrNegative : List Byte → Bool
  | [] => true
  | byte :: _ => isMinus byte

/-- `ClientMessageType` and `BenchmarkMessageType`. -/
inductive AppMessageType
  | kEcho
  | kWork
  deriving DecidableEq

def parseMessageType (option value : List Byte) : Except AppError AppMessageType :=
  if value = bytesOf "echo" then .ok .kEcho
  else if value = bytesOf "work" then .ok .kWork
  else .error (.runtimeError (option ++ bytesOf " must be echo or work"))

def notPositive (option : List Byte) : AppError :=
  .runtimeError (option ++ bytesOf " must be a positive integer")

def tooManyIterations (option : List Byte) : AppError :=
  .runtimeError (option ++ bytesOf " exceeds maximum work iterations")

namespace Client

structure ClientConfig where
  port : UInt16 := 0
  payload : List Byte := bytesOf "hello"
  messageType : AppMessageType := .kEcho
  workIterations : UInt32 := 1000
  deriving DecidableEq

def parsePort (text : List Byte) : Except AppError UInt16 :=
  if isEmptyOrNegative text then .error (.runtimeError (bytesOf "port must be an integer"))
  else
    match stoul text with
    | .error .invalidArgument => .error (.runtimeError (bytesOf "port must be an integer"))
    | .error .outOfRange => .error (.runtimeError (bytesOf "port is out of range"))
    | .ok (value, parsedChars) =>
        if parsedChars ≠ text.length then
          .error (.runtimeError (bytesOf "port must be an integer"))
        else if value > 0xFFFF then .error (.runtimeError (bytesOf "port is out of range"))
        else .ok value.toUInt16

def parseWorkIterations (option text : List Byte) : Except AppError UInt32 :=
  if isEmptyOrNegative text then .error (notPositive option)
  else
    match stoul text with
    | .error .invalidArgument => .error (notPositive option)
    | .error .outOfRange => .error (tooManyIterations option)
    | .ok (value, parsedChars) =>
        if parsedChars ≠ text.length ∨ value = 0 then .error (notPositive option)
        else if value > kMaxWorkIterations.toUInt64 then .error (tooManyIterations option)
        else .ok value.toUInt32

/-- The loop of `ParseArgs` over the arguments behind the port. -/
def parseOptions (config : ClientConfig) (payloadSet : Bool) :
    List (List Byte) → Except AppError ClientConfig
  | [] => .ok config
  | option :: args =>
      if option = bytesOf "--message-type" ∨ option = bytesOf "--work-iterations" then
        match args with
        | [] => .error (.runtimeError (option ++ bytesOf " requires a value"))
        | value :: args =>
            if option = bytesOf "--message-type" then
              match parseMessageType option value with
              | .error error => .error error
              | .ok messageType => parseOptions { config with messageType } payloadSet args
            else
              match parseWorkIterations option value with
              | .error error => .error error
              | .ok workIterations => parseOptions { config with workIterations } payloadSet args
      else if option.head?.any isMinus then
        .error (.runtimeError (bytesOf "unknown option: " ++ option))
      else if payloadSet then .error (.runtimeError (bytesOf "payload specified more than once"))
      else parseOptions { config with payload := option } true args

/-- The checks of `ParseArgs` behind its loop. -/
def checkSizes (config : ClientConfig) : Except AppError ClientConfig :=
  if config.messageType = .kEcho ∧ config.payload.length > kMaxPayloadSize then
    .error (.runtimeError (bytesOf "payload exceeds protocol max payload size"))
  else if config.messageType = .kWork ∧ config.payload.length > kMaxPayloadSize - 4 then
    .error (.runtimeError (bytesOf "payload leaves no room for work request metadata"))
  else .ok config

def parseArgs : List (List Byte) → Except AppError ClientConfig
  | _ :: port :: args => do
      let port ← parsePort port
      let config ← parseOptions { port } false args
      checkSizes config
  | _ => .error (.runtimeError (bytesOf "missing port"))

def buildRequest (config : ClientConfig) : Message :=
  if config.messageType = .kEcho then
    { type := .kEchoRequest
      requestId := 1
      payload := config.payload }
  else
    { type := .kWorkRequest
      requestId := 1
      payload := encodeWorkRequestPayload config.workIterations config.payload }

end Client

/-! ## The benchmark -/

namespace Benchmark

def kWorkIterationBytes : ℕ := 4

structure BenchmarkConfig where
  clients : UInt64 := 4
  requestsPerClient : UInt64 := 1000
  payloadSize : UInt64 := 64
  workers : UInt64
  messageType : AppMessageType := .kEcho
  workIterations : UInt32 := 1000
  deriving DecidableEq

structure ClientRequestTemplate where
  requestType : MessageType
  expectedResponseType : MessageType
  requestPayload : List Byte
  expectedResponsePayload : List Byte
  deriving DecidableEq

def parsePositiveSize (option text : List Byte) : Except AppError UInt64 :=
  if isEmptyOrNegative text then .error (notPositive option)
  else
    match stoull text with
    | .error .invalidArgument => .error (notPositive option)
    | .error .outOfRange => .error (.runtimeError (option ++ bytesOf " is out of range"))
    | .ok (value, parsedChars) =>
        if parsedChars ≠ text.length ∨ value = 0 ∨ value.toNat > kMaxSize then
          .error (notPositive option)
        else .ok value

def parseWorkIterations (option text : List Byte) : Except AppError UInt32 := do
  let value ← parsePositiveSize option text
  if value > kMaxWorkIterations.toUInt64 then .error (tooManyIterations option)
  else return value.toUInt32

/-- One option with its value. -/
def setOption (config : BenchmarkConfig) (option value : List Byte) :
    Except AppError BenchmarkConfig :=
  if option = bytesOf "--clients" then do
    return { config with clients := ← parsePositiveSize option value }
  else if option = bytesOf "--requests-per-client" then do
    return { config with requestsPerClient := ← parsePositiveSize option value }
  else if option = bytesOf "--payload-size" then do
    return { config with payloadSize := ← parsePositiveSize option value }
  else if option = bytesOf "--workers" then do
    return { config with workers := ← parsePositiveSize option value }
  else if option = bytesOf "--message-type" then do
    return { config with messageType := ← parseMessageType option value }
  else if option = bytesOf "--work-iterations" then do
    return { config with workIterations := ← parseWorkIterations option value }
  else .error (.runtimeError (bytesOf "unknown option: " ++ option))

/-- The loop of `ParseArgs`. -/
def parseOptions (config : BenchmarkConfig) : List (List Byte) → Except AppError BenchmarkConfig
  | [] => .ok config
  | [option] => .error (.runtimeError (option ++ bytesOf " requires a value"))
  | option :: value :: args =>
      match setOption config option value with
      | .error error => .error error
      | .ok config => parseOptions config args

/-- The checks of `ParseArgs` behind its loop. -/
def checkSizes (config : BenchmarkConfig) : Except AppError BenchmarkConfig :=
  if config.messageType = .kEcho ∧ config.payloadSize.toNat > kMaxPayloadSize then
    .error (.runtimeError (bytesOf "--payload-size exceeds protocol max payload size"))
  else if config.messageType = .kWork ∧
      config.payloadSize.toNat > kMaxPayloadSize - kWorkIterationBytes then
    .error (.runtimeError (bytesOf "--payload-size leaves no room for work request metadata"))
  else if config.requestsPerClient.toNat > kMaxSize / config.clients.toNat then
    .error (.runtimeError (bytesOf "--clients * --requests-per-client is too large"))
  else .ok config

/-- The default members; half of the hardware threads work, at least one. -/
def defaultConfig (hardwareConcurrency : UInt32) : BenchmarkConfig :=
  { workers := (max 1 (hardwareConcurrency / 2)).toUInt64 }

def parseArgs (hardwareConcurrency : UInt32) (argv : List (List Byte)) :
    Except AppError BenchmarkConfig := do
  let config ← parseOptions (defaultConfig hardwareConcurrency) argv.tail
  checkSizes config

def buildClientRequestTemplate (clientIndex : UInt64) (config : BenchmarkConfig) :
    Except AppError ClientRequestTemplate :=
  let seed := List.replicate config.payloadSize.toNat (clientIndex &&& 0xFF).toUInt8
  if config.messageType = .kEcho then
    .ok
      { requestType := .kEchoRequest
        expectedResponseType := .kEchoResponse
        requestPayload := seed
        expectedResponsePayload := seed }
  else
    let requestPayload := encodeWorkRequestPayload config.workIterations seed
    let expectedResponse := handleRequest
      { type := .kWorkRequest
        requestId := 0
        payload := requestPayload }
    if expectedResponse.type ≠ .kWorkResponse then
      .error (.logicError (bytesOf "failed to prepare expected work response"))
    else
      .ok
        { requestType := .kWorkRequest
          expectedResponseType := .kWorkResponse
          requestPayload
          expectedResponsePayload := expectedResponse.payload }

end Benchmark

/-! ## What is accepted -/

theorem ok_of_bind {α β : Type} {x : Except AppError α} {next : α → Except AppError β} {result : β}
    (hbind : (x >>= next) = .ok result) : ∃ value, x = .ok value ∧ next value = .ok result := by
  cases x with
  | error error => cases hbind
  | ok value => exact ⟨value, rfl, hbind⟩

/-- A 64-bit number within the limit on iterations, as the 32-bit number it becomes. -/
theorem toUInt32_le_max {value : UInt64} (hle : ¬ value > kMaxWorkIterations.toUInt64) :
    value.toUInt32.toNat ≤ kMaxWorkIterations.toNat := by
  rw [gt_iff_lt, UInt64.lt_iff_toNat_lt, UInt32.toNat_toUInt64, Nat.not_lt] at hle
  rw [UInt64.toNat_toUInt32]
  exact Nat.le_trans (Nat.mod_le _ _) hle

namespace Client

theorem parseWorkIterations_le {option text : List Byte} {iterations : UInt32}
    (hparse : parseWorkIterations option text = .ok iterations) :
    iterations.toNat ≤ kMaxWorkIterations.toNat := by
  unfold parseWorkIterations at hparse
  split at hparse
  · cases hparse
  split at hparse
  · cases hparse
  · cases hparse
  split at hparse
  · cases hparse
  split at hparse
  · cases hparse
  · next hle =>
      cases hparse
      exact toUInt32_le_max hle

/-- Whatever options there are, the number of iterations keeps its limit. -/
theorem parseOptions_workIterations {config accepted : ClientConfig} {payloadSet : Bool}
    {args : List (List Byte)} (hle : config.workIterations.toNat ≤ kMaxWorkIterations.toNat)
    (hparse : parseOptions config payloadSet args = .ok accepted) :
    accepted.workIterations.toNat ≤ kMaxWorkIterations.toNat := by
  fun_induction parseOptions config payloadSet args with
  | case1 =>
      cases hparse
      exact hle
  | case2 | case3 | case5 | case7 | case8 => cases hparse
  | case4 _ _ _ _ _ _ _ ih => exact ih hle hparse
  | case6 _ _ _ _ _ _ _ _ hiterations ih => exact ih (parseWorkIterations_le hiterations) hparse
  | case9 _ _ _ _ _ _ _ ih => exact ih hle hparse

/-- What `ParseArgs` has checked when it returns. -/
theorem parseArgs_checked {argv : List (List Byte)} {config : ClientConfig}
    (hparse : parseArgs argv = .ok config) :
    config.workIterations.toNat ≤ kMaxWorkIterations.toNat ∧
      (config.messageType = .kWork → config.payload.length ≤ kMaxPayloadSize - 4) := by
  unfold parseArgs at hparse
  split at hparse
  · obtain ⟨port, -, hrest⟩ := ok_of_bind hparse
    obtain ⟨parsed, hoptions, hsizes⟩ := ok_of_bind hrest
    unfold checkSizes at hsizes
    split at hsizes
    · cases hsizes
    split at hsizes
    · cases hsizes
    · next hroom =>
        cases hsizes
        have hdefault : (1000 : UInt32).toNat ≤ kMaxWorkIterations.toNat := by decide
        refine ⟨parseOptions_workIterations hdefault hoptions, fun hwork => ?_⟩
        exact Nat.le_of_not_lt fun hlong => hroom ⟨hwork, hlong⟩
  · cases hparse

end Client

namespace Benchmark

theorem parsePositiveSize_pos {option text : List Byte} {value : UInt64}
    (hparse : parsePositiveSize option text = .ok value) : 0 < value.toNat := by
  unfold parsePositiveSize at hparse
  split at hparse
  · cases hparse
  split at hparse
  · cases hparse
  · cases hparse
  split at hparse
  · cases hparse
  · next hchecked =>
      cases hparse
      simp only [not_or] at hchecked
      exact Nat.pos_of_ne_zero fun hzero => hchecked.2.1 (UInt64.toNat_inj.mp hzero)

/-- Only a minus in the first place is refused; behind a space it wraps around. -/
example : parsePositiveSize (bytesOf "--clients") (bytesOf " -1") = .ok 0xFFFFFFFFFFFFFFFF := by
  decide +kernel

theorem parseWorkIterations_le {option text : List Byte} {iterations : UInt32}
    (hparse : parseWorkIterations option text = .ok iterations) :
    iterations.toNat ≤ kMaxWorkIterations.toNat := by
  obtain ⟨value, -, hrest⟩ := ok_of_bind hparse
  split at hrest
  · cases hrest
  · next hle =>
      cases hrest
      exact toUInt32_le_max hle

/-- What holds of a configuration while its options are read. -/
structure Checked (config : BenchmarkConfig) : Prop where
  clients : 0 < config.clients.toNat
  payloadSize : 0 < config.payloadSize.toNat
  workIterations : config.workIterations.toNat ≤ kMaxWorkIterations.toNat

theorem checked_defaultConfig (hardwareConcurrency : UInt32) :
    Checked (defaultConfig hardwareConcurrency) :=
  ⟨show 0 < (4 : UInt64).toNat by decide, show 0 < (64 : UInt64).toNat by decide,
    show (1000 : UInt32).toNat ≤ kMaxWorkIterations.toNat by decide⟩

theorem Checked.setOption {config accepted : BenchmarkConfig} {option value : List Byte}
    (h : Checked config) (hset : setOption config option value = .ok accepted) :
    Checked accepted := by
  unfold Benchmark.setOption at hset
  split at hset
  · obtain ⟨clients, hclients, hdone⟩ := ok_of_bind hset
    cases hdone
    exact ⟨parsePositiveSize_pos hclients, h.payloadSize, h.workIterations⟩
  split at hset
  · obtain ⟨requestsPerClient, -, hdone⟩ := ok_of_bind hset
    cases hdone
    exact ⟨h.clients, h.payloadSize, h.workIterations⟩
  split at hset
  · obtain ⟨payloadSize, hsize, hdone⟩ := ok_of_bind hset
    cases hdone
    exact ⟨h.clients, parsePositiveSize_pos hsize, h.workIterations⟩
  split at hset
  · obtain ⟨workers, -, hdone⟩ := ok_of_bind hset
    cases hdone
    exact ⟨h.clients, h.payloadSize, h.workIterations⟩
  split at hset
  · obtain ⟨messageType, -, hdone⟩ := ok_of_bind hset
    cases hdone
    exact ⟨h.clients, h.payloadSize, h.workIterations⟩
  split at hset
  · obtain ⟨workIterations, hiterations, hdone⟩ := ok_of_bind hset
    cases hdone
    exact ⟨h.clients, h.payloadSize, parseWorkIterations_le hiterations⟩
  · cases hset

theorem Checked.parseOptions {config accepted : BenchmarkConfig} {args : List (List Byte)}
    (h : Checked config) (hparse : parseOptions config args = .ok accepted) : Checked accepted := by
  fun_induction Benchmark.parseOptions config args with
  | case1 =>
      cases hparse
      exact h
  | case2 | case3 => cases hparse
  | case4 _ _ _ _ _ hset ih => exact ih (h.setOption hset) hparse

/-- What `ParseArgs` has checked when it returns. -/
theorem parseArgs_checked {hardwareConcurrency : UInt32} {argv : List (List Byte)}
    {config : BenchmarkConfig} (hparse : parseArgs hardwareConcurrency argv = .ok config) :
    Checked config ∧ (config.messageType = .kWork →
      config.payloadSize.toNat ≤ kMaxPayloadSize - kWorkIterationBytes) := by
  obtain ⟨parsed, hoptions, hsizes⟩ := ok_of_bind hparse
  have hchecked := (checked_defaultConfig hardwareConcurrency).parseOptions hoptions
  unfold checkSizes at hsizes
  split at hsizes
  · cases hsizes
  split at hsizes
  · cases hsizes
  next hroom =>
  split at hsizes
  · cases hsizes
  · cases hsizes
    exact ⟨hchecked, fun hwork => Nat.le_of_not_lt fun hlong => hroom ⟨hwork, hlong⟩⟩

end Benchmark

theorem ne_kEcho_of_kWork {type : AppMessageType} (hwork : type = .kWork) : type ≠ .kEcho := by
  rw [hwork]
  decide

/-- A payload that a front end accepts for work is shorter than any size limit. -/
theorem le_kMaxSize_of_accepted {length : ℕ} (hroom : length ≤ kMaxPayloadSize - 4) :
    length ≤ kMaxSize :=
  Nat.le_trans hroom (by decide)

namespace Client

/-- In work mode the request can always be sent. -/
theorem encodeMessage_buildRequest {config : ClientConfig} (hwork : config.messageType = .kWork)
    (hroom : config.payload.length ≤ kMaxPayloadSize - 4) :
    (encodeMessage (buildRequest config)).isSome = true := by
  have hkind := ne_kEcho_of_kWork hwork
  rw [encodeMessage_isSome_iff, buildRequest, if_neg hkind]
  refine ⟨?_, rfl⟩
  rw [length_encodeWorkRequestPayload]
  have hsize : kMaxPayloadSize = 65536 := rfl
  have hbytes : kIterationBytes = 4 := rfl
  omega

/-- It is answered with a digest when the total work keeps the limit of the handler,
and with an error otherwise. -/
theorem handleRequest_buildRequest {config : ClientConfig} (hwork : config.messageType = .kWork)
    (hiterations : config.workIterations.toNat ≤ kMaxWorkIterations.toNat)
    (hroom : config.payload.length ≤ kMaxPayloadSize - 4) :
    if config.workIterations.toNat * max 1 config.payload.length ≤ kMaxWorkUnits.toNat then
      (handleRequest (buildRequest config)).type = .kWorkResponse
    else (handleRequest (buildRequest config)).type = .kErrorResponse := by
  have hkind := ne_kEcho_of_kWork hwork
  have hsize := le_kMaxSize_of_accepted hroom
  rw [handleRequest_eq, buildRequest, if_neg hkind]
  split
  · next hunits =>
      exact (type_handleOwnedRequest_work_iff hsize 1).mpr ⟨hiterations, hunits⟩
  · next hunits =>
      rw [handleOwnedRequest_work_of_not_within hsize fun hwithin => hunits hwithin.2]
      rfl

end Client

namespace Benchmark

/-- The template of a work request is prepared when the total work keeps the limit of
the handler, and then it expects what the handler answers, whatever id the request
gets. Otherwise there is none. -/
theorem buildClientRequestTemplate_work {config : BenchmarkConfig}
    (hwork : config.messageType = .kWork) (hchecked : Checked config)
    (hroom : config.payloadSize.toNat ≤ kMaxPayloadSize - kWorkIterationBytes)
    (clientIndex : UInt64) :
    if config.workIterations.toNat * config.payloadSize.toNat ≤ kMaxWorkUnits.toNat then
      ∃ template, buildClientRequestTemplate clientIndex config = .ok template ∧
        ∀ requestId, handleRequest ⟨template.requestType, requestId, template.requestPayload⟩ =
          ⟨.kWorkResponse, requestId, template.expectedResponsePayload⟩
    else buildClientRequestTemplate clientIndex config =
      .error (.logicError (bytesOf "failed to prepare expected work response")) := by
  have hkind := ne_kEcho_of_kWork hwork
  generalize hseed : List.replicate config.payloadSize.toNat (clientIndex &&& 0xFF).toUInt8 = seed
  have hlength : seed.length = config.payloadSize.toNat := by
    rw [← hseed, List.length_replicate]
  have hsize : seed.length ≤ kMaxSize := le_kMaxSize_of_accepted (hlength ▸ hroom)
  have hunits : config.payloadSize.toNat = max 1 seed.length := by
    have hpos := hchecked.payloadSize
    omega
  simp only [buildClientRequestTemplate, if_neg hkind, hseed, handleRequest_eq]
  rw [hunits]
  split
  · next hwithin =>
      have hanswer := handleOwnedRequest_work_of_within hsize ⟨hchecked.workIterations, hwithin⟩
      rw [hanswer 0]
      exact ⟨_, if_neg (not_not.mpr rfl), hanswer⟩
  · next hover =>
      rw [handleOwnedRequest_work_of_not_within hsize fun hwithin => hover hwithin.2]
      exact if_pos (show ¬ MessageType.kErrorResponse = .kWorkResponse by decide)

end Benchmark

/-- Every work configuration that the benchmark accepts leads to a template, for every
client, exactly when its iterations times its payload size keep the limit of the
handler, and to the exception otherwise; every one that the client accepts leads to a
request that can be sent, and that is answered with a digest exactly when the same
holds of it. -/
theorem accepted_work_answered :
    (∀ hardwareConcurrency argv config clientIndex,
      Benchmark.parseArgs hardwareConcurrency argv = .ok config → config.messageType = .kWork →
      if config.workIterations.toNat * config.payloadSize.toNat ≤ kMaxWorkUnits.toNat then
        ∃ template, Benchmark.buildClientRequestTemplate clientIndex config = .ok template ∧
          ∀ requestId, handleRequest ⟨template.requestType, requestId, template.requestPayload⟩ =
            ⟨.kWorkResponse, requestId, template.expectedResponsePayload⟩
      else Benchmark.buildClientRequestTemplate clientIndex config =
        .error (.logicError (bytesOf "failed to prepare expected work response"))) ∧
    ∀ argv config, Client.parseArgs argv = .ok config → config.messageType = .kWork →
      (encodeMessage (Client.buildRequest config)).isSome = true ∧
      if config.workIterations.toNat * max 1 config.payload.length ≤ kMaxWorkUnits.toNat then
        (handleRequest (Client.buildRequest config)).type = .kWorkResponse
      else (handleRequest (Client.buildRequest config)).type = .kErrorResponse := by
  constructor
  · intro hardwareConcurrency argv config clientIndex hparse hwork
    obtain ⟨hchecked, hroom⟩ := Benchmark.parseArgs_checked hparse
    exact Benchmark.buildClientRequestTemplate_work hwork hchecked (hroom hwork) clientIndex
  · intro argv config hparse hwork
    obtain ⟨hiterations, hroom⟩ := Client.parseArgs_checked hparse
    exact ⟨Client.encodeMessage_buildRequest hwork (hroom hwork),
      Client.handleRequest_buildRequest hwork hiterations (hroom hwork)⟩

/-- Arguments of the benchmark for 68 bytes and a million iterations. -/
def heavyBenchmarkArgs : List (List Byte) :=
  ["pulsecore_epoll_benchmark", "--message-type", "work", "--payload-size", "68",
    "--work-iterations", "1000000"].map bytesOf

/-- The same for the client. -/
def heavyClientArgs : List (List Byte) :=
  [bytesOf "pulsecore_client", bytesOf "9000", List.replicate 68 0x78, bytesOf "--message-type",
    bytesOf "work", bytesOf "--work-iterations", bytesOf "1000000"]

/-- Both front ends accept a million iterations over 68 bytes, and the handler does
not. -/
theorem accepted_work_refused :
    (∃ config, Benchmark.parseArgs 8 heavyBenchmarkArgs = .ok config ∧
      config.messageType = .kWork ∧ Benchmark.buildClientRequestTemplate 0 config =
        .error (.logicError (bytesOf "failed to prepare expected work response"))) ∧
    ∃ config, Client.parseArgs heavyClientArgs = .ok config ∧ config.messageType = .kWork ∧
      (handleRequest (Client.buildRequest config)).type ≠ .kWorkResponse := by
  constructor
  · exact ⟨⟨4, 1000, 68, 4, .kWork, 1000000⟩, by decide +kernel, rfl, by decide +kernel⟩
  · exact ⟨⟨9000, List.replicate 68 0x78, .kWork, 1000000⟩, by decide +kernel, rfl,
      by decide +kernel⟩

end PulseCore.Apps
