/-
# The non-blocking connection

One socket, its frame decoder, and its output buffer. `readAvailable` receives
up to a byte budget and returns every frame that became complete; `queueOutput`
appends one encoded message unless that would pass the output limit;
`writeAvailable` sends up to a byte budget. The kernel's answers are arguments,
and every call made is part of the result.

The two loops are cut at their system call, because that is where each of them
continues, returns or throws: `beforeRecv` and `afterRecv` are the two halves of
the body of the read loop.
-/

import PulseCore.Network.Syscall

namespace PulseCore.Network

open PulseCore.Foundation PulseCore.Protocol

structure ConnectionId where
  value : UInt64
  deriving DecidableEq

structure ConnectionLimits where
  maxInputBuffer : ℕ := kHeaderSize + kMaxPayloadSize
  maxOutputBuffer : ℕ := kHeaderSize + kMaxPayloadSize
  deriving DecidableEq

def kDefaultMaxReadBytesPerEvent : ℕ := 64 * 1024
def kDefaultMaxWriteBytesPerEvent : ℕ := 64 * 1024

inductive ReadAvailableStatus
  | kOk
  | kWouldBlock
  | kPeerClosed
  | kProtocolError
  deriving DecidableEq

structure ReadAvailableResult where
  status : ReadAvailableStatus
  messages : List Message
  protocolError : Option ProtocolError
  deriving DecidableEq

namespace ReadAvailableResult

def ok (messages : List Message) : ReadAvailableResult := ⟨.kOk, messages, none⟩
def wouldBlock : ReadAvailableResult := ⟨.kWouldBlock, [], none⟩
def peerClosed (messages : List Message) : ReadAvailableResult := ⟨.kPeerClosed, messages, none⟩
def protocolErrorResult (error : ProtocolError) (messages : List Message) : ReadAvailableResult :=
  ⟨.kProtocolError, messages, some error⟩

end ReadAvailableResult

inductive WriteAvailableStatus
  | kOk
  | kWouldBlock
  | kPeerClosed
  deriving DecidableEq

structure WriteAvailableResult where
  status : WriteAvailableStatus
  bytesWritten : ℕ
  deriving DecidableEq

structure Connection where
  id : ConnectionId
  fd : Fd
  limits : ConnectionLimits
  decoder : FrameDecoder
  output : OffsetBuffer Byte

namespace Connection

/-- `Connection::Connection`. -/
def create (id : ConnectionId) (fd : Fd) (limits : ConnectionLimits) : Connection :=
  ⟨id, fd, limits, .empty, .empty⟩

def pendingOutputBytes (c : Connection) : ℕ := c.output.buffer.length - c.output.offset

def hasPendingOutput (c : Connection) : Bool := c.pendingOutputBytes > 0

def outputStorageBytes (c : Connection) : ℕ := c.output.buffer.length

def bufferedInputBytes (c : Connection) : ℕ := c.decoder.bufferedSize

/-- The loop of `DrainDecoder`. A frame is never empty, so the number of buffered
bytes bounds the number of passes. -/
def drainDecoderWith : ℕ → FrameDecoder → List Message →
    Option ProtocolError × FrameDecoder × List Message
  | 0, decoder, messages => (none, decoder, messages)
  | fuel + 1, decoder, messages =>
      match decoder.next with
      | (.needMoreData, decoder) => (none, decoder, messages)
      | (.error e, decoder) => (some e, decoder, messages)
      | (.decoded message _, decoder) => drainDecoderWith fuel decoder (messages ++ [message])

def drainDecoder (decoder : FrameDecoder) (messages : List Message) :
    Option ProtocolError × FrameDecoder × List Message :=
  drainDecoderWith (decoder.bufferedSize + 1) decoder messages

/-- The local variables of `ReadAvailable`, with the connection it works on. -/
structure ReadState where
  connection : Connection
  messages : List Message
  madeProgress : Bool
  totalRead : ℕ

/-- How the loop of `ReadAvailable` gets to its system call: it returns before,
or it asks for so many bytes. -/
inductive ReadPass
  | finished (result : ReadAvailableResult)
  | recv (bytesToRead : ℕ)

/-- The size of the buffer on the stack of `ReadAvailable`. -/
def kReadChunk : ℕ := 4096

/-- The body of the read loop up to `recv`. -/
def beforeRecv (maxReadBytes : ℕ) (st : ReadState) : ReadState × ReadPass :=
  match drainDecoder st.connection.decoder st.messages with
  | (some error, decoder, messages) =>
      ({ st with connection := { st.connection with decoder }, messages },
        .finished (.protocolErrorResult error messages))
  | (none, decoder, messages) =>
      let st := { st with connection := { st.connection with decoder }, messages }
      if st.totalRead ≥ maxReadBytes then (st, .finished (.ok messages))
      else if decoder.bufferedSize ≥ st.connection.limits.maxInputBuffer then
        (st, .finished (.protocolErrorResult .kPayloadTooLarge messages))
      else
        let readBudget := maxReadBytes - st.totalRead
        let inputSpace := st.connection.limits.maxInputBuffer - decoder.bufferedSize
        (st, .recv (min kReadChunk (min readBudget inputSpace)))

/-- What the read loop returns when `recv` would block. -/
def readWouldBlock (st : ReadState) : ReadAvailableResult :=
  if st.madeProgress || !st.messages.isEmpty then .ok st.messages else .wouldBlock

/-- The body of the read loop behind `recv`; without a result it goes round. -/
def afterRecv (st : ReadState) :
    RecvResult → ReadState × Option (Except Exception ReadAvailableResult)
  | .failed error =>
      if error = .eintr then (st, none)
      else if isWouldBlock error then (st, some (.ok (readWouldBlock st)))
      else if isPeerClosedError error then (st, some (.ok (.peerClosed st.messages)))
      else (st, some (.error (.syscallError "recv" error)))
  | .received [] => (st, some (.ok (.peerClosed st.messages)))
  | .received (byte :: bytes) =>
      ({ st with
          connection :=
            { st.connection with decoder := st.connection.decoder.append (byte :: bytes) }
          madeProgress := true
          totalRead := st.totalRead + (byte :: bytes).length }, none)

/-- What a call of `ReadAvailable` comes to. -/
structure ReadOutcome where
  result : Except Exception ReadAvailableResult
  connection : Connection
  calls : List RecvCall

def readLoop (maxReadBytes : ℕ) (answers : List RecvResult) (st : ReadState) : ReadOutcome :=
  match beforeRecv maxReadBytes st with
  | (st, .finished result) => ⟨.ok result, st.connection, []⟩
  | (st, .recv bytesToRead) =>
      match answers with
      | [] => ⟨.ok (readWouldBlock st), st.connection, [⟨bytesToRead, .failed .eagain⟩]⟩
      | answer :: answers =>
          let call : RecvCall := ⟨bytesToRead, answer.within bytesToRead⟩
          match afterRecv st call.result with
          | (st, some result) => ⟨result, st.connection, [call]⟩
          | (st, none) =>
              let outcome := readLoop maxReadBytes answers st
              ⟨outcome.result, outcome.connection, call :: outcome.calls⟩

def readAvailable (c : Connection) (maxReadBytes : ℕ) (answers : List RecvResult) : ReadOutcome :=
  readLoop maxReadBytes answers ⟨c, [], false, 0⟩

def compactOutputBuffer (output : OffsetBuffer Byte) : OffsetBuffer Byte :=
  if output.offset = 0 then output
  else if output.offset ≥ output.buffer.length then .empty
  else output.compact

def queueOutput (c : Connection) (message : Message) : Bool × Connection :=
  match encodeMessage message with
  | none => (false, c)
  | some encoded =>
      let c := { c with output := compactOutputBuffer c.output }
      let pending := c.pendingOutputBytes
      if pending > c.limits.maxOutputBuffer then (false, c)
      else if encoded.length > c.limits.maxOutputBuffer - pending then (false, c)
      else if pending = 0 then (true, { c with output := .ofList encoded })
      else (true, { c with output := c.output.append encoded })

/-- What a call of `WriteAvailable` comes to. -/
structure WriteOutcome where
  result : Except Exception WriteAvailableResult
  connection : Connection
  calls : List SendCall

def writeLoop (maxWriteBytes : ℕ) (answers : List SendResult) (c : Connection) (written : ℕ) :
    WriteOutcome :=
  if c.output.offset < c.output.buffer.length then
    if written ≥ maxWriteBytes then ⟨.ok ⟨.kOk, written⟩, c, []⟩
    else
      let remainingBudget := maxWriteBytes - written
      let bytesToWrite := min c.output.pending.length remainingBudget
      let offered := c.output.pending.take bytesToWrite
      match answers with
      | [] => ⟨.ok ⟨.kWouldBlock, written⟩, c, [⟨offered, .failed .eagain⟩]⟩
      | .failed error :: answers =>
          let call : SendCall := ⟨offered, .failed error⟩
          if error = .eintr then
            let outcome := writeLoop maxWriteBytes answers c written
            ⟨outcome.result, outcome.connection, call :: outcome.calls⟩
          else if isWouldBlock error then ⟨.ok ⟨.kWouldBlock, written⟩, c, [call]⟩
          else if isPeerClosedError error then ⟨.ok ⟨.kPeerClosed, written⟩, c, [call]⟩
          else ⟨.error (.syscallError "send" error), c, [call]⟩
      | .sent count :: answers =>
          -- `send` takes at most what it was offered
          let bytesSent := min count bytesToWrite
          let call : SendCall := ⟨offered, .sent bytesSent⟩
          if bytesSent = 0 then ⟨.ok ⟨.kWouldBlock, written⟩, c, [call]⟩
          else
            let output := c.output.advance bytesSent
              (Nat.le_trans (Nat.min_le_right _ _) (Nat.min_le_left _ _))
            let outcome := writeLoop maxWriteBytes answers { c with output } (written + bytesSent)
            ⟨outcome.result, outcome.connection, call :: outcome.calls⟩
  else ⟨.ok ⟨.kOk, written⟩, { c with output := .empty }, []⟩

def writeAvailable (c : Connection) (maxWriteBytes : ℕ) (answers : List SendResult) :
    WriteOutcome :=
  writeLoop maxWriteBytes answers c 0

end Connection

end PulseCore.Network
