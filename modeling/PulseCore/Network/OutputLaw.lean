/-
# The output of a connection over its whole life

Messages are queued and bytes are sent in any order, with any budgets and
whatever the kernel answers. Behind every call the bytes the kernel has taken,
followed by those still pending, are the frames of the messages that were
accepted, in the order they were accepted. The storage never passes the output
limit, and whether a message is accepted depends only on its frame and on what is
pending. With the default limits an empty buffer has room for the largest frame, so
the answer to any request that decodes can be queued there.

A call that throws leaves the connection behind as any other does, so it needs no
case of its own.
-/

import PulseCore.Core.HandlerLaw
import PulseCore.Network.ConnectionLaws

namespace PulseCore.Network

open PulseCore.Foundation PulseCore.Protocol PulseCore.Core

/-- One use of the output side of a connection. -/
inductive OutputCall
  | queueOutput (message : Message)
  | writeAvailable (maxWriteBytes : ℕ) (answers : List SendResult)

/-- A connection with what became of its output: the messages for which
`QueueOutput` returned true, and every `send` that was issued. -/
structure OutputHistory where
  connection : Connection
  accepted : List Message
  sends : List SendCall

namespace OutputHistory

/-- A connection that was just created. -/
def start (id : ConnectionId) (fd : Fd) (limits : ConnectionLimits) : OutputHistory :=
  ⟨.create id fd limits, [], []⟩

def call (h : OutputHistory) : OutputCall → OutputHistory
  | .queueOutput message =>
      match h.connection.queueOutput message with
      | (true, connection) => { h with connection, accepted := h.accepted ++ [message] }
      | (false, connection) => { h with connection }
  | .writeAvailable maxWriteBytes answers =>
      let out := h.connection.writeAvailable maxWriteBytes answers
      { h with connection := out.connection, sends := h.sends ++ out.calls }

/-- The history behind a sequence of calls. -/
def run (id : ConnectionId) (fd : Fd) (limits : ConnectionLimits) (calls : List OutputCall) :
    OutputHistory :=
  calls.foldl call (start id fd limits)

/-- What holds behind every call. -/
structure Lawful (limits : ConnectionLimits) (h : OutputHistory) : Prop where
  configured : h.connection.limits = limits
  stream : encodeAll h.accepted = some (sentBytes h.sends ++ h.connection.unsent)
  storage : h.connection.outputStorageBytes ≤ limits.maxOutputBuffer

theorem lawful_start (id : ConnectionId) (fd : Fd) (limits : ConnectionLimits) :
    Lawful limits (start id fd limits) :=
  ⟨rfl, rfl, Nat.zero_le _⟩

theorem lawful_queueOutput {limits : ConnectionLimits} {h : OutputHistory}
    (hlaw : Lawful limits h) (message : Message) :
    Lawful limits (h.call (.queueOutput message)) := by
  have hspec := h.connection.queueOutput_spec message
  have hstorage := hlaw.storage
  rw [call]
  split
  · next c hqueue =>
      rw [hqueue] at hspec
      obtain ⟨frame, hframe, -, hunsent⟩ := hspec.appended rfl
      refine ⟨hspec.same.limits.trans hlaw.configured, ?_, ?_⟩
      · rw [encodeAll_append_singleton hlaw.stream hframe, List.append_assoc, hunsent]
      · rw [← hlaw.configured] at hstorage ⊢
        exact hspec.storage hstorage
  · next c hqueue =>
      rw [hqueue] at hspec
      refine ⟨hspec.same.limits.trans hlaw.configured, ?_, ?_⟩
      · rw [hlaw.stream, hspec.refused rfl]
      · rw [← hlaw.configured] at hstorage ⊢
        exact hspec.storage hstorage

theorem lawful_writeAvailable {limits : ConnectionLimits} {h : OutputHistory}
    (hlaw : Lawful limits h) (maxWriteBytes : ℕ) (answers : List SendResult) :
    Lawful limits (h.call (.writeAvailable maxWriteBytes answers)) := by
  have hspec := h.connection.writeAvailable_spec maxWriteBytes answers
  refine ⟨hspec.same.limits.trans hlaw.configured, ?_, Nat.le_trans hspec.storage hlaw.storage⟩
  simp only [call, sentBytes_append]
  rw [hlaw.stream, hspec.split, List.append_assoc]

theorem lawful_run (id : ConnectionId) (fd : Fd) (limits : ConnectionLimits)
    (calls : List OutputCall) : Lawful limits (run id fd limits calls) := by
  apply List.foldlRecOn calls call (lawful_start id fd limits)
  intro h hlaw next _
  cases next with
  | queueOutput message => exact lawful_queueOutput hlaw message
  | writeAvailable maxWriteBytes answers => exact lawful_writeAvailable hlaw maxWriteBytes answers

end OutputHistory

/-- A message is accepted exactly when it can be encoded and its frame fits behind
what is pending. -/
theorem Connection.queueOutput_eq_true_iff (c : Connection) (message : Message) :
    (c.queueOutput message).1 = true ↔
      ∃ frame, encodeMessage message = some frame ∧
        frame.length + c.pendingOutputBytes ≤ c.limits.maxOutputBuffer := by
  constructor
  · intro hqueued
    obtain ⟨frame, hframe, hroom, -⟩ := (c.queueOutput_spec message).appended hqueued
    refine ⟨frame, hframe, ?_⟩
    rw [pendingOutputBytes_eq, Nat.add_comm]
    exact hroom
  · rintro ⟨frame, hframe, hroom⟩
    have hpending : ({ c with output := compactOutputBuffer c.output } :
        Connection).pendingOutputBytes = c.pendingOutputBytes := by
      rw [pendingOutputBytes_eq, pendingOutputBytes_eq]
      exact congrArg List.length (pending_compactOutputBuffer c.output)
    have hfull : ¬ c.pendingOutputBytes > c.limits.maxOutputBuffer := by omega
    have hfits : ¬ frame.length > c.limits.maxOutputBuffer - c.pendingOutputBytes := by omega
    unfold queueOutput
    rw [hframe]
    simp only [hpending]
    rw [if_neg hfull, if_neg hfits]
    split <;> rfl

/-- The output law, behind every sequence of calls on a new connection. -/
theorem output_law (id : ConnectionId) (fd : Fd) (limits : ConnectionLimits)
    (calls : List OutputCall) :
    encodeAll (OutputHistory.run id fd limits calls).accepted =
      some (sentBytes (OutputHistory.run id fd limits calls).sends ++
        (OutputHistory.run id fd limits calls).connection.unsent) ∧
    ((OutputHistory.run id fd limits calls).connection.output.offset ≤
        (OutputHistory.run id fd limits calls).connection.output.buffer.length ∧
      (OutputHistory.run id fd limits calls).connection.output.buffer.length ≤
        limits.maxOutputBuffer) ∧
    ∀ message,
      (((OutputHistory.run id fd limits calls).connection.queueOutput message).1 = true ↔
        ∃ frame, encodeMessage message = some frame ∧
          frame.length + (OutputHistory.run id fd limits calls).connection.pendingOutputBytes ≤
            limits.maxOutputBuffer) ∧
      (((OutputHistory.run id fd limits calls).connection.queueOutput message).1 = false →
        ((OutputHistory.run id fd limits calls).connection.queueOutput message).2.unsent =
          (OutputHistory.run id fd limits calls).connection.unsent) := by
  have hlaw := OutputHistory.lawful_run id fd limits calls
  generalize OutputHistory.run id fd limits calls = h at hlaw ⊢
  refine ⟨hlaw.stream, ⟨h.connection.output.offset_le, hlaw.storage⟩, fun message => ⟨?_, ?_⟩⟩
  · rw [← hlaw.configured]
    exact h.connection.queueOutput_eq_true_iff message
  · exact (h.connection.queueOutput_spec message).refused

/-- The largest frame fits an output buffer of the default size. -/
theorem Connection.queueOutput_of_idle {c : Connection} {message : Message}
    (hlimits : c.limits = {}) (hidle : c.hasPendingOutput = false)
    (hencode : (encodeMessage message).isSome = true) : (c.queueOutput message).1 = true := by
  obtain ⟨frame, hframe⟩ := Option.isSome_iff_exists.mp hencode
  have hpayload := (valid_of_encodeMessage hframe).1
  refine (c.queueOutput_eq_true_iff message).mpr ⟨frame, hframe, ?_⟩
  rw [pendingOutputBytes_eq, (c.hasPendingOutput_eq_false_iff).mp hidle, length_encodeMessage hframe,
    hlimits]
  exact Nat.add_le_add_left hpayload kHeaderSize

/-- A request that decodes has an answer that belongs to it, that can be encoded and
decoded again, that an idle connection takes, and that is refused as a request. -/
theorem decoded_request_answered {bytes : List Byte} {request : Message} {n : ℕ}
    (hdecode : tryDecodeFrame bytes = .decoded request n) :
    AnswerOf request (handleOwnedRequest request) ∧
    (∃ frame, encodeMessage (handleOwnedRequest request) = some frame ∧
      tryDecodeFrame frame = .decoded (handleOwnedRequest request) frame.length ∧
      frame.length ≤ kHeaderSize + kMaxPayloadSize) ∧
    (∀ c : Connection, c.limits = {} → c.hasPendingOutput = false →
      (c.queueOutput (handleOwnedRequest request)).1 = true) ∧
    (handleOwnedRequest (handleOwnedRequest request)).type = .kErrorResponse := by
  obtain ⟨-, -, hpayload, -⟩ := tryDecodeFrame_decoded hdecode
  have hencode := encodeMessage_handleOwnedRequest hpayload
  obtain ⟨frame, hframe⟩ := Option.isSome_iff_exists.mp hencode
  have hlength := length_encodeMessage hframe
  refine ⟨answerOf_handleOwnedRequest request, ⟨frame, hframe, ?_, ?_⟩, ?_, ?_⟩
  · have hback := tryDecodeFrame_encoded hframe []
    rwa [List.append_nil, ← hlength] at hback
  · rw [hlength]
    exact Nat.add_le_add_left (valid_of_encodeMessage hframe).1 kHeaderSize
  · intro c hlimits hidle
    exact c.queueOutput_of_idle hlimits hidle hencode
  · rw [handleOwnedRequest_of_response (type_handleOwnedRequest request)]
    rfl

/-- An echo request with two bytes of payload, as it arrives. -/
def echoFrame : List Byte :=
  [0x50, 0x55, 0x4C, 0x53, 0, 1, 0, 1, 0, 0, 0, 2, 0, 0, 0, 0, 0, 0, 0, 7, 0x68, 0x69]

theorem decoded_request_answered_sample :
    tryDecodeFrame echoFrame = .decoded ⟨.kEchoRequest, 7, [0x68, 0x69]⟩ 22 ∧
    ((Connection.create ⟨1⟩ 5 {}).queueOutput
      (handleOwnedRequest ⟨.kEchoRequest, 7, [0x68, 0x69]⟩)).1 = true := by
  have hdecode : tryDecodeFrame echoFrame = .decoded ⟨.kEchoRequest, 7, [0x68, 0x69]⟩ 22 := by
    decide
  exact ⟨hdecode, (decoded_request_answered hdecode).2.2.1 _ rfl rfl⟩

end PulseCore.Network
