/-
# The session machine

What the server is for, without the tables, descriptors and buffers it is made
of: each live connection is a session between two byte streams, and the pipeline
is shared by all of them. A step of the machine is one thing that can happen to a
session or to the pipeline, with exactly the conditions under which it happens.

The handlers of the server are sequences of such steps. An invariant of the
server's traffic is therefore proved here, once for each kind of step, and not
once for each path through a handler.

A session's `inbox` holds the messages a handler has decoded and not yet
submitted. Between two handler calls it is empty.
-/

import PulseCore.Network.EpollEchoServer
import PulseCore.Foundation.Ledger

namespace PulseCore.Traffic

open PulseCore.Foundation PulseCore.Core PulseCore.Protocol PulseCore.Network

/-- A live connection. -/
structure Session where
  undecoded : List Byte
  inbox : List Message
  unsent : List Byte
  flow : ConnectionFlow

/-- A session that was just accepted. -/
def Session.fresh : Session := ⟨[], [], [], {}⟩

/-- What went over the wire of a connection, also after it was removed. -/
structure Wire where
  received : List Byte := []
  sent : List Byte := []
  peerClosed : Bool := false

structure State where
  nextId : ConnectionId
  sessions : ConnectionId → Option Session
  wires : ConnectionId → Wire
  pipeline : Pipeline
  /-- Results that were swapped out and are still to be handled. -/
  batch : List WorkResult
  /-- The connections that were removed because they had nothing left to do. -/
  drained : List ConnectionId

namespace State

/-- The requests of a connection that were submitted, in order. -/
def requests (v : State) (id : ConnectionId) : List Message := v.pipeline.requestsOf id

/-- The results that are published and not yet handled. -/
def results (v : State) : List WorkResult := v.pipeline.completedWork ++ v.batch

/-- The work that is on its way, wherever it is. -/
def keys (v : State) : List WorkKey := v.pipeline.keys ++ v.batch.map WorkResult.key

/-- Replace a live session. -/
def setSession (v : State) (id : ConnectionId) (session : Session) : State :=
  { v with sessions := Function.update v.sessions id (some session) }

/-- Remove a session. -/
def endSession (v : State) (id : ConnectionId) : State :=
  { v with sessions := Function.update v.sessions id none }

/-- Replace the record of a wire. -/
def setWire (v : State) (id : ConnectionId) (wire : Wire) : State :=
  { v with wires := Function.update v.wires id wire }

end State

/-- One thing that can happen. -/
inductive Step (config : ServerConfig) : State → State → Prop
  /-- A worker thread takes a step. -/
  | work (v : State) (action : WorkerAction) :
      Step config v { v with pipeline := v.pipeline.work config.options.handler action }
  /-- The eventfd is read or written. -/
  | wake (v : State) (workerWakeup : Eventfd) :
      Step config v { v with pipeline := { v.pipeline with workerWakeup } }
  /-- The worker pool is stopped. -/
  | stopPool (v : State) : Step config v { v with pipeline := v.pipeline.stop }
  /-- A client is accepted under the next number. -/
  | accept (v : State) (hids : v.nextId.value ≠ kMaxUInt64) :
      Step config v
        ({ v with nextId := ⟨v.nextId.value + 1⟩ }.setSession v.nextId .fresh |>.setWire v.nextId {})
  /-- Bytes arrive, and the frames that are complete with them are decoded. -/
  | receive (v : State) {id : ConnectionId} {session : Session}
      (hlive : v.sessions id = some session) (hinbox : session.inbox = [])
      (hopen : session.flow.closeAfterFlush = false)
      (bytes : List Byte) (messages : List Message) (rest : List Byte) (peerClosed : Bool)
      (hsplits : frameFormat.Splits (session.undecoded ++ bytes) messages rest) :
      Step config v
        (v.setSession id { session with undecoded := rest, inbox := messages } |>.setWire id
          { received := (v.wires id).received ++ bytes
            sent := (v.wires id).sent
            peerClosed := (v.wires id).peerClosed || peerClosed })
  /-- The first decoded message is submitted. -/
  | submit (v : State) {id : ConnectionId} {session : Session} {message : Message}
      {messages : List Message} {pipeline : Pipeline}
      (hlive : v.sessions id = some session) (hinbox : session.inbox = message :: messages)
      (hroom : (session.flow.nextRequestSequence - session.flow.nextResponseSequence).toNat <
        config.options.maxInFlightRequestsPerConnection)
      (hsubmit : v.pipeline.trySubmit ⟨id, session.flow.nextRequestSequence, message⟩ =
        (true, pipeline)) :
      Step config v
        ({ v with pipeline }.setSession id
          { session with
            inbox := messages
            flow :=
              { session.flow with
                nextRequestSequence := session.flow.nextRequestSequence + 1 } })
  /-- A connection whose peer has closed, and whose frames are all decoded, is
  to be closed once it is flushed. -/
  | close (v : State) {id : ConnectionId} {session : Session}
      (hlive : v.sessions id = some session) (hclosed : (v.wires id).peerClosed = true)
      (hdecoded : tryDecodeFrame session.undecoded = .needMoreData) :
      Step config v
        (v.setSession id { session with flow := { session.flow with closeAfterFlush := true } })
  /-- The epoll registration of a connection changes. -/
  | register (v : State) {id : ConnectionId} {session : Session}
      (hlive : v.sessions id = some session) (registered : Bool) :
      Step config v
        (v.setSession id
          { session with flow := { session.flow with registeredWithEpoll := registered } })
  /-- Output is sent. -/
  | transmit (v : State) {id : ConnectionId} {session : Session}
      (hlive : v.sessions id = some session) (bytes rest : List Byte)
      (hunsent : session.unsent = bytes ++ rest) :
      Step config v
        (v.setSession id { session with unsent := rest } |>.setWire id
          { received := (v.wires id).received
            sent := (v.wires id).sent ++ bytes
            peerClosed := (v.wires id).peerClosed })
  /-- The completed work is swapped out. -/
  | swap (v : State) (hbatch : v.batch = []) :
      Step config v
        { v with
          pipeline := { v.pipeline with completedWork := [] }
          batch := v.pipeline.completedWork }
  /-- A result of a live connection goes to its reorder map. -/
  | deliver (v : State) {result : WorkResult} {batch : List WorkResult} {session : Session}
      (hbatch : v.batch = result :: batch)
      (hlive : v.sessions result.connectionId = some session) :
      Step config v
        ({ v with batch }.setSession result.connectionId
          { session with
            flow :=
              { session.flow with
                completedResponses := Server.emplace session.flow.completedResponses
                  result.sequence result.response } })
  /-- A result of a connection that is gone is dropped. -/
  | discard (v : State) {result : WorkResult} {batch : List WorkResult}
      (hbatch : v.batch = result :: batch) (hgone : v.sessions result.connectionId = none) :
      Step config v { v with batch }
  /-- The next response in order is queued for output. -/
  | release (v : State) {id : ConnectionId} {session : Session} {response : Message}
      {bytes : List Byte} (hlive : v.sessions id = some session)
      (hready : session.flow.completedResponses.lookup session.flow.nextResponseSequence =
        some response)
      (hencode : encodeMessage response = some bytes) :
      Step config v
        (v.setSession id
          { session with
            unsent := session.unsent ++ bytes
            flow :=
              { session.flow with
                nextResponseSequence := session.flow.nextResponseSequence + 1
                completedResponses := session.flow.completedResponses.erase
                  session.flow.nextResponseSequence } })
  /-- A connection is removed. -/
  | remove (v : State) (id : ConnectionId) : Step config v (v.endSession id)
  /-- A connection that has nothing left to do is removed. -/
  | drain (v : State) {id : ConnectionId} {session : Session}
      (hlive : v.sessions id = some session) (hinbox : session.inbox = [])
      (hclosing : session.flow.closeAfterFlush = true) (hunsent : session.unsent = [])
      (hanswered : session.flow.nextRequestSequence ≤ session.flow.nextResponseSequence) :
      Step config v { v.endSession id with drained := id :: v.drained }

/-- The machine before anything has happened. -/
def State.start (pipeline : Pipeline) : State :=
  ⟨⟨1⟩, fun _ => none, fun _ => {}, pipeline, [], []⟩

end PulseCore.Traffic
