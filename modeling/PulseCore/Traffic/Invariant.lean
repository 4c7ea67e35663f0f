/-
# The invariant of the session machine

Three facts about a connection hold at all times and carry everything else. Its
requests are the frames of what was received on it, in order, up to the ones that
are still to be submitted. Every request that is submitted and not yet answered
in order is in exactly one place: queued, held by a worker, published, or waiting
in the reorder map. And what was sent together with what is still unsent is the
encoding of the responses to the requests that were answered, in order.

Sequence numbers are 64-bit counters, so the last two are about connections with
fewer than 2^64 requests. Since requests are never taken back, a connection that
has that few of them now had that few of them always.
-/

import PulseCore.Traffic.Machine

namespace PulseCore.Traffic

open PulseCore.Foundation PulseCore.Core PulseCore.Protocol PulseCore.Network

theorem toNat_succ {s : UInt64} (hs : s.toNat + 1 < UInt64.size) : (s + 1).toNat = s.toNat + 1 := by
  rw [UInt64.toNat_add, UInt64.toNat_one, Nat.mod_eq_of_lt hs]

theorem toNat_lt (s : UInt64) : s.toNat < UInt64.size := UInt64.toNat_lt s

theorem toNat_sub {s t : UInt64} (hle : t.toNat ≤ s.toNat) :
    (s - t).toNat = s.toNat - t.toNat :=
  UInt64.toNat_sub_of_le s t (UInt64.le_iff_toNat_le.mpr hle)

/-- The sequence numbers that are submitted and not yet answered in order. -/
def inFlight (flow : ConnectionFlow) : Set UInt64 :=
  { s | flow.nextResponseSequence.toNat ≤ s.toNat ∧ s.toNat < flow.nextRequestSequence.toNat }

/-- The sequence numbers of one connection among keys of all connections. -/
def sequencesOf (id : ConnectionId) (keys : List WorkKey) : List UInt64 :=
  keys.filterMap fun key => if key.1 = id then some key.2 else none

@[simp]
theorem sequencesOf_cons_self (id : ConnectionId) (s : UInt64) (keys : List WorkKey) :
    sequencesOf id ((id, s) :: keys) = s :: sequencesOf id keys :=
  List.filterMap_cons_some (if_pos rfl)

theorem sequencesOf_cons_of_ne {id : ConnectionId} {key : WorkKey} (hne : key.1 ≠ id)
    (keys : List WorkKey) : sequencesOf id (key :: keys) = sequencesOf id keys :=
  List.filterMap_cons_none (if_neg hne)

theorem mem_sequencesOf {id : ConnectionId} {s : UInt64} {keys : List WorkKey} :
    s ∈ sequencesOf id keys ↔ (id, s) ∈ keys := by
  rw [sequencesOf, List.mem_filterMap]
  constructor
  · rintro ⟨⟨other, t⟩, hmem, heq⟩
    split at heq
    · next hid =>
        cases heq
        cases hid
        exact hmem
    · cases heq
  · intro hmem
    exact ⟨(id, s), hmem, if_pos rfl⟩

theorem sequencesOf_perm {keys keys' : List WorkKey} (hperm : keys'.Perm keys)
    (id : ConnectionId) : (sequencesOf id keys').Perm (sequencesOf id keys) :=
  hperm.filterMap _

section

variable (config : ServerConfig)

/-- The response to a request under the configured handler. -/
abbrev reply (request : Message) : Message := respond config.options.handler request

theorem reply_of_defaultHandler {config : ServerConfig}
    (hhandler : config.options.handler = defaultHandler) : reply config = handleRequest := by
  funext request
  rw [reply, hhandler, respond_defaultHandler, handleRequest_eq]

/-- The request number `s` of a connection has the response `response`. -/
def Answers (requests : List Message) (s : UInt64) (response : Message) : Prop :=
  ∃ request, requests[s.toNat]? = some request ∧ response = reply config request

/-- Everything outstanding of a connection: under way, or waiting to be in order. -/
def ledger (v : State) (id : ConnectionId) (flow : ConnectionFlow) : List UInt64 :=
  sequencesOf id v.keys ++ flow.completedResponses.keys

/-- The flow of a connection and the pipeline agree on what was submitted, what is
outstanding, and what the answers are. -/
structure FlowInv (v : State) (id : ConnectionId) (flow : ConnectionFlow) : Prop where
  requests : flow.nextRequestSequence.toNat = (v.requests id).length
  ordered : flow.nextResponseSequence.toNat ≤ flow.nextRequestSequence.toNat
  windowed : flow.nextRequestSequence.toNat ≤
    flow.nextResponseSequence.toNat + config.options.maxInFlightRequestsPerConnection
  once : OnceEach (ledger v id flow) (inFlight flow)
  items : ∀ item ∈ v.pipeline.items, item.connectionId = id →
    (v.requests id)[item.sequence.toNat]? = some item.request
  results : ∀ result ∈ v.results, result.connectionId = id →
    Answers config (v.requests id) result.sequence result.response
  responses : ∀ s response, flow.completedResponses.lookup s = some response →
    Answers config (v.requests id) s response

/-- What was sent, and is still to be sent, are the responses so far. -/
structure StreamInv (v : State) (id : ConnectionId) (session : Session) : Prop where
  output : encodeAll
      (((v.requests id).take session.flow.nextResponseSequence.toNat).map (reply config)) =
    some ((v.wires id).sent ++ session.unsent)
  closing : session.flow.closeAfterFlush = true →
    (v.wires id).peerClosed = true ∧ tryDecodeFrame session.undecoded = .needMoreData

/-- A live session keeps its books. -/
structure SessionInv (v : State) (id : ConnectionId) (session : Session) : Prop where
  flow : FlowInv config v id session.flow
  stream : StreamInv config v id session

/-- What was sent on a wire answers frames that were received on it, in order. -/
def WireInv (wire : Wire) : Prop :=
  ∃ answered bytes, answered <+: frameFormat.frames wire.received ∧
    encodeAll (answered.map (reply config)) = some bytes ∧ wire.sent <+: bytes

/-- A connection that was drained has answered everything it received. -/
structure DrainedInv (v : State) (id : ConnectionId) : Prop where
  peerClosed : (v.wires id).peerClosed = true
  requests : v.requests id = frameFormat.frames (v.wires id).received
  sent : encodeAll ((v.requests id).map (reply config)) = some (v.wires id).sent
  settled : sequencesOf id v.keys = []

/-- The invariant of one connection, live or not. -/
structure ConnectionInv (v : State) (id : ConnectionId) : Prop where
  live : ∀ session, v.sessions id = some session → SessionInv config v id session
  wire : WireInv config (v.wires id)
  drained : id ∈ v.drained → DrainedInv config v id

end

/-- Numbers are given out in order and not before their time. -/
structure Numbered (v : State) : Prop where
  sessions : ∀ id session, v.sessions id = some session →
    id.value.toNat < v.nextId.value.toNat
  accepted : ∀ item ∈ v.pipeline.accepted, item.connectionId.value.toNat < v.nextId.value.toNat
  keys : ∀ key ∈ v.keys, key.1.value.toNat < v.nextId.value.toNat
  drained : ∀ id ∈ v.drained, id.value.toNat < v.nextId.value.toNat
  gone : ∀ id ∈ v.drained, v.sessions id = none

/-- The requests of a connection are frames of what was received on it, in order;
those that a live session has not submitted yet are in its inbox. -/
structure Parsed (v : State) (id : ConnectionId) : Prop where
  live : ∀ session, v.sessions id = some session →
    frameFormat.Splits (v.wires id).received (v.requests id ++ session.inbox) session.undecoded
  frames : v.requests id <+: frameFormat.frames (v.wires id).received

/-- A connection with fewer requests than there are sequence numbers. -/
def Countable (v : State) (id : ConnectionId) : Prop := (v.requests id).length < UInt64.size

/-- The invariant of the machine. -/
structure Sound (config : ServerConfig) (v : State) : Prop where
  numbered : Numbered v
  parsed : ∀ id, Parsed v id
  connection : ∀ id, Countable v id → ConnectionInv config v id

end PulseCore.Traffic
