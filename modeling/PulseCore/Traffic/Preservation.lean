/-
# Every step keeps the books

A step of the session machine concerns one connection or the pipeline. What it
does to the connection it concerns is proved for each kind of step. For every
other connection nothing changes but the place where its work is kept, and that
is one lemma: the books of a connection carry over to any state that differs in
this way.
-/

import PulseCore.Traffic.Invariant
import Mathlib.Logic.Relation

namespace PulseCore.Traffic

open PulseCore.Foundation PulseCore.Core PulseCore.Protocol PulseCore.Network

variable {config : ServerConfig} {v v' : State} {id other : ConnectionId} {session : Session}

/-- What an accepted submission does to the pipeline. -/
structure Submitted (p p' : Pipeline) (item : WorkItem) : Prop where
  accepted : p'.accepted = p.accepted ++ [item]
  items : p'.items.Perm (item :: p.items)
  completedWork : p'.completedWork = p.completedWork

theorem submitted_of_trySubmit {p p' : Pipeline} {item : WorkItem}
    (hsubmit : p.trySubmit item = (true, p')) : Submitted p p' item := by
  rcases p.trySubmit_cases item with ⟨q, hq, hitems, haccepted, hworkers, hcompleted, -⟩ | hq
  · rw [hq] at hsubmit
    cases hsubmit
    refine ⟨haccepted, ?_, hcompleted⟩
    simp only [Pipeline.items, hitems, hworkers, List.append_assoc, List.singleton_append]
    exact List.perm_middle
  · rw [hq] at hsubmit
    cases hsubmit

theorem Submitted.requestsOf_self {p p' : Pipeline} {item : WorkItem}
    (h : Submitted p p' item) :
    p'.requestsOf item.connectionId = p.requestsOf item.connectionId ++ [item.request] := by
  simp [Pipeline.requestsOf, h.accepted]

theorem Submitted.requestsOf_of_ne {p p' : Pipeline} {item : WorkItem}
    (h : Submitted p p' item) (hne : item.connectionId ≠ id) :
    p'.requestsOf id = p.requestsOf id := by
  simp [Pipeline.requestsOf, h.accepted, hne]

theorem Submitted.keys_perm {p' : Pipeline} {item : WorkItem} (h : Submitted v.pipeline p' item) :
    ({ v with pipeline := p' } : State).keys.Perm (item.key :: v.keys) := by
  have hitems := (h.items.map WorkItem.key).append_right
    (v.pipeline.completedWork.map WorkResult.key ++ v.batch.map WorkResult.key)
  simpa only [State.keys, Pipeline.keys, h.completedWork, List.append_assoc, List.map_cons,
    List.cons_append] using hitems

/-- Seen from connection `id`, only the places of its work have changed, and some
of its requests may have been answered. -/
structure Frame (config : ServerConfig) (v v' : State) (id : ConnectionId) : Prop where
  requests : v'.requests id = v.requests id
  wire : v'.wires id = v.wires id
  keys : (sequencesOf id v'.keys).Perm (sequencesOf id v.keys)
  items : ∀ item ∈ v'.pipeline.items, item.connectionId = id → item ∈ v.pipeline.items
  results : ∀ result ∈ v'.results, result.connectionId = id →
    result ∈ v.results ∨ ∃ item ∈ v.pipeline.items, result = item.result config.options.handler

/-- Nothing has changed for `id` when its wire and the pipeline have not. -/
theorem Frame.of_eq (hpipeline : v'.pipeline = v.pipeline) (hbatch : v'.batch = v.batch)
    (hwire : v'.wires id = v.wires id) : Frame config v v' id where
  requests := congrArg (Pipeline.requestsOf · id) hpipeline
  wire := hwire
  keys := by rw [State.keys, State.keys, hpipeline, hbatch]
  items item hmem _ := by rwa [hpipeline] at hmem
  results result hmem _ := .inl (by rwa [State.results, hpipeline, hbatch] at hmem)

/-- Moving work about, and answering some of it, is a frame for everyone. -/
theorem Frame.of_work {p : Pipeline} {batch : List WorkResult}
    (hspec : Pipeline.WorkSpec config.options.handler v.pipeline p) (hbatch : batch = v.batch) :
    Frame config v { v with pipeline := p, batch } id where
  requests := by
    simp only [State.requests, Pipeline.requestsOf, hspec.accepted]
  wire := rfl
  keys := by
    subst hbatch
    exact sequencesOf_perm (hspec.keys_perm.append_right _) id
  items item hmem _ := by
    rcases hspec.moved with ⟨hitems, -⟩ | ⟨answered, hitems, -⟩
    · exact hitems.mem_iff.mp hmem
    · exact hitems.mem_iff.mpr (List.mem_cons_of_mem _ hmem)
  results result hmem _ := by
    subst hbatch
    rcases hspec.moved with ⟨-, hcompleted⟩ | ⟨answered, hitems, hcompleted⟩
    · simp only [State.results, hcompleted] at hmem
      exact .inl hmem
    · simp only [State.results, hcompleted, List.append_assoc, List.mem_append,
        List.mem_singleton] at hmem
      rcases hmem with hold | hnew | hswapped
      · exact .inl (List.mem_append_left _ hold)
      · exact .inr ⟨answered, hitems.mem_iff.mpr List.mem_cons_self, hnew⟩
      · exact .inl (List.mem_append_right _ hswapped)

/-- Swapping the completed work out moves results from one place to another. -/
theorem keys_swap (hbatch : v.batch = []) :
    ({ v with
      pipeline := { v.pipeline with completedWork := [] }
      batch := v.pipeline.completedWork } : State).keys = v.keys := by
  simp only [State.keys, hbatch, List.map_nil, List.append_nil]
  simp only [Pipeline.keys, List.map_nil, List.append_nil]
  rfl

theorem Answers.append {requests : List Message} {s : UInt64} {response : Message}
    (h : Answers config requests s response) (more : List Message) :
    Answers config (requests ++ more) s response := by
  obtain ⟨request, hrequest, hresponse⟩ := h
  have hlt := (List.getElem?_eq_some_iff.mp hrequest).choose
  refine ⟨request, ?_, hresponse⟩
  rw [List.getElem?_append_left hlt, hrequest]

/-- A flow depends on the pipeline and the batch only. -/
theorem FlowInv.congr {flow : ConnectionFlow} (h : FlowInv config v id flow)
    (hpipeline : v'.pipeline = v.pipeline) (hbatch : v'.batch = v.batch) :
    FlowInv config v' id flow := by
  cases v
  cases v'
  cases hpipeline
  cases hbatch
  exact ⟨h.requests, h.ordered, h.windowed, h.once, h.items, h.results, h.responses⟩

/-- A flow does not notice a frame. -/
theorem FlowInv.frame {flow : ConnectionFlow} (h : FlowInv config v id flow)
    (hframe : Frame config v v' id) : FlowInv config v' id flow where
  requests := by rw [hframe.requests, h.requests]
  ordered := h.ordered
  windowed := h.windowed
  once := h.once.perm (hframe.keys.append_right _)
  items item hmem hid := by
    rw [hframe.requests]
    exact h.items item (hframe.items item hmem hid) hid
  results result hmem hid := by
    rw [hframe.requests]
    rcases hframe.results result hmem hid with hold | ⟨item, hitem, rfl⟩
    · exact h.results result hold hid
    · exact ⟨item.request, h.items item hitem hid, rfl⟩
  responses := by
    rw [hframe.requests]
    exact h.responses

/-- Nor do the streams. -/
theorem StreamInv.frame (h : StreamInv config v id session) (hframe : Frame config v v' id) :
    StreamInv config v' id session where
  output := by
    rw [hframe.requests, hframe.wire]
    exact h.output
  closing := by
    rw [hframe.wire]
    exact h.closing

theorem SessionInv.frame (h : SessionInv config v id session) (hframe : Frame config v v' id) :
    SessionInv config v' id session :=
  ⟨h.flow.frame hframe, h.stream.frame hframe⟩

/-- A session depends on the pipeline, the batch and its own wire only. -/
theorem SessionInv.congr (h : SessionInv config v id session)
    (hpipeline : v'.pipeline = v.pipeline) (hbatch : v'.batch = v.batch)
    (hwire : v'.wires id = v.wires id) : SessionInv config v' id session :=
  h.frame (.of_eq hpipeline hbatch hwire)

/-- Nor does a connection that was drained. -/
theorem DrainedInv.frame (h : DrainedInv config v id) (hframe : Frame config v v' id) :
    DrainedInv config v' id where
  peerClosed := by rw [hframe.wire, h.peerClosed]
  requests := by rw [hframe.requests, hframe.wire, h.requests]
  sent := by rw [hframe.requests, hframe.wire, h.sent]
  settled := (hframe.keys.trans (List.Perm.of_eq h.settled)).eq_nil

theorem ConnectionInv.frame (h : ConnectionInv config v id) (hframe : Frame config v v' id)
    (hsession : v'.sessions id = v.sessions id) (hdrained : id ∈ v'.drained → id ∈ v.drained) :
    ConnectionInv config v' id where
  live session hlive := (h.live session (hsession ▸ hlive)).frame hframe
  wire := by
    rw [hframe.wire]
    exact h.wire
  drained hmem := (h.drained (hdrained hmem)).frame hframe

@[simp]
theorem sessions_setSession_self (v : State) (id : ConnectionId) (session : Session) :
    (v.setSession id session).sessions id = some session :=
  Function.update_self _ _ _

theorem sessions_setSession_of_ne (v : State) (session : Session) (hne : other ≠ id) :
    (v.setSession id session).sessions other = v.sessions other :=
  Function.update_of_ne hne _ _

@[simp]
theorem sessions_endSession_self (v : State) (id : ConnectionId) :
    (v.endSession id).sessions id = none :=
  Function.update_self _ _ _

theorem sessions_endSession_of_ne (v : State) (hne : other ≠ id) :
    (v.endSession id).sessions other = v.sessions other :=
  Function.update_of_ne hne _ _

theorem wires_setWire_of_ne (v : State) (wire : Wire) (hne : other ≠ id) :
    (v.setWire id wire).wires other = v.wires other :=
  Function.update_of_ne hne _ _

@[simp]
theorem wires_setWire_self (v : State) (id : ConnectionId) (wire : Wire) :
    (v.setWire id wire).wires id = wire :=
  Function.update_self _ _ _

/-- Input is decoded. -/
theorem SessionInv.receive (h : SessionInv config v id session)
    (hopen : session.flow.closeAfterFlush = false) (bytes rest : List Byte)
    (messages : List Message) (peerClosed : Bool) :
    SessionInv config
      (v.setWire id
        { received := (v.wires id).received ++ bytes
          sent := (v.wires id).sent
          peerClosed })
      id { session with undecoded := rest, inbox := messages } := by
  refine ⟨h.flow.congr rfl rfl, ⟨?_, ?_⟩⟩
  · rw [wires_setWire_self]
    exact h.stream.output
  · intro hclosing
    rw [hopen] at hclosing
    cases hclosing

/-- Output moves to the wire. -/
theorem SessionInv.transmit (h : SessionInv config v id session) {bytes rest : List Byte}
    (hunsent : session.unsent = bytes ++ rest) :
    SessionInv config
      (v.setWire id
        { received := (v.wires id).received
          sent := (v.wires id).sent ++ bytes
          peerClosed := (v.wires id).peerClosed })
      id { session with unsent := rest } := by
  refine ⟨h.flow.congr rfl rfl, ⟨?_, ?_⟩⟩
  · rw [wires_setWire_self, List.append_assoc, ← hunsent]
    exact h.stream.output
  · rw [wires_setWire_self]
    exact h.stream.closing

/-- A request is submitted. Its sequence number is the number of requests before
it, and it is in flight from now on. -/
theorem FlowInv.submit {flow : ConnectionFlow} (h : FlowInv config v id flow) {message : Message}
    {pipeline : Pipeline}
    (hroom : (flow.nextRequestSequence - flow.nextResponseSequence).toNat <
      config.options.maxInFlightRequestsPerConnection)
    (hsubmitted : Submitted v.pipeline pipeline ⟨id, flow.nextRequestSequence, message⟩)
    (hcount : flow.nextRequestSequence.toNat + 1 < UInt64.size) :
    FlowInv config { v with pipeline } id
      { flow with nextRequestSequence := flow.nextRequestSequence + 1 } := by
  have hsucc := toNat_succ hcount
  have hrequests : ({ v with pipeline } : State).requests id = v.requests id ++ [message] :=
    hsubmitted.requestsOf_self
  have hlength := h.requests
  have hordered := h.ordered
  rw [toNat_sub hordered] at hroom
  refine ⟨?_, ?_, ?_, ?_, ?_, ?_, ?_⟩
  · simp only [hrequests, hsucc, List.length_append, List.length_singleton, hlength]
  · simp only [hsucc]
    exact Nat.le_succ_of_le hordered
  · simp only [hsucc]
    omega
  · have hfresh : flow.nextRequestSequence ∉ inFlight flow :=
      fun hmem => absurd hmem.2 (Nat.lt_irrefl _)
    have hkeys := sequencesOf_perm hsubmitted.keys_perm id
    simp only [WorkItem.key, sequencesOf_cons_self] at hkeys
    refine ((h.once.enter hfresh).perm (hkeys.append_right _)).congr ?_
    intro s
    simp only [inFlight, Set.mem_insert_iff, Set.mem_ofPred_eq, ← UInt64.toNat_inj, hsucc]
    omega
  · intro item hmem hid
    rw [hrequests]
    rcases List.mem_cons.mp (hsubmitted.items.mem_iff.mp hmem) with rfl | hold
    · rw [hlength, List.getElem?_append_right (Nat.le_refl _), Nat.sub_self]
      rfl
    · have hitem := h.items item hold hid
      rw [List.getElem?_append_left (List.getElem?_eq_some_iff.mp hitem).choose, hitem]
  · intro result hmem hid
    rw [hrequests]
    simp only [State.results, hsubmitted.completedWork] at hmem
    exact (h.results result hmem hid).append _
  · intro s response hlookup
    rw [hrequests]
    exact (h.responses s response hlookup).append _

theorem SessionInv.submit (h : SessionInv config v id session) {message : Message}
    (messages : List Message) {pipeline : Pipeline}
    (hroom : (session.flow.nextRequestSequence - session.flow.nextResponseSequence).toNat <
      config.options.maxInFlightRequestsPerConnection)
    (hsubmitted : Submitted v.pipeline pipeline
      ⟨id, session.flow.nextRequestSequence, message⟩)
    (hcount : session.flow.nextRequestSequence.toNat + 1 < UInt64.size) :
    SessionInv config { v with pipeline } id
      { session with
        inbox := messages
        flow :=
          { session.flow with nextRequestSequence := session.flow.nextRequestSequence + 1 } } := by
  have hrequests : ({ v with pipeline } : State).requests id = v.requests id ++ [message] :=
    hsubmitted.requestsOf_self
  refine ⟨h.flow.submit hroom hsubmitted hcount, ⟨?_, h.stream.closing⟩⟩
  have htake : (v.requests id ++ [message]).take session.flow.nextResponseSequence.toNat =
      (v.requests id).take session.flow.nextResponseSequence.toNat :=
    List.take_append_of_le_length (h.flow.requests ▸ h.flow.ordered)
  simp only [hrequests, htake]
  exact h.stream.output

/-- The two flags of a flow have no part in it. -/
theorem FlowInv.setFlags {flow : ConnectionFlow} (h : FlowInv config v id flow)
    (closeAfterFlush registeredWithEpoll : Bool) :
    FlowInv config v id { flow with closeAfterFlush, registeredWithEpoll } :=
  ⟨h.requests, h.ordered, h.windowed, h.once, h.items, h.results, h.responses⟩

/-- The head of the batch is an entry of its connection's ledger. -/
theorem keys_perm_of_batch {result : WorkResult} {batch : List WorkResult}
    (hbatch : v.batch = result :: batch) :
    v.keys.Perm (result.key :: ({ v with batch } : State).keys) := by
  simp only [State.keys, hbatch, List.map_cons]
  exact List.perm_middle

/-- A result that arrives is not in the reorder map yet. -/
theorem FlowInv.not_mem_responses {result : WorkResult} {batch : List WorkResult}
    {flow : ConnectionFlow} (h : FlowInv config v result.connectionId flow)
    (hbatch : v.batch = result :: batch) : result.sequence ∉ flow.completedResponses := by
  have hperm := sequencesOf_perm (keys_perm_of_batch hbatch) result.connectionId
  rw [WorkResult.key, sequencesOf_cons_self] at hperm
  have hnodup := (hperm.append_right flow.completedResponses.keys).nodup_iff.mp h.once.nodup
  intro hmem
  exact (List.nodup_cons.mp hnodup).1 (List.mem_append_right _ hmem)

/-- A result goes to the reorder map. -/
theorem FlowInv.deliver {result : WorkResult} {batch : List WorkResult} {flow : ConnectionFlow}
    (h : FlowInv config v result.connectionId flow) (hbatch : v.batch = result :: batch) :
    FlowInv config { v with batch } result.connectionId
      { flow with
        completedResponses := Server.emplace flow.completedResponses result.sequence
          result.response } := by
  have hfresh := h.not_mem_responses hbatch
  have hresults : ∀ other ∈ ({ v with batch } : State).results, other ∈ v.results := by
    intro other hmem
    simp only [State.results, hbatch, List.mem_append, List.mem_cons] at hmem ⊢
    exact hmem.imp_right .inr
  rw [Server.emplace, if_neg hfresh]
  refine ⟨h.requests, h.ordered, h.windowed, ?_, h.items, ?_, ?_⟩
  · have hperm := sequencesOf_perm (keys_perm_of_batch hbatch) result.connectionId
    rw [WorkResult.key, sequencesOf_cons_self] at hperm
    refine h.once.perm ?_
    simp only [ledger, AList.keys_insert, List.erase_of_not_mem hfresh]
    exact List.perm_middle.trans (hperm.symm.append_right _)
  · intro other hmem hid
    exact h.results other (hresults other hmem) hid
  · intro s response hlookup
    by_cases hs : s = result.sequence
    · subst hs
      rw [AList.lookup_insert] at hlookup
      cases hlookup
      have hmem : result ∈ v.results := by
        rw [State.results, hbatch]
        exact List.mem_append_right _ List.mem_cons_self
      exact h.results result hmem rfl
    · rw [AList.lookup_insert_ne hs] at hlookup
      exact h.responses s response hlookup

/-- The next response in order leaves the reorder map. -/
theorem FlowInv.release {flow : ConnectionFlow} {response : Message}
    (h : FlowInv config v id flow)
    (hready : flow.completedResponses.lookup flow.nextResponseSequence = some response) :
    (flow.nextResponseSequence + 1).toNat = flow.nextResponseSequence.toNat + 1 ∧
    FlowInv config v id
      { flow with
        nextResponseSequence := flow.nextResponseSequence + 1
        completedResponses := flow.completedResponses.erase flow.nextResponseSequence } := by
  have hmem : flow.nextResponseSequence ∈ flow.completedResponses.keys :=
    AList.lookup_isSome.mp (by rw [hready]; rfl)
  have hlt : flow.nextResponseSequence.toNat < flow.nextRequestSequence.toNat :=
    ((h.once.mem_iff _).mp (List.mem_append_right _ hmem)).2
  have hmax := toNat_lt flow.nextRequestSequence
  have hsucc : (flow.nextResponseSequence + 1).toNat = flow.nextResponseSequence.toNat + 1 :=
    toNat_succ (Nat.lt_of_le_of_lt hlt hmax)
  refine ⟨hsucc, h.requests, ?_, ?_, ?_, h.items, h.results, ?_⟩
  · simp only [hsucc]
    exact hlt
  · simp only [hsucc]
    have hwindowed := h.windowed
    omega
  · have hkeys := (List.perm_cons_erase hmem).append_left (sequencesOf id v.keys)
    simp only [ledger, AList.keys_erase]
    refine ((h.once.perm (List.perm_middle.symm.trans hkeys.symm)).settle).congr ?_
    intro s
    simp only [inFlight, Set.mem_sdiff, Set.mem_singleton_iff, Set.mem_ofPred_eq,
      ← UInt64.toNat_inj, hsucc]
    omega
  · intro s answer hlookup
    by_cases hs : s = flow.nextResponseSequence
    · rw [hs, AList.lookup_erase] at hlookup
      cases hlookup
    · rw [AList.lookup_erase_ne hs] at hlookup
      exact h.responses s answer hlookup

theorem SessionInv.release (h : SessionInv config v id session) {response : Message}
    {bytes : List Byte}
    (hready : session.flow.completedResponses.lookup session.flow.nextResponseSequence =
      some response)
    (hencode : encodeMessage response = some bytes) :
    SessionInv config v id
      { session with
        unsent := session.unsent ++ bytes
        flow :=
          { session.flow with
            nextResponseSequence := session.flow.nextResponseSequence + 1
            completedResponses := session.flow.completedResponses.erase
              session.flow.nextResponseSequence } } := by
  obtain ⟨hsucc, hflow⟩ := h.flow.release hready
  refine ⟨hflow, ⟨?_, h.stream.closing⟩⟩
  obtain ⟨request, hrequest, rfl⟩ := h.flow.responses _ _ hready
  obtain ⟨hlt, hget⟩ := List.getElem?_eq_some_iff.mp hrequest
  simp only [hsucc, List.take_add_one, hrequest, Option.toList_some, List.map_append,
    List.map_singleton]
  rw [← List.append_assoc]
  exact encodeAll_append_singleton h.stream.output hencode

/-- Nothing is known of a number that was not given out. -/
theorem Numbered.sequencesOf_nextId (h : Numbered v) : sequencesOf v.nextId v.keys = [] := by
  apply List.eq_nil_iff_forall_not_mem.mpr
  intro s hmem
  exact absurd (h.keys _ (mem_sequencesOf.mp hmem)) (Nat.lt_irrefl _)

theorem Numbered.requests_nextId (h : Numbered v) : v.requests v.nextId = [] := by
  simp only [State.requests, Pipeline.requestsOf, List.map_eq_nil_iff, List.filter_eq_nil_iff,
    decide_eq_true_eq]
  intro item hmem hid
  exact absurd (hid ▸ h.accepted item hmem) (Nat.lt_irrefl _)

theorem mem_keys_of_item {item : WorkItem} (hmem : item ∈ v.pipeline.items) : item.key ∈ v.keys :=
  List.mem_append_left _ (List.mem_append_left _ (List.mem_map_of_mem hmem))

theorem mem_keys_of_result {result : WorkResult} (hmem : result ∈ v.results) :
    result.key ∈ v.keys := by
  rcases List.mem_append.mp hmem with hcompleted | hbatch
  · exact List.mem_append_left _ (List.mem_append_right _ (List.mem_map_of_mem hcompleted))
  · exact List.mem_append_right _ (List.mem_map_of_mem hbatch)

/-- A new session starts with empty books. -/
theorem Numbered.sessionInv_fresh (h : Numbered v) :
    SessionInv config (v.setWire v.nextId {}) v.nextId .fresh := by
  have hrequests : (v.setWire v.nextId {}).requests v.nextId = [] := h.requests_nextId
  have hkeys : sequencesOf v.nextId (v.setWire v.nextId {}).keys = [] := h.sequencesOf_nextId
  have hnone : ∀ key ∈ v.keys, key.1 ≠ v.nextId :=
    fun key hmem hid => absurd (hid ▸ h.keys key hmem) (Nat.lt_irrefl _)
  refine ⟨⟨?_, Nat.le_refl _, Nat.zero_le _, ?_, ?_, ?_, ?_⟩, ⟨?_, nofun⟩⟩
  · rw [hrequests]
    rfl
  · simp only [ledger, hkeys, List.nil_append]
    exact .nil fun key hmem => absurd hmem.2 (Nat.not_lt_zero _)
  · intro item hmem hid
    exact absurd hid (hnone item.key (mem_keys_of_item hmem))
  · intro result hmem hid
    exact absurd hid (hnone result.key (mem_keys_of_result hmem))
  · intro s response hlookup
    cases hlookup
  · rw [hrequests, wires_setWire_self]
    rfl

/-- A session that has nothing left to do has answered everything. -/
theorem SessionInv.drain (h : SessionInv config v id session) (hparsed : Parsed v id)
    (hlive : v.sessions id = some session) (hinbox : session.inbox = [])
    (hclosing : session.flow.closeAfterFlush = true) (hunsent : session.unsent = [])
    (hanswered : session.flow.nextRequestSequence ≤ session.flow.nextResponseSequence) :
    DrainedInv config v id := by
  have hle := UInt64.le_iff_toNat_le.mp hanswered
  obtain ⟨hclosed, hverdict⟩ := h.stream.closing hclosing
  refine ⟨hclosed, ?_, ?_, ?_⟩
  · have hdecoded := hparsed.live session hlive
    rw [hinbox, List.append_nil] at hdecoded
    exact (hdecoded.eq_frames (FrameFormat.exhausted_of_needMoreData hverdict)).1
  · have houtput := h.stream.output
    rw [h.flow.requests] at hle
    rwa [List.take_of_length_le hle, hunsent, List.append_nil] at houtput
  · apply List.eq_nil_iff_forall_not_mem.mpr
    intro s hmem
    have hs := (h.flow.once.mem_iff s).mp (List.mem_append_left _ hmem)
    exact absurd (Nat.lt_of_lt_of_le hs.2 hle) (Nat.not_lt_of_le hs.1)

/-- What was answered are frames that were received. -/
theorem SessionInv.wireInv (h : SessionInv config v id session) (hparsed : Parsed v id) :
    WireInv config (v.wires id) := by
  refine ⟨(v.requests id).take session.flow.nextResponseSequence.toNat, _, ?_, h.stream.output,
    List.prefix_append _ _⟩
  exact (List.take_prefix _ _).trans hparsed.frames

/-! ## Numbering -/

theorem Numbered.notMem_drained (h : Numbered v) (hlive : v.sessions id = some session) :
    id ∉ v.drained := by
  intro hmem
  rw [h.gone id hmem] at hlive
  cases hlive

/-- A live session may be replaced. -/
theorem Numbered.setSession (h : Numbered v) (hlive : v.sessions id = some session)
    (session' : Session) : Numbered (v.setSession id session') := by
  refine ⟨?_, h.accepted, h.keys, h.drained, ?_⟩
  · intro other otherSession hother
    by_cases hid : other = id
    · exact hid ▸ h.sessions id session hlive
    · rw [sessions_setSession_of_ne _ _ hid] at hother
      exact h.sessions other otherSession hother
  · intro other hmem
    have hid : other ≠ id := fun hid => h.notMem_drained hlive (hid ▸ hmem)
    rw [sessions_setSession_of_ne _ _ hid]
    exact h.gone other hmem

theorem Numbered.endSession (h : Numbered v) (id : ConnectionId) :
    Numbered (v.endSession id) := by
  refine ⟨?_, h.accepted, h.keys, h.drained, ?_⟩
  · intro other otherSession hother
    by_cases hid : other = id
    · rw [hid, sessions_endSession_self] at hother
      cases hother
    · rw [sessions_endSession_of_ne _ hid] at hother
      exact h.sessions other otherSession hother
  · intro other hmem
    by_cases hid : other = id
    · rw [hid, sessions_endSession_self]
    · rw [sessions_endSession_of_ne _ hid]
      exact h.gone other hmem

/-- Wires carry no numbers. -/
theorem Numbered.setWire (h : Numbered v) (id : ConnectionId) (wire : Wire) :
    Numbered (v.setWire id wire) :=
  ⟨h.sessions, h.accepted, h.keys, h.drained, h.gone⟩

/-- The pipeline and the batch may change as long as they bring in no number. -/
theorem Numbered.withWork (h : Numbered v) {pipeline : Pipeline} {batch : List WorkResult}
    (haccepted : ∀ item ∈ pipeline.accepted,
      item.connectionId.value.toNat < v.nextId.value.toNat)
    (hkeys : ∀ key ∈ ({ v with pipeline, batch } : State).keys,
      key.1.value.toNat < v.nextId.value.toNat) :
    Numbered { v with pipeline, batch } :=
  ⟨h.sessions, haccepted, hkeys, h.drained, h.gone⟩

theorem Numbered.accept (h : Numbered v) (hids : v.nextId.value ≠ kMaxUInt64) :
    Numbered ({ v with nextId := ⟨v.nextId.value + 1⟩ }.setSession v.nextId .fresh) := by
  have hsucc : (v.nextId.value + 1).toNat = v.nextId.value.toNat + 1 := by
    apply toNat_succ
    have hmax := toNat_lt v.nextId.value
    have hne : v.nextId.value.toNat ≠ kMaxUInt64.toNat :=
      fun heq => hids (UInt64.toNat_inj.mp heq)
    have hvalue : kMaxUInt64.toNat + 1 = UInt64.size := rfl
    omega
  have hlt : ∀ other : ConnectionId, other.value.toNat < v.nextId.value.toNat →
      other.value.toNat < (v.nextId.value + 1).toNat :=
    fun other hother => by
      rw [hsucc]
      exact Nat.lt_succ_of_lt hother
  refine ⟨?_, ?_, ?_, ?_, ?_⟩
  · intro other session hother
    by_cases hid : other = v.nextId
    · subst hid
      show v.nextId.value.toNat < (v.nextId.value + 1).toNat
      rw [hsucc]
      exact Nat.lt_succ_self _
    · rw [sessions_setSession_of_ne _ _ hid] at hother
      exact hlt _ (h.sessions other session hother)
  · intro item hmem
    exact hlt _ (h.accepted item hmem)
  · intro key hmem
    exact hlt _ (h.keys key hmem)
  · intro other hmem
    exact hlt _ (h.drained other hmem)
  · intro other hmem
    have hid : other ≠ v.nextId := fun hid => absurd (hid ▸ h.drained other hmem) (Nat.lt_irrefl _)
    rw [sessions_setSession_of_ne _ _ hid]
    exact h.gone other hmem

/-- Numbers are given out in order along every step. -/
theorem Step.numbered (hstep : Step config v v') (h : Numbered v) : Numbered v' := by
  cases hstep with
  | work action =>
      have hspec := v.pipeline.work_spec config.options.handler action
      refine h.withWork ?_ ?_
      · rw [hspec.accepted]
        exact h.accepted
      · intro key hmem
        exact h.keys key ((hspec.keys_perm.append_right _).mem_iff.mp hmem)
  | wake => exact h.withWork h.accepted h.keys
  | stopPool => exact h.withWork h.accepted h.keys
  | accept hids => exact (h.accept hids).setWire _ _
  | receive hlive => exact (h.setSession hlive _).setWire _ _
  | @submit id session message messages pipeline hlive hinbox hroom hsubmit =>
      have hsubmitted := submitted_of_trySubmit hsubmit
      have hid := h.sessions id session hlive
      have hwork : Numbered { v with pipeline } := by
        refine h.withWork ?_ ?_
        · intro item hmem
          rw [hsubmitted.accepted] at hmem
          rcases List.mem_append.mp hmem with hold | hnew
          · exact h.accepted item hold
          · cases List.mem_singleton.mp hnew
            exact hid
        · intro key hmem
          rcases List.mem_cons.mp (hsubmitted.keys_perm.mem_iff.mp hmem) with rfl | hold
          · exact hid
          · exact h.keys key hold
      exact hwork.setSession hlive _
  | close hlive => exact h.setSession hlive _
  | register hlive => exact h.setSession hlive _
  | transmit hlive => exact (h.setSession hlive _).setWire _ _
  | swap hbatch =>
      refine h.withWork h.accepted ?_
      rw [keys_swap hbatch]
      exact h.keys
  | @deliver result batch session hbatch hlive =>
      have hwork : Numbered { v with batch } := h.withWork h.accepted fun key hmem =>
        h.keys key ((keys_perm_of_batch hbatch).mem_iff.mpr (List.mem_cons_of_mem _ hmem))
      exact hwork.setSession hlive _
  | discard hbatch hgone =>
      exact h.withWork h.accepted fun key hmem =>
        h.keys key ((keys_perm_of_batch hbatch).mem_iff.mpr (List.mem_cons_of_mem _ hmem))
  | release hlive => exact h.setSession hlive _
  | remove id => exact h.endSession id
  | @drain id session hlive =>
      have hend := h.endSession id
      refine ⟨hend.sessions, hend.accepted, hend.keys, ?_, ?_⟩
      · intro other hmem
        rcases List.mem_cons.mp hmem with rfl | hold
        · exact h.sessions _ session hlive
        · exact h.drained other hold
      · intro other hmem
        rcases List.mem_cons.mp hmem with rfl | hold
        · exact sessions_endSession_self v _
        · exact hend.gone other hold

/-- Nothing was received on a connection and nothing submitted. -/
theorem Parsed.congr (h : Parsed v id) (hrequests : v'.requests id = v.requests id)
    (hreceived : (v'.wires id).received = (v.wires id).received)
    (hsessions : ∀ session, v'.sessions id = some session →
      ∃ old, v.sessions id = some old ∧ session.inbox = old.inbox ∧
        session.undecoded = old.undecoded) : Parsed v' id := by
  refine ⟨?_, ?_⟩
  · intro session hlive
    obtain ⟨old, hold, hinbox, hundecoded⟩ := hsessions session hlive
    rw [hrequests, hreceived, hinbox, hundecoded]
    exact h.live old hold
  · rw [hrequests, hreceived]
    exact h.frames

/-- The step concerns another connection. -/
theorem Parsed.of_ne (h : Parsed v id) (hrequests : v'.requests id = v.requests id)
    (hwire : v'.wires id = v.wires id) (hsession : v'.sessions id = v.sessions id) :
    Parsed v' id :=
  h.congr hrequests (by rw [hwire]) fun session hlive => ⟨session, hsession ▸ hlive, rfl, rfl⟩

/-- The step replaces the session of a connection, but not its input. -/
theorem Parsed.update (h : Parsed v id) (hlive : v.sessions id = some session)
    {session' : Session} (hlive' : v'.sessions id = some session')
    (hinbox : session'.inbox = session.inbox)
    (hundecoded : session'.undecoded = session.undecoded)
    (hrequests : v'.requests id = v.requests id)
    (hreceived : (v'.wires id).received = (v.wires id).received) : Parsed v' id := by
  refine h.congr hrequests hreceived ?_
  intro other hother
  rw [hlive'] at hother
  cases hother
  exact ⟨session, hlive, hinbox, hundecoded⟩

/-- What was submitted and what is in the inbox was received. -/
theorem Parsed.of_live (hlive : v.sessions id = some session)
    (hsplits : frameFormat.Splits (v.wires id).received (v.requests id ++ session.inbox)
      session.undecoded) : Parsed v id := by
  refine ⟨?_, (List.prefix_append _ _).trans hsplits.isPrefix_frames⟩
  intro other hother
  rw [hlive] at hother
  cases hother
  exact hsplits

/-- Every step keeps the requests of a connection in line with its input. -/
theorem Step.parsed (hstep : Step config v v') (hnum : Numbered v) (h : Parsed v id) :
    Parsed v' id := by
  cases hstep with
  | work action =>
      have hframe : Frame config v _ id := .of_work (v.pipeline.work_spec _ action) rfl
      exact h.of_ne hframe.requests rfl rfl
  | wake | stopPool | swap | discard => exact h.of_ne rfl rfl rfl
  | accept hids =>
      by_cases hid : id = v.nextId
      · subst hid
        refine .of_live (sessions_setSession_self _ _ _) ?_
        have hrequests : v.pipeline.requestsOf v.nextId = [] := hnum.requests_nextId
        rw [wires_setWire_self]
        simp only [State.requests, State.setWire, State.setSession, hrequests]
        exact .nil _
      · exact h.of_ne rfl (wires_setWire_of_ne _ _ hid) (sessions_setSession_of_ne _ _ hid)
  | @receive other session hlive hinbox hopen bytes messages rest peerClosed hsplits =>
      by_cases hid : id = other
      · subst hid
        refine .of_live (sessions_setSession_self _ _ _) ?_
        have hdecoded := h.live session hlive
        rw [hinbox, List.append_nil] at hdecoded
        rw [wires_setWire_self]
        exact hdecoded.extend hsplits
      · exact h.of_ne rfl (wires_setWire_of_ne _ _ hid) (sessions_setSession_of_ne _ _ hid)
  | @submit other session message messages pipeline hlive hinbox hroom hsubmit =>
      have hsubmitted := submitted_of_trySubmit hsubmit
      by_cases hid : id = other
      · subst hid
        have hrequests : pipeline.requestsOf id = v.requests id ++ [message] :=
          hsubmitted.requestsOf_self
        have hdecoded := h.live session hlive
        rw [hinbox, ← List.singleton_append, ← List.append_assoc, ← hrequests] at hdecoded
        exact .of_live (sessions_setSession_self _ _ _) hdecoded
      · exact h.of_ne (hsubmitted.requestsOf_of_ne (Ne.symm hid)) rfl
          (sessions_setSession_of_ne _ _ hid)
  | @close other session hlive | @register other session hlive | @release other session _ _ hlive =>
      by_cases hid : id = other
      · subst hid
        exact h.update hlive (sessions_setSession_self _ _ _) rfl rfl rfl rfl
      · exact h.of_ne rfl rfl (sessions_setSession_of_ne _ _ hid)
  | @transmit other session hlive =>
      by_cases hid : id = other
      · subst hid
        exact h.update hlive (sessions_setSession_self _ _ _) rfl rfl rfl
          (by rw [wires_setWire_self])
      · exact h.of_ne rfl (wires_setWire_of_ne _ _ hid) (sessions_setSession_of_ne _ _ hid)
  | @deliver result batch session hbatch hlive =>
      by_cases hid : id = result.connectionId
      · subst hid
        exact h.update hlive (sessions_setSession_self _ _ _) rfl rfl rfl rfl
      · exact h.of_ne rfl rfl (sessions_setSession_of_ne _ _ hid)
  | remove other | @drain other =>
      refine h.congr rfl rfl fun session hlive => ?_
      by_cases hid : id = other
      · subst hid
        cases (sessions_endSession_self v id).symm.trans hlive
      · exact ⟨session, (sessions_endSession_of_ne _ hid).symm.trans hlive, rfl, rfl⟩

/-! ## Every step, every run -/

/-- Requests are never taken back. -/
theorem Step.requests_isPrefix (hstep : Step config v v') (id : ConnectionId) :
    v.requests id <+: v'.requests id := by
  cases hstep with
  | work action =>
      simp only [State.requests, Pipeline.requestsOf,
        (v.pipeline.work_spec config.options.handler action).accepted]
      exact List.prefix_rfl
  | @submit other session message messages pipeline hlive hinbox hroom hsubmit =>
      have haccepted := (submitted_of_trySubmit hsubmit).accepted
      simp only [State.requests, Pipeline.requestsOf, State.setSession, haccepted,
        List.filter_append, List.map_append]
      exact List.prefix_append _ _
  | _ => exact List.prefix_rfl

/-- A session that keeps its books keeps those of its connection. -/
theorem ConnectionInv.of_live (hparsed : Parsed v id) (hlive : v.sessions id = some session)
    (h : SessionInv config v id session) (hnot : id ∉ v.drained) : ConnectionInv config v id where
  live other hother := by
    rw [hlive] at hother
    cases hother
    exact h
  wire := h.wireInv hparsed
  drained hmem := absurd hmem hnot

/-- A connection that is removed keeps what it sent. -/
theorem ConnectionInv.of_gone (h : ConnectionInv config v id) (hgone : v'.sessions id = none)
    (hwire : v'.wires id = v.wires id) (hdrained : id ∈ v'.drained → DrainedInv config v' id) :
    ConnectionInv config v' id where
  live session hlive := by
    rw [hgone] at hlive
    cases hlive
  wire := by
    rw [hwire]
    exact h.wire
  drained := hdrained

/-- The frame of a submission for everyone else. -/
theorem Submitted.frame {p : Pipeline} {item : WorkItem} (h : Submitted v.pipeline p item)
    (hne : item.connectionId ≠ id) : Frame config v { v with pipeline := p } id where
  requests := h.requestsOf_of_ne hne
  wire := rfl
  keys := by
    have hperm := sequencesOf_perm h.keys_perm id
    rwa [sequencesOf_cons_of_ne hne] at hperm
  items other hmem hid := by
    rcases List.mem_cons.mp (h.items.mem_iff.mp hmem) with rfl | hold
    · exact absurd hid hne
    · exact hold
  results result hmem _ := .inl (by rwa [State.results, h.completedWork] at hmem)

/-- The frame of handling a result for everyone else. -/
theorem frame_of_batch {result : WorkResult} {batch : List WorkResult}
    (hbatch : v.batch = result :: batch) (hne : result.connectionId ≠ id) :
    Frame config v { v with batch } id where
  requests := rfl
  wire := rfl
  keys := by
    have hperm := sequencesOf_perm (keys_perm_of_batch hbatch) id
    rw [sequencesOf_cons_of_ne hne] at hperm
    exact hperm.symm
  items _ hmem _ := hmem
  results other hmem _ := by
    simp only [State.results, hbatch, List.mem_append, List.mem_cons] at hmem ⊢
    exact .inl (hmem.imp_right .inr)

theorem frame_of_swap (hbatch : v.batch = []) :
    Frame config v
      { v with
        pipeline := { v.pipeline with completedWork := [] }
        batch := v.pipeline.completedWork } id where
  requests := rfl
  wire := rfl
  keys := by rw [keys_swap hbatch]
  items _ hmem _ := hmem
  results other hmem _ := by
    rw [State.results, hbatch, List.append_nil]
    exact .inl hmem

/-- A step that replaces the session of one connection, and at most its wire,
is seen by no other connection. -/
theorem ConnectionInv.of_ne (h : ConnectionInv config v id) (hne : id ≠ other)
    (session' : Session) (wire : Wire) :
    ConnectionInv config ((v.setSession other session').setWire other wire) id :=
  h.frame (.of_eq rfl rfl (wires_setWire_of_ne _ _ hne)) (sessions_setSession_of_ne _ _ hne)
    fun hmem => hmem

theorem ConnectionInv.setSession_of_ne (h : ConnectionInv config v id) (hne : id ≠ other)
    (session' : Session) : ConnectionInv config (v.setSession other session') id :=
  h.frame (.of_eq rfl rfl rfl) (sessions_setSession_of_ne _ _ hne) fun hmem => hmem

/-- A step keeps the books of every connection that can still be counted. -/
theorem Step.connectionInv (hstep : Step config v v') (hnum : Numbered v) {id : ConnectionId}
    (hparsed : Parsed v id) (hcount : Countable v' id) (h : ConnectionInv config v id) :
    ConnectionInv config v' id := by
  have hlast := hstep.numbered hnum
  have hparsed' := hstep.parsed hnum hparsed
  cases hstep with
  | work action =>
      exact h.frame (.of_work (v.pipeline.work_spec _ action) rfl) rfl fun hmem => hmem
  | wake | stopPool =>
      exact h.frame ⟨rfl, rfl, .refl _, fun _ hmem _ => hmem, fun _ hmem _ => .inl hmem⟩ rfl
        fun hmem => hmem
  | accept hids =>
      by_cases hid : id = v.nextId
      · subst hid
        refine .of_live hparsed' (sessions_setSession_self _ _ _) ?_ (hlast.notMem_drained
          (sessions_setSession_self _ _ _))
        have hfresh : SessionInv config _ v.nextId .fresh := hnum.sessionInv_fresh
        exact hfresh.congr rfl rfl rfl
      · exact h.frame (.of_eq rfl rfl (wires_setWire_of_ne _ _ hid))
          (sessions_setSession_of_ne _ _ hid) fun hmem => hmem
  | @receive other session hlive hinbox hopen bytes messages rest peerClosed hsplits =>
      by_cases hid : id = other
      · subst hid
        refine .of_live hparsed' (sessions_setSession_self _ _ _) ?_ (hnum.notMem_drained hlive)
        exact ((h.live session hlive).receive hopen _ _ _ _).congr rfl rfl rfl
      · exact h.of_ne hid _ _
  | @submit other session message messages pipeline hlive hinbox hroom hsubmit =>
      have hsubmitted := submitted_of_trySubmit hsubmit
      by_cases hid : id = other
      · subst hid
        have hsession := h.live session hlive
        have hlength : session.flow.nextRequestSequence.toNat + 1 < UInt64.size := by
          have hlonger : (pipeline.requestsOf id).length < UInt64.size := hcount
          rw [hsubmitted.requestsOf_self, List.length_append] at hlonger
          rw [hsession.flow.requests]
          exact hlonger
        refine .of_live hparsed' (sessions_setSession_self _ _ _) ?_ (hnum.notMem_drained hlive)
        exact (hsession.submit _ hroom hsubmitted hlength).congr rfl rfl rfl
      · have hwork : ConnectionInv config { v with pipeline } id :=
          h.frame (hsubmitted.frame (Ne.symm hid)) rfl fun hmem => hmem
        exact hwork.setSession_of_ne hid _
  | @close other session hlive hclosed hdecoded =>
      by_cases hid : id = other
      · subst hid
        have hsession := h.live session hlive
        refine .of_live hparsed' (sessions_setSession_self _ _ _) ?_ (hnum.notMem_drained hlive)
        refine SessionInv.congr (v := v) ⟨?_, ?_⟩ rfl rfl rfl
        · exact hsession.flow.setFlags _ _
        · exact ⟨hsession.stream.output, fun _ => ⟨hclosed, hdecoded⟩⟩
      · exact h.setSession_of_ne hid _
  | @register other session hlive registered =>
      by_cases hid : id = other
      · subst hid
        have hsession := h.live session hlive
        refine .of_live hparsed' (sessions_setSession_self _ _ _) ?_ (hnum.notMem_drained hlive)
        refine SessionInv.congr (v := v) ⟨?_, ?_⟩ rfl rfl rfl
        · exact hsession.flow.setFlags _ _
        · exact ⟨hsession.stream.output, hsession.stream.closing⟩
      · exact h.setSession_of_ne hid _
  | @transmit other session hlive bytes rest hunsent =>
      by_cases hid : id = other
      · subst hid
        refine .of_live hparsed' (sessions_setSession_self _ _ _) ?_ (hnum.notMem_drained hlive)
        exact ((h.live session hlive).transmit hunsent).congr rfl rfl rfl
      · exact h.of_ne hid _ _
  | swap hbatch => exact h.frame (frame_of_swap hbatch) rfl fun hmem => hmem
  | @deliver result batch session hbatch hlive =>
      by_cases hid : id = result.connectionId
      · subst hid
        have hsession := h.live session hlive
        refine .of_live hparsed' (sessions_setSession_self _ _ _) ?_ (hnum.notMem_drained hlive)
        refine SessionInv.congr (v := { v with batch }) ⟨?_, ?_⟩ rfl rfl rfl
        · exact hsession.flow.deliver hbatch
        · exact ⟨hsession.stream.output, hsession.stream.closing⟩
      · have hwork : ConnectionInv config { v with batch } id :=
          h.frame (frame_of_batch hbatch (Ne.symm hid)) rfl fun hmem => hmem
        exact hwork.setSession_of_ne hid _
  | @discard result batch hbatch hgone =>
      by_cases hid : id = result.connectionId
      · subst hid
        refine h.of_gone hgone rfl fun hmem => ?_
        -- The result would be work of a connection that has none.
        have hperm := sequencesOf_perm (keys_perm_of_batch hbatch) result.connectionId
        rw [(h.drained hmem).settled, WorkResult.key, sequencesOf_cons_self] at hperm
        exact absurd hperm.symm.eq_nil (List.cons_ne_nil _ _)
      · exact h.frame (frame_of_batch hbatch (Ne.symm hid)) rfl fun hmem => hmem
  | @release other session response bytes hlive hready hencode =>
      by_cases hid : id = other
      · subst hid
        refine .of_live hparsed' (sessions_setSession_self _ _ _) ?_ (hnum.notMem_drained hlive)
        exact ((h.live session hlive).release hready hencode).congr rfl rfl rfl
      · exact h.setSession_of_ne hid _
  | remove other =>
      by_cases hid : id = other
      · subst hid
        exact h.of_gone (sessions_endSession_self _ _) rfl fun hmem =>
          (h.drained hmem).frame (.of_eq rfl rfl rfl)
      · exact h.frame (.of_eq rfl rfl rfl) (sessions_endSession_of_ne _ hid) fun hmem => hmem
  | @drain other session hlive hinbox hclosing hunsent hanswered =>
      by_cases hid : id = other
      · subst hid
        exact h.of_gone (sessions_endSession_self _ _) rfl fun _ =>
          ((h.live session hlive).drain hparsed hlive hinbox hclosing hunsent hanswered).frame
            (.of_eq rfl rfl rfl)
      · exact h.frame (.of_eq rfl rfl rfl) (sessions_endSession_of_ne _ hid) fun hmem =>
          (List.mem_cons.mp hmem).resolve_left hid

/-- A step keeps the invariant. -/
theorem Step.sound (hstep : Step config v v') (h : Sound config v) : Sound config v' where
  numbered := hstep.numbered h.numbered
  parsed id := hstep.parsed h.numbered (h.parsed id)
  connection id hcount := hstep.connectionInv h.numbered (h.parsed id) hcount
    (h.connection id (Nat.lt_of_le_of_lt (hstep.requests_isPrefix id).length_le hcount))

/-- Many steps keep the invariant. -/
theorem Sound.steps (h : Sound config v) (hsteps : Relation.ReflTransGen (Step config) v v') :
    Sound config v' := by
  induction hsteps with
  | refl => exact h
  | tail _ hstep ih => exact hstep.sound ih

/-- The machine starts in order. -/
theorem sound_start {pipeline : Pipeline} (hitems : pipeline.items = [])
    (hcompleted : pipeline.completedWork = []) (haccepted : pipeline.accepted = []) :
    Sound config (State.start pipeline) := by
  have hkeys : (State.start pipeline).keys = [] := by
    simp [State.keys, State.start, Pipeline.keys, hitems, hcompleted]
  refine ⟨⟨nofun, ?_, ?_, nofun, nofun⟩, fun id => ⟨nofun, ?_⟩, fun id _ => ⟨nofun, ?_, nofun⟩⟩
  · intro item hmem
    simp [State.start, haccepted] at hmem
  · intro key hmem
    simp [hkeys] at hmem
  · simp [State.start, State.requests, Pipeline.requestsOf, haccepted]
  · exact ⟨[], [], List.nil_prefix, rfl, List.nil_prefix⟩

end PulseCore.Traffic
