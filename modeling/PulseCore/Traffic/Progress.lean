/-
# No connection is stuck

The reactor takes a half-closed connection without output out of the interest
set, and from then on only the pipeline can bring it back. So it must be certain
that something is still on its way: the work for exactly the response that is
next in order. Any other response would wait in the reorder map, and no event
would ever come.
-/

import PulseCore.Traffic.Responses

namespace PulseCore.Network

open PulseCore.Foundation PulseCore.Core PulseCore.Protocol PulseCore.Traffic
open Server (run)

variable {config : ServerConfig} {descriptors : Descriptors} {actions : List Action}
  {s s' : Server} {id : ConnectionId} {c c' : Connection} {f f' : ConnectionFlow}
  {fault : Option CtlFault}

/-- A flush only adds to the output. -/
theorem isPrefix_of_releaseReady {fuel : ℕ} {queued : Bool}
    (hresult : Server.releaseReady fuel c f = (queued, c', f')) : c.unsent <+: c'.unsent := by
  induction fuel generalizing c f with
  | zero =>
      cases hresult
      exact List.prefix_rfl
  | succ fuel ih =>
      rw [Server.releaseReady] at hresult
      split at hresult
      · cases hresult
        exact List.prefix_rfl
      · next response hready =>
          have hspec := c.queueOutput_spec response
          split at hresult
          · next c₁ hqueued =>
              rw [hqueued] at hspec
              cases hresult
              exact ⟨[], (List.append_nil _).trans (hspec.refused rfl).symm⟩
          · next c₁ hqueued =>
              rw [hqueued] at hspec
              obtain ⟨bytes, -, -, hunsent⟩ := hspec.appended rfl
              exact (hunsent ▸ List.prefix_append c.unsent bytes).trans (ih hresult)

/-- Settling removes a connection or leaves it with its output. -/
theorem live_settleConnection (h : WellFormed config s) (hlive : s.live id = some (c, f))
    (hresult : Server.settleConnection id fault s = .ok () s') :
    s'.live id = none ∨ ∃ f', s'.live id = some (c, f') := by
  obtain ⟨hfind, hlookup⟩ := Server.live_eq_some_iff.mp hlive
  simp only [Server.settleConnection, hfind, hlookup] at hresult
  split at hresult
  · split at hresult
    · next s₁ hremove =>
        simp only [EStateM.Result.ok.injEq, true_and] at hresult
        subst hresult
        have hgone := Server.live_of_removeConnection h hremove
        exact .inl hgone
    · simp only [reduceCtorEq] at hresult
  · have hkept := Server.live_updateInterest h hlive fault
    rw [hresult] at hkept
    exact .inr hkept

/-- The result for the response that is next in order goes to the output, and the
connection is registered to write it; or the connection is removed. -/
theorem live_of_next_result (h : WellFormed config s) (hsettled : Settled s id)
    (hlive : s.live id = some (c, f)) {result : WorkResult}
    (hkey : result.key = (id, f.nextResponseSequence))
    (hresult : Server.handleCompletedWork result fault s = .ok () s') :
    s'.live id = none ∨ ∃ c' f' bytes, s'.live id = some (c', f') ∧
      f'.registeredWithEpoll = true ∧ encodeMessage result.response = some bytes ∧
      c.unsent ++ bytes <+: c'.unsent := by
  obtain ⟨hid, hsequence⟩ := Prod.mk.inj hkey
  subst hid
  have hsettled' := Server.handleCompletedWork_settled h hsettled hresult
  obtain ⟨hfind, hlookup⟩ := Server.live_eq_some_iff.mp hlive
  obtain ⟨queued, c₁, f₁, hrelease⟩ := Server.exists_released c
    { f with
      completedResponses := Server.emplace f.completedResponses result.sequence result.response }
  have hmoves : Moves config {result.connectionId} (.idle s [result]) _ :=
    Server.released_moves (Set.mem_singleton _) rfl hlive hrelease
  have hwf₁ := hmoves.wellFormed h
  have hput := Server.wrote_putConnection hlive c₁
  have hwrote := hput.trans (Server.wrote_putFlow hput.live_self f₁)
  simp only [Server.handleCompletedWork, hfind, hlookup,
    Server.flushReadyResponses_eq hrelease] at hresult
  split at hresult
  · exact .inl (Server.live_of_removeConnection hwf₁ hresult)
  · next hqueued =>
      refine (live_settleConnection hwf₁ hwrote.live_self hresult).imp_right ?_
      rintro ⟨f', hlive'⟩
      -- The first pass of the flush takes the response that has just come in.
      have hhead : (Server.emplace f.completedResponses result.sequence
          result.response).lookup f.nextResponseSequence = some result.response := by
        have hnone := (hsettled c f hlive).head
        rw [Server.emplace, hsequence, if_neg (AList.lookup_eq_none.mp hnone)]
        exact AList.lookup_insert _
      rw [Server.releaseReady, hhead] at hrelease
      simp only at hrelease
      have hspec := c.queueOutput_spec result.response
      split at hrelease
      · cases hrelease
        exact absurd rfl hqueued
      · next c₂ hqueue =>
          rw [hqueue] at hspec
          obtain ⟨bytes, hencode, -, hunsent⟩ := hspec.appended rfl
          have hextends : c.unsent ++ bytes <+: c₁.unsent :=
            hunsent ▸ isPrefix_of_releaseReady hrelease
          have hpending : c₁.hasPendingOutput = true := by
            rw [Connection.hasPendingOutput_eq_true_iff]
            intro hempty
            rw [hempty, List.prefix_nil, List.append_eq_nil_iff] at hextends
            exact encodeMessage_ne_nil hencode hextends.2
          refine ⟨c₁, f', bytes, hlive', ?_, hencode, hextends⟩
          rw [(hsettled' c₁ f' hlive').interest, hpending, Bool.or_true]

/-- The work for a request is queued, held by a worker, published, or swapped out. -/
def Server.Outstanding (s : Server) (key : WorkKey) : Prop :=
  (∃ item ∈ s.pipeline.items, item.key = key) ∨
    ∃ result ∈ s.pipeline.completedWork ++ s.phase.batch, result.key = key

/-- A connection waits for something that will come. -/
inductive Awaiting (s : Server) (id : ConnectionId) (c : Connection) (f : ConnectionFlow) : Prop
  | input (hopen : f.closeAfterFlush = false) {event : EpollEvent}
      (hlookup : s.epoll.lookup c.fd = some event) (hkey : event.key = id.value)
      (hread : event.events.readable = true)
  | output (hpending : c.hasPendingOutput = true) {event : EpollEvent}
      (hlookup : s.epoll.lookup c.fd = some event) (hkey : event.key = id.value)
      (hwrite : event.events.epollOut = true)
  | completion (hclosing : f.closeAfterFlush = true)
      (hnext : s.Outstanding (id, f.nextResponseSequence))

/-- A settled connection in its last phase has its next response outstanding. -/
theorem outstanding_next {a : Activation} (hbatch : a.batch = a.server.phase.batch)
    (hflow : FlowInv config a.view id f)
    (hhead : f.completedResponses.lookup f.nextResponseSequence = none)
    (hbusy : f.nextResponseSequence < f.nextRequestSequence) :
    a.server.Outstanding (id, f.nextResponseSequence) := by
  have hactive : f.nextResponseSequence ∈ inFlight f :=
    ⟨Nat.le_refl _, UInt64.lt_iff_toNat_lt.mp hbusy⟩
  rcases List.mem_append.mp ((hflow.once.mem_iff _).mpr hactive) with hkey | hready
  · have hmem : (id, f.nextResponseSequence) ∈
        a.server.pipeline.keys ++ a.batch.map WorkResult.key := mem_sequencesOf.mp hkey
    rw [Pipeline.keys, List.append_assoc, ← List.map_append, hbatch] at hmem
    rcases List.mem_append.mp hmem with hitem | hresult
    · exact .inl (List.mem_map.mp hitem)
    · exact .inr (List.mem_map.mp hresult)
  · exact absurd hready (AList.lookup_eq_none.mp hhead)

/-- Between two handler calls, every live connection waits for input, for room to
write its output, or for the completion of its next response, and none of them has
nothing left to do. One that is not registered waits for a completion, and when
that is handled the connection gets its response and is registered, or is removed. -/
theorem no_stuck_connection (config : ServerConfig) (descriptors : Descriptors)
    (actions : List Action) (id : ConnectionId) (c : Connection) (f : ConnectionFlow)
    (hphase : (run config descriptors actions).phase.hasFailed = false)
    (hlive : (run config descriptors actions).live id = some (c, f))
    (hcount : ((run config descriptors actions).pipeline.requestsOf id).length < UInt64.size) :
    Awaiting (run config descriptors actions) id c f ∧
    Server.shouldCloseAfterFlush c f = false ∧
    (f.registeredWithEpoll = false →
      (run config descriptors actions).Outstanding (id, f.nextResponseSequence)) ∧
    ∀ result fault s', result.key = (id, f.nextResponseSequence) →
      Server.handleCompletedWork result fault (run config descriptors actions) = .ok () s' →
      s'.live id = none ∨ ∃ c' f' bytes, s'.live id = some (c', f') ∧
        f'.registeredWithEpoll = true ∧ encodeMessage result.response = some bytes ∧
        c.unsent ++ bytes <+: c'.unsent := by
  have hwf := Server.run_wellFormed config descriptors actions
  obtain ⟨a, ha, hrest, -, hinv⟩ := run_sessionInv hlive hcount
  rw [← ha] at hphase hlive hwf ⊢
  obtain ⟨-, hbatch, hsettled⟩ := hrest hphase
  have hset := hsettled id c f hlive
  have hnext : f.closeAfterFlush = true → c.hasPendingOutput = false →
      a.server.Outstanding (id, f.nextResponseSequence) := by
    intro hclosing hempty
    apply outstanding_next hbatch hinv.flow hset.head
    have hunfinished := hset.unfinished
    simp only [Server.shouldCloseAfterFlush, hclosing, hempty, Bool.true_and, Bool.not_false,
      decide_eq_false_iff_not, ge_iff_le, UInt64.not_le] at hunfinished
    exact hunfinished
  refine ⟨?_, hset.unfinished, ?_, ?_⟩
  · cases hclosing : f.closeAfterFlush with
    | false =>
        have hregistered : f.registeredWithEpoll = true := by
          rw [hset.interest, hclosing]
          rfl
        refine .input hclosing (hset.mask hregistered) rfl ?_
        rw [hclosing]
        rfl
    | true =>
        cases hpending : c.hasPendingOutput with
        | true =>
            have hregistered : f.registeredWithEpoll = true := by
              rw [hset.interest, hpending, Bool.or_true]
            exact .output hpending (hset.mask hregistered) rfl hpending
        | false => exact .completion hclosing (hnext hclosing hpending)
  · intro hunregistered
    have hinterest := hset.interest
    rw [hunregistered] at hinterest
    obtain ⟨hopen, hempty⟩ := Bool.or_eq_false_iff.mp hinterest.symm
    exact hnext ((Bool.not_eq_false' _).mp hopen) hempty
  · intro result fault s' hkey hresult
    exact live_of_next_result hwf (hsettled id) hlive hkey hresult

/-- A client has closed its side while its first request is with a worker: nothing is
registered for its connection, which waits for that worker. -/
theorem no_stuck_connection_sample :
    ∃ id c f,
      (run Server.Sample.config Server.Sample.descriptors Server.Sample.halfClosed).live id =
        some (c, f) ∧
      f.closeAfterFlush = true ∧ f.registeredWithEpoll = false ∧
      Server.shouldCloseAfterFlush c f = false ∧
      (run Server.Sample.config Server.Sample.descriptors
        Server.Sample.halfClosed).Outstanding (id, f.nextResponseSequence) := by
  have hentry : ((run Server.Sample.config Server.Sample.descriptors
      Server.Sample.halfClosed).live ⟨1⟩).map
        (fun entry => (entry.2.closeAfterFlush, entry.2.registeredWithEpoll)) =
      some (true, false) := by decide +kernel
  obtain ⟨⟨c, f⟩, hlive, hflags⟩ := Option.map_eq_some_iff.mp hentry
  obtain ⟨hclosing, hunregistered⟩ := Prod.mk.inj hflags
  obtain ⟨-, hunfinished, hcompletion, -⟩ :=
    no_stuck_connection _ _ _ _ c f (by decide +kernel) hlive (by decide +kernel)
  exact ⟨⟨1⟩, c, f, hlive, hclosing, hunregistered, hunfinished, hcompletion hunregistered⟩

end PulseCore.Network
