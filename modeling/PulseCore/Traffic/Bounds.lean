/-
# Resource bounds

Under load, what the reactor holds stays within its configured limits: the
connections, the queue between the reactor and the workers, the requests that are
in flight on a connection and the responses that wait there to be in order, and
the bytes that are buffered on either side.

The bounds hold at every moment, also in the middle of a handler and also when an
exception has left `Run`.
-/

import PulseCore.Traffic.Refinement

namespace PulseCore.Network

open PulseCore.Foundation PulseCore.Core PulseCore.Protocol PulseCore.Traffic
open Server (run)

/-- The requests in flight on a connection are those of a window. -/
structure WithinWindow (config : ServerConfig) (f : ConnectionFlow) : Prop where
  ordered : f.nextResponseSequence ≤ f.nextRequestSequence
  windowed : f.nextRequestSequence.toNat ≤
    f.nextResponseSequence.toNat + config.options.maxInFlightRequestsPerConnection
  /-- The unsigned subtraction in `SubmitWork` counts them. -/
  subtraction : (f.nextRequestSequence - f.nextResponseSequence).toNat =
    f.nextRequestSequence.toNat - f.nextResponseSequence.toNat
  reordered : ∀ n ∈ f.completedResponses,
    f.nextResponseSequence ≤ n ∧ n < f.nextRequestSequence
  reorderBuffer : f.completedResponses.keys.length ≤
    config.options.maxInFlightRequestsPerConnection

/-- The server is within its limits. -/
structure Server.Bounded (config : ServerConfig) (s : Server) : Prop where
  connections : s.connections.size ≤ config.options.maxConnections
  queue : s.pipeline.queue.items.length ≤ config.options.workQueueCapacity
  input : ∀ id c f, s.live id = some (c, f) →
    c.undecoded.length ≤ config.options.connectionLimits.maxInputBuffer
  output : ∀ id c f, s.live id = some (c, f) →
    c.outputStorageBytes ≤ config.options.connectionLimits.maxOutputBuffer
  window : ∀ id c f, s.live id = some (c, f) → (s.pipeline.requestsOf id).length < UInt64.size →
    WithinWindow config f

variable {config : ServerConfig} {descriptors : Descriptors} {touched : Set ConnectionId}
  {a : Activation}

/-- The books of a connection bound what it has in flight. -/
theorem withinWindow_of_flowInv {v : State} {id : ConnectionId} {f : ConnectionFlow}
    (h : FlowInv config v id f) : WithinWindow config f := by
  have hwindowed := h.windowed
  refine ⟨UInt64.le_iff_toNat_le.mpr h.ordered, hwindowed, toNat_sub h.ordered, ?_, ?_⟩
  · intro n hmem
    have hactive := (h.once.mem_iff n).mp (List.mem_append_right _ hmem)
    exact ⟨UInt64.le_iff_toNat_le.mpr hactive.1, UInt64.lt_iff_toNat_lt.mpr hactive.2⟩
  · have hlength : f.completedResponses.keys.length ≤
        f.nextRequestSequence.toNat - f.nextResponseSequence.toNat :=
      h.once.length_le (List.sublist_append_right _ _) (fun _ _ => UInt64.toNat_inj.mp)
        (fun n hactive => hactive)
    omega

theorem Moves.bounded
    (hmoves : Moves config touched (.idle (Server.start config descriptors) []) a) :
    a.server.Bounded config := by
  obtain ⟨hwf, hsound⟩ := hmoves.sound
  refine ⟨hwf.size, ?_, ?_, ?_, ?_⟩
  · exact Nat.le_trans a.server.pipeline.queue.length_le (Nat.le_of_eq hwf.capacity)
  · intro id c f hlive
    exact (hwf.live id c f hlive).input
  · intro id c f hlive
    exact (hwf.live id c f hlive).output
  · intro id c f hlive hcount
    exact withinWindow_of_flowInv ((hsound.connection id hcount).live _ (view_sessions hlive)).flow

/-- The server is within its limits after every run, and at every moment within
the handlers that a run calls. -/
theorem resource_bounds (config : ServerConfig) (descriptors : Descriptors) :
    (∀ actions, (run config descriptors actions).Bounded config) ∧
    ∀ a, Moves config Set.univ (.idle (Server.start config descriptors) []) a →
      a.server.Bounded config := by
  refine ⟨?_, fun a hmoves => hmoves.bounded⟩
  intro actions
  obtain ⟨a, ha, hmoves, -⟩ := Server.run_moves config descriptors actions
  rw [← ha]
  exact hmoves.bounded

end PulseCore.Network
