/-
# Registry, flow table and interest set

Three structures describe the connections, and six paths of the reactor update
them one after the other. Between two handler calls they say the same: which
connections there are, which of them are registered with epoll, and for what. So
no call of `epoll_ctl` finds a descriptor present that it wants to add, or absent
that it wants to change, and a client that cannot be added leaves no trace.
-/

import PulseCore.Network.Reachable

namespace PulseCore.Network

open PulseCore.Foundation PulseCore.Core PulseCore.Protocol
open Server (run)

/-- The three structures say the same. -/
structure Server.Consistent (s : Server) : Prop where
  tables : ∀ id : ConnectionId,
    id.value ∈ s.connectionFlows ↔ id.value ∈ s.connections.connections
  registered : ∀ id c f, s.live id = some (c, f) →
    (f.registeredWithEpoll = true ↔ c.fd ∈ s.epoll)
  interest : ∀ id c f event, s.live id = some (c, f) → s.epoll.lookup c.fd = some event →
    event.key = id.value ∧ event.events.epollIn = !f.closeAfterFlush ∧
      event.events.epollRdHup = !f.closeAfterFlush ∧ event.events.epollOut = c.hasPendingOutput
  unregistered : ∀ id c f, s.live id = some (c, f) →
    (f.registeredWithEpoll = false ↔ f.closeAfterFlush = true ∧ c.hasPendingOutput = false)
  /-- A descriptor in the interest set is the server's own or that of a connection
  that was not removed. -/
  current : ∀ fd ∈ s.epoll, fd ∈ s.descriptors.all ∨
    ∃ id c f, s.live id = some (c, f) ∧ c.fd = fd

/-- Both tables have the same contents. -/
structure Server.SameTables (s s' : Server) : Prop where
  find : ∀ id, s'.connections.find id = s.connections.find id
  lookup : ∀ id : ConnectionId,
    s'.connectionFlows.lookup id.value = s.connectionFlows.lookup id.value

variable {config : ServerConfig} {descriptors : Descriptors} {s s' : Server} {a : Activation}

theorem consistent_of_settled (h : WellFormed config s) (hsettled : ∀ id, Settled s id) :
    s.Consistent := by
  refine ⟨?_, ?_, ?_, ?_, h.interest⟩
  · intro id
    rw [← AList.lookup_isSome, ← AList.lookup_isSome]
    exact Bool.eq_iff_iff.mp (h.agree id).symm
  · intro id c f hlive
    rw [← h.present_eq hlive]
    exact decide_eq_true_iff
  · intro id c f event hlive hlookup
    have hinv := hsettled id c f hlive
    have hregistered : f.registeredWithEpoll = true := by
      rw [← h.present_eq hlive]
      exact decide_eq_true (AList.lookup_isSome.mp (by rw [hlookup]; rfl))
    have hmask := hinv.mask hregistered
    rw [hlookup] at hmask
    cases hmask
    exact ⟨rfl, rfl, rfl, rfl⟩
  · intro id c f hlive
    rw [(hsettled id c f hlive).interest]
    simp

/-- Admitting a client and forgetting it again. -/
theorem sameTables_forget_admitted (h : WellFormed config s) {fd : Fd} {op : CtlOp}
    {event : EpollEvent} {fault : Option CtlFault} {error : Errno}
    (hctl : (s.admitted fd).epollCtl op fd event fault = (some error, s')) :
    s.SameTables (s'.forget s.connections.nextId) := by
  obtain ⟨rfl, -⟩ := Server.epollCtl_eq_some hctl
  refine ⟨?_, ?_⟩
  · intro id
    by_cases hid : id = s.connections.nextId
    · rw [hid, h.find_nextId]
      exact ConnectionRegistry.find_remove_self _ _
    · exact (ConnectionRegistry.find_remove_of_ne _ hid).trans
        (WellFormed.find_admitted_of_ne s fd hid)
  · intro id
    by_cases hid : id = s.connections.nextId
    · rw [hid, h.lookup_nextId]
      exact AList.lookup_erase _ _
    · exact (Server.lookup_erase_of_ne hid).trans (WellFormed.lookup_admitted_of_ne s fd hid)

/-- A client that cannot be registered leaves the tables as they were. -/
theorem sameTables_of_registerClient (h : WellFormed config s) {client : Server.Client}
    {exception : Exception}
    (hresult : Server.registerClient client s = .error exception s') : s.SameTables s' := by
  have hcases := Server.registerClient_cases h client
  rw [hresult] at hcases
  cases hcases with
  | rolledBack _ hids hctl => exact sameTables_forget_admitted h hctl
  | refused => exact ⟨fun _ => rfl, fun _ => rfl⟩

/-- Between two handler calls the structures are consistent. Every `epoll_ctl`
met its precondition. Whenever a client cannot be registered, both tables have
their previous contents. -/
theorem registration_consistent (config : ServerConfig) (descriptors : Descriptors) :
    (∀ actions, (run config descriptors actions).phase.hasFailed = false →
      (run config descriptors actions).Consistent) ∧
    (∀ actions, ∀ call ∈ (run config descriptors actions).ctlCalls, call.Met) ∧
    ∀ a, Moves config Set.univ (.idle (Server.start config descriptors) []) a →
      ∀ client exception s', Server.registerClient client a.server = .error exception s' →
        a.server.SameTables s' := by
  refine ⟨?_, ?_, ?_⟩
  · intro actions hphase
    have hwf := Server.run_wellFormed config descriptors actions
    obtain ⟨a, ha, -, hrest⟩ := Server.run_moves config descriptors actions
    rw [← ha] at hphase hwf ⊢
    exact consistent_of_settled hwf (hrest hphase).2.2
  · intro actions
    exact (Server.run_wellFormed config descriptors actions).ctlCalls
  · intro a hmoves client exception s' hresult
    have hwf := hmoves.wellFormed (Server.starting_start config descriptors).wellFormed
    exact sameTables_of_registerClient hwf hresult

end PulseCore.Network
