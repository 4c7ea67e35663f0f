/-
# The tables agree

The registry, the flow table and the epoll interest set describe the same
connections. This module states what that means at every moment of a handler, and
proves that every move keeps it: also a move that fails, and so also in a reactor
that an exception has left.

Which events a registered connection waits for is not part of it. Handlers change
flows and output first and the interest last, so that is settled only when a
handler has returned.
-/

import PulseCore.Network.Moves

namespace PulseCore.Network

open PulseCore.Foundation PulseCore.Core PulseCore.Protocol

/-- What is true of one live connection. -/
structure LiveInv (config : ServerConfig) (s : Server) (id : ConnectionId) (c : Connection)
    (f : ConnectionFlow) : Prop where
  id_eq : c.id = id
  limits : c.limits = config.options.connectionLimits
  input : c.undecoded.length ≤ config.options.connectionLimits.maxInputBuffer
  output : c.outputStorageBytes ≤ config.options.connectionLimits.maxOutputBuffer
  numbered : id.value.toNat < s.connections.nextId.value.toNat
  foreign : c.fd ∉ s.descriptors.all
  registered : f.registeredWithEpoll = true →
    ∃ event, s.epoll.lookup c.fd = some event ∧ event.key = id.value
  unregistered : f.registeredWithEpoll = false → s.epoll.lookup c.fd = none

/-- The tables of the server agree and keep their bounds. -/
structure WellFormed (config : ServerConfig) (s : Server) : Prop where
  agree : ∀ id : ConnectionId,
    (s.connections.find id).isSome = (s.connectionFlows.lookup id.value).isSome
  live : ∀ id c f, s.live id = some (c, f) → LiveInv config s id c f
  distinct : ∀ id id' c c' f f', s.live id = some (c, f) → s.live id' = some (c', f') →
    c.fd = c'.fd → id = id'
  interest : ∀ fd, fd ∈ s.epoll → fd ∈ s.descriptors.all ∨
    ∃ id c f, s.live id = some (c, f) ∧ c.fd = fd
  ctlCalls : ∀ call ∈ s.ctlCalls, call.Met
  size : s.connections.size ≤ config.options.maxConnections
  limits : s.connections.limits = config.options.connectionLimits
  capacity : s.pipeline.queue.capacity = config.options.workQueueCapacity

variable {config : ServerConfig} {touched : Set ConnectionId} {s s' s₁ : Server}
  {id other : ConnectionId} {c c' : Connection} {f f' : ConnectionFlow} {a a' : Activation}

/-- It says nothing about other connections: more numbers may be given out, and the
interest set may change elsewhere. -/
theorem LiveInv.frame (h : LiveInv config s id c f)
    (hnext : s.connections.nextId.value.toNat ≤ s'.connections.nextId.value.toNat)
    (hdescriptors : s'.descriptors = s.descriptors)
    (hlookup : s'.epoll.lookup c.fd = s.epoll.lookup c.fd) : LiveInv config s' id c f := by
  refine ⟨h.id_eq, h.limits, h.input, h.output, Nat.lt_of_lt_of_le h.numbered hnext, ?_, ?_, ?_⟩
  · rw [hdescriptors]
    exact h.foreign
  · rw [hlookup]
    exact h.registered
  · rw [hlookup]
    exact h.unregistered

namespace WellFormed

/-- With the tables in agreement, a connection the registry knows is live. -/
theorem exists_live (h : WellFormed config s) (hfind : s.connections.find id = some c) :
    ∃ f, s.live id = some (c, f) := by
  have hagree := h.agree id
  rw [hfind] at hagree
  obtain ⟨f, hlookup⟩ := Option.isSome_iff_exists.mp hagree.symm
  exact ⟨f, Server.live_eq_some_iff.mpr ⟨hfind, hlookup⟩⟩

/-- A number that was not given out is in neither table. -/
theorem find_nextId (h : WellFormed config s) :
    s.connections.find s.connections.nextId = none := by
  cases hfind : s.connections.find s.connections.nextId with
  | none => rfl
  | some c =>
      obtain ⟨f, hlive⟩ := h.exists_live hfind
      exact absurd (h.live _ c f hlive).numbered (Nat.lt_irrefl _)

theorem lookup_nextId (h : WellFormed config s) :
    s.connectionFlows.lookup s.connections.nextId.value = none := by
  have hagree := h.agree s.connections.nextId
  rw [h.find_nextId] at hagree
  exact Option.not_isSome_iff_eq_none.mp (Bool.eq_false_iff.mp hagree.symm)

theorem live_nextId (h : WellFormed config s) : s.live s.connections.nextId = none :=
  Server.live_eq_none_iff.mpr (.inl h.find_nextId)

theorem notMem_nextId (h : WellFormed config s) :
    s.connections.nextId.value ∉ s.connections.connections := by
  intro hmem
  obtain ⟨c, hfind⟩ := (s.connections.mem_connections_iff _).mp hmem
  rw [h.find_nextId] at hfind
  cases hfind

theorem ne_nextId (h : WellFormed config s) (hlive : s.live id = some (c, f)) :
    id ≠ s.connections.nextId := by
  intro hid
  rw [hid, h.live_nextId] at hlive
  cases hlive

/-- Any other descriptor in the interest set is that of another connection. -/
theorem interest_of_ne (h : WellFormed config s) (hlive : s.live id = some (c, f)) {fd : Fd}
    (hmem : fd ∈ s.epoll) (hfd : fd ≠ c.fd) :
    fd ∈ s.descriptors.all ∨
      ∃ other d g, other ≠ id ∧ s.live other = some (d, g) ∧ d.fd = fd := by
  apply (h.interest fd hmem).imp_right
  rintro ⟨other, d, g, hd, hdfd⟩
  refine ⟨other, d, g, ?_, hd, hdfd⟩
  intro hid
  rw [hid, hlive] at hd
  cases hd
  exact hfd hdfd.symm

/-- Parts of the server that have no share in its tables may change. -/
theorem congr (h : WellFormed config s) (hconnections : s'.connections = s.connections)
    (hflows : s'.connectionFlows = s.connectionFlows) (hepoll : s'.epoll = s.epoll)
    (hcalls : s'.ctlCalls = s.ctlCalls) (hdescriptors : s'.descriptors = s.descriptors)
    (hcapacity : s'.pipeline.queue.capacity = s.pipeline.queue.capacity) :
    WellFormed config s' := by
  have hlive : ∀ id, s'.live id = s.live id := fun id =>
    Server.live_congr (by rw [hconnections]) (by rw [hflows])
  refine ⟨?_, ?_, ?_, ?_, ?_, ?_, ?_, ?_⟩
  · rw [hconnections, hflows]
    exact h.agree
  · intro id c f hid
    rw [hlive] at hid
    exact (h.live id c f hid).frame (by rw [hconnections]) hdescriptors (by rw [hepoll])
  · intro id id' c c' f f' hid hid'
    rw [hlive] at hid hid'
    exact h.distinct id id' c c' f f' hid hid'
  · intro fd hmem
    rw [hepoll] at hmem
    simpa only [hdescriptors, hlive] using h.interest fd hmem
  · rw [hcalls]
    exact h.ctlCalls
  · rw [hconnections]
    exact h.size
  · rw [hconnections]
    exact h.limits
  · rw [hcapacity]
    exact h.capacity

/-- What a write may change of a connection. -/
structure Keeps (config : ServerConfig) (c c' : Connection) : Prop where
  id : c'.id = c.id
  fd : c'.fd = c.fd
  limits : c'.limits = c.limits
  input : c'.undecoded.length ≤ config.options.connectionLimits.maxInputBuffer
  output : c'.outputStorageBytes ≤ config.options.connectionLimits.maxOutputBuffer

/-- What may happen to the interest set on behalf of one connection. -/
structure Reregistered (s s₁ : Server) (id : ConnectionId) (fd : Fd) (f' : ConnectionFlow) :
    Prop where
  connections : s₁.connections = s.connections
  flows : s₁.connectionFlows = s.connectionFlows
  descriptors : s₁.descriptors = s.descriptors
  capacity : s₁.pipeline.queue.capacity = s.pipeline.queue.capacity
  calls : ∀ call ∈ s₁.ctlCalls, call.Met
  others : ∀ other, other ≠ fd → s₁.epoll.lookup other = s.epoll.lookup other
  registered : f'.registeredWithEpoll = true →
    ∃ event, s₁.epoll.lookup fd = some event ∧ event.key = id.value
  unregistered : f'.registeredWithEpoll = false → s₁.epoll.lookup fd = none

/-- A write to a live connection, behind a change of its registration. -/
theorem update (h : WellFormed config s) (hlive : s.live id = some (c, f))
    (hregistered : Reregistered s s₁ id c.fd f') (hwrote : Server.Wrote s₁ s' id c' f')
    (hkeeps : Keeps config c c') : WellFormed config s' := by
  have hinv := h.live id c f hlive
  have hrest := hwrote.rest
  have hepoll : s'.epoll = s₁.epoll := by rw [hrest]
  have hdescriptors : s'.descriptors = s.descriptors := by
    rw [hrest, ← hregistered.descriptors]
  have hnext : s'.connections.nextId = s.connections.nextId := by
    rw [hwrote.registry, ← hregistered.connections]
  have hother : ∀ other, other ≠ id → s'.live other = s.live other := fun other hne =>
    (hwrote.live_other hne).trans
      (Server.live_congr (by rw [hregistered.connections]) (by rw [hregistered.flows]))
  refine ⟨?_, ?_, ?_, ?_, ?_, ?_, ?_, ?_⟩
  · intro other
    by_cases hid : other = id
    · rw [hid, hwrote.find_self, hwrote.lookup_self]
      rfl
    · rw [hwrote.find_other other hid, hwrote.lookup_other other hid, hregistered.connections,
        hregistered.flows]
      exact h.agree other
  · intro other d g hd
    by_cases hid : other = id
    · subst hid
      rw [hwrote.live_self] at hd
      cases hd
      refine ⟨hkeeps.id.trans hinv.id_eq, hkeeps.limits.trans hinv.limits, hkeeps.input,
        hkeeps.output, ?_, ?_, ?_, ?_⟩
      · rw [hnext]
        exact hinv.numbered
      · rw [hdescriptors, hkeeps.fd]
        exact hinv.foreign
      · rw [hepoll, hkeeps.fd]
        exact hregistered.registered
      · rw [hepoll, hkeeps.fd]
        exact hregistered.unregistered
    · rw [hother other hid] at hd
      have hfd : d.fd ≠ c.fd := fun hfd => hid (h.distinct other id d c g f hd hlive hfd)
      apply (h.live other d g hd).frame (by rw [hnext]) hdescriptors
      rw [hepoll, hregistered.others _ hfd]
  · -- Every live descriptor was live before.
    have hfds : ∀ other d g, s'.live other = some (d, g) →
        ∃ d' g', s.live other = some (d', g') ∧ d'.fd = d.fd := by
      intro other d g hd
      by_cases hid : other = id
      · subst hid
        rw [hwrote.live_self] at hd
        cases hd
        exact ⟨c, f, hlive, hkeeps.fd.symm⟩
      · rw [hother other hid] at hd
        exact ⟨d, g, hd, rfl⟩
    intro id₁ id₂ c₁ c₂ f₁ f₂ h₁ h₂ hfd
    obtain ⟨d₁, g₁, hd₁, hfd₁⟩ := hfds id₁ c₁ f₁ h₁
    obtain ⟨d₂, g₂, hd₂, hfd₂⟩ := hfds id₂ c₂ f₂ h₂
    exact h.distinct id₁ id₂ d₁ d₂ g₁ g₂ hd₁ hd₂ (hfd₁.trans (hfd.trans hfd₂.symm))
  · intro fd hmem
    by_cases hfd : fd = c.fd
    · exact .inr ⟨id, c', f', hwrote.live_self, hkeeps.fd.trans hfd.symm⟩
    · have hold : fd ∈ s.epoll := by
        rw [hepoll, ← AList.lookup_isSome, hregistered.others fd hfd] at hmem
        exact AList.lookup_isSome.mp hmem
      rw [hdescriptors]
      apply (h.interest_of_ne hlive hold hfd).imp_right
      rintro ⟨other, d, g, hid, hd, hdfd⟩
      exact ⟨other, d, g, (hother other hid).trans hd, hdfd⟩
  · rw [hrest]
    exact hregistered.calls
  · rw [hwrote.size, hregistered.connections]
    exact h.size
  · rw [hwrote.registry, ← h.limits, ← hregistered.connections]
  · rw [hrest, ← h.capacity, ← hregistered.capacity]

/-- Without a change of the registration. -/
theorem reregistered_refl (h : WellFormed config s) (hlive : s.live id = some (c, f))
    (hflag : f'.registeredWithEpoll = f.registeredWithEpoll) : Reregistered s s id c.fd f' := by
  have hinv := h.live id c f hlive
  exact ⟨rfl, rfl, rfl, rfl, h.ctlCalls, fun _ _ => rfl, fun hon => hinv.registered (hflag ▸ hon),
    fun hoff => hinv.unregistered (hflag ▸ hoff)⟩

theorem keeps_refl (h : WellFormed config s) (hlive : s.live id = some (c, f)) :
    Keeps config c c :=
  ⟨rfl, rfl, rfl, (h.live id c f hlive).input, (h.live id c f hlive).output⟩

theorem keeps_queueOutput (h : WellFormed config s) (hlive : s.live id = some (c, f))
    {response : Message} {queued : Bool} (hqueued : c.queueOutput response = (queued, c')) :
    Keeps config c c' := by
  have hinv := h.live id c f hlive
  have hspec := c.queueOutput_spec response
  rw [hqueued] at hspec
  refine ⟨hspec.same.id, hspec.same.fd, hspec.same.limits, hspec.same.undecoded ▸ hinv.input, ?_⟩
  have hstorage := hspec.storage
  rw [hinv.limits] at hstorage
  exact hstorage hinv.output

/-- A write that leaves the registration alone. -/
theorem write (h : WellFormed config s) (hlive : s.live id = some (c, f))
    (hwrote : Server.Wrote s s' id c' f') (hkeeps : Keeps config c c')
    (hflag : f'.registeredWithEpoll = f.registeredWithEpoll) : WellFormed config s' :=
  h.update hlive (h.reregistered_refl hlive hflag) hwrote hkeeps

theorem writeFlow (h : WellFormed config s) (hlive : s.live id = some (c, f))
    (hwrote : Server.Wrote s s' id c f')
    (hflag : f'.registeredWithEpoll = f.registeredWithEpoll) : WellFormed config s' :=
  h.write hlive hwrote (h.keeps_refl hlive) hflag

/-- The flag of a connection tells whether its descriptor is in the set. -/
theorem present_eq (h : WellFormed config s) (hlive : s.live id = some (c, f)) :
    decide (c.fd ∈ s.epoll) = f.registeredWithEpoll := by
  have hinv := h.live id c f hlive
  cases hflag : f.registeredWithEpoll with
  | true =>
      obtain ⟨event, hlookup, -⟩ := hinv.registered hflag
      exact decide_eq_true (AList.lookup_isSome.mp (by rw [hlookup]; rfl))
  | false => exact decide_eq_false (AList.lookup_eq_none.mp (hinv.unregistered hflag))

/-- One more call that met its precondition. -/
theorem ctlCalls_append (h : WellFormed config s) {call : CtlCall} (hmet : call.Met) :
    ∀ other ∈ s.ctlCalls ++ [call], other.Met :=
  List.forall_mem_append.mpr ⟨h.ctlCalls, List.forall_mem_singleton.mpr hmet⟩

/-- A call on behalf of a live connection that succeeds. -/
theorem reregistered_of_none (h : WellFormed config s) {op : CtlOp} {event : EpollEvent}
    {fault : Option CtlFault}
    (hkey : op ≠ .del → event.key = id.value)
    (hflag : f'.registeredWithEpoll = (op ≠ .del : Bool))
    (hctl : s.epollCtl op c.fd event fault = (none, s₁)) : Reregistered s s₁ id c.fd f' := by
  obtain ⟨-, rfl⟩ := Server.epollCtl_eq_none hctl
  have hcalls := h.ctlCalls_append (show CtlCall.Met ⟨op, c.fd, (op ≠ .add : Bool)⟩ from rfl)
  cases op with
  | add | mod =>
      refine ⟨rfl, rfl, rfl, rfl, hcalls, fun other hne => AList.lookup_insert_ne hne,
        fun _ => ⟨event, AList.lookup_insert _, hkey nofun⟩, fun hoff => ?_⟩
      rw [hflag] at hoff
      cases hoff
  | del =>
      refine ⟨rfl, rfl, rfl, rfl, hcalls, fun other hne => AList.lookup_erase_ne hne,
        fun hon => ?_, fun _ => AList.lookup_erase _ _⟩
      rw [hflag] at hon
      cases hon

/-- A call on behalf of a live connection that fails. -/
theorem reregistered_of_some (h : WellFormed config s) (hlive : s.live id = some (c, f))
    {op : CtlOp} {event : EpollEvent} {fault : Option CtlFault} {error : Errno}
    (hop : f.registeredWithEpoll = (op ≠ .add : Bool))
    (hctl : s.epollCtl op c.fd event fault = (some error, s₁)) : Reregistered s s₁ id c.fd f := by
  obtain ⟨rfl, -⟩ := Server.epollCtl_eq_some hctl
  have hinv := h.live id c f hlive
  refine ⟨rfl, rfl, rfl, rfl, ?_, fun _ _ => rfl, hinv.registered, hinv.unregistered⟩
  apply h.ctlCalls_append
  exact (h.present_eq hlive).trans hop

/-- Both tables forget a connection whose descriptor has left the interest set. -/
theorem forget (h : WellFormed config s) (hlive : s.live id = some (c, f))
    (hregistered : Reregistered s s₁ id c.fd f') (hflag : f'.registeredWithEpoll = false) :
    WellFormed config (s₁.forget id) := by
  have hother : ∀ other, other ≠ id → (s₁.forget id).live other = s.live other := fun other hne =>
    (s₁.live_forget_of_ne hne).trans
      (Server.live_congr (by rw [hregistered.connections]) (by rw [hregistered.flows]))
  have hne : ∀ other d g, (s₁.forget id).live other = some (d, g) → other ≠ id := by
    intro other d g hd hid
    rw [hid, Server.live_forget_self] at hd
    cases hd
  refine ⟨?_, ?_, ?_, ?_, hregistered.calls, ?_, ?_, ?_⟩
  · intro other
    by_cases hid : other = id
    · subst hid
      simp only [Server.forget, ConnectionRegistry.find_remove_self, AList.lookup_erase]
      rfl
    · simp only [Server.forget, ConnectionRegistry.find_remove_of_ne _ hid,
        Server.lookup_erase_of_ne hid, hregistered.connections, hregistered.flows]
      exact h.agree other
  · intro other d g hd
    have hid := hne other d g hd
    rw [hother other hid] at hd
    have hfd : d.fd ≠ c.fd := fun hfd => hid (h.distinct other id d c g f hd hlive hfd)
    refine (h.live other d g hd).frame ?_ hregistered.descriptors (hregistered.others _ hfd)
    show _ ≤ s₁.connections.nextId.value.toNat
    rw [hregistered.connections]
  · intro id₁ id₂ c₁ c₂ f₁ f₂ h₁ h₂
    rw [hother id₁ (hne id₁ c₁ f₁ h₁)] at h₁
    rw [hother id₂ (hne id₂ c₂ f₂ h₂)] at h₂
    exact h.distinct id₁ id₂ c₁ c₂ f₁ f₂ h₁ h₂
  · intro fd hmem
    have hpresent : (s₁.epoll.lookup fd).isSome = true := AList.lookup_isSome.mpr hmem
    have hfd : fd ≠ c.fd := by
      intro hfd
      rw [hfd, hregistered.unregistered hflag] at hpresent
      cases hpresent
    rw [hregistered.others fd hfd] at hpresent
    show fd ∈ s₁.descriptors.all ∨ _
    rw [hregistered.descriptors]
    apply (h.interest_of_ne hlive (AList.lookup_isSome.mp hpresent) hfd).imp_right
    rintro ⟨other, d, g, hid, hd, hdfd⟩
    exact ⟨other, d, g, (hother other hid).trans hd, hdfd⟩
  · refine Nat.le_trans (ConnectionRegistry.size_remove_le _ _) ?_
    rw [hregistered.connections]
    exact h.size
  · show s₁.connections.limits = _
    rw [hregistered.connections]
    exact h.limits
  · exact hregistered.capacity.trans h.capacity

theorem removed (h : WellFormed config s) (hlive : s.live id = some (c, f))
    (hremoved : Server.Removed id c f s s') : WellFormed config s' := by
  cases hremoved with
  | unregistered hunregistered => exact h.forget hlive (h.reregistered_refl hlive rfl) hunregistered
  | registered hregistered hctl =>
      have hleft : Reregistered s _ id c.fd { f with registeredWithEpoll := false } :=
        h.reregistered_of_none (fun hne => absurd rfl hne) rfl hctl
      exact h.forget hlive hleft rfl

theorem fd_mem_openFds (hfind : s.connections.find id = some c) : c.fd ∈ s.openFds := by
  apply List.mem_append_right
  have hmem := AList.mem_lookup_iff.mp hfind
  exact List.mem_map_of_mem (f := fun entry => entry.2.fd) hmem

/-- The tables with one more connection. -/
theorem find_admitted_of_ne (s : Server) (fd : Fd) (hne : other ≠ s.connections.nextId) :
    (s.admitted fd).connections.find other = s.connections.find other :=
  ConnectionRegistry.find_registered_of_ne _ _ hne

theorem lookup_admitted_of_ne (s : Server) (fd : Fd) (hne : other ≠ s.connections.nextId) :
    (s.admitted fd).connectionFlows.lookup other.value = s.connectionFlows.lookup other.value :=
  Server.lookup_insert_of_ne hne _

@[simp]
theorem live_admitted_self (s : Server) (fd : Fd) :
    (s.admitted fd).live s.connections.nextId =
      some (.create s.connections.nextId fd s.connections.limits, {}) :=
  Server.live_eq_some_iff.mpr
    ⟨ConnectionRegistry.find_registered_self _ _, AList.lookup_insert _⟩

theorem live_admitted_of_ne (s : Server) (fd : Fd) (hne : other ≠ s.connections.nextId) :
    (s.admitted fd).live other = s.live other :=
  Server.live_congr (find_admitted_of_ne s fd hne) (lookup_admitted_of_ne s fd hne)

theorem toNat_nextId_succ (hids : s.connections.nextId.value ≠ kMaxUInt64) :
    (s.connections.nextId.value + 1).toNat = s.connections.nextId.value.toNat + 1 :=
  s.connections.toNat_succ_nextId hids

/-- A client that has a descriptor of its own and finds room may be admitted. -/
theorem admission (h : WellFormed config s) {fd : Fd}
    (hids : s.connections.nextId.value ≠ kMaxUInt64)
    (hroom : s.connections.size < config.options.maxConnections) (hfresh : fd ∉ s.openFds) :
    WellFormed config (s.admitted fd) := by
  have hsucc := toNat_nextId_succ hids
  have hforeign : fd ∉ s.descriptors.all := fun hmem => hfresh (List.mem_append_left _ hmem)
  have hfds : ∀ other d g, s.live other = some (d, g) → d.fd ≠ fd := by
    intro other d g hd hfd
    exact hfresh (hfd ▸ fd_mem_openFds (Server.live_eq_some_iff.mp hd).1)
  have habsent : s.epoll.lookup fd = none := by
    apply AList.lookup_eq_none.mpr
    intro hmem
    rcases h.interest fd hmem with hinternal | ⟨other, d, g, hd, hdfd⟩
    · exact hforeign hinternal
    · exact hfds other d g hd hdfd
  refine ⟨?_, ?_, ?_, ?_, h.ctlCalls, ?_, h.limits, h.capacity⟩
  · intro other
    by_cases hid : other = s.connections.nextId
    · obtain ⟨hfind, hlookup⟩ := Server.live_eq_some_iff.mp (live_admitted_self s fd)
      rw [hid, hfind, hlookup]
      rfl
    · rw [find_admitted_of_ne s fd hid, lookup_admitted_of_ne s fd hid]
      exact h.agree other
  · intro other d g hd
    by_cases hid : other = s.connections.nextId
    · subst hid
      rw [live_admitted_self] at hd
      cases hd
      refine ⟨rfl, h.limits, Nat.zero_le _, Nat.zero_le _, ?_, hforeign, nofun, fun _ => habsent⟩
      show _ < (s.connections.nextId.value + 1).toNat
      rw [hsucc]
      exact Nat.lt_succ_self _
    · rw [live_admitted_of_ne s fd hid] at hd
      refine (h.live other d g hd).frame ?_ rfl rfl
      show _ ≤ (s.connections.nextId.value + 1).toNat
      rw [hsucc]
      exact Nat.le_succ _
  · -- The new descriptor is that of no other connection.
    intro id₁ id₂ c₁ c₂ f₁ f₂ h₁ h₂ hfd
    by_cases hid₁ : id₁ = s.connections.nextId <;> by_cases hid₂ : id₂ = s.connections.nextId
    · rw [hid₁, hid₂]
    · rw [hid₁, live_admitted_self] at h₁
      rw [live_admitted_of_ne s fd hid₂] at h₂
      cases h₁
      exact absurd hfd.symm (hfds id₂ c₂ f₂ h₂)
    · rw [live_admitted_of_ne s fd hid₁] at h₁
      rw [hid₂, live_admitted_self] at h₂
      cases h₂
      exact absurd hfd (hfds id₁ c₁ f₁ h₁)
    · rw [live_admitted_of_ne s fd hid₁] at h₁
      rw [live_admitted_of_ne s fd hid₂] at h₂
      exact h.distinct id₁ id₂ c₁ c₂ f₁ f₂ h₁ h₂ hfd
  · intro other hmem
    rcases h.interest other hmem with hinternal | ⟨id, d, g, hd, hdfd⟩
    · exact .inl hinternal
    · exact .inr ⟨id, d, g, (live_admitted_of_ne s fd (h.ne_nextId hd)).trans hd, hdfd⟩
  · show (s.connections.registered fd).size ≤ _
    rw [ConnectionRegistry.size_registered _ _ h.notMem_nextId]
    exact hroom

/-- The server may add a descriptor of its own to the interest set. -/
theorem addInternal (h : WellFormed config s) {fd : Fd} {event : EpollEvent}
    (hfd : fd ∈ s.descriptors.all) (hctl : s.epollCtl .add fd event none = (none, s')) :
    WellFormed config s' := by
  obtain ⟨-, rfl⟩ := Server.epollCtl_eq_none hctl
  refine ⟨h.agree, ?_, h.distinct, ?_, ?_, h.size, h.limits, h.capacity⟩
  · intro id c f hlive
    have hinv := h.live id c f hlive
    have hne : c.fd ≠ fd := fun heq => hinv.foreign (heq ▸ hfd)
    exact hinv.frame (Nat.le_refl _) rfl (AList.lookup_insert_ne hne)
  · intro other hmem
    rcases (AList.mem_insert _).mp hmem with rfl | hold
    · exact .inl hfd
    · exact h.interest other hold
  · apply h.ctlCalls_append
    rfl

end WellFormed

/-! ## Every move -/

/-- A move keeps the tables in agreement. -/
theorem Move.wellFormed (hmove : Move config touched a a') (h : WellFormed config a.server) :
    WellFormed config a'.server := by
  cases hmove with
  | work action =>
      exact h.congr rfl rfl rfl rfl rfl (Pipeline.work_spec _ _ action).capacity
  | wake | stopPool | control | acceptErrors | swap | discard | dropInbox =>
      exact h.congr rfl rfl rfl rfl rfl rfl
  | @accept fd fault s hinbox hids hroom hfresh hctl =>
      have hadmitted := h.admission hids hroom hfresh
      have hlive := WellFormed.live_admitted_self a.server fd
      have hsame := Server.live_epollCtl hctl a.server.connections.nextId
      exact hadmitted.update hlive
        (hadmitted.reregistered_of_none (fun _ => rfl) rfl hctl)
        (Server.wrote_putFlow (hsame.trans hlive) _) (hadmitted.keeps_refl hlive)
  | @acceptFailed fd fault s error hinbox hids hroom hfresh hctl =>
      have hadmitted := h.admission hids hroom hfresh
      have hlive := WellFormed.live_admitted_self a.server fd
      exact hadmitted.forget hlive (hadmitted.reregistered_of_some hlive rfl hctl) rfl
  | @read id c f budget out messages hid hlive hinbox hopen hunended hspec hsplits =>
      have hinv := h.live id c f hlive
      have hkeeps : WellFormed.Keeps config c out.connection := by
        refine ⟨hspec.same.id, hspec.same.fd, hspec.same.limits, ?_, ?_⟩
        · have hbounded := hspec.bounded
          simp only [hinv.limits] at hbounded
          exact hbounded hinv.input
        · rw [Connection.outputStorageBytes, hspec.same.output]
          exact hinv.output
      exact (h.write hlive (Server.wrote_putConnection hlive out.connection) hkeeps rfl).congr
        rfl rfl rfl rfl rfl rfl
  | @submit id c f message messages pipeline s hid hlive hinbox hroom hsubmit hwrote =>
      refine (h.writeFlow hlive hwrote rfl).congr rfl rfl rfl rfl rfl ?_
      have hpipeline : s.pipeline = a.server.pipeline := by rw [hwrote.rest]
      rcases a.server.pipeline.trySubmit_cases ⟨id, f.nextRequestSequence, message⟩ with
        ⟨p, hp, -, -, -, -, -, hcapacity, -⟩ | hp
      · rw [hp] at hsubmit
        cases hsubmit
        exact hcapacity.trans (by rw [hpipeline])
      · rw [hp] at hsubmit
        cases hsubmit
  | closing hid hlive hclosed hdecoded hwrote => exact h.writeFlow hlive hwrote rfl
  | writeBack hid hlive hwrote => exact h.writeFlow hlive hwrote rfl
  | @write id c f out hid hlive hspec =>
      have hinv := h.live id c f hlive
      have hkeeps : WellFormed.Keeps config c out.connection :=
        ⟨hspec.same.id, hspec.same.fd, hspec.same.limits,
          hspec.same.undecoded ▸ hinv.input, Nat.le_trans hspec.storage hinv.output⟩
      exact (h.write hlive (Server.wrote_putConnection hlive out.connection) hkeeps rfl).congr
        rfl rfl rfl rfl rfl rfl
  | deliver hid hbatch hlive hwrote => exact h.writeFlow hlive hwrote rfl
  | @release id c c' f response s hid hlive hready hqueued hwrote =>
      exact h.write hlive hwrote (h.keeps_queueOutput hlive hqueued) rfl
  | @refuse id c c' f response s hid hlive hqueued hwrote =>
      exact h.write hlive hwrote (h.keeps_queueOutput hlive hqueued) rfl
  | register hid hlive hunregistered hkey hctl hwrote =>
      exact h.update hlive (h.reregistered_of_none (fun _ => hkey) rfl hctl) hwrote
        (h.keeps_refl hlive)
  | @modify id c f event fault s hid hlive hregistered hkey hctl =>
      have hsame := Server.live_epollCtl hctl id
      exact h.update hlive (h.reregistered_of_none (fun _ => hkey) hregistered hctl)
        (Server.wrote_refl (hsame.trans hlive)) (h.keeps_refl hlive)
  | unregister hid hlive hregistered hctl hwrote =>
      exact h.update hlive (h.reregistered_of_none (fun hne => absurd rfl hne) rfl hctl) hwrote
        (h.keeps_refl hlive)
  | @ctlFailed id c f op event fault error s hid hlive hctl hop =>
      have hsame := Server.live_epollCtl hctl id
      exact h.update hlive (h.reregistered_of_some hlive hop hctl)
        (Server.wrote_refl (hsame.trans hlive)) (h.keeps_refl hlive)
  | remove hid hlive hremoved => exact h.removed hlive hremoved
  | drain hid hlive hinbox hclose hremoved =>
      exact (h.removed hlive hremoved).congr rfl rfl rfl rfl rfl rfl

theorem Moves.wellFormed (hmoves : Moves config touched a a') (h : WellFormed config a.server) :
    WellFormed config a'.server := by
  induction hmoves with
  | refl => exact h
  | tail _ hmove ih => exact hmove.wellFormed ih

end PulseCore.Network
