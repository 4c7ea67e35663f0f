/-
# Event keys

The reactor tells events apart by the key they were registered with: three
reserved keys for its own descriptors, and the number of the connection for all
others. The registry gives out the numbers 1, 2, 3 and so on and stops in front of
the largest 64-bit value, which is one of the reserved keys. The value below it is
reserved too, and the registry does give it out.
-/

import PulseCore.Network.Reachable

namespace PulseCore.Network

open PulseCore.Foundation PulseCore.Core PulseCore.Protocol
open Server (run)

variable {config : ServerConfig} {descriptors : Descriptors} {touched : Set ConnectionId}
  {a a' : Activation} {s s' : Server} {id : ConnectionId} {c : Connection} {f : ConnectionFlow}

/-- What the registry says about the numbers it has given out and will give out. -/
def Server.numbering (s : Server) : ConnectionId × List ConnectionId :=
  (s.connections.nextId, s.connections.issued)

theorem numbering_wrote (hwrote : Server.Wrote s s' id c f) : s'.numbering = s.numbering := by
  rw [Server.numbering, hwrote.registry]
  rfl

theorem numbering_epollCtl {op : CtlOp} {fd : Fd} {event : EpollEvent} {fault : Option CtlFault}
    {answer : Option Errno} (hctl : s.epollCtl op fd event fault = (answer, s')) :
    s'.numbering = s.numbering := by
  rw [Server.epollCtl_rest hctl]
  rfl

theorem numbering_removed (hremoved : Server.Removed id c f s s') :
    s'.numbering = s.numbering := by
  cases hremoved with
  | unregistered => rfl
  | registered hregistered hctl =>
      have hnumbering := numbering_epollCtl hctl
      exact hnumbering

/-- Only the admission of a client gives out a number. -/
theorem Move.numbering (hmove : Move config touched a a') :
    a'.server.numbering = a.server.numbering ∨
    a.server.connections.nextId.value ≠ kMaxUInt64 ∧
      a'.server.numbering = (⟨a.server.connections.nextId.value + 1⟩,
        a.server.connections.nextId :: a.server.connections.issued) := by
  cases hmove with
  | work | wake | stopPool | control | acceptErrors | swap | discard | dropInbox | read | write =>
      exact .inl rfl
  | accept hinbox hids hroom hfresh hctl =>
      have hnumbering := numbering_epollCtl hctl
      exact .inr ⟨hids, hnumbering⟩
  | acceptFailed hinbox hids hroom hfresh hctl =>
      have hnumbering := numbering_epollCtl hctl
      exact .inr ⟨hids, hnumbering⟩
  | submit hid hlive hinbox hroom hsubmit hwrote =>
      have hnumbering := numbering_wrote hwrote
      exact .inl hnumbering
  | closing hid hlive hclosed hdecoded hwrote => exact .inl (numbering_wrote hwrote)
  | writeBack hid hlive hwrote => exact .inl (numbering_wrote hwrote)
  | deliver hid hbatch hlive hwrote => exact .inl (numbering_wrote hwrote)
  | release hid hlive hready hqueued hwrote => exact .inl (numbering_wrote hwrote)
  | refuse hid hlive hqueued hwrote => exact .inl (numbering_wrote hwrote)
  | register hid hlive hunregistered hkey hctl hwrote =>
      exact .inl ((numbering_wrote hwrote).trans (numbering_epollCtl hctl))
  | modify hid hlive hregistered hkey hctl => exact .inl (numbering_epollCtl hctl)
  | unregister hid hlive hregistered hctl hwrote =>
      exact .inl ((numbering_wrote hwrote).trans (numbering_epollCtl hctl))
  | ctlFailed hid hlive hctl hop => exact .inl (numbering_epollCtl hctl)
  | remove hid hlive hremoved => exact .inl (numbering_removed hremoved)
  | drain hid hlive hinbox hclose hremoved =>
      have hnumbering := numbering_removed hremoved
      exact .inl hnumbering

/-- The numbers below the next one were given out, beginning with one. -/
structure Counting (numbering : ConnectionId × List ConnectionId) : Prop where
  length : numbering.2.length + 1 = numbering.1.value.toNat
  mem_iff : ∀ id, id ∈ numbering.2 ↔
    0 < id.value.toNat ∧ id.value.toNat < numbering.1.value.toNat

theorem Counting.issue (h : Counting s.numbering)
    (hids : s.connections.nextId.value ≠ kMaxUInt64) :
    Counting (⟨s.connections.nextId.value + 1⟩,
      s.connections.nextId :: s.connections.issued) := by
  have hsucc := WellFormed.toNat_nextId_succ hids
  have hlength : s.connections.issued.length + 1 = s.connections.nextId.value.toNat := h.length
  refine ⟨?_, ?_⟩
  · show (s.connections.nextId :: s.connections.issued).length + 1 = _
    rw [hsucc, List.length_cons, hlength]
  · intro id
    have hold : id ∈ s.connections.issued ↔
        0 < id.value.toNat ∧ id.value.toNat < s.connections.nextId.value.toNat := h.mem_iff id
    show id ∈ s.connections.nextId :: s.connections.issued ↔
      0 < id.value.toNat ∧ id.value.toNat < (s.connections.nextId.value + 1).toNat
    rw [List.mem_cons, hold, hsucc]
    constructor
    · rintro (rfl | hbelow)
      · omega
      · omega
    · intro hbounds
      rcases Nat.lt_or_eq_of_le (Nat.le_of_lt_succ hbounds.2) with hbelow | hsame
      · exact .inr ⟨hbounds.1, hbelow⟩
      · exact .inl (congrArg ConnectionId.mk (UInt64.toNat_inj.mp hsame))

theorem run_counting (config : ServerConfig) (descriptors : Descriptors)
    (actions : List Action) : Counting (run config descriptors actions).numbering := by
  refine Server.run_of_moves (P := fun s => Counting s.numbering) ?_ ?_ actions
  · intro epoll ctlCalls
    refine ⟨rfl, fun id => iff_of_false List.not_mem_nil ?_⟩
    exact fun hbounds => absurd hbounds.2 (Nat.not_lt.mpr hbounds.1)
  · intro a a' hmove hcounting
    rcases hmove.numbering with hsame | ⟨hids, hissued⟩
    · rw [hsame]
      exact hcounting
    · rw [hissued]
      exact hcounting.issue hids

/-- A key of an event that no connection should have. -/
def reservedKeys : List UInt64 := [kListenerKey, kWorkerWakeupKey, kShutdownSignalKey]

/-- A key that is not reserved goes to the handler of its connection, and no other
key does. -/
theorem route_eq_connection_iff (key : UInt64) :
    route key = .connection ⟨key⟩ ↔ key ∉ reservedKeys := by
  simp only [route, reservedKeys, List.mem_cons, List.not_mem_nil, or_false, not_or]
  split
  · next hlistener => exact iff_of_false nofun fun hnot => hnot.1 hlistener
  split
  · next hwakeup => exact iff_of_false nofun fun hnot => hnot.2.1 hwakeup
  split
  · next hshutdown => exact iff_of_false nofun fun hnot => hnot.2.2 hshutdown
  · next hlistener hwakeup hshutdown => exact iff_of_true rfl ⟨hlistener, hwakeup, hshutdown⟩

/-- The reserved keys are the smallest and the two largest ones. -/
theorem notMem_reservedKeys_iff (key : UInt64) :
    key ∉ reservedKeys ↔ 0 < key.toNat ∧ key.toNat < UInt64.size - 2 := by
  have hlistener : kListenerKey.toNat = 0 := rfl
  have hwakeup : kWorkerWakeupKey.toNat = UInt64.size - 1 := rfl
  have hshutdown : kShutdownSignalKey.toNat = UInt64.size - 2 := rfl
  have hlt := UInt64.toNat_lt_size key
  simp only [reservedKeys, List.mem_cons, List.not_mem_nil, or_false, not_or,
    ← UInt64.toNat_inj, hlistener, hwakeup, hshutdown]
  omega

/-- No number that was given out is a reserved key, and an event that carries one
goes to the handler of that connection. -/
def Unaliased (s : Server) : Prop :=
  ∀ id ∈ s.connections.issued, id.value ∉ reservedKeys ∧ route id.value = .connection id

/-- The numbers do not collide with the reserved keys as long as fewer than
`2 ^ 64 - 2` clients have been registered, and no longer. -/
theorem event_keys_unaliased_iff (config : ServerConfig) (descriptors : Descriptors)
    (actions : List Action) :
    Unaliased (run config descriptors actions) ↔
      (run config descriptors actions).connections.issued.length < UInt64.size - 2 := by
  have hcounting := run_counting config descriptors actions
  generalize run config descriptors actions = s at hcounting
  have hlength : s.connections.issued.length + 1 = s.connections.nextId.value.toNat :=
    hcounting.length
  have hmem : ∀ id, id ∈ s.connections.issued ↔
      0 < id.value.toNat ∧ id.value.toNat < s.connections.nextId.value.toNat := hcounting.mem_iff
  constructor
  · -- Otherwise the reserved key of the shutdown signal was given out.
    intro hunaliased
    apply Nat.lt_of_not_le
    intro hmany
    have hshutdown : kShutdownSignalKey.toNat = UInt64.size - 2 := rfl
    have hissued : (⟨kShutdownSignalKey⟩ : ConnectionId) ∈ s.connections.issued :=
      (hmem _).mpr ⟨by decide, by rw [hshutdown]; omega⟩
    exact (hunaliased _ hissued).1 (by simp [reservedKeys])
  · intro hfew id hissued
    obtain ⟨hpos, hbelow⟩ := (hmem id).mp hissued
    have hunreserved : id.value ∉ reservedKeys :=
      (notMem_reservedKeys_iff id.value).mpr ⟨hpos, by omega⟩
    exact ⟨hunreserved, (route_eq_connection_iff id.value).mpr hunreserved⟩

/-! ## The reserved number is given out

Clients come one at a time, and the socket of each of them fails before the next
one comes. In between the server is empty, and every visit uses up one number. -/

/-- A client comes. -/
def arriving : List Action :=
  [.wait (.ready [listenerEvent]), .dispatch { accepts := [.client { fd := 7 }] }, .dispatch {}]

/-- The socket of a client fails. -/
def failing (id : ConnectionId) : List Action :=
  [.wait (.ready [⟨{ epollErr := true }, id.value⟩]), .dispatch {}, .dispatch {}]

/-- That many clients come and go. -/
def visits : ℕ → List Action
  | 0 => []
  | n + 1 => visits n ++ arriving ++ failing ⟨.ofNat (n + 1)⟩

/-- The reactor is in front of `epoll_wait` and was not asked to stop. -/
structure Polling (s : Server) : Prop where
  phase : s.phase = .polling
  running : s.stopRequested = false

/-- One event is reported, and the handler that it goes to returns. -/
theorem foldl_event (h : Polling s) {event : EpollEvent} {io : Server.HandlerIo}
    (hreports : s.reports event = true)
    (hevent : Server.dispatchEvent config event [] io { s with phase := .dispatching [event] } =
      { s' with phase := .dispatching [] }) :
    [Action.wait (.ready [event]), .dispatch io, .dispatch {}].foldl (Server.step config) s =
      { s' with phase := .polling } := by
  have hwait : Server.step config s (.wait (.ready [event])) =
      { s with phase := .dispatching [event] } := by
    simp only [Server.step, h.phase, h.running, Bool.false_eq_true, if_false,
      List.filter_cons_of_pos hreports, List.filter_nil]
    rfl
  have hdispatch : Server.step config { s with phase := .dispatching [event] } (.dispatch io) =
      { s' with phase := .dispatching [] } := by
    simp only [Server.step]
    rw [if_neg (by rw [h.running]; exact Bool.false_ne_true)]
    exact hevent
  simp only [List.foldl_cons, List.foldl_nil, hwait, hdispatch]
  rfl

/-- One client is waiting and is registered. -/
theorem handleListenerEvent_ok (h : WellFormed config s)
    (hids : s.connections.nextId.value ≠ kMaxUInt64)
    (hroom : s.connections.size < config.options.maxConnections) :
    ∃ s', Server.handleListenerEvent config [.client { fd := 7 }] s = .ok () s' ∧
      s'.connections = s.connections.registered (s.freshFd 7) ∧
      s'.stopRequested = s.stopRequested ∧
      s'.live s.connections.nextId =
        some (.create s.connections.nextId (s.freshFd 7) s.connections.limits,
          { registeredWithEpoll := true }) := by
  have hwf : WellFormed config { s with acceptErrors := s.acceptErrors ++ [] } :=
    h.congr rfl rfl rfl rfl rfl rfl
  obtain ⟨s₁, hregister, hconnections, hstop, -, hlive⟩ : ∃ s', Server.registerClient { fd := 7 }
      { s with acceptErrors := s.acceptErrors ++ [] } = .ok () s' ∧ _ :=
    Server.registerClient_ok hwf rfl rfl hids hroom
  refine ⟨{ s₁ with acceptErrors := s₁.acceptErrors ++ [.eagain] }, ?_, hconnections, hstop, hlive⟩
  rw [Server.handleListenerEvent, show kMaxAcceptsPerEvent = 62 + 1 + 1 from rfl,
    Server.acceptLoop]
  simp only [Server.acceptNonBlocking]
  rw [if_neg (Nat.not_le.mpr hroom)]
  simp only [hregister]
  rw [Server.acceptLoop]
  rfl

/-- The server is empty and is about to give out the number `n`. -/
structure Vacant (s : Server) (n : ℕ) : Prop where
  polling : Polling s
  keys : s.connections.connections.keys = []
  next : s.connections.nextId.value = .ofNat n

/-- Nobody but the client with the number `n` is there. -/
structure Hosting (s : Server) (n : ℕ) : Prop where
  polling : Polling s
  keys : s.connections.connections.keys = [.ofNat n]
  next : s.connections.nextId.value = .ofNat (n + 1)
  live : ∃ c f, s.live ⟨.ofNat n⟩ = some (c, f) ∧ f.registeredWithEpoll = true

theorem run_arriving {actions : List Action} {n : ℕ}
    (h : Vacant (run config descriptors actions) n) (hn : n < UInt64.size - 1) :
    Hosting (run config descriptors (actions ++ arriving)) n := by
  have hwf := Server.run_wellFormed config descriptors actions
  have hlookup := Server.lookup_listener config descriptors actions
  rw [Server.run_append]
  generalize run config descriptors actions = s at h hwf hlookup
  have hids : s.connections.nextId.value ≠ kMaxUInt64 := by
    intro hmax
    have htoNat := congrArg UInt64.toNat (h.next.symm.trans hmax)
    have hvalue : kMaxUInt64.toNat + 1 = UInt64.size := rfl
    rw [UInt64.toNat_ofNat_of_lt' (by omega)] at htoNat
    omega
  have hroom : s.connections.size < config.options.maxConnections := by
    rw [ConnectionRegistry.size, h.keys]
    exact config.maxConnections_pos
  have hwaiting : WellFormed config { s with phase := .dispatching [listenerEvent] } :=
    hwf.congr rfl rfl rfl rfl rfl rfl
  obtain ⟨s₁, haccept, hconnections, hstop, hlive⟩ := handleListenerEvent_ok hwaiting hids hroom
  have hevent : Server.dispatchEvent config listenerEvent [] { accepts := [.client { fd := 7 }] }
      { s with phase := .dispatching [listenerEvent] } =
        { s₁ with phase := .dispatching [] } := by
    have hroute : route listenerEvent.key = .listener := by decide
    simp only [Server.dispatchEvent, hroute, haccept]
    rfl
  have hreports : s.reports listenerEvent = true :=
    Server.reports_of_lookup hlookup rfl (by decide) (.inl (by decide))
  rw [arriving, foldl_event h.polling hreports hevent]
  have hid : s.connections.nextId = ⟨.ofNat n⟩ := congrArg ConnectionId.mk h.next
  simp only at hconnections hlive
  rw [hid] at hlive
  refine ⟨⟨rfl, hstop.trans h.polling.running⟩, ?_, ?_, _, _, hlive, rfl⟩
  · show s₁.connections.connections.keys = _
    rw [hconnections, ConnectionRegistry.registered, AList.keys_insert, h.keys, h.next]
    rfl
  · show s₁.connections.nextId.value = _
    rw [hconnections, UInt64.ofNat_add, ← h.next]
    rfl

/-- A registered client whose socket fails is removed. -/
theorem handleConnectionEvent_failed (h : WellFormed config s) (hlive : s.live id = some (c, f)) :
    ∃ s', Server.handleConnectionEvent config id { epollErr := true } {} s = .ok () s' ∧
      Server.Removed id c f s s' := by
  obtain ⟨hfind, hlookup⟩ := Server.live_eq_some_iff.mp hlive
  have hremove : Server.handleConnectionEvent config id { epollErr := true } {} s =
      Server.removeConnection id none s := by
    simp only [Server.handleConnectionEvent, hfind, hlookup]
    rfl
  rw [hremove]
  rcases Server.removeConnection_cases h hlive none with
    hremoved | ⟨exception, error, s', -, hregistered, hctl⟩
  · exact hremoved
  · obtain ⟨reason, hreason, -⟩ :=
      (Server.epollCtl_eq_some hctl).2 ((h.present_eq hlive).trans hregistered)
    cases hreason

theorem run_failing {actions : List Action} {n : ℕ}
    (h : Hosting (run config descriptors actions) n) (hpos : 0 < n) (hn : n < UInt64.size - 2) :
    Vacant (run config descriptors (actions ++ failing ⟨.ofNat n⟩)) (n + 1) := by
  have hwf := Server.run_wellFormed config descriptors actions
  rw [Server.run_append]
  generalize run config descriptors actions = s at h hwf
  obtain ⟨c, f, hlive, hregistered⟩ := h.live
  obtain ⟨event, hlookup, hkey⟩ := (hwf.live _ c f hlive).registered hregistered
  have hunreserved : UInt64.ofNat n ∉ reservedKeys := by
    rw [notMem_reservedKeys_iff, UInt64.toNat_ofNat_of_lt' (by omega)]
    exact ⟨hpos, hn⟩
  have hreports : s.reports ⟨{ epollErr := true }, .ofNat n⟩ = true := by
    refine Server.reports_of_lookup hlookup hkey rfl (.inl ?_)
    intro hreserved
    apply hunreserved
    rw [show UInt64.ofNat n = kWorkerWakeupKey from hreserved]
    simp [reservedKeys]
  let s₀ : Server := { s with phase := .dispatching [⟨{ epollErr := true }, .ofNat n⟩] }
  have hwf₀ : WellFormed config s₀ := hwf.congr rfl rfl rfl rfl rfl rfl
  have hlive₀ : s₀.live ⟨.ofNat n⟩ = some (c, f) := hlive
  obtain ⟨s₁, hhandled, hremoved⟩ := handleConnectionEvent_failed hwf₀ hlive₀
  have hevent : Server.dispatchEvent config ⟨{ epollErr := true }, .ofNat n⟩ [] {} s₀ =
      { s₁ with phase := .dispatching [] } := by
    simp only [Server.dispatchEvent, (route_eq_connection_iff _).mpr hunreserved, hhandled]
    rfl
  rw [failing, foldl_event h.polling hreports hevent]
  have hforgot : s₁.connections = (s.connections.remove ⟨.ofNat n⟩).2 ∧
      s₁.stopRequested = s.stopRequested := by
    cases hremoved with
    | unregistered => exact ⟨rfl, rfl⟩
    | registered hregistered hctl =>
        obtain ⟨-, rfl⟩ := Server.epollCtl_eq_none hctl
        exact ⟨rfl, rfl⟩
  obtain ⟨hconnections, hstop⟩ := hforgot
  refine ⟨⟨rfl, hstop.trans h.polling.running⟩, ?_, ?_⟩
  · show s₁.connections.connections.keys = []
    rw [hconnections, ConnectionRegistry.remove, AList.keys_erase, h.keys, List.erase_cons_head]
  · show s₁.connections.nextId.value = _
    rw [hconnections]
    exact h.next

theorem run_visits (config : ServerConfig) (descriptors : Descriptors) {n : ℕ}
    (hn : n ≤ UInt64.size - 3) : Vacant (run config descriptors (visits n)) (n + 1) := by
  induction n with
  | zero =>
      obtain ⟨calls, hstart⟩ := (Server.starting_start config descriptors).eq
      rw [visits, Server.run_nil, hstart]
      exact ⟨⟨rfl, rfl⟩, rfl, rfl⟩
  | succ n ih =>
      have hvacant := ih (Nat.le_of_succ_le hn)
      exact run_failing (run_arriving hvacant (by omega)) (Nat.succ_pos n) (by omega)

/-- A client whose number is the key of the shutdown signal. -/
theorem aliased_of_hosting {actions : List Action} {n : ℕ}
    (h : Hosting (run config descriptors actions) n) (hkey : UInt64.ofNat n = kShutdownSignalKey) :
    (⟨kShutdownSignalKey⟩ : ConnectionId) ∈
      (run config descriptors actions).connections.issued ∧
    (∃ c f event,
      (run config descriptors actions).live ⟨kShutdownSignalKey⟩ = some (c, f) ∧
      (run config descriptors actions).epoll.lookup c.fd = some event ∧
      route event.key = .shutdownSignal) ∧
    ¬ Unaliased (run config descriptors actions) := by
  have hwf := Server.run_wellFormed config descriptors actions
  have hcounting := run_counting config descriptors actions
  generalize run config descriptors actions = s at h hwf hcounting
  obtain ⟨c, f, hlive, hregistered⟩ := h.live
  rw [hkey] at hlive
  obtain ⟨event, hlookup, hevent⟩ := (hwf.live _ c f hlive).registered hregistered
  have hissued : (⟨kShutdownSignalKey⟩ : ConnectionId) ∈ s.connections.issued :=
    (hcounting.mem_iff _).mpr ⟨by decide, (hwf.live _ c f hlive).numbered⟩
  refine ⟨hissued, ⟨c, f, event, hlive, hlookup, ?_⟩, ?_⟩
  · rw [hevent]
    decide
  · intro hunaliased
    exact (hunaliased _ hissued).1 (by simp [reservedKeys])

/-- When so many clients have come and gone that the next number is the key of the
shutdown signal, the next client gets it. It is live and registered, and its
events go to the handler of the shutdown signal. -/
theorem event_keys_alias :
    (⟨kShutdownSignalKey⟩ : ConnectionId) ∈
      (run Server.Sample.config Server.Sample.descriptors
        (visits (UInt64.size - 3) ++ arriving)).connections.issued ∧
    (∃ c f event,
      (run Server.Sample.config Server.Sample.descriptors
        (visits (UInt64.size - 3) ++ arriving)).live ⟨kShutdownSignalKey⟩ = some (c, f) ∧
      (run Server.Sample.config Server.Sample.descriptors
        (visits (UInt64.size - 3) ++ arriving)).epoll.lookup c.fd = some event ∧
      route event.key = .shutdownSignal) ∧
    ¬ Unaliased (run Server.Sample.config Server.Sample.descriptors
        (visits (UInt64.size - 3) ++ arriving)) :=
  aliased_of_hosting (run_arriving (run_visits _ _ (Nat.le_refl _)) (by decide)) (by decide)

end PulseCore.Network
