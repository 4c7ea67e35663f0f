/-
# What holds when a handler has returned

Inside a handler the interest of a connection lags behind its output, and a
response that could be released may still wait in the reorder map. When the
handler has returned, both are settled: a live connection waits for exactly the
events it needs, its next response in order is not there yet, and it has
something left to do. Handlers settle the connection they are called for and
leave all others as they are.
-/

import PulseCore.Network.Handlers

namespace PulseCore.Network

open PulseCore.Foundation PulseCore.Core PulseCore.Protocol

/-- What is settled about a live connection. -/
structure SettledInv (s : Server) (id : ConnectionId) (c : Connection) (f : ConnectionFlow) :
    Prop where
  head : f.completedResponses.lookup f.nextResponseSequence = none
  unfinished : Server.shouldCloseAfterFlush c f = false
  interest : f.registeredWithEpoll = (!f.closeAfterFlush || c.hasPendingOutput)
  mask : f.registeredWithEpoll = true → s.epoll.lookup c.fd =
    some (connectionEvent id (!f.closeAfterFlush) c.hasPendingOutput)
  unended : f.closeAfterFlush = false → (s.sockets id.value).peerClosed = false

def Settled (s : Server) (id : ConnectionId) : Prop :=
  ∀ c f, s.live id = some (c, f) → SettledInv s id c f

variable {config : ServerConfig} {touched : Set ConnectionId} {s s' s₁ : Server}
  {id other : ConnectionId} {c c' : Connection} {f f' : ConnectionFlow} {a a' : Activation}
  {fault : Option CtlFault}

theorem Settled.unended (h : Settled s id) : s.Unended id :=
  fun c f hlive => (h c f hlive).unended

/-- A settled connection stays settled while its entries, its registration and
its socket stay as they are. -/
theorem Settled.frame (h : Settled s id) (hlive : s'.live id = s.live id)
    (hepoll : ∀ c f, s.live id = some (c, f) → s'.epoll.lookup c.fd = s.epoll.lookup c.fd)
    (hsocket : s'.sockets id.value = s.sockets id.value) : Settled s' id := by
  intro c f hentry
  rw [hlive] at hentry
  have hinv := h c f hentry
  refine ⟨hinv.head, hinv.unfinished, hinv.interest, ?_, ?_⟩
  · rw [hepoll c f hentry]
    exact hinv.mask
  · rw [hsocket]
    exact hinv.unended

theorem Settled.congr (h : Settled s id) (hlive : s'.live id = s.live id)
    (hepoll : s'.epoll = s.epoll) (hsocket : s'.sockets id.value = s.sockets id.value) :
    Settled s' id :=
  h.frame hlive (fun _ _ _ => by rw [hepoll]) hsocket

theorem Settled.of_none (hgone : s.live id = none) : Settled s id := by
  intro c f hlive
  rw [hgone] at hlive
  cases hlive

/-- A write to another connection. -/
theorem Settled.wrote (h : Settled s other) (hwrote : Server.Wrote s s' id c f)
    (hne : other ≠ id) : Settled s' other :=
  h.congr (hwrote.live_other hne) (by rw [hwrote.rest]) (by rw [hwrote.rest])

/-- A change of the registration of another connection. -/
theorem Settled.epollCtl (h : Settled s other) (hwf : WellFormed config s)
    (hlive : s.live id = some (c, f)) {op : CtlOp} {event : EpollEvent} {answer : Option Errno}
    (hctl : s.epollCtl op c.fd event fault = (answer, s')) (hne : other ≠ id) :
    Settled s' other := by
  refine h.frame (Server.live_epollCtl hctl other) ?_ (by rw [Server.sockets_epollCtl hctl])
  intro d g hd
  apply Server.lookup_epollCtl_of_ne hctl
  intro hfd
  exact hne (hwf.distinct other id d c g f hd hlive hfd)

theorem Settled.forget (h : Settled s other) (hne : other ≠ id) : Settled (s.forget id) other :=
  h.congr (s.live_forget_of_ne hne) rfl rfl

theorem Settled.removed (h : Settled s other) (hwf : WellFormed config s)
    (hlive : s.live id = some (c, f)) (hremoved : Server.Removed id c f s s')
    (hne : other ≠ id) : Settled s' other := by
  cases hremoved with
  | unregistered => exact h.forget hne
  | registered hregistered hctl => exact (h.epollCtl hwf hlive hctl hne).forget hne

theorem Settled.logSocket (h : Settled s other) (recvCalls : List RecvCall)
    (sendCalls : List SendCall) (hne : other ≠ id) :
    Settled (s.logSocket id recvCalls sendCalls) other :=
  h.congr rfl rfl
    (Function.update_of_ne (fun hvalue => hne (congrArg ConnectionId.mk hvalue)) _ _)

/-- Admission leaves the connections that were there alone. -/
theorem Settled.admitted (h : Settled s other) (fd : Fd)
    (hne : other ≠ s.connections.nextId) : Settled (s.admitted fd) other :=
  h.congr (WellFormed.live_admitted_of_ne s fd hne) rfl
    (Function.update_of_ne (fun hvalue => hne (congrArg ConnectionId.mk hvalue)) _ _)

/-- A connection that was just registered is settled. -/
theorem settled_accepted {fd : Fd}
    (hctl : (s.admitted fd).epollCtl .add fd
      (connectionEvent s.connections.nextId true false) fault = (none, s₁)) :
    Settled (s₁.putFlow s.connections.nextId { registeredWithEpoll := true })
      s.connections.nextId := by
  have hlive := (Server.live_epollCtl hctl _).trans (WellFormed.live_admitted_self s fd)
  intro c f hentry
  rw [(Server.wrote_putFlow hlive _).live_self] at hentry
  cases hentry
  obtain ⟨-, rfl⟩ := Server.epollCtl_eq_none hctl
  refine ⟨rfl, rfl, rfl, fun _ => AList.lookup_insert _, fun _ => ?_⟩
  simp only [Server.putFlow, Server.admitted, Function.update_self]
  rfl

/-- A move leaves settled what it does not touch, and an accepted connection is
settled from the start. -/
theorem Move.settled (hmove : Move config touched a a') (hwf : WellFormed config a.server)
    (h : ∀ id, id ∉ touched → Settled a.server id) :
    ∀ id, id ∉ touched → Settled a'.server id := by
  intro other hother
  have hold := h other hother
  have hne : ∀ {id : ConnectionId}, id ∈ touched → other ≠ id :=
    fun hid heq => hother (heq ▸ hid)
  cases hmove with
  | work | wake | stopPool | control | acceptErrors | swap | discard | dropInbox =>
      exact hold.congr rfl rfl rfl
  | @accept fd fault s₁ hinbox hids hroom hfresh hctl =>
      have hadmitted := hwf.admission hids hroom hfresh
      have hlive := WellFormed.live_admitted_self a.server fd
      by_cases hid : other = a.server.connections.nextId
      · rw [hid]
        exact settled_accepted hctl
      · have hlive' := (Server.live_epollCtl hctl _).trans hlive
        exact ((hold.admitted fd hid).epollCtl hadmitted hlive hctl hid).wrote
          (Server.wrote_putFlow hlive' _) hid
  | @acceptFailed fd fault s₁ error hinbox hids hroom hfresh hctl =>
      have hadmitted := hwf.admission hids hroom hfresh
      have hlive := WellFormed.live_admitted_self a.server fd
      by_cases hid : other = a.server.connections.nextId
      · rw [hid]
        exact .of_none (Server.live_forget_self _ _)
      · exact ((hold.admitted fd hid).epollCtl hadmitted hlive hctl hid).forget hid
  | read hid hlive =>
      exact (hold.wrote (Server.wrote_putConnection hlive _) (hne hid)).logSocket _ _ (hne hid)
  | submit hid hlive hinbox hroom hsubmit hwrote =>
      exact (hold.wrote hwrote (hne hid)).congr rfl rfl rfl
  | closing hid hlive hclosed hdecoded hwrote => exact hold.wrote hwrote (hne hid)
  | writeBack hid hlive hwrote => exact hold.wrote hwrote (hne hid)
  | write hid hlive =>
      exact (hold.wrote (Server.wrote_putConnection hlive _) (hne hid)).logSocket _ _ (hne hid)
  | deliver hid hbatch hlive hwrote => exact hold.wrote hwrote (hne hid)
  | release hid hlive hready hqueued hwrote => exact hold.wrote hwrote (hne hid)
  | refuse hid hlive hqueued hwrote => exact hold.wrote hwrote (hne hid)
  | register hid hlive hunregistered hkey hctl hwrote =>
      exact (hold.epollCtl hwf hlive hctl (hne hid)).wrote hwrote (hne hid)
  | modify hid hlive hregistered hkey hctl => exact hold.epollCtl hwf hlive hctl (hne hid)
  | unregister hid hlive hregistered hctl hwrote =>
      exact (hold.epollCtl hwf hlive hctl (hne hid)).wrote hwrote (hne hid)
  | ctlFailed hid hlive hctl hop => exact hold.epollCtl hwf hlive hctl (hne hid)
  | remove hid hlive hremoved => exact hold.removed hwf hlive hremoved (hne hid)
  | drain hid hlive hinbox hclose hremoved =>
      exact (hold.removed hwf hlive hremoved (hne hid)).congr rfl rfl rfl

theorem Moves.settled (hmoves : Moves config touched a a') (hwf : WellFormed config a.server)
    (h : ∀ id, id ∉ touched → Settled a.server id) :
    ∀ id, id ∉ touched → Settled a'.server id := by
  induction hmoves with
  | refl => exact h
  | tail hmoves hmove ih => exact hmove.settled (Moves.wellFormed hmoves hwf) ih

namespace Server

/-- `UpdateInterest` brings the registration in line with what is wanted. -/
theorem updateInterest_settled (hwf : WellFormed config s) (hlive : s.live id = some (c, f))
    (hhead : f.completedResponses.lookup f.nextResponseSequence = none)
    (hunfinished : shouldCloseAfterFlush c f = false)
    (hunended : f.closeAfterFlush = false → (s.sockets id.value).peerClosed = false)
    (hresult : updateInterest id c f fault s = .ok () s') : Settled s' id := by
  have hcases := updateInterest_cases hwf hlive fault
  rw [hresult] at hcases
  intro d g hd
  generalize houtcome : (EStateM.Result.ok () s' : Outcome Unit) = outcome at hcases
  cases hcases with
  | idle hwant hunregistered =>
      cases houtcome
      rw [hlive] at hd
      cases hd
      refine ⟨hhead, hunfinished, hunregistered.trans hwant.symm, ?_, hunended⟩
      intro hregistered
      rw [hunregistered] at hregistered
      cases hregistered
  | @unregistered hwant hregistered s₁ hctl =>
      cases houtcome
      rw [(wrote_putFlow ((live_epollCtl hctl id).trans hlive) _).live_self] at hd
      cases hd
      obtain ⟨-, rfl⟩ := epollCtl_eq_none hctl
      exact ⟨hhead, hunfinished, hwant.symm, nofun, hunended⟩
  | @modified hwant hregistered s₁ hctl =>
      cases houtcome
      rw [(live_epollCtl hctl id).trans hlive] at hd
      cases hd
      obtain ⟨-, rfl⟩ := epollCtl_eq_none hctl
      exact ⟨hhead, hunfinished, hregistered.trans hwant.symm, fun _ => AList.lookup_insert _,
        hunended⟩
  | @registered hwant hunregistered s₁ hctl =>
      cases houtcome
      rw [(wrote_putFlow ((live_epollCtl hctl id).trans hlive) _).live_self] at hd
      cases hd
      obtain ⟨-, rfl⟩ := epollCtl_eq_none hctl
      exact ⟨hhead, hunfinished, hwant.symm, fun _ => AList.lookup_insert _, hunended⟩
  | failed => cases houtcome

theorem settleConnection_settled (hwf : WellFormed config s)
    (hhead : ∀ c f, s.live id = some (c, f) →
      f.completedResponses.lookup f.nextResponseSequence = none)
    (hunended : s.Unended id) (hresult : settleConnection id fault s = .ok () s') :
    Settled s' id := by
  unfold settleConnection at hresult
  split at hresult
  · next c f hfind hlookup =>
      have hlive := live_eq_some_iff.mpr ⟨hfind, hlookup⟩
      split at hresult
      · split at hresult
        · next s₁ hremove =>
            simp only [EStateM.Result.ok.injEq, true_and] at hresult
            subst hresult
            have hgone := live_of_removeConnection hwf hremove
            exact .of_none hgone
        · simp only [reduceCtorEq] at hresult
      · next hunfinished =>
          exact updateInterest_settled hwf hlive (hhead c f hlive)
            (Bool.eq_false_iff.mpr hunfinished) (hunended c f hlive) hresult
  · next hnone =>
      simp only [EStateM.Result.ok.injEq, true_and] at hresult
      subst hresult
      refine .of_none ?_
      unfold live
      split
      · next c f hfind hlookup => exact absurd hlookup (hnone c f hfind)
      · rfl

theorem handleConnectionEvent_settled (hwf : WellFormed config s) (h : Settled s id)
    {events : EventMask} {io : HandlerIo}
    (hresult : handleConnectionEvent config id events io s = .ok () s') : Settled s' id := by
  unfold handleConnectionEvent at hresult
  split at hresult
  · next hfind =>
      cases hresult
      exact h
  next c hfind =>
  split at hresult
  · exact .of_none (live_of_removeConnection hwf hresult)
  next f hlookup =>
  have hlive := live_eq_some_iff.mpr ⟨hfind, hlookup⟩
  obtain ⟨rest, hread, hserved⟩ : ∃ rest, Moves config {id} (.idle s []) _ ∧ _ :=
    readEvent_moves (Set.mem_singleton id) hlive rfl h.unended events io
  have hwf₁ := hread.wellFormed hwf
  simp only [Activation.idle] at hwf₁ hserved
  split at hresult
  · simp only [reduceCtorEq] at hresult
  next shouldRemove s₁ hreadResult =>
  rw [hreadResult, stateOf_ok] at hwf₁
  have hwrite : Moves config {id} (.idle s₁ []) _ :=
    writeEvent_moves hwf₁ (Set.mem_singleton id) events io shouldRemove
  have hwf₂ := hwrite.wellFormed hwf₁
  simp only [Activation.idle] at hwf₂
  split at hresult
  · simp only [reduceCtorEq] at hresult
  · next s₂ hwriteResult =>
      rw [hwriteResult, stateOf_ok] at hwf₂
      exact .of_none (live_of_removeConnection hwf₂ hresult)
  · next s₂ hwriteResult =>
      rw [hwriteResult, stateOf_ok] at hwf₂
      obtain ⟨rfl, hkept⟩ := served_of_writeEvent hwriteResult
      obtain ⟨-, c₁, f₁, hserved₁⟩ := hserved s₁ hreadResult
      obtain ⟨c₂, hserved₂⟩ := hkept c₁ f f₁ hserved₁
      refine settleConnection_settled hwf₂ ?_ ?_ hresult
      · intro d g hd
        rw [hserved₂.live] at hd
        cases hd
        rw [hserved₂.responses, hserved₂.next]
        exact (h c f hlive).head
      · intro d g hd
        rw [hserved₂.live] at hd
        cases hd
        exact hserved₂.unended

/-- With a pass for each response in the map, the flush ends at a response that
is not there. -/
theorem releaseReady_head {fuel : ℕ} (hfuel : f.completedResponses.keys.length < fuel)
    (hresult : releaseReady fuel c f = (true, c', f')) :
    f'.completedResponses.lookup f'.nextResponseSequence = none := by
  induction fuel generalizing c f with
  | zero => exact absurd hfuel (Nat.not_lt_zero _)
  | succ fuel ih =>
      rw [releaseReady] at hresult
      split at hresult
      · next hnone =>
          cases hresult
          exact hnone
      · next response hready =>
          split at hresult
          · cases hresult
          · refine ih ?_ hresult
            have hmem : f.nextResponseSequence ∈ f.completedResponses.keys :=
              AList.lookup_isSome.mp (by rw [hready]; rfl)
            rw [AList.keys_erase, List.length_erase_of_mem hmem]
            have hpos := List.length_pos_of_mem hmem
            omega

/-- The flush leaves the flags of the flow alone. -/
theorem releaseReady_flags {fuel : ℕ} {queued : Bool}
    (hresult : releaseReady fuel c f = (queued, c', f')) :
    f'.closeAfterFlush = f.closeAfterFlush := by
  induction fuel generalizing c f with
  | zero =>
      cases hresult
      rfl
  | succ fuel ih =>
      rw [releaseReady] at hresult
      split at hresult
      · cases hresult
        rfl
      · split at hresult
        · cases hresult
          rfl
        · have hrest := ih hresult
          exact hrest

theorem handleCompletedWork_settled (hwf : WellFormed config s) {result : WorkResult}
    (h : Settled s result.connectionId)
    (hresult : handleCompletedWork result fault s = .ok () s') :
    Settled s' result.connectionId := by
  unfold handleCompletedWork at hresult
  split at hresult
  · cases hresult
    exact h
  next c hfind =>
  split at hresult
  · cases hresult
    exact h
  next f hlookup =>
  have hlive := live_eq_some_iff.mpr ⟨hfind, hlookup⟩
  obtain ⟨queued, c', f', hrelease⟩ := exists_released c
    { f with
      completedResponses := emplace f.completedResponses result.sequence result.response }
  have hmoves : Moves config {result.connectionId} (.idle s [result]) _ :=
    released_moves (Set.mem_singleton _) rfl hlive hrelease
  have hput := wrote_putConnection hlive c'
  have hwrote := hput.trans (wrote_putFlow hput.live_self f')
  have hwf₁ := hmoves.wellFormed hwf
  simp only [Activation.idle] at hwf₁
  simp only [flushReadyResponses_eq hrelease] at hresult
  split at hresult
  · exact .of_none (live_of_removeConnection hwf₁ hresult)
  · next hqueued =>
      simp only [Bool.not_eq_true', Bool.not_eq_false] at hqueued
      subst hqueued
      refine settleConnection_settled hwf₁ ?_ ?_ hresult
      · intro d g hd
        rw [hwrote.live_self] at hd
        cases hd
        exact releaseReady_head (Nat.lt_succ_self _) hrelease
      · intro d g hd
        rw [hwrote.live_self] at hd
        cases hd
        rw [releaseReady_flags hrelease, hwrote.rest]
        exact (h c f hlive).unended

/-! ## All connections -/

/-- A handler that settles its own connection settles all of them. -/
theorem settled_of_moves (hmoves : Moves config {id} a a') (hwf : WellFormed config a.server)
    (h : ∀ other, Settled a.server other) (hid : Settled a'.server id) :
    ∀ other, Settled a'.server other := by
  intro other
  by_cases hother : other = id
  · rw [hother]
    exact hid
  · exact hmoves.settled hwf (fun other _ => h other) other hother

theorem removeConnection_settled (hwf : WellFormed config s) (h : ∀ other, Settled s other)
    (hresult : removeConnection id fault s = .ok () s') : ∀ other, Settled s' other := by
  have hmoves : Moves config {id} (.idle s []) _ :=
    removeConnection_moves hwf (Set.mem_singleton id) fault
  simp only [Activation.idle, hresult, stateOf_ok] at hmoves
  exact settled_of_moves hmoves hwf h (.of_none (live_of_removeConnection hwf hresult))

theorem closeConnections_settled {passes : ℕ} {faults : List (Option CtlFault)}
    (hwf : WellFormed config s) (h : ∀ other, Settled s other)
    (hresult : closeConnections passes faults s = .ok () s') : ∀ other, Settled s' other := by
  induction passes generalizing s faults with
  | zero =>
      cases hresult
      exact h
  | succ passes ih =>
      rw [closeConnections] at hresult
      split at hresult
      · cases hresult
        exact h
      · next entry rest hentries =>
          split at hresult
          · simp only [reduceCtorEq] at hresult
          · next s₁ hremove =>
              have hmoves : Moves config Set.univ (.idle s []) _ :=
                removeConnection_moves hwf (Set.mem_univ ⟨entry.1⟩) (faults.headD none)
              have hwf₁ := hmoves.wellFormed hwf
              simp only [Activation.idle, hremove, stateOf_ok] at hwf₁
              exact ih hwf₁ (removeConnection_settled hwf h hremove) hresult

end Server

end PulseCore.Network
