/-
# Decoders hold no complete frame

`ReadAvailable` decodes as long as there is something to decode, whatever its budget
is: the budget limits what is received, and a frame that was received is decoded in
the same call. So between two handler calls what a decoder keeps is the beginning of
a frame, and no input waits for an event that may not come.

A malformed frame stays in its decoder, but the connection is removed by the handler
that met it.
-/

import PulseCore.Network.Isolation
import PulseCore.Network.Reachable

namespace PulseCore.Network

open PulseCore.Foundation PulseCore.Core PulseCore.Protocol

variable {config : ServerConfig} {touched : Set ConnectionId} {s s' : Server}
  {id : ConnectionId} {c c' : Connection} {f f' : ConnectionFlow} {a a' : Activation}
  {fault : Option CtlFault}

/-- What a connection has not decoded is less than a frame. -/
def DecodedAt (s : Server) (id : ConnectionId) : Prop :=
  ∀ c f, s.live id = some (c, f) → tryDecodeFrame c.undecoded = .needMoreData

theorem DecodedAt.congr (h : DecodedAt s id) (hlive : s'.live id = s.live id) :
    DecodedAt s' id := by
  intro c f hentry
  rw [hlive] at hentry
  exact h c f hentry

theorem DecodedAt.of_none (hgone : s.live id = none) : DecodedAt s id := by
  intro c f hlive
  rw [hgone] at hlive
  cases hlive

theorem DecodedAt.of_live (hlive : s.live id = some (c, f))
    (hdecoded : tryDecodeFrame c.undecoded = .needMoreData) : DecodedAt s id := by
  intro d g hentry
  rw [hlive] at hentry
  cases hentry
  exact hdecoded

/-- A connection that a move does not touch stays as it is, unless it is the one that is
accepted, and that one has received nothing. -/
theorem Move.decodedAt (hmove : Move config touched a a') (hid : id ∉ touched)
    (h : DecodedAt a.server id) : DecodedAt a'.server id := by
  have hne : ∀ {other : ConnectionId}, other ∈ touched → id ≠ other :=
    fun hother heq => hid (heq ▸ hother)
  cases hmove with
  | work | wake | stopPool | control | acceptErrors | swap | discard | dropInbox =>
      exact h.congr rfl
  | @accept fd fault s₁ hinbox hids hroom hfresh hctl =>
      have hadmitted := WellFormed.live_admitted_self a.server fd
      have hwrote := Server.wrote_putFlow ((Server.live_epollCtl hctl _).trans hadmitted)
        { registeredWithEpoll := true }
      by_cases hnew : id = a.server.connections.nextId
      · subst hnew
        exact .of_live hwrote.live_self rfl
      · exact h.congr (((hwrote.live_other hnew).trans (Server.live_epollCtl hctl id)).trans
          (WellFormed.live_admitted_of_ne a.server fd hnew))
  | @acceptFailed fd fault s₁ error hinbox hids hroom hfresh hctl =>
      by_cases hnew : id = a.server.connections.nextId
      · subst hnew
        exact .of_none (Server.live_forget_self _ _)
      · exact h.congr (((Server.live_forget_of_ne _ hnew).trans
          (Server.live_epollCtl hctl id)).trans (WellFormed.live_admitted_of_ne a.server fd hnew))
  | read hother hlive | write hother hlive =>
      exact h.congr ((Server.wrote_putConnection hlive _).live_other (hne hother))
  | submit hother _ _ _ _ hwrote | closing hother _ _ _ hwrote | writeBack hother _ hwrote
  | deliver hother _ _ hwrote | release hother _ _ _ hwrote | refuse hother _ _ hwrote =>
      exact h.congr (hwrote.live_other (hne hother))
  | register hother _ _ _ hctl hwrote | unregister hother _ _ hctl hwrote =>
      exact h.congr ((hwrote.live_other (hne hother)).trans (Server.live_epollCtl hctl id))
  | modify hother _ _ _ hctl | ctlFailed hother _ hctl =>
      exact h.congr (Server.live_epollCtl hctl id)
  | remove hother _ hremoved => exact h.congr (live_removed_of_ne hremoved (hne hother))
  | drain hother _ _ _ hremoved =>
      have hsame := live_removed_of_ne hremoved (hne hother)
      exact h.congr hsame

theorem Moves.decodedAt (hmoves : Moves config touched a a') (hid : id ∉ touched)
    (h : DecodedAt a.server id) : DecodedAt a'.server id := by
  induction hmoves with
  | refl => exact h
  | tail hmoves hmove ih => exact hmove.decodedAt hid ih

namespace Server

/-- When a read does not ask for the removal of the connection, it has decoded all it
could. -/
theorem readEvent_decodedAt (hlive : s.live id = some (c, f)) (h : DecodedAt s id)
    {events : EventMask} {io : HandlerIo}
    (hresult : readEvent config id events io c f s = .ok false s') : DecodedAt s' id := by
  unfold readEvent at hresult
  split at hresult
  · have hspec := c.readAvailable_spec config.options.maxReadBytesPerEvent io.recvs
    generalize c.readAvailable config.options.maxReadBytesPerEvent io.recvs = out
      at hspec hresult
    have hlive' : ((s.putConnection id out.connection).logSocket id out.calls []).live id =
      some (out.connection, f) := (wrote_putConnection hlive out.connection).live_self
    simp only at hresult
    generalize (s.putConnection id out.connection).logSocket id out.calls [] = s₁
      at hlive' hresult
    split at hresult
    · simp only [reduceCtorEq] at hresult
    next result hread =>
    generalize hsubmit : submitWork config id result.messages io.workers s₁ = submission
      at hresult
    obtain ⟨submitted, s₂⟩ := submission
    obtain ⟨-, ⟨n, hlive₂⟩, -⟩ :=
      submitWork_moves (a := ⟨s₁, fun _ => result.messages, []⟩) (Set.mem_univ id) hlive'
        io.workers rfl hsubmit
    simp only at hresult
    split at hresult
    · simp only [EStateM.Result.ok.injEq, Bool.true_eq_false, false_and] at hresult
    next hvalid =>
    have hdecoded := hspec.drained result hread hvalid
    split at hresult
    · obtain ⟨-, hlookup₂⟩ := live_eq_some_iff.mp hlive₂
      simp only [hlookup₂, EStateM.Result.ok.injEq] at hresult
      obtain ⟨-, rfl⟩ := hresult
      exact .of_live (wrote_putFlow hlive₂ _).live_self hdecoded
    · simp only [EStateM.Result.ok.injEq] at hresult
      obtain ⟨-, rfl⟩ := hresult
      exact .of_live hlive₂ hdecoded
  · simp only [EStateM.Result.ok.injEq] at hresult
    obtain ⟨-, rfl⟩ := hresult
    exact h

/-- A write concerns the output only. -/
theorem writeEvent_decodedAt (hwf : WellFormed config s) (h : DecodedAt s id)
    {events : EventMask} {io : HandlerIo} {shouldRemove : Bool}
    (hresult : writeEvent config id events io shouldRemove s = .ok false s') :
    DecodedAt s' id := by
  unfold writeEvent at hresult
  split at hresult
  · split at hresult
    · simp only [EStateM.Result.ok.injEq] at hresult
      obtain ⟨-, rfl⟩ := hresult
      exact h
    next c hfind =>
    obtain ⟨f, hlive⟩ := hwf.exists_live hfind
    have hspec := c.writeAvailable_spec config.options.maxWriteBytesPerEvent io.sends
    generalize c.writeAvailable config.options.maxWriteBytesPerEvent io.sends = out
      at hspec hresult
    simp only at hresult
    split at hresult
    · simp only [reduceCtorEq] at hresult
    · simp only [EStateM.Result.ok.injEq] at hresult
      obtain ⟨-, rfl⟩ := hresult
      refine .of_live (wrote_putConnection hlive out.connection).live_self ?_
      rw [hspec.same.undecoded]
      exact h c f hlive
  · simp only [EStateM.Result.ok.injEq] at hresult
    obtain ⟨-, rfl⟩ := hresult
    exact h

/-- Settling a connection removes it or leaves its decoder alone. -/
theorem settleConnection_decodedAt (hwf : WellFormed config s) (h : DecodedAt s id)
    (hresult : settleConnection id fault s = .ok () s') : DecodedAt s' id := by
  unfold settleConnection at hresult
  split at hresult
  · next c f hfind hlookup =>
      have hlive := live_eq_some_iff.mpr ⟨hfind, hlookup⟩
      split at hresult
      · split at hresult
        · next s₁ hremove =>
            simp only [EStateM.Result.ok.injEq, true_and] at hresult
            subst hresult
            have hgone := live_of_removeConnection hwf hremove
            exact .of_none hgone
        · simp only [reduceCtorEq] at hresult
      · obtain ⟨f', hkept⟩ := live_updateInterest hwf hlive fault
        rw [hresult] at hkept
        exact .of_live hkept (h c f hlive)
  · simp only [EStateM.Result.ok.injEq, true_and] at hresult
    subst hresult
    exact h

theorem handleConnectionEvent_decodedAt (hwf : WellFormed config s) (hunended : s.Unended id)
    (h : DecodedAt s id) {events : EventMask} {io : HandlerIo}
    (hresult : handleConnectionEvent config id events io s = .ok () s') : DecodedAt s' id := by
  unfold handleConnectionEvent at hresult
  split at hresult
  · cases hresult
    exact h
  next c hfind =>
  split at hresult
  · exact .of_none (live_of_removeConnection hwf hresult)
  next f hlookup =>
  have hlive := live_eq_some_iff.mpr ⟨hfind, hlookup⟩
  obtain ⟨rest, hread, -⟩ : ∃ rest, Moves config {id} (.idle s []) _ ∧ _ :=
    readEvent_moves (Set.mem_singleton id) hlive rfl hunended events io
  have hwf₁ := hread.wellFormed hwf
  simp only [Activation.idle] at hwf₁
  split at hresult
  · simp only [reduceCtorEq] at hresult
  next shouldRemove s₁ hreadResult =>
  rw [hreadResult, stateOf_ok] at hwf₁
  have hwrite : Moves config {id} (.idle s₁ []) _ :=
    writeEvent_moves hwf₁ (Set.mem_singleton id) events io shouldRemove
  have hwf₂ := hwrite.wellFormed hwf₁
  simp only [Activation.idle] at hwf₂
  split at hresult
  · simp only [reduceCtorEq] at hresult
  · next s₂ hwriteResult =>
      rw [hwriteResult, stateOf_ok] at hwf₂
      exact .of_none (live_of_removeConnection hwf₂ hresult)
  · next s₂ hwriteResult =>
      rw [hwriteResult, stateOf_ok] at hwf₂
      obtain ⟨rfl, -⟩ := served_of_writeEvent hwriteResult
      have hdecoded := readEvent_decodedAt hlive h hreadResult
      exact settleConnection_decodedAt hwf₂ (writeEvent_decodedAt hwf₁ hdecoded hwriteResult)
        hresult

/-- Releasing responses concerns the output only. -/
theorem undecoded_of_releaseReady {fuel : ℕ} {queued : Bool}
    (hresult : releaseReady fuel c f = (queued, c', f')) : c'.undecoded = c.undecoded := by
  induction fuel generalizing c f with
  | zero =>
      cases hresult
      rfl
  | succ fuel ih =>
      rw [releaseReady] at hresult
      split at hresult
      · cases hresult
        rfl
      next response _ =>
      have hsame := (c.queueOutput_spec response).same
      split at hresult
      · next c₁ hqueued =>
          cases hresult
          rw [hqueued] at hsame
          exact hsame.undecoded
      · next c₁ hqueued =>
          rw [hqueued] at hsame
          exact (ih hresult).trans hsame.undecoded

theorem handleCompletedWork_decodedAt (hwf : WellFormed config s) {result : WorkResult}
    (h : DecodedAt s result.connectionId)
    (hresult : handleCompletedWork result fault s = .ok () s') :
    DecodedAt s' result.connectionId := by
  unfold handleCompletedWork at hresult
  split at hresult
  · cases hresult
    exact h
  next c hfind =>
  split at hresult
  · cases hresult
    exact h
  next f hlookup =>
  have hlive := live_eq_some_iff.mpr ⟨hfind, hlookup⟩
  obtain ⟨queued, c', f', hrelease⟩ := exists_released c
    { f with
      completedResponses := emplace f.completedResponses result.sequence result.response }
  have hmoves : Moves config {result.connectionId} (.idle s [result]) _ :=
    released_moves (Set.mem_singleton _) rfl hlive hrelease
  have hput := wrote_putConnection hlive c'
  have hwrote := hput.trans (wrote_putFlow hput.live_self f')
  have hwf₁ := hmoves.wellFormed hwf
  simp only [Activation.idle] at hwf₁
  simp only [flushReadyResponses_eq hrelease] at hresult
  split at hresult
  · exact .of_none (live_of_removeConnection hwf₁ hresult)
  · refine settleConnection_decodedAt hwf₁ (.of_live hwrote.live_self ?_) hresult
    rw [undecoded_of_releaseReady hrelease]
    exact h c f hlive

/-! ## Every run -/

/-- Unless an exception has left `Run`, no decoder holds a complete frame. -/
def Decoded (s : Server) : Prop := s.phase.hasFailed = false → ∀ id, DecodedAt s id

theorem decoded_proceed {next : Phase} {outcome : Outcome Unit}
    (h : ∀ s', outcome = .ok () s' → ∀ id, DecodedAt s' id) : Decoded (proceed next outcome) := by
  cases outcome with
  | ok value s' => exact fun _ id => (h s' rfl id).congr rfl
  | error exception s' => exact nofun

/-- A handler that leaves its own connection decoded leaves all of them decoded. -/
theorem decodedAt_of_moves (hmoves : Moves config {id} a a')
    (h : ∀ other, DecodedAt a.server other) (hid : DecodedAt a'.server id) :
    ∀ other, DecodedAt a'.server other := by
  intro other
  by_cases hother : other = id
  · rw [hother]
    exact hid
  · exact hmoves.decodedAt hother (h other)

theorem decoded_dispatchEvent (hwf : WellFormed config s) (hsettled : ∀ id, Settled s id)
    (h : ∀ id, DecodedAt s id) (event : EpollEvent) (rest : List EpollEvent) (io : HandlerIo) :
    Decoded (dispatchEvent config event rest io s) := by
  unfold dispatchEvent
  split
  · refine decoded_proceed fun s' hs' id => ?_
    have hmoves : Moves config ∅ (.idle s []) _ := handleListenerEvent_moves io.accepts hwf rfl
    simp only [Activation.idle, hs', stateOf_ok] at hmoves
    exact hmoves.decodedAt (Set.notMem_empty id) (h id)
  · exact fun _ id => (h id).congr rfl
  · refine decoded_proceed fun s' hs' id => ?_
    have hmoves : Moves config ∅ (.idle s []) _ := handleShutdownSignal_moves io.signals
    simp only [Activation.idle, hs', stateOf_ok] at hmoves
    exact hmoves.decodedAt (Set.notMem_empty id) (h id)
  · next id _ =>
      refine decoded_proceed fun s' hs' => ?_
      have hunended := (hsettled id).unended
      obtain ⟨inbox, hmoves, -⟩ : ∃ inbox, Moves config {id} (.idle s []) _ ∧ _ :=
        handleConnectionEvent_moves hwf rfl hunended event.events io
      simp only [Activation.idle, hs', stateOf_ok] at hmoves
      exact decodedAt_of_moves hmoves h (handleConnectionEvent_decodedAt hwf hunended (h id) hs')

theorem decoded_closeConnections {passes : ℕ} {faults : List (Option CtlFault)}
    (hwf : WellFormed config s) (h : ∀ other, DecodedAt s other)
    (hresult : closeConnections passes faults s = .ok () s') : ∀ other, DecodedAt s' other := by
  induction passes generalizing s faults with
  | zero =>
      cases hresult
      exact h
  | succ passes ih =>
      rw [closeConnections] at hresult
      split at hresult
      · cases hresult
        exact h
      next entry _ _ =>
      split at hresult
      · cases hresult
      next s₁ hremove =>
      have hmoves : Moves config {⟨entry.1⟩} (.idle s []) _ :=
        removeConnection_moves hwf (Set.mem_singleton ⟨entry.1⟩) (faults.headD none)
      have hwf₁ := hmoves.wellFormed hwf
      simp only [Activation.idle, hremove, stateOf_ok] at hmoves hwf₁
      refine ih hwf₁ ?_ hresult
      exact decodedAt_of_moves hmoves h (.of_none (live_of_removeConnection hwf hremove))

theorem Decoded.step (hwf : WellFormed config s)
    (hsettled : s.phase.hasFailed = false → ∀ id, Settled s id) (h : Decoded s)
    (action : Action) : Decoded (step config s action) := by
  cases action with
  | worker | requestStop | notifyStop | stopPool =>
      exact fun hphase id => (h hphase id).congr rfl
  | wait answer =>
      simp only [Server.step]
      split
      · next hphase =>
          have hdecoded := h (by rw [hphase]; rfl)
          split
          · exact h
          · split
            · exact fun _ id => (hdecoded id).congr rfl
            · split
              · exact h
              · intro hphase
                cases hphase
      · exact h
  | dispatch io =>
      simp only [Server.step]
      split
      · next hphase => exact fun _ id => (h (by rw [hphase]; rfl) id).congr rfl
      · next hphase =>
          have hdecoded := h (by rw [hphase]; rfl)
          split
          · exact fun _ id => (hdecoded id).congr rfl
          · exact decoded_dispatchEvent hwf (hsettled (by rw [hphase]; rfl)) hdecoded _ _ io
      · exact h
  | readWakeup interrupted =>
      simp only [Server.step]
      split
      · next hphase =>
          have hdecoded := h (by rw [hphase]; rfl)
          split
          · exact fun _ id => (hdecoded id).congr rfl
          · exact fun _ id => (hdecoded id).congr rfl
          · intro hphase
            cases hphase
      · exact h
  | swapCompleted =>
      simp only [Server.step]
      split
      · next hphase => exact fun _ id => (h (by rw [hphase]; rfl) id).congr rfl
      · exact h
  | complete fault =>
      simp only [Server.step]
      split
      · next hphase => exact fun _ id => (h (by rw [hphase]; rfl) id).congr rfl
      · next result batch rest hphase =>
          have hdecoded := h (by rw [hphase]; rfl)
          refine decoded_proceed fun s' hs' => ?_
          have hmoves : Moves config {result.connectionId} (.idle s (result :: batch)) _ :=
            handleCompletedWork_moves hwf rfl rfl fault
          simp only [Activation.idle, hs', stateOf_ok] at hmoves
          exact decodedAt_of_moves hmoves hdecoded
            (handleCompletedWork_decodedAt hwf (hdecoded _) hs')
      · exact h
  | close faults =>
      simp only [Server.step]
      split
      · next hphase =>
          have hdecoded := h (by rw [hphase]; rfl)
          split
          · exact decoded_proceed fun s' hs' => decoded_closeConnections hwf hdecoded hs'
          · exact h
      · exact h

/-- After every run, unless an exception has left `Run`, what a connection has not
decoded is less than a frame. -/
theorem run_decoded (config : ServerConfig) (descriptors : Descriptors) (actions : List Action) :
    Decoded (run config descriptors actions) := by
  induction actions using List.reverseRecOn with
  | nil =>
      obtain ⟨calls, hstart⟩ := (starting_start config descriptors).eq
      rw [run_nil, hstart]
      exact fun _ id => .of_none rfl
  | append_singleton actions action ih =>
      rw [run_append_singleton]
      obtain ⟨a, ha, -, hrest⟩ := run_moves config descriptors actions
      refine Decoded.step (run_wellFormed config descriptors actions) (fun hphase => ?_) ih action
      rw [← ha] at hphase ⊢
      exact (hrest hphase).2.2

end Server

end PulseCore.Network
