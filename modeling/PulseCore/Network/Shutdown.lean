/-
# Shutdown

`CloseAllConnections` takes whatever entry the flow table has first and calls
`RemoveConnection` for it until the table is empty. Nothing counts the passes: one
that erased nothing would be repeated forever. It is written here as that loop,
with an entry that is up to the table and an interest set from which descriptors
may have disappeared, and with fuel in place of time, so that running out of fuel
means still running.

Each pass erases an entry because both tables know the same connections. That
much, and that an unregistered connection is not in the interest set, survives a
pass; it is less than what holds in a running server, where `DEL` finds the
descriptor.
-/

import PulseCore.Network.Reachable

namespace PulseCore.Network

open PulseCore.Core

/-- What one pass of the loop meets: the position of the entry that `begin()` points
to, and descriptors that are no longer in the interest set, so that `DEL` reports
`ENOENT` for them. -/
structure ClosePass where
  first : ℕ
  lost : List Fd

namespace Server

/-- The interest set without some descriptors. -/
def lose (lost : List Fd) (s : Server) : Server :=
  { s with epoll := lost.foldl (fun epoll fd => epoll.erase fd) s.epoll }

/-- The loop of `CloseAllConnections`. It tells how many passes it made and how it
ended; without a result it is still running when the fuel is used up. -/
def closeLoop (passes : ℕ → ClosePass) : ℕ → ℕ → Server → Option (ℕ × Outcome Unit)
  | 0, _, _ => none
  | fuel + 1, made, s =>
      match s.connectionFlows.keys[(passes made).first % s.connectionFlows.keys.length]? with
      | none => some (made, .ok () s)
      | some key =>
          match removeConnection ⟨key⟩ none (s.lose (passes made).lost) with
          | .error error s => some (made + 1, .error error s)
          | .ok () s => closeLoop passes fuel (made + 1) s

/-- What the loop rests on. -/
structure Closable (s : Server) : Prop where
  agree : ∀ id : ConnectionId,
    (s.connections.find id).isSome = (s.connectionFlows.lookup id.value).isSome
  interest : ∀ fd ∈ s.epoll, fd ∈ s.descriptors.all ∨
    ∃ id c f, s.live id = some (c, f) ∧ c.fd = fd
  unregistered : ∀ id c f, s.live id = some (c, f) → f.registeredWithEpoll = false → c.fd ∉ s.epoll

/-- Nothing is left but what the server itself registered. -/
structure Closed (s s' : Server) : Prop where
  flows : s'.connectionFlows.keys = []
  connections : s'.connections.size = 0
  interest : ∀ fd ∈ s'.epoll, fd ∈ s.descriptors.all

variable {config : ServerConfig} {s s' : Server} {id : ConnectionId} {c : Connection}
  {f : ConnectionFlow}

theorem closable_of_wellFormed (h : WellFormed config s) : Closable s := by
  refine ⟨h.agree, h.interest, fun id c f hlive hunregistered hmem => ?_⟩
  have hpresent := AList.lookup_isSome.mpr hmem
  rw [(h.live id c f hlive).unregistered hunregistered] at hpresent
  cases hpresent

theorem mem_erase_epoll {epoll : AList (fun _ : Fd => EpollEvent)} {fd other : Fd} :
    other ∈ epoll.erase fd ↔ other ∈ epoll ∧ other ≠ fd := by
  rw [AList.mem_erase, and_comm]

theorem mem_of_mem_lose {lost : List Fd} {fd : Fd} (hmem : fd ∈ (s.lose lost).epoll) :
    fd ∈ s.epoll := by
  simp only [lose] at hmem
  generalize s.epoll = epoll at hmem ⊢
  induction lost generalizing epoll with
  | nil => exact hmem
  | cons gone lost ih => exact (mem_erase_epoll.mp (ih _ hmem)).1

/-- A descriptor that disappears from the interest set does no harm. -/
theorem Closable.lose (h : Closable s) (lost : List Fd) : Closable (s.lose lost) where
  agree := h.agree
  interest fd hmem := h.interest fd (mem_of_mem_lose hmem)
  unregistered id c f hlive hunregistered hmem :=
    h.unregistered id c f hlive hunregistered (mem_of_mem_lose hmem)

theorem Closable.mem_iff (h : Closable s) (key : UInt64) :
    key ∈ s.connections.connections ↔ key ∈ s.connectionFlows := by
  rw [← AList.lookup_isSome, ← AList.lookup_isSome, ← Bool.eq_iff_iff]
  exact h.agree ⟨key⟩

/-- The tables have the same keys, and so the same size. -/
theorem Closable.size_eq (h : Closable s) :
    s.connections.size = s.connectionFlows.keys.length := by
  apply List.Perm.length_eq
  rw [List.perm_ext_iff_of_nodup s.connections.connections.keys_nodup s.connectionFlows.keys_nodup]
  exact h.mem_iff

theorem Closable.exists_live (h : Closable s) (hmem : id.value ∈ s.connectionFlows) :
    ∃ c f, s.live id = some (c, f) := by
  obtain ⟨c, hfind⟩ := (s.connections.mem_connections_iff id).mp ((h.mem_iff id.value).mpr hmem)
  obtain ⟨f, hlookup⟩ := Option.isSome_iff_exists.mp (AList.lookup_isSome.mpr hmem)
  exact ⟨c, f, live_eq_some_iff.mpr ⟨hfind, hlookup⟩⟩

/-- `DEL` that succeeds or reports `ENOENT` leaves the descriptor out of the set. -/
theorem epollCtl_del (s : Server) (fd : Fd) :
    ∃ answer s₁, s.epollCtl .del fd ⟨{}, 0⟩ none = (answer, s₁) ∧
      (answer = none ∨ answer = some .enoent) ∧
      ∀ other, other ∈ s₁.epoll ↔ other ∈ s.epoll ∧ other ≠ fd := by
  by_cases hmem : fd ∈ s.epoll
  · refine ⟨none, { s with
        ctlCalls := s.ctlCalls ++ [⟨.del, fd, true⟩]
        epoll := s.epoll.erase fd }, ?_, .inl rfl, fun other => mem_erase_epoll⟩
    simp only [epollCtl, hmem, decide_true, Bool.not_true, Bool.false_eq_true, if_false]
  · refine ⟨some .enoent, { s with ctlCalls := s.ctlCalls ++ [⟨.del, fd, false⟩] }, ?_, .inr rfl,
      fun other => ?_⟩
    · simp only [epollCtl, hmem, decide_false, Bool.not_false, if_true]
    · refine ⟨fun hother => ⟨hother, ?_⟩, fun hother => hother.1⟩
      rintro rfl
      exact hmem hother

/-- `RemoveConnection` on a connection of the tables goes through, and its descriptor
is not in the interest set afterwards. -/
theorem removeConnection_of_closable (h : Closable s) (hlive : s.live id = some (c, f)) :
    ∃ s₁ : Server, removeConnection id none s = .ok () (s₁.forget id) ∧
      s₁ = { s with epoll := s₁.epoll, ctlCalls := s₁.ctlCalls } ∧
      ∀ fd, fd ∈ s₁.epoll ↔ fd ∈ s.epoll ∧ fd ≠ c.fd := by
  obtain ⟨hfind, hlookup⟩ := live_eq_some_iff.mp hlive
  simp only [removeConnection, hfind, hlookup]
  by_cases hregistered : f.registeredWithEpoll = true
  · obtain ⟨answer, s₁, hctl, hanswer, hepoll⟩ := epollCtl_del s c.fd
    refine ⟨s₁, ?_, epollCtl_rest hctl, hepoll⟩
    rw [if_pos hregistered, hctl]
    rcases hanswer with rfl | rfl
    · rfl
    · rfl
  · have hunregistered := Bool.eq_false_iff.mpr hregistered
    have habsent := h.unregistered id c f hlive hunregistered
    refine ⟨s, if_neg hregistered, rfl, fun fd => ⟨fun hmem => ⟨hmem, ?_⟩, fun hmem => hmem.1⟩⟩
    rintro rfl
    exact habsent hmem

theorem Closable.forget (h : Closable s) (hlive : s.live id = some (c, f)) {s₁ : Server}
    (hrest : s₁ = { s with epoll := s₁.epoll, ctlCalls := s₁.ctlCalls })
    (hepoll : ∀ fd, fd ∈ s₁.epoll ↔ fd ∈ s.epoll ∧ fd ≠ c.fd) : Closable (s₁.forget id) := by
  have hconnections : s₁.connections = s.connections := by rw [hrest]
  have hflows : s₁.connectionFlows = s.connectionFlows := by rw [hrest]
  have hdescriptors : s₁.descriptors = s.descriptors := by rw [hrest]
  have hother : ∀ other, other ≠ id → (s₁.forget id).live other = s.live other := fun other hne =>
    (s₁.live_forget_of_ne hne).trans (live_congr (by rw [hconnections]) (by rw [hflows]))
  refine ⟨fun other => ?_, fun fd hmem => ?_, fun other d g hd hunregistered hmem => ?_⟩
  · by_cases hid : other = id
    · subst hid
      simp only [Server.forget, ConnectionRegistry.find_remove_self, AList.lookup_erase]
      rfl
    · simp only [Server.forget, ConnectionRegistry.find_remove_of_ne _ hid,
        lookup_erase_of_ne hid, hconnections, hflows]
      exact h.agree other
  · obtain ⟨hold, hne⟩ := (hepoll fd).mp hmem
    show fd ∈ s₁.descriptors.all ∨ _
    rw [hdescriptors]
    refine (h.interest fd hold).imp_right ?_
    rintro ⟨other, d, g, hd, hfd⟩
    have hid : other ≠ id := by
      rintro rfl
      cases hlive.symm.trans hd
      exact hne hfd.symm
    exact ⟨other, d, g, (hother other hid).trans hd, hfd⟩
  · have hid : other ≠ id := by
      rintro rfl
      rw [live_forget_self] at hd
      cases hd
    rw [hother other hid] at hd
    exact h.unregistered other d g hd hunregistered ((hepoll d.fd).mp hmem).1

/-- One pass erases the entry it took, and what the loop rests on is still there. -/
theorem closable_pass (h : Closable s) (id : ConnectionId)
    (hmem : id.value ∈ s.connectionFlows) :
    ∃ s' : Server, removeConnection id none s = .ok () s' ∧ Closable s' ∧
      s'.connections.size + 1 = s.connections.size ∧ s'.descriptors = s.descriptors := by
  obtain ⟨c, f, hlive⟩ := h.exists_live hmem
  obtain ⟨s₁, hremove, hrest, hepoll⟩ := removeConnection_of_closable h hlive
  have hclosable := h.forget hlive hrest hepoll
  have hkeys : (s₁.forget id).connectionFlows.keys = s.connectionFlows.keys.erase id.value := by
    rw [hrest]
    exact AList.keys_erase _ _
  refine ⟨s₁.forget id, hremove, hclosable, ?_, ?_⟩
  · rw [hclosable.size_eq, h.size_eq, hkeys, List.length_erase_of_mem hmem]
    exact Nat.sub_add_cancel (List.length_pos_of_mem hmem)
  · rw [hrest]
    rfl

/-! ## The loop -/

theorem Closable.closed_of_size_zero (h : Closable s) (hsize : s.connections.size = 0) :
    Closed s s := by
  have hkeys : s.connectionFlows.keys = [] :=
    List.eq_nil_of_length_eq_zero (h.size_eq.symm.trans hsize)
  refine ⟨hkeys, hsize, fun fd hmem => ?_⟩
  rcases h.interest fd hmem with hown | ⟨id, c, f, hlive, -⟩
  · exact hown
  · have hlookup := (live_eq_some_iff.mp hlive).2
    have hkey : id.value ∈ s.connectionFlows.keys :=
      AList.lookup_isSome.mp (by rw [hlookup]; rfl)
    rw [hkeys] at hkey
    cases hkey

/-- While there are connections, the loop makes a pass and goes on with one less. -/
theorem closeLoop_pass (h : Closable s) (passes : ℕ → ClosePass) (made : ℕ)
    (hpos : 0 < s.connections.size) :
    ∃ s₁ : Server, Closable s₁ ∧ s₁.connections.size + 1 = s.connections.size ∧
      s₁.descriptors = s.descriptors ∧
      ∀ fuel, closeLoop passes (fuel + 1) made s = closeLoop passes fuel (made + 1) s₁ := by
  rw [h.size_eq] at hpos
  have hindex := Nat.mod_lt (passes made).first hpos
  have hlost := h.lose (passes made).lost
  obtain ⟨s₁, hremove, hclosable, hless, hdescriptors⟩ :=
    closable_pass hlost ⟨_⟩ (List.getElem_mem hindex)
  refine ⟨s₁, hclosable, hless, hdescriptors, fun fuel => ?_⟩
  rw [closeLoop, List.getElem?_eq_getElem hindex]
  simp only [hremove]

/-- The loop makes as many passes as there are connections, whatever entries it takes
and whatever `DEL` finds. -/
theorem closeLoop_spec (h : Closable s) (passes : ℕ → ClosePass) (made : ℕ) :
    (∀ fuel, fuel ≤ s.connections.size → closeLoop passes fuel made s = none) ∧
    ∃ s', Closed s s' ∧ ∀ fuel, s.connections.size < fuel →
      closeLoop passes fuel made s = some (made + s.connections.size, .ok () s') := by
  generalize hsize : s.connections.size = n
  induction n generalizing s made with
  | zero =>
      have hclosed := h.closed_of_size_zero hsize
      refine ⟨fun fuel hfuel => ?_, s, hclosed, fun fuel hfuel => ?_⟩
      · rw [Nat.le_zero.mp hfuel]
        rfl
      · obtain ⟨fuel, rfl⟩ := Nat.exists_eq_succ_of_ne_zero (Nat.ne_of_gt hfuel)
        simp only [closeLoop, hclosed.flows, List.getElem?_nil]
        rfl
  | succ n ih =>
      have hpos : 0 < s.connections.size := by
        rw [hsize]
        exact Nat.succ_pos n
      obtain ⟨s₁, hclosable, hless, hdescriptors, hpass⟩ := closeLoop_pass h passes made hpos
      have hsize₁ : s₁.connections.size = n := Nat.succ.inj (hless.trans hsize)
      obtain ⟨hrunning, s', hclosed, hdone⟩ := ih hclosable (made + 1) hsize₁
      refine ⟨fun fuel hfuel => ?_, s', ?_, fun fuel hfuel => ?_⟩
      · cases fuel with
        | zero => rfl
        | succ fuel => rw [hpass, hrunning fuel (Nat.le_of_succ_le_succ hfuel)]
      · refine ⟨hclosed.flows, hclosed.connections, fun fd hmem => ?_⟩
        have hown := hclosed.interest fd hmem
        rwa [hdescriptors] at hown
      · obtain ⟨fuel, rfl⟩ := Nat.exists_eq_succ_of_ne_zero (Nat.ne_of_gt (Nat.lt_of_le_of_lt
          (Nat.zero_le _) hfuel))
        rw [hpass, hdone fuel (Nat.lt_of_succ_lt_succ hfuel), Nat.add_right_comm, Nat.add_assoc]

/-- With the first entry of the table and nothing lost, the loop is the one that the
reactor runs. -/
theorem closeLoop_eq_closeConnections (h : Closable s) {faults : List (Option CtlFault)}
    (hfaults : ∀ fault ∈ faults, fault = none) (made : ℕ) :
    closeLoop (fun _ => ⟨0, []⟩) (s.connections.size + 1) made s =
      some (made + s.connections.size, closeConnections s.connections.size faults s) := by
  generalize hsize : s.connections.size = n
  induction n generalizing s made faults with
  | zero =>
      simp only [closeLoop, (h.closed_of_size_zero hsize).flows, List.getElem?_nil]
      rfl
  | succ n ih =>
      have hlength : s.connectionFlows.keys.length = n + 1 := h.size_eq.symm.trans hsize
      cases hentries : s.connectionFlows.entries with
      | nil =>
          rw [AList.keys, hentries] at hlength
          cases hlength
      | cons entry rest =>
          have hkeys : s.connectionFlows.keys = entry.1 :: rest.map Sigma.fst := by
            rw [AList.keys, hentries]
            rfl
          have hmem : entry.1 ∈ s.connectionFlows.keys := by
            rw [hkeys]
            exact List.mem_cons_self
          have hfault : faults.headD none = none := by
            cases faults with
            | nil => rfl
            | cons fault faults => exact hfaults fault List.mem_cons_self
          obtain ⟨s₁, hremove, hclosable, hless, -⟩ := closable_pass h ⟨entry.1⟩ hmem
          have hsize₁ : s₁.connections.size = n := Nat.succ.inj (hless.trans hsize)
          have hrest := ih hclosable (fun fault hmem => hfaults fault (List.mem_of_mem_tail hmem))
            (made + 1) hsize₁
          have hindex : s.connectionFlows.keys[0 % s.connectionFlows.keys.length]? =
              some entry.1 := by
            rw [Nat.zero_mod, hkeys]
            rfl
          rw [closeLoop, hindex, closeConnections, hentries]
          simp only [hfault]
          rw [show s.lose [] = s from rfl, hremove]
          simp only [hrest, Nat.add_right_comm, Nat.add_assoc]

/-- What the reactor owns. -/
structure TablesKept (s s' : Server) : Prop where
  connections : s'.connections = s.connections
  flows : s'.connectionFlows = s.connectionFlows
  epoll : s'.epoll = s.epoll

/-- When `Run` has returned, only workers and callers of `Stop` are left, and they do
not touch the tables. -/
theorem step_of_finished (hphase : s.phase = .finished) (action : Action) :
    (step config s action).phase = .finished ∧ TablesKept s (step config s action) := by
  cases action with
  | worker | requestStop | notifyStop | stopPool => exact ⟨hphase, rfl, rfl, rfl⟩
  | wait | dispatch | readWakeup | swapCompleted | complete | close =>
      simp only [step, hphase]
      exact ⟨trivial, rfl, rfl, rfl⟩

theorem steps_of_finished (hphase : s.phase = .finished) (later : List Action) :
    TablesKept s (later.foldl (step config) s) := by
  induction later generalizing s with
  | nil => exact ⟨rfl, rfl, rfl⟩
  | cons action later ih =>
      obtain ⟨hnext, hfirst⟩ := step_of_finished hphase action
      have hrest := ih hnext
      exact ⟨hrest.connections.trans hfirst.connections, hrest.flows.trans hfirst.flows,
        hrest.epoll.trans hfirst.epoll⟩

/-- A result for a connection that is not there changes nothing. -/
theorem handleCompletedWork_of_size_zero (hsize : s.connections.size = 0) (result : WorkResult)
    (fault : Option CtlFault) : handleCompletedWork result fault s = .ok () s := by
  have hfind : s.connections.find result.connectionId = none := by
    apply AList.lookup_eq_none.mpr
    intro hmem
    exact Nat.ne_of_gt (List.length_pos_of_mem hmem) hsize
  simp only [handleCompletedWork, hfind]

/-- From every reachable state, and whatever entries the table puts first and whatever
descriptors `DEL` does not find, the loop ends after as many passes as there are
connections and leaves none; results that workers publish later find no connection.
The loop that the reactor runs is one of these. -/
theorem shutdown_law (config : ServerConfig) (descriptors : Descriptors) (actions : List Action)
    (passes : ℕ → ClosePass) :
    (∀ fuel, fuel ≤ (run config descriptors actions).connections.size →
      closeLoop passes fuel 0 (run config descriptors actions) = none) ∧
    (∃ s' : Server, (∀ fuel, (run config descriptors actions).connections.size < fuel →
        closeLoop passes fuel 0 (run config descriptors actions) =
          some ((run config descriptors actions).connections.size, .ok () s')) ∧
      s'.connectionFlows.keys = [] ∧ s'.connections.size = 0 ∧
      (∀ id c, (run config descriptors actions).connections.find id = some c →
        c.fd ∉ s'.epoll) ∧
      (∀ fd ∈ s'.epoll, fd ∈ (run config descriptors actions).descriptors.all) ∧
      ∀ (later : List Action) (result : WorkResult) (fault : Option CtlFault),
        TablesKept s' (later.foldl (step config) { s' with phase := .finished }) ∧
        handleCompletedWork result fault
          (later.foldl (step config) { s' with phase := .finished }) =
            .ok () (later.foldl (step config) { s' with phase := .finished })) ∧
    ∀ faults : List (Option CtlFault), (∀ fault ∈ faults, fault = none) →
      closeLoop (fun _ => ⟨0, []⟩) ((run config descriptors actions).connections.size + 1) 0
          (run config descriptors actions) =
        some ((run config descriptors actions).connections.size,
          closeAllConnections faults (run config descriptors actions)) := by
  have hwf := run_wellFormed config descriptors actions
  have hclosable := closable_of_wellFormed hwf
  generalize run config descriptors actions = s at hwf hclosable ⊢
  obtain ⟨hrunning, s', hclosed, hdone⟩ := closeLoop_spec hclosable passes 0
  rw [Nat.zero_add] at hdone
  refine ⟨hrunning, ⟨s', hdone, hclosed.flows, hclosed.connections, ?_, hclosed.interest, ?_⟩, ?_⟩
  · intro id c hfind hmem
    obtain ⟨f, hlive⟩ := hwf.exists_live hfind
    exact (hwf.live id c f hlive).foreign (hclosed.interest c.fd hmem)
  · intro later result fault
    have hsame : TablesKept { s' with phase := .finished }
        (later.foldl (step config) { s' with phase := .finished }) := steps_of_finished rfl later
    refine ⟨⟨hsame.connections, hsame.flows, hsame.epoll⟩, ?_⟩
    apply handleCompletedWork_of_size_zero
    rw [hsame.connections]
    exact hclosed.connections
  · intro faults hfaults
    rw [closeLoop_eq_closeConnections hclosable hfaults 0, Nat.zero_add, closeAllConnections,
      ← hclosable.size_eq]

end Server

end PulseCore.Network
