/-
# The registry over its whole life

Connections are added, looked up, used through the pointer that `Find` returned,
and removed, in any order and any number of times. A history records every call
with its result. Numbers only go up, so a number that was removed stays without a
connection; and a call of `Add` that fails, wherever it leaves, leaves the registry
as it was.
-/

import PulseCore.Network.ConnectionRegistry

namespace PulseCore.Network

open PulseCore.Protocol

/-- A call through the pointer that `Find` returned. -/
inductive ConnectionUse
  | readAvailable (maxReadBytes : ℕ) (answers : List RecvResult)
  | queueOutput (message : Message)
  | writeAvailable (maxWriteBytes : ℕ) (answers : List SendResult)

def Connection.use (c : Connection) : ConnectionUse → Connection
  | .readAvailable maxReadBytes answers => (c.readAvailable maxReadBytes answers).connection
  | .queueOutput message => (c.queueOutput message).2
  | .writeAvailable maxWriteBytes answers => (c.writeAvailable maxWriteBytes answers).connection

/-- One use of the registry. -/
inductive RegistryCall
  | add (fd : Fd) (fcntl : FcntlAnswers)
  | remove (id : ConnectionId)
  | find (id : ConnectionId) (uses : List ConnectionUse)

inductive RegistryResult
  | added (result : Except Exception ConnectionId)
  | removed (erased : Bool)
  | found (connection : Option Connection)

/-- A call with what it returned. -/
structure RegistryEvent where
  call : RegistryCall
  result : RegistryResult

def ConnectionRegistry.call (r : ConnectionRegistry) :
    RegistryCall → RegistryResult × ConnectionRegistry
  | .add fd fcntl => (.added (r.add fd fcntl).1, (r.add fd fcntl).2)
  | .remove id => (.removed (r.remove id).1, (r.remove id).2)
  | .find id uses =>
      match r.find id with
      | none => (.found none, r)
      | some connection => (.found connection, r.put id (uses.foldl Connection.use connection))

/-- A registry with everything that was done to it, the oldest call first. -/
structure RegistryHistory where
  registry : ConnectionRegistry
  events : List RegistryEvent

namespace RegistryHistory

def start (limits : ConnectionLimits) : RegistryHistory := ⟨.create limits, []⟩

def extend (h : RegistryHistory) (call : RegistryCall) : RegistryHistory :=
  ⟨(h.registry.call call).2, h.events ++ [⟨call, (h.registry.call call).1⟩]⟩

/-- The history behind a sequence of calls. -/
def run (limits : ConnectionLimits) (calls : List RegistryCall) : RegistryHistory :=
  calls.foldl extend (start limits)

end RegistryHistory

/-- The number a call returned, if it is a successful `Add`. -/
def RegistryEvent.returnedId (event : RegistryEvent) : Option ConnectionId :=
  match event.result with
  | .added (.ok id) => some id
  | _ => none

/-- The numbers that calls of `Add` returned, in the order of the calls. -/
def returnedIds (events : List RegistryEvent) : List ConnectionId :=
  events.filterMap RegistryEvent.returnedId

/-- A call of `Add` on this descriptor returned the number, and no later call
removes it. -/
def AddedAndKept (events : List RegistryEvent) (id : ConnectionId) (fd : Fd) : Prop :=
  ∃ before fcntl after, events = before ++ ⟨.add fd fcntl, .added (.ok id)⟩ :: after ∧
    ∀ event ∈ after, event.call ≠ .remove id

theorem not_addedAndKept_nil (id : ConnectionId) (fd : Fd) : ¬ AddedAndKept [] id fd := by
  rintro ⟨before, fcntl, after, hevents, -⟩
  exact List.append_ne_nil_of_right_ne_nil before (List.cons_ne_nil _ _) hevents.symm

/-- One more event behind the others. -/
theorem addedAndKept_append_iff (events : List RegistryEvent) (event : RegistryEvent)
    (id : ConnectionId) (fd : Fd) :
    AddedAndKept (events ++ [event]) id fd ↔
      (∃ fcntl, event = ⟨.add fd fcntl, .added (.ok id)⟩) ∨
        (AddedAndKept events id fd ∧ event.call ≠ .remove id) := by
  constructor
  · rintro ⟨before, fcntl, after, hevents, hkept⟩
    rcases List.eq_nil_or_concat after with rfl | ⟨front, last, rfl⟩
    · obtain ⟨-, hlast⟩ := List.append_inj' hevents rfl
      exact .inl ⟨fcntl, List.head_eq_of_cons_eq hlast⟩
    · rw [List.concat_eq_append, ← List.cons_append, ← List.append_assoc] at hevents
      obtain ⟨hfront, hlast⟩ := List.append_inj' hevents rfl
      cases hlast
      rw [List.concat_eq_append] at hkept
      refine .inr ⟨⟨before, fcntl, front, hfront, fun e he => ?_⟩, ?_⟩
      · exact hkept e (List.mem_append_left _ he)
      · exact hkept event (List.mem_append_right _ (List.mem_singleton_self _))
  · rintro (⟨fcntl, rfl⟩ | ⟨⟨before, fcntl, after, rfl, hkept⟩, hevent⟩)
    · exact ⟨events, fcntl, [], rfl, List.forall_mem_nil _⟩
    · refine ⟨before, fcntl, after ++ [event], by rw [List.append_assoc]; rfl, fun e he => ?_⟩
      rcases List.mem_append.mp he with hafter | hlast
      · exact hkept e hafter
      · rw [List.mem_singleton.mp hlast]
        exact hevent

/-- A number in use was returned. -/
theorem mem_returnedIds_of_addedAndKept {events : List RegistryEvent} {id : ConnectionId} {fd : Fd}
    (hkept : AddedAndKept events id fd) : id ∈ returnedIds events := by
  obtain ⟨before, fcntl, after, rfl, -⟩ := hkept
  exact List.mem_filterMap.mpr
    ⟨_, List.mem_append_right _ List.mem_cons_self, rfl⟩

theorem returnedIds_append (events : List RegistryEvent) (event : RegistryEvent) :
    returnedIds (events ++ [event]) = returnedIds events ++ event.returnedId.toList := by
  rw [returnedIds, List.filterMap_append]
  cases hid : event.returnedId <;> simp [returnedIds, hid]

/-- What identifies a connection. -/
structure SameIdentity (c c' : Connection) : Prop where
  id : c'.id = c.id
  fd : c'.fd = c.fd
  limits : c'.limits = c.limits

theorem sameIdentity_use (c : Connection) (use : ConnectionUse) : SameIdentity c (c.use use) := by
  cases use with
  | readAvailable maxReadBytes answers =>
      have hsame := (c.readAvailable_spec maxReadBytes answers).same
      exact ⟨hsame.id, hsame.fd, hsame.limits⟩
  | queueOutput message =>
      have hsame := (c.queueOutput_spec message).same
      exact ⟨hsame.id, hsame.fd, hsame.limits⟩
  | writeAvailable maxWriteBytes answers =>
      have hsame := (c.writeAvailable_spec maxWriteBytes answers).same
      exact ⟨hsame.id, hsame.fd, hsame.limits⟩

/-- However it is used, a connection stays the one it is. -/
theorem sameIdentity_uses (c : Connection) (uses : List ConnectionUse) :
    SameIdentity c (uses.foldl Connection.use c) := by
  induction uses generalizing c with
  | nil => exact ⟨rfl, rfl, rfl⟩
  | cons use uses ih =>
      have hfirst := sameIdentity_use c use
      have hrest := ih (c.use use)
      exact ⟨hrest.id.trans hfirst.id, hrest.fd.trans hfirst.fd, hrest.limits.trans hfirst.limits⟩

/-! ## The invariant -/

namespace RegistryHistory

/-- What holds behind every call. -/
structure Lawful (limits : ConnectionLimits) (h : RegistryHistory) : Prop where
  configured : h.registry.limits = limits
  counted : h.registry.nextId.value.toNat = (returnedIds h.events).length + 1
  increasing : (returnedIds h.events).Pairwise fun first second => first.value < second.value
  bounded : ∀ id ∈ returnedIds h.events, 0 < id.value ∧ id.value < h.registry.nextId.value
  identified : ∀ id c, h.registry.find id = some c → c.id = id ∧ c.limits = limits
  kept : ∀ id fd, AddedAndKept h.events id fd ↔ ∃ c, h.registry.find id = some c ∧ c.fd = fd
  noDuplicate : ∀ event ∈ h.events,
    event.result ≠ .added (.error (.runtimeError "duplicate connection id"))

variable {limits : ConnectionLimits} {h : RegistryHistory}

theorem lawful_start (limits : ConnectionLimits) : Lawful limits (start limits) := by
  refine ⟨rfl, rfl, List.Pairwise.nil, List.forall_mem_nil _, ?_, ?_, List.forall_mem_nil _⟩
  · intro id c hfind
    cases hfind
  · intro id fd
    refine iff_of_false (not_addedAndKept_nil id fd) ?_
    rintro ⟨c, hfind, -⟩
    cases hfind

/-- The next number is not in use: whatever is in use was returned, and whatever was
returned lies below. -/
theorem Lawful.fresh (hlaw : Lawful limits h) :
    h.registry.nextId.value ∉ h.registry.connections := by
  intro hmem
  obtain ⟨c, hfind⟩ := (h.registry.mem_connections_iff h.registry.nextId).mp hmem
  have hkept := (hlaw.kept h.registry.nextId c.fd).mpr ⟨c, hfind, rfl⟩
  have hlt := (hlaw.bounded _ (mem_returnedIds_of_addedAndKept hkept)).2
  exact UInt64.lt_irrefl _ hlt

theorem Lawful.noDuplicate_append (hlaw : Lawful limits h) {event : RegistryEvent}
    (hresult : event.result ≠ .added (.error (.runtimeError "duplicate connection id"))) :
    ∀ e ∈ h.events ++ [event],
      e.result ≠ .added (.error (.runtimeError "duplicate connection id")) :=
  List.forall_mem_append.mpr ⟨hlaw.noDuplicate, List.forall_mem_singleton.mpr hresult⟩

/-- A call that leaves the registry alone and neither returned nor removed a number. -/
theorem Lawful.of_unchanged (hlaw : Lawful limits h) {event : RegistryEvent}
    (hnone : event.returnedId = none) (hcall : ∀ id, event.call ≠ .remove id)
    (hresult : event.result ≠ .added (.error (.runtimeError "duplicate connection id"))) :
    Lawful limits ⟨h.registry, h.events ++ [event]⟩ := by
  have hids : returnedIds (h.events ++ [event]) = returnedIds h.events := by
    rw [returnedIds_append, hnone, Option.toList_none, List.append_nil]
  refine ⟨hlaw.configured, ?_, ?_, ?_, hlaw.identified, ?_, ?_⟩
  · rw [hids]
    exact hlaw.counted
  · rw [hids]
    exact hlaw.increasing
  · rw [hids]
    exact hlaw.bounded
  · intro id fd
    have hadd : ¬ ∃ fcntl, event = ⟨.add fd fcntl, .added (.ok id)⟩ := by
      rintro ⟨fcntl, rfl⟩
      cases hnone
    rw [addedAndKept_append_iff, hlaw.kept, or_iff_right hadd, and_iff_left (hcall id)]
  · exact hlaw.noDuplicate_append hresult

/-- While the next number is not in use, the last check of `Add` passes. -/
theorem add_ne_duplicate (r : ConnectionRegistry) (fd : Fd) (fcntl : FcntlAnswers)
    (hfresh : r.nextId.value ∉ r.connections) :
    (r.add fd fcntl).1 ≠ .error (.runtimeError "duplicate connection id") := by
  unfold ConnectionRegistry.add
  split
  · simp
  split
  · simp
  split
  · next error herror =>
      -- the remaining errors are those of `fcntl`
      intro hduplicate
      cases hduplicate
      unfold setNonBlocking at herror
      split at herror
      · cases herror
      · cases herror
      · split at herror <;> cases herror
  · simp only [if_neg hfresh]
    simp

/-- Behind a successful `Add` the new number has the connection just made, and the
others have what they had. -/
theorem Lawful.kept_registered (hlaw : Lawful limits h) (fd : Fd) (fcntl : FcntlAnswers)
    (id : ConnectionId) (fd' : Fd) :
    AddedAndKept (h.events ++ [⟨.add fd fcntl, .added (.ok h.registry.nextId)⟩]) id fd' ↔
      ∃ c, (h.registry.registered fd).find id = some c ∧ c.fd = fd' := by
  rw [addedAndKept_append_iff, hlaw.kept]
  by_cases hid : id = h.registry.nextId
  · -- nothing was in use under the new number
    have hfind : h.registry.find id = none := by
      rw [hid]
      exact AList.lookup_eq_none.mpr hlaw.fresh
    subst hid
    rw [ConnectionRegistry.find_registered_self, hfind]
    simp [Connection.create]
  · rw [ConnectionRegistry.find_registered_of_ne _ _ hid]
    have hother : ∀ fcntl', (⟨.add fd fcntl, .added (.ok h.registry.nextId)⟩ : RegistryEvent) ≠
        ⟨.add fd' fcntl', .added (.ok id)⟩ := by
      intro fcntl' hevent
      cases hevent
      exact hid rfl
    simp [hother]

/-- An `Add` that succeeds: the number it returned is the next one in line. -/
theorem Lawful.register (hlaw : Lawful limits h) (fd : Fd) (fcntl : FcntlAnswers)
    (hleft : h.registry.nextId.value ≠ kMaxUInt64) :
    Lawful limits ⟨h.registry.registered fd,
      h.events ++ [⟨.add fd fcntl, .added (.ok h.registry.nextId)⟩]⟩ := by
  have hsucc := h.registry.toNat_succ_nextId hleft
  have hnext : h.registry.nextId.value < h.registry.nextId.value + 1 := by
    rw [UInt64.lt_iff_toNat_lt, hsucc]
    exact Nat.lt_succ_self _
  have hpos : 0 < h.registry.nextId.value := by
    rw [UInt64.lt_iff_toNat_lt, hlaw.counted]
    exact Nat.succ_pos _
  have hids : returnedIds (h.events ++ [⟨.add fd fcntl, .added (.ok h.registry.nextId)⟩]) =
      returnedIds h.events ++ [h.registry.nextId] := returnedIds_append _ _
  refine ⟨hlaw.configured, ?_, ?_, ?_, ?_, hlaw.kept_registered fd fcntl, ?_⟩
  · rw [hids, List.length_append, List.length_singleton, ← hlaw.counted]
    exact hsucc
  · rw [hids, List.pairwise_append]
    refine ⟨hlaw.increasing, List.pairwise_singleton _ _, fun id hid => ?_⟩
    exact List.forall_mem_singleton.mpr (hlaw.bounded id hid).2
  · rw [hids, List.forall_mem_append, List.forall_mem_singleton]
    refine ⟨fun id hid => ?_, hpos, hnext⟩
    exact ⟨(hlaw.bounded id hid).1, UInt64.lt_trans (hlaw.bounded id hid).2 hnext⟩
  · intro id c hfind
    by_cases hid : id = h.registry.nextId
    · rw [hid, ConnectionRegistry.find_registered_self] at hfind
      cases hfind
      exact ⟨hid.symm, hlaw.configured⟩
    · rw [ConnectionRegistry.find_registered_of_ne _ _ hid] at hfind
      exact hlaw.identified id c hfind
  · apply hlaw.noDuplicate_append
    simp

theorem Lawful.add (hlaw : Lawful limits h) (fd : Fd) (fcntl : FcntlAnswers) :
    Lawful limits (h.extend (.add fd fcntl)) := by
  have hduplicate := add_ne_duplicate h.registry fd fcntl hlaw.fresh
  obtain ⟨hadd, hleft⟩ | ⟨error, hadd⟩ := h.registry.add_cases fd fcntl hlaw.fresh
  · have hextend : h.extend (.add fd fcntl) = ⟨h.registry.registered fd,
        h.events ++ [⟨.add fd fcntl, .added (.ok h.registry.nextId)⟩]⟩ := by
      simp only [extend, ConnectionRegistry.call, hadd]
    rw [hextend]
    exact hlaw.register fd fcntl hleft
  · rw [hadd] at hduplicate
    have hextend : h.extend (.add fd fcntl) =
        ⟨h.registry, h.events ++ [⟨.add fd fcntl, .added (.error error)⟩]⟩ := by
      simp only [extend, ConnectionRegistry.call, hadd]
    rw [hextend]
    refine hlaw.of_unchanged rfl (fun id => by simp) fun hresult => hduplicate ?_
    exact RegistryResult.added.inj hresult

theorem Lawful.remove (hlaw : Lawful limits h) (id : ConnectionId) :
    Lawful limits (h.extend (.remove id)) := by
  have hids : returnedIds (h.extend (.remove id)).events = returnedIds h.events :=
    (returnedIds_append _ _).trans (List.append_nil _)
  refine ⟨hlaw.configured, ?_, ?_, ?_, ?_, ?_, ?_⟩
  · rw [hids]
    exact hlaw.counted
  · rw [hids]
    exact hlaw.increasing
  · rw [hids]
    exact hlaw.bounded
  · intro other c hfind
    by_cases hid : other = id
    · rw [hid, extend, ConnectionRegistry.call, ConnectionRegistry.find_remove_self] at hfind
      cases hfind
    · rw [extend, ConnectionRegistry.call, ConnectionRegistry.find_remove_of_ne _ hid] at hfind
      exact hlaw.identified other c hfind
  · intro other fd
    rw [extend, addedAndKept_append_iff, hlaw.kept]
    by_cases hid : other = id
    · rw [hid, ConnectionRegistry.call, ConnectionRegistry.find_remove_self]
      simp
    · rw [ConnectionRegistry.call, ConnectionRegistry.find_remove_of_ne _ hid]
      simp [Ne.symm hid]
  · apply hlaw.noDuplicate_append
    simp [ConnectionRegistry.call]

theorem Lawful.find (hlaw : Lawful limits h) (id : ConnectionId) (uses : List ConnectionUse) :
    Lawful limits (h.extend (.find id uses)) := by
  cases hfind : h.registry.find id with
  | none =>
      have hextend : h.extend (.find id uses) =
          ⟨h.registry, h.events ++ [⟨.find id uses, .found none⟩]⟩ := by
        simp only [extend, ConnectionRegistry.call, hfind]
      rw [hextend]
      exact hlaw.of_unchanged rfl (fun id => by simp) (by simp)
  | some c =>
      have hextend : h.extend (.find id uses) = ⟨h.registry.put id (uses.foldl Connection.use c),
          h.events ++ [⟨.find id uses, .found (some c)⟩]⟩ := by
        simp only [extend, ConnectionRegistry.call, hfind]
      have hsame := sameIdentity_uses c uses
      -- only the connection itself has changed, and not in what identifies it
      have hlaw' : Lawful limits ⟨h.registry, h.events ++ [⟨.find id uses, .found (some c)⟩]⟩ :=
        hlaw.of_unchanged rfl (fun id => by simp) (by simp)
      rw [hextend]
      refine ⟨hlaw'.configured, hlaw'.counted, hlaw'.increasing, hlaw'.bounded, ?_, ?_,
        hlaw'.noDuplicate⟩
      · intro other d hd
        by_cases hid : other = id
        · rw [hid, ConnectionRegistry.find_put_self] at hd
          cases hd
          obtain ⟨hcid, hclimits⟩ := hlaw.identified id c hfind
          exact ⟨hsame.id.trans (hcid.trans hid.symm), hsame.limits.trans hclimits⟩
        · rw [ConnectionRegistry.find_put_of_ne _ _ hid] at hd
          exact hlaw.identified other d hd
      · intro other fd
        rw [hlaw'.kept]
        by_cases hid : other = id
        · subst hid
          rw [ConnectionRegistry.find_put_self, hfind]
          simp [hsame.fd]
        · rw [ConnectionRegistry.find_put_of_ne _ _ hid]

theorem Lawful.extend (hlaw : Lawful limits h) (call : RegistryCall) :
    Lawful limits (h.extend call) := by
  cases call with
  | add fd fcntl => exact hlaw.add fd fcntl
  | remove id => exact hlaw.remove id
  | find id uses => exact hlaw.find id uses

theorem lawful_run (limits : ConnectionLimits) (calls : List RegistryCall) :
    Lawful limits (run limits calls) := by
  apply List.foldlRecOn calls RegistryHistory.extend (lawful_start limits)
  intro h hlaw call _
  exact hlaw.extend call

theorem add_of_exhausted {r : ConnectionRegistry} (hexhausted : r.nextId.value = kMaxUInt64)
    (fd : Fd) (fcntl : FcntlAnswers) : ∃ error, r.add fd fcntl = (.error error, r) := by
  by_cases hfd : fd = kInvalidFd
  · rw [ConnectionRegistry.add, if_pos hfd]
    exact ⟨_, rfl⟩
  · rw [ConnectionRegistry.add, if_neg hfd, if_pos hexhausted]
    exact ⟨_, rfl⟩

theorem nextId_extend_of_exhausted (hexhausted : h.registry.nextId.value = kMaxUInt64)
    (call : RegistryCall) : (h.extend call).registry.nextId.value = kMaxUInt64 := by
  cases call with
  | add fd fcntl =>
      obtain ⟨error, hadd⟩ := add_of_exhausted hexhausted fd fcntl
      simp only [RegistryHistory.extend, ConnectionRegistry.call, hadd]
      exact hexhausted
  | remove id => exact hexhausted
  | find id uses =>
      simp only [RegistryHistory.extend, ConnectionRegistry.call]
      split
      · exact hexhausted
      · exact hexhausted

/-- Numbers that have run out do not come back. -/
theorem nextId_run_append {calls : List RegistryCall}
    (hexhausted : (run limits calls).registry.nextId.value = kMaxUInt64)
    (more : List RegistryCall) :
    (run limits (calls ++ more)).registry.nextId.value = kMaxUInt64 := by
  rw [run, List.foldl_append]
  change (more.foldl RegistryHistory.extend (run limits calls)).registry.nextId.value = kMaxUInt64
  generalize run limits calls = h at hexhausted
  induction more generalizing h with
  | nil => exact hexhausted
  | cons call more ih => exact ih _ (nextId_extend_of_exhausted hexhausted call)

end RegistryHistory

open RegistryHistory in
/-- Over every history of a registry, the numbers that `Add` returns go up and are
never zero; a number has a connection exactly from the `Add` that returned it to its
removal, and that connection is the one made there; the next number is never in use;
once the numbers have run out every `Add` fails; and a failing `Add` changes
nothing. -/
theorem registry_law (limits : ConnectionLimits) (calls : List RegistryCall) :
    ((returnedIds (run limits calls).events).Pairwise (fun first second =>
        first.value < second.value) ∧
      (∀ id ∈ returnedIds (run limits calls).events, id.value ≠ 0) ∧
      (run limits calls).registry.nextId.value.toNat =
        (returnedIds (run limits calls).events).length + 1) ∧
    (∀ id, ((run limits calls).registry.find id).isSome = true ↔
      ∃ fd, AddedAndKept (run limits calls).events id fd) ∧
    (∀ id fd c, AddedAndKept (run limits calls).events id fd →
      (run limits calls).registry.find id = some c → SameIdentity (.create id fd limits) c) ∧
    ((run limits calls).registry.nextId.value ∉ (run limits calls).registry.connections ∧
      ∀ event ∈ (run limits calls).events,
        event.result ≠ .added (.error (.runtimeError "duplicate connection id"))) ∧
    ((run limits calls).registry.nextId.value = kMaxUInt64 → ∀ more fd fcntl,
      ∃ error, ((run limits (calls ++ more)).registry.add fd fcntl).1 = .error error) ∧
    ∀ fd fcntl error, ((run limits calls).registry.add fd fcntl).1 = .error error →
      ((run limits calls).registry.add fd fcntl).2 = (run limits calls).registry := by
  have hlaw := lawful_run limits calls
  refine ⟨⟨hlaw.increasing, fun id hid => ?_, hlaw.counted⟩, fun id => ?_, ?_,
    ⟨hlaw.fresh, hlaw.noDuplicate⟩, ?_, ?_⟩
  · exact (UInt64.ne_of_lt (hlaw.bounded id hid).1).symm
  · rw [Option.isSome_iff_exists]
    constructor
    · rintro ⟨c, hfind⟩
      exact ⟨c.fd, (hlaw.kept id c.fd).mpr ⟨c, hfind, rfl⟩⟩
    · rintro ⟨fd, hkept⟩
      obtain ⟨c, hfind, -⟩ := (hlaw.kept id fd).mp hkept
      exact ⟨c, hfind⟩
  · intro id fd c hkept hfind
    obtain ⟨d, hd, hfd⟩ := (hlaw.kept id fd).mp hkept
    cases hd.symm.trans hfind
    exact ⟨(hlaw.identified id c hfind).1, hfd, (hlaw.identified id c hfind).2⟩
  · intro hexhausted more fd fcntl
    obtain ⟨error, hadd⟩ := add_of_exhausted (nextId_run_append hexhausted more) fd fcntl
    exact ⟨error, congrArg Prod.fst hadd⟩
  · intro fd fcntl error hfailed
    obtain ⟨hadd, -⟩ | ⟨error', hadd⟩ :=
      (run limits calls).registry.add_cases fd fcntl hlaw.fresh
    · rw [hadd] at hfailed
      cases hfailed
    · exact congrArg Prod.snd hadd

end PulseCore.Network
