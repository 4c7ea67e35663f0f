/-
# What construction and destruction leave behind

When a constructor fails, the process is as it was before; when it succeeds, the server is
complete, and its destructor takes it apart again. Both follow call by call: each call
either fails and changes nothing, or hands over what its destructor takes back.
-/

import PulseCore.Network.Construction

namespace PulseCore.Network

open PulseCore.Foundation PulseCore.Common

/-- The processes have the same descriptors open, block the same signals, and have the same
threads. -/
structure Process.Same (p q : Process) : Prop where
  descriptors : q.descriptors.Perm p.descriptors
  mask : q.mask = p.mask
  threads : q.threads.Perm p.threads
  misused : q.misused = p.misused

/-- An exception is the error of a call, or what the options are refused with. -/
inductive Process.Cause (options : EpollEchoServerOptions) (handlerSet : Bool) (p : Process) :
    ConstructionError → Prop
  | call {error : Errno} (operation : String) (hfailed : .failed error ∈ p.answers) :
      Cause options handlerSet p (.exception (.syscallError operation error))
  | thread {error : Errno} (hfailed : .failed error ∈ p.answers) :
      Cause options handlerSet p (.systemError error)
  | memory {error : Errno} (hfailed : .failed error ∈ p.answers) :
      Cause options handlerSet p .badAlloc
  | refused {refusal : Exception} (hrefused : ServerConfig.create options = .error refusal) :
      Cause options handlerSet p (.exception refusal)
  | noHandler (hunset : handlerSet = false) :
      Cause options handlerSet p (.exception (.invalidArgument "worker handler must be set"))
  | tooMany (hcount : kMaxVectorSize < options.workerCount) :
      Cause options handlerSet p (.lengthError "vector::reserve")

namespace Process

variable {p q r : Process} {options : EpollEchoServerOptions} {handlerSet : Bool}

theorem Same.refl (p : Process) : p.Same p := ⟨.refl _, rfl, .refl _, rfl⟩

theorem Same.trans (h : p.Same q) (h' : q.Same r) : p.Same r :=
  ⟨h'.descriptors.trans h.descriptors, h'.mask.trans h.mask, h'.threads.trans h.threads,
    h'.misused.trans h.misused⟩

theorem same_answers (p : Process) (answers : List KernelAnswer) :
    p.Same { p with answers } := ⟨.refl _, rfl, .refl _, rfl⟩

theorem Cause.of_subset {exception : ConstructionError}
    (h : Cause options handlerSet q exception) (hanswers : q.answers ⊆ p.answers) :
    Cause options handlerSet p exception := by
  cases h with
  | call operation hfailed => exact .call operation (hanswers hfailed)
  | thread hfailed => exact .thread (hanswers hfailed)
  | memory hfailed => exact .memory (hanswers hfailed)
  | refused hrefused => exact .refused hrefused
  | noHandler hunset => exact .noHandler hunset
  | tooMany hcount => exact .tooMany hcount

/-- What a call can do: it fails with the error of the kernel, or it succeeds, and has used
an answer if there was one. -/
theorem attempt_cases {α : Type} (failure : Errno → ConstructionError)
    (success : ℕ → Process → α × Process) (p : Process) :
    ∃ answers, answers ⊆ p.answers ∧
      ((∃ error, .failed error ∈ p.answers ∧
        attempt failure success p = .error (failure error) { p with answers }) ∨
      ∃ wish, attempt failure success p =
        .ok (success wish { p with answers }).1 (success wish { p with answers }).2) := by
  unfold attempt
  split
  · next error answers hanswers =>
      rw [hanswers]
      exact ⟨answers, List.subset_cons_self _ _, .inl ⟨error, List.mem_cons_self, rfl⟩⟩
  · next wish answers hanswers =>
      rw [hanswers]
      exact ⟨answers, List.subset_cons_self _ _, .inr ⟨wish, rfl⟩⟩
  · exact ⟨p.answers, List.Subset.refl _, .inr ⟨0, rfl⟩⟩

theorem attempt_eq_ok {α : Type} {failure : Errno → ConstructionError}
    {success : ℕ → Process → α × Process} {value : α}
    (hcall : attempt failure success p = .ok value q) :
    ∃ wish answers, success wish { p with answers } = (value, q) := by
  obtain ⟨answers, -, ⟨error, -, hfailed⟩ | ⟨wish, hok⟩⟩ := attempt_cases failure success p
  · rw [hfailed] at hcall
    cases hcall
  · rw [hok] at hcall
    cases hcall
    exact ⟨wish, answers, rfl⟩

/-- A call whose effect is undone later, if it has one. -/
theorem restores_attempt {α : Type} {failure : Errno → ConstructionError}
    {success : ℕ → Process → α × Process} {destroy : α → Process → Process}
    (hundo : ∀ wish p later, (success wish p).2.Same later →
      p.Same (destroy (success wish p).1 later)) :
    Scoped.Restores Same (.owned (attempt failure success) destroy) := by
  refine Scoped.restores_owned fun p => ?_
  obtain ⟨answers, -, ⟨error, -, hcall⟩ | ⟨wish, hcall⟩⟩ := attempt_cases failure success p
  · rw [hcall]
    exact p.same_answers answers
  · rw [hcall]
    exact fun later hlater => (p.same_answers answers).trans (hundo wish _ later hlater)

/-- A call fails because the kernel says so. -/
theorem explains_attemptOrThrow {α : Type} (operation : String)
    {success : ℕ → Process → α × Process} (destroy : α → Process → Process)
    (hanswers : ∀ wish p, (success wish p).2.answers = p.answers) :
    Scoped.Explains (Cause options handlerSet)
      (.owned (attemptOrThrow operation success) destroy) := by
  refine Scoped.explains_owned fun p => ?_
  obtain ⟨answers, hsubset, ⟨error, hfailed, hcall⟩ | ⟨wish, hcall⟩⟩ :=
    attempt_cases (fun error => .exception (.syscallError operation error)) success p
  · rw [attemptOrThrow, hcall]
    exact .call operation hfailed
  · rw [attemptOrThrow, hcall]
    refine fun exception hcause => hcause.of_subset ?_
    rw [hanswers]
    exact hsubset

theorem restores_check (operation : String) : Scoped.Restores Same (check operation) :=
  restores_attempt fun _ _ _ hlater => hlater

theorem explains_check (operation : String) :
    Scoped.Explains (Cause options handlerSet) (check operation) :=
  explains_attemptOrThrow operation _ fun _ _ => rfl

theorem check_eq_ok {operation : String} {part : Built Process Unit}
    (hcall : check operation p = .ok part q) : ∃ answers, q = { p with answers } := by
  obtain ⟨wish, answers, hsuccess⟩ := attempt_eq_ok (Scoped.owned_eq_ok hcall)
  obtain ⟨-, rfl⟩ := Prod.mk.inj hsuccess
  exact ⟨answers, rfl⟩

end Process

/-- The descriptor that an object holds, if it holds one. -/
def heldBy (u : UniqueFd) : List Fd := if u.fd = UniqueFd.kInvalidFd then [] else [u.fd]

namespace Process

variable {p q : Process} {options : EpollEchoServerOptions} {handlerSet : Bool}

/-- The destructor closes the descriptor, and nothing else happens. -/
theorem destroyFd_of_perm {u : UniqueFd} {rest : List Fd}
    (hopen : p.descriptors.Perm (heldBy u ++ rest)) :
    ∃ descriptors, destroyFd u p = { p with descriptors } ∧ descriptors.Perm rest := by
  by_cases hvalid : u.fd = UniqueFd.kInvalidFd
  · rw [heldBy, if_pos hvalid] at hopen
    refine ⟨p.descriptors, ?_, hopen⟩
    simp only [destroyFd, UniqueFd.reset, hvalid, if_true]
  · rw [heldBy, if_neg hvalid] at hopen
    have hmem : u.fd ∈ p.descriptors := hopen.mem_iff.mpr List.mem_cons_self
    refine ⟨p.descriptors.erase u.fd, ?_, ?_⟩
    · simp only [destroyFd, UniqueFd.reset, if_neg hvalid, if_pos hvalid, close, if_pos hmem]
    · have herase := hopen.erase u.fd
      rwa [List.cons_append, List.erase_cons_head] at herase

theorem heldBy_freshFd (p : Process) (wish : ℕ) :
    heldBy ⟨p.freshFd wish⟩ = [p.freshFd wish] :=
  if_neg (freshAmong_ne_invalid p.descriptors wish)

theorem restores_openFd (operation : String) : Scoped.Restores Same (openFd operation) := by
  refine restores_attempt fun wish p later hlater => ?_
  have hopen : later.descriptors.Perm (heldBy ⟨p.freshFd wish⟩ ++ p.descriptors) := by
    rw [heldBy_freshFd]
    exact hlater.descriptors
  obtain ⟨descriptors, hclose, hrest⟩ := destroyFd_of_perm hopen
  rw [hclose]
  exact ⟨hrest, hlater.mask, hlater.threads, hlater.misused⟩

theorem explains_openFd (operation : String) :
    Scoped.Explains (Cause options handlerSet) (openFd operation) :=
  explains_attemptOrThrow operation _ fun _ _ => rfl

/-- The object has a descriptor that was not open, or none, and nothing else happened. -/
structure Opened (p : Process) (u : UniqueFd) (q : Process) : Prop where
  fresh : ∀ fd ∈ heldBy u, fd ∉ p.descriptors
  process : ∃ answers, q = { p with answers, descriptors := heldBy u ++ p.descriptors }

theorem mem_heldBy {u : UniqueFd} (hvalid : u.fd ≠ UniqueFd.kInvalidFd) : u.fd ∈ heldBy u := by
  rw [heldBy, if_neg hvalid]
  exact List.mem_cons_self

/-- The new descriptor is none of those that were open. -/
theorem Opened.ne {u v : UniqueFd} (h : Opened p u q) (hvalid : v.fd ≠ UniqueFd.kInvalidFd)
    (hopen : v.fd ∈ p.descriptors) : v.fd ≠ u.fd := by
  intro heq
  rw [heq] at hvalid hopen
  exact h.fresh u.fd (mem_heldBy hvalid) hopen

theorem openFd_eq_ok {operation : String} {part : Built Process UniqueFd}
    (hcall : openFd operation p = .ok part q) :
    part.value.fd ≠ UniqueFd.kInvalidFd ∧ Opened p part.value q := by
  obtain ⟨wish, answers, hsuccess⟩ := attempt_eq_ok (Scoped.owned_eq_ok hcall)
  obtain ⟨hvalue, rfl⟩ := Prod.mk.inj hsuccess
  rw [← hvalue]
  refine ⟨freshAmong_ne_invalid _ wish, ?_, answers, ?_⟩
  · rw [heldBy_freshFd]
    exact List.forall_mem_singleton.mpr (freshAmong_notMem _ wish)
  · rw [heldBy_freshFd]
    rfl

end Process

open Process (Same Cause Opened)

variable {options : EpollEchoServerOptions} {handlerSet : Bool} {p q : Process}

/-- The loop of `BuildSignalSet`. -/
def addSignals (signals : List ℕ) (signalSet : SignalSet) : Construction SignalSet :=
  signals.foldlM (fun signalSet signal => do
    Process.check "sigaddset"
    return insert signal signalSet) signalSet

theorem addSignals_cons (signal : ℕ) (signals : List ℕ) (signalSet : SignalSet) :
    addSignals (signal :: signals) signalSet =
      ((do
        Process.check "sigaddset"
        return insert signal signalSet) >>= addSignals signals) := List.foldlM_cons

theorem buildSignalSet_eq (signals : List ℕ) :
    buildSignalSet signals = (Process.check "sigemptyset" >>= fun _ => addSignals signals ∅) := rfl

theorem restores_buildSignalSet (signals : List ℕ) :
    Scoped.Restores Same (buildSignalSet signals) := by
  rw [buildSignalSet_eq]
  refine (Process.restores_check _).bind fun _ => ?_
  generalize (∅ : SignalSet) = signalSet
  induction signals generalizing signalSet with
  | nil => exact Scoped.restores_pure signalSet
  | cons signal signals ih =>
      rw [addSignals_cons]
      exact ((Process.restores_check _).bind fun _ => Scoped.restores_pure _).bind ih

theorem explains_buildSignalSet (signals : List ℕ) :
    Scoped.Explains (Cause options handlerSet) (buildSignalSet signals) := by
  rw [buildSignalSet_eq]
  refine (Process.explains_check _).bind fun _ => ?_
  generalize (∅ : SignalSet) = signalSet
  induction signals generalizing signalSet with
  | nil => exact Scoped.explains_pure signalSet
  | cons signal signals ih =>
      rw [addSignals_cons]
      exact ((Process.explains_check _).bind fun _ => Scoped.explains_pure _).bind ih

theorem addSignals_eq_ok {signals : List ℕ} {before : SignalSet} {part : Built Process SignalSet}
    (hcall : addSignals signals before p = .ok part q) :
    part.value = before ∪ signals.toFinset ∧ ∃ answers, q = { p with answers } := by
  induction signals generalizing before p part with
  | nil =>
      obtain ⟨hvalue, rfl⟩ := Scoped.pure_eq_ok hcall
      rw [hvalue, List.toFinset_nil, Finset.union_empty]
      exact ⟨rfl, q.answers, rfl⟩
  | cons signal signals ih =>
      rw [addSignals_cons] at hcall
      obtain ⟨next, middle, whole, hfirst, hrest, hvalue⟩ := Scoped.bind_eq_ok hcall
      obtain ⟨_, _, _, hadd, hnext, hset⟩ := Scoped.bind_eq_ok hfirst
      obtain ⟨answers, rfl⟩ := Process.check_eq_ok hadd
      obtain ⟨hinsert, rfl⟩ := Scoped.pure_eq_ok hnext
      obtain ⟨hwhole, answers', hq⟩ := ih hrest
      refine ⟨?_, answers', hq⟩
      rw [hvalue, hwhole, hset, hinsert, List.toFinset_cons, Finset.insert_union,
        Finset.union_insert]

theorem buildSignalSet_eq_ok {signals : List ℕ} {part : Built Process SignalSet}
    (hcall : buildSignalSet signals p = .ok part q) :
    part.value = signals.toFinset ∧ ∃ answers, q = { p with answers } := by
  rw [buildSignalSet_eq] at hcall
  obtain ⟨_, middle, whole, hempty, hrest, hvalue⟩ := Scoped.bind_eq_ok hcall
  obtain ⟨answers, rfl⟩ := Process.check_eq_ok hempty
  obtain ⟨hset, answers', hq⟩ := addSignals_eq_ok hrest
  exact ⟨by rw [hvalue, hset, Finset.empty_union], answers', hq⟩

theorem restores_blockShutdownSignals (signals : List ℕ) :
    Scoped.Restores Same (blockShutdownSignals signals) := by
  unfold blockShutdownSignals
  split
  · exact Scoped.restores_owned fun p later hlater => hlater
  · refine (restores_buildSignalSet signals).bind fun signalSet => ?_
    refine Process.restores_attempt fun wish p later hlater => ?_
    exact ⟨hlater.descriptors, rfl, hlater.threads, hlater.misused⟩

theorem explains_blockShutdownSignals (signals : List ℕ) :
    Scoped.Explains (Cause options handlerSet) (blockShutdownSignals signals) := by
  unfold blockShutdownSignals
  split
  · exact Scoped.explains_owned fun p exception hcause => hcause
  · refine (explains_buildSignalSet signals).bind fun signalSet => ?_
    exact Process.explains_attemptOrThrow _ _ fun _ _ => rfl

theorem blockShutdownSignals_eq_ok {signals : List ℕ}
    {part : Built Process ShutdownSignalMaskState}
    (hcall : blockShutdownSignals signals p = .ok part q) :
    part.value = (if signals.isEmpty then ⟨∅, false⟩ else ⟨p.mask, true⟩) ∧
      ∃ answers, q = { p with answers, mask := p.mask ∪ signals.toFinset } := by
  unfold blockShutdownSignals at hcall
  split at hcall
  · next hempty =>
      have hpure : EStateM.Result.ok ⟨∅, false⟩ p = .ok part.value q := Scoped.owned_eq_ok hcall
      injection hpure with hvalue hq
      rw [if_pos hempty, List.isEmpty_iff.mp hempty, List.toFinset_nil, Finset.union_empty]
      exact ⟨hvalue.symm, p.answers, hq.symm⟩
  · next hsome =>
      obtain ⟨signalSet, middle, whole, hset, howned, hvalue⟩ := Scoped.bind_eq_ok hcall
      obtain ⟨hsignals, answers, rfl⟩ := buildSignalSet_eq_ok hset
      obtain ⟨wish, answers', hsuccess⟩ := Process.attempt_eq_ok (Scoped.owned_eq_ok howned)
      obtain ⟨hstate, rfl⟩ := Prod.mk.inj hsuccess
      rw [if_neg hsome, ← hsignals]
      exact ⟨hvalue.trans hstate.symm, answers', rfl⟩

theorem restores_createListener : Scoped.Restores Same createListener :=
  (Process.restores_openFd "socket").bind fun listener =>
    (Process.restores_check _).bind fun _ => (Process.restores_check _).bind fun _ =>
      (Process.restores_check _).bind fun _ => Scoped.restores_pure listener

theorem explains_createListener : Scoped.Explains (Cause options handlerSet) createListener :=
  (Process.explains_openFd "socket").bind fun listener =>
    (Process.explains_check _).bind fun _ => (Process.explains_check _).bind fun _ =>
      (Process.explains_check _).bind fun _ => Scoped.explains_pure listener

theorem createListener_eq_ok {part : Built Process UniqueFd}
    (hcall : createListener p = .ok part q) :
    part.value.fd ≠ UniqueFd.kInvalidFd ∧ Opened p part.value q := by
  obtain ⟨listener, p₁, whole₁, hsocket, hcall, hvalue₁⟩ := Scoped.bind_eq_ok hcall
  obtain ⟨_, p₂, whole₂, hreuse, hcall, hvalue₂⟩ := Scoped.bind_eq_ok hcall
  obtain ⟨_, p₃, whole₃, hbind, hcall, hvalue₃⟩ := Scoped.bind_eq_ok hcall
  obtain ⟨_, p₄, whole₄, hlisten, hcall, hvalue₄⟩ := Scoped.bind_eq_ok hcall
  obtain ⟨hvalue, rfl⟩ := Scoped.pure_eq_ok hcall
  obtain ⟨hvalid, hopened⟩ := Process.openFd_eq_ok hsocket
  obtain ⟨answers₁, rfl⟩ := hopened.process
  obtain ⟨answers₂, rfl⟩ := Process.check_eq_ok hreuse
  obtain ⟨answers₃, rfl⟩ := Process.check_eq_ok hbind
  obtain ⟨answers₄, rfl⟩ := Process.check_eq_ok hlisten
  rw [hvalue₁, hvalue₂, hvalue₃, hvalue₄, hvalue]
  exact ⟨hvalid, hopened.fresh, answers₄, rfl⟩

theorem restores_createShutdownSignalFd (signals : List ℕ) :
    Scoped.Restores Same (createShutdownSignalFd signals) := by
  unfold createShutdownSignalFd
  split
  · exact Scoped.restores_pure _
  · exact (restores_buildSignalSet signals).bind fun _ => Process.restores_openFd "signalfd"

theorem explains_createShutdownSignalFd (signals : List ℕ) :
    Scoped.Explains (Cause options handlerSet) (createShutdownSignalFd signals) := by
  unfold createShutdownSignalFd
  split
  · exact Scoped.explains_pure _
  · exact (explains_buildSignalSet signals).bind fun _ => Process.explains_openFd "signalfd"

/-- Nothing is opened when there are no signals. -/
theorem createShutdownSignalFd_eq_ok {signals : List ℕ} {part : Built Process UniqueFd}
    (hcall : createShutdownSignalFd signals p = .ok part q) :
    (part.value.fd = UniqueFd.kInvalidFd ↔ signals = []) ∧ Opened p part.value q := by
  unfold createShutdownSignalFd at hcall
  split at hcall
  · next hempty =>
      obtain ⟨hvalue, rfl⟩ := Scoped.pure_eq_ok hcall
      rw [hvalue]
      exact ⟨⟨fun _ => List.isEmpty_iff.mp hempty, fun _ => rfl⟩, nofun, q.answers, rfl⟩
  · next hsome =>
      obtain ⟨_, middle, whole, hset, hopen, hvalue⟩ := Scoped.bind_eq_ok hcall
      obtain ⟨-, answers, rfl⟩ := buildSignalSet_eq_ok hset
      obtain ⟨hvalid, hopened⟩ := Process.openFd_eq_ok hopen
      rw [hvalue]
      refine ⟨⟨fun hinvalid => absurd hinvalid hvalid, fun hnone => ?_⟩, hopened.fresh,
        hopened.process⟩
      exact absurd (List.isEmpty_iff.mpr hnone) hsome

namespace Workers

/-- The threads that are joinable. -/
def threads (workers : Workers) : List Thread := workers.filterMap id

/-- `Stop` joins them, and nothing else happens. -/
theorem stop_spec (workers : Workers) (p : Process) :
    (workers.stop p).1.threads = [] ∧
      ∃ threads, (workers.stop p).2 = { p with threads } ∧
        ∀ others, p.threads.Perm (workers.threads ++ others) → threads.Perm others := by
  induction workers generalizing p with
  | nil => exact ⟨rfl, p.threads, rfl, fun others hothers => hothers⟩
  | cons worker workers ih =>
      cases worker with
      | none => exact ih p
      | some thread =>
          obtain ⟨hnone, threads, hstop, hrest⟩ := ih (p.join thread)
          refine ⟨hnone, threads, hstop, fun others hothers => hrest others ?_⟩
          have herase := hothers.erase thread
          rw [show Workers.threads (some thread :: workers) ++ others =
            thread :: (Workers.threads workers ++ others) from rfl,
            List.erase_cons_head] at herase
          exact herase

/-- The destructor of the pool joins the threads before it destroys them. -/
theorem destroyPool_of_perm {workers : Workers} {others : List Thread}
    (hthreads : p.threads.Perm (workers.threads ++ others)) :
    ∃ threads, workers.destroyPool p = { p with threads } ∧ threads.Perm others := by
  obtain ⟨hjoined, threads, hstop, hrest⟩ := workers.stop_spec p
  refine ⟨threads, ?_, hrest others hthreads⟩
  have hnone : (workers.stop p).1.any Option.isSome = false := by
    rw [Workers.threads, List.filterMap_eq_nil_iff] at hjoined
    rw [List.any_eq_false]
    intro worker hmem
    rw [show worker = none from hjoined worker hmem]
    exact Bool.false_ne_true
  show (workers.stop p).1.destroy (workers.stop p).2 = _
  rw [destroy, hnone, if_neg Bool.false_ne_true, hstop]

/-- The loop starts as many threads as it is told, or none. -/
theorem start_spec (options : EpollEchoServerOptions) (handlerSet : Bool) (count : ℕ)
    (workers : Workers) (p : Process) (others : List Thread)
    (hthreads : p.threads.Perm (workers.threads ++ others)) :
    match start count workers p with
    | .error exception q => Cause options handlerSet p exception ∧
        ∃ threads answers, q = { p with threads, answers } ∧ threads.Perm others
    | .ok workers' q =>
        (∃ threads answers, q = { p with threads, answers } ∧ answers ⊆ p.answers ∧
          threads.Perm (workers'.threads ++ others)) ∧
        ∃ started : List Thread, workers'.threads = workers.threads ++ started ∧
          started.length = count ∧ ∀ thread ∈ started, thread.mask = p.mask := by
  induction count generalizing workers p with
  | zero =>
      refine ⟨⟨p.threads, p.answers, rfl, List.Subset.refl _, hthreads⟩, [], ?_, rfl, nofun⟩
      rw [List.append_nil]
  | succ count ih =>
      unfold start Process.startThread
      obtain ⟨answers, hsubset, ⟨error, hfailed, hcall⟩ | ⟨wish, hcall⟩⟩ :=
        Process.attempt_cases .systemError (fun _ p => ((⟨p.freshThreadId, p.mask⟩ : Thread),
          { p with threads := ⟨p.freshThreadId, p.mask⟩ :: p.threads })) p
      · rw [hcall]
        obtain ⟨threads, hdestroy, hrest⟩ :=
          destroyPool_of_perm (p := { p with answers }) hthreads
        exact ⟨.thread hfailed, threads, answers, hdestroy, hrest⟩
      · rw [hcall]
        dsimp only
        generalize hthread : (⟨Process.freshThreadId { p with answers }, p.mask⟩ : Thread) = thread
        have hmore : (thread :: p.threads).Perm
            (Workers.threads (workers ++ [some thread]) ++ others) := by
          rw [Workers.threads, List.filterMap_append, List.append_assoc]
          exact (hthreads.cons thread).trans List.perm_middle.symm
        have hnext := ih (workers ++ [some thread])
          { p with answers, threads := thread :: p.threads } hmore
        generalize start count (workers ++ [some thread])
          { p with answers, threads := thread :: p.threads } = outcome at hnext ⊢
        cases outcome with
        | error exception q =>
            obtain ⟨hcause, threads, answers', hq, hrest⟩ := hnext
            exact ⟨hcause.of_subset hsubset, threads, answers', hq, hrest⟩
        | ok workers' q =>
            obtain ⟨⟨threads, answers', hq, hsubset', hrest⟩, started, hstarted, hcount, hmasks⟩ :=
              hnext
            refine ⟨⟨threads, answers', hq, List.Subset.trans hsubset' hsubset, hrest⟩,
              thread :: started, ?_, ?_, ?_⟩
            · rw [hstarted, Workers.threads, List.filterMap_append, List.append_assoc]
              rfl
            · rw [List.length_cons, hcount]
            · exact List.forall_mem_cons.mpr ⟨hthread ▸ rfl, hmasks⟩

theorem restores_requireHandler (handlerSet : Bool) :
    Scoped.Restores Same (requireHandler handlerSet) := by
  refine Scoped.restores_owned fun p => ?_
  cases handlerSet with
  | true => exact fun later hlater => hlater
  | false => exact Same.refl p

theorem explains_requireHandler :
    Scoped.Explains (Cause options handlerSet) (requireHandler handlerSet) := by
  refine Scoped.explains_owned fun p => ?_
  cases handlerSet with
  | true => exact fun exception hcause => hcause
  | false => exact .noHandler rfl

theorem requireHandler_eq_ok {part : Built Process Unit}
    (hcall : requireHandler handlerSet p = .ok part q) : handlerSet = true ∧ q = p := by
  unfold requireHandler Scoped.call at hcall
  have hcheck := Scoped.owned_eq_ok hcall
  cases handlerSet with
  | true =>
      cases hcheck
      exact ⟨rfl, rfl⟩
  | false => cases hcheck

theorem restores_reserve (count : ℕ) : Scoped.Restores Same (reserve count) := by
  by_cases hcount : count > kMaxVectorSize
  · refine Scoped.restores_owned fun p => ?_
    rw [if_pos hcount]
    exact Same.refl p
  · unfold reserve
    simp only [if_neg hcount]
    exact Process.restores_attempt fun _ _ _ hlater => hlater

theorem explains_reserve :
    Scoped.Explains (Cause options handlerSet) (reserve options.workerCount) := by
  refine Scoped.explains_owned fun p => ?_
  by_cases hcount : options.workerCount > kMaxVectorSize
  · rw [if_pos hcount]
    exact .tooMany hcount
  · rw [if_neg hcount]
    obtain ⟨answers, hsubset, ⟨error, hfailed, hcall⟩ | ⟨wish, hcall⟩⟩ :=
      Process.attempt_cases (fun _ => .badAlloc) (fun _ p => ((), p)) p
    · rw [hcall]
      exact .memory hfailed
    · rw [hcall]
      exact fun exception hcause => hcause.of_subset hsubset

theorem reserve_eq_ok {count : ℕ} {part : Built Process Unit}
    (hcall : reserve count p = .ok part q) :
    count ≤ kMaxVectorSize ∧ ∃ answers, q = { p with answers } := by
  unfold reserve Scoped.call at hcall
  have hcheck := Scoped.owned_eq_ok hcall
  by_cases hcount : count > kMaxVectorSize
  · rw [if_pos hcount] at hcheck
    cases hcheck
  · rw [if_neg hcount] at hcheck
    obtain ⟨wish, answers, hsuccess⟩ := Process.attempt_eq_ok hcheck
    obtain ⟨-, rfl⟩ := Prod.mk.inj hsuccess
    exact ⟨Nat.le_of_not_lt hcount, answers, rfl⟩

theorem start_eq_ok {count : ℕ} {workers : Workers} (hcall : start count [] p = .ok workers q) :
    (∃ threads answers, q = { p with threads, answers } ∧
      threads.Perm (workers.threads ++ p.threads)) ∧
    workers.threads.length = count ∧ ∀ thread ∈ workers.threads, thread.mask = p.mask := by
  have hspec := start_spec {} true count [] p p.threads (.refl _)
  rw [hcall] at hspec
  obtain ⟨⟨threads, answers, hq, -, hthreads⟩, started, hstarted, hcount, hmasks⟩ := hspec
  rw [show workers.threads = started from hstarted] at hthreads ⊢
  exact ⟨⟨threads, answers, hq, hthreads⟩, hcount, hmasks⟩

theorem restores_start (count : ℕ) :
    Scoped.Restores Same (.owned (start count []) destroyPool) := by
  refine Scoped.restores_owned fun p => ?_
  have hspec := start_spec {} true count [] p p.threads (.refl _)
  generalize start count [] p = outcome at hspec ⊢
  cases outcome with
  | error exception q =>
      obtain ⟨-, threads, answers, rfl, hrest⟩ := hspec
      exact ⟨.refl _, rfl, hrest, rfl⟩
  | ok workers q =>
      obtain ⟨⟨threads, answers, rfl, -, hthreads⟩, -⟩ := hspec
      intro later hlater
      obtain ⟨threads', hdestroy, hothers⟩ :=
        destroyPool_of_perm (hlater.threads.trans hthreads)
      rw [hdestroy]
      exact ⟨hlater.descriptors, hlater.mask, hothers, hlater.misused⟩

theorem explains_start (count : ℕ) :
    Scoped.Explains (Cause options handlerSet) (.owned (start count []) destroyPool) := by
  refine Scoped.explains_owned fun p => ?_
  have hspec := start_spec options handlerSet count [] p p.threads (.refl _)
  generalize start count [] p = outcome at hspec ⊢
  cases outcome with
  | error exception q => exact hspec.1
  | ok workers q =>
      obtain ⟨⟨threads, answers, rfl, hsubset, -⟩, -⟩ := hspec
      exact fun exception hcause => hcause.of_subset hsubset

end Workers

namespace Members

theorem restores_addToEpoll (operation : String) (fd : UniqueFd) (event : EpollEvent)
    (s : Members) : Scoped.Restores Same (s.addToEpoll operation fd event) :=
  (Process.restores_check operation).bind fun _ => Scoped.restores_pure _

theorem explains_addToEpoll (operation : String) (fd : UniqueFd) (event : EpollEvent)
    (s : Members) : Scoped.Explains (Cause options handlerSet) (s.addToEpoll operation fd event) :=
  (Process.explains_check operation).bind fun _ => Scoped.explains_pure _

theorem restores_construct (port : UInt16) (options : EpollEchoServerOptions)
    (handlerSet : Bool) : Scoped.Restores Same (construct port options handlerSet) := by
  have hinitialise : Scoped.Restores Same (initialise options handlerSet) := by
    refine restores_createListener.bind fun listener => ?_
    refine (Process.restores_openFd _).bind fun epoll => ?_
    refine (restores_blockShutdownSignals _).bind fun signalMaskState => ?_
    refine (Process.restores_openFd _).bind fun workerWakeup => ?_
    refine (restores_createShutdownSignalFd _).bind fun shutdownSignal => ?_
    refine Scoped.Restores.bind (Scoped.restores_owned fun p => ?_) fun config => ?_
    · cases ServerConfig.create options with
      | ok config => exact fun later hlater => hlater
      | error exception => exact Same.refl p
    refine (Workers.restores_requireHandler handlerSet).bind fun _ => ?_
    refine (Workers.restores_reserve _).bind fun _ => ?_
    exact (Workers.restores_start _).bind fun workers => Scoped.restores_pure _
  refine hinitialise.bind fun s => ?_
  refine Scoped.Restores.bind (Process.restores_attempt fun _ _ _ hlater => hlater) fun port => ?_
  refine (restores_addToEpoll _ _ _ _).bind fun s => ?_
  refine (restores_addToEpoll _ _ _ s).bind fun s => ?_
  unfold addShutdownSignalToEpoll
  split
  · exact Scoped.restores_pure s
  · exact restores_addToEpoll _ _ _ s

theorem explains_construct (port : UInt16) (options : EpollEchoServerOptions)
    (handlerSet : Bool) :
    Scoped.Explains (Cause options handlerSet) (construct port options handlerSet) := by
  have hinitialise : Scoped.Explains (Cause options handlerSet)
      (initialise options handlerSet) := by
    refine explains_createListener.bind fun listener => ?_
    refine (Process.explains_openFd _).bind fun epoll => ?_
    refine (explains_blockShutdownSignals _).bind fun signalMaskState => ?_
    refine (Process.explains_openFd _).bind fun workerWakeup => ?_
    refine (explains_createShutdownSignalFd _).bind fun shutdownSignal => ?_
    refine Scoped.Explains.bind (Scoped.explains_owned fun p => ?_) fun config => ?_
    · cases hcreate : ServerConfig.create options with
      | ok config => exact fun exception hcause => hcause
      | error exception => exact .refused hcreate
    refine Workers.explains_requireHandler.bind fun _ => ?_
    refine Workers.explains_reserve.bind fun _ => ?_
    exact (Workers.explains_start _).bind fun workers => Scoped.explains_pure _
  refine hinitialise.bind fun s => ?_
  refine Scoped.Explains.bind (Process.explains_attemptOrThrow _ _ fun _ _ => rfl) fun port => ?_
  refine (explains_addToEpoll _ _ _ _).bind fun s => ?_
  refine (explains_addToEpoll _ _ _ s).bind fun s => ?_
  unfold addShutdownSignalToEpoll
  split
  · exact Scoped.explains_pure s
  · exact explains_addToEpoll _ _ _ s

/-! ## What has been built -/

theorem except_bind_eq_ok {α β : Type} {first : Except Exception α}
    {rest : α → Except Exception β} {value : β} (hcall : (first >>= rest) = .ok value) :
    ∃ part, first = .ok part ∧ rest part = .ok value := by
  cases first with
  | error exception => cases hcall
  | ok part => exact ⟨part, rfl, hcall⟩

theorem options_of_create {config : ServerConfig}
    (hcreate : ServerConfig.create options = .ok config) : config.options = options := by
  obtain ⟨_, -, hcreate⟩ := except_bind_eq_ok hcreate
  obtain ⟨_, -, hcreate⟩ := except_bind_eq_ok hcreate
  obtain ⟨_, -, hcreate⟩ := except_bind_eq_ok hcreate
  obtain ⟨_, -, hcreate⟩ := except_bind_eq_ok hcreate
  obtain ⟨_, -, hcreate⟩ := except_bind_eq_ok hcreate
  obtain ⟨_, -, hcreate⟩ := except_bind_eq_ok hcreate
  obtain ⟨_, -, hcreate⟩ := except_bind_eq_ok hcreate
  obtain ⟨_, -, hcreate⟩ := except_bind_eq_ok hcreate
  cases hcreate
  rfl

/-- The descriptors that the server holds, the last one first. -/
def held (s : Members) : List Fd :=
  heldBy s.shutdownSignal ++ (heldBy s.workerWakeup ++ (heldBy s.epoll ++ heldBy s.listener))

/-- What the member initialisers have done when they are through. -/
structure Initialised (options : EpollEchoServerOptions) (handlerSet : Bool) (p : Process)
    (s : Members) (q : Process) : Prop where
  config : ServerConfig.create options = .ok s.config
  handler : handlerSet = true
  room : options.workerCount ≤ kMaxVectorSize
  descriptors : q.descriptors = s.held ++ p.descriptors
  nodup : [s.listener.fd, s.epoll.fd, s.workerWakeup.fd, s.shutdownSignal.fd].Nodup
  fresh : ∀ fd ∈ s.held, fd ∉ p.descriptors
  signals : s.shutdownSignal.fd = UniqueFd.kInvalidFd ↔ options.shutdownSignals = []
  mask : q.mask = p.mask ∪ options.shutdownSignals.toFinset
  previous : s.signalMaskState =
    if options.shutdownSignals.isEmpty then ⟨∅, false⟩ else ⟨p.mask, true⟩
  threads : q.threads.Perm (s.workers.threads ++ p.threads)
  count : s.workers.threads.length = options.workerCount
  blocked : ∀ thread ∈ s.workers.threads, thread.mask = q.mask
  misused : q.misused = p.misused
  ephemeralPort : q.ephemeralPort = p.ephemeralPort

theorem Initialised.congr {s : Members} (h : Initialised options handlerSet p s q)
    (port : UInt16) (interest : AList (fun _ : Fd => EpollEvent))
    (answers : List KernelAnswer) :
    Initialised options handlerSet p { s with port, interest } { q with answers } :=
  ⟨h.config, h.handler, h.room, h.descriptors, h.nodup, h.fresh, h.signals, h.mask, h.previous,
    h.threads, h.count, h.blocked, h.misused, h.ephemeralPort⟩

theorem requireOptions_eq_ok {part : Built Process ServerConfig}
    (hcall : requireOptions options p = .ok part q) :
    ServerConfig.create options = .ok part.value ∧ q = p := by
  unfold requireOptions Scoped.call at hcall
  have hcheck := Scoped.owned_eq_ok hcall
  cases hcreate : ServerConfig.create options with
  | ok config =>
      simp only [hcreate] at hcheck
      cases hcheck
      exact ⟨rfl, rfl⟩
  | error exception =>
      simp only [hcreate] at hcheck
      cases hcheck

theorem initialise_eq_ok {whole : Built Process Members}
    (hcall : initialise options handlerSet p = .ok whole q) :
    Initialised options handlerSet p whole.value q ∧ whole.value.interest = ∅ := by
  obtain ⟨listener, p₁, whole₁, hlistener, hcall, hvalue₁⟩ := Scoped.bind_eq_ok hcall
  obtain ⟨epoll, p₂, whole₂, hepoll, hcall, hvalue₂⟩ := Scoped.bind_eq_ok hcall
  obtain ⟨state, p₃, whole₃, hstate, hcall, hvalue₃⟩ := Scoped.bind_eq_ok hcall
  obtain ⟨wakeup, p₄, whole₄, hwakeup, hcall, hvalue₄⟩ := Scoped.bind_eq_ok hcall
  obtain ⟨signal, p₅, whole₅, hsignal, hcall, hvalue₅⟩ := Scoped.bind_eq_ok hcall
  obtain ⟨config, p₆, whole₆, hconfig, hcall, hvalue₆⟩ := Scoped.bind_eq_ok hcall
  obtain ⟨_, p₇, whole₇, hhandler, hcall, hvalue₇⟩ := Scoped.bind_eq_ok hcall
  obtain ⟨_, p₈, whole₈, hreserve, hcall, hvalue₈⟩ := Scoped.bind_eq_ok hcall
  obtain ⟨workers, p₉, whole₉, hworkers, hcall, hvalue₉⟩ := Scoped.bind_eq_ok hcall
  obtain ⟨hvalue, rfl⟩ := Scoped.pure_eq_ok hcall
  rw [hvalue₁, hvalue₂, hvalue₃, hvalue₄, hvalue₅, hvalue₆, hvalue₇, hvalue₈, hvalue₉, hvalue]
  refine ⟨?_, rfl⟩
  -- The process behind each of the members.
  obtain ⟨hvalid₁, hopen₁⟩ := createListener_eq_ok hlistener
  obtain ⟨answers₁, rfl⟩ := hopen₁.process
  obtain ⟨hvalid₂, hopen₂⟩ := Process.openFd_eq_ok hepoll
  obtain ⟨answers₂, rfl⟩ := hopen₂.process
  obtain ⟨hprevious, answers₃, rfl⟩ := blockShutdownSignals_eq_ok hstate
  obtain ⟨hvalid₄, hopen₄⟩ := Process.openFd_eq_ok hwakeup
  obtain ⟨answers₄, rfl⟩ := hopen₄.process
  obtain ⟨hsignals, hopen₅⟩ := createShutdownSignalFd_eq_ok hsignal
  obtain ⟨answers₅, rfl⟩ := hopen₅.process
  obtain ⟨hcreate, rfl⟩ := requireOptions_eq_ok hconfig
  obtain ⟨hset, rfl⟩ := Workers.requireHandler_eq_ok hhandler
  obtain ⟨hroom, answers₈, rfl⟩ := Workers.reserve_eq_ok hreserve
  obtain ⟨⟨threads, answers₉, rfl, hthreads⟩, hcount, hblocked⟩ :=
    Workers.start_eq_ok (Scoped.owned_eq_ok hworkers)
  have hmem₁ := Process.mem_heldBy hvalid₁
  have hmem₂ := Process.mem_heldBy hvalid₂
  have hmem₄ := Process.mem_heldBy hvalid₄
  refine ⟨hcreate, hset, hroom, ?_, ?_, ?_, hsignals, rfl, hprevious, hthreads, hcount, hblocked,
    rfl, rfl⟩
  · simp only [held, List.append_assoc]
  · have hne₁₂ := hopen₂.ne hvalid₁ (List.mem_append_left _ hmem₁)
    have hne₁₄ := hopen₄.ne hvalid₁ (List.mem_append_right _ (List.mem_append_left _ hmem₁))
    have hne₂₄ := hopen₄.ne hvalid₂ (List.mem_append_left _ hmem₂)
    have hne₁₅ := hopen₅.ne hvalid₁
      (List.mem_append_right _ (List.mem_append_right _ (List.mem_append_left _ hmem₁)))
    have hne₂₅ := hopen₅.ne hvalid₂ (List.mem_append_right _ (List.mem_append_left _ hmem₂))
    have hne₄₅ := hopen₅.ne hvalid₄ (List.mem_append_left _ hmem₄)
    simp only [List.nodup_cons, List.mem_cons, List.not_mem_nil, or_false, not_or,
      List.nodup_nil, not_false_eq_true, and_true]
    exact ⟨⟨hne₁₂, hne₁₄, hne₁₅⟩, ⟨hne₂₄, hne₂₅⟩, hne₄₅⟩
  · intro fd hmem hopen
    simp only [held, List.mem_append] at hmem
    rcases hmem with hmem | hmem | hmem | hmem
    · refine hopen₅.fresh fd hmem ?_
      exact List.mem_append_right _ (List.mem_append_right _ (List.mem_append_right _ hopen))
    · exact hopen₄.fresh fd hmem (List.mem_append_right _ (List.mem_append_right _ hopen))
    · exact hopen₂.fresh fd hmem (List.mem_append_right _ hopen)
    · exact hopen₁.fresh fd hmem hopen

theorem addToEpoll_eq_ok {operation : String} {fd : UniqueFd} {event : EpollEvent} {s : Members}
    {part : Built Process Members} (hcall : s.addToEpoll operation fd event p = .ok part q) :
    part.value = { s with interest := s.interest.insert fd.fd event } ∧
      ∃ answers, q = { p with answers } := by
  obtain ⟨_, middle, whole, hcheck, hpure, hvalue⟩ := Scoped.bind_eq_ok hcall
  obtain ⟨answers, rfl⟩ := Process.check_eq_ok hcheck
  obtain ⟨hs, rfl⟩ := Scoped.pure_eq_ok hpure
  exact ⟨hvalue.trans hs, answers, rfl⟩

theorem boundPort_eq_ok {port : UInt16} {part : Built Process UInt16}
    (hcall : boundPort port p = .ok part q) :
    part.value = (if port = 0 then p.ephemeralPort else port) ∧
      ∃ answers, q = { p with answers } := by
  obtain ⟨wish, answers, hsuccess⟩ := Process.attempt_eq_ok (Scoped.owned_eq_ok hcall)
  obtain ⟨hvalue, rfl⟩ := Prod.mk.inj hsuccess
  exact ⟨hvalue.symm, answers, rfl⟩

/-- The descriptors of the members. -/
def toDescriptors (s : Members)
    (hnodup : [s.listener.fd, s.epoll.fd, s.workerWakeup.fd, s.shutdownSignal.fd].Nodup) :
    Descriptors :=
  ⟨s.listener.fd, s.epoll.fd, s.workerWakeup.fd, s.shutdownSignal.fd, hnodup⟩

theorem epoll_start (config : ServerConfig) (descriptors : Descriptors) :
    (Server.start config descriptors).epoll = Server.startEpoll config descriptors := by
  obtain ⟨ctlCalls, hstarting⟩ := (Server.starting_start config descriptors).eq
  rw [hstarting]

/-- What the constructor has done when it returns. The epoll instance holds what it holds
when a run of the server starts. -/
structure Constructed (port : UInt16) (options : EpollEchoServerOptions) (handlerSet : Bool)
    (p : Process) (s : Members) (q : Process) : Prop
    extends Initialised options handlerSet p s q where
  port : s.port = if port = 0 then p.ephemeralPort else port
  interest : s.interest = (Server.start s.config (s.toDescriptors nodup)).epoll

theorem construct_eq_ok {port : UInt16} {whole : Built Process Members}
    (hcall : construct port options handlerSet p = .ok whole q) :
    Constructed port options handlerSet p whole.value q := by
  obtain ⟨s, p₁, whole₁, hmembers, hcall, hvalue₁⟩ := Scoped.bind_eq_ok hcall
  obtain ⟨bound, p₂, whole₂, hbound, hcall, hvalue₂⟩ := Scoped.bind_eq_ok hcall
  obtain ⟨s₁, p₃, whole₃, hlistening, hcall, hvalue₃⟩ := Scoped.bind_eq_ok hcall
  obtain ⟨s₂, p₄, whole₄, hwaking, hcall, hvalue₄⟩ := Scoped.bind_eq_ok hcall
  rw [hvalue₁, hvalue₂, hvalue₃, hvalue₄]
  obtain ⟨hinitialised, hnone⟩ := initialise_eq_ok hmembers
  obtain ⟨hport, answers₂, rfl⟩ := boundPort_eq_ok hbound
  rw [hinitialised.ephemeralPort] at hport
  obtain ⟨hs₁, answers₃, rfl⟩ := addToEpoll_eq_ok hlistening
  obtain ⟨hs₂, answers₄, rfl⟩ := addToEpoll_eq_ok hwaking
  rw [hs₁] at hs₂
  unfold addShutdownSignalToEpoll at hcall
  rw [hs₂] at hcall
  have hoptions := options_of_create hinitialised.config
  split at hcall
  · next hinvalid =>
      obtain ⟨hvalue, rfl⟩ := Scoped.pure_eq_ok hcall
      rw [hvalue]
      refine ⟨hinitialised.congr _ _ _, hport, ?_⟩
      have hnothing := hinitialised.signals.mp hinvalid
      rw [epoll_start, Server.startEpoll, hoptions, hnothing, List.isEmpty_nil, if_pos rfl, hnone]
      rfl
  · next hvalid =>
      obtain ⟨hvalue, answers₅, rfl⟩ := addToEpoll_eq_ok hcall
      rw [hvalue]
      refine ⟨hinitialised.congr _ _ _, hport, ?_⟩
      have hsome : ¬ options.shutdownSignals.isEmpty = true := fun hempty =>
        hvalid (hinitialised.signals.mpr (List.isEmpty_iff.mp hempty))
      rw [epoll_start, Server.startEpoll, hoptions, if_neg hsome, hnone]
      rfl

/-- `Restore` puts the mask back, and there is nothing left to restore. -/
theorem Initialised.restore {s : Members} (h : Initialised options handlerSet p s q)
    {r : Process}
    (hmask : r.mask = q.mask) :
    (s.signalMaskState.restore r).1.active = false ∧
      (s.signalMaskState.restore r).2 = { r with mask := p.mask } := by
  have hprevious := h.previous
  split at hprevious
  · next hempty =>
      rw [hprevious]
      refine ⟨rfl, ?_⟩
      have hsame := h.mask
      rw [List.isEmpty_iff.mp hempty, List.toFinset_nil, Finset.union_empty] at hsame
      rw [← hsame, ← hmask]
      rfl
  · rw [hprevious]
    exact ⟨rfl, rfl⟩

theorem Initialised.destroy {s : Members} (h : Initialised options handlerSet p s q)
    {later : Process} (hlater : q.Same later) : p.Same (s.destroy later) := by
  -- The body of the destructor.
  obtain ⟨hjoined, threads, hstop, hrest⟩ := s.workers.stop_spec later
  have hthreads := hrest p.threads (hlater.threads.trans h.threads)
  obtain ⟨hinactive, hrestore⟩ := h.restore (r := { later with threads }) hlater.mask
  unfold Members.destroy
  dsimp only
  rw [hstop]
  generalize s.signalMaskState.restore { later with threads } = restored at hinactive hrestore ⊢
  generalize (s.workers.stop later).1 = workers at hjoined ⊢
  rw [hrestore]
  -- The members.
  have hnone : threads.Perm (workers.threads ++ threads) := by
    rw [hjoined]
    exact .refl _
  obtain ⟨threads', hpool, hothers⟩ := Workers.destroyPool_of_perm
    (p := { later with threads, mask := p.mask }) hnone
  rw [hpool]
  have hopen := hlater.descriptors
  rw [h.descriptors, held, List.append_assoc, List.append_assoc, List.append_assoc] at hopen
  obtain ⟨_, hsignal, hopen⟩ := Process.destroyFd_of_perm
    (p := { later with threads := threads', mask := p.mask }) hopen
  rw [hsignal]
  obtain ⟨_, hwakeup, hopen⟩ := Process.destroyFd_of_perm
    (p := { later with threads := threads', mask := p.mask, descriptors := _ }) hopen
  rw [hwakeup, ShutdownSignalMaskState.destroy, ShutdownSignalMaskState.restore, hinactive,
    if_neg Bool.false_ne_true]
  obtain ⟨_, hepoll, hopen⟩ := Process.destroyFd_of_perm
    (p := { later with threads := threads', mask := p.mask, descriptors := _ }) hopen
  rw [hepoll]
  obtain ⟨_, hlistener, hopen⟩ := Process.destroyFd_of_perm
    (p := { later with threads := threads', mask := p.mask, descriptors := _ }) hopen
  rw [hlistener]
  exact ⟨hopen, rfl, hothers.trans hthreads, hlater.misused.trans h.misused⟩

end Members

end PulseCore.Network
