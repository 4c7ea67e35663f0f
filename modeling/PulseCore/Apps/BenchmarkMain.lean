/-
# The threads of the benchmark together

What the benchmark reports is of use only if the clients have started together, all of
them are through, and every time was measured. A client whose exchange with the server does
not end keeps the benchmark waiting; nothing else does.
-/

import PulseCore.Apps.BenchmarkThreads
import PulseCore.Foundation.Potential

namespace PulseCore.Apps.Benchmark

open PulseCore.Foundation PulseCore.Core PulseCore.Protocol PulseCore.Network

namespace Harness

variable {config : BenchmarkConfig} {s s' : Harness}

def clientRank : ClientThread → ℕ
  | .starting => 4
  | .waiting => 3
  | .running => 2
  | .failing _ _ => 1
  | .ended _ _ => 0

def mainRank (clients : ℕ) : MainThread → ℕ
  | .reserving => clients + 6
  | .sizing => clients + 5
  | .spawning => clients + 4
  | .waiting => clients + 3
  | .joining joined => clients - joined + 2
  | .stopping => 1
  | .unwinding _ => 1
  | .exited _ => 0
  | .terminated => 0

/-- How many more steps there can be. -/
def stepsLeft (config : BenchmarkConfig) (s : Harness) : ℕ :=
  5 * (config.clients.toNat - s.clients.length) + (s.clients.map clientRank).sum +
    mainRank config.clients.toNat s.main + (if s.server = none then 1 else 0)

variable (config) in
/-- A client that is somewhere else now. -/
theorem stepsLeft_set {index : ℕ} {old : ClientThread} (hold : s.clients[index]? = some old)
    (new : ClientThread) (readyClients : ℕ) (firstError : Option BenchmarkError) :
    stepsLeft config
        { s with
          clients := s.clients.set index new
          readyClients
          firstError } + clientRank old =
      stepsLeft config s + clientRank new := by
  have hsum := sum_map_set_add clientRank hold new
  simp only [stepsLeft, List.length_set]
  omega

/-- Whatever `main` was about to do, there is one step left for it. -/
theorem stepsLeft_unwind (config : BenchmarkConfig) (error : BenchmarkError) (s : Harness) :
    stepsLeft config (s.unwind error) + mainRank config.clients.toNat s.main =
      stepsLeft config s + 1 := by
  have hunwind : stepsLeft config (s.unwind error) =
      5 * (config.clients.toNat - s.clients.length) + (s.clients.map clientRank).sum + 1 +
        (if s.server = none then 1 else 0) := rfl
  rw [hunwind, stepsLeft]
  omega

/-- Where `RunClient` can leave a client, with the places it has written. -/
theorem clientOutcome_cases (config : BenchmarkConfig) (index : ℕ) (io : ClientIo) :
    clientOutcome config index io = .running ∨
    (∃ error, clientOutcome config index io = .failing error []) ∨
    ∃ run, runClient (UInt64.ofNat index) config io.recvs io.sends = .ok run ∧
      ((∃ error, clientOutcome config index io = .failing error run.latencies) ∨
      (run.result = .returned () ∧ clientOutcome config index io = .ended none run.latencies)) := by
  unfold clientOutcome
  cases io.connect with
  | some exception => exact .inr (.inl ⟨_, rfl⟩)
  | none =>
      cases hrun : runClient (UInt64.ofNat index) config io.recvs io.sends with
      | error error => exact .inr (.inl ⟨_, rfl⟩)
      | ok run =>
          cases hresult : run.result with
          | returned value => exact .inr (.inr ⟨run, rfl, .inr ⟨hresult, by simp only [hresult]⟩⟩)
          | threw exception =>
              exact .inr (.inr ⟨run, rfl, .inl ⟨_, by simp only [hresult]; rfl⟩⟩)
          | waiting => exact .inl (by simp only [hresult])

theorem clientRank_clientOutcome {index : ℕ} {io : ClientIo}
    (hdone : clientOutcome config index io ≠ .running) :
    clientRank (clientOutcome config index io) ≤ 1 := by
  rcases clientOutcome_cases config index io with hrunning | ⟨error, hout⟩ |
    ⟨run, -, ⟨error, hout⟩ | ⟨-, hout⟩⟩
  · exact absurd hrunning hdone
  · rw [hout]
    exact Nat.le_refl 1
  · rw [hout]
    exact Nat.le_refl 1
  · rw [hout]
    exact Nat.zero_le 1

/-! ## What holds in every state -/

/-- The places that a client has written. -/
def placesOf : ClientThread → List UInt64
  | .failing _ places => places
  | .ended _ places => places
  | _ => []

/-- The client has left the loop. -/
def isReleased : ClientThread → Bool
  | .starting => false
  | .waiting => false
  | _ => true

def isReady (client : ClientThread) : Bool := client ≠ .starting

/-- What `main` relies on where it stands. -/
def MainSound (config : BenchmarkConfig) (s : Harness) : MainThread → Prop
  | .reserving => s.start = false ∧ s.clients = []
  | .sizing => s.start = false ∧ s.clients = []
  | .spawning => s.start = false
  | .waiting => s.start = false ∧ s.clients.length = config.clients.toNat
  | .joining joined => s.start = true ∧ joined ≤ s.clients.length ∧
      ∀ client ∈ s.clients.take joined, client.hasEnded = true
  | .stopping => s.start = true ∧ s.stopRequested = true ∧
      ∀ client ∈ s.clients, client.hasEnded = true
  | .unwinding error => s.clients = [] ∧ s.stopRequested = true ∧ StartError config error
  | .exited error => ∃ outcome, s.server = some outcome ∧
      ((s.start = true ∧ (∀ client ∈ s.clients, client.hasEnded = true) ∧
        error = (outcome.map .network).or s.firstError) ∨
      (s.clients = [] ∧ ∃ cause, error = some cause ∧ StartError config cause))
  | .terminated => s.start = false ∧ s.clients ≠ [] ∧ s.clients.length < config.clients.toNat

structure Sound (config : BenchmarkConfig) (s : Harness) : Prop where
  count : s.clients.length ≤ config.clients.toNat
  ready : s.readyClients = s.clients.countP isReady
  /-- The flag is raised when all clients are ready. -/
  started : s.start = true → s.clients.length = config.clients.toNat ∧
    ∀ client ∈ s.clients, isReady client = true
  released : ∀ client ∈ s.clients, isReleased client = true → s.start = true
  main : MainSound config s s.main
  /-- The first error is that of a client, and there is one when a client has one. -/
  first : ∀ error, s.firstError = some error → ∃ places, .ended (some error) places ∈ s.clients
  recorded : s.firstError = none → ∀ error places, .ended (some error) places ∉ s.clients
  /-- Every client keeps to its own part of the vector, and fills it when it returns. -/
  places : ∀ index client, s.clients[index]? = some client →
    (placesOf client).map UInt64.toNat <+:
      List.range' (index * config.requestsPerClient.toNat) config.requestsPerClient.toNat
  complete : ∀ index places, s.clients[index]? = some (.ended none places) →
    places.map UInt64.toNat =
      List.range' (index * config.requestsPerClient.toNat) config.requestsPerClient.toNat

theorem sound_initial (config : BenchmarkConfig) : Sound config initial :=
  ⟨Nat.zero_le _, rfl, nofun, nofun, ⟨rfl, rfl⟩, nofun, fun _ _ _ => List.not_mem_nil, nofun, nofun⟩

section Client

variable {index : ℕ} {old new : ClientThread}

/-- The other clients are still there. -/
theorem mem_set_of_ne {client : ClientThread} (hold : s.clients[index]? = some old)
    (hmem : client ∈ s.clients) (hne : client ≠ old) : client ∈ s.clients.set index new := by
  obtain ⟨j, hj⟩ := List.mem_iff_getElem?.mp hmem
  apply List.mem_iff_getElem?.mpr
  refine ⟨j, ?_⟩
  rw [List.getElem?_set_ne, hj]
  rintro rfl
  rw [hold] at hj
  exact hne (Option.some.inj hj).symm

theorem mem_set_self (hold : s.clients[index]? = some old) : new ∈ s.clients.set index new := by
  obtain ⟨hindex, -⟩ := List.getElem?_eq_some_iff.mp hold
  exact List.mem_set hindex new

/-- What `main` relies on is not about a client that has not ended. -/
theorem MainSound.set (h : MainSound config s s.main) (hover : s.main.isOver = false)
    (hold : s.clients[index]? = some old) (hended : old.hasEnded = false) (readyClients : ℕ)
    (firstError : Option BenchmarkError) :
    MainSound config
      { s with
        clients := s.clients.set index new
        readyClients
        firstError } s.main := by
  have hmem := List.mem_of_getElem? hold
  have hnever : ∀ {clients : List ClientThread}, old ∈ clients →
      ¬ ∀ client ∈ clients, client.hasEnded = true := by
    intro clients hin hall
    rw [hall old hin] at hended
    cases hended
  cases hmain : s.main with
  | reserving | sizing =>
      rw [hmain] at h
      rw [h.2] at hmem
      cases hmem
  | spawning =>
      rw [hmain] at h
      exact h
  | waiting =>
      rw [hmain] at h
      exact ⟨h.1, (List.length_set ..).trans h.2⟩
  | joining joined =>
      rw [hmain] at h
      obtain ⟨hstart, hle, hjoined⟩ := h
      refine ⟨hstart, (List.length_set ..).symm ▸ hle, ?_⟩
      have hbehind : joined ≤ index := by
        by_contra hlt
        refine hnever ?_ hjoined
        apply List.mem_of_getElem? (i := index)
        rw [List.getElem?_take_of_lt (Nat.lt_of_not_le hlt), hold]
      rw [List.take_set_of_le hbehind]
      exact hjoined
  | stopping =>
      rw [hmain] at h
      exact absurd h.2.2 (hnever hmem)
  | unwinding error =>
      rw [hmain] at h
      rw [h.1] at hmem
      cases hmem
  | exited error =>
      rw [hmain] at hover
      cases hover
  | terminated =>
      rw [hmain] at hover
      cases hover

variable (new) in
/-- A client that has not ended may go on, when it is let go before it leaves the loop, and
keeps to its places. -/
theorem Sound.set (h : Sound config s) (hover : s.main.isOver = false)
    (hold : s.clients[index]? = some old) (hended : old.hasEnded = false)
    (hready : isReady new = true) (hreleased : isReleased new = true → s.start = true)
    (hplaces : (placesOf new).map UInt64.toNat <+:
      List.range' (index * config.requestsPerClient.toNat) config.requestsPerClient.toNat)
    (hcomplete : ∀ places, new = .ended none places → places.map UInt64.toNat =
      List.range' (index * config.requestsPerClient.toNat) config.requestsPerClient.toNat)
    {readyClients : ℕ} (hcount : readyClients + (isReady old).toNat = s.readyClients + 1)
    {firstError : Option BenchmarkError}
    (hfirst : ∀ error, firstError = some error → s.firstError = some error ∨
      ∃ places, new = .ended (some error) places)
    (hrecorded : firstError = none → s.firstError = none ∧
      ∀ error places, new ≠ .ended (some error) places) :
    Sound config
      { s with
        clients := s.clients.set index new
        readyClients
        firstError } := by
  have hcases : ∀ {j : ℕ} {client : ClientThread},
      (s.clients.set index new)[j]? = some client →
      (j = index ∧ client = new) ∨ s.clients[j]? = some client := by
    intro j client hj
    by_cases hsame : j = index
    · subst hsame
      obtain ⟨hindex, -⟩ := List.getElem?_eq_some_iff.mp hold
      rw [List.getElem?_set_self hindex] at hj
      exact .inl ⟨rfl, (Option.some.inj hj).symm⟩
    · rw [List.getElem?_set_ne (Ne.symm hsame)] at hj
      exact .inr hj
  refine ⟨?_, ?_, ?_, ?_, h.main.set hover hold hended readyClients firstError, ?_, ?_, ?_, ?_⟩
  · rw [List.length_set]
    exact h.count
  · have hset := countP_set_add isReady hold new
    rw [hready, Bool.toNat_true] at hset
    have hbefore := h.ready
    show readyClients = (s.clients.set index new).countP isReady
    omega
  · intro hstart
    obtain ⟨hlength, hall⟩ := h.started hstart
    refine ⟨(List.length_set ..).trans hlength, ?_⟩
    intro client hmem
    rcases List.mem_or_eq_of_mem_set hmem with hmem | rfl
    · exact hall client hmem
    · exact hready
  · intro client hmem hclient
    rcases List.mem_or_eq_of_mem_set hmem with hmem | rfl
    · exact h.released client hmem hclient
    · exact hreleased hclient
  · intro error herror
    rcases hfirst error herror with hbefore | ⟨places, rfl⟩
    · obtain ⟨places, hmem⟩ := h.first error hbefore
      refine ⟨places, mem_set_of_ne hold hmem ?_⟩
      rintro rfl
      cases hended
    · exact ⟨places, mem_set_self hold⟩
  · intro hnone error places hmem
    obtain ⟨hbefore, hnew⟩ := hrecorded hnone
    rcases List.mem_or_eq_of_mem_set hmem with hmem | heq
    · exact h.recorded hbefore error places hmem
    · exact hnew error places heq.symm
  · intro j client hj
    rcases hcases hj with ⟨rfl, rfl⟩ | hj
    · exact hplaces
    · exact h.places j client hj
  · intro j places hj
    rcases hcases hj with ⟨rfl, heq⟩ | hj
    · exact hcomplete places heq.symm
    · exact h.complete j places hj

end Client

/-- Whatever it is answered, a client writes the places of its first requests, and of all of
them when it returns. -/
theorem runRequests_latencies (config : BenchmarkConfig) (clientIndex : UInt64)
    (template : ClientRequestTemplate) (requests : ℕ) (requestIndex : UInt64)
    (recvs : List RecvResult) (sends : List SendResult) (decoder : FrameDecoder) {run : ClientRun}
    (hrun : runRequests config clientIndex template requests requestIndex recvs sends decoder =
      run) :
    run.latencies <+: (requestsFrom config clientIndex template requests requestIndex).map
        Message.requestId ∧
      (run.result = .returned () → run.latencies =
        (requestsFrom config clientIndex template requests requestIndex).map
          Message.requestId) := by
  induction requests generalizing requestIndex recvs sends decoder run with
  | zero =>
      subst hrun
      exact ⟨List.nil_prefix, fun _ => rfl⟩
  | succ requests ih =>
      unfold runRequests at hrun
      simp only at hrun
      split at hrun
      · subst hrun
        exact ⟨List.nil_prefix, fun hreturned => by cases hreturned⟩
      split at hrun
      · subst hrun
        exact ⟨List.nil_prefix, fun hreturned => by cases hreturned⟩
      · subst hrun
        exact ⟨List.nil_prefix, fun hreturned => by cases hreturned⟩
      · subst hrun
        exact ⟨List.nil_prefix, fun hreturned => by cases hreturned⟩
      · subst hrun
        exact ⟨List.nil_prefix, fun hreturned => by cases hreturned⟩
      · split at hrun
        · subst hrun
          exact ⟨List.nil_prefix, fun hreturned => by cases hreturned⟩
        · subst hrun
          obtain ⟨hplaces, hall⟩ := ih _ _ _ _ rfl
          rw [requestsFrom, List.map_cons]
          refine ⟨(List.prefix_cons_inj _).mpr hplaces, fun hreturned => ?_⟩
          exact congrArg (_ :: ·) (hall hreturned)

/-- These are places of its own part of the vector. -/
theorem places_runClient (hsize : config.clients.toNat * config.requestsPerClient.toNat ≤ kMaxSize)
    {index : ℕ} (hindex : index < config.clients.toNat) {recvs : List RecvResult}
    {sends : List SendResult} {run : ClientRun}
    (hrun : runClient (UInt64.ofNat index) config recvs sends = .ok run) :
    run.latencies.map UInt64.toNat <+:
        List.range' (index * config.requestsPerClient.toNat) config.requestsPerClient.toNat ∧
      (run.result = .returned () → run.latencies.map UInt64.toNat =
        List.range' (index * config.requestsPerClient.toNat) config.requestsPerClient.toNat) := by
  have hofNat : (UInt64.ofNat index).toNat = index :=
    UInt64.toNat_ofNat_of_lt' (Nat.lt_trans hindex config.clients.toNat_lt)
  unfold runClient at hrun
  split at hrun
  · cases hrun
  next template _ =>
  have hids : ((requestsFrom config (UInt64.ofNat index) template
      config.requestsPerClient.toNat 0).map Message.requestId).map UInt64.toNat =
        List.range' (index * config.requestsPerClient.toNat)
          config.requestsPerClient.toNat := by
    have hfits : (0 : UInt64).toNat + config.requestsPerClient.toNat ≤
        config.requestsPerClient.toNat := Nat.le_of_eq (Nat.zero_add _)
    have hrange : (requestsFrom config (UInt64.ofNat index) template
        config.requestsPerClient.toNat 0).map (fun request => request.requestId.toNat) = _ :=
      requestIds_requestsFrom (hofNat.symm ▸ hindex) hsize config.requestsPerClient.toNat hfits
    rw [hofNat] at hrange
    rw [List.map_map]
    exact hrange
  obtain ⟨hplaces, hall⟩ := runRequests_latencies _ _ _ _ _ _ _ _ (Except.ok.inj hrun)
  rw [← hids]
  exact ⟨hplaces.map _, fun hreturned => congrArg _ (hall hreturned)⟩

/-- Nothing else than where `main` stands, and what only `main` looks at, has changed. -/
theorem Sound.congr (h : Sound config s) {main : MainThread} {stopRequested : Bool}
    {server : Option (Option Exception)}
    (hmain : MainSound config { s with main, stopRequested, server } main) :
    Sound config { s with main, stopRequested, server } :=
  ⟨h.count, h.ready, h.started, h.released, hmain, h.first, h.recorded, h.places, h.complete⟩

theorem Sound.spawn (h : Sound config s) (hmain : s.main = .spawning)
    (hroom : s.clients.length < config.clients.toNat) :
    Sound config { s with clients := s.clients ++ [.starting] } := by
  have hstart : s.start = false := by
    have hphase := h.main
    rw [hmain] at hphase
    exact hphase
  have hold : ∀ {client : ClientThread}, client ∈ s.clients ++ [.starting] →
      client ∈ s.clients ∨ client = .starting := by
    intro client hmem
    rcases List.mem_append.mp hmem with hmem | hmem
    · exact .inl hmem
    · exact .inr (List.mem_singleton.mp hmem)
  have hcases : ∀ {j : ℕ} {client : ClientThread},
      (s.clients ++ [.starting])[j]? = some client →
      s.clients[j]? = some client ∨ client = .starting := by
    intro j client hj
    by_cases hlt : j < s.clients.length
    · rw [List.getElem?_append_left hlt] at hj
      exact .inl hj
    · rw [List.getElem?_append_right (Nat.le_of_not_lt hlt)] at hj
      exact .inr (List.mem_singleton.mp (List.mem_of_getElem? hj))
  refine ⟨?_, ?_, ?_, ?_, ?_, ?_, ?_, ?_, ?_⟩
  · rw [List.length_append, List.length_singleton]
    exact hroom
  · rw [List.countP_append, ← h.ready]
    rfl
  · intro hset
    exact absurd hset (by rw [hstart]; decide)
  · intro client hmem hreleased
    rcases hold hmem with hmem | rfl
    · exact h.released client hmem hreleased
    · cases hreleased
  · rw [hmain]
    exact hstart
  · intro error herror
    obtain ⟨places, hmem⟩ := h.first error herror
    exact ⟨places, List.mem_append_left _ hmem⟩
  · intro hnone error places hmem
    rcases hold hmem with hmem | heq
    · exact h.recorded hnone error places hmem
    · cases heq
  · intro j client hj
    rcases hcases hj with hj | rfl
    · exact h.places j client hj
    · exact List.nil_prefix
  · intro j places hj
    rcases hcases hj with hj | heq
    · exact h.complete j places hj
    · cases heq

/-- The flag is raised when every client is ready. -/
theorem Sound.release (h : Sound config s) (hmain : s.main = .waiting)
    (hready : ¬ s.readyClients < config.clients.toNat) :
    Sound config { s with main := .joining 0, start := true } := by
  have hphase := h.main
  rw [hmain] at hphase
  have hcount : s.clients.countP isReady = s.clients.length := by
    have hle := List.countP_le_length (p := isReady) (l := s.clients)
    have hbefore := h.ready
    have hlength := hphase.2
    omega
  refine ⟨h.count, h.ready, ?_, fun _ _ _ => rfl, ?_, h.first, h.recorded, h.places, h.complete⟩
  · exact fun _ => ⟨hphase.2, List.countP_eq_length.mp hcount⟩
  · exact ⟨rfl, Nat.zero_le _, nofun⟩

theorem Sound.stepped (h : Sound config s) (hover : s.main.isOver = false)
    (hsize : config.clients.toNat * config.requestsPerClient.toNat ≤ kMaxSize)
    (hstepped : Stepped config s s') : Sound config s' := by
  have hphase := h.main
  have hindex : ∀ {index : ℕ} {client : ClientThread}, s.clients[index]? = some client →
      index < config.clients.toNat := by
    intro index client hclient
    obtain ⟨hlt, -⟩ := List.getElem?_eq_some_iff.mp hclient
    exact Nat.lt_of_lt_of_le hlt h.count
  cases hstepped with
  | spawn hmain hroom => exact h.spawn hmain hroom
  | spawned hmain hall =>
      rw [hmain] at hphase
      exact h.congr ⟨hphase, Nat.le_antisymm h.count (Nat.le_of_not_lt hall)⟩
  | reserved hmain =>
      rw [hmain] at hphase
      exact h.congr hphase
  | sized hmain =>
      rw [hmain] at hphase
      exact h.congr hphase.1
  | noRoom hmain herror =>
      have hnone : s.clients = [] := by
        rcases hmain with hmain | hmain
        · rw [hmain] at hphase
          exact hphase.2
        · rw [hmain] at hphase
          exact hphase.2
      exact h.congr ⟨hnone, rfl, herror⟩
  | spawnFailed hmain hroom hnone herror => exact h.congr ⟨hnone, rfl, herror⟩
  | terminate hmain hroom hsome =>
      rw [hmain] at hphase
      exact h.congr ⟨hphase, hsome, hroom⟩
  | release hmain hready => exact h.release hmain hready
  | @join joined client hmain hclient hended =>
      rw [hmain] at hphase
      obtain ⟨hstart, hle, hjoined⟩ := hphase
      obtain ⟨hlt, heq⟩ := List.getElem?_eq_some_iff.mp hclient
      refine h.congr ⟨hstart, hlt, ?_⟩
      rw [List.take_add_one, hclient]
      intro other hmem
      rcases List.mem_append.mp hmem with hmem | hmem
      · exact hjoined other hmem
      · cases List.mem_singleton.mp hmem
        exact hended
  | @joinedAll joined hmain hnone =>
      rw [hmain] at hphase
      obtain ⟨hstart, hle, hjoined⟩ := hphase
      rw [List.take_of_length_le (List.getElem?_eq_none_iff.mp hnone)] at hjoined
      exact h.congr ⟨hstart, rfl, hjoined⟩
  | @exit outcome hmain hserver =>
      rw [hmain] at hphase
      exact h.congr ⟨outcome, hserver, .inl ⟨hphase.1, hphase.2.2, rfl⟩⟩
  | @unwound error outcome hmain hserver =>
      rw [hmain] at hphase
      exact h.congr ⟨outcome, hserver, .inr ⟨hphase.1, error, rfl, hphase.2.2⟩⟩
  | @ready index hclient =>
      exact h.set .waiting hover hclient rfl rfl nofun List.nil_prefix nofun (Nat.add_zero _)
        (fun error herror => .inl herror) fun hnone => ⟨hnone, nofun⟩
  | @go index hclient hstart =>
      exact h.set .running hover hclient rfl rfl (fun _ => hstart) List.nil_prefix nofun rfl
        (fun error herror => .inl herror) fun hnone => ⟨hnone, nofun⟩
  | @finish index hclient io hdone =>
      have hstart := h.released _ (List.mem_of_getElem? hclient) rfl
      rcases clientOutcome_cases config index io with hrunning | ⟨error, hout⟩ |
        ⟨run, hrun, ⟨error, hout⟩ | ⟨hreturned, hout⟩⟩
      · exact absurd hrunning hdone
      · rw [hout]
        exact h.set (.failing error []) hover hclient rfl rfl (fun _ => hstart) List.nil_prefix
          nofun rfl (fun error herror => .inl herror) fun hnone => ⟨hnone, nofun⟩
      · rw [hout]
        have hplaces := (places_runClient hsize (hindex hclient) hrun).1
        exact h.set (.failing error run.latencies) hover hclient rfl rfl (fun _ => hstart) hplaces
          nofun rfl (fun error herror => .inl herror) fun hnone => ⟨hnone, nofun⟩
      · rw [hout]
        obtain ⟨hplaces, hall⟩ := places_runClient hsize (hindex hclient) hrun
        refine h.set (.ended none run.latencies) hover hclient rfl rfl (fun _ => hstart) hplaces
          ?_ rfl (fun error herror => .inl herror) fun hnone => ⟨hnone, nofun⟩
        rintro places heq
        cases heq
        exact hall hreturned
  | @record index error places hclient =>
      have hstart := h.released _ (List.mem_of_getElem? hclient) rfl
      have hplaces := h.places index _ hclient
      refine h.set (.ended (some error) places) hover hclient rfl rfl (fun _ => hstart) hplaces
        nofun rfl ?_ ?_
      · intro first hfirst
        split at hfirst
        · cases hfirst
          exact .inr ⟨places, rfl⟩
        · exact .inl hfirst
      · intro hnone
        split at hnone
        · cases hnone
        · next hsome => exact absurd hnone hsome
  | @serve outcome hserver hstopped =>
      refine h.congr ?_
      cases hmain : s.main with
      | exited error =>
          rw [hmain] at hover
          cases hover
      | _ =>
          rw [hmain] at hphase
          exact hphase

theorem Sound.step (h : Sound config s)
    (hsize : config.clients.toNat * config.requestsPerClient.toNat ≤ kMaxSize)
    (action : HarnessAction) : Sound config (s.step config action) := by
  rcases step_cases config s action with hsame | ⟨hover, hstepped⟩
  · rw [hsame]
    exact h
  · exact h.stepped hover hsize hstepped

theorem sound_run (hsize : config.clients.toNat * config.requestsPerClient.toNat ≤ kMaxSize)
    (actions : List HarnessAction) : Sound config (run config actions) :=
  List.foldlRecOn actions _ (sound_initial config) fun _ h action _ => h.step hsize action

/-- A step that changes something brings the end nearer. -/
theorem stepsLeft_stepped (h : Sound config s) (hstepped : Stepped config s s') :
    stepsLeft config s' < stepsLeft config s := by
  cases hstepped with
  | spawn hmain hroom =>
      simp only [stepsLeft, List.length_append, List.length_singleton, List.map_append,
        List.sum_append, List.map_singleton, List.sum_singleton, clientRank]
      omega
  | reserved hmain | sized hmain | spawned hmain | terminate hmain | release hmain | exit hmain
  | unwound hmain =>
      simp only [stepsLeft, hmain, mainRank]
      omega
  | @spawnFailed error hmain =>
      have hunwind := stepsLeft_unwind config error s
      rw [hmain, mainRank] at hunwind
      omega
  | @noRoom error hmain =>
      have hunwind := stepsLeft_unwind config error s
      rcases hmain with hmain | hmain
      · rw [hmain, mainRank] at hunwind
        omega
      · rw [hmain, mainRank] at hunwind
        omega
  | @join joined client hmain hclient hended =>
      obtain ⟨hlt, -⟩ := List.getElem?_eq_some_iff.mp hclient
      have hcount := h.count
      simp only [stepsLeft, hmain, mainRank]
      omega
  | joinedAll hmain =>
      simp only [stepsLeft, hmain, mainRank]
      omega
  | @ready index hclient =>
      have hset := stepsLeft_set config hclient .waiting (s.readyClients + 1)
        s.firstError
      simp only [clientRank] at hset
      omega
  | @go index hclient hstart =>
      have hset := stepsLeft_set config hclient .running s.readyClients s.firstError
      simp only [clientRank] at hset
      omega
  | @finish index hclient io hdone =>
      have hset := stepsLeft_set config hclient (clientOutcome config index io)
        s.readyClients s.firstError
      have hrank := clientRank_clientOutcome hdone
      have hrunning : clientRank .running = 2 := rfl
      omega
  | @record index error places hclient =>
      have hset := stepsLeft_set config hclient (.ended (some error) places)
        s.readyClients (if s.firstError = none then some error else s.firstError)
      simp only [clientRank] at hset
      omega
  | serve hserver =>
      simp only [stepsLeft, hserver, if_true, reduceCtorEq, if_false]
      omega

theorem stepCost_add_stepsLeft_le (h : Sound config s) (action : HarnessAction) :
    stepCost config s action + stepsLeft config (s.step config action) ≤
      stepsLeft config s + 0 := by
  unfold stepCost
  split
  · next hsame =>
      rw [hsame]
      omega
  · next hchanged =>
      rcases step_cases config s action with hsame | ⟨-, hstepped⟩
      · exact absurd hsame hchanged
      · have hless := stepsLeft_stepped h hstepped
        omega

theorem ne_of_stepped (h : Sound config s) (hstepped : Stepped config s s') : s' ≠ s := by
  rintro rfl
  exact absurd (stepsLeft_stepped h hstepped) (Nat.lt_irrefl _)

theorem step_eq (hover : s.main.isOver = false) (action : HarnessAction) :
    s.step config action = match action with
      | .main => s.mainStep config
      | .spawnFails error => s.spawnFailsStep config (.systemError error)
      | .memoryFails => s.memoryFailsStep config
      | .client index io => s.clientStep config index io
      | .server error => s.serverStep error :=
  if_neg (by rw [hover]; exact Bool.false_ne_true)

/-- A client that neither has ended nor is running goes on, when it need not wait. -/
theorem exists_client_step (h : Sound config s) (hover : s.main.isOver = false)
    {client : ClientThread} (hmem : client ∈ s.clients) (hended : client.hasEnded = false)
    (hrunning : client ≠ .running) (hwaiting : client = .waiting → s.start = true) :
    ∃ action, s.step config action ≠ s := by
  obtain ⟨index, hclient⟩ := List.mem_iff_getElem?.mp hmem
  refine ⟨.client index {}, ne_of_stepped h ?_⟩
  rw [step_eq hover]
  cases client with
  | starting =>
      simp only [clientStep, hclient]
      exact .ready hclient
  | waiting =>
      simp only [clientStep, hclient, if_pos (hwaiting rfl)]
      exact .go hclient (hwaiting rfl)
  | running => exact absurd rfl hrunning
  | failing error places =>
      simp only [clientStep, hclient]
      exact .record hclient
  | ended error places => cases hended

/-- The thread of the server ends when it is asked to, and then it can be joined. -/
theorem exists_server_step (h : Sound config s) (hover : s.main.isOver = false)
    (hstopped : s.stopRequested = true) (hserver : s.server = none) :
    ∃ action, s.step config action ≠ s := by
  refine ⟨.server none, ne_of_stepped h ?_⟩
  rw [step_eq hover]
  simp only [serverStep, hserver, if_pos hstopped]
  exact .serve hserver fun _ => hstopped

theorem exists_step (h : Sound config s) (hover : s.main.isOver = false)
    (hidle : .running ∉ s.clients) : ∃ action, s.step config action ≠ s := by
  have hphase := h.main
  have hmainStep : Stepped config s (s.mainStep config) → ∃ action, s.step config action ≠ s := by
    intro hstepped
    refine ⟨.main, ne_of_stepped h ?_⟩
    rw [step_eq hover]
    exact hstepped
  cases hmain : s.main with
  | reserving =>
      apply hmainStep
      by_cases hcount : config.clients.toNat > kMaxVectorSize
      · simp only [mainStep, hmain, if_pos hcount]
        exact .noRoom (.inl hmain) (.tooManyClients hcount)
      · simp only [mainStep, hmain, if_neg hcount]
        exact .reserved hmain
  | sizing =>
      apply hmainStep
      by_cases hcount : latencyCount config > kMaxVectorSize
      · simp only [mainStep, hmain, if_pos hcount]
        exact .noRoom (.inr hmain) (.tooManyTimes hcount)
      · simp only [mainStep, hmain, if_neg hcount]
        exact .sized hmain
  | spawning =>
      apply hmainStep
      by_cases hroom : s.clients.length < config.clients.toNat
      · simp only [mainStep, hmain, if_pos hroom]
        rw [← hmain]
        exact .spawn hmain hroom
      · simp only [mainStep, hmain, if_neg hroom]
        exact .spawned hmain hroom
  | waiting =>
      rw [hmain] at hphase
      by_cases hready : s.readyClients < config.clients.toNat
      · rw [h.ready, ← hphase.2] at hready
        have hsome : ¬ ∀ client ∈ s.clients, isReady client = true := fun hall =>
          absurd (List.countP_eq_length.mpr hall) (Nat.ne_of_lt hready)
        push Not at hsome
        obtain ⟨client, hmem, hclient⟩ := hsome
        have hstarting : client = .starting := by
          rw [isReady, ne_eq, decide_eq_true_eq, not_not] at hclient
          exact hclient
        rw [hstarting] at hmem
        exact exists_client_step h hover hmem rfl nofun nofun
      · apply hmainStep
        simp only [mainStep, hmain, if_neg hready]
        exact .release hmain hready
  | joining joined =>
      rw [hmain] at hphase
      cases hclient : s.clients[joined]? with
      | none =>
          apply hmainStep
          simp only [mainStep, hmain, hclient]
          exact .joinedAll hmain hclient
      | some client =>
          cases hended : client.hasEnded with
          | true =>
              apply hmainStep
              simp only [mainStep, hmain, hclient, if_pos hended]
              exact .join hmain hclient hended
          | false =>
              have hmem := List.mem_of_getElem? hclient
              refine exists_client_step h hover hmem hended ?_ fun _ => hphase.1
              rintro rfl
              exact hidle hmem
  | stopping =>
      rw [hmain] at hphase
      cases hserver : s.server with
      | none => exact exists_server_step h hover hphase.2.1 hserver
      | some outcome =>
          apply hmainStep
          cases outcome with
          | none | some _ =>
              simp only [mainStep, hmain, hserver]
              rw [← hserver]
              exact .exit hmain hserver
  | unwinding error =>
      rw [hmain] at hphase
      cases hserver : s.server with
      | none => exact exists_server_step h hover hphase.2.1 hserver
      | some outcome =>
          apply hmainStep
          simp only [mainStep, hmain, hserver]
          rw [← hserver]
          exact .unwound hmain hserver
  | exited _ | terminated =>
      rw [hmain] at hover
      cases hover

/-- What the clients have written when all have returned. -/
theorem Sound.places_all (h : Sound config s) (hstart : s.start = true)
    (hreturned : ∀ client ∈ s.clients, ∃ places, client = .ended none places) :
    (s.clients.flatMap fun client => (placesOf client).map UInt64.toNat) =
      List.range (config.clients.toNat * config.requestsPerClient.toNat) := by
  have hlength := (h.started hstart).1
  rw [← flatMap_range', List.flatMap_def, List.flatMap_def]
  refine congrArg List.flatten (List.ext_getElem ?_ ?_)
  · rw [List.length_map, List.length_map, List.length_range, hlength]
  · intro index hindex hrange
    rw [List.getElem_map, List.getElem_map, List.getElem_range]
    rw [List.length_map] at hindex
    obtain ⟨places, hplaces⟩ := hreturned _ (List.getElem_mem hindex)
    rw [hplaces]
    refine h.complete index places ?_
    rw [List.getElem?_eq_getElem hindex, hplaces]

/-- `main` has come to its end. -/
theorem Sound.exited (h : Sound config s) {error : Option BenchmarkError}
    (hexited : s.main = .exited error) :
    (∀ client ∈ s.clients, client.hasEnded = true) ∧
    (error = none → s.server = some none ∧
      (s.clients.flatMap fun client => (placesOf client).map UInt64.toNat) =
        List.range (config.clients.toNat * config.requestsPerClient.toNat)) ∧
    ∀ cause, error = some cause →
      (∃ exception, s.server = some (some exception) ∧ cause = .network exception) ∨
      (∃ places, .ended (some cause) places ∈ s.clients) ∨
      (s.clients = [] ∧ StartError config cause) := by
  have hphase := h.main
  rw [hexited] at hphase
  obtain ⟨outcome, hserver, ⟨hstart, hended, herror⟩ | ⟨hnone, _, rfl, hstart⟩⟩ := hphase
  · refine ⟨hended, ?_, ?_⟩
    · intro hquiet
      rw [herror, Option.or_eq_none_iff, Option.map_eq_none_iff] at hquiet
      rw [hquiet.1] at hserver
      refine ⟨hserver, h.places_all hstart fun client hmem => ?_⟩
      cases client with
      | ended failure places =>
          cases failure with
          | none => exact ⟨places, rfl⟩
          | some failure => exact absurd hmem (h.recorded hquiet.2 failure places)
      | _ => cases hended _ hmem
    · intro cause hcause
      rw [herror] at hcause
      cases outcome with
      | some exception =>
          cases hcause
          exact .inl ⟨exception, hserver, rfl⟩
      | none => exact .inr (.inl (h.first cause hcause))
  · rw [hnone]
    refine ⟨fun _ hmem => absurd hmem List.not_mem_nil, fun hquiet => ?_, fun cause hcause => ?_⟩
    · cases hquiet
    · cases hcause
      exact .inr (.inr ⟨rfl, hstart⟩)

/-- The process is lost before any client is let go. -/
theorem Sound.terminated (h : Sound config s) (hterminated : s.main = .terminated) :
    s.clients ≠ [] ∧ s.clients.length < config.clients.toNat ∧
      ∀ client ∈ s.clients, isReleased client = false := by
  have hphase := h.main
  rw [hterminated] at hphase
  refine ⟨hphase.2.1, hphase.2.2, fun client hmem => ?_⟩
  cases hreleased : isReleased client with
  | false => rfl
  | true =>
      have hstart := h.released client hmem hreleased
      rw [hphase.1] at hstart
      cases hstart

theorem stepsLeft_initial (config : BenchmarkConfig) :
    stepsLeft config initial = 6 * config.clients.toNat + 7 := by
  simp only [stepsLeft, initial, mainRank, List.length_nil, List.map_nil, List.sum_nil, if_true]
  omega

end Harness

/-- Take any configuration that the benchmark accepts, any order in which its threads go on,
and anything that the kernel and the server do. No client leaves the start before all have
arrived there. Clients write to places of their own only, all of them inside the vector. When
`main` comes to its end all clients have ended; it reports times only if the server and all
clients have returned, and then every place was written exactly once; an error that it
reports is one of the server or of a client, or there is no client, and it is about the room
for the vectors or about the first thread. The process is terminated only while clients are
started, before any of them is let go. Until it is over some thread can go on, if no client
is running; and every run has at most six steps for each client, and seven more, that change
anything. -/
theorem benchmark_coordinated {hardwareConcurrency : UInt32} {argv : List (List Byte)}
    {benchmark : BenchmarkConfig} (hparse : parseArgs hardwareConcurrency argv = .ok benchmark)
    (actions : List HarnessAction) :
    let s := Harness.run benchmark actions
    let clients := benchmark.clients.toNat
    let requests := benchmark.requestsPerClient.toNat
    (∀ client ∈ s.clients, Harness.isReleased client = true →
      s.clients.length = clients ∧ ∀ other ∈ s.clients, Harness.isReady other = true) ∧
    (∀ index client, s.clients[index]? = some client → index < clients ∧
      (Harness.placesOf client).map UInt64.toNat <+: List.range' (index * requests) requests) ∧
    (∀ error, s.main = .exited error →
      (∀ client ∈ s.clients, client.hasEnded = true) ∧
      (error = none → s.server = some none ∧
        (s.clients.flatMap fun client => (Harness.placesOf client).map UInt64.toNat) =
          List.range (clients * requests)) ∧
      ∀ cause, error = some cause →
        (∃ exception, s.server = some (some exception) ∧ cause = .network exception) ∨
        (∃ places, .ended (some cause) places ∈ s.clients) ∨
        (s.clients = [] ∧ Harness.StartError benchmark cause)) ∧
    (s.main = .terminated → s.clients ≠ [] ∧ s.clients.length < clients ∧
      ∀ client ∈ s.clients, Harness.isReleased client = false) ∧
    (s.main.isOver = true ∨ .running ∈ s.clients ∨ ∃ action, s.step benchmark action ≠ s) ∧
    tally (Harness.step benchmark) (Harness.stepCost benchmark) .initial actions ≤
      6 * clients + 7 := by
  intro s clients requests
  have hsize := (parseArgs_sizes hparse).2
  have h : Harness.Sound benchmark s := Harness.sound_run hsize actions
  refine ⟨?_, ?_, fun error hexited => h.exited hexited, h.terminated, ?_, ?_⟩
  · intro client hmem hreleased
    exact h.started (h.released client hmem hreleased)
  · intro index client hclient
    obtain ⟨hlt, -⟩ := List.getElem?_eq_some_iff.mp hclient
    exact ⟨Nat.lt_of_lt_of_le hlt h.count, h.places index client hclient⟩
  · by_cases hover : s.main.isOver = true
    · exact .inl hover
    · by_cases hrunning : .running ∈ s.clients
      · exact .inr (.inl hrunning)
      · exact .inr (.inr (Harness.exists_step h (Bool.not_eq_true _ ▸ hover) hrunning))
  · have hpaid := tally_le_of_potential (Harness.Sound benchmark) (Harness.stepsLeft benchmark)
      (fun s action h => h.step hsize action)
      (fun s action h => Harness.stepCost_add_stepsLeft_le h action)
      (Harness.sound_initial benchmark) actions
    rw [tally_zero, Harness.stepsLeft_initial] at hpaid
    omega

namespace Sample

/-- The second client is there first, and is through first; the times are reported. -/
def threads : List HarnessAction :=
  [.main, .main, .main, .main, .client 1 {}, .main, .client 0 {}, .main, .client 1 {},
    .client 0 {}, .client 1 { recvs := [.received (response 2 1), .received (response 3 1)] },
    .client 0 { recvs := [.received (response 0 0), .received (response 1 0)] }, .main, .main,
    .main, .server none, .main]

end Sample

/-- The four places of the two clients were written. -/
theorem benchmark_coordinated_sample :
    (Harness.run Sample.benchmark Sample.threads).main = .exited none ∧
      ((Harness.run Sample.benchmark Sample.threads).clients.flatMap fun client =>
        (Harness.placesOf client).map UInt64.toNat) = [0, 1, 2, 3] := by
  have hexited : (Harness.run Sample.benchmark Sample.threads).main = .exited none := by
    decide +kernel
  obtain ⟨-, -, hreports, -⟩ := benchmark_coordinated Sample.parseArgs_args Sample.threads
  exact ⟨hexited, ((hreports none hexited).2.1 rfl).2⟩

end PulseCore.Apps.Benchmark
