/-
# Responses

What a client may rely on, for every run of the server: the bytes it is sent are
the responses to its own requests, each of them whole, in order and once; no
request is lost or answered twice on the way; and a client that closes its side
gets every answer before its connection is closed.
-/

import PulseCore.Traffic.Refinement

namespace PulseCore.Network

open PulseCore.Foundation PulseCore.Core PulseCore.Protocol PulseCore.Traffic
open Server (run)

variable {config : ServerConfig} {descriptors : Descriptors} {actions : List Action}
  {id : ConnectionId} {c : Connection} {f : ConnectionFlow} {touched : Set ConnectionId}
  {a a' : Activation}

/-- After every run, the books of a live connection. -/
theorem run_sessionInv
    (hlive : (run config descriptors actions).live id = some (c, f))
    (hcount : ((run config descriptors actions).pipeline.requestsOf id).length < UInt64.size) :
    ∃ a : Activation, a.server = run config descriptors actions ∧ a.AtRest ∧
      Parsed a.view id ∧
      SessionInv config a.view id ⟨c.undecoded, a.inbox id, c.unsent, f⟩ := by
  obtain ⟨a, ha, hrest, -, hsound⟩ := run_sound config descriptors actions
  rw [← ha] at hlive hcount
  exact ⟨a, ha, hrest, hsound.parsed id,
    (hsound.connection id hcount).live _ (view_sessions hlive)⟩

/-- What was sent on a live connection, followed by what is still to be sent, is
the encoding of the responses to the first frames that were received on it. -/
theorem response_stream (config : ServerConfig) (descriptors : Descriptors)
    (actions : List Action) (id : ConnectionId) (c : Connection) (f : ConnectionFlow)
    (hlive : (run config descriptors actions).live id = some (c, f))
    (hcount : ((run config descriptors actions).pipeline.requestsOf id).length < UInt64.size) :
    let socket := (run config descriptors actions).sockets id.value
    let requests := frameFormat.frames socket.received
    f.nextResponseSequence.toNat ≤ requests.length ∧
    encodeAll ((requests.take f.nextResponseSequence.toNat).map
      (respond config.options.handler)) = some (socket.sent ++ c.unsent) := by
  obtain ⟨a, ha, -, hparsed, hinv⟩ := run_sessionInv hlive hcount
  intro socket requests
  have hwire : a.view.wires id = socket.wire := by
    show (a.server.sockets id.value).wire = _
    rw [ha]
  have hframes : a.view.requests id <+: requests := by
    have hframes := hparsed.frames
    rw [hwire] at hframes
    exact hframes
  have hanswered : f.nextResponseSequence.toNat ≤ (a.view.requests id).length :=
    hinv.flow.requests ▸ hinv.flow.ordered
  have htake : requests.take f.nextResponseSequence.toNat =
      (a.view.requests id).take f.nextResponseSequence.toNat := by
    obtain ⟨later, hlater⟩ := hframes
    rw [← hlater, List.take_append_of_le_length hanswered]
  refine ⟨Nat.le_trans hanswered hframes.length_le, ?_⟩
  have houtput := hinv.stream.output
  rw [hwire] at houtput
  rw [htake]
  exact houtput

/-- The responses to two requests, the second of which was finished first, are on their
way. -/
theorem response_stream_sample :
    ∃ id c f,
      (run Server.Sample.config Server.Sample.descriptors Server.Sample.caughtUp).live id =
        some (c, f) ∧
      encodeAll
        (((frameFormat.frames
            ((run Server.Sample.config Server.Sample.descriptors Server.Sample.caughtUp).sockets
              id.value).received).take f.nextResponseSequence.toNat).map
          (respond Server.Sample.config.options.handler)) =
        some (((run Server.Sample.config Server.Sample.descriptors Server.Sample.caughtUp).sockets
          id.value).sent ++ c.unsent) := by
  have hsome : ((run Server.Sample.config Server.Sample.descriptors
      Server.Sample.caughtUp).live ⟨1⟩).isSome = true := by decide +kernel
  obtain ⟨⟨c, f⟩, hlive⟩ := Option.isSome_iff_exists.mp hsome
  exact ⟨⟨1⟩, c, f, hlive, (response_stream _ _ _ _ c f hlive (by decide +kernel)).2⟩

/-! ## Conservation -/

/-- How often a request is found in the places where it can be: the queue, the
hands of the workers, the completed work, the batch, and the reorder map. -/
def Server.occurrences (s : Server) (id : ConnectionId) (f : ConnectionFlow) (n : UInt64) : ℕ :=
  (s.pipeline.queue.items.map WorkItem.key).count (id, n) +
    ((s.pipeline.workers.filterMap Worker.held).map WorkItem.key).count (id, n) +
    (s.pipeline.completedWork.map WorkResult.key).count (id, n) +
    (s.phase.batch.map WorkResult.key).count (id, n) +
    f.completedResponses.keys.count n

theorem count_sequencesOf (id : ConnectionId) (n : UInt64) (keys : List WorkKey) :
    (sequencesOf id keys).count n = keys.count (id, n) := by
  induction keys with
  | nil => rfl
  | cons key keys ih =>
      obtain ⟨other, m⟩ := key
      by_cases hid : other = id
      · subst hid
        rw [sequencesOf_cons_self, List.count_cons, List.count_cons, ih]
        simp
      · rw [sequencesOf_cons_of_ne hid, ih, List.count_cons_of_ne]
        intro heq
        exact hid (congrArg Prod.fst heq)

/-- Counting in the five places is counting in the ledger. -/
theorem occurrences_eq (hbatch : a.batch = a.server.phase.batch) (n : UInt64) :
    a.server.occurrences id f n = (ledger a.view id f).count n := by
  rw [ledger, List.count_append, count_sequencesOf]
  show _ = ((a.server.pipeline.keys ++ a.batch.map WorkResult.key).count (id, n)) + _
  rw [hbatch, Server.occurrences, Pipeline.keys, Pipeline.items]
  simp only [List.map_append, List.count_append]

/-- A request of a live connection that is submitted and not answered in order is
in exactly one place, and nothing else is anywhere. A result that is delivered
never meets an entry in the reorder map. -/
theorem pipeline_conservation (config : ServerConfig) (descriptors : Descriptors)
    (actions : List Action) (id : ConnectionId) (c : Connection) (f : ConnectionFlow)
    (hphase : (run config descriptors actions).phase.hasFailed = false)
    (hlive : (run config descriptors actions).live id = some (c, f))
    (hcount : ((run config descriptors actions).pipeline.requestsOf id).length < UInt64.size) :
    (∀ n, (run config descriptors actions).occurrences id f n =
      if f.nextResponseSequence ≤ n ∧ n < f.nextRequestSequence then 1 else 0) ∧
    ∀ result ∈ (run config descriptors actions).phase.batch, result.connectionId = id →
      result.sequence ∉ f.completedResponses := by
  obtain ⟨a, ha, hrest, -, hinv⟩ := run_sessionInv hlive hcount
  rw [← ha] at hphase ⊢
  have hbatch := (hrest hphase).2.1
  have honce := hinv.flow.once
  refine ⟨?_, ?_⟩
  · intro n
    classical
    rw [occurrences_eq hbatch, honce.count_eq n]
    refine if_congr ?_ rfl rfl
    rw [UInt64.le_iff_toNat_le, UInt64.lt_iff_toNat_lt]
    rfl
  · intro result hmem hid hpresent
    -- It would be in the batch and in the map, and so twice in the ledger.
    subst hid
    rw [← hbatch] at hmem
    have hkey : result.sequence ∈ sequencesOf result.connectionId a.view.keys :=
      mem_sequencesOf.mpr (List.mem_append_right _ (List.mem_map_of_mem hmem))
    exact List.disjoint_of_nodup_append honce.nodup hkey hpresent

/-- The first request of a client is with a worker, and the response to its second waits
for that to the first. -/
theorem pipeline_conservation_sample :
    ∃ id c f,
      (run Server.Sample.config Server.Sample.descriptors Server.Sample.overtaken).live id =
        some (c, f) ∧
      ∀ n, (run Server.Sample.config Server.Sample.descriptors
        Server.Sample.overtaken).occurrences id f n =
          if f.nextResponseSequence ≤ n ∧ n < f.nextRequestSequence then 1 else 0 := by
  have hsome : ((run Server.Sample.config Server.Sample.descriptors
      Server.Sample.overtaken).live ⟨1⟩).isSome = true := by decide +kernel
  obtain ⟨⟨c, f⟩, hlive⟩ := Option.isSome_iff_exists.mp hsome
  exact ⟨⟨1⟩, c, f, hlive, (pipeline_conservation _ _ _ _ c f (by decide +kernel) hlive
    (by decide +kernel)).1⟩

/-! ## The end of a connection -/

/-- On every socket, only the last `recv` can have reported the end. -/
def EndsOnce (s : Server) : Prop :=
  ∀ key, ∀ call ∈ (s.sockets key).recvCalls.dropLast, call.isEnd = false

/-- A socket that is new, or on which nothing was received. -/
theorem EndsOnce.update {s s' : Server} (h : EndsOnce s) {key : UInt64} {socket : Socket}
    (hsockets : s'.sockets = Function.update s.sockets key socket)
    (hsocket : ∀ call ∈ socket.recvCalls.dropLast, call.isEnd = false) : EndsOnce s' := by
  intro other
  rw [hsockets]
  by_cases hother : other = key
  · rw [hother, Function.update_self]
    exact hsocket
  · rw [Function.update_of_ne hother]
    exact h other

theorem EndsOnce.congr {s s' : Server} (h : EndsOnce s) (hsockets : s'.sockets = s.sockets) :
    EndsOnce s' := by
  rw [EndsOnce, hsockets]
  exact h

/-- Nothing is read from a socket behind its end. -/
theorem Move.endsOnce (hmove : Move config touched a a') (h : EndsOnce a.server) :
    EndsOnce a'.server := by
  cases hmove with
  | work | wake | stopPool | control | acceptErrors | swap | discard | dropInbox =>
      exact h.congr rfl
  | accept hinbox hids hroom hfresh hctl =>
      exact h.update (Server.sockets_epollCtl hctl) nofun
  | acceptFailed hinbox hids hroom hfresh hctl =>
      exact h.update (Server.sockets_epollCtl hctl) nofun
  | @read id c f budget out messages hid hlive hinbox hopen hunended hspec hsplits =>
      refine h.update rfl ?_
      intro call hmem
      simp only [List.dropLast_append] at hmem
      split at hmem
      · exact h id.value call hmem
      · rcases List.mem_append.mp hmem with hold | hnew
        · exact Bool.eq_false_iff.mpr fun hend =>
            Bool.eq_false_iff.mp hunended (List.any_eq_true.mpr ⟨call, hold, hend⟩)
        · exact hspec.endLast call hnew
  | @write id c f out hid hlive hspec =>
      refine h.update rfl ?_
      simp only [List.append_nil]
      exact h id.value
  | submit hid hlive hinbox hroom hsubmit hwrote =>
      have hsockets := Server.sockets_wrote hwrote
      exact h.congr hsockets
  | closing hid hlive hclosed hdecoded hwrote => exact h.congr (Server.sockets_wrote hwrote)
  | writeBack hid hlive hwrote => exact h.congr (Server.sockets_wrote hwrote)
  | deliver hid hbatch hlive hwrote => exact h.congr (Server.sockets_wrote hwrote)
  | release hid hlive hready hqueued hwrote => exact h.congr (Server.sockets_wrote hwrote)
  | refuse hid hlive hqueued hwrote => exact h.congr (Server.sockets_wrote hwrote)
  | register hid hlive hunregistered hkey hctl hwrote =>
      exact h.congr ((Server.sockets_wrote hwrote).trans (Server.sockets_epollCtl hctl))
  | modify hid hlive hregistered hkey hctl => exact h.congr (Server.sockets_epollCtl hctl)
  | unregister hid hlive hregistered hctl hwrote =>
      exact h.congr ((Server.sockets_wrote hwrote).trans (Server.sockets_epollCtl hctl))
  | ctlFailed hid hlive hctl hop => exact h.congr (Server.sockets_epollCtl hctl)
  | remove hid hlive hremoved => exact h.congr (Server.sockets_removed hremoved)
  | drain hid hlive hinbox hclose hremoved =>
      have hsockets := Server.sockets_removed hremoved
      exact h.congr hsockets

theorem run_endsOnce (config : ServerConfig) (descriptors : Descriptors)
    (actions : List Action) : EndsOnce (run config descriptors actions) := by
  apply Server.run_of_moves
  · intro epoll ctlCalls key
    exact List.forall_mem_nil _
  · intro a a' hmove hends
    exact hmove.endsOnce hends

/-- A log that reports the end ends there. -/
theorem exists_last_of_peerClosed {socket : Socket} (hclosed : socket.peerClosed = true)
    (hends : ∀ call ∈ socket.recvCalls.dropLast, call.isEnd = false) :
    ∃ calls last, socket.recvCalls = calls ++ [last] ∧ last.isEnd = true ∧
      (∀ call ∈ calls, call.isEnd = false) ∧ socket.received = receivedBytes calls := by
  obtain ⟨call, hmem, hend⟩ := List.any_eq_true.mp hclosed
  have hne : socket.recvCalls ≠ [] := List.ne_nil_of_mem hmem
  have hsplit := List.dropLast_concat_getLast hne
  have hlast : call = socket.recvCalls.getLast hne := by
    rw [← hsplit] at hmem
    rcases List.mem_append.mp hmem with hfirst | hlast
    · rw [hends call hfirst] at hend
      cases hend
    · exact List.mem_singleton.mp hlast
  subst hlast
  refine ⟨_, _, hsplit.symm, hend, hends, ?_⟩
  have hbytes : (socket.recvCalls.getLast hne).bytes = [] := by
    revert hend
    unfold RecvCall.isEnd RecvCall.bytes
    split
    · exact List.isEmpty_iff.mp
    · exact fun _ => rfl
  rw [Socket.received]
  conv_lhs => rw [← hsplit]
  rw [receivedBytes_append, receivedBytes_cons, receivedBytes_nil, hbytes, List.append_nil,
    List.append_nil]

/-- A connection that was removed because it had nothing left to do: its peer had
closed, every frame in front of that was submitted, every response was sent, and
nothing of it is on its way. -/
theorem half_close_complete (config : ServerConfig) (descriptors : Descriptors)
    (actions : List Action) (id : ConnectionId)
    (hdrained : id ∈ (run config descriptors actions).drained)
    (hcount : ((run config descriptors actions).pipeline.requestsOf id).length < UInt64.size) :
    ∃ calls last,
      ((run config descriptors actions).sockets id.value).recvCalls = calls ++ [last] ∧
      last.isEnd = true ∧ (∀ call ∈ calls, call.isEnd = false) ∧
      (run config descriptors actions).pipeline.requestsOf id =
        frameFormat.frames (receivedBytes calls) ∧
      encodeAll ((frameFormat.frames (receivedBytes calls)).map
        (respond config.options.handler)) =
          some ((run config descriptors actions).sockets id.value).sent ∧
      (run config descriptors actions).live id = none ∧
      (∀ key ∈ (run config descriptors actions).pipeline.keys, key.1 ≠ id) ∧
      ∀ result ∈ (run config descriptors actions).phase.batch, result.connectionId ≠ id := by
  obtain ⟨a, ha, hrest, -, hsound⟩ := run_sound config descriptors actions
  have hends := run_endsOnce config descriptors actions
  rw [← ha] at hdrained hcount hends ⊢
  have hinv := (hsound.connection id hcount).drained hdrained
  have hnone : ∀ key ∈ a.view.keys, key.1 ≠ id := by
    intro key hmem hid
    have hseq : key.2 ∈ sequencesOf id a.view.keys := mem_sequencesOf.mpr (hid ▸ hmem)
    rw [hinv.settled] at hseq
    cases hseq
  obtain ⟨calls, last, hcalls, hlast, hbefore, hreceived⟩ :=
    exists_last_of_peerClosed hinv.peerClosed (hends id.value)
  have hframes : a.view.requests id = frameFormat.frames (receivedBytes calls) := by
    rw [hinv.requests, ← hreceived]
    rfl
  refine ⟨calls, last, hcalls, hlast, hbefore, hframes, ?_, ?_, ?_, ?_⟩
  · rw [← hframes]
    exact hinv.sent
  · exact Option.map_eq_none_iff.mp (hsound.numbered.gone id hdrained)
  · intro key hmem
    exact hnone key (List.mem_append_left _ hmem)
  · intro result hmem
    cases hphase : a.server.phase.hasFailed with
    | true =>
        -- A reactor that has failed has no batch.
        cases hserver : a.server.phase <;> rw [hserver] at hmem hphase <;> cases hmem <;>
          cases hphase
    | false =>
        rw [← (hrest hphase).2.1] at hmem
        exact hnone result.key (List.mem_append_right _ (List.mem_map_of_mem hmem))

/-- In the sample run, the client has got its response when it is drained. -/
theorem half_close_complete_sample :
    ∃ calls last,
      ((run Server.Sample.config Server.Sample.descriptors Server.Sample.farewell).sockets
        (ConnectionId.mk 1).value).recvCalls = calls ++ [last] ∧
      encodeAll ((frameFormat.frames (receivedBytes calls)).map
        (respond Server.Sample.config.options.handler)) =
          some ((run Server.Sample.config Server.Sample.descriptors
            Server.Sample.farewell).sockets (ConnectionId.mk 1).value).sent := by
  obtain ⟨calls, last, hcalls, -, -, -, hsent, -⟩ :=
    half_close_complete Server.Sample.config Server.Sample.descriptors Server.Sample.farewell ⟨1⟩
      (by decide +kernel) (by decide +kernel)
  exact ⟨calls, last, hcalls, hsent⟩

end PulseCore.Network
