/-
# The server refines the session machine

Seen as traffic, a server is a state of the session machine: its live connections
are the sessions, its sockets are the wires. Each move of a handler is then one
or two steps of the machine, or none at all. So after every run the books of the
machine are in order, and they are the books of the server.
-/

import PulseCore.Traffic.Preservation
import PulseCore.Network.Reachable

namespace PulseCore.Network

open PulseCore.Foundation PulseCore.Core PulseCore.Protocol PulseCore.Traffic

/-- A live connection as a session. -/
def sessionOf (inbox : List Message) (entry : Connection × ConnectionFlow) : Session :=
  ⟨entry.1.undecoded, inbox, entry.1.unsent, entry.2⟩

/-- The socket of a connection as a wire. -/
def Socket.wire (socket : Socket) : Wire := ⟨socket.received, socket.sent, socket.peerClosed⟩

/-- The traffic of a server. -/
def Activation.view (a : Activation) : Traffic.State where
  nextId := a.server.connections.nextId
  sessions id := (a.server.live id).map (sessionOf (a.inbox id))
  wires id := (a.server.sockets id.value).wire
  pipeline := a.server.pipeline
  batch := a.batch
  drained := a.server.drained

variable {config : ServerConfig} {touched : Set ConnectionId} {s s' : Server}
  {id : ConnectionId} {c : Connection} {f : ConnectionFlow} {a a' : Activation}
  {inbox : ConnectionId → List Message} {batch : List WorkResult} {fault : Option CtlFault}

theorem view_sessions (hlive : a.server.live id = some (c, f)) :
    a.view.sessions id = some ⟨c.undecoded, a.inbox id, c.unsent, f⟩ := by
  simp only [Activation.view, hlive, Option.map_some]
  rfl

theorem view_sessions_none (hgone : a.server.live id = none) : a.view.sessions id = none := by
  simp only [Activation.view, hgone, Option.map_none]

/-- A write to a live connection, and perhaps to its inbox, replaces its session. -/
theorem view_wrote (hwrote : Server.Wrote s s' id c f) (messages : List Message) :
    (Activation.mk s' (Function.update inbox id messages) batch).view =
      (Activation.mk s inbox batch).view.setSession id
        ⟨c.undecoded, messages, c.unsent, f⟩ := by
  have hsessions : (Activation.mk s' (Function.update inbox id messages) batch).view.sessions =
      Function.update (Activation.mk s inbox batch).view.sessions id
        (some ⟨c.undecoded, messages, c.unsent, f⟩) := by
    funext other
    by_cases hid : other = id
    · subst hid
      rw [view_sessions hwrote.live_self, Function.update_self]
      simp only [Function.update_self]
    · rw [Function.update_of_ne hid]
      simp only [Activation.view, hwrote.live_other hid, Function.update_of_ne hid]
  have hnext : s'.connections.nextId = s.connections.nextId := by rw [hwrote.registry]
  have hsockets : s'.sockets = s.sockets := by rw [hwrote.rest]
  have hpipeline : s'.pipeline = s.pipeline := by rw [hwrote.rest]
  have hdrained : s'.drained = s.drained := by rw [hwrote.rest]
  rw [State.setSession, ← hsessions]
  simp only [Activation.view, hnext, hsockets, hpipeline, hdrained]

/-- A write to a live connection alone. -/
theorem view_wrote_server (hwrote : Server.Wrote s s' id c f) :
    (Activation.mk s' inbox batch).view =
      (Activation.mk s inbox batch).view.setSession id
        ⟨c.undecoded, inbox id, c.unsent, f⟩ := by
  rw [← view_wrote hwrote (inbox id), Function.update_eq_self]

/-- Writing what is there changes nothing. -/
theorem setSession_eq_self {v : State} {session : Session} (hlive : v.sessions id = some session) :
    v.setSession id session = v := by
  rw [State.setSession, ← hlive, Function.update_eq_self]

/-- What happens on a socket happens on its wire. -/
theorem view_logSocket (recvCalls : List RecvCall) (sendCalls : List SendCall) :
    (Activation.mk (s.logSocket id recvCalls sendCalls) inbox batch).view =
      (Activation.mk s inbox batch).view.setWire id
        { received := (s.sockets id.value).received ++ receivedBytes recvCalls
          sent := (s.sockets id.value).sent ++ sentBytes sendCalls
          peerClosed := (s.sockets id.value).peerClosed || recvCalls.any RecvCall.isEnd } := by
  have hwires : (Activation.mk (s.logSocket id recvCalls sendCalls) inbox batch).view.wires =
      Function.update (Activation.mk s inbox batch).view.wires id
        { received := (s.sockets id.value).received ++ receivedBytes recvCalls
          sent := (s.sockets id.value).sent ++ sentBytes sendCalls
          peerClosed := (s.sockets id.value).peerClosed || recvCalls.any RecvCall.isEnd } := by
    funext other
    by_cases hid : other = id
    · subst hid
      simp only [Activation.view, Server.logSocket, Function.update_self, Socket.wire,
        Socket.received, Socket.sent, Socket.peerClosed, receivedBytes_append, sentBytes_append,
        List.any_append]
    · have hvalue : other.value ≠ id.value := fun hvalue => hid (congrArg ConnectionId.mk hvalue)
      simp only [Activation.view, Server.logSocket, Function.update_of_ne hid,
        Function.update_of_ne hvalue]
  rw [State.setWire, ← hwires]
  rfl

/-- The interest set is no part of the traffic. -/
theorem view_epollCtl {op : CtlOp} {fd : Fd} {event : EpollEvent} {answer : Option Errno}
    (hctl : s.epollCtl op fd event fault = (answer, s')) :
    (Activation.mk s' inbox batch).view = (Activation.mk s inbox batch).view := by
  rw [Server.epollCtl_rest hctl]
  rfl

/-- Forgetting a connection ends its session. -/
theorem view_forget (s : Server) (id : ConnectionId) :
    (Activation.mk (s.forget id) inbox batch).view =
      (Activation.mk s inbox batch).view.endSession id := by
  have hsessions : (Activation.mk (s.forget id) inbox batch).view.sessions =
      Function.update (Activation.mk s inbox batch).view.sessions id none := by
    funext other
    by_cases hid : other = id
    · subst hid
      rw [view_sessions_none (Server.live_forget_self _ _), Function.update_self]
    · rw [Function.update_of_ne hid]
      simp only [Activation.view, Server.live_forget_of_ne s hid]
  rw [State.endSession, ← hsessions]
  rfl

theorem view_removed (hremoved : Server.Removed id c f s s') :
    (Activation.mk s' inbox batch).view = (Activation.mk s inbox batch).view.endSession id := by
  cases hremoved with
  | unregistered => exact view_forget s id
  | registered hregistered hctl => rw [view_forget, view_epollCtl hctl]

/-- Admission starts a session. -/
theorem view_admitted {fd : Fd} (hinbox : inbox s.connections.nextId = []) :
    (Activation.mk (s.admitted fd) inbox batch).view =
      ({ (Activation.mk s inbox batch).view with
          nextId := ⟨s.connections.nextId.value + 1⟩ }.setSession s.connections.nextId
        .fresh).setWire s.connections.nextId {} := by
  have hsessions : (Activation.mk (s.admitted fd) inbox batch).view.sessions =
      Function.update (Activation.mk s inbox batch).view.sessions s.connections.nextId
        (some .fresh) := by
    funext other
    by_cases hid : other = s.connections.nextId
    · subst hid
      rw [view_sessions (WellFormed.live_admitted_self s fd), Function.update_self]
      simp only [hinbox]
      rfl
    · rw [Function.update_of_ne hid]
      simp only [Activation.view, WellFormed.live_admitted_of_ne s fd hid]
  have hwires : (Activation.mk (s.admitted fd) inbox batch).view.wires =
      Function.update (Activation.mk s inbox batch).view.wires s.connections.nextId {} := by
    funext other
    by_cases hid : other = s.connections.nextId
    · subst hid
      simp only [Activation.view, Server.admitted, Server.putFlow, Function.update_self]
      rfl
    · have hvalue : other.value ≠ s.connections.nextId.value :=
        fun hvalue => hid (congrArg ConnectionId.mk hvalue)
      simp only [Activation.view, Server.admitted, Server.putFlow, Function.update_of_ne hid,
        Function.update_of_ne hvalue]
  rw [State.setWire, State.setSession, ← hsessions, ← hwires]
  rfl

/-! ## Every move, every run -/

/-- A move is one or two steps of the session machine, or none. -/
theorem Move.refines (hmove : Move config touched a a') :
    Relation.ReflTransGen (Step config) a.view a'.view := by
  obtain ⟨s, inbox, batch⟩ := a
  cases hmove with
  | work action => exact .single (.work _ action)
  | wake workerWakeup => exact .single (.wake _ workerWakeup)
  | stopPool => exact .single (.stopPool _)
  | control | acceptErrors => exact .refl
  | @accept fd fault s' hinbox hids hroom hfresh hctl =>
      have hlive := WellFormed.live_admitted_self s fd
      have hlive' : s'.live s.connections.nextId = _ := (Server.live_epollCtl hctl _).trans hlive
      have hview : (Activation.mk s' inbox batch).view = _ :=
        (view_epollCtl hctl).trans (view_admitted hinbox)
      refine .head (.accept _ hids) ?_
      rw [view_wrote_server (Server.wrote_putFlow hlive' { registeredWithEpoll := true })]
      have hstep : Step config (Activation.mk s' inbox batch).view _ :=
        .register _ (view_sessions hlive') true
      rw [hview] at hstep ⊢
      exact .single hstep
  | @acceptFailed fd fault s' error hinbox hids hroom hfresh hctl =>
      have hview : (Activation.mk s' inbox batch).view = _ :=
        (view_epollCtl hctl).trans (view_admitted hinbox)
      refine .head (.accept _ hids) ?_
      rw [view_forget, hview]
      exact .single (.remove _ _)
  | @read id c f budget out messages hid hlive hinbox hopen hunended hspec hsplits =>
      have hwrote := Server.wrote_putConnection hlive out.connection
      rw [view_logSocket, view_wrote hwrote, hspec.same.unsent, sentBytes_nil, List.append_nil]
      have hsockets : (s.putConnection id out.connection).sockets = s.sockets := rfl
      simp only [hsockets]
      exact .single (.receive _ (view_sessions hlive) hinbox hopen _ _ _ _ hsplits)
  | @submit id c f message messages pipeline s' hid hlive hinbox hroom hsubmit hwrote =>
      have hview : (Activation.mk { s' with pipeline } (Function.update inbox id messages)
          batch).view =
        { (Activation.mk s' (Function.update inbox id messages) batch).view with pipeline } := rfl
      rw [hview, view_wrote hwrote]
      exact .single (.submit _ (view_sessions hlive) hinbox hroom hsubmit)
  | @closing id c f s' hid hlive hclosed hdecoded hwrote =>
      rw [view_wrote_server hwrote]
      exact .single (.close _ (view_sessions hlive) hclosed hdecoded)
  | writeBack hid hlive hwrote =>
      rw [view_wrote_server hwrote, setSession_eq_self (view_sessions hlive)]
  | @write id c f out hid hlive hspec =>
      have hwrote := Server.wrote_putConnection hlive out.connection
      rw [view_logSocket, view_wrote_server hwrote, hspec.same.undecoded, receivedBytes_nil,
        List.append_nil, List.any_nil, Bool.or_false]
      exact .single (.transmit _ (view_sessions hlive) _ _ hspec.split)
  | swap hbatch => exact .single (.swap _ hbatch)
  | @deliver result batch' c f s' hid hbatch hlive hwrote =>
      rw [view_wrote_server hwrote]
      exact .single (.deliver _ hbatch (view_sessions hlive))
  | discard hbatch hgone => exact .single (.discard _ hbatch (view_sessions_none hgone))
  | @release id c c' f response s' hid hlive hready hqueued hwrote =>
      have hspec := c.queueOutput_spec response
      rw [hqueued] at hspec
      obtain ⟨bytes, hencode, -, hunsent⟩ := hspec.appended rfl
      rw [view_wrote_server hwrote, hspec.same.undecoded, hunsent]
      exact .single (.release _ (view_sessions hlive) hready hencode)
  | @refuse id c c' f response s' hid hlive hqueued hwrote =>
      have hspec := c.queueOutput_spec response
      rw [hqueued] at hspec
      rw [view_wrote_server hwrote, hspec.same.undecoded, hspec.refused rfl,
        setSession_eq_self (view_sessions hlive)]
  | @register id c f event fault s₁ s' hid hlive hunregistered hkey hctl hwrote =>
      rw [view_wrote_server hwrote, view_epollCtl hctl]
      exact .single (.register _ (view_sessions hlive) true)
  | modify hid hlive hregistered hkey hctl => rw [view_epollCtl hctl]
  | @unregister id c f event fault s₁ s' hid hlive hregistered hctl hwrote =>
      rw [view_wrote_server hwrote, view_epollCtl hctl]
      exact .single (.register _ (view_sessions hlive) false)
  | ctlFailed hid hlive hctl hop => rw [view_epollCtl hctl]
  | remove hid hlive hremoved =>
      rw [view_removed hremoved]
      exact .single (.remove _ _)
  | @drain id c f s' hid hlive hinbox hclose hremoved =>
      have hview : (Activation.mk { s' with drained := id :: s'.drained } inbox batch).view =
        { (Activation.mk s' inbox batch).view with
          drained := id :: (Activation.mk s' inbox batch).view.drained } := rfl
      simp only [Server.shouldCloseAfterFlush, Bool.and_eq_true, Bool.not_eq_true',
        decide_eq_true_eq] at hclose
      rw [hview, view_removed hremoved]
      exact .single (.drain _ (view_sessions hlive) hinbox hclose.1.1
        (c.hasPendingOutput_eq_false_iff.mp hclose.1.2) hclose.2)
  | @dropInbox id hgone =>
      have hview : (Activation.mk s (Function.update inbox id []) batch).view.sessions =
          (Activation.mk s inbox batch).view.sessions := by
        funext other
        by_cases hid : other = id
        · subst hid
          rw [view_sessions_none hgone]
          exact view_sessions_none hgone
        · simp only [Activation.view, Function.update_of_ne hid]
      have hsame : (Activation.mk s (Function.update inbox id []) batch).view =
          { (Activation.mk s inbox batch).view with
            sessions := (Activation.mk s (Function.update inbox id []) batch).view.sessions } := rfl
      rw [hsame, hview]

theorem Moves.refines (hmoves : Moves config touched a a') :
    Relation.ReflTransGen (Step config) a.view a'.view := by
  induction hmoves with
  | refl => exact .refl
  | tail _ hmove ih => exact ih.trans hmove.refines

theorem sound_start (config : ServerConfig) (descriptors : Descriptors) :
    Sound config (Activation.idle (Server.start config descriptors) []).view := by
  obtain ⟨calls, hstart⟩ := (Server.starting_start config descriptors).eq
  have hview : (Activation.idle (Server.start config descriptors) []).view =
      State.start (Server.constructed config descriptors).pipeline := by
    rw [hstart]
    rfl
  rw [hview]
  refine Traffic.sound_start ?_ rfl rfl
  have hidle : ∀ n : ℕ, (List.replicate n Worker.idle).filterMap Worker.held = [] := by
    intro n
    induction n with
    | zero => rfl
    | succ n ih => exact ih
  exact hidle config.options.workerCount

/-- The books are in order at every moment, also within a handler. -/
theorem Moves.sound {descriptors : Descriptors}
    (hmoves : Moves config touched (.idle (Server.start config descriptors) []) a) :
    WellFormed config a.server ∧ Sound config a.view :=
  ⟨hmoves.wellFormed (Server.starting_start config descriptors).wellFormed,
    (sound_start config descriptors).steps hmoves.refines⟩

/-- After every run the books are in order. -/
theorem run_sound (config : ServerConfig) (descriptors : Descriptors) (actions : List Action) :
    ∃ a : Activation, a.server = Server.run config descriptors actions ∧ a.AtRest ∧
      WellFormed config a.server ∧ Sound config a.view := by
  obtain ⟨a, ha, hmoves, hrest⟩ := Server.run_moves config descriptors actions
  exact ⟨a, ha, hrest, hmoves.sound⟩

end PulseCore.Network
