/-
# The epoll server refines the blocking reference

Both servers are given the same stream, each by its own kernel: in other pieces,
at other times, with other interruptions. What the epoll server has sent on the
connection is at every moment an initial part of what the reference sends, and it
is all of it when the connection was removed because it was finished.

The stream is what the kernel delivers in front of the end: so far the connection
has received an initial part of it, and once the end was reported all of it.
Behind a malformed frame neither server answers anything.
-/

import PulseCore.Network.BlockingTcp
import PulseCore.Traffic.Refinement

namespace PulseCore.Network

open PulseCore.Foundation PulseCore.Core PulseCore.Protocol PulseCore.Traffic
open Server (run)

variable {config : ServerConfig} {stream : List Byte} {socket : Socket}

/-- The socket is being fed a stream. -/
structure Socket.Fed (socket : Socket) (stream : List Byte) : Prop where
  received : socket.received <+: stream
  ended : socket.peerClosed = true → socket.received = stream

/-- What was sent answers frames of the stream, in order. -/
theorem isPrefix_of_wireInv (hhandler : config.options.handler = defaultHandler)
    (hwire : WireInv config socket.wire) (hfed : socket.Fed stream) {bytes : List Byte}
    (hbytes : encodeAll ((frameFormat.frames stream).map handleRequest) = some bytes) :
    socket.sent <+: bytes := by
  obtain ⟨answered, output, hanswered, houtput, hsent⟩ := hwire
  rw [reply_of_defaultHandler hhandler] at houtput
  have hframes : answered <+: frameFormat.frames stream :=
    hanswered.trans (FrameFormat.frames_isPrefix_of_isPrefix hfed.received)
  obtain ⟨initial, hinitial, hle⟩ := encodeAll_isPrefix (hframes.map handleRequest) hbytes
  rw [houtput] at hinitial
  cases hinitial
  exact hsent.trans hle

/-- The reference returns, whatever its kernel does; what the epoll server has sent
is an initial part of what the reference sends, and all of it when the connection
was drained. -/
theorem epoll_refines_blocking (config : ServerConfig) (descriptors : Descriptors)
    (actions : List Action) (id : ConnectionId) (stream : List Byte)
    (hhandler : config.options.handler = defaultHandler)
    (hfed : ((run config descriptors actions).sockets id.value).Fed stream)
    (hcount : (frameFormat.frames stream).length < UInt64.size)
    (recvs : List RecvResult) (sends : List SendResult) (hrecvs : Delivers recvs stream)
    (hsends : ∀ answer ∈ sends, answer.succeeds = true) :
    ∃ reference, serveClient recvs sends = (.returned (), reference) ∧
      ((run config descriptors actions).sockets id.value).sent <+: reference ∧
      (id ∈ (run config descriptors actions).drained →
        ((run config descriptors actions).sockets id.value).sent = reference) := by
  obtain ⟨reference, hreference, hserved⟩ := serveClient_returned hrecvs hsends
  obtain ⟨a, ha, -, -, hsound⟩ := run_sound config descriptors actions
  rw [← ha] at hfed ⊢
  have hrequests : a.view.requests id <+: frameFormat.frames stream :=
    (hsound.parsed id).frames.trans (FrameFormat.frames_isPrefix_of_isPrefix hfed.received)
  have hinv := hsound.connection id (Nat.lt_of_le_of_lt hrequests.length_le hcount)
  refine ⟨reference, hserved, isPrefix_of_wireInv hhandler hinv.wire hfed hreference, ?_⟩
  intro hdrained
  -- Everything was received, and everything that was received is answered.
  have hend := hinv.drained hdrained
  have hstream : (a.server.sockets id.value).received = stream := hfed.ended hend.peerClosed
  have hsent := hend.sent
  have hframes : a.view.requests id = frameFormat.frames stream := by
    rw [hend.requests, ← hstream]
    rfl
  rw [hframes, reply_of_defaultHandler hhandler, hreference] at hsent
  exact (Option.some.inj hsent).symm

/-- In the sample run, the client got what the reference sends for its request. -/
theorem epoll_refines_blocking_sample :
    ∃ reference,
      serveClient [.received Server.Sample.request, .received []] [.sent 3] =
        (.returned (), reference) ∧
      ((run Server.Sample.config Server.Sample.descriptors Server.Sample.farewell).sockets
        (ConnectionId.mk 1).value).sent = reference := by
  have hreceived : ((run Server.Sample.config Server.Sample.descriptors
      Server.Sample.farewell).sockets (ConnectionId.mk 1).value).received =
        Server.Sample.request ++ [] := by decide +kernel
  obtain ⟨reference, hserved, -, hall⟩ :=
    epoll_refines_blocking Server.Sample.config Server.Sample.descriptors Server.Sample.farewell
      ⟨1⟩ (Server.Sample.request ++ []) rfl ⟨hreceived ▸ List.prefix_rfl, fun _ => hreceived⟩
      (by decide +kernel) [.received Server.Sample.request, .received []] [.sent 3]
      (.piece (by decide +kernel) (by decide +kernel) (.closed [])) (by decide)
  exact ⟨reference, hserved, hall (by decide +kernel)⟩

end PulseCore.Network
