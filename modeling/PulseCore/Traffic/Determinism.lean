/-
# The schedule does not show

What a client gets back depends on what it sent and on the handler, and on nothing
else: not on the limits and budgets of the server, on how the kernel cuts the stream
into pieces, on which worker was faster, or on what other clients do. Two servers that
are fed the same stream may be at different points of it, but what one has sent is
the beginning of what the other has sent; and when only the network can move them,
and both have received the same, both have the same answers to it.
-/

import PulseCore.Traffic.Quiescence
import PulseCore.Traffic.Reference

namespace PulseCore.Network

open PulseCore.Foundation PulseCore.Core PulseCore.Protocol PulseCore.Traffic
open Server (run)

/-- Encodings of responses to comparable requests are comparable. -/
theorem sent_comparable {handler : WorkHandler} {first second : List Message}
    {bytes bytes' sent sent' : List Byte} (hpre : first <+: second)
    (hfirst : encodeAll (first.map (respond handler)) = some bytes) (hsent : sent <+: bytes)
    (hsecond : encodeAll (second.map (respond handler)) = some bytes')
    (hsent' : sent' <+: bytes') : sent <+: sent' ∨ sent' <+: sent := by
  obtain ⟨initial, hinitial, hle⟩ := encodeAll_isPrefix (hpre.map _) hsecond
  rw [hfirst] at hinitial
  cases hinitial
  exact List.prefix_or_prefix_of_prefix (hsent.trans hle) hsent'

variable {config : ServerConfig} {descriptors : Descriptors} {actions : List Action}
  {id : ConnectionId} {stream : List Byte}

/-- The requests of a connection are no more than the frames of the stream it is fed. -/
theorem requests_countable
    (hreceived : ((run config descriptors actions).sockets id.value).received <+: stream)
    (hcount : (frameFormat.frames stream).length < UInt64.size) :
    ((run config descriptors actions).pipeline.requestsOf id).length < UInt64.size := by
  obtain ⟨a, ha, -, -, hsound⟩ := run_sound config descriptors actions
  rw [← ha] at hreceived ⊢
  have hrequests : a.view.requests id <+: frameFormat.frames stream :=
    (hsound.parsed id).frames.trans (FrameFormat.frames_isPrefix_of_isPrefix hreceived)
  exact Nat.lt_of_le_of_lt hrequests.length_le hcount

/-- After every run, what was sent on a connection answers frames of the stream it is
fed, in order. -/
theorem run_wireInv
    (hreceived : ((run config descriptors actions).sockets id.value).received <+: stream)
    (hcount : (frameFormat.frames stream).length < UInt64.size) :
    ∃ answered bytes, answered <+: frameFormat.frames stream ∧
      encodeAll (answered.map (respond config.options.handler)) = some bytes ∧
      ((run config descriptors actions).sockets id.value).sent <+: bytes := by
  have hcountable := requests_countable hreceived hcount
  obtain ⟨a, ha, -, -, hsound⟩ := run_sound config descriptors actions
  rw [← ha] at hreceived hcountable ⊢
  obtain ⟨answered, bytes, hanswered, hbytes, hsent⟩ := (hsound.connection id hcountable).wire
  exact ⟨answered, bytes, hanswered.trans (FrameFormat.frames_isPrefix_of_isPrefix hreceived),
    hbytes, hsent⟩

/-- Two servers with the same handler, whatever else they are configured with and
whatever happens in their runs, answer one stream with one stream: what one has sent is
the beginning of what the other has sent, and when both are quiet and have received the
same, what they have sent and have still to send is the same. -/
theorem schedule_independent (config config' : ServerConfig)
    (descriptors descriptors' : Descriptors) (actions actions' : List Action)
    (id id' : ConnectionId) (stream : List Byte)
    (hhandler : config'.options.handler = config.options.handler)
    (hreceived : ((run config descriptors actions).sockets id.value).received <+: stream)
    (hreceived' : ((run config' descriptors' actions').sockets id'.value).received <+: stream)
    (hcount : (frameFormat.frames stream).length < UInt64.size) :
    (((run config descriptors actions).sockets id.value).sent <+:
        ((run config' descriptors' actions').sockets id'.value).sent ∨
      ((run config' descriptors' actions').sockets id'.value).sent <+:
        ((run config descriptors actions).sockets id.value).sent) ∧
    ∀ c f c' f', (run config descriptors actions).live id = some (c, f) →
      (run config' descriptors' actions').live id' = some (c', f') →
      (run config descriptors actions).Quiet → (run config' descriptors' actions').Quiet →
      ((run config descriptors actions).sockets id.value).received =
        ((run config' descriptors' actions').sockets id'.value).received →
      ((run config descriptors actions).sockets id.value).sent ++ c.unsent =
        ((run config' descriptors' actions').sockets id'.value).sent ++ c'.unsent := by
  constructor
  · obtain ⟨first, bytes, hfirst, hbytes, hsent⟩ := run_wireInv hreceived hcount
    obtain ⟨second, bytes', hsecond, hbytes', hsent'⟩ := run_wireInv hreceived' hcount
    rw [hhandler] at hbytes'
    rcases List.prefix_or_prefix_of_prefix hfirst hsecond with hpre | hpre
    · exact sent_comparable hpre hbytes hsent hbytes' hsent'
    · exact (sent_comparable hpre hbytes' hsent' hbytes hsent).symm
  · intro c f c' f' hlive hlive' hquiet hquiet' hsame
    have hanswers := (answered_of_quiet hquiet hlive (requests_countable hreceived hcount)).2.2
    have hanswers' :=
      (answered_of_quiet hquiet' hlive' (requests_countable hreceived' hcount)).2.2
    rw [← hsame, hhandler, hanswers] at hanswers'
    exact Option.some.inj hanswers'

/-- Two servers get the same two requests. One has two workers that overtake each other and
another client besides; the other has one worker and reads and writes little at a time. -/
theorem schedule_independent_sample :
    ∃ c f c' f',
      (run Server.Sample.config Server.Sample.descriptors Server.Sample.caughtUp).live ⟨1⟩ =
        some (c, f) ∧
      (run Server.Sample.narrow Server.Sample.descriptors Server.Sample.patient).live ⟨1⟩ =
        some (c', f') ∧
      ((run Server.Sample.config Server.Sample.descriptors Server.Sample.caughtUp).sockets
          (ConnectionId.mk 1).value).sent ++ c.unsent =
        ((run Server.Sample.narrow Server.Sample.descriptors Server.Sample.patient).sockets
          (ConnectionId.mk 1).value).sent ++ c'.unsent := by
  have hsome : ((run Server.Sample.config Server.Sample.descriptors
      Server.Sample.caughtUp).live ⟨1⟩).isSome = true := by decide +kernel
  have hsome' : ((run Server.Sample.narrow Server.Sample.descriptors
      Server.Sample.patient).live ⟨1⟩).isSome = true := by decide +kernel
  obtain ⟨⟨c, f⟩, hlive⟩ := Option.isSome_iff_exists.mp hsome
  obtain ⟨⟨c', f'⟩, hlive'⟩ := Option.isSome_iff_exists.mp hsome'
  have hquiet : (run Server.Sample.config Server.Sample.descriptors
      Server.Sample.caughtUp).Quiet :=
    ⟨by decide +kernel, by decide +kernel, by decide +kernel, by decide +kernel⟩
  have hquiet' : (run Server.Sample.narrow Server.Sample.descriptors
      Server.Sample.patient).Quiet :=
    ⟨by decide +kernel, by decide +kernel, by decide +kernel, by decide +kernel⟩
  exact ⟨c, f, c', f', hlive, hlive', (schedule_independent Server.Sample.config
    Server.Sample.narrow Server.Sample.descriptors Server.Sample.descriptors
    Server.Sample.caughtUp Server.Sample.patient ⟨1⟩ ⟨1⟩ Server.Sample.pipelined rfl
    (by decide +kernel) (by decide +kernel) (by decide +kernel)).2 c f c' f' hlive hlive' hquiet
    hquiet' (by decide +kernel)⟩

end PulseCore.Network
