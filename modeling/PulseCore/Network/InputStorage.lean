/-
# The input storage of a connection

`ReadAvailable` drains the decoder before each `recv`, and asks for no more than
the input limit leaves. The calls it makes on its decoder are written down here,
in their order; the decoder at any moment of a read is the one behind some of
them. With what the decoder keeps in storage this bounds the memory that a
connection holds for input, also in the middle of a read.
-/

import PulseCore.Network.ConnectionLaws
import PulseCore.Protocol.DecoderStorage

namespace PulseCore.Network

open PulseCore.Foundation PulseCore.Protocol

namespace Connection

/-- The calls of `DrainDecoder` on its decoder. -/
def drainCalls : ℕ → FrameDecoder → List DecoderCall
  | 0, _ => []
  | fuel + 1, decoder =>
      match decoder.next with
      | (.decoded _ _, decoder) => .next :: drainCalls fuel decoder
      | (_, _) => [.next]

/-- The call of `Append` behind a `recv` that the loop goes round with. -/
def appendCalls : RecvResult → List DecoderCall
  | .received bytes => [.append bytes]
  | .failed _ => []

/-- The calls of the read loop on its decoder. -/
def readCalls (maxReadBytes : ℕ) (answers : List RecvResult) (st : ReadState) : List DecoderCall :=
  drainCalls (st.connection.decoder.bufferedSize + 1) st.connection.decoder ++
    match beforeRecv maxReadBytes st with
    | (_, .finished _) => []
    | (st, .recv bytesToRead) =>
        match answers with
        | [] => []
        | answer :: answers =>
            match afterRecv st (answer.within bytesToRead) with
            | (_, some _) => []
            | (st, none) =>
                appendCalls (answer.within bytesToRead) ++ readCalls maxReadBytes answers st

/-- One call of `ReadAvailable`: its budget and what the kernel answers. -/
structure Read where
  maxReadBytes : ℕ
  answers : List RecvResult

/-- The connection behind some reads. -/
def reads (c : Connection) (calls : List Read) : Connection :=
  calls.foldl (fun c call => (c.readAvailable call.maxReadBytes call.answers).connection) c

/-- The calls that some reads make on the decoder. -/
def decoderCalls : Connection → List Read → List DecoderCall
  | _, [] => []
  | c, call :: calls =>
      readCalls call.maxReadBytes call.answers ⟨c, [], false, 0⟩ ++
        decoderCalls (c.readAvailable call.maxReadBytes call.answers).connection calls

theorem mem_drainCalls {fuel : ℕ} {decoder : FrameDecoder} {call : DecoderCall}
    (hmem : call ∈ drainCalls fuel decoder) : call = .next := by
  induction fuel generalizing decoder with
  | zero => cases hmem
  | succ fuel ih =>
      rw [drainCalls] at hmem
      split at hmem
      · rcases List.mem_cons.mp hmem with hfirst | hrest
        · exact hfirst
        · exact ih hrest
      · exact List.mem_singleton.mp hmem

theorem runCalls_drainCalls (fuel : ℕ) (decoder : FrameDecoder) (messages : List Message) :
    (decoder.runCalls (drainCalls fuel decoder)).1 =
      (drainDecoderWith fuel decoder messages).2.1 := by
  induction fuel generalizing decoder messages with
  | zero => rfl
  | succ fuel ih =>
      obtain ⟨-, hnext⟩ | ⟨e, -, hnext⟩ | ⟨m, n, d, -, hnext, -⟩ := decoder.next_cases
      · simp only [drainCalls, drainDecoderWith, FrameDecoder.runCalls, hnext]
      · simp only [drainCalls, drainDecoderWith, FrameDecoder.runCalls, hnext]
      · simp only [drainCalls, drainDecoderWith, FrameDecoder.runCalls, hnext]
        exact ih d _

/-- Draining is what the loop does with its decoder before `recv`. -/
theorem decoder_beforeRecv (maxReadBytes : ℕ) (st : ReadState) :
    (beforeRecv maxReadBytes st).1.connection.decoder =
      (st.connection.decoder.runCalls
        (drainCalls (st.connection.decoder.bufferedSize + 1) st.connection.decoder)).1 := by
  rw [runCalls_drainCalls _ _ st.messages]
  change _ = (drainDecoder st.connection.decoder st.messages).2.1
  unfold beforeRecv
  split
  · next hdrain => rw [hdrain]
  · next hdrain =>
      rw [hdrain]
      simp only
      split
      · rfl
      split <;> rfl

/-- Appending is what it does behind. -/
theorem decoder_afterRecv {st after : ReadState} {answer : RecvResult}
    (hafter : afterRecv st answer = (after, none)) :
    after.connection.decoder = (st.connection.decoder.runCalls (appendCalls answer)).1 := by
  obtain ⟨rfl, rfl⟩ | ⟨bytes, -, rfl, rfl⟩ := afterRecv_none hafter
  · rfl
  · rfl

/-- The storage of a decoder whose pending bytes keep a limit. -/
structure Fits (limit : ℕ) (decoder : FrameDecoder) : Prop where
  compacted : decoder.Compacted
  pending : decoder.pending.length ≤ limit

/-- The decoder fits before the calls, between them and behind them. -/
def AlwaysFits (limit : ℕ) (decoder : FrameDecoder) (calls : List DecoderCall) : Prop :=
  ∀ before, before <+: calls → Fits limit (decoder.runCalls before).1

variable {limit : ℕ} {decoder : FrameDecoder}

theorem alwaysFits_nil (h : Fits limit decoder) : AlwaysFits limit decoder [] := by
  intro before hbefore
  rw [List.prefix_nil.mp hbefore]
  exact h

theorem AlwaysFits.append {first second : List DecoderCall} (h : AlwaysFits limit decoder first)
    (hsecond : AlwaysFits limit (decoder.runCalls first).1 second) :
    AlwaysFits limit decoder (first ++ second) := by
  intro before hbefore
  rcases List.prefix_or_prefix_of_prefix hbefore (List.prefix_append first second) with
    hfirst | ⟨rest, rfl⟩
  · exact h before hfirst
  · rw [FrameDecoder.runCalls_append]
    exact hsecond rest ((List.prefix_append_right_inj first).mp hbefore)

theorem Fits.next (h : Fits limit decoder) : Fits limit decoder.next.2 := by
  refine ⟨h.compacted.next, ?_⟩
  obtain ⟨-, hnext⟩ | ⟨e, -, hnext⟩ | ⟨m, n, d, -, hnext, hpending⟩ := decoder.next_cases
  · rw [hnext]
    exact h.pending
  · rw [hnext]
    exact h.pending
  · rw [hnext, hpending, List.length_drop]
    exact Nat.le_trans (Nat.sub_le _ _) h.pending

theorem Fits.runCalls_next (h : Fits limit decoder) {calls : List DecoderCall}
    (hcalls : ∀ call ∈ calls, call = .next) : Fits limit (decoder.runCalls calls).1 := by
  induction calls generalizing decoder with
  | nil => exact h
  | cons call calls ih =>
      obtain ⟨rfl, hrest⟩ := List.forall_mem_cons.mp hcalls
      exact ih h.next hrest

theorem alwaysFits_drainCalls (h : Fits limit decoder) (fuel : ℕ) :
    AlwaysFits limit decoder (drainCalls fuel decoder) := by
  intro before hbefore
  exact h.runCalls_next fun call hmem => mem_drainCalls (hbefore.subset hmem)

/-- What a `recv` delivers fits, when it was asked for no more than there is room. -/
theorem alwaysFits_appendCalls (h : Fits limit decoder) {n : ℕ}
    (hroom : decoder.pending.length + n ≤ limit) (answer : RecvResult) :
    AlwaysFits limit decoder (appendCalls (answer.within n)) := by
  cases answer with
  | failed error => exact alwaysFits_nil h
  | received bytes =>
      intro before hbefore
      rcases List.prefix_cons_iff.mp hbefore with rfl | ⟨rest, rfl, hrest⟩
      · exact h
      · rw [List.prefix_nil.mp hrest]
        refine ⟨h.compacted.append _, ?_⟩
        change (decoder.append (bytes.take n)).pending.length ≤ limit
        rw [FrameDecoder.pending_append, List.length_append, List.length_take]
        omega

/-- The calls of a read that ends before or behind its first `recv`. -/
theorem readCalls_of_last {maxReadBytes : ℕ} {answers : List RecvResult} {st before : ReadState}
    {pass : ReadPass} (h : Fits limit st.connection.decoder)
    (hbefore : beforeRecv maxReadBytes st = (before, pass))
    (hcalls : readCalls maxReadBytes answers st =
      drainCalls (st.connection.decoder.bufferedSize + 1) st.connection.decoder ++ []) :
    AlwaysFits limit st.connection.decoder (readCalls maxReadBytes answers st) ∧
    (st.connection.decoder.runCalls (readCalls maxReadBytes answers st)).1 =
      before.connection.decoder := by
  have hdecoder := decoder_beforeRecv maxReadBytes st
  rw [hbefore] at hdecoder
  rw [hcalls, List.append_nil]
  exact ⟨alwaysFits_drainCalls h _, hdecoder.symm⟩

/-- Through a whole read the decoder fits, and the calls lead to the decoder that the
read leaves. -/
theorem readCalls_spec (maxReadBytes : ℕ) (answers : List RecvResult) (st : ReadState)
    (h : Fits st.connection.limits.maxInputBuffer st.connection.decoder) :
    AlwaysFits st.connection.limits.maxInputBuffer st.connection.decoder
      (readCalls maxReadBytes answers st) ∧
    (st.connection.decoder.runCalls (readCalls maxReadBytes answers st)).1 =
      (readLoop maxReadBytes answers st).connection.decoder := by
  fun_induction readLoop maxReadBytes answers st with
  | case1 answers st before result hbefore =>
      refine readCalls_of_last h hbefore ?_
      rw [readCalls, hbefore]
  | case2 st before n hbefore =>
      refine readCalls_of_last h hbefore ?_
      rw [readCalls, hbefore]
  | case3 st before n hbefore answer answers call after result hafter =>
      obtain ⟨rfl, -⟩ := afterRecv_some hafter
      refine readCalls_of_last h hbefore ?_
      rw [readCalls, hbefore]
      simp only
      rw [hafter]
  | case4 st before n hbefore answer answers call after hafter outcome ih =>
      have hspec := beforeRecv_spec maxReadBytes st
      have hdrained := decoder_beforeRecv maxReadBytes st
      rw [hbefore] at hspec hdrained
      have hlimits : after.connection.limits = st.connection.limits :=
        (goRound_spec hafter).2.1.limits.trans hspec.same.limits
      -- the request leaves room for whatever it delivers
      have hroom : before.connection.decoder.pending.length + n ≤
          st.connection.limits.maxInputBuffer := by
        rw [← hspec.same.limits]
        exact (hspec.recv n rfl).2.2.2.2
      have hfirst := alwaysFits_drainCalls h (st.connection.decoder.bufferedSize + 1)
      have hbeforeFits := hfirst _ List.prefix_rfl
      rw [← hdrained] at hbeforeFits
      have hsecond := alwaysFits_appendCalls hbeforeFits hroom answer
      have hafterFits := hsecond _ List.prefix_rfl
      have happended := decoder_afterRecv hafter
      rw [← happended, ← hlimits] at hafterFits
      obtain ⟨hrest, hlast⟩ := ih hafterFits
      have hcalls : readCalls maxReadBytes (answer :: answers) st =
          drainCalls (st.connection.decoder.bufferedSize + 1) st.connection.decoder ++
            (appendCalls call.result ++ readCalls maxReadBytes answers after) := by
        rw [readCalls, hbefore]
        simp only
        rw [hafter]
      rw [hcalls]
      constructor
      · refine hfirst.append ?_
        rw [← hdrained]
        refine hsecond.append ?_
        rw [← happended, ← hlimits]
        exact hrest
      · rw [FrameDecoder.runCalls_append, FrameDecoder.runCalls_append, ← hdrained, ← happended]
        exact hlast

theorem limits_readAvailable (c : Connection) (maxReadBytes : ℕ) (answers : List RecvResult) :
    (c.readAvailable maxReadBytes answers).connection.limits = c.limits :=
  (c.readAvailable_spec maxReadBytes answers).same.limits

/-- The same through any number of reads. -/
theorem decoderCalls_spec (c : Connection) (calls : List Read)
    (h : Fits c.limits.maxInputBuffer c.decoder) :
    AlwaysFits c.limits.maxInputBuffer c.decoder (decoderCalls c calls) ∧
    (c.decoder.runCalls (decoderCalls c calls)).1 = (c.reads calls).decoder := by
  induction calls generalizing c with
  | nil => exact ⟨alwaysFits_nil h, rfl⟩
  | cons call calls ih =>
      obtain ⟨hfirst, hlast⟩ :=
        readCalls_spec call.maxReadBytes call.answers ⟨c, [], false, 0⟩ h
      change _ = (c.readAvailable call.maxReadBytes call.answers).connection.decoder at hlast
      have hlimits := limits_readAvailable c call.maxReadBytes call.answers
      have hfits := hfirst _ List.prefix_rfl
      change Fits c.limits.maxInputBuffer (c.decoder.runCalls _).1 at hfits
      rw [hlast, ← hlimits] at hfits
      obtain ⟨hrest, hend⟩ := ih _ hfits
      rw [decoderCalls]
      constructor
      · refine hfirst.append ?_
        change AlwaysFits c.limits.maxInputBuffer (c.decoder.runCalls _).1 _
        rw [hlast, ← hlimits]
        exact hrest
      · rw [FrameDecoder.runCalls_append, hlast]
        exact hend

end Connection

/-- Behind every sequence of calls the members of a decoder are as the code needs
them: the offset lies within the storage, nothing wraps around, and consumed bytes
are less than half of what is stored. On a connection that is only read from, the
storage never passes twice the input limit, at no moment of any read. -/
theorem decoder_storage_law (id : ConnectionId) (fd : Fd) (limits : ConnectionLimits) :
    (∀ calls : List DecoderCall, ∃ d results,
      RawDecoder.runCalls ⟨[], 0⟩ calls = some (d, results) ∧
      d = (FrameDecoder.empty.runCalls calls).1.raw ∧
      d.readOffset ≤ d.buffer.length ∧
      (d.readOffset = 0 ∨ 2 * d.readOffset < d.buffer.length) ∧
      d.subspan = some (d.buffer.drop d.readOffset) ∧
      d.bufferedSize = some (d.buffer.length - d.readOffset) ∧
      (0 < d.readOffset → d.buffer.length < 2 * (d.buffer.length - d.readOffset))) ∧
    ∀ calls : List Connection.Read,
      (FrameDecoder.empty.runCalls
          (Connection.decoderCalls (.create id fd limits) calls)).1 =
        ((Connection.create id fd limits).reads calls).decoder ∧
      ∀ before, before <+: Connection.decoderCalls (.create id fd limits) calls →
        (FrameDecoder.empty.runCalls before).1.bytes.buffer.length ≤ 2 * limits.maxInputBuffer := by
  constructor
  · intro calls
    have hcompacted := FrameDecoder.compacted_empty.runCalls calls
    refine ⟨_, _, FrameDecoder.runCalls_raw .empty calls, rfl, ?_⟩
    generalize (FrameDecoder.empty.runCalls calls).1 = d at hcompacted ⊢
    exact ⟨d.bytes.offset_le, hcompacted, d.subspan_raw, d.bufferedSize_raw,
      hcompacted.storage_lt⟩
  · intro calls
    have hstart : Connection.Fits limits.maxInputBuffer FrameDecoder.empty :=
      ⟨FrameDecoder.compacted_empty, Nat.zero_le _⟩
    obtain ⟨halways, hlast⟩ := Connection.decoderCalls_spec (.create id fd limits) calls hstart
    refine ⟨hlast, fun before hbefore => ?_⟩
    have hfits := halways before hbefore
    exact Nat.le_trans hfits.compacted.storage_le (Nat.mul_le_mul_left 2 hfits.pending)

end PulseCore.Network
