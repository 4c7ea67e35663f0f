/-
# Budgets of one read and one write

`ReadAvailable` and `WriteAvailable` are each given a number of bytes that they
may transfer. They keep to it exactly, and they never ask the kernel for nothing:
a `recv` of length zero would answer zero, which the code takes for the end of
the stream. Both hold for a connection in any state and for every behaviour of
the kernel.

A loop goes round only behind an interrupted call or behind a transfer of at least
one byte, so a budget bounds the number of its passes but for interruptions.
-/

import PulseCore.Network.ConnectionLaws

namespace PulseCore.Network

open PulseCore.Foundation PulseCore.Protocol

namespace Connection

/-- What `recv` was asked for behind the calls made so far: at least one byte, and
no more than the chunk, the budget and the space in the decoder allow. -/
def RecvFits (maxReadBytes : ℕ) (st : ReadState) (before : List RecvCall) (call : RecvCall) :
    Prop :=
  1 ≤ call.length ∧ call.length ≤ kReadChunk ∧
    st.totalRead + (receivedBytes before).length + call.length ≤ maxReadBytes ∧
    (frameFormat.leftover (st.connection.undecoded ++ receivedBytes before)).length +
      call.length ≤ st.connection.limits.maxInputBuffer

/-- The first call of the loop fits. -/
theorem recvFits_first {maxReadBytes n : ℕ} {st before : ReadState} (result : RecvResult)
    (hpass : beforeRecv maxReadBytes st = (before, .recv n)) :
    RecvFits maxReadBytes st [] ⟨n, result⟩ := by
  have hspec := beforeRecv_spec maxReadBytes st
  rw [hpass] at hspec
  obtain ⟨more, -, hsplits⟩ := hspec.decoded
  obtain ⟨hverdict, hpos, hchunk, hbudget, hspace⟩ := hspec.recv n rfl
  have hleftover : before.connection.undecoded = frameFormat.leftover st.connection.undecoded :=
    (hsplits.eq_frames (FrameFormat.exhausted_of_needMoreData hverdict)).2
  rw [hspec.total] at hbudget
  rw [hspec.same.limits, hleftover] at hspace
  refine ⟨hpos, hchunk, hbudget, ?_⟩
  rw [receivedBytes_nil, List.append_nil]
  exact hspace

/-- What fits a later pass of the loop fits the earlier one with one more call in
front. -/
theorem recvFits_later {maxReadBytes n : ℕ} {st before after : ReadState} {first call : RecvCall}
    {calls : List RecvCall} (hpass : beforeRecv maxReadBytes st = (before, .recv n))
    (hafter : afterRecv before first.result = (after, none))
    (hfits : RecvFits maxReadBytes after calls call) :
    RecvFits maxReadBytes st (first :: calls) call := by
  have hspec := beforeRecv_spec maxReadBytes st
  rw [hpass] at hspec
  obtain ⟨more, -, hsplits⟩ := hspec.decoded
  obtain ⟨hundecoded, hsame, -, htotal⟩ := goRound_spec hafter
  have hlimits := hsame.limits
  obtain ⟨hpos, hchunk, hbudget, hspace⟩ := hfits
  rw [htotal, hspec.total] at hbudget
  rw [hlimits, hspec.same.limits, hundecoded, List.append_assoc,
    ← hsplits.leftover_append] at hspace
  refine ⟨hpos, hchunk, ?_, hspace⟩
  rw [receivedBytes_cons, List.length_append]
  omega

/-- A single call has nothing in front of it. -/
theorem singleton_eq_append_cons {only call : RecvCall} {before after : List RecvCall}
    (hcalls : [only] = before ++ call :: after) : before = [] ∧ call = only := by
  cases before with
  | nil =>
      cases hcalls
      exact ⟨rfl, rfl⟩
  | cons first before =>
      exact absurd (List.cons.inj hcalls).2.symm
        (List.append_ne_nil_of_right_ne_nil _ (List.cons_ne_nil _ _))

theorem readLoop_recvFits (maxReadBytes : ℕ) (answers : List RecvResult) (st : ReadState) :
    ∀ before call after,
      (readLoop maxReadBytes answers st).calls = before ++ call :: after →
        RecvFits maxReadBytes st before call := by
  fun_induction readLoop maxReadBytes answers st with
  | case1 =>
      intro before call after hcalls
      exact absurd hcalls.symm (List.append_ne_nil_of_right_ne_nil _ (List.cons_ne_nil _ _))
  | case2 st mid n hpass =>
      intro before call after hcalls
      obtain ⟨rfl, rfl⟩ := singleton_eq_append_cons hcalls
      exact recvFits_first _ hpass
  | case3 st mid n hpass answer answers first last result hafter =>
      intro before call after hcalls
      obtain ⟨rfl, rfl⟩ := singleton_eq_append_cons hcalls
      exact recvFits_first _ hpass
  | case4 st mid n hpass answer answers first last hafter out ih =>
      intro before call after hcalls
      cases before with
      | nil =>
          obtain rfl : first = call := (List.cons.inj hcalls).1
          exact recvFits_first _ hpass
      | cons other before =>
          obtain ⟨rfl, hlater⟩ := List.cons.inj hcalls
          exact recvFits_later hpass hafter (ih before call after hlater)

/-- The budget bounds what is received, together with what was received before. -/
theorem readLoop_received (maxReadBytes : ℕ) (answers : List RecvResult) (st : ReadState) :
    st.totalRead + (receivedBytes (readLoop maxReadBytes answers st).calls).length ≤
      max maxReadBytes st.totalRead := by
  fun_induction readLoop maxReadBytes answers st with
  | case1 => exact Nat.le_max_right _ _
  | case2 => exact Nat.le_max_right _ _
  | case3 st mid n hpass answer answers call last result hafter =>
      rw [receivedBytes_cons, bytes_of_afterRecv_some hafter]
      exact Nat.le_max_right _ _
  | case4 st mid n hpass answer answers call last hafter out ih =>
      obtain ⟨-, -, hbudget, -⟩ := recvFits_first call.result hpass
      have hlength : call.bytes.length ≤ n := length_bytes_within n answer
      have htotal := (goRound_spec hafter).2.2.2
      have hmid : mid.totalRead = st.totalRead := by
        have hspec := (beforeRecv_spec maxReadBytes st).total
        rwa [hpass] at hspec
      rw [receivedBytes_cons, List.length_append]
      simp only [receivedBytes_nil, List.length_nil] at hbudget
      have hih : last.totalRead + (receivedBytes out.calls).length ≤
          max maxReadBytes last.totalRead := ih
      omega

/-- A `recv` that answered nothing was not asked for nothing: the kernel had
reported the end of the stream. -/
theorem readLoop_end (maxReadBytes : ℕ) (answers : List RecvResult) (st : ReadState)
    {call : RecvCall} (hmem : call ∈ (readLoop maxReadBytes answers st).calls)
    (hnothing : call.result = .received []) : .received [] ∈ answers := by
  have hanswer : ∀ {n : ℕ} {answer : RecvResult}, 1 ≤ n →
      answer.within n = .received [] → answer = .received [] := by
    intro n answer hpos hwithin
    cases answer with
    | failed error => cases hwithin
    | received bytes =>
        rw [RecvResult.within, RecvResult.received.injEq, List.take_eq_nil_iff] at hwithin
        rcases hwithin with hzero | rfl
        · omega
        · rfl
  fun_induction readLoop maxReadBytes answers st with
  | case1 => cases hmem
  | case2 =>
      cases List.mem_singleton.mp hmem
      cases hnothing
  | case3 st mid n hpass answer answers first last result hafter =>
      obtain rfl : call = first := List.mem_singleton.mp hmem
      have hpos := (recvFits_first first.result hpass).1
      rw [hanswer hpos hnothing]
      exact List.mem_cons_self
  | case4 st mid n hpass answer answers first last hafter out ih =>
      rcases List.mem_cons.mp hmem with rfl | hlater
      · have hpos := (recvFits_first first.result hpass).1
        rw [hanswer hpos hnothing]
        exact List.mem_cons_self
      · exact List.mem_cons_of_mem _ (ih hlater)

/-- With more answers than the budget and the interruptions account for, the read
loop has returned and does not look at any further one. -/
theorem readLoop_append (maxReadBytes : ℕ) (answers more : List RecvResult) (st : ReadState)
    (henough : (maxReadBytes - st.totalRead) + answers.count (.failed .eintr) < answers.length) :
    readLoop maxReadBytes (answers ++ more) st = readLoop maxReadBytes answers st := by
  fun_induction readLoop maxReadBytes answers st with
  | case1 answers st mid result hpass =>
      rw [readLoop.eq_def, hpass]
  | case2 => exact absurd henough (Nat.not_lt_zero _)
  | case3 st mid n hpass answer answers call last result hafter =>
      rw [List.cons_append, readLoop, hpass]
      simp only [call] at hafter
      simp only [hafter, call]
  | case4 st mid n hpass answer answers call last hafter out ih =>
      obtain ⟨-, -, hbudget, -⟩ := recvFits_first call.result hpass
      have hlater : (maxReadBytes - last.totalRead) + answers.count (.failed .eintr) <
          answers.length := by
        have hmid : mid.totalRead = st.totalRead := by
          have hspec := (beforeRecv_spec maxReadBytes st).total
          rwa [hpass] at hspec
        simp only [receivedBytes_nil, List.length_nil] at hbudget
        rw [List.length_cons] at henough
        cases answer with
        | failed error =>
            obtain ⟨hcall, rfl⟩ | ⟨bytes, -, hcall, -⟩ := afterRecv_none hafter
            · obtain rfl : error = .eintr := RecvResult.failed.inj hcall
              rw [List.count_cons_self] at henough
              omega
            · cases hcall
        | received bytes =>
            obtain ⟨hcall, -⟩ | ⟨delivered, hsome, hcall, hlast⟩ := afterRecv_none hafter
            · cases hcall
            · have hpos := List.length_pos_iff.mpr hsome
              have hlength := length_bytes_within n (.received bytes)
              rw [RecvCall.bytes, show (RecvResult.received bytes).within n = .received delivered
                from hcall] at hlength
              simp only at hlength
              rw [List.count_cons_of_ne (by simp)] at henough
              rw [hlast]
              simp only
              omega
      rw [List.cons_append, readLoop, hpass]
      simp only [call] at hafter
      simp only [hafter, ih hlater, call, out]

/-- What the budget means to a call of `WriteAvailable`, seen from a pass of its
loop that has `written` bytes behind it. -/
structure WriteBudget (maxWriteBytes written : ℕ) (out : WriteOutcome) : Prop where
  offered : ∀ call ∈ out.calls, 1 ≤ call.offered.length
  sent : written + (sentBytes out.calls).length ≤ max maxWriteBytes written
  reported : ∀ result, out.result = .ok result →
    result.bytesWritten = written + (sentBytes out.calls).length
  exhausted : ∀ result, out.result = .ok result → result.status = .kOk →
    out.connection.hasPendingOutput = true →
      maxWriteBytes ≤ written + (sentBytes out.calls).length

/-- The loop went round behind one more call. -/
theorem WriteBudget.goRound {maxWriteBytes written : ℕ} {call : SendCall} {out : WriteOutcome}
    (hoffered : 1 ≤ call.offered.length) (hbudget : written + call.bytes.length ≤ maxWriteBytes)
    (hout : WriteBudget maxWriteBytes (written + call.bytes.length) out) :
    WriteBudget maxWriteBytes written ⟨out.result, out.connection, call :: out.calls⟩ := by
  have hlength : (sentBytes (call :: out.calls)).length =
      call.bytes.length + (sentBytes out.calls).length := by
    rw [sentBytes_cons, List.length_append]
  have hsent := hout.sent
  refine ⟨?_, ?_, ?_, ?_⟩
  · exact List.forall_mem_cons.mpr ⟨hoffered, hout.offered⟩
  · rw [hlength]
    omega
  · intro result hok
    rw [hout.reported result hok, hlength, Nat.add_assoc]
  · intro result hok hstatus hpending
    have hexhausted := hout.exhausted result hok hstatus hpending
    rw [hlength]
    omega

/-- The loop ended behind a call that took nothing. -/
theorem WriteBudget.stop {maxWriteBytes written : ℕ} {call : SendCall} {connection : Connection}
    {result : Except Exception WriteAvailableResult} (hoffered : 1 ≤ call.offered.length)
    (hbytes : call.bytes = [])
    (hresult : ∀ r, result = .ok r → r.bytesWritten = written ∧ r.status ≠ .kOk) :
    WriteBudget maxWriteBytes written ⟨result, connection, [call]⟩ := by
  have hlength : (sentBytes [call]).length = 0 := by
    rw [sentBytes_cons, hbytes]
    rfl
  refine ⟨?_, ?_, ?_, ?_⟩
  · exact List.forall_mem_cons.mpr ⟨hoffered, List.forall_mem_nil _⟩
  · rw [hlength]
    exact Nat.le_max_right _ _
  · intro r hok
    rw [hlength]
    exact (hresult r hok).1
  · intro r hok hstatus
    exact absurd hstatus (hresult r hok).2

/-- What is offered to `send` while output is pending and budget is left. -/
theorem length_offered_pos {c : Connection} {maxWriteBytes written : ℕ}
    (hpending : c.output.offset < c.output.buffer.length) (hbudget : ¬ written ≥ maxWriteBytes) :
    1 ≤ (c.output.pending.take (min c.output.pending.length (maxWriteBytes - written))).length := by
  rw [List.length_take, OffsetBuffer.length_pending]
  omega

theorem writeLoop_budget (maxWriteBytes : ℕ) (answers : List SendResult) (c : Connection)
    (written : ℕ) : WriteBudget maxWriteBytes written (writeLoop maxWriteBytes answers c written) := by
  fun_induction writeLoop maxWriteBytes answers c written with
  | case1 answers c written hpending hbudget =>
      refine ⟨List.forall_mem_nil _, Nat.le_max_right _ _, ?_, fun _ _ _ _ => hbudget⟩
      rintro result ⟨⟩
      rfl
  | case2 c written hpending hbudget =>
      refine .stop (length_offered_pos hpending hbudget) rfl ?_
      rintro result ⟨⟩
      exact ⟨rfl, nofun⟩
  | case3 c written hpending hbudget _ _ offered answers out call ih =>
      refine .goRound (length_offered_pos hpending hbudget) ?_ ih
      exact Nat.le_of_not_le hbudget
  | case4 c written hpending hbudget _ _ offered error answers call hintr hblock =>
      refine .stop (length_offered_pos hpending hbudget) rfl ?_
      rintro result ⟨⟩
      exact ⟨rfl, nofun⟩
  | case5 c written hpending hbudget _ _ offered error answers call hintr hblock hclosed =>
      refine .stop (length_offered_pos hpending hbudget) rfl ?_
      rintro result ⟨⟩
      exact ⟨rfl, nofun⟩
  | case6 c written hpending hbudget _ _ offered error answers call hintr hblock hclosed =>
      exact .stop (length_offered_pos hpending hbudget) rfl nofun
  | case7 c written hpending hbudget _ _ offered count answers sent call hnone =>
      refine .stop (length_offered_pos hpending hbudget) ?_ ?_
      · simp only [SendCall.bytes, call, hnone, List.take_zero]
      · rintro result ⟨⟩
        exact ⟨rfl, nofun⟩
  | case8 c written hpending hbudget _ toWrite offered count answers sent call hsome output out ih =>
      have hbytes : call.bytes.length = sent := by
        simp only [SendCall.bytes, call, offered, List.length_take]
        omega
      refine .goRound (length_offered_pos hpending hbudget) ?_ ?_
      · rw [hbytes]
        omega
      · rw [hbytes]
        exact ih
  | case9 answers c written hdone =>
      refine ⟨List.forall_mem_nil _, Nat.le_max_right _ _, ?_, ?_⟩
      · rintro result ⟨⟩
        rfl
      · intro result _ _ hpending
        cases hpending

/-- With more answers than the budget and the interruptions account for, the write
loop has returned and does not look at any further one. -/
theorem writeLoop_append (maxWriteBytes : ℕ) (answers more : List SendResult) (c : Connection)
    (written : ℕ)
    (henough : (maxWriteBytes - written) + answers.count (.failed .eintr) < answers.length) :
    writeLoop maxWriteBytes (answers ++ more) c written =
      writeLoop maxWriteBytes answers c written := by
  fun_induction writeLoop maxWriteBytes answers c written with
  | case1 answers c written hpending hbudget =>
      rw [writeLoop.eq_def, if_pos hpending, if_pos hbudget]
  | case2 => exact absurd henough (Nat.not_lt_zero _)
  | case3 c written hpending hbudget _ _ offered answers out call ih =>
      rw [List.count_cons_self, List.length_cons] at henough
      rw [List.cons_append, writeLoop, if_pos hpending, if_neg hbudget]
      simp only [if_true, ih (by omega)]
      rfl
  | case4 c written hpending hbudget _ _ offered error answers call hintr hblock =>
      rw [List.cons_append, writeLoop, if_pos hpending, if_neg hbudget]
      simp only [if_neg hintr, if_pos hblock]
      rfl
  | case5 c written hpending hbudget _ _ offered error answers call hintr hblock hclosed =>
      rw [List.cons_append, writeLoop, if_pos hpending, if_neg hbudget]
      simp only [if_neg hintr, if_neg hblock, if_pos hclosed]
      rfl
  | case6 c written hpending hbudget _ _ offered error answers call hintr hblock hclosed =>
      rw [List.cons_append, writeLoop, if_pos hpending, if_neg hbudget]
      simp only [if_neg hintr, if_neg hblock, if_neg hclosed]
      rfl
  | case7 c written hpending hbudget _ _ offered count answers sent call hnone =>
      rw [List.cons_append, writeLoop, if_pos hpending, if_neg hbudget]
      exact if_pos hnone
  | case8 c written hpending hbudget _ toWrite offered count answers sent call hsome output out ih =>
      rw [List.count_cons_of_ne (by simp), List.length_cons] at henough
      rw [List.cons_append, writeLoop, if_pos hpending, if_neg hbudget]
      refine (if_neg hsome).trans ?_
      simp only [out, ← ih (by omega)]
      rfl
  | case9 answers c written hdone =>
      rw [writeLoop.eq_def, if_neg hdone]

/-! ## Both together -/

/-- Calls that transferred something are no more than the bytes transferred. -/
theorem countP_le_length_flatMap {α : Type} (bytes : α → List Byte) (calls : List α) :
    calls.countP (fun call => !(bytes call).isEmpty) ≤ (calls.flatMap bytes).length := by
  induction calls with
  | nil => exact Nat.le_refl _
  | cons call calls ih =>
      rw [List.countP_cons, List.flatMap_cons, List.length_append]
      split
      · next hsome =>
          have hpos : 0 < (bytes call).length := by
            apply List.length_pos_iff.mpr
            simpa using hsome
          omega
      · omega

/-- A value that no longer occurs from some point on occurs that often at most. -/
theorem count_map_range_le {α : Type} [DecidableEq α] (f : ℕ → α) (x : α) (bound : ℕ)
    (hlate : ∀ n, bound ≤ n → f n ≠ x) (m : ℕ) : ((List.range m).map f).count x ≤ min m bound := by
  induction m with
  | zero => exact Nat.zero_le _
  | succ m ih =>
      rw [List.range_succ, List.map_append, List.count_append, List.map_singleton]
      by_cases hm : bound ≤ m
      · rw [List.count_singleton, if_neg (by simpa using hlate m hm)]
        omega
      · have hone : [f m].count x ≤ 1 := List.count_le_length
        omega

end Connection

/-- A read receives at most its budget; each `recv` asks for at least one byte and
fits the chunk, what is left of the budget, and the space behind what the decoder
keeps of the bytes it has, so that an answer of zero bytes is the end of the
stream. A write sends at most its budget, reports what it sent, offers at least one
byte each time, and leaves output behind with `kOk` only when the budget is used
up. No more calls than the budget has bytes transfer anything, and the loops end
unless they are interrupted for ever. -/
theorem io_budgets (c : Connection) (budget : ℕ) :
    (∀ answers,
      (receivedBytes (c.readAvailable budget answers).calls).length ≤ budget ∧
      (∀ before call after, (c.readAvailable budget answers).calls = before ++ call :: after →
        1 ≤ call.length ∧ call.length ≤ 4096 ∧
        (receivedBytes before).length + call.length ≤ budget ∧
        (frameFormat.leftover (c.undecoded ++ receivedBytes before)).length + call.length ≤
          c.limits.maxInputBuffer) ∧
      (∀ call ∈ (c.readAvailable budget answers).calls,
        call.result = .received [] → .received [] ∈ answers) ∧
      (c.readAvailable budget answers).calls.countP (fun call => !call.bytes.isEmpty) ≤ budget) ∧
    (∀ answers,
      (sentBytes (c.writeAvailable budget answers).calls).length ≤ budget ∧
      (∀ result, (c.writeAvailable budget answers).result = .ok result →
        result.bytesWritten = (sentBytes (c.writeAvailable budget answers).calls).length) ∧
      (∀ call ∈ (c.writeAvailable budget answers).calls, 1 ≤ call.offered.length) ∧
      (∀ result, (c.writeAvailable budget answers).result = .ok result → result.status = .kOk →
        (c.writeAvailable budget answers).connection.hasPendingOutput = true →
          (sentBytes (c.writeAvailable budget answers).calls).length = budget) ∧
      (c.writeAvailable budget answers).calls.countP (fun call => !call.bytes.isEmpty) ≤ budget) ∧
    (∀ answers : ℕ → RecvResult, (∃ bound, ∀ n, bound ≤ n → answers n ≠ .failed .eintr) →
      ∃ n, ∀ more, c.readAvailable budget ((List.range n).map answers ++ more) =
        c.readAvailable budget ((List.range n).map answers)) ∧
    (∀ answers : ℕ → SendResult, (∃ bound, ∀ n, bound ≤ n → answers n ≠ .failed .eintr) →
      ∃ n, ∀ more, c.writeAvailable budget ((List.range n).map answers ++ more) =
        c.writeAvailable budget ((List.range n).map answers)) := by
  refine ⟨fun answers => ?_, fun answers => ?_, ?_, ?_⟩
  · have hreceived := Connection.readLoop_received budget answers ⟨c, [], false, 0⟩
    rw [Nat.zero_add, Nat.max_eq_left (Nat.zero_le _)] at hreceived
    refine ⟨hreceived, ?_, ?_, ?_⟩
    · intro before call after hcalls
      obtain ⟨hpos, hchunk, hbudget, hspace⟩ :=
        Connection.readLoop_recvFits budget answers ⟨c, [], false, 0⟩ before call after hcalls
      rw [Nat.zero_add] at hbudget
      exact ⟨hpos, hchunk, hbudget, hspace⟩
    · exact fun call hmem hnothing => Connection.readLoop_end budget answers _ hmem hnothing
    · exact Nat.le_trans (Connection.countP_le_length_flatMap _ _) hreceived
  · have hwrite := Connection.writeLoop_budget budget answers c 0
    have hsent := hwrite.sent
    rw [Nat.zero_add, Nat.max_eq_left (Nat.zero_le _)] at hsent
    refine ⟨hsent, ?_, hwrite.offered, ?_, ?_⟩
    · intro result hok
      rw [hwrite.reported result hok, Nat.zero_add]
      rfl
    · intro result hok hstatus hpending
      have hexhausted := hwrite.exhausted result hok hstatus hpending
      rw [Nat.zero_add] at hexhausted
      exact Nat.le_antisymm hsent hexhausted
    · exact Nat.le_trans (Connection.countP_le_length_flatMap _ _) hsent
  · rintro answers ⟨bound, hlate⟩
    refine ⟨budget + bound + 1, fun more => Connection.readLoop_append _ _ _ _ ?_⟩
    have hcount := Connection.count_map_range_le answers _ bound hlate (budget + bound + 1)
    rw [List.length_map, List.length_range]
    simp only
    omega
  · rintro answers ⟨bound, hlate⟩
    refine ⟨budget + bound + 1, fun more => Connection.writeLoop_append _ _ _ _ _ ?_⟩
    have hcount := Connection.count_map_range_le answers _ bound hlate (budget + bound + 1)
    rw [List.length_map, List.length_range]
    omega

end PulseCore.Network
