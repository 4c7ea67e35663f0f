/-
# Frame formats that decide by prefix

A frame format reads the front of a buffer and either hands back one message
with the number of symbols it took, asks for more input, or rejects the buffer.
Two laws make such a format usable on a stream that arrives in pieces: a frame
takes at least one symbol and no more than there are, and a verdict other than
"need more" is final, whatever arrives behind it.

Under these laws the messages of a stream do not depend on how it was cut. The
relation `Splits` says that a buffer falls into some messages and a rest; the
function `parse` computes the longest such split. Everything else is the
interplay of the two.
-/

import Mathlib.Data.List.Basic
import Mathlib.Data.Nat.Basic
import Mathlib.Tactic.Common

namespace PulseCore.Foundation

universe u v w

/-- The answer of a decoder about the front of a buffer. -/
inductive Verdict (μ : Type v) (ε : Type w)
  | needMoreData
  | decoded (message : μ) (bytesConsumed : ℕ)
  | error (error : ε)
  deriving DecidableEq

namespace Verdict

variable {μ : Type v} {ε : Type w}

/-- The verdict of a decoder that never completes a frame beyond a size. -/
def limit (size : ℕ) : Verdict μ ε → Verdict μ ε
  | .decoded m n => if n ≤ size then .decoded m n else .needMoreData
  | .needMoreData => .needMoreData
  | .error e => .error e

theorem limit_eq_decoded_iff {size n : ℕ} {verdict : Verdict μ ε} {m : μ} :
    verdict.limit size = .decoded m n ↔ verdict = .decoded m n ∧ n ≤ size := by
  cases verdict with
  | needMoreData => simp [limit]
  | error e => simp [limit]
  | decoded m' n' =>
      rw [limit]
      split
      · next hle =>
          refine ⟨fun hsame => ⟨hsame, ?_⟩, fun hsame => hsame.1⟩
          cases hsame
          exact hle
      · next hlarge =>
          simp only [reduceCtorEq, decoded.injEq, false_iff, not_and, and_imp]
          rintro - rfl
          exact hlarge

theorem limit_eq_error_iff {size : ℕ} {verdict : Verdict μ ε} {e : ε} :
    verdict.limit size = .error e ↔ verdict = .error e := by
  cases verdict with
  | needMoreData => simp [limit]
  | error e' => simp [limit]
  | decoded m n =>
      rw [limit]
      split <;> simp

end Verdict

/-- A format whose verdicts depend on a prefix of the buffer only. -/
structure FrameFormat (α : Type u) (μ : Type v) (ε : Type w) where
  /-- Inspect the front of a buffer. -/
  decode : List α → Verdict μ ε
  /-- A frame is never empty. -/
  pos_of_decoded : ∀ {bytes m n}, decode bytes = .decoded m n → 0 < n
  /-- A frame lies inside the buffer it was read from. -/
  le_of_decoded : ∀ {bytes m n}, decode bytes = .decoded m n → n ≤ bytes.length
  /-- A frame stays the same frame when more input arrives. -/
  decoded_append : ∀ {bytes m n} (more : List α),
    decode bytes = .decoded m n → decode (bytes ++ more) = .decoded m n
  /-- A rejected buffer stays rejected for the same reason. -/
  error_append : ∀ {bytes e} (more : List α),
    decode bytes = .error e → decode (bytes ++ more) = .error e

namespace FrameFormat

variable {α : Type u} {μ : Type v} {ε : Type w} (F : FrameFormat α μ ε)

/-- Behind a frame the buffer is shorter. -/
theorem length_drop_lt_of_decoded {bytes : List α} {m : μ} {n : ℕ}
    (hdecode : F.decode bytes = .decoded m n) : (bytes.drop n).length < bytes.length := by
  have hpos := F.pos_of_decoded hdecode
  have hle := F.le_of_decoded hdecode
  rw [List.length_drop]
  omega

/-- `bytes` starts with the frames of `messages`, one behind the other, and
`rest` is what follows them. -/
inductive Splits : List α → List μ → List α → Prop
  | nil (bytes : List α) : Splits bytes [] bytes
  | cons {bytes : List α} {m : μ} {n : ℕ} {messages : List μ} {rest : List α}
      (hdecode : F.decode bytes = .decoded m n)
      (htail : Splits (bytes.drop n) messages rest) :
      Splits bytes (m :: messages) rest

variable {F}

/-- Splits compose: what is left over after some frames may be split further. -/
theorem Splits.trans {bytes middle rest : List α} {first second : List μ}
    (hfirst : F.Splits bytes first middle) (hsecond : F.Splits middle second rest) :
    F.Splits bytes (first ++ second) rest := by
  induction hfirst with
  | nil => exact hsecond
  | cons hdecode _ ih => exact .cons hdecode (ih hsecond)

/-- Input that arrives later only lengthens the rest. -/
theorem Splits.append {bytes rest : List α} {messages : List μ}
    (hsplit : F.Splits bytes messages rest) (more : List α) :
    F.Splits (bytes ++ more) messages (rest ++ more) := by
  induction hsplit with
  | nil bytes => exact .nil _
  | cons hdecode _ ih =>
      refine .cons (F.decoded_append more hdecode) ?_
      rwa [List.drop_append_of_le_length (F.le_of_decoded hdecode)]

/-- Splitting a stream in two goes: first its beginning, then what was left of
it together with the continuation. -/
theorem Splits.extend {bytes middle more rest : List α} {first second : List μ}
    (hfirst : F.Splits bytes first middle)
    (hsecond : F.Splits (middle ++ more) second rest) :
    F.Splits (bytes ++ more) (first ++ second) rest :=
  (hfirst.append more).trans hsecond

/-- A single frame in front of a buffer. -/
theorem Splits.single {bytes : List α} {m : μ} {n : ℕ}
    (hdecode : F.decode bytes = .decoded m n) :
    F.Splits bytes [m] (bytes.drop n) :=
  .cons hdecode (.nil _)

/-- The rest is never longer than the buffer it was left over from. -/
theorem Splits.length_rest_le {bytes rest : List α} {messages : List μ}
    (hsplit : F.Splits bytes messages rest) : rest.length ≤ bytes.length := by
  induction hsplit with
  | nil => exact le_rfl
  | cons _ _ ih =>
      refine Nat.le_trans ih ?_
      simp only [List.length_drop]
      omega

variable (F)

/-- No further frame can be read off the front. -/
def Exhausted (bytes : List α) : Prop :=
  ∀ m n, F.decode bytes ≠ .decoded m n

/-- Read frames until none is complete. The fuel is the length of the buffer,
which suffices because a frame is never empty. -/
def parseWith : ℕ → List α → List μ × List α
  | 0, bytes => ([], bytes)
  | fuel + 1, bytes =>
      match F.decode bytes with
      | .decoded m n =>
          let (messages, rest) := parseWith fuel (bytes.drop n)
          (m :: messages, rest)
      | .needMoreData => ([], bytes)
      | .error _ => ([], bytes)

/-- The reference parse of a buffer: its frames from the front, and the rest. -/
def parse (bytes : List α) : List μ × List α :=
  F.parseWith bytes.length bytes

/-- The frames of a buffer. -/
def frames (bytes : List α) : List μ := (F.parse bytes).1

/-- What follows the frames of a buffer. -/
def leftover (bytes : List α) : List α := (F.parse bytes).2

theorem splits_parseWith (fuel : ℕ) (bytes : List α) :
    F.Splits bytes (F.parseWith fuel bytes).1 (F.parseWith fuel bytes).2 := by
  induction fuel generalizing bytes with
  | zero => exact .nil _
  | succ fuel ih =>
      rw [parseWith]
      split
      · next m n hdecode => exact .cons hdecode (ih _)
      · exact .nil _
      · exact .nil _

theorem exhausted_parseWith (fuel : ℕ) (bytes : List α) (hfuel : bytes.length ≤ fuel) :
    F.Exhausted (F.parseWith fuel bytes).2 := by
  induction fuel generalizing bytes with
  | zero =>
      intro m n hdecode
      have hpos := F.pos_of_decoded hdecode
      have hle := F.le_of_decoded hdecode
      simp only [parseWith] at hle
      omega
  | succ fuel ih =>
      rw [parseWith]
      split
      · next m n hdecode =>
          have hshorter := F.length_drop_lt_of_decoded hdecode
          exact ih _ (Nat.le_of_lt_succ (Nat.lt_of_lt_of_le hshorter hfuel))
      · next hdecode => intro m n; simp [hdecode]
      · next e hdecode => intro m n; simp [hdecode]

/-- The reference parse is a split. -/
theorem splits_frames (bytes : List α) :
    F.Splits bytes (F.frames bytes) (F.leftover bytes) :=
  F.splits_parseWith _ _

/-- The reference parse cannot be continued. -/
theorem exhausted_leftover (bytes : List α) : F.Exhausted (F.leftover bytes) :=
  F.exhausted_parseWith _ _ le_rfl

variable {F}

/-- Any split is an initial part of any split that cannot be continued. -/
theorem Splits.isPrefix_of_exhausted {bytes rest last : List α} {messages all : List μ}
    (hsplit : F.Splits bytes messages rest) (hall : F.Splits bytes all last)
    (hlast : F.Exhausted last) : messages <+: all := by
  induction hsplit generalizing all with
  | nil => exact List.nil_prefix
  | cons hdecode _ ih =>
      cases hall with
      | nil => exact absurd hdecode (hlast _ _)
      | cons hdecode' htail' =>
          rw [hdecode] at hdecode'
          cases hdecode'
          exact List.prefix_cons_inj _ |>.mpr (ih htail')

/-- Two splits that cannot be continued are the same split. -/
theorem Splits.eq_of_exhausted {bytes rest last : List α} {messages all : List μ}
    (hsplit : F.Splits bytes messages rest) (hrest : F.Exhausted rest)
    (hall : F.Splits bytes all last) (hlast : F.Exhausted last) :
    messages = all ∧ rest = last := by
  induction hsplit generalizing all with
  | nil =>
      cases hall with
      | nil => exact ⟨rfl, rfl⟩
      | cons hdecode _ => exact absurd hdecode (hrest _ _)
  | cons hdecode _ ih =>
      cases hall with
      | nil => exact absurd hdecode (hlast _ _)
      | cons hdecode' htail' =>
          rw [hdecode] at hdecode'
          cases hdecode'
          obtain ⟨rfl, rfl⟩ := ih hrest htail'
          exact ⟨rfl, rfl⟩

/-- A message of a split was decoded from some buffer. -/
theorem Splits.decoded_of_mem {bytes rest : List α} {messages : List μ} {m : μ}
    (hsplit : F.Splits bytes messages rest) (hmem : m ∈ messages) :
    ∃ buffer n, F.decode buffer = .decoded m n := by
  induction hsplit with
  | nil => cases hmem
  | cons hdecode _ ih =>
      rcases List.mem_cons.mp hmem with rfl | htail
      · exact ⟨_, _, hdecode⟩
      · exact ih htail

/-- A buffer without a frame only splits into itself. -/
theorem Splits.of_exhausted {bytes rest : List α} {messages : List μ}
    (hsplit : F.Splits bytes messages rest) (hnone : F.Exhausted bytes) :
    messages = [] ∧ rest = bytes := by
  cases hsplit with
  | nil => exact ⟨rfl, rfl⟩
  | cons hdecode _ => exact absurd hdecode (hnone _ _)

/-- A split finds frames of the reference parse, in order. -/
theorem Splits.isPrefix_frames {bytes rest : List α} {messages : List μ}
    (hsplit : F.Splits bytes messages rest) : messages <+: F.frames bytes :=
  hsplit.isPrefix_of_exhausted (F.splits_frames bytes) (F.exhausted_leftover bytes)

/-- A split that cannot be continued is the reference parse. -/
theorem Splits.eq_frames {bytes rest : List α} {messages : List μ}
    (hsplit : F.Splits bytes messages rest) (hrest : F.Exhausted rest) :
    messages = F.frames bytes ∧ rest = F.leftover bytes :=
  hsplit.eq_of_exhausted hrest (F.splits_frames bytes) (F.exhausted_leftover bytes)

/-- The frames of a buffer are the first one and those behind it. -/
theorem frames_eq_cons {bytes : List α} {m : μ} {n : ℕ}
    (hdecode : F.decode bytes = .decoded m n) :
    F.frames bytes = m :: F.frames (bytes.drop n) :=
  (Splits.eq_frames (.cons hdecode (F.splits_frames _)) (F.exhausted_leftover _)).1.symm

theorem frames_eq_nil {bytes : List α} (hnone : F.Exhausted bytes) : F.frames bytes = [] :=
  (Splits.eq_frames (.nil _) hnone).1.symm

/-- Frames that were read off already do not matter to what is left over. -/
theorem Splits.leftover_append {bytes rest : List α} {messages : List μ}
    (hsplit : F.Splits bytes messages rest) (more : List α) :
    F.leftover (bytes ++ more) = F.leftover (rest ++ more) :=
  ((hsplit.extend (F.splits_frames (rest ++ more))).eq_frames (F.exhausted_leftover _)).2.symm

/-- Frames that were read off come first, and then those of what they left. -/
theorem Splits.frames_append {bytes rest : List α} {messages : List μ}
    (hsplit : F.Splits bytes messages rest) (more : List α) :
    F.frames (bytes ++ more) = messages ++ F.frames (rest ++ more) :=
  ((hsplit.extend (F.splits_frames (rest ++ more))).eq_frames (F.exhausted_leftover _)).1.symm

/-- The frames of a stream only grow while the stream does. -/
theorem frames_isPrefix_of_isPrefix {bytes stream : List α} (hpre : bytes <+: stream) :
    F.frames bytes <+: F.frames stream := by
  obtain ⟨more, rfl⟩ := hpre
  exact ((F.splits_frames bytes).append more).isPrefix_frames

/-- A rest on which the decoder asks for more, or gives up, has no frame. -/
theorem exhausted_of_needMoreData {bytes : List α} (hdecode : F.decode bytes = .needMoreData) :
    F.Exhausted bytes := by
  intro m n
  simp [hdecode]

theorem exhausted_of_error {bytes : List α} {e : ε} (hdecode : F.decode bytes = .error e) :
    F.Exhausted bytes := by
  intro m n
  simp [hdecode]

variable (F) in
/-- The format without its frames beyond a size: they are never complete. -/
def limit (size : ℕ) : FrameFormat α μ ε where
  decode bytes := (F.decode bytes).limit size
  pos_of_decoded hdecode := F.pos_of_decoded (Verdict.limit_eq_decoded_iff.mp hdecode).1
  le_of_decoded hdecode := F.le_of_decoded (Verdict.limit_eq_decoded_iff.mp hdecode).1
  decoded_append more hdecode := by
    obtain ⟨hframe, hsize⟩ := Verdict.limit_eq_decoded_iff.mp hdecode
    exact Verdict.limit_eq_decoded_iff.mpr ⟨F.decoded_append more hframe, hsize⟩
  error_append more hdecode :=
    Verdict.limit_eq_error_iff.mpr (F.error_append more (Verdict.limit_eq_error_iff.mp hdecode))

theorem limit_decode_eq_decoded_iff {size n : ℕ} {bytes : List α} {m : μ} :
    (F.limit size).decode bytes = .decoded m n ↔ F.decode bytes = .decoded m n ∧ n ≤ size :=
  Verdict.limit_eq_decoded_iff

/-- Frames out of a buffer no longer than the size are within the size. -/
theorem Splits.limit {size : ℕ} {bytes rest : List α} {messages : List μ}
    (hsplit : F.Splits bytes messages rest) (hsize : bytes.length ≤ size) :
    (F.limit size).Splits bytes messages rest := by
  induction hsplit with
  | nil => exact .nil _
  | cons hdecode _ ih =>
      have hle := F.le_of_decoded hdecode
      refine .cons (limit_decode_eq_decoded_iff.mpr ⟨hdecode, by omega⟩) (ih ?_)
      rw [List.length_drop]
      omega

variable (F)

/-- Inspect, advance behind each frame, and stop at a buffer that is rejected or
incomplete; a rejection is the last verdict. -/
def verdictsWith : ℕ → List α → List (Verdict μ ε)
  | 0, _ => []
  | fuel + 1, bytes =>
      match F.decode bytes with
      | .needMoreData => []
      | .error e => [.error e]
      | .decoded m n => .decoded m n :: verdictsWith fuel (bytes.drop n)

/-- All verdicts on a buffer. One pass more than there are symbols is enough,
because a frame is never empty. -/
def verdicts (bytes : List α) : List (Verdict μ ε) :=
  F.verdictsWith (bytes.length + 1) bytes

variable {F}

/-- Fuel beyond the length of the buffer changes nothing. -/
theorem verdictsWith_eq {fuel fuel' : ℕ} {bytes : List α} (hfuel : bytes.length < fuel)
    (hfuel' : bytes.length < fuel') : F.verdictsWith fuel bytes = F.verdictsWith fuel' bytes := by
  induction fuel generalizing fuel' bytes with
  | zero => exact absurd hfuel (Nat.not_lt_zero _)
  | succ fuel ih =>
      cases fuel' with
      | zero => exact absurd hfuel' (Nat.not_lt_zero _)
      | succ fuel' =>
          rw [verdictsWith, verdictsWith]
          split
          · rfl
          · rfl
          · next m n hdecode =>
              have hshorter := F.length_drop_lt_of_decoded hdecode
              exact congrArg _ (ih (by omega) (by omega))

theorem verdicts_of_needMoreData {bytes : List α} (hdecode : F.decode bytes = .needMoreData) :
    F.verdicts bytes = [] := by
  rw [verdicts, verdictsWith, hdecode]

theorem verdicts_of_error {bytes : List α} {e : ε} (hdecode : F.decode bytes = .error e) :
    F.verdicts bytes = [.error e] := by
  rw [verdicts, verdictsWith, hdecode]

theorem verdicts_of_decoded {bytes : List α} {m : μ} {n : ℕ}
    (hdecode : F.decode bytes = .decoded m n) :
    F.verdicts bytes = .decoded m n :: F.verdicts (bytes.drop n) := by
  have hshorter := F.length_drop_lt_of_decoded hdecode
  rw [verdicts, verdictsWith, hdecode]
  exact congrArg _ (verdictsWith_eq hshorter (Nat.lt_succ_self _))

/-- A frame in front stays in front of whatever arrives. -/
theorem verdicts_append_of_decoded {bytes : List α} {m : μ} {n : ℕ}
    (hdecode : F.decode bytes = .decoded m n) (more : List α) :
    F.verdicts (bytes ++ more) = .decoded m n :: F.verdicts (bytes.drop n ++ more) := by
  rw [verdicts_of_decoded (F.decoded_append more hdecode),
    List.drop_append_of_le_length (F.le_of_decoded hdecode)]

end FrameFormat

namespace Verdict

variable {μ : Type v} {ε : Type w}

/-- What a decoder reported: its frames up to the first rejection, and that one.
Requests for more input report nothing. -/
def throughFirstError : List (Verdict μ ε) → List (Verdict μ ε)
  | [] => []
  | .needMoreData :: results => throughFirstError results
  | .error e :: _ => [.error e]
  | .decoded m n :: results => .decoded m n :: throughFirstError results

/-- The symbols of all frames among some verdicts. -/
def frameBytes : List (Verdict μ ε) → ℕ
  | [] => 0
  | .decoded _ n :: results => n + frameBytes results
  | .needMoreData :: results => frameBytes results
  | .error _ :: results => frameBytes results

end Verdict

end PulseCore.Foundation
