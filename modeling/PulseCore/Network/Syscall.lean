/-
# The system interface

The code talks to the kernel through a handful of calls. What a call answers is
not determined by the program, so it is data here: an answer says what the
kernel would do if it had no length to respect, and `within` cuts it to the
length the program asked for. Every list of answers is thereby a possible
behaviour, and quantifying over all lists covers all of them. A list that runs
out stands for a kernel that has nothing more to give just now (`EAGAIN`).

Each call is also recorded with its requested length, so that statements can
speak about what was sent, received and asked for.
-/

import PulseCore.Protocol.Codec

namespace PulseCore.Network

open PulseCore.Protocol

abbrev Fd := ℤ

def kInvalidFd : Fd := -1

/-- The kernel hands out a descriptor that is not open: the wished-for one when it is free,
otherwise one above all open ones. -/
def freshAmong (openFds : List Fd) (wish : ℕ) : Fd :=
  if (wish : Fd) ∉ openFds then wish else openFds.foldr max 0 + 1

theorem le_foldr_max (fds : List Fd) : 0 ≤ fds.foldr max 0 ∧ ∀ fd ∈ fds, fd ≤ fds.foldr max 0 := by
  induction fds with
  | nil => exact ⟨Int.le_refl _, nofun⟩
  | cons first fds ih =>
      refine ⟨Int.le_trans ih.1 (Int.le_max_right _ _), fun fd hmem => ?_⟩
      rcases List.mem_cons.mp hmem with rfl | hrest
      · exact Int.le_max_left _ _
      · exact Int.le_trans (ih.2 fd hrest) (Int.le_max_right _ _)

theorem freshAmong_notMem (openFds : List Fd) (wish : ℕ) : freshAmong openFds wish ∉ openFds := by
  unfold freshAmong
  split
  · next hfree => exact hfree
  · intro hmem
    exact absurd ((le_foldr_max openFds).2 _ hmem) (Int.not_le.mpr (Int.lt_succ _))

theorem freshAmong_ne_invalid (openFds : List Fd) (wish : ℕ) :
    freshAmong openFds wish ≠ kInvalidFd := by
  have hopen := (le_foldr_max openFds).1
  unfold freshAmong
  split
  · show (wish : ℤ) ≠ -1
    omega
  · exact Int.ne_of_gt (Int.lt_of_lt_of_le (by decide) (Int.add_le_add_right hopen 1))

/-- The `errno` values the code names, the ones its documentation mentions, and
all others by number. -/
inductive Errno
  | eintr
  | eagain
  | ewouldblock
  | econnreset
  | epipe
  | enoent
  | eexist
  | emfile
  | enfile
  | econnaborted
  | etimedout
  | ehostunreach
  | ebadf
  | other (code : ℕ)
  deriving DecidableEq

/-- The exceptions the modelled functions throw: `SyscallError` is a
`std::runtime_error` whose text names the operation and the error. -/
inductive Exception
  | syscallError (operation : String) (error : Errno)
  | runtimeError (what : String)
  | invalidArgument (what : String)
  deriving DecidableEq

/-- What constructors throw besides: `std::thread` throws a `std::system_error`, and a
container a `std::length_error` when it is asked for more than it can ever hold, and a
`std::bad_alloc` when there is no memory. -/
inductive ConstructionError
  | exception (exception : Exception)
  | systemError (error : Errno)
  | lengthError (what : String)
  | badAlloc
  deriving DecidableEq

/-- `max_size` of a vector of eight-byte elements, as threads and times are: as many as a
`std::ptrdiff_t` can tell apart. -/
def kMaxVectorSize : ℕ := (UInt64.size / 2 - 1) / 8

def isWouldBlock (error : Errno) : Bool := error = .eagain || error = .ewouldblock

def isPeerClosedError (error : Errno) : Bool := error = .econnreset || error = .epipe

theorem isPeerClosedError_of_isWouldBlock {error : Errno} (hblock : isWouldBlock error = true) :
    isPeerClosedError error = false := by
  simp only [isWouldBlock, Bool.or_eq_true, decide_eq_true_eq] at hblock
  rcases hblock with rfl | rfl <;> rfl

/-- An answer of `recv`; no bytes means that the peer has closed its side. -/
inductive RecvResult
  | received (bytes : List Byte)
  | failed (error : Errno)
  deriving DecidableEq

/-- The kernel never delivers more than it was asked for. -/
def RecvResult.within (length : ℕ) : RecvResult → RecvResult
  | .received bytes => .received (bytes.take length)
  | .failed error => .failed error

/-- One `recv` as it happened. -/
structure RecvCall where
  length : ℕ
  result : RecvResult
  deriving DecidableEq

/-- The bytes a call delivered. -/
def RecvCall.bytes (call : RecvCall) : List Byte :=
  match call.result with
  | .received bytes => bytes
  | .failed _ => []

/-- The call reported that the peer is gone, in order or by a reset. -/
def RecvCall.isEnd (call : RecvCall) : Bool :=
  match call.result with
  | .received bytes => bytes.isEmpty
  | .failed error => isPeerClosedError error

/-- Everything a sequence of calls delivered. -/
def receivedBytes (calls : List RecvCall) : List Byte := calls.flatMap RecvCall.bytes

/-- An answer of `send`: how many of the offered bytes it took. -/
inductive SendResult
  | sent (count : ℕ)
  | failed (error : Errno)
  deriving DecidableEq

/-- The kernel never takes more than it was offered. -/
def SendResult.within (length : ℕ) : SendResult → SendResult
  | .sent count => .sent (min count length)
  | .failed error => .failed error

/-- One `send` as it happened: what was offered and what came of it. -/
structure SendCall where
  offered : List Byte
  result : SendResult
  deriving DecidableEq

/-- The bytes a call took. -/
def SendCall.bytes (call : SendCall) : List Byte :=
  match call.result with
  | .sent count => call.offered.take count
  | .failed _ => []

/-- Everything a sequence of calls took. -/
def sentBytes (calls : List SendCall) : List Byte := calls.flatMap SendCall.bytes

/-! ## Laws of the records -/

@[simp]
theorem receivedBytes_nil : receivedBytes [] = [] := rfl

@[simp]
theorem receivedBytes_cons (call : RecvCall) (calls : List RecvCall) :
    receivedBytes (call :: calls) = call.bytes ++ receivedBytes calls := rfl

@[simp]
theorem receivedBytes_append (first second : List RecvCall) :
    receivedBytes (first ++ second) = receivedBytes first ++ receivedBytes second :=
  List.flatMap_append

@[simp]
theorem sentBytes_nil : sentBytes [] = [] := rfl

@[simp]
theorem sentBytes_cons (call : SendCall) (calls : List SendCall) :
    sentBytes (call :: calls) = call.bytes ++ sentBytes calls := rfl

@[simp]
theorem sentBytes_append (first second : List SendCall) :
    sentBytes (first ++ second) = sentBytes first ++ sentBytes second :=
  List.flatMap_append

end PulseCore.Network
