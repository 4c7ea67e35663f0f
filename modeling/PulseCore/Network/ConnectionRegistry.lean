/-
# The connection registry

The registry owns the live connections and numbers them. Numbers start at one
and are never given out twice, so a number that refers to a removed connection
can never come to mean another one, whatever happens to file descriptors.
-/

import PulseCore.Network.ConnectionLaws
import Mathlib.Data.List.AList

namespace PulseCore.Network

/-- What `fcntl` answers while `SetNonBlocking` runs: the flags (here: whether
`O_NONBLOCK` is among them) or an error, and the error of setting them, if any. -/
structure FcntlAnswers where
  getFlags : Except Errno Bool := .ok true
  setFlags : Option Errno := none

def setNonBlocking (answers : FcntlAnswers) : Except Exception Unit :=
  match answers.getFlags with
  | .error error => .error (.syscallError "fcntl(F_GETFL)" error)
  | .ok true => .ok ()
  | .ok false =>
      match answers.setFlags with
      | some error => .error (.syscallError "fcntl(F_SETFL)" error)
      | none => .ok ()

/-- `std::numeric_limits<std::uint64_t>::max()`. -/
def kMaxUInt64 : UInt64 := 0xFFFFFFFFFFFFFFFF

structure ConnectionRegistry where
  limits : ConnectionLimits
  nextId : ConnectionId
  connections : AList (fun _ : UInt64 => Connection)
  /-- The ids that `Add` has returned, newest first. -/
  issued : List ConnectionId

namespace ConnectionRegistry

def create (limits : ConnectionLimits) : ConnectionRegistry := ⟨limits, ⟨1⟩, ∅, []⟩

def add (r : ConnectionRegistry) (fd : Fd) (fcntl : FcntlAnswers) :
    Except Exception ConnectionId × ConnectionRegistry :=
  if fd = kInvalidFd then (.error (.invalidArgument "cannot register invalid connection fd"), r)
  else if r.nextId.value = kMaxUInt64 then
    (.error (.runtimeError "connection id space exhausted"), r)
  else
    match setNonBlocking fcntl with
    | .error error => (.error error, r)
    | .ok () =>
        let id := r.nextId
        let r := { r with nextId := ⟨id.value + 1⟩ }
        if id.value ∈ r.connections then
          (.error (.runtimeError "duplicate connection id"), r)
        else
          (.ok id,
            { r with
              connections := r.connections.insert id.value (.create id fd r.limits)
              issued := id :: r.issued })

def find (r : ConnectionRegistry) (id : ConnectionId) : Option Connection :=
  r.connections.lookup id.value

def remove (r : ConnectionRegistry) (id : ConnectionId) : Bool × ConnectionRegistry :=
  (decide (id.value ∈ r.connections), { r with connections := r.connections.erase id.value })

def size (r : ConnectionRegistry) : ℕ := r.connections.keys.length

/-- Write through the pointer that `Find` returned. -/
def put (r : ConnectionRegistry) (id : ConnectionId) (connection : Connection) :
    ConnectionRegistry :=
  { r with connections := r.connections.insert id.value connection }

@[simp]
theorem find_put_self (r : ConnectionRegistry) (id : ConnectionId) (connection : Connection) :
    (r.put id connection).find id = some connection :=
  AList.lookup_insert _

theorem find_put_of_ne (r : ConnectionRegistry) {id other : ConnectionId}
    (connection : Connection) (hne : other ≠ id) :
    (r.put id connection).find other = r.find other :=
  AList.lookup_insert_ne fun hvalue => hne (congrArg ConnectionId.mk hvalue)

@[simp]
theorem find_remove_self (r : ConnectionRegistry) (id : ConnectionId) :
    (r.remove id).2.find id = none :=
  AList.lookup_erase _ _

theorem find_remove_of_ne (r : ConnectionRegistry) {id other : ConnectionId} (hne : other ≠ id) :
    (r.remove id).2.find other = r.find other :=
  AList.lookup_erase_ne fun hvalue => hne (congrArg ConnectionId.mk hvalue)

theorem mem_connections_iff (r : ConnectionRegistry) (id : ConnectionId) :
    id.value ∈ r.connections ↔ ∃ connection, r.find id = some connection := by
  rw [← AList.lookup_isSome, Option.isSome_iff_exists]
  rfl

/-- Writing to a connection that is there neither adds nor removes one. -/
theorem size_put (r : ConnectionRegistry) {id : ConnectionId} {old : Connection}
    (hold : r.find id = some old) (connection : Connection) :
    (r.put id connection).size = r.size := by
  have hmem : id.value ∈ r.connections.keys := (r.mem_connections_iff id).mpr ⟨old, hold⟩
  simp only [size, put, AList.keys_insert, List.length_cons, List.length_erase_of_mem hmem]
  exact Nat.succ_pred_eq_of_pos (List.length_pos_of_mem hmem)

theorem size_remove_le (r : ConnectionRegistry) (id : ConnectionId) :
    (r.remove id).2.size ≤ r.size := by
  simp only [size, remove, AList.keys_erase]
  exact List.length_erase_le

/-- The registry with one more connection, under the next number. -/
def registered (r : ConnectionRegistry) (fd : Fd) : ConnectionRegistry :=
  { r with
    nextId := ⟨r.nextId.value + 1⟩
    connections := r.connections.insert r.nextId.value (.create r.nextId fd r.limits)
    issued := r.nextId :: r.issued }

/-- While the next number is not in use, `add` either registers the connection
under it or throws and leaves the registry as it was. -/
theorem add_cases (r : ConnectionRegistry) (fd : Fd) (fcntl : FcntlAnswers)
    (hfresh : r.nextId.value ∉ r.connections) :
    (r.add fd fcntl = (.ok r.nextId, r.registered fd) ∧ r.nextId.value ≠ kMaxUInt64) ∨
      ∃ error, r.add fd fcntl = (.error error, r) := by
  unfold add
  split
  · exact .inr ⟨_, rfl⟩
  split
  · exact .inr ⟨_, rfl⟩
  next hids =>
  split
  · exact .inr ⟨_, rfl⟩
  · simp only [if_neg hfresh]
    exact .inl ⟨rfl, hids⟩

/-- With numbers left, the next one is one more. -/
theorem toNat_succ_nextId (r : ConnectionRegistry) (hids : r.nextId.value ≠ kMaxUInt64) :
    (r.nextId.value + 1).toNat = r.nextId.value.toNat + 1 := by
  have hmax := UInt64.toNat_lt_size r.nextId.value
  have hne : r.nextId.value.toNat ≠ kMaxUInt64.toNat := fun heq => hids (UInt64.toNat_inj.mp heq)
  have hvalue : kMaxUInt64.toNat + 1 = UInt64.size := rfl
  have hsucc : r.nextId.value.toNat + 1 < UInt64.size := by omega
  rw [UInt64.toNat_add, UInt64.toNat_one, Nat.mod_eq_of_lt hsucc]

@[simp]
theorem find_registered_self (r : ConnectionRegistry) (fd : Fd) :
    (r.registered fd).find r.nextId = some (.create r.nextId fd r.limits) :=
  AList.lookup_insert _

theorem find_registered_of_ne (r : ConnectionRegistry) (fd : Fd) {id : ConnectionId}
    (hne : id ≠ r.nextId) : (r.registered fd).find id = r.find id :=
  AList.lookup_insert_ne fun hvalue => hne (congrArg ConnectionId.mk hvalue)

theorem size_registered (r : ConnectionRegistry) (fd : Fd)
    (hfresh : r.nextId.value ∉ r.connections) : (r.registered fd).size = r.size + 1 := by
  simp only [size, registered, AList.keys_insert, List.length_cons]
  rw [List.erase_of_not_mem hfresh]

end ConnectionRegistry

end PulseCore.Network
