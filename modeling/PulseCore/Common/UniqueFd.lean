/-
# Descriptors with one owner

`UniqueFd` holds a descriptor number and closes it when it is done with. A number
says little by itself: the kernel gives the number of a closed descriptor to the
next one that is opened, and a second `close` would then hit that one. Every
opening therefore has a serial number here, the kernel's table says which opening
a number stands for at the moment, and each call of `close` is recorded with the
opening it hit.

Objects are constructed, moved, reset, released and destroyed in any order, while
the rest of the process opens descriptors of its own and closes those and the
released ones. An action that cannot be taken, because an object does or does not
exist or the kernel would not give out the number, changes nothing; so every list
of actions is a history.
-/

import PulseCore.Foundation.Ledger
import Mathlib.Data.List.AList

namespace PulseCore.Common

open PulseCore.Foundation

abbrev Fd := ℤ

structure UniqueFd where
  fd : Fd
  deriving DecidableEq

namespace UniqueFd

def kInvalidFd : Fd := -1

/-- `std::exchange(fd_, kInvalidFd)`: what was held, and the object without it. -/
def exchange (u : UniqueFd) : Fd × UniqueFd := (u.fd, ⟨kInvalidFd⟩)

def release (u : UniqueFd) : Fd × UniqueFd := u.exchange

/-- `reset`: the descriptor it closes, if any, and the object it leaves. -/
def reset (u : UniqueFd) (fd : Fd) : Option Fd × UniqueFd :=
  if u.fd = fd then (none, u)
  else if u.fd ≠ kInvalidFd then (some u.fd, ⟨fd⟩)
  else (none, ⟨fd⟩)

end UniqueFd

/-- One call of `close` by an object, with the opening that the number stood for. -/
structure CloseCall where
  fd : Fd
  opening : Option ℕ
  deriving DecidableEq

structure Kernel where
  /-- The open descriptors, each with its opening. -/
  table : AList (fun _ : Fd => ℕ)
  /-- How many descriptors have been opened so far. -/
  openings : ℕ
  /-- The openings that were handed to an object. -/
  adopted : List ℕ
  /-- The openings that `release` has handed out again. -/
  released : List ℕ
  /-- The calls of `close` that objects have made. -/
  closes : List CloseCall

namespace Kernel

/-- Open a descriptor for somebody else. -/
def openOther (k : Kernel) (fd : Fd) : Kernel :=
  { k with
    table := k.table.insert fd k.openings
    openings := k.openings + 1 }

/-- Open a descriptor for an object. -/
def openFor (k : Kernel) (fd : Fd) : Kernel :=
  { k.openOther fd with adopted := k.openings :: k.adopted }

/-- `close`, called by an object. -/
def close (k : Kernel) (fd : Fd) : Kernel :=
  { k with
    table := k.table.erase fd
    closes := k.closes ++ [⟨fd, k.table.lookup fd⟩] }

/-- `close`, called by somebody else. -/
def closeOther (k : Kernel) (fd : Fd) : Kernel := { k with table := k.table.erase fd }

/-- The descriptor that `release` returned belongs to the caller now. -/
def handOut (k : Kernel) (fd : Fd) : Kernel :=
  { k with released := (k.table.lookup fd).toList ++ k.released }

/-- The openings that objects have closed. -/
def closed (k : Kernel) : List ℕ := k.closes.filterMap CloseCall.opening

end Kernel

/-- The kernel and the objects, each under a name. -/
structure World where
  kernel : Kernel
  objects : AList (fun _ : ℕ => UniqueFd)

/-- One step of a history. An opening that fails gives no number, and the object is
made from `-1`. -/
inductive FdAction
  /-- `UniqueFd x{open()};` -/
  | construct (x : ℕ) (opened : Option ℕ)
  /-- `UniqueFd x{std::move(y)};` -/
  | moveConstruct (x y : ℕ)
  /-- `x = std::move(y);` -/
  | moveAssign (x y : ℕ)
  /-- `x.release()` -/
  | release (x : ℕ)
  /-- `x.reset(open())` -/
  | resetOpened (x : ℕ) (opened : Option ℕ)
  /-- `x.reset(x.get())` -/
  | resetHeld (x : ℕ)
  /-- `x.reset()` -/
  | reset (x : ℕ)
  /-- `x` goes out of scope. -/
  | destroy (x : ℕ)
  /-- Somebody else opens a descriptor. -/
  | openOther (fd : ℕ)
  /-- Somebody else closes a descriptor that no object is responsible for. -/
  | closeOther (fd : Fd)
  deriving DecidableEq

namespace World

def start : World := ⟨⟨∅, 0, [], [], []⟩, ∅⟩

/-- `open()`, as the argument of a call: the number the kernel gives out, which is not
in use, or `-1`. -/
def opened (k : Kernel) : Option ℕ → Option (Fd × Kernel)
  | none => some (UniqueFd.kInvalidFd, k)
  | some n => if (n : Fd) ∈ k.table then none else some ((n : Fd), k.openFor n)

/-- `x.reset(fd)` on an object that is there. -/
def resetObject (w : World) (x : ℕ) (u : UniqueFd) (fd : Fd) : World :=
  match u.reset fd with
  | (none, u) => { w with objects := w.objects.insert x u }
  | (some old, u) => ⟨w.kernel.close old, w.objects.insert x u⟩

def step (w : World) : FdAction → World
  | .construct x wanted =>
      match w.objects.lookup x, opened w.kernel wanted with
      | none, some (fd, kernel) => ⟨kernel, w.objects.insert x ⟨fd⟩⟩
      | _, _ => w
  | .moveConstruct x y =>
      match w.objects.lookup x, w.objects.lookup y with
      | none, some other =>
          let (fd, other) := other.exchange
          { w with objects := (w.objects.insert y other).insert x ⟨fd⟩ }
      | _, _ => w
  | .moveAssign x y =>
      match w.objects.lookup x, w.objects.lookup y with
      | some u, some other =>
          if x = y then w
          else
            let (fd, other) := other.exchange
            { w with objects := w.objects.insert y other }.resetObject x u fd
      | _, _ => w
  | .release x =>
      match w.objects.lookup x with
      | some u =>
          let (fd, u) := u.release
          ⟨w.kernel.handOut fd, w.objects.insert x u⟩
      | none => w
  | .resetOpened x wanted =>
      match w.objects.lookup x, opened w.kernel wanted with
      | some u, some (fd, kernel) => { w with kernel }.resetObject x u fd
      | _, _ => w
  | .resetHeld x =>
      match w.objects.lookup x with
      | some u => w.resetObject x u u.fd
      | none => w
  | .reset x =>
      match w.objects.lookup x with
      | some u => w.resetObject x u UniqueFd.kInvalidFd
      | none => w
  | .destroy x =>
      match w.objects.lookup x with
      | some u =>
          -- the destructor resets, and the object is gone
          let w := w.resetObject x u UniqueFd.kInvalidFd
          { w with objects := w.objects.erase x }
      | none => w
  | .openOther n =>
      if (n : Fd) ∈ w.kernel.table then w else { w with kernel := w.kernel.openOther n }
  | .closeOther fd =>
      match w.kernel.table.lookup fd with
      | some opening =>
          if opening ∈ w.kernel.released ∨ opening ∉ w.kernel.adopted then
            { w with kernel := w.kernel.closeOther fd }
          else w
      | none => w

/-- The world behind a history. -/
def run (actions : List FdAction) : World := actions.foldl step start

end World

/-- A descriptor that is one. -/
def owned (fd : Fd) : List Fd := if fd = UniqueFd.kInvalidFd then [] else [fd]

@[simp]
theorem owned_invalid : owned UniqueFd.kInvalidFd = [] := if_pos rfl

theorem owned_of_ne {fd : Fd} (hvalid : fd ≠ UniqueFd.kInvalidFd) : owned fd = [fd] :=
  if_neg hvalid

/-- The kernel gives out natural numbers. -/
theorem natCast_ne_invalid (n : ℕ) : (n : Fd) ≠ UniqueFd.kInvalidFd :=
  Int.ne_of_gt (Int.lt_of_lt_of_le (by decide) (Int.natCast_nonneg n))

/-- The descriptors that objects hold. -/
def holdings (objects : AList (fun _ : ℕ => UniqueFd)) : List Fd :=
  objects.entries.flatMap fun entry => owned entry.2.fd

variable {objects : AList (fun _ : ℕ => UniqueFd)} {x y : ℕ} {u v : UniqueFd} {fd : Fd}

theorem holdings_insert (objects : AList (fun _ : ℕ => UniqueFd)) (x : ℕ) (u : UniqueFd) :
    holdings (objects.insert x u) = owned u.fd ++ holdings (objects.erase x) := by
  rw [holdings, AList.entries_insert, List.flatMap_cons]
  rfl

/-- An object holds its part of what is held. -/
theorem holdings_perm (hlookup : objects.lookup x = some u) :
    (holdings objects).Perm (owned u.fd ++ holdings (objects.erase x)) := by
  have hmem : x ∈ objects.entries.keys := AList.lookup_isSome.mp (by rw [hlookup]; rfl)
  obtain ⟨v, front, rest, -, hentries, herase⟩ := List.exists_of_kerase hmem
  have hentry : (⟨x, v⟩ : Sigma fun _ : ℕ => UniqueFd) ∈ objects.entries := by
    rw [hentries]
    exact List.mem_append_right _ List.mem_cons_self
  obtain rfl : v = u := Option.some.inj ((AList.mem_lookup_iff.mpr hentry).symm.trans hlookup)
  have hperm : objects.entries.Perm (⟨x, v⟩ :: objects.entries.kerase x) := by
    rw [herase, hentries]
    exact List.perm_middle
  exact hperm.flatMap_right _

theorem holdings_erase_of_none (hlookup : objects.lookup x = none) :
    holdings (objects.erase x) = holdings objects := by
  have hkeys : x ∉ objects.entries.keys := AList.lookup_eq_none.mp hlookup
  rw [holdings, holdings]
  exact congrArg (List.flatMap _) (List.kerase_of_notMem_keys hkeys)

/-! ## The account -/

/-- The openings that some descriptors stand for. -/
def openingsOf (table : AList (fun _ : Fd => ℕ)) (held : List Fd) : List ℕ :=
  held.filterMap fun fd => table.lookup fd

theorem openingsOf_cons {table : AList (fun _ : Fd => ℕ)} {n : ℕ}
    (hlookup : table.lookup fd = some n) (held : List Fd) :
    openingsOf table (fd :: held) = n :: openingsOf table held :=
  List.filterMap_cons_some hlookup

/-- They do not depend on the rest of the table. -/
theorem openingsOf_congr {table table' : AList (fun _ : Fd => ℕ)} {held : List Fd}
    (hsame : ∀ fd ∈ held, table'.lookup fd = table.lookup fd) :
    openingsOf table' held = openingsOf table held :=
  List.filterMap_congr hsame

/-- What is held is open and held once, and every opening that was handed to an object
is held, released or closed, and only once. -/
structure Accounted (k : Kernel) (held : List Fd) : Prop where
  heldOnce : held.Nodup
  heldOpen : ∀ fd ∈ held, fd ∈ k.table
  valid : ∀ fd ∈ k.table, fd ≠ UniqueFd.kInvalidFd
  numbered : ∀ n ∈ k.adopted, n < k.openings
  closesOpen : ∀ call ∈ k.closes, call.opening ≠ none
  ledger : OnceEach (openingsOf k.table held ++ (k.released ++ k.closed)) {n | n ∈ k.adopted}

namespace Accounted

variable {k : Kernel} {held : List Fd}

theorem perm {other : List Fd} (h : Accounted k held) (hperm : held.Perm other) :
    Accounted k other where
  heldOnce := hperm.nodup_iff.mp h.heldOnce
  heldOpen fd hmem := h.heldOpen fd (hperm.mem_iff.mpr hmem)
  valid := h.valid
  numbered := h.numbered
  closesOpen := h.closesOpen
  ledger := h.ledger.perm ((hperm.filterMap _).symm.append_right _)

/-- A number enters the table that was free. -/
theorem openingsOf_insert (h : Accounted k held) (hfree : fd ∉ k.table) (n : ℕ) :
    openingsOf (k.table.insert fd n) held = openingsOf k.table held := by
  refine openingsOf_congr fun other hmem => AList.lookup_insert_ne ?_
  rintro rfl
  exact hfree (h.heldOpen other hmem)

theorem valid_insert (h : Accounted k held) (hvalid : fd ≠ UniqueFd.kInvalidFd) (n : ℕ) :
    ∀ other ∈ k.table.insert fd n, other ≠ UniqueFd.kInvalidFd := by
  intro other hmem
  rcases (AList.mem_insert _).mp hmem with rfl | hold
  · exact hvalid
  · exact h.valid other hold

/-- The kernel gives out a number that is not in use, and an object takes it. -/
theorem openFor (h : Accounted k held) (hfree : fd ∉ k.table) (hvalid : fd ≠ UniqueFd.kInvalidFd) :
    Accounted (k.openFor fd) (fd :: held) := by
  have hnew : fd ∉ held := fun hmem => hfree (h.heldOpen fd hmem)
  refine ⟨List.nodup_cons.mpr ⟨hnew, h.heldOnce⟩, ?_, h.valid_insert hvalid _, ?_, h.closesOpen, ?_⟩
  · intro other hmem
    refine (AList.mem_insert _).mpr ?_
    exact (List.mem_cons.mp hmem).imp_right (h.heldOpen other)
  · intro n hmem
    rcases List.mem_cons.mp hmem with rfl | hold
    · exact Nat.lt_succ_self _
    · exact Nat.lt_succ_of_lt (h.numbered n hold)
  · have hopenings : openingsOf (k.openFor fd).table (fd :: held) =
        k.openings :: openingsOf k.table held := by
      refine (openingsOf_cons (AList.lookup_insert _) held).trans ?_
      exact congrArg _ (h.openingsOf_insert hfree k.openings)
    have hfresh : k.openings ∉ {n | n ∈ k.adopted} := fun hmem =>
      Nat.lt_irrefl _ (h.numbered _ hmem)
    rw [hopenings]
    exact (h.ledger.enter hfresh).congr fun n => List.mem_cons

/-- Somebody else gets a number that is not in use. -/
theorem openOther (h : Accounted k held) (hfree : fd ∉ k.table)
    (hvalid : fd ≠ UniqueFd.kInvalidFd) : Accounted (k.openOther fd) held := by
  refine ⟨h.heldOnce, fun other hmem => (AList.mem_insert _).mpr (.inr (h.heldOpen other hmem)),
    h.valid_insert hvalid _, fun n hmem => Nat.lt_succ_of_lt (h.numbered n hmem), h.closesOpen, ?_⟩
  have hopenings : openingsOf (k.openOther fd).table held = openingsOf k.table held :=
    h.openingsOf_insert hfree k.openings
  rw [hopenings]
  exact h.ledger

theorem lookup_of_held (h : Accounted k (fd :: held)) : ∃ n, k.table.lookup fd = some n :=
  Option.isSome_iff_exists.mp (AList.lookup_isSome.mpr (h.heldOpen fd List.mem_cons_self))

/-- A number leaves the table that none of the held ones is. -/
theorem openingsOf_erase (hnew : fd ∉ held) :
    openingsOf (k.table.erase fd) held = openingsOf k.table held := by
  refine openingsOf_congr fun other hmem => AList.lookup_erase_ne ?_
  rintro rfl
  exact hnew hmem

theorem mem_erase_of_held (hnew : fd ∉ held) (hopen : ∀ other ∈ held, other ∈ k.table) :
    ∀ other ∈ held, other ∈ k.table.erase fd := by
  intro other hmem
  refine AList.mem_erase.mpr ⟨?_, hopen other hmem⟩
  rintro rfl
  exact hnew hmem

/-- A descriptor that was held is closed: the number stands for its opening. -/
theorem close (h : Accounted k (fd :: held)) : Accounted (k.close fd) held := by
  obtain ⟨n, hlookup⟩ := h.lookup_of_held
  obtain ⟨hnew, honce⟩ := List.nodup_cons.mp h.heldOnce
  refine ⟨honce, mem_erase_of_held hnew (List.forall_mem_cons.mp h.heldOpen).2,
    fun other hmem => h.valid other (AList.mem_erase.mp hmem).2, h.numbered, ?_, ?_⟩
  · refine List.forall_mem_append.mpr ⟨h.closesOpen, List.forall_mem_singleton.mpr ?_⟩
    rw [hlookup]
    exact Option.some_ne_none n
  · have hclosed : (k.close fd).closed = k.closed ++ [n] := by
      rw [Kernel.closed, Kernel.close, List.filterMap_append, hlookup]
      rfl
    have hledger := h.ledger
    rw [openingsOf_cons hlookup] at hledger
    refine hledger.perm ?_
    rw [hclosed, show (k.close fd).table = k.table.erase fd from rfl, openingsOf_erase hnew]
    show (_ ++ (k.released ++ (k.closed ++ [n]))).Perm _
    rw [← List.append_assoc, ← List.append_assoc]
    refine (List.perm_append_singleton n _).trans ?_
    rw [List.append_assoc, List.cons_append]

/-- A descriptor that was held is released. -/
theorem handOut (h : Accounted k (owned fd ++ held)) : Accounted (k.handOut fd) held := by
  by_cases hinvalid : fd = UniqueFd.kInvalidFd
  · -- there is nothing to release
    have hnone : k.table.lookup fd = none := by
      apply AList.lookup_eq_none.mpr
      exact fun hmem => h.valid fd hmem hinvalid
    have hsame : k.handOut fd = k := by
      rw [Kernel.handOut, hnone]
      rfl
    rw [hsame]
    rw [hinvalid, owned_invalid] at h
    exact h
  · rw [owned_of_ne hinvalid] at h
    obtain ⟨n, hlookup⟩ := lookup_of_held h
    have hledger := h.ledger
    rw [List.singleton_append, openingsOf_cons hlookup] at hledger
    refine ⟨(List.nodup_cons.mp h.heldOnce).2,
      fun other hmem => h.heldOpen other (List.mem_cons_of_mem _ hmem), h.valid, h.numbered,
      h.closesOpen, hledger.perm ?_⟩
    show (_ ++ ((k.table.lookup fd).toList ++ k.released ++ k.closed)).Perm _
    rw [hlookup]
    exact List.perm_middle

/-- What somebody else may close is not held. -/
theorem closeOther (h : Accounted k held) {n : ℕ} (hlookup : k.table.lookup fd = some n)
    (hother : n ∈ k.released ∨ n ∉ k.adopted) : Accounted (k.closeOther fd) held := by
  have hnew : fd ∉ held := by
    intro hmem
    have hheld : n ∈ openingsOf k.table held := List.mem_filterMap.mpr ⟨fd, hmem, hlookup⟩
    rcases hother with hreleased | hforeign
    · have hdisjoint := (List.nodup_append.mp h.ledger.nodup).2.2
      exact hdisjoint n hheld n (List.mem_append_left _ hreleased) rfl
    · exact hforeign ((h.ledger.mem_iff n).mp (List.mem_append_left _ hheld))
  refine ⟨h.heldOnce, mem_erase_of_held hnew h.heldOpen,
    fun other hmem => h.valid other (AList.mem_erase.mp hmem).2, h.numbered, h.closesOpen, ?_⟩
  rw [show (k.closeOther fd).table = k.table.erase fd from rfl, openingsOf_erase hnew]
  exact h.ledger

/-- Whatever `open()` gave to an object is accounted for. -/
theorem opened {k' : Kernel} {wanted : Option ℕ} (h : Accounted k held)
    (hopened : World.opened k wanted = some (fd, k')) : Accounted k' (owned fd ++ held) := by
  cases wanted with
  | none =>
      cases hopened
      exact h
  | some n =>
      rw [World.opened] at hopened
      split at hopened
      · cases hopened
      · next hfree =>
          cases hopened
          rw [owned_of_ne (natCast_ne_invalid n)]
          exact h.openFor hfree (natCast_ne_invalid n)

end Accounted

/-! ## Every history keeps the account -/

namespace World

variable {w : World}

/-- The account is in order between two actions. -/
def Lawful (w : World) : Prop := Accounted w.kernel (holdings w.objects)

theorem lawful_start : Lawful start where
  heldOnce := List.nodup_nil
  heldOpen := List.forall_mem_nil _
  valid _ hmem := absurd hmem (AList.notMem_empty _)
  numbered := List.forall_mem_nil _
  closesOpen := List.forall_mem_nil _
  ledger := .nil fun _ => List.not_mem_nil

/-- A function has taken the descriptor of an object. -/
theorem Lawful.taken (h : Lawful w) (hlookup : w.objects.lookup y = some v) :
    Accounted w.kernel
      (owned v.fd ++ holdings (w.objects.insert y ⟨UniqueFd.kInvalidFd⟩)) := by
  rw [holdings_insert, owned_invalid, List.nil_append]
  exact h.perm (holdings_perm hlookup)

/-- A new object gets a descriptor that a function has. -/
theorem lawful_construct (h : Accounted w.kernel (owned fd ++ holdings w.objects))
    (hlookup : w.objects.lookup x = none) :
    Lawful ⟨w.kernel, w.objects.insert x ⟨fd⟩⟩ := by
  show Accounted w.kernel (holdings (w.objects.insert x ⟨fd⟩))
  rw [holdings_insert, holdings_erase_of_none hlookup]
  exact h

/-- An object that is written back as it was holds what it held. -/
theorem Lawful.insert_same (h : Lawful w) (hlookup : w.objects.lookup x = some u) :
    Lawful ⟨w.kernel, w.objects.insert x u⟩ := by
  show Accounted w.kernel (holdings (w.objects.insert x u))
  rw [holdings_insert]
  exact h.perm (holdings_perm hlookup)

/-- `reset` closes what the object held and stores the descriptor that it was given.
Only `-1` can be both: a descriptor is not held twice. -/
theorem lawful_resetObject (h : Accounted w.kernel (owned fd ++ holdings w.objects))
    (hlookup : w.objects.lookup x = some u) : Lawful (w.resetObject x u fd) := by
  have hperm := holdings_perm hlookup
  have hheld := h.perm (hperm.append_left (owned fd))
  unfold resetObject UniqueFd.reset
  by_cases hsame : u.fd = fd
  · rw [if_pos hsame]
    by_cases hinvalid : fd = UniqueFd.kInvalidFd
    · rw [hinvalid, owned_invalid, List.nil_append] at h
      exact Lawful.insert_same h hlookup
    · rw [hsame, owned_of_ne hinvalid] at hheld
      exact absurd List.mem_cons_self (List.nodup_cons.mp hheld.heldOnce).1
  rw [if_neg hsame]
  by_cases hinvalid : u.fd = UniqueFd.kInvalidFd
  · rw [if_neg (not_not.mpr hinvalid)]
    show Accounted w.kernel (holdings (w.objects.insert x ⟨fd⟩))
    rw [hinvalid, owned_invalid, List.nil_append] at hheld
    rw [holdings_insert]
    exact hheld
  · rw [if_pos hinvalid]
    show Accounted (w.kernel.close u.fd) (holdings (w.objects.insert x ⟨fd⟩))
    rw [owned_of_ne hinvalid] at hheld
    rw [holdings_insert]
    exact (hheld.perm List.perm_middle).close

theorem Lawful.reset (h : Lawful w) (hlookup : w.objects.lookup x = some u) :
    Lawful (w.resetObject x u UniqueFd.kInvalidFd) := by
  apply lawful_resetObject _ hlookup
  rw [owned_invalid, List.nil_append]
  exact h

/-- After `reset()` the object holds nothing. -/
theorem lookup_resetObject_invalid (w : World) (x : ℕ) (u : UniqueFd) :
    ∃ v : UniqueFd, (w.resetObject x u UniqueFd.kInvalidFd).objects.lookup x = some v ∧
      v.fd = UniqueFd.kInvalidFd := by
  unfold resetObject UniqueFd.reset
  by_cases hinvalid : u.fd = UniqueFd.kInvalidFd
  · rw [if_pos hinvalid]
    exact ⟨u, AList.lookup_insert _, hinvalid⟩
  · rw [if_neg hinvalid, if_pos hinvalid]
    exact ⟨⟨UniqueFd.kInvalidFd⟩, AList.lookup_insert _, rfl⟩

/-- An object that holds nothing may go. -/
theorem Lawful.erase (h : Lawful w) (hlookup : w.objects.lookup x = some u)
    (hinvalid : u.fd = UniqueFd.kInvalidFd) : Lawful ⟨w.kernel, w.objects.erase x⟩ := by
  have hheld := h.perm (holdings_perm hlookup)
  rw [hinvalid, owned_invalid, List.nil_append] at hheld
  exact hheld

theorem Lawful.step (h : Lawful w) (action : FdAction) : Lawful (w.step action) := by
  cases action with
  | construct x wanted =>
      simp only [World.step]
      split
      · next fd kernel hx hopened =>
          exact lawful_construct (w := ⟨kernel, w.objects⟩) (h.opened hopened) hx
      · exact h
  | moveConstruct x y =>
      simp only [World.step]
      split
      · next other hx hy =>
          have hne : x ≠ y := by
            rintro rfl
            rw [hx] at hy
            cases hy
          refine lawful_construct (w := ⟨w.kernel, w.objects.insert y _⟩) (h.taken hy) ?_
          rw [AList.lookup_insert_ne hne]
          exact hx
      · exact h
  | moveAssign x y =>
      simp only [World.step]
      split
      · next u other hx hy =>
          split
          · exact h
          · next hne =>
              refine lawful_resetObject (w := ⟨w.kernel, w.objects.insert y _⟩) (h.taken hy) ?_
              rw [AList.lookup_insert_ne hne]
              exact hx
      · exact h
  | release x =>
      simp only [World.step]
      split
      · next u hx => exact (h.taken hx).handOut
      · exact h
  | resetOpened x wanted =>
      simp only [World.step]
      split
      · next u fd kernel hx hopened =>
          exact lawful_resetObject (w := ⟨kernel, w.objects⟩) (h.opened hopened) hx
      · exact h
  | resetHeld x =>
      simp only [World.step]
      split
      · next u hx =>
          have hreset : u.reset u.fd = (none, u) := if_pos rfl
          rw [resetObject, hreset]
          exact h.insert_same hx
      · exact h
  | reset x =>
      simp only [World.step]
      split
      · next u hx => exact h.reset hx
      · exact h
  | destroy x =>
      simp only [World.step]
      split
      · next u hx =>
          obtain ⟨v, hv, hinvalid⟩ := lookup_resetObject_invalid w x u
          exact (h.reset hx).erase hv hinvalid
      · exact h
  | openOther n =>
      simp only [World.step]
      split
      · exact h
      · next hfree => exact Accounted.openOther h hfree (natCast_ne_invalid n)
  | closeOther fd =>
      simp only [World.step]
      split
      · next opening hlookup =>
          split
          · next hother => exact Accounted.closeOther h hlookup hother
          · exact h
      · exact h

theorem lawful_run (actions : List FdAction) : Lawful (run actions) := by
  apply List.foldlRecOn actions World.step lawful_start
  intro w h action _
  exact h.step action

/-- What an object holds is open. -/
theorem Lawful.mem_holdings (hlookup : w.objects.lookup x = some u)
    (hvalid : u.fd ≠ UniqueFd.kInvalidFd) : u.fd ∈ holdings w.objects := by
  refine (holdings_perm hlookup).mem_iff.mpr (List.mem_append_left _ ?_)
  rw [owned_of_ne hvalid]
  exact List.mem_singleton_self _

/-- Two objects do not hold the same descriptor. -/
theorem Lawful.holder_unique (h : Lawful w) (hx : w.objects.lookup x = some u)
    (hy : w.objects.lookup y = some v) (hvalid : u.fd ≠ UniqueFd.kInvalidFd)
    (hfd : u.fd = v.fd) : x = y := by
  by_contra hne
  have honce := (holdings_perm hx).nodup_iff.mp h.heldOnce
  have hrest : (w.objects.erase x).lookup y = some v := by
    rw [AList.lookup_erase_ne (Ne.symm hne)]
    exact hy
  rw [owned_of_ne hvalid] at honce
  refine (List.nodup_cons.mp honce).1 ?_
  rw [hfd] at hvalid ⊢
  exact Lawful.mem_holdings (w := ⟨w.kernel, w.objects.erase x⟩) hrest hvalid

/-- What was closed had been handed to an object and was not released, and it was
closed once. -/
theorem Lawful.closed (h : Lawful w) :
    w.kernel.closed.Nodup ∧ ∀ n ∈ w.kernel.closed, n ∈ w.kernel.adopted ∧ n ∉ w.kernel.released := by
  obtain ⟨-, hrest, -⟩ := List.nodup_append.mp h.ledger.nodup
  obtain ⟨-, hclosed, hdisjoint⟩ := List.nodup_append.mp hrest
  refine ⟨hclosed, fun n hmem => ⟨?_, fun hreleased => hdisjoint n hreleased n hmem rfl⟩⟩
  exact (h.ledger.mem_iff n).mp (List.mem_append_right _ (List.mem_append_right _ hmem))

/-- Without objects, what was not released was closed. -/
theorem Lawful.mem_closed (h : Lawful w) (hnone : w.objects.entries = []) {n : ℕ}
    (hadopted : n ∈ w.kernel.adopted) (hkept : n ∉ w.kernel.released) : n ∈ w.kernel.closed := by
  have hentered := (h.ledger.mem_iff n).mpr hadopted
  have hholdings : holdings w.objects = [] := by
    rw [holdings, hnone]
    rfl
  rw [hholdings] at hentered
  rcases List.mem_append.mp hentered with hheld | hrest
  · cases hheld
  · exact (List.mem_append.mp hrest).resolve_left hkept

/-- The openings that were closed are those that the calls of `close` hit. -/
theorem mem_closed_iff (k : Kernel) (n : ℕ) :
    n ∈ k.closed ↔ ∃ call ∈ k.closes, call.opening = some n := List.mem_filterMap

theorem count_closed (k : Kernel) (n : ℕ) :
    (k.closes.filter fun call => call.opening = some n).length = k.closed.count n := by
  rw [Kernel.closed]
  induction k.closes with
  | nil => rfl
  | cons call calls ih =>
      cases hopening : call.opening with
      | none => simp [hopening, ih]
      | some m =>
          by_cases hm : m = n
          · simp [hopening, hm, ih]
          · simp [hopening, hm, ih]

end World

open World in
/-- Over every history of objects and descriptors, an open descriptor is held by at
most one object, and every object that holds one holds an open one; `close` only hits
open descriptors that were handed to an object and not released, each at most once;
and when no object is left, every descriptor that was handed to one and not released
has been closed exactly once. -/
theorem uniqueFd_law (actions : List FdAction) :
    (∀ x y u v, (run actions).objects.lookup x = some u → (run actions).objects.lookup y = some v →
      u.fd ∈ (run actions).kernel.table → u.fd = v.fd → x = y) ∧
    (∀ x u, (run actions).objects.lookup x = some u →
      u.fd = UniqueFd.kInvalidFd ∨ u.fd ∈ (run actions).kernel.table) ∧
    (∀ call ∈ (run actions).kernel.closes, ∃ n, call.opening = some n ∧
      n ∈ (run actions).kernel.adopted ∧ n ∉ (run actions).kernel.released) ∧
    (∀ n, ((run actions).kernel.closes.filter fun call => call.opening = some n).length ≤ 1) ∧
    ((run actions).objects.entries = [] → ∀ n ∈ (run actions).kernel.adopted,
      n ∉ (run actions).kernel.released →
        ((run actions).kernel.closes.filter fun call => call.opening = some n).length = 1) := by
  have hlaw := lawful_run actions
  generalize run actions = w at hlaw ⊢
  obtain ⟨honce, hclosed⟩ := hlaw.closed
  refine ⟨?_, ?_, ?_, ?_, ?_⟩
  · intro x y u v hx hy hopen hfd
    exact hlaw.holder_unique hx hy (hlaw.valid u.fd hopen) hfd
  · intro x u hx
    by_cases hinvalid : u.fd = UniqueFd.kInvalidFd
    · exact .inl hinvalid
    · exact .inr (hlaw.heldOpen u.fd (Lawful.mem_holdings hx hinvalid))
  · intro call hmem
    obtain ⟨n, hopening⟩ := Option.ne_none_iff_exists'.mp (hlaw.closesOpen call hmem)
    exact ⟨n, hopening, hclosed n ((mem_closed_iff w.kernel n).mpr ⟨call, hmem, hopening⟩)⟩
  · intro n
    rw [count_closed]
    exact List.nodup_iff_count_le_one.mp honce n
  · intro hnone n hadopted hkept
    rw [count_closed]
    exact List.count_eq_one_of_mem honce (hlaw.mem_closed hnone hadopted hkept)

end PulseCore.Common
