/-
# Ledgers

A ledger is a list of entries spread over several containers. It is in order for
a set of keys when every key of the set is entered exactly once and nothing else
is entered at all. Moving entries between containers permutes the ledger, which
changes nothing; entering a new key and settling a finished one change the set
and the ledger together.
-/

import Mathlib.Data.List.Nodup
import Mathlib.Data.Set.Insert
import Mathlib.Data.List.Perm.Subperm
import Mathlib.Data.List.Count

namespace PulseCore.Foundation

universe u

variable {κ : Type u} {entries entries' : List κ} {active : Set κ} {key : κ}

/-- Every active key is entered once, and no other key is entered. -/
structure OnceEach (entries : List κ) (active : Set κ) : Prop where
  nodup : entries.Nodup
  mem_iff : ∀ key, key ∈ entries ↔ key ∈ active

namespace OnceEach

/-- The empty ledger is in order when nothing is active. -/
theorem nil (hnone : ∀ key, key ∉ active) : OnceEach ([] : List κ) active where
  nodup := List.nodup_nil
  mem_iff key := iff_of_false List.not_mem_nil (hnone key)

/-- Where an entry is kept does not matter. -/
theorem perm (h : OnceEach entries active) (hperm : entries'.Perm entries) :
    OnceEach entries' active where
  nodup := hperm.nodup_iff.mpr h.nodup
  mem_iff key := hperm.mem_iff.trans (h.mem_iff key)

/-- The active keys may be described in another way. -/
theorem congr {other : Set κ} (h : OnceEach entries active)
    (hiff : ∀ key, key ∈ other ↔ key ∈ active) : OnceEach entries other where
  nodup := h.nodup
  mem_iff key := (h.mem_iff key).trans (hiff key).symm

/-- Entering a key that is not active yet. -/
theorem enter (h : OnceEach entries active) (hnew : key ∉ active) :
    OnceEach (key :: entries) (insert key active) where
  nodup := List.nodup_cons.mpr ⟨fun hmem => hnew ((h.mem_iff key).mp hmem), h.nodup⟩
  mem_iff other := by
    rw [List.mem_cons, Set.mem_insert_iff, h.mem_iff]

/-- Settling an entered key. -/
theorem settle (h : OnceEach (key :: entries) active) : OnceEach entries (active \ {key}) where
  nodup := (List.nodup_cons.mp h.nodup).2
  mem_iff other := by
    have hfresh := (List.nodup_cons.mp h.nodup).1
    rw [Set.mem_sdiff, Set.mem_singleton_iff, ← h.mem_iff, List.mem_cons]
    constructor
    · intro hmem
      exact ⟨.inr hmem, fun heq => hfresh (heq ▸ hmem)⟩
    · intro hmem
      exact hmem.1.resolve_left hmem.2

/-- An active key is counted once, any other key not at all. -/
theorem count_eq [DecidableEq κ] (h : OnceEach entries active) (key : κ) [Decidable (key ∈ active)] :
    entries.count key = if key ∈ active then 1 else 0 := by
  split
  · next hactive => exact List.count_eq_one_of_mem h.nodup ((h.mem_iff key).mpr hactive)
  · next hinactive =>
      exact List.count_eq_zero_of_not_mem fun hmem => hinactive ((h.mem_iff key).mp hmem)

/-- A part of the ledger is no longer than the range of numbers that its keys have. -/
theorem length_le {kept : List κ} (h : OnceEach entries active) (hkept : kept.Sublist entries)
    {number : κ → ℕ} (hinjective : Function.Injective number) {low high : ℕ}
    (hrange : ∀ key ∈ active, low ≤ number key ∧ number key < high) :
    kept.length ≤ high - low := by
  have hnodup : (kept.map number).Nodup := (h.nodup.sublist hkept).map hinjective
  have hsub : kept.map number ⊆ List.range' low (high - low) := by
    intro n hn
    obtain ⟨key, hkey, rfl⟩ := List.mem_map.mp hn
    have hbounds := hrange key ((h.mem_iff key).mp (hkept.subset hkey))
    rw [List.mem_range'_1]
    omega
  have hlength := (List.subperm_of_subset hnodup hsub).length_le
  rwa [List.length_map, List.length_range'] at hlength

end OnceEach

/-- In a list of slots that each hold at most one entry, refilling a slot exchanges
its entry. -/
theorem filterMap_set_perm {σ : Type*} (entry : σ → Option κ) {slots : List σ} {i : ℕ} {old : σ}
    (hold : slots[i]? = some old) (new : σ) :
    ((entry old).toList ++ (slots.set i new).filterMap entry).Perm
      ((entry new).toList ++ slots.filterMap entry) := by
  obtain ⟨hi, rfl⟩ := List.getElem?_eq_some_iff.mp hold
  have hset := (List.set_perm_cons_eraseIdx hi new).filterMap entry
  have hget := (List.getElem_cons_eraseIdx_perm hi).filterMap entry
  have hcons : ∀ slot : σ, (slot :: slots.eraseIdx i).filterMap entry =
      (entry slot).toList ++ (slots.eraseIdx i).filterMap entry := by
    intro slot
    cases hentry : entry slot with
    | none => rw [List.filterMap_cons_none hentry, Option.toList_none, List.nil_append]
    | some key => rw [List.filterMap_cons_some hentry, Option.toList_some, List.singleton_append]
  rw [hcons] at hset hget
  have hswap : ((entry slots[i]).toList ++
        ((entry new).toList ++ (slots.eraseIdx i).filterMap entry)).Perm
      ((entry new).toList ++
        ((entry slots[i]).toList ++ (slots.eraseIdx i).filterMap entry)) := by
    rw [← List.append_assoc, ← List.append_assoc]
    exact List.perm_append_comm.append_right _
  exact ((hset.append_left _).trans hswap).trans (hget.append_left _)

end PulseCore.Foundation
