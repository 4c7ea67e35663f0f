/-
# Buffers read from the front through an offset

Removing consumed symbols from the front of a contiguous buffer is expensive, so
such a buffer is usually kept with an offset that marks how much of it has been
consumed, and is compacted only now and then. The content of the buffer is what
lies behind the offset; how the storage is split into a consumed part and a
pending part is a matter of cost alone. The offset never passes the end of the
storage, and that is part of the type.
-/

import Mathlib.Data.List.Basic
import Mathlib.Data.Nat.Basic

namespace PulseCore.Foundation

universe u

/-- A contiguous buffer with its consumed prefix. -/
structure OffsetBuffer (α : Type u) where
  /-- Everything that is stored, consumed or not. -/
  buffer : List α
  /-- How much of the storage has been consumed. -/
  offset : ℕ
  /-- Only stored symbols can have been consumed. -/
  offset_le : offset ≤ buffer.length

namespace OffsetBuffer

variable {α : Type u}

/-- Nothing stored, nothing consumed. -/
def empty : OffsetBuffer α := ⟨[], 0, Nat.le_refl 0⟩

/-- The content: what is stored and not yet consumed. -/
def pending (b : OffsetBuffer α) : List α := b.buffer.drop b.offset

/-- A buffer holding exactly `content`. -/
def ofList (content : List α) : OffsetBuffer α := ⟨content, 0, Nat.zero_le _⟩

/-- Store more symbols at the end. -/
def append (b : OffsetBuffer α) (content : List α) : OffsetBuffer α :=
  ⟨b.buffer ++ content, b.offset, by
    rw [List.length_append]
    exact Nat.le_add_right_of_le b.offset_le⟩

/-- Consume symbols from the front of the content. -/
def advance (b : OffsetBuffer α) (n : ℕ) (hn : n ≤ b.pending.length) : OffsetBuffer α :=
  ⟨b.buffer, b.offset + n, by
    have hle := b.offset_le
    rw [pending, List.length_drop] at hn
    omega⟩

/-- Drop the consumed part of the storage. -/
def compact (b : OffsetBuffer α) : OffsetBuffer α := ofList b.pending

@[simp]
theorem pending_empty : (empty : OffsetBuffer α).pending = [] := rfl

@[simp]
theorem pending_append (b : OffsetBuffer α) (content : List α) :
    (b.append content).pending = b.pending ++ content :=
  List.drop_append_of_le_length b.offset_le

@[simp]
theorem pending_advance (b : OffsetBuffer α) (n : ℕ) (hn : n ≤ b.pending.length) :
    (b.advance n hn).pending = b.pending.drop n := by
  simp only [pending, advance, List.drop_drop]

/-- The content is as long as the storage less what was consumed. -/
theorem length_pending (b : OffsetBuffer α) :
    b.pending.length = b.buffer.length - b.offset := List.length_drop

/-- The content is never longer than the storage. -/
theorem length_pending_le (b : OffsetBuffer α) : b.pending.length ≤ b.buffer.length := by
  rw [length_pending]
  exact Nat.sub_le _ _

/-- With nothing left behind the offset there is no content. -/
theorem pending_eq_nil_of_le (b : OffsetBuffer α) (hle : b.buffer.length ≤ b.offset) :
    b.pending = [] :=
  List.drop_eq_nil_of_le hle

end OffsetBuffer

end PulseCore.Foundation
