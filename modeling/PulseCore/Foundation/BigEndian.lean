/-
# Big-endian numbers

A number of fixed width is written as its base-256 digits, the most significant
one first. Writing drops what does not fit into the width, reading back what was
written gives the number again, and any bytes are what writing their value gives.
The last law puts digits together the way programs do, with shifts and a bitwise
or.
-/

import Mathlib.Algebra.Order.Ring.Nat
import Mathlib.Data.List.Induction

namespace PulseCore.Foundation.BigEndian

/-- The value of a sequence of bytes. -/
def value (bytes : List UInt8) : ℕ := bytes.foldl (fun total byte => 256 * total + byte.toNat) 0

/-- The last `width` base-256 digits of a number. -/
def digits : ℕ → ℕ → List UInt8
  | 0, _ => []
  | width + 1, n => digits width (n / 256) ++ [UInt8.ofNat n]

@[simp]
theorem value_nil : value [] = 0 := rfl

@[simp]
theorem value_append_singleton (bytes : List UInt8) (byte : UInt8) :
    value (bytes ++ [byte]) = 256 * value bytes + byte.toNat := by
  rw [value, List.foldl_append]
  rfl

@[simp]
theorem length_digits (width n : ℕ) : (digits width n).length = width := by
  induction width generalizing n with
  | zero => rfl
  | succ width ih => rw [digits, List.length_append, ih, List.length_singleton]

/-- Reading back gives the number, as far as it fits. -/
theorem value_digits {width n : ℕ} (hfits : n < 256 ^ width) : value (digits width n) = n := by
  induction width generalizing n with
  | zero =>
      rw [pow_zero] at hfits
      rw [digits, value_nil]
      omega
  | succ width ih =>
      have hhigh : n / 256 < 256 ^ width := by
        rw [pow_succ] at hfits
        exact Nat.div_lt_of_lt_mul (by rwa [Nat.mul_comm])
      rw [digits, value_append_singleton, ih hhigh, UInt8.toNat_ofNat']
      omega

/-- Bytes are the digits of their value. -/
theorem digits_value (bytes : List UInt8) : digits bytes.length (value bytes) = bytes := by
  induction bytes using List.reverseRecOn with
  | nil => rfl
  | append_singleton bytes byte ih =>
      have hbyte := byte.toNat_lt
      have hhigh : (256 * value bytes + byte.toNat) / 256 = value bytes := by omega
      have hlow : UInt8.ofNat (256 * value bytes + byte.toNat) = byte := by
        apply UInt8.toNat_inj.mp
        rw [UInt8.toNat_ofNat']
        omega
      rw [List.length_append, List.length_singleton, digits, value_append_singleton, hhigh, hlow, ih]

/-- The last digit of a number, cut out with a mask. -/
theorem and_mask (n : ℕ) : n &&& 255 = n % 256 := Nat.and_two_pow_sub_one_eq_mod n 8

/-- A digit is put below the others with a bitwise or. -/
theorem or_digit (high : ℕ) {low : ℕ} (hlow : low < 256) : high <<< 8 ||| low = 256 * high + low := by
  rw [← Nat.shiftLeft_add_eq_or_of_lt hlow, Nat.shiftLeft_eq]
  omega

/-- The same in front of further digits. -/
theorem shift_or (high : ℕ) {low : ℕ} (hlow : low < 256) (places : ℕ) :
    high <<< (places + 8) ||| low <<< places = (256 * high + low) <<< places := by
  rw [← or_digit high hlow, Nat.shiftLeft_or_distrib, ← Nat.shiftLeft_add, Nat.add_comm]

/-- A digit that is put in place stays within a word that has room for it. -/
theorem shift_mod {low places width : ℕ} (hlow : low < 256) (hroom : places + 8 ≤ width) :
    low <<< places % 2 ^ width = low <<< places := by
  apply Nat.mod_eq_of_lt
  rw [Nat.shiftLeft_eq]
  calc low * 2 ^ places < 2 ^ 8 * 2 ^ places := Nat.mul_lt_mul_of_pos_right hlow (Nat.two_pow_pos _)
    _ = 2 ^ (places + 8) := by rw [← pow_add, Nat.add_comm]
    _ ≤ 2 ^ width := Nat.pow_le_pow_right (by decide) hroom

end PulseCore.Foundation.BigEndian
