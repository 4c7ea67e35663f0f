/-
# The numbers of the command line

The programs leave their numbers to `std::stoul` and `std::stoull`, which know white
space, signs and values that are out of range, and check that nothing is left of the
text. What they accept is white space, a sign and decimal digits; the sign may be a minus
when there is white space in front of it, and the number is then what it is modulo
`2 ^ 64`.
-/

import PulseCore.Apps.FrontEnds
import Mathlib.Data.List.Induction
import Mathlib.Data.List.TakeWhile
import Mathlib.Data.Nat.Digits.Defs

namespace PulseCore.Apps

open PulseCore.Protocol

/-- The number that decimal digits stand for, the last one the least significant. -/
def decimal (digits : List Byte) : ℕ :=
  Nat.ofDigits 10 (digits.reverse.map fun digit => digit.toNat - 0x30)

/-- The text is white space, a sign and decimal digits, and this is its number. -/
def Denotes (text : List Byte) (value : UInt64) : Prop :=
  ∃ spaces sign digits, text = spaces ++ (sign ++ digits) ∧
    (∀ byte ∈ spaces, isSpace byte = true) ∧ sign ∈ [[], [0x2B], [0x2D]] ∧
    digits ≠ [] ∧ (∀ byte ∈ digits, isDigit byte = true) ∧ decimal digits < 2 ^ 64 ∧
    value = if sign = [0x2D] then 0 - UInt64.ofNat (decimal digits)
      else UInt64.ofNat (decimal digits)

theorem digitsValue_eq_decimal (digits : List Byte) : digitsValue digits = decimal digits := by
  induction digits using List.reverseRecOn with
  | nil => rfl
  | append_singleton digits digit ih =>
      rw [decimal, List.reverse_append, List.reverse_singleton, List.singleton_append,
        List.map_cons, Nat.ofDigits_cons, ← decimal, ← ih, digitsValue, List.foldl_append]
      exact Nat.add_comm _ _

variable {text spaces sign digits : List Byte} {byte : Byte} {value : UInt64}

theorem isDigit_iff : isDigit byte = true ↔ 48 ≤ byte.toNat ∧ byte.toNat ≤ 57 := by
  rw [isDigit, Bool.and_eq_true, decide_eq_true_eq, decide_eq_true_eq, UInt8.le_iff_toNat_le,
    UInt8.le_iff_toNat_le]
  rfl

/-- A digit is neither white space nor a sign. -/
theorem not_of_isDigit (hdigit : isDigit byte = true) :
    isSpace byte = false ∧ byte ≠ 0x2B ∧ isMinus byte = false := by
  have hrange := isDigit_iff.mp hdigit
  refine ⟨?_, ?_, ?_⟩
  · rw [isSpace, Bool.or_eq_false_iff, Bool.and_eq_false_iff, decide_eq_false_iff_not,
      decide_eq_false_iff_not, decide_eq_false_iff_not, UInt8.le_iff_toNat_le,
      UInt8.le_iff_toNat_le]
    refine ⟨?_, .inr ?_⟩
    · rintro rfl
      exact absurd hrange (by decide)
    · show ¬ byte.toNat ≤ 13
      omega
  · rintro rfl
    exact absurd hrange (by decide)
  · rw [isMinus, decide_eq_false_iff_not]
    rintro rfl
    exact absurd hrange (by decide)

theorem signOf_of_isDigit (hdigit : isDigit byte = true) (rest : List Byte) :
    signOf (byte :: rest) = (0, false) := by
  obtain ⟨-, hplus, hminus⟩ := not_of_isDigit hdigit
  rw [signOf, if_neg hplus, hminus]
  rfl

/-- A list that starts with what a predicate does not hold of has nothing to take. -/
theorem takeWhile_of_head {p : Byte → Bool} (hp : p byte = false) (rest : List Byte) :
    (byte :: rest).takeWhile p = [] := by
  rw [List.takeWhile_cons, hp]
  rfl

theorem takeWhile_eq_front {p : Byte → Bool} {front rest : List Byte}
    (hfront : ∀ byte ∈ front, p byte = true) (hrest : rest.takeWhile p = []) :
    (front ++ rest).takeWhile p = front := by
  rw [List.takeWhile_append_of_pos hfront, hrest, List.append_nil]

/-- The sign in front of digits is recognised. -/
theorem signOf_append (hsign : sign ∈ [[], [0x2B], [0x2D]]) (hsome : digits ≠ [])
    (hdigits : ∀ byte ∈ digits, isDigit byte = true) :
    signOf (sign ++ digits) = (sign.length, decide (sign = [0x2D])) ∧
      (sign ++ digits).takeWhile isSpace = [] := by
  cases digits with
  | nil => exact absurd rfl hsome
  | cons digit digits =>
      have hdigit := hdigits digit List.mem_cons_self
      simp only [List.mem_cons, List.not_mem_nil, or_false] at hsign
      rcases hsign with rfl | rfl | rfl
      · exact ⟨signOf_of_isDigit hdigit digits,
          takeWhile_of_head (not_of_isDigit hdigit).1 digits⟩
      · exact ⟨rfl, takeWhile_of_head (by decide) _⟩
      · exact ⟨rfl, takeWhile_of_head (by decide) _⟩

/-- What is in front of the digits is a sign. -/
theorem take_signOf (rest : List Byte) :
    rest.take (signOf rest).1 ∈ [[], [0x2B], [(0x2D : Byte)]] ∧
      (rest.take (signOf rest).1).length = (signOf rest).1 ∧
      (signOf rest).2 = decide (rest.take (signOf rest).1 = [0x2D]) := by
  cases rest with
  | nil => exact ⟨List.mem_cons_self, rfl, rfl⟩
  | cons byte rest =>
      rw [signOf]
      split
      · next hplus =>
          subst hplus
          exact ⟨by simp, rfl, rfl⟩
      · split
        · next hminus =>
            rw [isMinus, decide_eq_true_eq] at hminus
            subst hminus
            exact ⟨by simp, rfl, rfl⟩
        · exact ⟨List.mem_cons_self, rfl, rfl⟩

/-- `std::stoull` uses the whole text exactly when it is a number that it can represent. -/
theorem stoull_eq_ok_iff : stoull text = .ok (value, text.length) ↔ Denotes text value := by
  have hrange : ∀ n : ℕ, ¬ n > kMaxSize ↔ n < 2 ^ 64 := by
    intro n
    show ¬ n > 18446744073709551615 ↔ n < 18446744073709551616
    omega
  constructor
  · intro hparse
    have htext := List.takeWhile_append_dropWhile (p := isSpace) (l := text)
    have hspaces : ∀ byte ∈ text.takeWhile isSpace, isSpace byte = true :=
      fun byte hmem => List.mem_takeWhile_imp hmem
    have hdrop := congrArg (List.drop (text.takeWhile isSpace).length) htext
    rw [List.drop_left] at hdrop
    simp only [stoull, ← hdrop] at hparse
    generalize text.takeWhile isSpace = spaces at htext hspaces hparse
    generalize text.dropWhile isSpace = rest at htext hparse
    obtain ⟨hsign, hsignLength, hnegative⟩ := take_signOf rest
    generalize (signOf rest).1 = signLength at hsign hsignLength hnegative hparse
    rw [hnegative] at hparse
    split at hparse
    · cases hparse
    next hsome =>
    split at hparse
    · cases hparse
    next hvalue =>
    injection hparse with hpair
    injection hpair with hresult hlength
    -- Everything behind the sign was used, so everything there is a digit.
    have hall : (rest.drop signLength).takeWhile isDigit = rest.drop signLength := by
      apply (List.takeWhile_prefix isDigit).eq_of_length
      have hsplit := congrArg List.length (List.take_append_drop signLength rest)
      rw [List.length_append, hsignLength] at hsplit
      rw [← htext, List.length_append] at hlength
      omega
    rw [hall] at hsome
    rw [hall, digitsValue_eq_decimal] at hvalue hresult
    refine ⟨spaces, rest.take signLength, rest.drop signLength, ?_, hspaces, hsign, ?_, ?_,
      (hrange _).mp hvalue, ?_⟩
    · rw [List.take_append_drop, htext]
    · exact fun hnil => hsome (List.isEmpty_iff.mpr hnil)
    · exact List.takeWhile_eq_self_iff.mp hall
    · rw [← hresult]
      simp only [decide_eq_true_eq]
  · rintro ⟨spaces, sign, digits, rfl, hspaces, hsign, hsome, hdigits, hvalue, rfl⟩
    obtain ⟨hsigned, hnospace⟩ := signOf_append hsign hsome hdigits
    have htake : digits.takeWhile isDigit = digits := List.takeWhile_eq_self_iff.mpr hdigits
    have hne : digits.isEmpty = false := List.isEmpty_eq_false_iff.mpr hsome
    rw [← digitsValue_eq_decimal] at hvalue ⊢
    simp only [stoull, takeWhile_eq_front hspaces hnospace, List.drop_left, hsigned, htake, hne,
      Bool.false_eq_true, if_false, if_neg ((hrange _).mpr hvalue), decide_eq_true_eq,
      List.length_append, Nat.add_assoc]

theorem Denotes.ne_nil (h : Denotes text value) : text ≠ [] := by
  obtain ⟨spaces, sign, digits, rfl, -, -, hsome, -⟩ := h
  intro hnil
  exact hsome (List.append_eq_nil_iff.mp (List.append_eq_nil_iff.mp hnil).2).2

theorem isEmptyOrNegative_eq_false_iff :
    isEmptyOrNegative text = false ↔ text ≠ [] ∧ text.head? ≠ some 0x2D := by
  cases text with
  | nil => simp [isEmptyOrNegative]
  | cons byte rest => simp [isEmptyOrNegative, isMinus]

/-- A number that does not start with a minus. -/
def Accepted (text : List Byte) (value : UInt64) : Prop :=
  Denotes text value ∧ text.head? ≠ some 0x2D

/-- The first check and the number of characters used. -/
theorem accepted_iff : Accepted text value ↔
    isEmptyOrNegative text = false ∧ stoull text = .ok (value, text.length) := by
  rw [isEmptyOrNegative_eq_false_iff, stoull_eq_ok_iff]
  constructor
  · rintro ⟨hdenotes, hhead⟩
    exact ⟨⟨hdenotes.ne_nil, hhead⟩, hdenotes⟩
  · rintro ⟨⟨-, hhead⟩, hdenotes⟩
    exact ⟨hdenotes, hhead⟩

/-- A size is an accepted number, and not zero. -/
theorem parsePositiveSize_eq_ok_iff (option : List Byte) :
    Benchmark.parsePositiveSize option text = .ok value ↔ Accepted text value ∧ value ≠ 0 := by
  have hmax : ¬ value.toNat > kMaxSize := Nat.not_lt.mpr (Nat.le_pred_of_lt value.toNat_lt)
  rw [accepted_iff]
  constructor
  · intro hparse
    unfold Benchmark.parsePositiveSize at hparse
    split at hparse
    · cases hparse
    next hfirst =>
    split at hparse
    · cases hparse
    · cases hparse
    next number parsedChars hstoull =>
    split at hparse
    · cases hparse
    next hchecks =>
    simp only [not_or, not_not] at hchecks
    obtain ⟨hlength, hzero, -⟩ := hchecks
    cases hparse
    rw [← hlength]
    exact ⟨⟨Bool.not_eq_true _ ▸ hfirst, hstoull⟩, hzero⟩
  · rintro ⟨⟨hfirst, hstoull⟩, hzero⟩
    simp only [Benchmark.parsePositiveSize, hfirst, hstoull, hzero, hmax, Bool.false_eq_true,
      ne_eq, not_true_eq_false, or_self, if_false]

/-- A port is an accepted number of 16 bits. -/
theorem parsePort_eq_ok_iff {port : UInt16} :
    Client.parsePort text = .ok port ↔
      ∃ value, Accepted text value ∧ ¬ value > 0xFFFF ∧ port = value.toUInt16 := by
  constructor
  · intro hparse
    unfold Client.parsePort stoul at hparse
    split at hparse
    · cases hparse
    next hfirst =>
    split at hparse
    · cases hparse
    · cases hparse
    next number parsedChars hstoull =>
    split at hparse
    · cases hparse
    next hlength =>
    split at hparse
    · cases hparse
    next hrange =>
    cases hparse
    rw [not_not] at hlength
    rw [hlength] at hstoull
    exact ⟨number, accepted_iff.mpr ⟨Bool.not_eq_true _ ▸ hfirst, hstoull⟩, hrange, rfl⟩
  · rintro ⟨value, haccepted, hrange, rfl⟩
    obtain ⟨hfirst, hstoull⟩ := accepted_iff.mp haccepted
    simp only [Client.parsePort, stoul, hfirst, hstoull, hrange, Bool.false_eq_true, ne_eq,
      not_true_eq_false, if_false]

end PulseCore.Apps
