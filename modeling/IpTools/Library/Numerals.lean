import Mathlib.Algebra.Ring.Nat
import Mathlib.Data.Nat.Digits.Defs
import Mathlib.Tactic.Common

/-!
# Numerals

The numeral of a number in a base is read back digit by digit, and starts with a zero only where it
is the numeral of zero.
-/

namespace Numerals

variable {b : Nat}

/-- A reader that knows the digits of the base knows the numerals. -/
theorem foldl_toDigits (hb : 1 < b) {value : Char → Nat}
    (hvalue : ∀ d < b, value (Nat.digitChar d) = d) (n : Nat) :
    (Nat.toDigits b n).foldl (fun acc c => acc * b + value c) 0 = n := by
  induction n using Nat.strongRecOn with
  | ind n ih =>
    rw [Nat.toDigits_eq_if hb]
    by_cases hlt : n < b
    · rw [if_pos hlt, List.foldl_cons, List.foldl_nil, hvalue n hlt, Nat.zero_mul, Nat.zero_add]
    · rw [if_neg hlt, List.foldl_append, ih (n / b) (Nat.div_lt_self (by omega) hb),
        List.foldl_cons, List.foldl_nil, hvalue (n % b) (Nat.mod_lt n (by omega)), Nat.mul_comm,
        Nat.div_add_mod]

/-- Numbers with one numeral are the same. -/
theorem toDigits_injective (hb : 1 < b) (value : Char → Nat)
    (hvalue : ∀ d < b, value (Nat.digitChar d) = d) : Function.Injective (Nat.toDigits b) := by
  intro m n h
  rw [← foldl_toDigits hb hvalue m, h, foldl_toDigits hb hvalue n]

/-- The first digit of a positive number is positive. -/
theorem head_toDigits (hb : 1 < b) {n : Nat} (hn : 0 < n) :
    ∃ d, 0 < d ∧ d < b ∧ (Nat.toDigits b n).head? = some (Nat.digitChar d) := by
  induction n using Nat.strongRecOn with
  | ind n ih =>
    rw [Nat.toDigits_eq_if hb]
    by_cases hlt : n < b
    · rw [if_pos hlt]
      exact ⟨n, hn, hlt, rfl⟩
    · obtain ⟨d, hpos, hd, hhead⟩ := ih (n / b) (Nat.div_lt_self hn hb)
        (Nat.div_pos (Nat.le_of_not_lt hlt) (by omega))
      rw [if_neg hlt]
      exact ⟨d, hpos, hd, by rw [List.head?_append, hhead]; rfl⟩

end Numerals
