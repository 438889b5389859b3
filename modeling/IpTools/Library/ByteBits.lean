import Mathlib.Algebra.Ring.Nat
import Mathlib.Tactic.Common

/-!
# Bits of a byte

The shifts and masks that cut a byte into groups of bits, as arithmetic on its value.
-/

namespace ByteBits

lemma toNat_ofNat {n : Nat} (h : n < 256) : (UInt8.ofNat n).toNat = n :=
  UInt8.toNat_ofNat_of_lt' h

variable (b c : UInt8) {k : Nat}

lemma toNat_high (hk : k < 8) : (b >>> UInt8.ofNat k).toNat = b.toNat / 2 ^ k := by
  rw [UInt8.toNat_shiftRight, toNat_ofNat (by omega), Nat.mod_eq_of_lt hk,
    Nat.shiftRight_eq_div_pow]

lemma toNat_mask (hk : k ≤ 8) : (b &&& UInt8.ofNat (2 ^ k - 1)).toNat = b.toNat % 2 ^ k := by
  have hpow : 2 ^ k ≤ 2 ^ 8 := Nat.pow_le_pow_right (by decide) hk
  rw [UInt8.toNat_and, toNat_ofNat (by omega), Nat.and_two_pow_sub_one_eq_mod]

/-- The low bits of a byte, moved to the top of six. -/
lemma toNat_low (hk : k ≤ 6) :
    ((b &&& UInt8.ofNat (2 ^ k - 1)) <<< UInt8.ofNat (6 - k)).toNat =
      b.toNat % 2 ^ k * 2 ^ (6 - k) := by
  have hsmall : b.toNat % 2 ^ k * 2 ^ (6 - k) < 2 ^ 8 := by
    have hmod : b.toNat % 2 ^ k ≤ 2 ^ k :=
      Nat.le_of_lt (Nat.mod_lt _ (Nat.two_pow_pos k))
    calc b.toNat % 2 ^ k * 2 ^ (6 - k) ≤ 2 ^ k * 2 ^ (6 - k) := Nat.mul_le_mul_right _ hmod
      _ = 2 ^ 6 := by rw [← Nat.pow_add, Nat.add_sub_cancel' hk]
      _ < 2 ^ 8 := by decide
  rw [UInt8.toNat_shiftLeft, toNat_mask b (by omega), toNat_ofNat (by omega),
    Nat.mod_eq_of_lt (show 6 - k < 8 by omega), Nat.shiftLeft_eq, Nat.mod_eq_of_lt hsmall]

/-- Six bits of two bytes, the low ones of the first and the high ones of the second. -/
lemma toNat_joined (hk : k < 6) :
    (((b &&& UInt8.ofNat (2 ^ k - 1)) <<< UInt8.ofNat (6 - k)) |||
        (c >>> UInt8.ofNat (2 + k))).toNat =
      b.toNat % 2 ^ k * 2 ^ (6 - k) + c.toNat / 2 ^ (2 + k) := by
  have hc : c.toNat / 2 ^ (2 + k) < 2 ^ (6 - k) := by
    apply Nat.div_lt_of_lt_mul
    rw [← Nat.pow_add, show 2 + k + (6 - k) = 8 by omega]
    exact c.toNat_lt
  rw [UInt8.toNat_or, toNat_low b (Nat.le_of_lt hk), toNat_high c (by omega), ← Nat.shiftLeft_eq,
    ← Nat.shiftLeft_add_eq_or_of_lt hc]

end ByteBits
