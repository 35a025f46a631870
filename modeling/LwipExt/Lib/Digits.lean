import Mathlib.Algebra.Group.Nat.Defs

/-!
Numbers of a fixed width put together again from their bytes.
-/

namespace LwipExt.Lib

/-- A number with `k` bits behind it. -/
theorem shiftLeft_or {lo k : Nat} (small : lo < 2 ^ k) (hi : Nat) :
    hi <<< k ||| lo = hi * 2 ^ k + lo := by
  rw [← Nat.shiftLeft_add_eq_or_of_lt small, Nat.shiftLeft_eq]

theorem join16 (n : UInt16) : (n >>> 8).toUInt8.toUInt16 <<< 8 ||| n.toUInt8.toUInt16 = n := by
  apply UInt16.toNat_inj.mp
  have bound := n.toNat_lt
  simp only [UInt16.toNat_or, UInt16.toNat_shiftLeft, UInt8.toNat_toUInt16,
    UInt16.toNat_toUInt8, UInt16.toNat_shiftRight, UInt16.toNat_ofNat, Nat.reducePow,
    Nat.reduceMod, Nat.shiftRight_eq_div_pow]
  have low : n.toNat % 256 < 2 ^ 8 := Nat.mod_lt _ (by omega)
  have high : (n.toNat / 256 % 256) <<< 8 < 65536 := by
    rw [Nat.shiftLeft_eq]
    omega
  rw [Nat.mod_eq_of_lt high, shiftLeft_or low]
  omega

/-- Four digits behind each other. -/
theorem digits_or {a b c d : Nat} (lt_b : b < 256) (lt_c : c < 256) (lt_d : d < 256) :
    a <<< 24 ||| (b <<< 16 ||| (c <<< 8 ||| d)) = a * 16777216 + b * 65536 + c * 256 + d := by
  rw [shiftLeft_or (k := 8) lt_d, shiftLeft_or (k := 16), shiftLeft_or (k := 24)]
  · omega
  · omega
  · omega

theorem join32 (n : UInt32) :
    (n >>> 24).toUInt8.toUInt32 <<< 24 ||| (n >>> 16).toUInt8.toUInt32 <<< 16 |||
      (n >>> 8).toUInt8.toUInt32 <<< 8 ||| n.toUInt8.toUInt32 = n := by
  apply UInt32.toNat_inj.mp
  have bound := n.toNat_lt
  simp only [UInt32.toNat_or, UInt32.toNat_shiftLeft, UInt8.toNat_toUInt32,
    UInt32.toNat_toUInt8, UInt32.toNat_shiftRight, UInt32.toNat_ofNat, Nat.reducePow,
    Nat.reduceMod, Nat.shiftRight_eq_div_pow, Nat.or_assoc]
  have digit (b : Nat) : b % 256 < 256 := Nat.mod_lt _ (by omega)
  have shifted (b k : Nat) (le : k ≤ 24) : (b % 256) <<< k % 4294967296 = (b % 256) <<< k := by
    apply Nat.mod_eq_of_lt
    rw [Nat.shiftLeft_eq]
    calc b % 256 * 2 ^ k
        < 256 * 2 ^ k := Nat.mul_lt_mul_of_pos_right (digit b) (Nat.two_pow_pos k)
      _ ≤ 256 * 2 ^ 24 := Nat.mul_le_mul_left _ (Nat.pow_le_pow_right (by omega) le)
  rw [shifted _ 24 (by omega), shifted _ 16 (by omega), shifted _ 8 (by omega),
    digits_or (digit _) (digit _) (digit _)]
  omega

theorem join64 (n : UInt64) : (n >>> 32).toUInt32.toUInt64 <<< 32 + n.toUInt32.toUInt64 = n := by
  apply UInt64.toNat_inj.mp
  have bound := n.toNat_lt
  simp only [UInt64.toNat_add, UInt64.toNat_shiftLeft, UInt32.toNat_toUInt64,
    UInt64.toNat_toUInt32, UInt64.toNat_shiftRight, UInt64.toNat_ofNat, Nat.reducePow,
    Nat.reduceMod, Nat.shiftRight_eq_div_pow, Nat.shiftLeft_eq]
  omega

end LwipExt.Lib
