import Mathlib.Algebra.Group.Int.Defs
import Mathlib.Algebra.Group.Nat.Defs
import LwipExt.Lib.Guarded

/-!
Signed machine integers whose arithmetic is defined only as far as the exact result fits.

`checked w exact a` is the result `a` of an operation on signed integers of `w` bits, unless the
exact result is out of their range. In range the operations of `Int32` and `Int64` are exact
(`toInt_add_of_inRange` and its siblings).
-/

namespace LwipExt.Lib

universe u

/-- A signed integer of `w` bits can hold `n`. -/
def InRange (w : Nat) (n : Int) : Prop :=
  -2 ^ (w - 1) ≤ n ∧ n < 2 ^ (w - 1)

instance (w : Nat) (n : Int) : Decidable (InRange w n) :=
  inferInstanceAs (Decidable (_ ∧ _))

theorem inRange_32 {n : Int} : InRange 32 n ↔ -2147483648 ≤ n ∧ n < 2147483648 := by
  rfl

theorem inRange_64 {n : Int} :
    InRange 64 n ↔ -9223372036854775808 ≤ n ∧ n < 9223372036854775808 := by
  rfl

/-- The result of an operation, if it fits. -/
def checked {α : Type u} (w : Nat) (exact : Int) (a : α) : Option α :=
  if InRange w exact then some a else none

theorem checked_of_inRange {α : Type u} {w : Nat} {exact : Int} {a : α}
    (fits : InRange w exact) : checked w exact a = some a :=
  if_pos fits

theorem guarded_checked {α : Type u} {w : Nat} {exact : Int} {a : α} :
    Guarded (InRange w exact) (checked w exact a) a :=
  Guarded.test id

/-! ### Operations of 32 bits -/

section Int32

variable {x y : Int32}

theorem inRange_toInt32 (x : Int32) : InRange 32 x.toInt :=
  ⟨x.le_toInt, x.toInt_lt⟩

theorem bmod_of_inRange {n : Int} (fits : InRange 32 n) : n.bmod (2 ^ 32) = n := by
  rw [inRange_32] at fits
  apply Int.bmod_eq_of_le <;> omega

theorem toInt_add_of_inRange (fits : InRange 32 (x.toInt + y.toInt)) :
    (x + y).toInt = x.toInt + y.toInt := by
  rw [Int32.toInt_add, bmod_of_inRange fits]

theorem toInt_sub_of_inRange (fits : InRange 32 (x.toInt - y.toInt)) :
    (x - y).toInt = x.toInt - y.toInt := by
  rw [Int32.toInt_sub, bmod_of_inRange fits]

theorem toInt_mul_of_inRange (fits : InRange 32 (x.toInt * y.toInt)) :
    (x * y).toInt = x.toInt * y.toInt := by
  rw [Int32.toInt_mul, bmod_of_inRange fits]

theorem toInt_div_of_inRange (fits : InRange 32 (x.toInt.tdiv y.toInt)) :
    (x / y).toInt = x.toInt.tdiv y.toInt := by
  rw [Int32.toInt_div, bmod_of_inRange fits]

/-- The amount of a shift that is smaller than the width. -/
theorem shiftAmount_32 {k : Int32} {n : Nat} (amount : k.toInt = n) (small : n < 32) :
    (k.toBitVec.smod 32).toNat = n := by
  have signed : (k.toBitVec.smod 32).toInt = n := by
    rw [BitVec.toInt_smod]
    change k.toInt.fmod 32 = n
    rw [amount, Int.fmod_eq_emod_of_nonneg]
    · omega
    · decide
  rw [BitVec.toInt_eq_toNat_cond] at signed
  split at signed <;> omega

theorem toInt_shiftRight_32 {k : Int32} {n : Nat} (amount : k.toInt = n) (small : n < 32) :
    (x >>> k).toInt = x.toInt / 2 ^ n := by
  change (x.toBitVec.sshiftRight' (k.toBitVec.smod 32)).toInt = _
  rw [BitVec.sshiftRight_eq', shiftAmount_32 amount small, BitVec.toInt_sshiftRight,
    Int.shiftRight_eq_div_pow]
  norm_cast

theorem toInt_shiftLeft_of_inRange {k : Int32} {n : Nat} (amount : k.toInt = n)
    (small : n < 32) (fits : InRange 32 (x.toInt * 2 ^ n)) :
    (x <<< k).toInt = x.toInt * 2 ^ n := by
  have unsigned : ((x.toBitVec.toNat <<< n : Nat) : Int).bmod (2 ^ 32) =
      (x.toInt * 2 ^ n).bmod (2 ^ 32) := by
    have signed : x.toInt = (x.toBitVec.toNat : Int).bmod (2 ^ 32) :=
      BitVec.toInt_eq_toNat_bmod _
    rw [signed, Int.bmod_mul_bmod, Nat.shiftLeft_eq, Int.natCast_mul, Int.natCast_pow]
    rfl
  change (x.toBitVec <<< (k.toBitVec.smod 32)).toInt = _
  rw [BitVec.shiftLeft_eq', shiftAmount_32 amount small, BitVec.toInt_shiftLeft, unsigned,
    bmod_of_inRange fits]

end Int32

/-! ### Operations of 64 bits -/

section Int64

variable {x y : Int64}

theorem inRange_toInt64 (x : Int64) : InRange 64 x.toInt :=
  ⟨x.le_toInt, x.toInt_lt⟩

theorem bmod64_of_inRange {n : Int} (fits : InRange 64 n) : n.bmod (2 ^ 64) = n := by
  rw [inRange_64] at fits
  apply Int.bmod_eq_of_le <;> omega

theorem toInt_neg_of_inRange (fits : InRange 64 (-x.toInt)) : (-x).toInt = -x.toInt := by
  rw [Int64.toInt_neg, bmod64_of_inRange fits]

theorem toInt_mul64_of_inRange (fits : InRange 64 (x.toInt * y.toInt)) :
    (x * y).toInt = x.toInt * y.toInt := by
  rw [Int64.toInt_mul, bmod64_of_inRange fits]

/-- A narrowing conversion of a value that fits. -/
theorem toInt_toInt32_of_inRange (fits : InRange 32 x.toInt) : x.toInt32.toInt = x.toInt := by
  rw [Int64.toInt_toInt32, bmod_of_inRange fits]

theorem shiftAmount_64 {k : Int64} {n : Nat} (amount : k.toInt = n) (small : n < 64) :
    (k.toBitVec.smod 64).toNat = n := by
  have signed : (k.toBitVec.smod 64).toInt = n := by
    rw [BitVec.toInt_smod]
    change k.toInt.fmod 64 = n
    rw [amount, Int.fmod_eq_emod_of_nonneg]
    · omega
    · decide
  rw [BitVec.toInt_eq_toNat_cond] at signed
  split at signed <;> omega

theorem toInt_shiftRight_64 {k : Int64} {n : Nat} (amount : k.toInt = n) (small : n < 64) :
    (x >>> k).toInt = x.toInt / 2 ^ n := by
  change (x.toBitVec.sshiftRight' (k.toBitVec.smod 64)).toInt = _
  rw [BitVec.sshiftRight_eq', shiftAmount_64 amount small, BitVec.toInt_sshiftRight,
    Int.shiftRight_eq_div_pow]
  norm_cast

end Int64

/-! ### Division that truncates -/

section Truncation

variable {n d q r : Int}

/-- The sign of a remainder of truncated division is the sign of the dividend. -/
structure Truncated (n d q r : Int) : Prop where
  sum : n = d * q + r
  below : r < d
  above : -d < r
  nonneg : 0 ≤ n → 0 ≤ r
  nonpos : n ≤ 0 → r ≤ 0

theorem truncated_tdiv (positive : 0 < d) : Truncated n d (n.tdiv d) (n.tmod d) where
  sum := (Int.mul_tdiv_add_tmod n d).symm
  below := Int.tmod_lt_of_pos n positive
  above := Int.lt_tmod_of_pos n positive
  nonneg := Int.tmod_nonneg d
  nonpos := by
    intro nonpos
    have opposite : 0 ≤ (-n).tmod d := Int.tmod_nonneg d (by omega)
    rw [Int.neg_tmod] at opposite
    omega

/-- Quotient and remainder of truncated division are determined. -/
theorem Truncated.tdiv_eq (positive : 0 < d) (truncated : Truncated n d q r) :
    n.tdiv d = q := by
  obtain ⟨sum, below, above, nonneg, nonpos⟩ := truncated
  have other : Truncated n d (n.tdiv d) (n.tmod d) := truncated_tdiv positive
  have difference : d * (n.tdiv d - q) = r - n.tmod d := by
    have sum' := other.sum
    rw [Int.mul_sub]
    omega
  have close : -d < d * (n.tdiv d - q) ∧ d * (n.tdiv d - q) < d := by
    rw [difference]
    have := other.below
    have := other.above
    have := other.nonneg
    have := other.nonpos
    omega
  have above : n.tdiv d - q < 1 := by
    apply Int.lt_of_mul_lt_mul_left (a := d) _ (Int.le_of_lt positive)
    simpa using close.2
  have below : -1 < n.tdiv d - q := by
    apply Int.lt_of_mul_lt_mul_left (a := d) _ (Int.le_of_lt positive)
    simpa using close.1
  omega

end Truncation

end LwipExt.Lib
