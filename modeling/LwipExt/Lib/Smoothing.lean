import LwipExt.Lib.Signed
import Mathlib.Algebra.Order.Ring.Int
import Mathlib.Tactic.Ring
import Mathlib.Tactic.Linarith

/-!
Exponential smoothing with integers.

The average of a smoothing of order `s` is its sum divided by `2 ^ s`, rounded down (`Averages`).
The sum is brought to another order by a shift, which keeps the average, and a sample is taken in
by adding its distance from the average, which leaves the new average between the two
(`Averages.update`). If no magnitude needs more bits than the order leaves, no sum overflows
(`Averages.inRange`, `Averages.update_inRange`).
-/

namespace LwipExt.Lib

/-- `y` is `sum` divided by `2 ^ s`, rounded down. -/
structure Averages (sum : Int) (s : Nat) (y : Int) : Prop where
  low : y * 2 ^ s ≤ sum
  high : sum < (y + 1) * 2 ^ s

section Smoothing

variable {sum x y m : Int} {s k o w : Nat}

theorem pow_two_pos (s : Nat) : (0 : Int) < 2 ^ s :=
  Int.pow_pos (by decide)

theorem averages_iff : Averages sum s y ↔ sum / 2 ^ s = y := by
  have positive := pow_two_pos s
  constructor
  · rintro ⟨low, high⟩
    apply Int.le_antisymm
    · exact Int.le_of_lt_add_one (Int.ediv_lt_of_lt_mul positive high)
    · exact (Int.le_ediv_iff_mul_le positive).mpr low
  · rintro rfl
    constructor
    · exact Int.ediv_mul_le sum positive.ne'
    · exact Int.lt_ediv_add_one_mul_self sum positive

theorem averages_zero (x : Int) : Averages x 0 x := by
  rw [averages_iff, pow_zero, Int.ediv_one]

/-- A higher order. -/
theorem Averages.scaleUp (averages : Averages sum s y) (k : Nat) :
    Averages (sum * 2 ^ k) (s + k) y := by
  have positive := pow_two_pos k
  constructor
  · rw [pow_add, ← mul_assoc]
    exact Int.mul_le_mul_of_nonneg_right averages.low positive.le
  · rw [pow_add, ← mul_assoc]
    exact Int.mul_lt_mul_of_pos_right averages.high positive

/-- A lower order. -/
theorem Averages.scaleDown (averages : Averages sum (s + k) y) :
    Averages (sum / 2 ^ k) s y := by
  rw [averages_iff] at averages ⊢
  rw [Int.ediv_ediv_of_nonneg (pow_two_pos k).le, ← pow_add, Nat.add_comm k s]
  exact averages

/-- The new average is between the old one and the sample. -/
theorem Averages.update (averages : Averages sum s y) (x : Int) :
    min x y ≤ (sum + (x - y)) / 2 ^ s ∧ (sum + (x - y)) / 2 ^ s ≤ max x y := by
  have positive := pow_two_pos s
  obtain ⟨low, high⟩ := averages
  constructor
  · rw [Int.le_ediv_iff_mul_le positive]
    rcases le_total x y with below | above
    · rw [min_eq_left below]
      nlinarith
    · rw [min_eq_right above]
      nlinarith
  · apply Int.le_of_lt_add_one
    apply Int.ediv_lt_of_lt_mul positive
    rcases le_total x y with below | above
    · rw [max_eq_right below]
      nlinarith
    · rw [max_eq_left above]
      nlinarith

/-- Bits that the order leaves. -/
theorem inRange_of_bits (bits : m < 2 ^ (o + 1)) (room : s + o + 2 ≤ w) {n : Int}
    (low : -m * 2 ^ s ≤ n) (high : n < (m + 1) * 2 ^ s) : InRange w n := by
  have positive := pow_two_pos s
  have width : (2 : Int) ^ (o + 1) * 2 ^ s ≤ 2 ^ (w - 1) := by
    rw [← pow_add]
    exact pow_le_pow_right₀ (by decide) (by omega)
  constructor
  · nlinarith
  · nlinarith

theorem Averages.inRange (averages : Averages sum s y) (low : -m ≤ y) (high : y ≤ m)
    (bits : m < 2 ^ (o + 1)) (room : s + o + 2 ≤ w) : InRange w sum := by
  have positive := pow_two_pos s
  apply inRange_of_bits bits room
  · exact (Int.mul_le_mul_of_nonneg_right low positive.le).trans averages.low
  · apply averages.high.trans_le
    exact Int.mul_le_mul_of_nonneg_right (by omega) positive.le

theorem Averages.update_inRange (averages : Averages sum s y) (low : -m ≤ y) (high : y ≤ m)
    (low' : -m ≤ x) (high' : x ≤ m) (bits : m < 2 ^ (o + 1)) (room : s + o + 2 ≤ w) :
    InRange w (sum + (x - y)) := by
  have positive := pow_two_pos s
  have one : (1 : Int) ≤ 2 ^ s := positive
  obtain ⟨below, above⟩ := averages
  apply inRange_of_bits bits room
  · nlinarith
  · nlinarith

end Smoothing

end LwipExt.Lib
