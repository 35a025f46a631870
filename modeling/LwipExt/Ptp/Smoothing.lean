import LwipExt.Lib.Run
import LwipExt.Lib.Smoothing
import LwipExt.Ptp.Times

/-!
The smoothing filter of the servo (`filter` and `order` in `dep/ptpServo.c`, `floorLog2` in
`ptpArith.c`).

The filter lowers its order so that the sum fits 32 bits, but looks at the larger of the average
and the sample and not at the larger magnitude: a negative average next to a sample near zero is
not seen. In a run where the order that it takes is one that the magnitudes allow, no value
overflows and every output is between the samples so far.
-/

namespace LwipExt.Ptp

open LwipExt.Lib

/-! ### The logarithm -/

/-- A step of `floorLog2`. -/
def halve (bound shift : UInt32) (state : UInt32 × Int32) : UInt32 × Int32 :=
  if state.1 ≥ bound then (state.1 >>> shift, state.2 + shift.toInt32) else state

theorem floorLog2_eq {n : UInt32} (nonzero : n ≠ 0) :
    floorLog2 n =
      let state := halve 4 2 (halve 16 4 (halve 256 8 (halve 65536 16 (n, 0))))
      if state.1 ≥ 2 then state.2 + 1 else state.2 := by
  rw [floorLog2, if_neg nonzero]
  rfl

/-- `pos` steps of `n` have been taken, and less than `2 ^ width` is left. -/
structure Halved (n width : Nat) (state : UInt32 × Int32) : Prop where
  steps : ∃ pos : Nat, state.2.toInt = pos ∧ pos + width ≤ 32 ∧
    state.1.toNat * 2 ^ pos ≤ n ∧ n < (state.1.toNat + 1) * 2 ^ pos
  positive : 0 < state.1.toNat
  below : state.1.toNat < 2 ^ width

theorem halve_halved {n width : Nat} {bound shift : UInt32} {state : UInt32 × Int32}
    (halved : Halved n (2 * width) state) (bound_eq : bound.toNat = 2 ^ width)
    (shift_eq : shift.toNat = width) (amount : shift.toInt32.toInt = width)
    (small : width ≤ 16) :
    Halved n width (halve bound shift state) := by
  obtain ⟨⟨pos, pos_eq, room, low, high⟩, positive, below⟩ := halved
  rw [halve]
  split
  · case isTrue large =>
    have large' : 2 ^ width ≤ state.1.toNat := by
      rw [← bound_eq]
      exact UInt32.le_iff_toNat_le.mp large
    have shifted : (state.1 >>> shift).toNat = state.1.toNat / 2 ^ width := by
      rw [UInt32.toNat_shiftRight, shift_eq, Nat.mod_eq_of_lt (by omega), Nat.shiftRight_eq_div_pow]
    have one : 0 < 2 ^ width := Nat.two_pow_pos width
    constructor
    · refine ⟨pos + width, ?_, by omega, ?_, ?_⟩
      · dsimp only
        rw [toInt_add_of_inRange]
        · rw [pos_eq, amount]
          rfl
        · rw [pos_eq, amount, inRange_32]
          omega
      · dsimp only
        rw [shifted, Nat.add_comm pos, pow_add, ← mul_assoc]
        exact (Nat.mul_le_mul_right _ (Nat.div_mul_le_self _ _)).trans low
      · dsimp only
        rw [shifted, Nat.add_comm pos, pow_add, ← mul_assoc]
        apply high.trans_le
        apply Nat.mul_le_mul_right
        have := Nat.lt_div_mul_add (a := state.1.toNat) one
        rw [Nat.add_mul, Nat.one_mul]
        omega
    · dsimp only
      rw [shifted]
      exact Nat.div_pos large' one
    · dsimp only
      rw [shifted, Nat.div_lt_iff_lt_mul one, ← pow_add, ← Nat.two_mul]
      exact below
  · case isFalse small' =>
    have small'' : state.1.toNat < 2 ^ width := by
      rw [← bound_eq]
      exact Nat.not_le.mp (mt UInt32.le_iff_toNat_le.mpr small')
    exact ⟨⟨pos, pos_eq, by omega, low, high⟩, positive, small''⟩

/-- The power of two below a number. -/
theorem floorLog2_spec {n : UInt32} (nonzero : n ≠ 0) :
    ∃ p : Nat, (floorLog2 n).toInt = p ∧ 2 ^ p ≤ n.toNat ∧ n.toNat < 2 ^ (p + 1) := by
  have positive : 0 < n.toNat := by
    apply Nat.pos_of_ne_zero
    intro zero
    exact nonzero (UInt32.toNat_inj.mp zero)
  have start : Halved n.toNat 32 (n, 0) := by
    constructor
    · exact ⟨0, rfl, by decide, by simp, by simp⟩
    · exact positive
    · exact n.toNat_lt
  have by16 : Halved n.toNat 16 (halve 65536 16 (n, 0)) :=
    halve_halved start rfl rfl rfl (by decide)
  have by8 : Halved n.toNat 8 (halve 256 8 (halve 65536 16 (n, 0))) :=
    halve_halved by16 rfl rfl rfl (by decide)
  have by4 : Halved n.toNat 4 (halve 16 4 (halve 256 8 (halve 65536 16 (n, 0)))) :=
    halve_halved by8 rfl rfl rfl (by decide)
  have by2 : Halved n.toNat 2 (halve 4 2 (halve 16 4 (halve 256 8 (halve 65536 16 (n, 0))))) :=
    halve_halved by4 rfl rfl rfl (by decide)
  rw [floorLog2_eq nonzero]
  generalize halve 4 2 (halve 16 4 (halve 256 8 (halve 65536 16 (n, 0)))) = state at by2
  obtain ⟨⟨pos, pos_eq, room, low, high⟩, positive', below⟩ := by2
  dsimp only
  split
  · case isTrue two =>
    have two' : 2 ≤ state.1.toNat := UInt32.le_iff_toNat_le.mp two
    refine ⟨pos + 1, ?_, ?_, ?_⟩
    · rw [toInt_add_of_inRange]
      · rw [pos_eq]
        rfl
      · rw [pos_eq, inRange_32]
        change _ ≤ (pos : Int) + 1 ∧ (pos : Int) + 1 < _
        omega
    · rw [pow_succ]
      nlinarith [Nat.two_pow_pos pos]
    · rw [pow_succ, pow_succ]
      nlinarith [Nat.two_pow_pos pos]
  · case isFalse one =>
    have one' : state.1.toNat < 2 := UInt32.lt_iff_toNat_lt.mp (UInt32.not_le.mp one)
    have one'' : state.1.toNat = 1 := by omega
    rw [one''] at low high
    refine ⟨pos, pos_eq, ?_, ?_⟩
    · omega
    · rw [pow_succ]
      omega

/-! ### Orders and magnitudes -/

theorem toInt_max (a b : Int32) : (max a b).toInt = max a.toInt b.toInt := by
  change (if a ≤ b then b else a).toInt = _
  split
  · case isTrue le =>
    rw [max_eq_right (Int32.le_iff_toInt_le.mp le)]
  · case isFalse gt =>
    have lt : b.toInt < a.toInt := Int32.lt_iff_toInt_lt.mp (Int32.not_le.mp gt)
    rw [max_eq_left lt.le]

theorem toInt_min (a b : Int32) : (min a b).toInt = min a.toInt b.toInt := by
  change (if a ≤ b then a else b).toInt = _
  split
  · case isTrue le =>
    rw [min_eq_left (Int32.le_iff_toInt_le.mp le)]
  · case isFalse gt =>
    have lt : b.toInt < a.toInt := Int32.lt_iff_toInt_lt.mp (Int32.not_le.mp gt)
    rw [min_eq_right lt.le]

theorem toInt_neg32_of_inRange {n : Int32} (fits : InRange 32 (-n.toInt)) :
    (-n).toInt = -n.toInt := by
  rw [Int32.toInt_neg, bmod_of_inRange fits]

theorem toInt_abs32 {n : Int32} (small : |n.toInt| < 2 ^ 30) : (abs32 n).toInt = |n.toInt| := by
  rw [abs32]
  split
  · case isTrue neg =>
    have neg' := neg_iff_toInt.mp neg
    rw [abs_of_neg neg'] at small ⊢
    apply toInt_neg32_of_inRange
    rw [inRange_32]
    omega
  · case isFalse nonneg =>
    have nonneg' : ¬ n.toInt < 0 := mt neg_iff_toInt.mpr nonneg
    rw [abs_of_nonneg (by omega)]

theorem toNat_toUInt32 {n : Int32} (nonneg : 0 ≤ n.toInt) : (n.toUInt32.toNat : Int) = n.toInt := by
  have cases : n.toInt = if 2 * n.toUInt32.toNat < 2 ^ 32 then (n.toUInt32.toNat : Int)
      else (n.toUInt32.toNat : Int) - (2 ^ 32 : Nat) := BitVec.toInt_eq_toNat_cond n.toBitVec
  have small := n.toUInt32.toNat_lt
  split at cases
  · exact cases.symm
  · omega

theorem order_eq (n : Int32) :
    order n = if abs32 n = 0 then 0 else floorLog2 (abs32 n).toUInt32 := by
  rfl

/-- The order of a number is the number of its bits, less one. -/
theorem order_spec {n : Int32} (small : |n.toInt| < 2 ^ 30) :
    ∃ o : Nat, (order n).toInt = o ∧ |n.toInt| < 2 ^ (o + 1) ∧ o ≤ 29 := by
  have magnitude := toInt_abs32 small
  rw [order_eq]
  split
  · case isTrue zero =>
    rw [zero] at magnitude
    have none : (0 : Int) = |n.toInt| := magnitude
    exact ⟨0, rfl, by rw [← none]; decide, by decide⟩
  · case isFalse nonzero =>
    have unsigned : ((abs32 n).toUInt32.toNat : Int) = |n.toInt| := by
      rw [← magnitude]
      apply toNat_toUInt32
      rw [magnitude]
      exact abs_nonneg n.toInt
    have nonzero' : (abs32 n).toUInt32 ≠ 0 := by
      intro zero
      rw [zero, ← magnitude] at unsigned
      exact nonzero (Int32.toInt_inj.mp unsigned.symm)
    obtain ⟨o, value, low, high⟩ := floorLog2_spec nonzero'
    refine ⟨o, value, ?_, ?_⟩
    · rw [← unsigned]
      exact_mod_cast high
    · have few : 2 ^ o < 2 ^ 30 := by
        apply low.trans_lt
        exact_mod_cast unsigned ▸ small
      have := (Nat.pow_lt_pow_iff_right (by decide : 1 < 2)).mp few
      omega

/-! ### The parts of the filter -/

/-- A sample is counted, and is the average if it is the first. -/
def filterBegin (nsecCurrent : Int32) (filt : Filter) : Filter :=
  let filt := { filt with n := filt.n + 1 }
  if filt.n = 1 then { filt with yPrev := nsecCurrent, ySum := nsecCurrent, sPrev := 0 } else filt

/-- The order that the number of samples allows, and that number as far as it is counted. -/
def filterCount (filt : Filter) : Int32 × Filter :=
  if (1 : Int32) <<< filt.s.toInt32 > filt.n then (order filt.n, filt)
  else (filt.s.toInt32, { filt with n := (1 : Int32) <<< filt.s.toInt32 })

/-- The order of the filter: no higher than its average and the sample seem to allow. -/
def filterOrder (count yPrev nsecCurrent : Int32) : Int32 :=
  min count (30 - order (max yPrev nsecCurrent))

/-- The sum, brought to an order. -/
def rescale (ySum sPrev s : Int32) : Int32 :=
  if sPrev > s then ySum >>> (sPrev - s) else if sPrev < s then ySum <<< (s - sPrev) else ySum

/-- The sample is taken in. -/
def filterEnd (nsecCurrent s : Int32) (filt : Filter) : Int32 × Filter :=
  let ySum := rescale filt.ySum filt.sPrev.toInt32 s + (nsecCurrent - filt.yPrev)
  (ySum >>> s, { filt with ySum := ySum, yPrev := ySum >>> s, sPrev := s.toInt16 })

theorem filter_eq (nsecCurrent : Int32) (filt : Filter) :
    filter nsecCurrent filt =
      filterEnd nsecCurrent
        (filterOrder (filterCount (filterBegin nsecCurrent filt)).1
          (filterCount (filterBegin nsecCurrent filt)).2.yPrev nsecCurrent)
        (filterCount (filterBegin nsecCurrent filt)).2 := by
  rfl

/-! ### Without overflow -/

/-- `order`, as long as every result fits. -/
def orderChecked (n : Int32) : Option Int32 := do
  let n ← if n < 0 then checked 32 (-n.toInt) (-n) else some n
  some (if n = 0 then 0 else floorLog2 n.toUInt32)

/-- A number shifted to the left, if the result fits. -/
def shiftLeftChecked (n shift : Int32) : Option Int32 :=
  checked 32 (n.toInt * 2 ^ shift.toInt.toNat) (n <<< shift)

def filterBeginChecked (nsecCurrent : Int32) (filt : Filter) : Option Filter := do
  let n ← checked 32 (filt.n.toInt + 1) (filt.n + 1)
  let filt := { filt with n := n }
  some (if filt.n = 1 then { filt with yPrev := nsecCurrent, ySum := nsecCurrent, sPrev := 0 }
    else filt)

def filterCountChecked (filt : Filter) : Option (Int32 × Filter) := do
  let limit ← shiftLeftChecked 1 filt.s.toInt32
  if limit > filt.n then
    let s ← orderChecked filt.n
    some (s, filt)
  else some (filt.s.toInt32, { filt with n := limit })

def filterOrderChecked (count yPrev nsecCurrent : Int32) : Option Int32 := do
  let bits ← orderChecked (max yPrev nsecCurrent)
  let s2 ← checked 32 (30 - bits.toInt) (30 - bits)
  some (min count s2)

def rescaleChecked (ySum sPrev s : Int32) : Option Int32 :=
  if sPrev > s then do
    let shift ← checked 32 (sPrev.toInt - s.toInt) (sPrev - s)
    some (ySum >>> shift)
  else if sPrev < s then do
    let shift ← checked 32 (s.toInt - sPrev.toInt) (s - sPrev)
    shiftLeftChecked ySum shift
  else some ySum

def filterEndChecked (nsecCurrent s : Int32) (filt : Filter) : Option (Int32 × Filter) := do
  let ySum ← rescaleChecked filt.ySum filt.sPrev.toInt32 s
  let distance ← checked 32 (nsecCurrent.toInt - filt.yPrev.toInt) (nsecCurrent - filt.yPrev)
  let ySum ← checked 32 (ySum.toInt + distance.toInt) (ySum + distance)
  some (ySum >>> s, { filt with ySum := ySum, yPrev := ySum >>> s, sPrev := s.toInt16 })

/-- `filter`, as long as every result fits. -/
def filterChecked (nsecCurrent : Int32) (filt : Filter) : Option (Int32 × Filter) := do
  let filt ← filterBeginChecked nsecCurrent filt
  let counted ← filterCountChecked filt
  let s ← filterOrderChecked counted.1 counted.2.yPrev nsecCurrent
  filterEndChecked nsecCurrent s counted.2

/-! ### What the filter holds -/

/-- A magnitude that a number of nanoseconds less than a second has. -/
def Subsecond (n : Int32) : Prop :=
  -1000000000 < n.toInt ∧ n.toInt < 1000000000

instance (n : Int32) : Decidable (Subsecond n) :=
  inferInstanceAs (Decidable (_ ∧ _))

/-- The number of samples that a filter counts up to. -/
def Filter.limit (f : Filter) : Int :=
  2 ^ f.s.toInt.toNat

/-- A filter that goes on: its order is configured in range, its samples are counted up to
`most`, and its average is that of its sum, between `low` and `high`. -/
structure Filter.Sound (f : Filter) (most low high : Int) : Prop where
  order_nonneg : 0 ≤ f.s.toInt
  order_le : f.s.toInt ≤ 30
  counted : 1 ≤ f.n.toInt
  count_le : f.n.toInt ≤ most
  averages : ∃ k : Nat, f.sPrev.toInt = k ∧ k ≤ 30 ∧ Averages f.ySum.toInt k f.yPrev.toInt
  low_le : low ≤ f.yPrev.toInt
  le_high : f.yPrev.toInt ≤ high

section Parts

variable {f : Filter} {most low high : Int} {x : Int32}

theorem Filter.Sound.widen (sound : f.Sound most low high) {low' high' : Int}
    (below : low' ≤ low) (above : high ≤ high') : f.Sound most low' high' :=
  { sound with
    low_le := below.trans sound.low_le
    le_high := sound.le_high.trans above }

theorem limit_le (low : 0 ≤ f.s.toInt) (high : f.s.toInt ≤ 30) :
    1 ≤ f.limit ∧ f.limit ≤ 2 ^ 30 := by
  constructor
  · exact pow_two_pos _
  · exact pow_le_pow_right₀ (by decide) (by omega)

theorem filterBegin_of_first (first : f.n + 1 = 1) :
    filterBegin x f = { f with n := f.n + 1, yPrev := x, ySum := x, sPrev := 0 } :=
  if_pos first

theorem filterBegin_of_later (later : f.n + 1 ≠ 1) :
    filterBegin x f = { f with n := f.n + 1 } :=
  if_neg later

theorem filterBeginChecked_eq (fits : InRange 32 (f.n.toInt + 1)) :
    filterBeginChecked x f = some (filterBegin x f) := by
  rw [filterBeginChecked, checked_of_inRange fits]
  rfl

/-- The first sample. -/
theorem filterBegin_fresh (fresh : f.n = 0) (order_nonneg : 0 ≤ f.s.toInt)
    (order_le : f.s.toInt ≤ 30) (low_le : low ≤ x.toInt) (le_high : x.toInt ≤ high) :
    filterBeginChecked x f = some (filterBegin x f) ∧
      (filterBegin x f).Sound ((filterBegin x f).limit + 1) low high := by
  have first : f.n + 1 = 1 := by
    rw [fresh]
    rfl
  constructor
  · apply filterBeginChecked_eq
    rw [fresh]
    decide
  · have one := (limit_le order_nonneg order_le).1
    rw [filterBegin_of_first first, first]
    constructor
    · exact order_nonneg
    · exact order_le
    · exact le_refl 1
    · change (1 : Int) ≤ f.limit + 1
      omega
    · exact ⟨0, rfl, by decide, averages_zero x.toInt⟩
    · exact low_le
    · exact le_high

/-- A further sample. -/
theorem filterBegin_sound (sound : f.Sound f.limit low high) :
    filterBeginChecked x f = some (filterBegin x f) ∧
      (filterBegin x f).Sound ((filterBegin x f).limit + 1) low high := by
  have limits := limit_le sound.order_nonneg sound.order_le
  have counted := sound.counted
  have count_le := sound.count_le
  have fits : InRange 32 (f.n.toInt + 1) := by
    rw [inRange_32]
    omega
  have next : (f.n + 1).toInt = f.n.toInt + 1 := toInt_add_of_inRange fits
  have later : f.n + 1 ≠ 1 := by
    intro first
    have value : (f.n + 1).toInt = 1 := congrArg Int32.toInt first
    omega
  constructor
  · exact filterBeginChecked_eq fits
  · rw [filterBegin_of_later later]
    exact { sound with
      counted := by
        dsimp only
        omega
      count_le := by
        change (f.n + 1).toInt ≤ f.limit + 1
        omega }

theorem orderChecked_eq {n : Int32} (small : |n.toInt| < 2 ^ 30) :
    orderChecked n = some (order n) := by
  rw [orderChecked, order]
  split
  · case isTrue neg =>
    have neg' := neg_iff_toInt.mp neg
    have fits : InRange 32 (-n.toInt) := by
      rw [abs_of_neg neg'] at small
      rw [inRange_32]
      omega
    rw [checked_of_inRange fits]
    rfl
  · rfl

theorem shiftLeftChecked_eq {n shift : Int32} {k : Nat} (amount : shift.toInt = k)
    (fits : InRange 32 (n.toInt * 2 ^ k)) : shiftLeftChecked n shift = some (n <<< shift) := by
  rw [shiftLeftChecked, amount, Int.toNat_natCast, checked_of_inRange fits]

/-- The number of samples is looked at. -/
theorem filterCount_sound (sound : f.Sound (f.limit + 1) low high) :
    filterCountChecked f = some (filterCount f) ∧
      (filterCount f).2.Sound (filterCount f).2.limit low high ∧
      (filterCount f).2.yPrev = f.yPrev ∧
      0 ≤ (filterCount f).1.toInt ∧ (filterCount f).1.toInt ≤ 30 := by
  have order_nonneg := sound.order_nonneg
  have order_le := sound.order_le
  have counted := sound.counted
  have limits := limit_le order_nonneg order_le
  have configured : f.s.toInt32.toInt = f.s.toInt := Int16.toInt_toInt32 f.s
  have amount : f.s.toInt32.toInt = (f.s.toInt.toNat : Int) := by
    rw [configured, Int.toNat_of_nonneg order_nonneg]
  have power : (1 : Int32).toInt * 2 ^ f.s.toInt.toNat = f.limit := Int.one_mul _
  have fits : InRange 32 ((1 : Int32).toInt * 2 ^ f.s.toInt.toNat) := by
    rw [power, inRange_32]
    omega
  have value : ((1 : Int32) <<< f.s.toInt32).toInt = f.limit := by
    rw [toInt_shiftLeft_of_inRange amount (by omega) fits, power]
  rw [filterCountChecked, shiftLeftChecked_eq amount fits, filterCount]
  dsimp only [Option.bind_eq_bind, Option.bind_some]
  by_cases few : (1 : Int32) <<< f.s.toInt32 > f.n
  · have few' : f.n.toInt < f.limit := by
      rw [← value]
      exact Int32.lt_iff_toInt_lt.mp few
    have small : |f.n.toInt| < 2 ^ 30 := by
      rw [abs_of_nonneg (by omega)]
      omega
    obtain ⟨o, order_eq, -, o_le⟩ := order_spec small
    rw [if_pos few, if_pos few, orderChecked_eq small]
    refine ⟨rfl, { sound with count_le := few'.le }, rfl, ?_, ?_⟩
    · dsimp only
      omega
    · dsimp only
      omega
  · rw [if_neg few, if_neg few]
    refine ⟨rfl, ?_, rfl, ?_, ?_⟩
    · exact { sound with
        counted := by
          dsimp only
          omega
        count_le := by
          dsimp only
          rw [value]
          exact le_refl _ }
    · dsimp only
      omega
    · dsimp only
      omega

/-- The larger magnitude of an average and a sample. -/
def magnitude (yPrev nsecCurrent : Int32) : Int32 :=
  max (abs32 yPrev) (abs32 nsecCurrent)

/-- The order is one that the magnitudes allow: so is that of the count, or the larger number has
the bits of the larger magnitude. -/
def OrderFits (count yPrev nsecCurrent : Int32) : Prop :=
  count ≤ 30 - order (magnitude yPrev nsecCurrent) ∨
    order (max yPrev nsecCurrent) = order (magnitude yPrev nsecCurrent)

instance (count yPrev nsecCurrent : Int32) : Decidable (OrderFits count yPrev nsecCurrent) :=
  inferInstanceAs (Decidable (_ ∨ _))

theorem Subsecond.bits {n : Int32} (subsecond : Subsecond n) : |n.toInt| < 2 ^ 30 :=
  (abs_lt.mpr subsecond).trans (by decide)

theorem toInt_magnitude {y : Int32} (old : Subsecond y) (new : Subsecond x) :
    (magnitude y x).toInt = max |y.toInt| |x.toInt| := by
  rw [magnitude, toInt_max, toInt_abs32 old.bits, toInt_abs32 new.bits]

/-- What is left of 30 bits. -/
theorem toInt_bitsLeft {n : Int32} {o : Nat} (value : (order n).toInt = o) (small : o ≤ 29) :
    InRange 32 (30 - (order n).toInt) ∧ (30 - order n).toInt = 30 - o := by
  have fits : InRange 32 (30 - (order n).toInt) := by
    rw [value, inRange_32]
    omega
  refine ⟨fits, ?_⟩
  rw [← value]
  exact toInt_sub_of_inRange (x := 30) fits

/-- The order that is taken leaves the bits of the magnitudes. -/
theorem filterOrder_spec {count y : Int32} (nonneg : 0 ≤ count.toInt) (le : count.toInt ≤ 30)
    (old : Subsecond y) (new : Subsecond x) (seen : OrderFits count y x) :
    filterOrderChecked count y x = some (filterOrder count y x) ∧
      ∃ k o : Nat, (filterOrder count y x).toInt = k ∧ k + o ≤ 30 ∧
        max |y.toInt| |x.toInt| < 2 ^ (o + 1) := by
  have larger : |(max y x).toInt| < 2 ^ 30 := by
    rw [toInt_max]
    rcases max_choice y.toInt x.toInt with first | second
    · rw [first]
      exact old.bits
    · rw [second]
      exact new.bits
  have larger' : |(magnitude y x).toInt| < 2 ^ 30 := by
    rw [toInt_magnitude old new, abs_of_nonneg (le_max_of_le_left (abs_nonneg _))]
    exact max_lt old.bits new.bits
  obtain ⟨o, value, -, small⟩ := order_spec larger
  obtain ⟨o', value', high', small'⟩ := order_spec larger'
  obtain ⟨fits, left⟩ := toInt_bitsLeft value small
  obtain ⟨-, left'⟩ := toInt_bitsLeft value' small'
  rw [toInt_magnitude old new, abs_of_nonneg (le_max_of_le_left (abs_nonneg _))] at high'
  constructor
  · rw [filterOrderChecked, orderChecked_eq larger, Option.bind_eq_bind, Option.bind_some,
      checked_of_inRange fits]
    rfl
  · have taken : (filterOrder count y x).toInt = min count.toInt (30 - o) := by
      rw [filterOrder, toInt_min, left]
    refine ⟨(min count.toInt (30 - o)).toNat, o', ?_, ?_, high'⟩
    · rw [taken, Int.toNat_of_nonneg]
      omega
    · rcases seen with allowed | same
      · have allowed' := Int32.le_iff_toInt_le.mp allowed
        rw [left'] at allowed'
        omega
      · rw [same, value'] at value
        omega

/-- The sum is brought to another order without overflow if no sum of that order with the same
average overflows. -/
theorem rescale_averages {ySum sPrev s : Int32} {k p : Nat} {y : Int} (old : sPrev.toInt = p)
    (new : s.toInt = k) (old_le : p ≤ 30) (new_le : k ≤ 30) (averages : Averages ySum.toInt p y)
    (fits : ∀ sum, Averages sum k y → InRange 32 sum) :
    rescaleChecked ySum sPrev s = some (rescale ySum sPrev s) ∧
      Averages (rescale ySum sPrev s).toInt k y := by
  have less : ∀ {a b : Int32} {m n : Nat}, a.toInt = m → b.toInt = n → m ≤ 30 → n ≤ m →
      InRange 32 (a.toInt - b.toInt) ∧ (a - b).toInt = (m - n : Nat) := by
    intro a b m n a_eq b_eq m_le n_le
    have fits : InRange 32 (a.toInt - b.toInt) := by
      rw [inRange_32]
      omega
    refine ⟨fits, ?_⟩
    rw [toInt_sub_of_inRange fits]
    omega
  rw [rescaleChecked, rescale]
  by_cases down : sPrev > s
  · have lower : k < p := by
      have := Int32.lt_iff_toInt_lt.mp down
      omega
    obtain ⟨shift_fits, shift⟩ := less old new old_le lower.le
    rw [if_pos down, if_pos down, checked_of_inRange shift_fits]
    refine ⟨rfl, ?_⟩
    rw [toInt_shiftRight_32 shift (by omega)]
    obtain ⟨d, rfl⟩ := Nat.exists_eq_add_of_le lower.le
    rw [Nat.add_sub_cancel_left]
    exact averages.scaleDown
  · by_cases up : sPrev < s
    · have higher : p < k := by
        have := Int32.lt_iff_toInt_lt.mp up
        omega
      obtain ⟨shift_fits, shift⟩ := less new old new_le higher.le
      obtain ⟨d, rfl⟩ := Nat.exists_eq_add_of_le higher.le
      rw [Nat.add_sub_cancel_left] at shift
      have scaled := averages.scaleUp d
      rw [if_neg down, if_neg down, if_pos up, if_pos up, checked_of_inRange shift_fits]
      refine ⟨shiftLeftChecked_eq shift (fits _ scaled), ?_⟩
      rw [toInt_shiftLeft_of_inRange shift (by omega) (fits _ scaled)]
      exact scaled
    · rw [if_neg down, if_neg down, if_neg up, if_neg up]
      have same : p = k := by
        have := mt Int32.lt_iff_toInt_lt.mpr down
        have := mt Int32.lt_iff_toInt_lt.mpr up
        omega
      refine ⟨rfl, ?_⟩
      rw [← same]
      exact averages

/-- The sample is taken in without overflow, and the output is between it and the average. -/
theorem filterEnd_sound {s : Int32} {k o : Nat} (sound : f.Sound most low high)
    (taken : s.toInt = k) (room : k + o ≤ 30) (old : Subsecond f.yPrev) (new : Subsecond x)
    (bits : max |f.yPrev.toInt| |x.toInt| < 2 ^ (o + 1)) (low_le : low ≤ x.toInt)
    (le_high : x.toInt ≤ high) :
    filterEndChecked x s f = some (filterEnd x s f) ∧
      (filterEnd x s f).2.Sound most low high ∧
      (filterEnd x s f).1 = (filterEnd x s f).2.yPrev := by
  obtain ⟨p, old_eq, old_le, averages⟩ := sound.averages
  have configured : f.sPrev.toInt32.toInt = p := by
    rw [Int16.toInt_toInt32, old_eq]
  have y_low : -max |f.yPrev.toInt| |x.toInt| ≤ f.yPrev.toInt :=
    (neg_le_neg (le_max_left _ _)).trans (neg_abs_le _)
  have y_high : f.yPrev.toInt ≤ max |f.yPrev.toInt| |x.toInt| :=
    (le_abs_self _).trans (le_max_left _ _)
  have x_low : -max |f.yPrev.toInt| |x.toInt| ≤ x.toInt :=
    (neg_le_neg (le_max_right _ _)).trans (neg_abs_le _)
  have x_high : x.toInt ≤ max |f.yPrev.toInt| |x.toInt| :=
    (le_abs_self _).trans (le_max_right _ _)
  obtain ⟨rescaled, averages'⟩ := rescale_averages configured taken old_le (by omega) averages
    (fun sum averages => averages.inRange y_low y_high bits (by omega))
  have distance_fits : InRange 32 (x.toInt - f.yPrev.toInt) := by
    obtain ⟨old_above, old_below⟩ := old
    obtain ⟨new_above, new_below⟩ := new
    rw [inRange_32]
    omega
  have distance := toInt_sub_of_inRange distance_fits
  have sum_fits : InRange 32
      ((rescale f.ySum f.sPrev.toInt32 s).toInt + (x - f.yPrev).toInt) := by
    rw [distance]
    exact averages'.update_inRange y_low y_high x_low x_high bits (by omega)
  have sum := toInt_add_of_inRange sum_fits
  have output : ((rescale f.ySum f.sPrev.toInt32 s + (x - f.yPrev)) >>> s).toInt =
      ((rescale f.ySum f.sPrev.toInt32 s).toInt + (x.toInt - f.yPrev.toInt)) / 2 ^ k := by
    rw [toInt_shiftRight_32 taken (by omega), sum, distance]
  have between := averages'.update x.toInt
  rw [← output] at between
  refine ⟨?_, ?_, rfl⟩
  · rw [filterEndChecked, rescaled, checked_of_inRange distance_fits]
    dsimp only [Option.bind_eq_bind, Option.bind_some]
    rw [checked_of_inRange sum_fits]
    rfl
  · exact { sound with
      averages := by
        refine ⟨k, ?_, by omega, ?_⟩
        · have narrowed : s.toInt16.toInt = s.toInt.bmod (2 ^ 16) := Int32.toInt_toInt16 s
          change s.toInt16.toInt = k
          rw [narrowed, taken]
          apply Int.bmod_eq_of_le <;> omega
        · rw [averages_iff]
          change (rescale f.ySum f.sPrev.toInt32 s + (x - f.yPrev)).toInt / 2 ^ k =
            ((rescale f.ySum f.sPrev.toInt32 s + (x - f.yPrev)) >>> s).toInt
          rw [output, sum, distance]
      low_le := (le_min low_le sound.low_le).trans between.1
      le_high := between.2.trans (max_le le_high sound.le_high) }

theorem filterEnd_limit (nsecCurrent s : Int32) (filt : Filter) :
    (filterEnd nsecCurrent s filt).2.limit = filt.limit := by
  rw [filterEnd, Filter.limit, Filter.limit]

/-- The order that is taken for the next sample is one that the magnitudes allow. -/
def GuardSees (f : Filter) (nsecCurrent : Int32) : Prop :=
  OrderFits (filterCount (filterBegin nsecCurrent f)).1 (filterBegin nsecCurrent f).yPrev
    nsecCurrent

instance (f : Filter) (nsecCurrent : Int32) : Decidable (GuardSees f nsecCurrent) :=
  inferInstanceAs (Decidable (OrderFits _ _ _))

/-- A sample, once it is counted. -/
theorem filter_sound
    (begun : filterBeginChecked x f = some (filterBegin x f) ∧
      (filterBegin x f).Sound ((filterBegin x f).limit + 1) low high)
    (small : -1000000000 < low ∧ high < 1000000000) (low_le : low ≤ x.toInt)
    (le_high : x.toInt ≤ high) (seen : GuardSees f x) :
    filterChecked x f = some (filter x f) ∧
      (filter x f).2.Sound (filter x f).2.limit low high ∧
      (filter x f).1 = (filter x f).2.yPrev := by
  obtain ⟨begins, sound⟩ := begun
  obtain ⟨counts, counted, average, nonneg, le⟩ := filterCount_sound sound
  have new : Subsecond x := ⟨small.1.trans_le low_le, le_high.trans_lt small.2⟩
  have old : Subsecond (filterBegin x f).yPrev :=
    ⟨small.1.trans_le sound.low_le, sound.le_high.trans_lt small.2⟩
  obtain ⟨orders, k, o, taken, room, bits⟩ := filterOrder_spec nonneg le old new seen
  rw [← average] at orders taken bits old
  obtain ⟨ends, after, output⟩ :=
    filterEnd_sound counted taken room old new bits low_le le_high
  rw [filter_eq, filterEnd_limit]
  refine ⟨?_, after, output⟩
  rw [filterChecked, begins, Option.bind_eq_bind, Option.bind_some, counts, Option.bind_eq_bind,
    Option.bind_some, orders, Option.bind_eq_bind, Option.bind_some, ends]

end Parts

/-! ### Runs -/

section Runs

variable {f : Filter} {past : List Int32} {x : Int32}

/-- The filter after a sample. -/
def filterStep (f : Filter) (nsecCurrent : Int32) : Filter :=
  (filter nsecCurrent f).2

/-- A filter that `initClock` has started over, of an order from 0 to 30. -/
structure Filter.Fresh (f : Filter) : Prop where
  count : f.n = 0
  order_nonneg : 0 ≤ f.s.toInt
  order_le : f.s.toInt ≤ 30

/-- Between two of the samples. -/
def BetweenSamples (samples : List Int32) (f : Filter) : Prop :=
  ∃ a ∈ samples, ∃ b ∈ samples, f.Sound f.limit a.toInt b.toInt

/-- After some samples the next is taken in. -/
theorem filter_next (fresh : f.Fresh)
    (held : past = [] ∨ BetweenSamples past (run filterStep f past))
    (small : ∀ y ∈ past ++ [x], Subsecond y) (seen : GuardSees (run filterStep f past) x) :
    filterChecked x (run filterStep f past) = some (filter x (run filterStep f past)) ∧
      (filter x (run filterStep f past)).1 = (filter x (run filterStep f past)).2.yPrev ∧
      BetweenSamples (past ++ [x]) (filter x (run filterStep f past)).2 := by
  have last : x ∈ past ++ [x] := List.mem_append_right past List.mem_cons_self
  rcases held with none | ⟨a, mem, b, mem', sound⟩
  · subst none
    obtain ⟨defined, after, output⟩ := filter_sound
      (filterBegin_fresh fresh.count fresh.order_nonneg fresh.order_le (le_refl x.toInt)
        (le_refl x.toInt))
      (small x last) (le_refl x.toInt) (le_refl x.toInt) seen
    exact ⟨defined, output, x, last, x, last, after⟩
  · -- the bounds are widened to the new sample
    obtain ⟨a', mem_a, a_le, le_x⟩ :
        ∃ a' ∈ past ++ [x], a'.toInt ≤ a.toInt ∧ a'.toInt ≤ x.toInt := by
      rcases le_total a.toInt x.toInt with below | above
      · exact ⟨a, List.mem_append_left _ mem, le_refl _, below⟩
      · exact ⟨x, last, above, le_refl _⟩
    obtain ⟨b', mem_b, le_b, x_le⟩ :
        ∃ b' ∈ past ++ [x], b.toInt ≤ b'.toInt ∧ x.toInt ≤ b'.toInt := by
      rcases le_total b.toInt x.toInt with below | above
      · exact ⟨x, last, below, le_refl _⟩
      · exact ⟨b, List.mem_append_left _ mem', le_refl _, above⟩
    obtain ⟨defined, after, output⟩ := filter_sound (filterBegin_sound (sound.widen a_le le_b))
      ⟨(small a' mem_a).1, (small b' mem_b).2⟩ le_x x_le seen
    exact ⟨defined, output, a', mem_a, b', mem_b, after⟩

theorem filter_run (fresh : f.Fresh) (small : ∀ y ∈ past, Subsecond y)
    (seen : Along filterStep GuardSees f past) :
    past = [] ∨ BetweenSamples past (run filterStep f past) := by
  induction past using List.reverseRecOn with
  | nil => exact .inl rfl
  | append_singleton past x ih =>
      obtain ⟨before, last⟩ := (along_append f past [x]).mp seen
      have held := ih (fun y mem => small y (List.mem_append_left _ mem)) before
      have next := filter_next fresh held small last.1
      rw [run_append]
      exact .inr next.2.2

/-- Along every run in which the guard sees the magnitudes, no value of the filter overflows, and
every output is between the least and the largest sample so far. -/
theorem filter_bounded (fresh : f.Fresh) (small : ∀ y ∈ past ++ [x], Subsecond y)
    (seen : Along filterStep GuardSees f (past ++ [x])) :
    filterChecked x (run filterStep f past) = some (filter x (run filterStep f past)) ∧
      (∃ a ∈ past ++ [x], a ≤ (filter x (run filterStep f past)).1) ∧
      ∃ b ∈ past ++ [x], (filter x (run filterStep f past)).1 ≤ b := by
  obtain ⟨before, last⟩ := (along_append f past [x]).mp seen
  have held := filter_run fresh (fun y mem => small y (List.mem_append_left _ mem)) before
  obtain ⟨defined, output, a, mem, b, mem', sound⟩ := filter_next fresh held small last.1
  rw [output]
  exact ⟨defined, ⟨a, mem, Int32.le_iff_toInt_le.mpr sound.low_le⟩, b, mem',
    Int32.le_iff_toInt_le.mpr sound.le_high⟩

end Runs

/-- A filter of order 2. -/
def quickFilter : Filter := { s := 2 }

set_option maxRecDepth 4000 in
theorem filter_bounded_met :
    filterChecked (-5) (run filterStep quickFilter [7, -900000000]) =
        some (filter (-5) (run filterStep quickFilter [7, -900000000])) ∧
      (∃ a ∈ [7, -900000000] ++ [-5],
        a ≤ (filter (-5) (run filterStep quickFilter [7, -900000000])).1) ∧
      ∃ b ∈ [7, -900000000] ++ [-5],
        (filter (-5) (run filterStep quickFilter [7, -900000000])).1 ≤ b := by
  apply filter_bounded ⟨rfl, by decide, by decide⟩
  · intro y mem
    simp only [List.cons_append, List.nil_append, List.mem_cons, List.not_mem_nil,
      or_false] at mem
    rcases mem with rfl | rfl | rfl <;> decide
  · decide

set_option maxRecDepth 4000 in
/-- Three samples near minus a second and then one near zero: the guard sees the last, and the
sum is shifted out of range. -/
theorem negative_average_overflows :
    filterChecked (-1) (run filterStep quickFilter [-900000000, -900000000, -900000000]) =
      none := by
  decide

end LwipExt.Ptp
