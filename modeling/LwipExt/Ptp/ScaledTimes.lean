import LwipExt.Ptp.Msg
import LwipExt.Ptp.Times

/-!
Correction fields (`scaledNanosecondsToInternalTime` in `ptpArith.c`, `msgUnpackHeader` in
`dep/ptpMsg.c`).

A correction field counts in units of 2 ^ -16 nanoseconds. Its magnitude is taken before it is
shifted and divided, which is possible for every number of 64 bits but the least; that one keeps
its sign and comes out positive.
-/

namespace LwipExt.Ptp

open LwipExt.Lib

/-! ### What is unpacked -/

/-- The two words of a correction field. -/
theorem correctionfield_words (buf : Bytes) :
    (msgUnpackHeader buf).correctionfield.toUInt64.toNat =
      (be32At buf 8).toNat * 2 ^ 32 + (be32At buf 12).toNat := by
  have high := (be32At buf 8).toNat_lt
  have low := (be32At buf 12).toNat_lt
  have shift : ((32 : Int64).toBitVec.smod 64).toNat = 32 := rfl
  rw [msgUnpackHeader]
  change (((be32At buf 8).toUInt64.toInt64 <<< 32) +
    (be32At buf 12).toUInt64.toInt64).toBitVec.toNat = _
  rw [Int64.toBitVec_add, Int64.toBitVec_shiftLeft, BitVec.toNat_add, BitVec.shiftLeft_eq',
    shift, BitVec.toNat_shiftLeft]
  change ((be32At buf 8).toUInt64.toNat <<< 32 % 2 ^ 64 + (be32At buf 12).toUInt64.toNat) % 2 ^ 64
    = _
  rw [UInt32.toNat_toUInt64, UInt32.toNat_toUInt64, Nat.shiftLeft_eq]
  omega

/-- The least correction field. -/
theorem correctionfield_minValue (buf : Bytes) :
    (msgUnpackHeader buf).correctionfield = Int64.minValue ↔
      be32At buf 8 = 0x80000000 ∧ be32At buf 12 = 0 := by
  have words := correctionfield_words buf
  have low := (be32At buf 12).toNat_lt
  rw [← Int64.toBitVec_inj, ← BitVec.toNat_inj, ← UInt32.toNat_inj, ← UInt32.toNat_inj]
  change (msgUnpackHeader buf).correctionfield.toUInt64.toNat = 9223372036854775808 ↔
    (be32At buf 8).toNat = 2147483648 ∧ (be32At buf 12).toNat = 0
  rw [words]
  omega

/-! ### Without overflow -/

/-- The end of `scaledNanosecondsToInternalTime`. -/
def withSign (sign nanoseconds : Int64) : TimeInternal :=
  { seconds := (sign * (nanoseconds / 1000000000)).toInt32
    nanoseconds := (sign * (nanoseconds % 1000000000)).toInt32 }

/-- The end of `scaledNanosecondsToInternalTime`, as long as every result fits. -/
def withSignChecked (sign nanoseconds : Int64) : Option TimeInternal := do
  let seconds ← checked 64 (sign.toInt * (nanoseconds / 1000000000).toInt)
    (sign * (nanoseconds / 1000000000))
  let seconds ← checked 32 seconds.toInt seconds.toInt32
  let nanoseconds ← checked 64 (sign.toInt * (nanoseconds % 1000000000).toInt)
    (sign * (nanoseconds % 1000000000))
  let nanoseconds ← checked 32 nanoseconds.toInt nanoseconds.toInt32
  some { seconds := seconds, nanoseconds := nanoseconds }

/-- `scaledNanosecondsToInternalTime`, as long as every result fits. -/
def scaledNanosecondsToInternalTimeChecked (scaledNanoseconds : Int64) : Option TimeInternal :=
  if scaledNanoseconds < 0 then do
    let nanoseconds ← checked 64 (-scaledNanoseconds.toInt) (-scaledNanoseconds)
    withSignChecked (-1) (nanoseconds >>> 16)
  else withSignChecked 1 (scaledNanoseconds >>> 16)

theorem scaledNanosecondsToInternalTime_eq (scaledNanoseconds : Int64) :
    scaledNanosecondsToInternalTime scaledNanoseconds =
      if scaledNanoseconds < 0 then withSign (-1) ((-scaledNanoseconds) >>> 16)
      else withSign 1 (scaledNanoseconds >>> 16) := by
  unfold scaledNanosecondsToInternalTime
  split <;> rfl

/-- A checked conversion that is the unchecked one and exact. -/
def ScaledExactly (scaledNanoseconds : Int64) : Prop :=
  Exactly (scaledNanosecondsToInternalTimeChecked scaledNanoseconds)
    (scaledNanosecondsToInternalTime scaledNanoseconds) (scaledNanoseconds.toInt.tdiv (2 ^ 16))

/-- A magnitude of 47 bits in seconds and nanoseconds. -/
theorem magnitude_bounds {n : Int} (nonneg : 0 ≤ n) (below : n < 2 ^ 47) :
    0 ≤ n.tdiv 1000000000 ∧ n.tdiv 1000000000 < 2147483648 ∧
      0 ≤ n.tmod 1000000000 ∧ n.tmod 1000000000 < 1000000000 := by
  obtain ⟨sum, below', above', nonneg', -⟩ := truncated_tdiv (n := n) (d := 1000000000) (by decide)
  have := nonneg' nonneg
  omega

/-- A product with a sign that fits 32 bits is computed and narrowed without loss. -/
theorem toInt_signed {sign n : Int64} (sign_eq : sign.toInt = 1 ∨ sign.toInt = -1)
    (nonneg : 0 ≤ n.toInt) (below : n.toInt < 2147483648) :
    InRange 64 (sign.toInt * n.toInt) ∧ InRange 32 (sign * n).toInt ∧
      (sign * n).toInt32.toInt = sign.toInt * n.toInt := by
  have bounds : -2147483648 < sign.toInt * n.toInt ∧ sign.toInt * n.toInt < 2147483648 := by
    rcases sign_eq with positive | negative
    · rw [positive]
      omega
    · rw [negative]
      omega
  have fits : InRange 64 (sign.toInt * n.toInt) := by
    rw [inRange_64]
    omega
  have product := toInt_mul64_of_inRange fits
  have fits' : InRange 32 (sign * n).toInt := by
    rw [product, inRange_32]
    omega
  refine ⟨fits, fits', ?_⟩
  rw [toInt_toInt32_of_inRange fits', product]

theorem withSign_exactly {sign nanoseconds : Int64}
    (sign_eq : sign.toInt = 1 ∨ sign.toInt = -1) (nonneg : 0 ≤ nanoseconds.toInt)
    (below : nanoseconds.toInt < 2 ^ 47) :
    Exactly (withSignChecked sign nanoseconds) (withSign sign nanoseconds)
      (sign.toInt * nanoseconds.toInt) := by
  obtain ⟨quotient, quotient', remainder, remainder'⟩ := magnitude_bounds nonneg below
  have sum := Int.mul_tdiv_add_tmod nanoseconds.toInt 1000000000
  have seconds : (nanoseconds / 1000000000).toInt = nanoseconds.toInt.tdiv 1000000000 := by
    apply Int64.toInt_div_of_ne_right
    decide
  have rest : (nanoseconds % 1000000000).toInt = nanoseconds.toInt.tmod 1000000000 :=
    Int64.toInt_mod nanoseconds 1000000000
  rw [← seconds] at quotient quotient' sum
  rw [← rest] at remainder remainder' sum
  obtain ⟨fits, narrow, value⟩ := toInt_signed sign_eq quotient quotient'
  obtain ⟨fits', narrow', value'⟩ := toInt_signed sign_eq remainder (by omega)
  constructor
  · rw [withSignChecked, checked_of_inRange fits, checked_of_inRange fits']
    simp only [Option.bind_eq_bind, Option.bind_some]
    rw [checked_of_inRange narrow, checked_of_inRange narrow', Option.bind_some, Option.bind_some,
      withSign]
  · rw [withSign]
    rcases sign_eq with sign_eq | sign_eq <;> rw [sign_eq] at value value' <;>
      constructor <;> dsimp only <;> omega
  · rw [withSign, TimeInternal.total, value, value', ← sum]
    rcases sign_eq with sign_eq | sign_eq <;> rw [sign_eq] <;> omega

theorem toInt_shiftRight_16 (n : Int64) : (n >>> 16).toInt = n.toInt / 2 ^ 16 :=
  toInt_shiftRight_64 (k := 16) (n := 16) rfl (by decide)

theorem neg_iff_toInt64 {n : Int64} : n < 0 ↔ n.toInt < 0 :=
  Int64.lt_iff_toInt_lt

theorem scaledExactly_of_nonneg {n : Int64} (nonneg : ¬ n < 0) : ScaledExactly n := by
  have range := inRange_toInt64 n
  have nonneg' : 0 ≤ n.toInt := by
    rw [neg_iff_toInt64] at nonneg
    omega
  rw [inRange_64] at range
  rw [ScaledExactly, scaledNanosecondsToInternalTimeChecked, scaledNanosecondsToInternalTime_eq,
    if_neg nonneg, if_neg nonneg, Int.tdiv_eq_ediv_of_nonneg nonneg', ← toInt_shiftRight_16,
    ← Int.one_mul (n >>> 16).toInt]
  apply withSign_exactly
  · exact .inl rfl
  · rw [toInt_shiftRight_16]
    omega
  · rw [toInt_shiftRight_16]
    omega

theorem scaledExactly_of_neg {n : Int64} (neg : n < 0) (inner : n ≠ Int64.minValue) :
    ScaledExactly n := by
  have range := inRange_toInt64 n
  have neg' := neg_iff_toInt64.mp neg
  have inner' : n.toInt ≠ -9223372036854775808 := by
    intro least
    exact inner (Int64.toInt_inj.mp least)
  rw [inRange_64] at range
  have fits : InRange 64 (-n.toInt) := by
    rw [inRange_64]
    omega
  have magnitude := toInt_neg_of_inRange fits
  have exact_value : n.toInt.tdiv (2 ^ 16) = -1 * ((-n) >>> 16).toInt := by
    rw [toInt_shiftRight_16, magnitude, ← Int.tdiv_eq_ediv_of_nonneg (by omega), Int.neg_tdiv]
    omega
  rw [ScaledExactly, scaledNanosecondsToInternalTimeChecked, scaledNanosecondsToInternalTime_eq,
    if_pos neg, if_pos neg, checked_of_inRange fits, exact_value]
  apply withSign_exactly
  · exact .inr rfl
  · rw [toInt_shiftRight_16, magnitude]
    omega
  · rw [toInt_shiftRight_16, magnitude]
    omega

/-- The magnitude of the least value does not fit. -/
theorem not_scaledExactly_minValue : ¬ ScaledExactly Int64.minValue := by
  intro conversion
  have stops : scaledNanosecondsToInternalTimeChecked Int64.minValue = none := by
    decide
  rw [conversion.defined] at stops
  cases stops

/-- The correction fields that are converted exactly: all but the least. -/
theorem scaledExactly_iff (buf : Bytes) :
    ScaledExactly (msgUnpackHeader buf).correctionfield ↔
      ¬ (be32At buf 8 = 0x80000000 ∧ be32At buf 12 = 0) := by
  rw [← correctionfield_minValue]
  constructor
  · intro conversion least
    rw [least] at conversion
    exact not_scaledExactly_minValue conversion
  · intro inner
    by_cases neg : (msgUnpackHeader buf).correctionfield < 0
    · exact scaledExactly_of_neg neg inner
    · exact scaledExactly_of_nonneg neg

/-- A header whose correction field is the least number. -/
def leastCorrection : Bytes :=
  List.replicate 8 0 ++ [0x80, 0, 0, 0, 0, 0, 0, 0] ++ List.replicate 28 0

/-- The least correction field overflows and is taken for a positive correction. -/
theorem least_correction_overflows :
    ¬ ScaledExactly (msgUnpackHeader leastCorrection).correctionfield ∧
      (scaledNanosecondsToInternalTime
        (msgUnpackHeader leastCorrection).correctionfield).seconds = 140737 := by
  constructor
  · intro conversion
    have stops : scaledNanosecondsToInternalTimeChecked
        (msgUnpackHeader leastCorrection).correctionfield = none := by
      decide
    rw [conversion.defined] at stops
    cases stops
  · decide

end LwipExt.Ptp
