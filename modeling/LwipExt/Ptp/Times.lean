import LwipExt.Lib.Signed
import LwipExt.Ptp.Servo

/-!
Times as exact numbers of nanoseconds (`ptpArith.c`).

A `TimeInternal` stands for `TimeInternal.total`, and a normalized one is determined by it. The
checked versions of `addTime`, `subTime` and `div2Time` stop where one of their 32-bit results
would not fit; on normalized times whose seconds fit they go through, are exact, and leave a
normalized time.
-/

namespace LwipExt.Ptp

open LwipExt.Lib

/-! ### The exact value -/

/-- The nanoseconds that a time stands for. -/
def TimeInternal.total (t : TimeInternal) : Int :=
  t.seconds.toInt * 1000000000 + t.nanoseconds.toInt

/-- Less than a second in `nanoseconds`, with the sign of `seconds`. -/
structure TimeInternal.Normalized (t : TimeInternal) : Prop where
  below : t.nanoseconds.toInt < 1000000000
  above : -1000000000 < t.nanoseconds.toInt
  nonneg : 0 < t.seconds.toInt → 0 ≤ t.nanoseconds.toInt
  nonpos : t.seconds.toInt < 0 → t.nanoseconds.toInt ≤ 0

/-- The seconds of an exact time. -/
def wholeSeconds (total : Int) : Int :=
  total.tdiv 1000000000

theorem TimeInternal.Normalized.truncated {t : TimeInternal} (normalized : t.Normalized) :
    Truncated t.total 1000000000 t.seconds.toInt t.nanoseconds.toInt := by
  obtain ⟨below, above, nonneg, nonpos⟩ := normalized
  constructor
  · rw [total]
    omega
  · exact below
  · exact above
  · rw [total]
    omega
  · rw [total]
    omega

theorem TimeInternal.Normalized.wholeSeconds_total {t : TimeInternal}
    (normalized : t.Normalized) : wholeSeconds t.total = t.seconds.toInt :=
  normalized.truncated.tdiv_eq (by decide)

/-- A normalized time is determined by what it stands for. -/
theorem TimeInternal.Normalized.eq_of_total {t u : TimeInternal} (normalized : t.Normalized)
    (normalized' : u.Normalized) (same : t.total = u.total) : t = u := by
  have seconds : t.seconds.toInt = u.seconds.toInt := by
    rw [← normalized.wholeSeconds_total, ← normalized'.wholeSeconds_total, same]
  have nanoseconds : t.nanoseconds.toInt = u.nanoseconds.toInt := by
    rw [total, total, seconds] at same
    omega
  obtain ⟨s, n⟩ := t
  obtain ⟨s', n'⟩ := u
  rw [TimeInternal.mk.injEq]
  exact ⟨Int32.toInt_inj.mp seconds, Int32.toInt_inj.mp nanoseconds⟩

/-! ### Checked versions -/

/-- The end of `normalizeTime`, equal signs, as long as every result fits. -/
def alignSignsChecked (r : TimeInternal) : Option TimeInternal :=
  if 0 < r.seconds ∧ r.nanoseconds < 0 then do
    let seconds ← checked 32 (r.seconds.toInt - 1) (r.seconds - 1)
    let nanoseconds ← checked 32 (r.nanoseconds.toInt + 1000000000) (r.nanoseconds + 1000000000)
    some { seconds := seconds, nanoseconds := nanoseconds }
  else if r.seconds < 0 ∧ 0 < r.nanoseconds then do
    let seconds ← checked 32 (r.seconds.toInt + 1) (r.seconds + 1)
    let nanoseconds ← checked 32 (r.nanoseconds.toInt - 1000000000) (r.nanoseconds - 1000000000)
    some { seconds := seconds, nanoseconds := nanoseconds }
  else some r

/-- `normalizeTime`, as long as every result fits. -/
def normalizeTimeChecked (r : TimeInternal) : Option TimeInternal := do
  let quotient ← checked 32 (r.nanoseconds.toInt.tdiv 1000000000) (r.nanoseconds / 1000000000)
  let seconds ← checked 32 (r.seconds.toInt + quotient.toInt) (r.seconds + quotient)
  let product ← checked 32 (quotient.toInt * 1000000000) (quotient * 1000000000)
  let nanoseconds ← checked 32 (r.nanoseconds.toInt - product.toInt) (r.nanoseconds - product)
  alignSignsChecked ⟨seconds, nanoseconds⟩

/-- `addTime`, as long as every result fits. -/
def addTimeChecked (x y : TimeInternal) : Option TimeInternal := do
  let seconds ← checked 32 (x.seconds.toInt + y.seconds.toInt) (x.seconds + y.seconds)
  let nanoseconds ← checked 32 (x.nanoseconds.toInt + y.nanoseconds.toInt)
    (x.nanoseconds + y.nanoseconds)
  normalizeTimeChecked ⟨seconds, nanoseconds⟩

/-- `subTime`, as long as every result fits. -/
def subTimeChecked (x y : TimeInternal) : Option TimeInternal := do
  let seconds ← checked 32 (x.seconds.toInt - y.seconds.toInt) (x.seconds - y.seconds)
  let nanoseconds ← checked 32 (x.nanoseconds.toInt - y.nanoseconds.toInt)
    (x.nanoseconds - y.nanoseconds)
  normalizeTimeChecked ⟨seconds, nanoseconds⟩

/-- `div2Time`, as long as every result fits. -/
def div2TimeChecked (r : TimeInternal) : Option TimeInternal := do
  let remainder ← checked 32 (r.seconds.toInt.tmod 2) (r.seconds % 2)
  let product ← checked 32 (remainder.toInt * 1000000000) (remainder * 1000000000)
  let nanoseconds ← checked 32 (r.nanoseconds.toInt + product.toInt) (r.nanoseconds + product)
  let seconds ← checked 32 (r.seconds.toInt.tdiv 2) (r.seconds / 2)
  let nanoseconds ← checked 32 (nanoseconds.toInt.tdiv 2) (nanoseconds / 2)
  normalizeTimeChecked ⟨seconds, nanoseconds⟩

/-! ### Normalizing -/

theorem pos_iff_toInt {n : Int32} : 0 < n ↔ 0 < n.toInt :=
  Int32.lt_iff_toInt_lt

theorem neg_iff_toInt {n : Int32} : n < 0 ↔ n.toInt < 0 :=
  Int32.lt_iff_toInt_lt

/-- The seconds and nanoseconds of `normalizeTime` before their signs are made equal. -/
def carryTime (r : TimeInternal) : TimeInternal :=
  ⟨r.seconds + r.nanoseconds / 1000000000,
    r.nanoseconds - r.nanoseconds / 1000000000 * 1000000000⟩

/-- Less than two seconds in `nanoseconds`, as after an addition of normalized times. -/
structure TimeInternal.Carries (r : TimeInternal) : Prop where
  below : r.nanoseconds.toInt < 2000000000
  above : -2000000000 < r.nanoseconds.toInt
  fits : InRange 32 (r.seconds.toInt + r.nanoseconds.toInt.tdiv 1000000000)

section Normalize

variable {r : TimeInternal}

theorem toInt_quotient (r : TimeInternal) :
    (r.nanoseconds / 1000000000).toInt = r.nanoseconds.toInt.tdiv 1000000000 := by
  apply Int32.toInt_div_of_ne_right
  decide

theorem TimeInternal.Carries.seconds (carries : r.Carries) :
    (carryTime r).seconds.toInt = r.seconds.toInt + r.nanoseconds.toInt.tdiv 1000000000 := by
  have fits := carries.fits
  rw [← toInt_quotient] at fits ⊢
  exact toInt_add_of_inRange fits

theorem TimeInternal.Carries.product (carries : r.Carries) :
    InRange 32 (r.nanoseconds.toInt.tdiv 1000000000 * 1000000000) ∧
      (r.nanoseconds / 1000000000 * 1000000000).toInt =
        r.nanoseconds.toInt.tdiv 1000000000 * 1000000000 := by
  have truncated := truncated_tdiv (n := r.nanoseconds.toInt) (d := 1000000000) (by decide)
  have fits : InRange 32 (r.nanoseconds.toInt.tdiv 1000000000 * 1000000000) := by
    obtain ⟨below, above, -⟩ := carries
    obtain ⟨sum, below', above', nonneg, nonpos⟩ := truncated
    rw [inRange_32]
    omega
  constructor
  · exact fits
  · rw [← toInt_quotient] at fits ⊢
    exact toInt_mul_of_inRange fits

theorem TimeInternal.Carries.nanoseconds (carries : r.Carries) :
    (carryTime r).nanoseconds.toInt = r.nanoseconds.toInt.tmod 1000000000 := by
  have truncated := truncated_tdiv (n := r.nanoseconds.toInt) (d := 1000000000) (by decide)
  have remainder : r.nanoseconds.toInt - r.nanoseconds.toInt.tdiv 1000000000 * 1000000000 =
      r.nanoseconds.toInt.tmod 1000000000 := by
    have sum := truncated.sum
    omega
  have difference : r.nanoseconds.toInt -
      (r.nanoseconds / 1000000000 * 1000000000 : Int32).toInt =
        r.nanoseconds.toInt.tmod 1000000000 := by
    rw [carries.product.2, remainder]
  rw [carryTime, toInt_sub_of_inRange]
  · exact difference
  · rw [difference, inRange_32]
    obtain ⟨sum, below', above', nonneg, nonpos⟩ := truncated
    omega

/-- The end of `normalizeTime`. -/
def alignSigns (r : TimeInternal) : TimeInternal :=
  if 0 < r.seconds ∧ r.nanoseconds < 0 then ⟨r.seconds - 1, r.nanoseconds + 1000000000⟩
  else if r.seconds < 0 ∧ 0 < r.nanoseconds then ⟨r.seconds + 1, r.nanoseconds - 1000000000⟩
  else r

theorem normalizeTime_eq (r : TimeInternal) : normalizeTime r = alignSigns (carryTime r) := by
  rfl

/-- Less than a second in `nanoseconds`, with any sign. -/
structure TimeInternal.Subsecond (r : TimeInternal) : Prop where
  below : r.nanoseconds.toInt < 1000000000
  above : -1000000000 < r.nanoseconds.toInt

/-- A checked result that is the unchecked one, is normalized and stands for `total`. -/
structure Exactly (result : Option TimeInternal) (t : TimeInternal) (total : Int) : Prop where
  defined : result = some t
  normalized : t.Normalized
  total : t.total = total

theorem alignSigns_exactly (subsecond : r.Subsecond) :
    Exactly (alignSignsChecked r) (alignSigns r) r.total := by
  obtain ⟨below, above⟩ := subsecond
  have range := inRange_toInt32 r.seconds
  have one : (1 : Int32).toInt = 1 := rfl
  have second : (1000000000 : Int32).toInt = 1000000000 := rfl
  rw [inRange_32] at range
  simp only [alignSignsChecked, alignSigns, pos_iff_toInt, neg_iff_toInt]
  split
  · case isTrue signs =>
    have fits : InRange 32 (r.seconds.toInt - 1) := by
      rw [inRange_32]
      omega
    have fits' : InRange 32 (r.nanoseconds.toInt + 1000000000) := by
      rw [inRange_32]
      omega
    have seconds := toInt_sub_of_inRange (x := r.seconds) (y := 1) fits
    have nanoseconds := toInt_add_of_inRange (x := r.nanoseconds) (y := 1000000000) fits'
    rw [one] at seconds
    rw [second] at nanoseconds
    constructor
    · rw [checked_of_inRange fits, checked_of_inRange fits']
      rfl
    · constructor <;> dsimp only <;> omega
    · rw [TimeInternal.total, TimeInternal.total]
      dsimp only
      omega
  · split
    · case isTrue signs =>
      have fits : InRange 32 (r.seconds.toInt + 1) := by
        rw [inRange_32]
        omega
      have fits' : InRange 32 (r.nanoseconds.toInt - 1000000000) := by
        rw [inRange_32]
        omega
      have seconds := toInt_add_of_inRange (x := r.seconds) (y := 1) fits
      have nanoseconds := toInt_sub_of_inRange (x := r.nanoseconds) (y := 1000000000) fits'
      rw [one] at seconds
      rw [second] at nanoseconds
      constructor
      · rw [checked_of_inRange fits, checked_of_inRange fits']
        rfl
      · constructor <;> dsimp only <;> omega
      · rw [TimeInternal.total, TimeInternal.total]
        dsimp only
        omega
    · constructor
      · rfl
      · constructor <;> omega
      · rfl

theorem normalizeTime_exactly (carries : r.Carries) :
    Exactly (normalizeTimeChecked r) (normalizeTime r) r.total := by
  have truncated := truncated_tdiv (n := r.nanoseconds.toInt) (d := 1000000000) (by decide)
  have quotient : InRange 32 (r.nanoseconds.toInt.tdiv 1000000000) := by
    rw [← toInt_quotient]
    exact inRange_toInt32 _
  have subsecond : (carryTime r).Subsecond := by
    constructor <;> rw [carries.nanoseconds]
    · exact truncated.below
    · exact truncated.above
  have total : (carryTime r).total = r.total := by
    have sum := truncated.sum
    rw [TimeInternal.total, TimeInternal.total, carries.seconds, carries.nanoseconds]
    omega
  have goes : normalizeTimeChecked r = alignSignsChecked (carryTime r) := by
    have fits := carries.fits
    have product := carries.product.1
    have difference := inRange_toInt32 (carryTime r).nanoseconds
    have remainder : (carryTime r).nanoseconds.toInt = r.nanoseconds.toInt -
        (r.nanoseconds / 1000000000 * 1000000000 : Int32).toInt := by
      have sum := truncated.sum
      rw [carries.nanoseconds, carries.product.2]
      omega
    rw [remainder] at difference
    rw [normalizeTimeChecked, checked_of_inRange quotient]
    dsimp only [Option.bind_eq_bind, Option.bind_some]
    rw [toInt_quotient, checked_of_inRange fits, checked_of_inRange product]
    dsimp only [Option.bind_some]
    rw [checked_of_inRange difference, Option.bind_some, carryTime]
  rw [goes, normalizeTime_eq, ← total]
  exact alignSigns_exactly subsecond

end Normalize

/-! ### Sums and differences -/

section Sums

variable {x y : TimeInternal}

/-- A carry fits if the seconds before it and the seconds of the result do. -/
theorem carry_inRange {s n : Int} (below : n < 2000000000) (above : -2000000000 < n)
    (before : InRange 32 s) (result : InRange 32 (wholeSeconds (s * 1000000000 + n))) :
    InRange 32 (s + n.tdiv 1000000000) := by
  have carry := truncated_tdiv (n := n) (d := 1000000000) (by decide)
  have whole := truncated_tdiv (n := s * 1000000000 + n) (d := 1000000000) (by decide)
  rw [wholeSeconds] at result
  rw [inRange_32] at *
  obtain ⟨sum, below₁, above₁, nonneg₁, nonpos₁⟩ := carry
  obtain ⟨sum', below₂, above₂, nonneg₂, nonpos₂⟩ := whole
  omega

theorem addTime_exactly (first : x.Normalized) (second : y.Normalized)
    (sum : InRange 32 (x.seconds.toInt + y.seconds.toInt))
    (result : InRange 32 (wholeSeconds (x.total + y.total))) :
    Exactly (addTimeChecked x y) (addTime x y) (x.total + y.total) := by
  obtain ⟨below, above, -, -⟩ := first
  obtain ⟨below', above', -, -⟩ := second
  have fits : InRange 32 (x.nanoseconds.toInt + y.nanoseconds.toInt) := by
    rw [inRange_32]
    omega
  have seconds := toInt_add_of_inRange sum
  have nanoseconds := toInt_add_of_inRange fits
  have total : TimeInternal.total ⟨x.seconds + y.seconds, x.nanoseconds + y.nanoseconds⟩ =
      x.total + y.total := by
    simp only [TimeInternal.total, seconds, nanoseconds]
    omega
  rw [← total, TimeInternal.total] at result
  have carries :
      TimeInternal.Carries ⟨x.seconds + y.seconds, x.nanoseconds + y.nanoseconds⟩ := by
    constructor <;> dsimp only
    · omega
    · omega
    · apply carry_inRange
      · omega
      · omega
      · exact inRange_toInt32 _
      · exact result
  rw [addTimeChecked, checked_of_inRange sum, checked_of_inRange fits, ← total]
  exact normalizeTime_exactly carries

theorem subTime_exactly (first : x.Normalized) (second : y.Normalized)
    (difference : InRange 32 (x.seconds.toInt - y.seconds.toInt))
    (result : InRange 32 (wholeSeconds (x.total - y.total))) :
    Exactly (subTimeChecked x y) (subTime x y) (x.total - y.total) := by
  obtain ⟨below, above, -, -⟩ := first
  obtain ⟨below', above', -, -⟩ := second
  have fits : InRange 32 (x.nanoseconds.toInt - y.nanoseconds.toInt) := by
    rw [inRange_32]
    omega
  have seconds := toInt_sub_of_inRange difference
  have nanoseconds := toInt_sub_of_inRange fits
  have total : TimeInternal.total ⟨x.seconds - y.seconds, x.nanoseconds - y.nanoseconds⟩ =
      x.total - y.total := by
    simp only [TimeInternal.total, seconds, nanoseconds]
    omega
  rw [← total, TimeInternal.total] at result
  have carries :
      TimeInternal.Carries ⟨x.seconds - y.seconds, x.nanoseconds - y.nanoseconds⟩ := by
    constructor <;> dsimp only
    · omega
    · omega
    · apply carry_inRange
      · omega
      · omega
      · exact inRange_toInt32 _
      · exact result
  rw [subTimeChecked, checked_of_inRange difference, checked_of_inRange fits, ← total]
  exact normalizeTime_exactly carries

end Sums

/-! ### Halves -/

section Halves

variable {r : TimeInternal}

/-- The seconds and nanoseconds of `div2Time` before they are normalized. -/
def halveTime (r : TimeInternal) : TimeInternal :=
  ⟨r.seconds / 2, (r.nanoseconds + r.seconds % 2 * 1000000000) / 2⟩

theorem toInt_half (n : Int32) : (n / 2).toInt = n.toInt.tdiv 2 := by
  apply Int32.toInt_div_of_ne_right
  decide

theorem toInt_odd (n : Int32) : (n % 2).toInt = n.toInt.tmod 2 :=
  Int32.toInt_mod n 2

/-- The odd second is carried to the nanoseconds without overflow. -/
theorem TimeInternal.Normalized.odd (normalized : r.Normalized) :
    InRange 32 (r.seconds.toInt.tmod 2 * 1000000000) ∧
      InRange 32 (r.nanoseconds.toInt + r.seconds.toInt.tmod 2 * 1000000000) := by
  obtain ⟨below, above, nonneg, nonpos⟩ := normalized
  obtain ⟨-, below', above', nonneg', nonpos'⟩ :=
    truncated_tdiv (n := r.seconds.toInt) (d := 2) (by decide)
  rw [inRange_32, inRange_32]
  omega

theorem TimeInternal.Normalized.toInt_carried (normalized : r.Normalized) :
    (r.nanoseconds + r.seconds % 2 * 1000000000).toInt =
      r.nanoseconds.toInt + r.seconds.toInt.tmod 2 * 1000000000 := by
  obtain ⟨fits, fits'⟩ := normalized.odd
  have product : (r.seconds % 2 * 1000000000).toInt = r.seconds.toInt.tmod 2 * 1000000000 := by
    rw [← toInt_odd] at fits ⊢
    exact toInt_mul_of_inRange fits
  rw [← product] at fits' ⊢
  exact toInt_add_of_inRange fits'

/-- Seconds and nanoseconds of one sign can be halved apart. -/
theorem total_tdiv_two {s n : Int} (nonneg : 0 < s → 0 ≤ n) (nonpos : s < 0 → n ≤ 0) :
    (s * 1000000000 + n).tdiv 2 =
      s.tdiv 2 * 1000000000 + (n + s.tmod 2 * 1000000000).tdiv 2 := by
  obtain ⟨sum, below₁, above₁, nonneg₁, nonpos₁⟩ :=
    truncated_tdiv (n := s) (d := 2) (by decide)
  obtain ⟨sum', below₂, above₂, nonneg₂, nonpos₂⟩ := truncated_tdiv
    (n := n + s.tmod 2 * 1000000000) (d := 2) (by decide)
  apply Truncated.tdiv_eq (by decide) (r := (n + s.tmod 2 * 1000000000).tmod 2)
  constructor
  · omega
  · exact below₂
  · exact above₂
  · intro positive
    apply nonneg₂
    omega
  · intro negative
    apply nonpos₂
    omega

theorem tdiv_eq_zero {n d : Int} (positive : 0 < d) (below : n < d) (above : -d < n) :
    n.tdiv d = 0 := by
  apply Truncated.tdiv_eq positive (r := n)
  constructor
  · omega
  · exact below
  · exact above
  · exact id
  · exact id

theorem TimeInternal.Normalized.toInt_halveTime (normalized : r.Normalized) :
    (halveTime r).seconds.toInt = r.seconds.toInt.tdiv 2 ∧
      (halveTime r).nanoseconds.toInt =
        (r.nanoseconds.toInt + r.seconds.toInt.tmod 2 * 1000000000).tdiv 2 := by
  rw [← normalized.toInt_carried, halveTime]
  exact ⟨toInt_half r.seconds, toInt_half (r.nanoseconds + r.seconds % 2 * 1000000000)⟩

theorem TimeInternal.Normalized.halves (normalized : r.Normalized) :
    (halveTime r).Carries ∧ (halveTime r).total = r.total.tdiv 2 := by
  obtain ⟨seconds, nanoseconds⟩ := normalized.toInt_halveTime
  obtain ⟨below, above, nonneg, nonpos⟩ := normalized
  constructor
  · have small : (halveTime r).nanoseconds.toInt < 1000000000 ∧
        -1000000000 < (halveTime r).nanoseconds.toInt := by
      obtain ⟨-, below₁, above₁, -, -⟩ :=
        truncated_tdiv (n := r.seconds.toInt) (d := 2) (by decide)
      obtain ⟨sum, below₂, above₂, nonneg₂, nonpos₂⟩ := truncated_tdiv
        (n := r.nanoseconds.toInt + r.seconds.toInt.tmod 2 * 1000000000) (d := 2) (by decide)
      omega
    constructor
    · omega
    · omega
    · rw [tdiv_eq_zero (by decide) small.1 small.2, Int.add_zero]
      exact inRange_toInt32 _
  · rw [TimeInternal.total, TimeInternal.total, seconds, nanoseconds,
      total_tdiv_two nonneg nonpos]

theorem div2Time_exactly (normalized : r.Normalized) :
    Exactly (div2TimeChecked r) (div2Time r) (r.total.tdiv 2) := by
  obtain ⟨carries, total⟩ := normalized.halves
  obtain ⟨fits, fits'⟩ := normalized.odd
  have odd : InRange 32 (r.seconds.toInt.tmod 2) := by
    rw [← toInt_odd]
    exact inRange_toInt32 _
  have half : InRange 32 (r.seconds.toInt.tdiv 2) := by
    rw [← toInt_half]
    exact inRange_toInt32 _
  have half' :
      InRange 32 ((r.nanoseconds + r.seconds % 2 * 1000000000).toInt.tdiv 2) := by
    rw [← toInt_half]
    exact inRange_toInt32 _
  have product : (r.seconds % 2 * 1000000000).toInt = r.seconds.toInt.tmod 2 * 1000000000 := by
    rw [← toInt_odd] at fits ⊢
    exact toInt_mul_of_inRange fits
  have goes : div2TimeChecked r = normalizeTimeChecked (halveTime r) := by
    rw [div2TimeChecked, checked_of_inRange odd]
    dsimp only [Option.bind_eq_bind, Option.bind_some]
    rw [toInt_odd, checked_of_inRange fits]
    dsimp only [Option.bind_some]
    rw [product, checked_of_inRange fits', Option.bind_some, checked_of_inRange half,
      Option.bind_some, checked_of_inRange half', Option.bind_some, halveTime]
  rw [goes, ← total]
  exact normalizeTime_exactly carries

end Halves

/-! ### The mean path delay -/

/-- Neither the seconds that are added up nor those of the exact result overflow. -/
def SecondsFit (seconds total : Int) : Prop :=
  InRange 32 seconds ∧ InRange 32 (wholeSeconds total)

/-- The mean path delay that `filterDelay` leaves. -/
def filteredDelay (delay : TimeInternal) (filt : Filter) : TimeInternal :=
  if delay.seconds ≠ 0 then delay
  else { delay with nanoseconds := (filter delay.nanoseconds filt).1 }

theorem filterDelay_meanPathDelay (c : PtpClock) (delay : TimeInternal)
    (times : List TimeInternal) :
    (filterDelay c delay times).currentDS.meanPathDelay = filteredDelay delay c.owdFilt := by
  unfold filterDelay filteredDelay
  split <;> rfl

theorem filterDelay_tsm (c : PtpClock) (delay : TimeInternal) (times : List TimeInternal) :
    (filterDelay c delay times).tsm = c.tsm := by
  unfold filterDelay
  split <;> rfl

/-- The time from slave to master that `updateDelay` computes. -/
def slaveToMaster (delayEventEgress recieve correction : TimeInternal) : TimeInternal :=
  subTime (subTime recieve delayEventEgress) correction

theorem updateDelay_eq {c : PtpClock} (valid : c.ofmFilt.n ≠ 0)
    (delayEventEgress recieve correction : TimeInternal) :
    updateDelay c delayEventEgress recieve correction =
      filterDelay { c with tsm := slaveToMaster delayEventEgress recieve correction }
        (div2Time (addTime c.tms (slaveToMaster delayEventEgress recieve correction)))
        [c.tms, delayEventEgress, recieve] :=
  if_neg valid

theorem updateDelay_tsm {c : PtpClock} (valid : c.ofmFilt.n ≠ 0)
    (delayEventEgress recieve correction : TimeInternal) :
    (updateDelay c delayEventEgress recieve correction).tsm =
      slaveToMaster delayEventEgress recieve correction := by
  rw [updateDelay_eq valid, filterDelay_tsm]

theorem updateDelay_meanPathDelay {c : PtpClock} (valid : c.ofmFilt.n ≠ 0)
    (delayEventEgress recieve correction : TimeInternal) :
    (updateDelay c delayEventEgress recieve correction).currentDS.meanPathDelay =
      filteredDelay
        (div2Time (addTime c.tms (slaveToMaster delayEventEgress recieve correction)))
        c.owdFilt := by
  rw [updateDelay_eq valid, filterDelay_meanPathDelay]

/-- Half of the sum of two times, as long as every result fits. -/
def meanChecked (x y : TimeInternal) : Option TimeInternal :=
  (addTimeChecked x y).bind div2TimeChecked

theorem mean_exactly {x y : TimeInternal} (first : x.Normalized) (second : y.Normalized)
    (fit : SecondsFit (x.seconds.toInt + y.seconds.toInt) (x.total + y.total)) :
    Exactly (meanChecked x y) (div2Time (addTime x y)) ((x.total + y.total).tdiv 2) := by
  obtain ⟨defined, normalized, total⟩ := addTime_exactly first second fit.1 fit.2
  rw [meanChecked, defined, ← total]
  exact div2Time_exactly normalized

/-- On normalized times whose seconds fit, the arithmetic of times is exact and overflows
nowhere, and so is the mean path delay that goes to the filter. -/
theorem timeArithmetic_exact (x y : TimeInternal) (first : x.Normalized)
    (second : y.Normalized) :
    (SecondsFit (x.seconds.toInt + y.seconds.toInt) (x.total + y.total) →
        Exactly (addTimeChecked x y) (addTime x y) (x.total + y.total)) ∧
      (SecondsFit (x.seconds.toInt - y.seconds.toInt) (x.total - y.total) →
        Exactly (subTimeChecked x y) (subTime x y) (x.total - y.total)) ∧
      Exactly (div2TimeChecked x) (div2Time x) (x.total.tdiv 2) ∧
      ∀ (c : PtpClock) (delayEventEgress recieve correction : TimeInternal),
        c.ofmFilt.n ≠ 0 → c.tms = x →
        (updateDelay c delayEventEgress recieve correction).tsm = y →
        SecondsFit (x.seconds.toInt + y.seconds.toInt) (x.total + y.total) →
        ∃ delay,
          (updateDelay c delayEventEgress recieve correction).currentDS.meanPathDelay =
            filteredDelay delay c.owdFilt ∧
          Exactly (meanChecked x y) delay ((x.total + y.total).tdiv 2) := by
  constructor
  · intro fit
    exact addTime_exactly first second fit.1 fit.2
  constructor
  · intro fit
    exact subTime_exactly first second fit.1 fit.2
  constructor
  · exact div2Time_exactly first
  intro c delayEventEgress recieve correction valid tms tsm fit
  refine ⟨div2Time (addTime x y), ?_, mean_exactly first second fit⟩
  rw [updateDelay_tsm valid] at tsm
  rw [updateDelay_meanPathDelay valid, tms, tsm]

/-- A clock that has seen its master three seconds and a bit behind. -/
def measuringClock : PtpClock :=
  { ofmFilt := { n := 1 }, tms := ⟨3, 999999999⟩ }

theorem timeArithmetic_exact_met :
    Exactly (addTimeChecked ⟨3, 999999999⟩ ⟨-5, -999999999⟩)
        (addTime ⟨3, 999999999⟩ ⟨-5, -999999999⟩) (-2000000000) ∧
      Exactly (subTimeChecked ⟨3, 999999999⟩ ⟨-5, -999999999⟩)
        (subTime ⟨3, 999999999⟩ ⟨-5, -999999999⟩) 9999999998 ∧
      Exactly (div2TimeChecked ⟨3, 999999999⟩) (div2Time ⟨3, 999999999⟩) 1999999999 ∧
      ∃ delay,
        (updateDelay measuringClock {} ⟨-5, -999999999⟩ {}).currentDS.meanPathDelay =
          filteredDelay delay {} ∧
        Exactly (meanChecked ⟨3, 999999999⟩ ⟨-5, -999999999⟩) delay (-1000000000) := by
  obtain ⟨sum, difference, half, delay⟩ :=
    timeArithmetic_exact ⟨3, 999999999⟩ ⟨-5, -999999999⟩
      ⟨by decide, by decide, by decide, by decide⟩ ⟨by decide, by decide, by decide, by decide⟩
  have first : TimeInternal.total ⟨3, 999999999⟩ = 3999999999 := by decide
  have second : TimeInternal.total ⟨-5, -999999999⟩ = -5999999999 := by decide
  rw [first, second] at sum difference delay
  rw [first] at half
  refine ⟨sum ⟨by decide, by decide⟩, difference ⟨by decide, by decide⟩, half, ?_⟩
  exact delay measuringClock {} ⟨-5, -999999999⟩ {} (by decide) rfl (by decide)
    ⟨by decide, by decide⟩

end LwipExt.Ptp
