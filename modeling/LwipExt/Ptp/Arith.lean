import LwipExt.Ptp.Datatypes
import Mathlib.Algebra.Group.Nat.Defs

/-!
The arithmetic of times (`ptpArith.c`) and of intervals (`dep/ptpSysTime.c`,
`constants_dep.h`).
-/

namespace LwipExt.Ptp

/-- `scaledNanosecondsToInternalTime`. -/
def scaledNanosecondsToInternalTime (scaledNanoseconds : Int64) : TimeInternal :=
  let sign : Int64 := if scaledNanoseconds < 0 then -1 else 1
  let scaled := if scaledNanoseconds < 0 then -scaledNanoseconds else scaledNanoseconds
  let nanoseconds := scaled >>> 16
  { seconds := (sign * (nanoseconds / 1000000000)).toInt32
    nanoseconds := (sign * (nanoseconds % 1000000000)).toInt32 }

/-- `fromInternalTime`; a negative time leaves `external` as it is. -/
def fromInternalTime (internal : TimeInternal) (external : Timestamp) : Timestamp :=
  if internal.seconds < 0 ∨ internal.nanoseconds < 0 then external
  else
    { secondsMsb := 0
      secondsLsb := internal.seconds.toUInt32
      nanosecondsField := internal.nanoseconds.toUInt32 }

/-- `toInternalTime`; seconds that do not fit leave `internal` as it is. -/
def toInternalTime (internal : TimeInternal) (external : Timestamp) : TimeInternal :=
  if external.secondsLsb < 2147483647 then
    { seconds := external.secondsLsb.toInt32, nanoseconds := external.nanosecondsField.toInt32 }
  else internal

/-- `normalizeTime`. -/
def normalizeTime (r : TimeInternal) : TimeInternal :=
  let seconds := r.seconds + r.nanoseconds / 1000000000
  let nanoseconds := r.nanoseconds - r.nanoseconds / 1000000000 * 1000000000
  if 0 < seconds ∧ nanoseconds < 0 then
    { seconds := seconds - 1, nanoseconds := nanoseconds + 1000000000 }
  else if seconds < 0 ∧ 0 < nanoseconds then
    { seconds := seconds + 1, nanoseconds := nanoseconds - 1000000000 }
  else { seconds := seconds, nanoseconds := nanoseconds }

/-- `addTime`. -/
def addTime (x y : TimeInternal) : TimeInternal :=
  normalizeTime ⟨x.seconds + y.seconds, x.nanoseconds + y.nanoseconds⟩

/-- `subTime`. -/
def subTime (x y : TimeInternal) : TimeInternal :=
  normalizeTime ⟨x.seconds - y.seconds, x.nanoseconds - y.nanoseconds⟩

/-- `div2Time`. -/
def div2Time (r : TimeInternal) : TimeInternal :=
  normalizeTime ⟨r.seconds / 2, (r.nanoseconds + r.seconds % 2 * 1000000000) / 2⟩

/-- `floorLog2`. -/
def floorLog2 (n : UInt32) : Int32 :=
  if n = 0 then -1
  else
    let (n, pos) : UInt32 × Int32 := if n ≥ 65536 then (n >>> 16, 16) else (n, 0)
    let (n, pos) := if n ≥ 256 then (n >>> 8, pos + 8) else (n, pos)
    let (n, pos) := if n ≥ 16 then (n >>> 4, pos + 4) else (n, pos)
    let (n, pos) := if n ≥ 4 then (n >>> 2, pos + 2) else (n, pos)
    if n ≥ 2 then pos + 1 else pos

/-- `pow2ms`: a power of two in milliseconds. -/
def pow2ms (a : Int) : UInt32 :=
  if 0 < a then UInt32.ofNat (1000 * 2 ^ a.toNat) else UInt32.ofNat (1000 / 2 ^ (-a).toNat)

/-- `getRand`. -/
def getRand (c : PtpClock) (randMax : UInt32) : UInt32 × PtpClock :=
  (c.input.rands.headD 0 % randMax,
    { c with input := { c.input with rands := c.input.rands.tail } })

/-- `getTime`. -/
def getTime (c : PtpClock) : TimeInternal × PtpClock :=
  (c.input.times.headD {}, { c with input := { c.input with times := c.input.times.tail } })

/-- `setTime`. -/
def setTime (c : PtpClock) (time : TimeInternal) : PtpClock :=
  { c with clockCalls := .setTime time :: c.clockCalls }

/-- `ADJ_FREQ_MAX`. -/
def adjFreqMax : Int32 := 512000

/-- `adjFreq`. -/
def adjFreq (c : PtpClock) (adj : Int32) : PtpClock :=
  let adj := if adj > adjFreqMax then adjFreqMax else if adj < -adjFreqMax then -adjFreqMax else adj
  { c with clockCalls := .adjFreq adj :: c.clockCalls }

end LwipExt.Ptp
