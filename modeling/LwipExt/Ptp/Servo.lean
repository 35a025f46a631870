import LwipExt.Ptp.Arith

/-!
The clock servo (`dep/ptpServo.c`): offset from the master, path delay, and the adjustment
of the clock. `DEFAULT_PARENTS_STATS` is `FALSE`, so the statistics are left out.
-/

namespace LwipExt.Ptp

/-- `DEFAULT_CALIBRATED_OFFSET_NS`. -/
def defaultCalibratedOffsetNs : Int32 := 10000

/-- `DEFAULT_UNCALIBRATED_OFFSET_NS`. -/
def defaultUncalibratedOffsetNs : Int32 := 1000000

/-- `MAX_ADJ_OFFSET_NS`. -/
def maxAdjOffsetNs : Int32 := 100000000

/-- `initClock`. The flush of the event queue, `netEmptyEventQ`, is part of what gets lost
between the network and `netRecvEvent`. -/
def initClock (c : PtpClock) : PtpClock :=
  let c := { c with
    tms := {}
    observedDrift := 0
    owdFilt := { c.owdFilt with n := 0, s := c.servo.sDelay }
    ofmFilt := { c.ofmFilt with n := 0, s := c.servo.sOffset }
    waitingForFollowUp := false
    waitingForPDelayRespFollowUp := false
    pdelayT1 := {}
    pdelayT2 := {}
    pdelayT3 := {}
    pdelayT4 := {}
    notes := .cleared :: c.notes }
  if c.servo.noAdjust then c else adjFreq c 0

/-- `order`. -/
def order (n : Int32) : Int32 :=
  let n := if n < 0 then -n else n
  if n = 0 then 0 else floorLog2 n.toUInt32

/-- `filter`: the smoothed value, and the filter. -/
def filter (nsecCurrent : Int32) (filt : Filter) : Int32 × Filter :=
  let filt := { filt with n := filt.n + 1 }
  let filt :=
    if filt.n = 1 then { filt with yPrev := nsecCurrent, ySum := nsecCurrent, sPrev := 0 }
    else filt
  let s := filt.s.toInt32
  -- Few samples so far lower the order of the filter.
  let (s, filt) : Int32 × Filter :=
    if (1 : Int32) <<< s > filt.n then (order filt.n, filt)
    else (s, { filt with n := (1 : Int32) <<< s })
  let s := min s (30 - order (max filt.yPrev nsecCurrent))
  let sPrev := filt.sPrev.toInt32
  let ySum :=
    if sPrev > s then filt.ySum >>> (sPrev - s)
    else if sPrev < s then filt.ySum <<< (s - sPrev)
    else filt.ySum
  let ySum := ySum + (nsecCurrent - filt.yPrev)
  let yPrev := ySum >>> s
  (yPrev, { filt with ySum := ySum, yPrev := yPrev, sPrev := s.toInt16 })

/-- `abs`. -/
def abs32 (n : Int32) : Int32 := if n < 0 then -n else n

/-- The path delay that `updateOffset` takes off. -/
def pathDelay (c : PtpClock) (offset : TimeInternal) : TimeInternal :=
  match c.portDS.delayMechanism with
  | .e2e => subTime offset c.currentDS.meanPathDelay
  | .p2p => subTime offset c.portDS.peerMeanPathDelay
  | .delayDisabled => offset

/-- `SYNCHRONIZATION_FAULT`, in state SLAVE. -/
def synchronizationFault (c : PtpClock) : PtpClock :=
  if c.portDS.portState = .slave then
    { c with events := { c.events with synchronizationFault := true } }
  else c

/-- The flags that a filtered offset sets. -/
def checkOffset (c : PtpClock) (nanoseconds : Int32) : PtpClock :=
  if abs32 nanoseconds < defaultCalibratedOffsetNs then
    if c.portDS.portState = .uncalibrated then
      { c with events := { c.events with masterClockSelected := true } }
    else c
  else if abs32 nanoseconds > defaultUncalibratedOffsetNs then synchronizationFault c
  else c

/-- The end of `updateOffset`: an offset is filtered. -/
def filterOffset (c : PtpClock) (offset : TimeInternal) : PtpClock :=
  if offset.seconds ≠ 0 then
    synchronizationFault { c with currentDS := { c.currentDS with offsetFromMaster := offset } }
  else
    checkOffset
      { c with
        currentDS := { c.currentDS with
          offsetFromMaster :=
            { offset with nanoseconds := (filter offset.nanoseconds c.ofmFilt).1 } }
        ofmFilt := (filter offset.nanoseconds c.ofmFilt).2 }
      (filter offset.nanoseconds c.ofmFilt).1

/-- `updateOffset`. -/
def updateOffset (c : PtpClock) (syncEventIngress preciseOrigin correction : TimeInternal) :
    PtpClock :=
  let tms := subTime (subTime syncEventIngress preciseOrigin) correction
  filterOffset
    { c with
      tms := tms
      notes := .offsetSample syncEventIngress preciseOrigin correction :: c.notes }
    (pathDelay c tms)

/-- The end of `updateDelay`: a mean path delay is filtered. -/
def filterDelay (c : PtpClock) (delay : TimeInternal) (times : List TimeInternal) : PtpClock :=
  if delay.seconds ≠ 0 then { c with currentDS := { c.currentDS with meanPathDelay := delay } }
  else
    { c with
      currentDS := { c.currentDS with
        meanPathDelay := { delay with nanoseconds := (filter delay.nanoseconds c.owdFilt).1 } }
      owdFilt := (filter delay.nanoseconds c.owdFilt).2
      notes := .delaySample .e2e times :: c.notes }

/-- `updateDelay`. -/
def updateDelay (c : PtpClock) (delayEventEgress recieve correction : TimeInternal) : PtpClock :=
  if c.ofmFilt.n = 0 then c
  else
    let tsm := subTime (subTime recieve delayEventEgress) correction
    filterDelay { c with tsm := tsm } (div2Time (addTime c.tms tsm))
      [c.tms, delayEventEgress, recieve]

/-- The path delay to a peer. -/
def peerDelay (c : PtpClock) (correction : TimeInternal) (twoStep : Bool) : TimeInternal :=
  let delay :=
    if twoStep then addTime (subTime c.pdelayT2 c.pdelayT1) (subTime c.pdelayT4 c.pdelayT3)
    else subTime c.pdelayT4 c.pdelayT1
  div2Time (subTime delay correction)

/-- The time stamps that `peerDelay` uses. -/
def peerTimes (c : PtpClock) (twoStep : Bool) : List TimeInternal :=
  if twoStep then [c.pdelayT1, c.pdelayT2, c.pdelayT3, c.pdelayT4] else [c.pdelayT1, c.pdelayT4]

/-- The end of `updatePeerDelay`: a path delay to a peer is filtered. -/
def filterPeerDelay (c : PtpClock) (delay : TimeInternal) (times : List TimeInternal) :
    PtpClock :=
  if delay.seconds ≠ 0 then { c with portDS := { c.portDS with peerMeanPathDelay := delay } }
  else
    { c with
      portDS := { c.portDS with
        peerMeanPathDelay := { delay with nanoseconds := (filter delay.nanoseconds c.owdFilt).1 } }
      owdFilt := (filter delay.nanoseconds c.owdFilt).2
      notes := .delaySample .p2p times :: c.notes }

/-- `updatePeerDelay`. -/
def updatePeerDelay (c : PtpClock) (correction : TimeInternal) (twoStep : Bool) : PtpClock :=
  filterPeerDelay c (peerDelay c correction twoStep) (peerTimes c twoStep)

/-- An interval of the servo in units of one second. -/
def offsetNorm (c : PtpClock) : Int32 :=
  let nanoseconds := c.currentDS.offsetFromMaster.nanoseconds
  let log := c.portDS.logSyncInterval.toInt32
  if log > 0 then nanoseconds >>> log else if log < 0 then nanoseconds <<< (-log) else nanoseconds

/-- `updateClock`. -/
def updateClock (c : PtpClock) : PtpClock :=
  if c.currentDS.offsetFromMaster.seconds ≠ 0 ∨
      abs32 c.currentDS.offsetFromMaster.nanoseconds > maxAdjOffsetNs then
    if c.servo.noAdjust then c
    else if c.servo.noResetClock then
      let adj := if c.currentDS.offsetFromMaster.nanoseconds > 0 then adjFreqMax else -adjFreqMax
      adjFreq c (-adj)
    else
      let (timeTmp, c) := getTime c
      initClock (setTime c (subTime timeTmp c.currentDS.offsetFromMaster))
  else
    let drift := c.observedDrift + offsetNorm c / c.servo.ai.toInt32
    let drift := if drift > adjFreqMax then adjFreqMax else if drift < -adjFreqMax then -adjFreqMax
      else drift
    let c := { c with observedDrift := drift }
    if c.servo.noAdjust then c
    else adjFreq c (-(offsetNorm c / c.servo.ap.toInt32 + c.observedDrift))

end LwipExt.Ptp
