import LwipExt.Lib.Guarded
import LwipExt.Ptp.RequestLog

/-!
The random intervals of the delay request timer.

`ptpStepChecked` is the step of the daemon that stops where C leaves `getRand(pow2ms(..))` for this
timer open: a shift by the width of an `int` or more, or a remainder modulo zero. It agrees with the
step as far as it goes (`ptpStepChecked_guarded`), and goes through as long as the exponent is in a
range that shifts and divides well.
-/

namespace LwipExt.Ptp

open Lib (Guarded)

/-! ### Shifts and remainders -/

/-- `pow2ms`, where C defines its shift. -/
def pow2msChecked (a : Int) : Option UInt32 := if a.natAbs < 32 then some (pow2ms a) else none

/-- `getRand`, where C defines its remainder. -/
def getRandChecked (c : PtpClock) (randMax : UInt32) : Option (UInt32 × PtpClock) :=
  if 0 < randMax then some (getRand c randMax) else none

/-- A shift by less than the width gives a positive number in this range. -/
theorem pow2ms_pos_iff {a : Int} (shifts : a.natAbs < 32) :
    0 < pow2ms a ↔ -9 ≤ a ∧ a ≤ 28 := by
  have all : ∀ n < 63, 0 < pow2ms ((n : Nat) - 31 : Int) ↔
      -9 ≤ ((n : Nat) - 31 : Int) ∧ ((n : Nat) - 31 : Int) ≤ 28 := by decide
  have found := all (a + 31).toNat (by omega)
  rw [show ((a + 31).toNat : Int) - 31 = a by omega] at found
  exact found

/-- The exponents in range are those that are shifted and divided by well. -/
theorem ranged_iff {log : Int8} : Ranged log ↔
    (log.toInt + 1).natAbs < 32 ∧ 0 < pow2ms (log.toInt + 1) := by
  constructor
  · rintro ⟨low, high⟩
    have shifts : (log.toInt + 1).natAbs < 32 := by omega
    exact ⟨shifts, (pow2ms_pos_iff shifts).mpr ⟨by omega, by omega⟩⟩
  · rintro ⟨shifts, positive⟩
    obtain ⟨low, high⟩ := (pow2ms_pos_iff shifts).mp positive
    exact ⟨by omega, by omega⟩

/-! ### Changes of state -/

variable {c : PtpClock}

/-- `startDelayReq`, where C defines it. -/
def startDelayReqChecked (c : PtpClock) : Option PtpClock :=
  (pow2msChecked (c.portDS.logMinDelayReqInterval.toInt + 1)).bind fun randMax =>
    (getRandChecked c randMax).map fun drawn => timerStart drawn.2 .delayReqInterval drawn.1

theorem startDelayReqChecked_guarded :
    Guarded (Ranged c.requestLog) (startDelayReqChecked c) (startDelayReq c) := by
  have shifted : Guarded (Ranged c.requestLog)
      (pow2msChecked (c.portDS.logMinDelayReqInterval.toInt + 1))
      (pow2ms (c.portDS.logMinDelayReqInterval.toInt + 1)) :=
    Guarded.test fun ranged => (ranged_iff.mp ranged).1
  have drawn : Guarded (0 < pow2ms (c.portDS.logMinDelayReqInterval.toInt + 1))
      (getRandChecked c (pow2ms (c.portDS.logMinDelayReqInterval.toInt + 1)))
      (getRand c (pow2ms (c.portDS.logMinDelayReqInterval.toInt + 1))) := Guarded.test id
  exact shifted.bind (g := fun randMax => timerStartRand c .delayReqInterval randMax)
    (fun ranged => (ranged_iff.mp ranged).2)
    (drawn.map fun drawn => timerStart drawn.2 .delayReqInterval drawn.1)

/-- The timer is set exactly with an exponent in range. -/
theorem startDelayReqChecked_isSome_iff :
    (startDelayReqChecked c).isSome ↔ Ranged c.requestLog := by
  constructor
  · intro passes
    obtain ⟨d, passes⟩ := Option.isSome_iff_exists.mp passes
    obtain ⟨randMax, shifted, passes⟩ := Option.bind_eq_some_iff.mp passes
    obtain ⟨drawn, divided, -⟩ := Option.map_eq_some_iff.mp passes
    unfold pow2msChecked at shifted
    unfold getRandChecked at divided
    split at shifted
    · next shifts =>
        obtain rfl := Option.some.inj shifted
        split at divided
        · next positive => exact ranged_iff.mpr ⟨shifts, positive⟩
        · cases divided
    · cases shifted
  · intro ranged
    rw [startDelayReqChecked_guarded.passes ranged]
    rfl

/-- `enterState`, where C defines it. -/
def enterStateChecked (c : PtpClock) (state : PortState) : Option PtpClock :=
  match state with
  | .uncalibrated =>
      let c := startAnnounceReceipt c
      let started :=
        match c.portDS.delayMechanism with
        | .e2e => startDelayReqChecked c
        | .p2p => some (startPDelayReq c)
        | .delayDisabled => some c
      started.map fun c => c.setPortState .uncalibrated
  | .initializing | .faulty | .disabled | .listening | .preMaster | .master | .passive | .slave =>
      some (enterState c state)

theorem enterStateChecked_guarded (state : PortState) :
    Guarded (Ranged c.requestLog) (enterStateChecked c state) (enterState c state) := by
  cases state with
  | uncalibrated =>
      unfold enterStateChecked enterState
      dsimp -zeta only
      apply Guarded.map
      cases (startAnnounceReceipt c).portDS.delayMechanism with
      | e2e => exact startDelayReqChecked_guarded (c := startAnnounceReceipt c)
      | p2p => exact .total
      | delayDisabled => exact .total
  | initializing | faulty | disabled | listening | preMaster | master | passive | slave =>
      exact .total

/-- `toState`, where C defines it. -/
def toStateChecked (c : PtpClock) (state : PortState) : Option PtpClock :=
  (enterStateChecked (leaveState c state) state).map fun entered =>
    { entered with moves := (c.portDS.portState, entered.portDS.portState) :: entered.moves }

theorem toStateChecked_guarded (state : PortState) :
    Guarded (Ranged c.requestLog) (toStateChecked c state) (toState c state) := by
  have entered : Guarded (Ranged c.requestLog) (enterStateChecked (leaveState c state) state)
      (enterState (leaveState c state) state) := by
    rw [← leaveState_requestLog c state]
    exact enterStateChecked_guarded state
  exact entered.map fun entered =>
    { entered with moves := (c.portDS.portState, entered.portDS.portState) :: entered.moves }

/-- `consumeFault`, where C defines it. -/
def consumeFaultChecked (c : PtpClock) : Option PtpClock :=
  if c.events.synchronizationFault then
    toStateChecked { c with events := { c.events with synchronizationFault := false } }
      .uncalibrated
  else some c

/-- `consumeChanged`, where C defines it. -/
def consumeChangedChecked (c : PtpClock) : Option PtpClock :=
  if c.events.masterClockChanged then toStateChecked (clearChanged c) .uncalibrated else some c

/-- `followRecommendation`, where C defines it. -/
def followRecommendationChecked (c : PtpClock) : Option PtpClock :=
  match c.recommendedState with
  | .slave =>
      match c.portDS.portState with
      | .uncalibrated => some (clearChanged (masterClockSelected c))
      | .slave => (consumeFaultChecked c).bind consumeChangedChecked
      | _ => toStateChecked c .uncalibrated
  | .master | .passive | .listening | .initializing | .faulty | .disabled | .preMaster
  | .uncalibrated => some (followRecommendation c)

theorem consumeFaultChecked_guarded :
    Guarded (Ranged c.requestLog) (consumeFaultChecked c) (consumeFault c) := by
  unfold consumeFaultChecked consumeFault
  split
  · exact toStateChecked_guarded
      (c := { c with events := { c.events with synchronizationFault := false } }) _
  · exact .total

theorem consumeChangedChecked_guarded :
    Guarded (Ranged c.requestLog) (consumeChangedChecked c) (consumeChanged c) := by
  unfold consumeChangedChecked consumeChanged
  split
  · exact toStateChecked_guarded (c := clearChanged c) _
  · exact .total

theorem followRecommendationChecked_guarded :
    Guarded (Ranged c.requestLog) (followRecommendationChecked c) (followRecommendation c) := by
  unfold followRecommendationChecked followRecommendation
  cases c.recommendedState with
  | slave =>
      cases c.portDS.portState with
      | uncalibrated => exact .total
      | slave =>
          exact consumeFaultChecked_guarded.bind (fun ranged => ranged.consumeFault)
            consumeChangedChecked_guarded
      | initializing | faulty | disabled | listening | preMaster | master | passive =>
          exact toStateChecked_guarded _
  | master | passive | listening | initializing | faulty | disabled | preMaster
  | uncalibrated => exact .total

/-! ### Messages -/

/-- `issueDelayReqTimerExpired`, where C defines it. -/
def issueDelayReqTimerExpiredChecked (c : PtpClock) : Option PtpClock :=
  match c.portDS.delayMechanism with
  | .e2e =>
      if c.portDS.portState ≠ .slave then some c
      else
        match timerExpired c .delayReqInterval with
        | (true, c) => (startDelayReqChecked c).map issueDelayReq
        | (false, c) => some c
  | .p2p | .delayDisabled => some (issueDelayReqTimerExpired c)

theorem issueDelayReqTimerExpiredChecked_guarded :
    Guarded (Ranged c.requestLog) (issueDelayReqTimerExpiredChecked c)
      (issueDelayReqTimerExpired c) := by
  unfold issueDelayReqTimerExpiredChecked issueDelayReqTimerExpired
  cases c.portDS.delayMechanism with
  | e2e =>
      have asked := timerExpired_requestLog c .delayReqInterval
      dsimp only
      split
      · exact .total
      · generalize timerExpired c .delayReqInterval = result at asked
        obtain ⟨due, d⟩ := result
        have same : d.requestLog = c.requestLog := asked
        cases due with
        | true =>
            rw [← same]
            exact startDelayReqChecked_guarded.map issueDelayReq
        | false => exact .total
  | p2p | delayDisabled => exact .total

/-- `handleSync`, where C defines it. -/
def handleSyncChecked (c : PtpClock) (header : MsgHeader) (payload : Bytes) (time : TimeInternal)
    (isFromSelf : Bool) : Option PtpClock :=
  if payload.length < MsgType.sync.length then some (toState c .faulty)
  else
    match c.portDS.portState with
    | .uncalibrated | .slave =>
        if isFromSelf then some c
        else if isSamePortIdentity c.parentDS.parentPortIdentity header.sourcePortIdentity then
          if getFlag header.flagField0 flag0TwoStep then some (rememberSync c header time)
          else issueDelayReqTimerExpiredChecked (takeSync c header payload time)
        else some c
    | .passive => issueDelayReqTimerExpiredChecked c
    | .initializing | .faulty | .disabled | .master | .listening | .preMaster => some c

/-- `handleFollowUp`, where C defines it. -/
def handleFollowUpChecked (c : PtpClock) (header : MsgHeader) (payload : Bytes)
    (isFromSelf : Bool) : Option PtpClock :=
  if payload.length < MsgType.followUp.length then some (toState c .faulty)
  else if isFromSelf then some c
  else
    match c.portDS.portState with
    | .uncalibrated | .slave =>
        if !c.waitingForFollowUp then some c
        else if !isSamePortIdentity c.parentDS.parentPortIdentity header.sourcePortIdentity then
          some c
        else if c.recvSyncSequenceId ≠ header.sequenceId then some c
        else issueDelayReqTimerExpiredChecked (takeFollowUp c header payload)
    | .passive => issueDelayReqTimerExpiredChecked c
    | .initializing | .faulty | .disabled | .listening | .master | .preMaster => some c

section Handlers

variable {header : MsgHeader} {payload : Bytes} {time : TimeInternal} {isFromSelf : Bool}

theorem handleSyncChecked_guarded :
    Guarded (Ranged c.requestLog) (handleSyncChecked c header payload time isFromSelf)
      (handleSync c header payload time isFromSelf) := by
  unfold handleSyncChecked handleSync
  split
  · exact .total
  · cases c.portDS.portState with
    | uncalibrated | slave =>
        dsimp only
        split
        · exact .total
        · split
          · split
            · exact .total
            · have same : (takeSync c header payload time).requestLog = c.requestLog :=
                takeSync_requestLog
              rw [← same]
              exact issueDelayReqTimerExpiredChecked_guarded
          · exact .total
    | passive => exact issueDelayReqTimerExpiredChecked_guarded
    | initializing | faulty | disabled | master | listening | preMaster => exact .total

theorem handleFollowUpChecked_guarded :
    Guarded (Ranged c.requestLog) (handleFollowUpChecked c header payload isFromSelf)
      (handleFollowUp c header payload isFromSelf) := by
  unfold handleFollowUpChecked handleFollowUp
  split
  · exact .total
  · split
    · exact .total
    · cases c.portDS.portState with
      | uncalibrated | slave =>
          dsimp only
          split
          · exact .total
          · split
            · exact .total
            · split
              · exact .total
              · have same : (takeFollowUp c header payload).requestLog = c.requestLog :=
                  takeFollowUp_requestLog
                rw [← same]
                exact issueDelayReqTimerExpiredChecked_guarded
      | passive => exact issueDelayReqTimerExpiredChecked_guarded
      | initializing | faulty | disabled | listening | master | preMaster => exact .total

end Handlers

/-- The handler of the type of the message, where C defines it. -/
def Handling.handledChecked (h : Handling) : Option PtpClock :=
  match MsgType.ofCode h.header.messageType with
  | some .sync => handleSyncChecked h.clock h.header h.payload h.time h.isFromSelf
  | some .followUp => handleFollowUpChecked h.clock h.header h.payload h.isFromSelf
  | some .announce | some .delayReq | some .pdelayReq | some .delayResp | some .pdelayResp
  | some .pdelayRespFollowUp | some .management | some .signaling | none => some h.handled

theorem Handling.handledChecked_guarded {h : Handling} :
    Guarded (Ranged h.clock.requestLog) h.handledChecked h.handled := by
  unfold handledChecked handled dispatch
  cases MsgType.ofCode h.header.messageType with
  | none => exact .total
  | some type =>
      cases type with
      | sync => exact handleSyncChecked_guarded
      | followUp => exact handleFollowUpChecked_guarded
      | announce | delayReq | pdelayReq | delayResp | pdelayResp | pdelayRespFollowUp
      | management | signaling => exact .total

/-- `handle`, where C defines it. -/
def handleChecked (c : PtpClock) : Option PtpClock :=
  match received c with
  | some h => h.handledChecked
  | none => some (handle c)

theorem handleChecked_guarded :
    Guarded (Ranged c.requestLog) (handleChecked c) (handle c) := by
  unfold handleChecked
  split
  · next h found =>
      rw [← received_requestLog found, handle_of_received found]
      exact h.handledChecked_guarded
  · exact .total

/-! ### The state machine -/

/-- `portActions`, where C defines it. -/
def portActionsChecked (c : PtpClock) : Option PtpClock :=
  match c.portDS.portState with
  | .initializing | .faulty | .preMaster => some (portActions c)
  | .disabled => handleChecked c
  | .listening | .uncalibrated | .slave | .passive =>
      match timerExpired c .announceReceipt with
      | (true, c) => some (announceTimeout c)
      | (false, c) => handleChecked c
  | .master =>
      (handleChecked (announceIntervalTimeout (syncTimeout c))).bind
        issueDelayReqTimerExpiredChecked

theorem portActionsChecked_guarded :
    Guarded (Ranged c.requestLog ∧ Moderates c) (portActionsChecked c) (portActions c) := by
  unfold portActionsChecked portActions
  cases state : c.portDS.portState with
  | initializing | faulty | preMaster =>
      exact .total
  | disabled => exact handleChecked_guarded.mono And.left
  | listening | uncalibrated | slave | passive =>
      have asked := timerExpired_requestLog c .announceReceipt
      generalize timerExpired c .announceReceipt = result at asked
      obtain ⟨due, d⟩ := result
      have same : d.requestLog = c.requestLog := asked
      cases due with
      | true => exact .total
      | false =>
          rw [← same]
          exact handleChecked_guarded.mono And.left
  | master =>
      have found : heard c = some (announceIntervalTimeout (syncTimeout c)) := by
        unfold heard
        rw [state]
      have same := heard_requestLog found
      refine Guarded.bind (p := _ ∧ _) ?_ ?_ issueDelayReqTimerExpiredChecked_guarded
      · rw [← same]
        exact handleChecked_guarded.mono And.left
      · rintro ⟨ranged, moderates⟩
        rw [← same] at ranged
        exact ranged.handle (moderates.received found)

/-! ### Runs -/

/-- `ptpStateMachine`, where C defines it. -/
def ptpStateMachineChecked (c : PtpClock) : Option PtpClock :=
  (followRecommendationChecked (decideState c)).bind portActionsChecked

/-- A step that stops where C leaves an interval of the delay request timer open. -/
def ptpStepChecked (c : PtpClock) : PtpAction → Option PtpClock
  | .expire timer => some (timerCallback c timer)
  | .step input => ptpStateMachineChecked { c with input := input }

/-- As far as it goes, the step that stops agrees with the step, and it goes through if the
exponent is in range and stays there. -/
theorem ptpStepChecked_guarded (action : PtpAction) :
    Guarded (Ranged c.requestLog ∧ KeepsRange c action) (ptpStepChecked c action)
      (ptpStep c action) := by
  cases action with
  | expire timer => exact .total
  | step input =>
      have decided : (decideState { c with input := input }).requestLog = c.requestLog :=
        decideState_requestLog _
      refine Guarded.bind (p := _ ∧ _) ?_ ?_ portActionsChecked_guarded
      · rw [← decided]
        exact followRecommendationChecked_guarded.mono And.left
      · rintro ⟨ranged, keeps⟩
        exact ⟨ranged.beforeActions input, keeps⟩

/-- C defines every interval of the delay request timer that a step computes. -/
def IntervalsDefined (c : PtpClock) (action : PtpAction) : Prop :=
  ptpStepChecked c action = some (ptpStep c action)

/-- In a run in which every DelayResp that is accepted asks for an interval in range, C defines
every interval of the delay request timer. -/
theorem intervals_defined (rtOpts : RunTimeOpts) (actions : List PtpAction)
    (keeps : Lib.Along ptpStep KeepsRange (ptpdStartup rtOpts) actions) :
    Lib.Along ptpStep IntervalsDefined (ptpdStartup rtOpts) actions := by
  have start : Ranged (ptpdStartup rtOpts).requestLog := by
    have zero : Ranged 0 := by decide
    apply Ranged.toState
    exact zero
  generalize ptpdStartup rtOpts = c at keeps start
  induction actions generalizing c with
  | nil => trivial
  | cons action actions ih =>
      obtain ⟨now, later⟩ := keeps
      exact ⟨(ptpStepChecked_guarded action).passes ⟨start, now⟩,
        ih _ later (ptpStep_ranged start now)⟩

/-- Clock 7 answers the first DelayReq and asks for an interval. -/
def intervalAnswer (logMessageInterval : Int8) : Packet :=
  ({ peer 7 with portDS := { (peer 7).portDS with
      logMinDelayReqInterval := logMessageInterval } } : PtpClock).datagram
    (.delayResp { sourcePortIdentity := ⟨eui48toEui64 (Vector.replicate 6 0), 1⟩ } {})

/-- A slave of clock 7 sends a DelayReq, gets an answer, and sends the next one. -/
def requestTwice (logMessageInterval : Int8) : List PtpAction :=
  [.step {}, .step { event := (peer 7).datagram .announce },
    .step { event := (peer 7).datagram (.sync {}) },
    .step {
      event := (peer 7).datagram (.sync {})
      fires := fun timer => timer = .delayReqInterval },
    .step { general := intervalAnswer logMessageInterval },
    .step {
      event := (peer 7).datagram (.sync {})
      fires := fun timer => timer = .delayReqInterval }]

set_option maxRecDepth 4000 in
/-- With the default exponent in the answer, all intervals are defined. -/
theorem intervals_defined_met :
    Lib.Along ptpStep KeepsRange (ptpdStartup {}) (requestTwice defaultDelayReqInterval) ∧
      Lib.Along ptpStep IntervalsDefined (ptpdStartup {})
        (requestTwice defaultDelayReqInterval) := by
  have ranged : Lib.Along ptpStep (fun c action => (handling c action).all
      fun h => Ranged h.header.logMessageInterval) (ptpdStartup {})
      (requestTwice defaultDelayReqInterval) := by decide
  have keeps : Lib.Along ptpStep KeepsRange (ptpdStartup {})
      (requestTwice defaultDelayReqInterval) := by
    refine ranged.mono fun c action all h found _ => ?_
    rw [found] at all
    exact of_decide_eq_true all
  exact ⟨keeps, intervals_defined {} _ keeps⟩

set_option maxRecDepth 4000 in
/-- After an answer that asks for an interval of 2 to the power of 127, the next interval is
computed with a shift by 128. -/
theorem interval_undefined :
    ¬ ∀ (rtOpts : RunTimeOpts) (actions : List PtpAction),
      Lib.Along ptpStep IntervalsDefined (ptpdStartup rtOpts) actions := by
  intro always
  have defined := (always {} (requestTwice 127)).2.2.2.2.2.1
  have stops : (ptpStepChecked (ptpRun {} ((requestTwice 127).take 5)) (.step {
      event := (peer 7).datagram (.sync {})
      fires := fun timer => timer = .delayReqInterval })).isSome = false := by decide
  rw [show ptpStepChecked (ptpRun {} ((requestTwice 127).take 5)) _ = some _ from defined] at stops
  cases stops

end LwipExt.Ptp
