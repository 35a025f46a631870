import LwipExt.Ptp.RequestLog

/-!
Time stamps that do not fit.

`toInternalTime` leaves its output as it is for seconds that are too large, looks at the lower 32
bits of them only, and takes any nanoseconds; its callers go on in each case. So a message with a
time stamp that does not fit leaves the measures of the clock alone if the handler has no use for
it, and otherwise steers the clock (`leavesMeasures_iff`).
-/

namespace LwipExt.Ptp

/-! ### Measures -/

/-- What the clock has measured, and what was done to the local clock. -/
structure Measures where
  offsetFromMaster : TimeInternal
  meanPathDelay : TimeInternal
  peerMeanPathDelay : TimeInternal
  observedDrift : Int32
  clockCalls : List ClockCall

def PtpClock.measures (c : PtpClock) : Measures where
  offsetFromMaster := c.currentDS.offsetFromMaster
  meanPathDelay := c.currentDS.meanPathDelay
  peerMeanPathDelay := c.portDS.peerMeanPathDelay
  observedDrift := c.observedDrift
  clockCalls := c.clockCalls

section Frames

variable (c : PtpClock)

theorem timerExpired_measures (index : PtpTimer) :
    (timerExpired c index).2.measures = c.measures := by
  obtain ⟨timers, eq, -⟩ := timerExpired_cases c index
  rw [eq]
  rfl

theorem Issued.measures {c d : PtpClock} {m : Message} (issued : Issued c m d) :
    d.measures = c.measures := by
  obtain ⟨sends, new, channel, rfl, -⟩ := issued
  rfl

theorem issueDelayReq_measures : (issueDelayReq c).measures = c.measures := by
  obtain ⟨d, m, stamp, issued, -, eq⟩ := issueDelayReq_cases c
  rw [eq]
  exact issued.measures

theorem issuePDelayReq_measures : (issuePDelayReq c).measures = c.measures := by
  obtain ⟨d, m, stamp, issued, -, eq⟩ := issuePDelayReq_cases c
  rw [eq]
  exact issued.measures

@[simp] theorem issueDelayReqTimerExpired_measures :
    (issueDelayReqTimerExpired c).measures = c.measures := by
  unfold issueDelayReqTimerExpired
  cases c.portDS.delayMechanism with
  | e2e =>
      have asked := timerExpired_measures c .delayReqInterval
      dsimp only
      split
      · rfl
      · split
        · next eq =>
            rw [eq] at asked
            rw [issueDelayReq_measures]
            exact asked
        · next eq =>
            rw [eq] at asked
            exact asked
  | p2p =>
      have asked := timerExpired_measures c .pdelayReqInterval
      dsimp only
      split
      · next eq =>
          rw [eq] at asked
          rw [issuePDelayReq_measures]
          exact asked
      · next eq =>
          rw [eq] at asked
          exact asked
  | delayDisabled => rfl

end Frames

/-! ### Steering the clock -/

/-- The local clock, and the servo that steers it. -/
def PtpClock.steering (c : PtpClock) : Servo × List ClockCall := (c.servo, c.clockCalls)

section Steering

variable (c : PtpClock)

theorem synchronizationFault_steering : (synchronizationFault c).steering = c.steering := by
  unfold synchronizationFault
  split <;> rfl

theorem checkOffset_steering (nanoseconds : Int32) :
    (checkOffset c nanoseconds).steering = c.steering := by
  unfold checkOffset
  split
  · split <;> rfl
  · split
    · exact synchronizationFault_steering c
    · rfl

theorem filterOffset_steering (offset : TimeInternal) :
    (filterOffset c offset).steering = c.steering := by
  unfold filterOffset
  split
  · exact synchronizationFault_steering _
  · exact checkOffset_steering _ _

theorem updateOffset_steering (ingress origin correction : TimeInternal) :
    (updateOffset c ingress origin correction).steering = c.steering :=
  filterOffset_steering _ _

theorem initClock_clockCalls : ∃ new, (initClock c).clockCalls = new ++ c.clockCalls := by
  unfold initClock
  dsimp only
  split
  · exact ⟨[], rfl⟩
  · exact ⟨[_], rfl⟩

/-- A servo that adjusts the clock does something to it. -/
theorem updateClock_clockCalls (adjusts : c.servo.noAdjust = false) :
    (updateClock c).clockCalls ≠ c.clockCalls := by
  have longer (new : List ClockCall) (call : ClockCall) :
      new ++ call :: c.clockCalls ≠ c.clockCalls := by
    intro same
    have length := congrArg List.length same
    rw [List.length_append, List.length_cons] at length
    omega
  have kept : ¬ c.servo.noAdjust = true := by
    rw [adjusts]
    exact Bool.false_ne_true
  unfold updateClock
  dsimp only
  split
  · split
    · exact longer [] _
    · obtain ⟨new, grown⟩ := initClock_clockCalls
        (setTime (getTime c).2 (subTime (getTime c).1 c.currentDS.offsetFromMaster))
      change (initClock (setTime (getTime c).2
        (subTime (getTime c).1 c.currentDS.offsetFromMaster))).clockCalls ≠ _
      rw [grown]
      exact longer new _
  · exact longer [] _

end Steering

/-! ### Messages with a time stamp -/

/-- The seconds of a time stamp, in its 48 bits. -/
def Timestamp.seconds (t : Timestamp) : Nat := t.secondsMsb.toNat * 2 ^ 32 + t.secondsLsb.toNat

/-- A normalized `TimeInternal` holds the time stamp. -/
def Timestamp.Fits (t : Timestamp) : Prop :=
  t.seconds < 2 ^ 31 - 1 ∧ t.nanosecondsField.toNat < 10 ^ 9

instance (t : Timestamp) : Decidable t.Fits := inferInstanceAs (Decidable (_ ∧ _))

namespace Handling

variable {h : Handling}

/-- The message is a whole Sync, Follow_Up or DelayResp with a time stamp that does not fit. -/
structure Unfit (h : Handling) : Prop where
  type : h.type = some .sync ∨ h.type = some .followUp ∨ h.type = some .delayResp
  whole : ∀ type, h.type = some type → type.length ≤ h.payload.length
  stamp : ¬ (msgUnpackDelayResp h.payload).timestamp.Fits

/-- The handler computes an offset from the time stamp. -/
inductive GivesOffset (h : Handling) : Prop where
  | sync (type : h.type = some .sync) (state : synchronizes h.clock.portDS.portState)
      (other : h.isFromSelf = false) (parent : h.FromParent)
      (oneStep : getFlag h.header.flagField0 flag0TwoStep = false)
  | followUp (type : h.type = some .followUp) (state : synchronizes h.clock.portDS.portState)
      (other : h.isFromSelf = false) (parent : h.FromParent)
      (waiting : h.clock.waitingForFollowUp = true)
      (sequence : h.clock.recvSyncSequenceId = h.header.sequenceId)

/-- The handler computes a path delay from the time stamp: it accepts the message as a DelayResp,
and there is an offset already. -/
def GivesDelay (h : Handling) : Prop := h.SetsInterval ∧ h.clock.ofmFilt.n ≠ 0

/-- The handler leaves the measures alone. -/
def LeavesMeasures (h : Handling) : Prop := h.handled.measures = h.clock.measures

section Unused

variable {c : PtpClock} {header : MsgHeader} {payload : Bytes} {time : TimeInternal}
  {isFromSelf : Bool}

theorem handleSync_measures (whole : MsgType.sync.length ≤ payload.length)
    (unused : ¬ (synchronizes c.portDS.portState ∧ isFromSelf = false ∧
      c.parentDS.parentPortIdentity = header.sourcePortIdentity ∧
      getFlag header.flagField0 flag0TwoStep = false)) :
    (handleSync c header payload time isFromSelf).measures = c.measures := by
  by_cases used : synchronizes c.portDS.portState ∧ isFromSelf = false
  · obtain ⟨state, rfl⟩ := used
    rw [handleSync_eq whole state]
    split
    · next parent =>
        split
        · rfl
        · next oneStep =>
            refine absurd ⟨state, rfl, isSamePortIdentity_iff.mp parent, ?_⟩ unused
            exact Bool.eq_false_iff.mpr oneStep
    · rfl
  · unfold handleSync
    rw [if_neg (Nat.not_lt_of_le whole)]
    cases state : c.portDS.portState with
    | uncalibrated | slave =>
        have self : isFromSelf = true := by
          rw [state] at used
          simpa [synchronizes] using used
        rw [self]
        rfl
    | passive => exact issueDelayReqTimerExpired_measures c
    | initializing | faulty | disabled | master | listening | preMaster => rfl

theorem handleFollowUp_measures (whole : MsgType.followUp.length ≤ payload.length)
    (unused : ¬ (synchronizes c.portDS.portState ∧ isFromSelf = false ∧
      c.parentDS.parentPortIdentity = header.sourcePortIdentity ∧
      c.waitingForFollowUp = true ∧ c.recvSyncSequenceId = header.sequenceId)) :
    (handleFollowUp c header payload isFromSelf).measures = c.measures := by
  by_cases used : synchronizes c.portDS.portState ∧ isFromSelf = false
  · obtain ⟨state, rfl⟩ := used
    rw [handleFollowUp_eq whole state]
    split
    · rfl
    · next waiting =>
        split
        · rfl
        · next parent =>
            split
            · rfl
            · next sequence =>
                refine absurd ⟨state, rfl, ?_, ?_, not_not.mp sequence⟩ unused
                · rw [Bool.not_eq_true', Bool.not_eq_false] at parent
                  exact isSamePortIdentity_iff.mp parent
                · rw [Bool.not_eq_true', Bool.not_eq_false] at waiting
                  exact waiting
  · unfold handleFollowUp
    rw [if_neg (Nat.not_lt_of_le whole)]
    split
    · rfl
    · next other =>
        cases state : c.portDS.portState with
        | uncalibrated | slave =>
            refine absurd ⟨?_, Bool.eq_false_iff.mpr other⟩ used
            rw [state]
            simp [synchronizes]
        | passive => exact issueDelayReqTimerExpired_measures c
        | initializing | faulty | disabled | listening | master | preMaster => rfl

/-- Without an offset, a DelayResp that is accepted gives no path delay. -/
theorem takeDelayResp_measures (nothing : c.ofmFilt.n = 0) :
    (takeDelayResp c header payload).measures = c.measures := by
  have kept (egress recieve correction : TimeInternal) :
      updateDelay (rememberDelayResp c header payload) egress recieve correction =
        rememberDelayResp c header payload := if_pos nothing
  change (setDelayReqInterval (updateDelay (rememberDelayResp c header payload) _ _ _) _).measures =
    _
  rw [kept]
  rfl

theorem handleDelayResp_measures (whole : MsgType.delayResp.length ≤ payload.length)
    (unused : c.portDS.delayMechanism = .e2e → synchronizes c.portDS.portState →
      c.sentDelayReqSequenceId.toInt - 1 = header.sequenceId.toInt →
      c.portDS.portIdentity = (msgUnpackDelayResp payload).requestingPortIdentity →
      c.parentDS.parentPortIdentity = header.sourcePortIdentity → c.ofmFilt.n = 0) :
    (handleDelayResp c header payload).measures = c.measures := by
  by_cases used : c.portDS.delayMechanism = .e2e ∧ synchronizes c.portDS.portState
  · obtain ⟨mechanism, state⟩ := used
    rw [handleDelayResp_eq mechanism whole state]
    split
    · next accepted =>
        rw [isSamePortIdentity_iff, isSamePortIdentity_iff] at accepted
        obtain ⟨sequence, own, parent⟩ := accepted
        exact takeDelayResp_measures (unused mechanism state sequence own parent)
    · rfl
  · unfold handleDelayResp
    cases mechanism : c.portDS.delayMechanism with
    | e2e =>
        dsimp -zeta only
        rw [if_neg (Nat.not_lt_of_le whole)]
        split
        · next state => exact absurd ⟨mechanism, state⟩ used
        · rfl
    | p2p | delayDisabled => rfl

end Unused

/-- A message that is whole leaves the measures alone unless an offset or a path delay is computed
from its time stamp. -/
theorem Unfit.leavesMeasures (unfit : h.Unfit) (offset : ¬ h.GivesOffset) (delay : ¬ h.GivesDelay) :
    h.LeavesMeasures := by
  obtain ⟨known, whole, -⟩ := unfit
  unfold LeavesMeasures handled dispatch
  rcases known with type | type | type
  · rw [show MsgType.ofCode h.header.messageType = some .sync from type]
    refine handleSync_measures (whole _ type) fun used => offset ?_
    obtain ⟨state, other, parent, oneStep⟩ := used
    exact .sync type state other parent oneStep
  · rw [show MsgType.ofCode h.header.messageType = some .followUp from type]
    refine handleFollowUp_measures (whole _ type) fun used => offset ?_
    obtain ⟨state, other, parent, waiting, sequence⟩ := used
    exact .followUp type state other parent waiting sequence
  · rw [show MsgType.ofCode h.header.messageType = some .delayResp from type]
    refine handleDelayResp_measures (whole _ type) fun mechanism state sequence own parent => ?_
    refine not_not.mp fun filtered => delay ⟨?_, filtered⟩
    exact {
      considered := ⟨type, mechanism, whole _ type, state⟩
      sequence := sequence
      tested := ⟨own, parent⟩ }

/-- A servo that adjusts the clock does so with every offset. -/
theorem GivesOffset.steers (given : h.GivesOffset)
    (whole : ∀ type, h.type = some type → type.length ≤ h.payload.length)
    (adjusts : h.clock.servo.noAdjust = false) : ¬ h.LeavesMeasures := by
  intro same
  have calls : h.handled.clockCalls = h.clock.clockCalls :=
    congrArg Measures.clockCalls same
  have steered (d : PtpClock) (ingress origin correction : TimeInternal)
      (kept : d.steering = h.clock.steering) : (issueDelayReqTimerExpired
        (updateClock (updateOffset d ingress origin correction))).clockCalls ≠
          h.clock.clockCalls := by
    have offset := (updateOffset_steering d ingress origin correction).trans kept
    have servo : (updateOffset d ingress origin correction).servo.noAdjust = false := by
      rw [show (updateOffset d ingress origin correction).servo = h.clock.servo from
        congrArg Prod.fst offset]
      exact adjusts
    have before : (updateOffset d ingress origin correction).clockCalls = h.clock.clockCalls :=
      congrArg Prod.snd offset
    have asked := congrArg Measures.clockCalls (issueDelayReqTimerExpired_measures
      (updateClock (updateOffset d ingress origin correction)))
    have asked : (issueDelayReqTimerExpired
      (updateClock (updateOffset d ingress origin correction))).clockCalls = _ := asked
    rw [asked, ← before]
    exact updateClock_clockCalls _ servo
  cases given with
  | sync type state other parent oneStep =>
      have dispatched : h.handled =
          handleSync h.clock h.header h.payload h.time h.isFromSelf := by
        unfold handled dispatch
        rw [show MsgType.ofCode h.header.messageType = some .sync from type]
      rw [dispatched, other, handleSync_eq (whole _ type) state,
        if_pos (isSamePortIdentity_iff.mpr parent), if_neg (by rw [oneStep]; exact nofun)] at calls
      exact steered (rememberSyncOneStep h.clock h.time) _ _ _ rfl calls
  | followUp type state other parent waiting sequence =>
      have dispatched : h.handled =
          handleFollowUp h.clock h.header h.payload h.isFromSelf := by
        unfold handled dispatch
        rw [show MsgType.ofCode h.header.messageType = some .followUp from type]
      rw [dispatched, other, handleFollowUp_eq (whole _ type) state,
        if_neg (by rw [waiting]; exact nofun),
        if_neg (by rw [isSamePortIdentity_iff.mpr parent]; exact nofun),
        if_neg (not_not.mpr sequence)] at calls
      exact steered (clearFollowUp h.clock) _ _ _ rfl calls

end Handling

/-! ### Steps -/

/-- A message with a time stamp that does not fit leaves the measures alone. -/
def LeavesMeasures (c : PtpClock) (action : PtpAction) : Prop :=
  ∀ h, handling c action = some h → h.Unfit → h.LeavesMeasures

/-- Neither an offset nor a path delay is computed from a time stamp that does not fit. -/
def SparesMeasures (c : PtpClock) (action : PtpAction) : Prop :=
  ∀ h, handling c action = some h → h.Unfit → ¬ h.GivesOffset ∧ ¬ h.GivesDelay

/-- The servo adjusts the clock, and the message of the step, if any, gives no path delay. -/
def Steers (c : PtpClock) (action : PtpAction) : Prop :=
  ∀ h, handling c action = some h → h.clock.servo.noAdjust = false ∧ ¬ h.GivesDelay

/-- Every message with a time stamp that does not fit leaves the measures alone if nothing is
computed from it; a Sync or Follow_Up with a servo that adjusts the clock leaves them alone only
then. -/
theorem leavesMeasures_iff (c : PtpClock) (action : PtpAction) :
    (SparesMeasures c action → LeavesMeasures c action) ∧
      (Steers c action → (LeavesMeasures c action ↔ SparesMeasures c action)) := by
  have enough (spares : SparesMeasures c action) : LeavesMeasures c action := by
    intro h found unfit
    obtain ⟨offset, delay⟩ := spares h found unfit
    exact unfit.leavesMeasures offset delay
  refine ⟨enough, fun steers => ⟨fun leaves h found unfit => ?_, enough⟩⟩
  obtain ⟨adjusts, delay⟩ := steers h found
  exact ⟨fun given => given.steers unfit.whole adjusts (leaves h found unfit), delay⟩

set_option maxRecDepth 4000 in
/-- A one-step Sync of clock 7 with two seconds in its nanoseconds steers the clock. -/
theorem unfit_sync_steers :
    ¬ ∀ (rtOpts : RunTimeOpts) (actions : List PtpAction),
      Lib.Along ptpStep LeavesMeasures (ptpdStartup rtOpts) actions := by
  intro always
  have run := always {} [.step {}, .step { event := (peer 7).datagram .announce },
    .step { event := (peer 7).datagram (.sync ⟨0, 0, 2000000000⟩) }]
  have leaves : LeavesMeasures
    (ptpRun {} [.step {}, .step { event := (peer 7).datagram .announce }])
    (.step { event := (peer 7).datagram (.sync ⟨0, 0, 2000000000⟩) }) := run.2.2.1
  have all : (handling (ptpRun {} [.step {}, .step { event := (peer 7).datagram .announce }])
      (.step { event := (peer 7).datagram (.sync ⟨0, 0, 2000000000⟩) })).any fun h =>
        h.type = some .sync ∧ MsgType.sync.length ≤ h.payload.length ∧
          ¬ (msgUnpackDelayResp h.payload).timestamp.Fits ∧
          synchronizes h.clock.portDS.portState ∧ h.isFromSelf = false ∧
          h.clock.parentDS.parentPortIdentity = h.header.sourcePortIdentity ∧
          getFlag h.header.flagField0 flag0TwoStep = false ∧
          h.clock.servo.noAdjust = false := by decide
  obtain ⟨h, found, facts⟩ := (Option.any_eq_true _ _).mp all
  obtain ⟨type, whole, stamp, state, other, parent, oneStep, adjusts⟩ := of_decide_eq_true facts
  have whole (kind : MsgType) (held : h.type = some kind) : kind.length ≤ h.payload.length := by
    rw [type] at held
    cases held
    exact whole
  exact Handling.GivesOffset.steers (.sync type state other parent oneStep) whole adjusts
    (leaves h found ⟨.inl type, whole, stamp⟩)

end LwipExt.Ptp
