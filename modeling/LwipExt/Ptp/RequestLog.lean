import LwipExt.Ptp.Answers

/-!
The exponent from which the intervals of the delay request timer are computed.

A DelayResp that is accepted sets it, as it is in the message; a port that is initialised or becomes
a master sets the default. As long as the messages set exponents in range, it stays in range
(`ptpStep_ranged`).
-/

namespace LwipExt.Ptp

/-! ### What sets the exponent -/

/-- The exponent that the delay request timer uses. -/
def PtpClock.requestLog (c : PtpClock) : Int8 := c.portDS.logMinDelayReqInterval

section Frames

variable (c : PtpClock)

@[simp] theorem initClock_requestLog : (initClock c).requestLog = c.requestLog := by
  unfold initClock
  dsimp only
  split <;> rfl

@[simp] theorem synchronizationFault_requestLog :
    (synchronizationFault c).requestLog = c.requestLog := by
  unfold synchronizationFault
  split <;> rfl

@[simp] theorem checkOffset_requestLog (nanoseconds : Int32) :
    (checkOffset c nanoseconds).requestLog = c.requestLog := by
  unfold checkOffset
  split
  · split <;> rfl
  · split
    · exact synchronizationFault_requestLog c
    · rfl

@[simp] theorem filterOffset_requestLog (offset : TimeInternal) :
    (filterOffset c offset).requestLog = c.requestLog := by
  unfold filterOffset
  split
  · exact synchronizationFault_requestLog _
  · exact checkOffset_requestLog _ _

@[simp] theorem updateOffset_requestLog (ingress origin correction : TimeInternal) :
    (updateOffset c ingress origin correction).requestLog = c.requestLog :=
  filterOffset_requestLog _ _

@[simp] theorem filterPeerDelay_requestLog (delay : TimeInternal) (times : List TimeInternal) :
    (filterPeerDelay c delay times).requestLog = c.requestLog := by
  unfold filterPeerDelay
  split <;> rfl

@[simp] theorem updatePeerDelay_requestLog (correction : TimeInternal) (twoStep : Bool) :
    (updatePeerDelay c correction twoStep).requestLog = c.requestLog :=
  filterPeerDelay_requestLog c _ _

@[simp] theorem updateClock_requestLog : (updateClock c).requestLog = c.requestLog := by
  unfold updateClock
  dsimp only
  split
  · split
    · rfl
    · split
      · rfl
      · exact initClock_requestLog _
  · split <;> rfl

@[simp] theorem timerStop_requestLog (index : PtpTimer) :
    (timerStop c index).requestLog = c.requestLog := rfl

@[simp] theorem timerCallback_requestLog (index : PtpTimer) :
    (timerCallback c index).requestLog = c.requestLog := by
  unfold timerCallback
  split <;> rfl

@[simp] theorem timerExpired_requestLog (index : PtpTimer) :
    (timerExpired c index).2.requestLog = c.requestLog := by
  obtain ⟨timers, eq, -⟩ := timerExpired_cases c index
  rw [eq]
  rfl

theorem Issued.requestLog {c d : PtpClock} {m : Message} (issued : Issued c m d) :
    d.requestLog = c.requestLog := by
  obtain ⟨sends, new, channel, rfl, -⟩ := issued
  rfl

theorem issueDelayReq_requestLog : (issueDelayReq c).requestLog = c.requestLog := by
  obtain ⟨d, m, stamp, issued, -, eq⟩ := issueDelayReq_cases c
  rw [eq]
  exact issued.requestLog

theorem issuePDelayReq_requestLog : (issuePDelayReq c).requestLog = c.requestLog := by
  obtain ⟨d, m, stamp, issued, -, eq⟩ := issuePDelayReq_cases c
  rw [eq]
  exact issued.requestLog

theorem issueAnnounce_requestLog : (issueAnnounce c).requestLog = c.requestLog := by
  obtain ⟨d, issued, eq⟩ := issueAnnounce_cases c
  rw [eq]
  exact issued.requestLog

theorem issueSync_requestLog : (issueSync c).requestLog = c.requestLog := by
  obtain ⟨d, m, issued, -, eq | ⟨time, followed⟩⟩ := issueSync_cases c
  · rw [eq]
    exact issued.requestLog
  · rw [followed.requestLog]
    exact issued.requestLog

theorem issuePDelayRespFollowUp_requestLog (time : TimeInternal) (header : MsgHeader) :
    (issuePDelayRespFollowUp c time header).requestLog = c.requestLog :=
  (issuePDelayRespFollowUp_cases c time header).requestLog

theorem issuePDelayResp_requestLog (time : TimeInternal) (header : MsgHeader) :
    (issuePDelayResp c time header).2.requestLog = c.requestLog :=
  (issuePDelayResp_cases c time header).requestLog

theorem issueDelayResp_requestLog (time : TimeInternal) (header : MsgHeader) :
    (issueDelayResp c time header).requestLog = c.requestLog :=
  (issueDelayResp_cases c time header).requestLog

@[simp] theorem issueDelayReqTimerExpired_requestLog :
    (issueDelayReqTimerExpired c).requestLog = c.requestLog := by
  unfold issueDelayReqTimerExpired
  cases c.portDS.delayMechanism with
  | e2e =>
      have asked := timerExpired_requestLog c .delayReqInterval
      dsimp only
      split
      · rfl
      · split
        · next eq =>
            rw [eq] at asked
            rw [issueDelayReq_requestLog]
            exact asked
        · next eq =>
            rw [eq] at asked
            exact asked
  | p2p =>
      have asked := timerExpired_requestLog c .pdelayReqInterval
      dsimp only
      split
      · next eq =>
          rw [eq] at asked
          rw [issuePDelayReq_requestLog]
          exact asked
      · next eq =>
          rw [eq] at asked
          exact asked
  | delayDisabled => rfl

@[simp] theorem addForeign_requestLog (header : MsgHeader) (announce : MsgAnnounce) :
    (addForeign c header announce).requestLog = c.requestLog := by
  unfold addForeign
  dsimp only
  split <;> rfl

theorem bmcStateDecision_requestLog (header : MsgHeader) (announce : MsgAnnounce) :
    (bmcStateDecision header announce c).2.requestLog = c.requestLog := by
  unfold bmcStateDecision
  split
  · rfl
  · dsimp only
    split
    · split <;> rfl
    · split <;> rfl

theorem recommend_requestLog : (recommend c).requestLog = c.requestLog := by
  unfold recommend
  dsimp only
  have made : (bmc { c with events := { c.events with stateDecisionEvent := false } }).2.requestLog
      = c.requestLog := bmcStateDecision_requestLog _ _ _
  generalize bmc _ = result at *
  split
  · exact made
  · exact made

theorem decideState_requestLog : (decideState c).requestLog = c.requestLog := by
  rw [decideState_eq]
  split
  · exact recommend_requestLog c
  · rfl

@[simp] theorem leaveState_requestLog (state : PortState) :
    (leaveState c state).requestLog = c.requestLog := by
  unfold leaveState
  cases c.portDS.portState with
  | master | passive | listening | preMaster =>
      simp only [timerStop_requestLog, initClock_requestLog]
  | uncalibrated | slave =>
      dsimp only
      split
      · rfl
      · rw [initClock_requestLog]
        split <;> rfl
  | initializing | faulty | disabled => rfl

theorem enterState_requestLog (state : PortState) :
    (enterState c state).requestLog = c.requestLog ∨
      (enterState c state).requestLog = defaultDelayReqInterval := by
  unfold enterState
  cases state with
  | initializing | faulty | disabled | listening | slave => exact .inl rfl
  | preMaster | master =>
      right
      dsimp only
      split <;> rfl
  | passive =>
      left
      dsimp only
      split <;> rfl
  | uncalibrated =>
      left
      dsimp only
      split <;> rfl

end Frames

/-! ### Exponents in range -/

/-- The exponents with which the delay request timer is set well. -/
def Ranged (log : Int8) : Prop := -10 ≤ log.toInt ∧ log.toInt ≤ 27

instance (log : Int8) : Decidable (Ranged log) := inferInstanceAs (Decidable (_ ∧ _))

theorem ranged_default : Ranged defaultDelayReqInterval := by decide

variable {c : PtpClock}

/-! ### Changes of state -/

theorem Ranged.toState (ranged : Ranged c.requestLog) (state : PortState) :
    Ranged (toState c state).requestLog := by
  change Ranged (enterState (leaveState c state) state).requestLog
  rcases enterState_requestLog (leaveState c state) state with kept | reset
  · rw [kept, leaveState_requestLog]
    exact ranged
  · rw [reset]
    exact ranged_default

theorem Ranged.consumeFault (ranged : Ranged c.requestLog) :
    Ranged (consumeFault c).requestLog := by
  unfold LwipExt.Ptp.consumeFault
  split
  · exact Ranged.toState (c := { c with
      events := { c.events with synchronizationFault := false } }) ranged _
  · exact ranged

theorem Ranged.consumeChanged (ranged : Ranged c.requestLog) :
    Ranged (consumeChanged c).requestLog := by
  unfold LwipExt.Ptp.consumeChanged
  split
  · exact Ranged.toState (c := clearChanged c) ranged _
  · exact ranged

theorem Ranged.followRecommendation (ranged : Ranged c.requestLog) :
    Ranged (followRecommendation c).requestLog := by
  unfold LwipExt.Ptp.followRecommendation
  cases c.recommendedState with
  | slave =>
      cases c.portDS.portState with
      | uncalibrated =>
          change Ranged (masterClockSelected c).requestLog
          unfold masterClockSelected
          split
          · exact Ranged.toState (c := { c with
              events := { c.events with masterClockSelected := false } }) ranged _
          · exact ranged
      | slave => exact ranged.consumeFault.consumeChanged
      | initializing | faulty | disabled | listening | preMaster | master | passive =>
          exact ranged.toState _
  | master =>
      cases c.portDS.portState with
      | preMaster =>
          have asked := timerExpired_requestLog c .qualificationTimeout
          generalize timerExpired c .qualificationTimeout = result at asked
          obtain ⟨due, d⟩ := result
          have kept : Ranged d.requestLog := by
            rw [show d.requestLog = c.requestLog from asked]
            exact ranged
          cases due with
          | true => exact kept.toState _
          | false => exact kept
      | master => exact ranged
      | initializing | faulty | disabled | listening | uncalibrated | slave | passive =>
          exact ranged.toState _
  | passive | listening =>
      dsimp only
      split
      · exact ranged.toState _
      · exact ranged
  | initializing | faulty | disabled | preMaster | uncalibrated => exact ranged

/-! ### Messages -/

section Handlers

variable {header : MsgHeader} {payload : Bytes} {time : TimeInternal} {isFromSelf : Bool}

@[simp] theorem takeSync_requestLog :
    (takeSync c header payload time).requestLog = c.requestLog := by
  unfold takeSync
  rw [updateClock_requestLog, updateOffset_requestLog]
  rfl

@[simp] theorem takeFollowUp_requestLog :
    (takeFollowUp c header payload).requestLog = c.requestLog := by
  unfold takeFollowUp
  rw [updateClock_requestLog, updateOffset_requestLog]
  rfl

theorem Ranged.handleAnnounce (ranged : Ranged c.requestLog) :
    Ranged (handleAnnounce c header payload isFromSelf).requestLog := by
  unfold LwipExt.Ptp.handleAnnounce
  split
  · exact ranged.toState _
  · split
    · exact ranged
    · cases c.portDS.portState with
      | initializing | faulty | disabled => exact ranged
      | uncalibrated | slave =>
          dsimp only
          split
          · exact ranged
          · rw [addForeign_requestLog]
            exact ranged
      | passive | master | preMaster | listening =>
          dsimp -zeta only
          rw [addForeign_requestLog]
          exact ranged

theorem Ranged.handleSync (ranged : Ranged c.requestLog) :
    Ranged (handleSync c header payload time isFromSelf).requestLog := by
  unfold LwipExt.Ptp.handleSync
  split
  · exact ranged.toState _
  · cases c.portDS.portState with
    | uncalibrated | slave =>
        dsimp -zeta only
        split
        · exact ranged
        · split
          · split
            · exact ranged
            · rw [issueDelayReqTimerExpired_requestLog, updateClock_requestLog,
                updateOffset_requestLog]
              exact ranged
          · exact ranged
    | passive =>
        dsimp -zeta only
        rw [issueDelayReqTimerExpired_requestLog]
        exact ranged
    | initializing | faulty | disabled | master | listening | preMaster => exact ranged

theorem Ranged.handleFollowUp (ranged : Ranged c.requestLog) :
    Ranged (handleFollowUp c header payload isFromSelf).requestLog := by
  unfold LwipExt.Ptp.handleFollowUp
  split
  · exact ranged.toState _
  · split
    · exact ranged
    · cases c.portDS.portState with
      | uncalibrated | slave =>
          dsimp -zeta only
          split
          · exact ranged
          · split
            · exact ranged
            · split
              · exact ranged
              · rw [issueDelayReqTimerExpired_requestLog, updateClock_requestLog,
                  updateOffset_requestLog]
                exact ranged
      | passive =>
          dsimp -zeta only
          rw [issueDelayReqTimerExpired_requestLog]
          exact ranged
      | initializing | faulty | disabled | listening | master | preMaster => exact ranged

theorem Ranged.handleDelayReq (ranged : Ranged c.requestLog) :
    Ranged (handleDelayReq c header payload time).requestLog := by
  unfold LwipExt.Ptp.handleDelayReq
  cases c.portDS.delayMechanism with
  | e2e =>
      dsimp -zeta only
      split
      · exact ranged.toState _
      · split
        · rw [issueDelayResp_requestLog]
          exact ranged
        · exact ranged
  | p2p | delayDisabled => exact ranged

theorem Ranged.handlePDelayReq (ranged : Ranged c.requestLog) :
    Ranged (handlePDelayReq c header payload time isFromSelf).requestLog := by
  unfold LwipExt.Ptp.handlePDelayReq
  have answered : Ranged (issuePDelayResp c time header).2.requestLog := by
    rw [issuePDelayResp_requestLog]
    exact ranged
  cases c.portDS.delayMechanism with
  | p2p =>
      dsimp -zeta only
      split
      · exact ranged.toState _
      · cases c.portDS.portState with
        | passive | slave | master =>
            dsimp -zeta only
            split
            · exact ranged
            · split
              · rw [issuePDelayRespFollowUp_requestLog]
                exact answered
              · exact answered
        | initializing | faulty | disabled | uncalibrated | listening | preMaster => exact ranged
  | e2e | delayDisabled => exact ranged

@[simp] theorem takePDelayResp_requestLog :
    (takePDelayResp c header payload time).requestLog = c.requestLog := by
  unfold takePDelayResp
  split
  · rfl
  · exact updatePeerDelay_requestLog (rememberOneStep c header payload time) _ _

@[simp] theorem takePDelayRespFollowUp_requestLog :
    (takePDelayRespFollowUp c header payload).requestLog = c.requestLog := by
  have cleared (d : PtpClock) : (clearPDelayRespFollowUp d).requestLog = d.requestLog := rfl
  have remembered : (rememberPDelayRespFollowUp c header payload).requestLog = c.requestLog := rfl
  unfold takePDelayRespFollowUp
  rw [cleared, updatePeerDelay_requestLog, remembered]

theorem Ranged.handlePDelayResp (ranged : Ranged c.requestLog) :
    Ranged (handlePDelayResp c header payload time isFromSelf).requestLog := by
  have taken (used : Prop) [Decidable used] :
      Ranged (if used then takePDelayResp c header payload time else c).requestLog := by
    split
    · rw [takePDelayResp_requestLog]
      exact ranged
    · exact ranged
  unfold LwipExt.Ptp.handlePDelayResp
  cases c.portDS.delayMechanism with
  | p2p =>
      dsimp -zeta only
      split
      · exact ranged.toState _
      · cases c.portDS.portState with
        | master | slave =>
            dsimp -zeta only
            split
            · exact ranged
            · exact taken _
        | initializing | faulty | disabled | uncalibrated | listening | passive | preMaster =>
            exact ranged
  | e2e | delayDisabled => exact ranged

theorem Ranged.handlePDelayRespFollowUp (ranged : Ranged c.requestLog) :
    Ranged (handlePDelayRespFollowUp c header payload).requestLog := by
  have taken (used : Prop) [Decidable used] :
      Ranged (if used then takePDelayRespFollowUp c header payload else c).requestLog := by
    split
    · rw [takePDelayRespFollowUp_requestLog]
      exact ranged
    · exact ranged
  unfold LwipExt.Ptp.handlePDelayRespFollowUp
  cases c.portDS.delayMechanism with
  | p2p =>
      dsimp -zeta only
      split
      · exact ranged.toState _
      · cases c.portDS.portState with
        | slave | master =>
            dsimp -zeta only
            split
            · exact ranged
            · exact taken _
        | initializing | faulty | disabled | uncalibrated | listening | passive | preMaster =>
            exact ranged
  | e2e | delayDisabled => exact ranged

theorem takeDelayResp_requestLog :
    (takeDelayResp c header payload).requestLog = header.logMessageInterval := rfl

/-- A DelayResp that is accepted sets the exponent. -/
theorem Ranged.handleDelayResp (ranged : Ranged c.requestLog)
    (asked : c.portDS.delayMechanism = .e2e → MsgType.delayResp.length ≤ payload.length →
      synchronizes c.portDS.portState →
      c.sentDelayReqSequenceId.toInt - 1 = header.sequenceId.toInt ∧
        isSamePortIdentity c.portDS.portIdentity
          (msgUnpackDelayResp payload).requestingPortIdentity ∧
        isSamePortIdentity c.parentDS.parentPortIdentity header.sourcePortIdentity →
      Ranged header.logMessageInterval) :
    Ranged (handleDelayResp c header payload).requestLog := by
  by_cases used : c.portDS.delayMechanism = .e2e ∧ MsgType.delayResp.length ≤ payload.length ∧
      synchronizes c.portDS.portState
  · obtain ⟨mechanism, whole, state⟩ := used
    rw [handleDelayResp_eq mechanism whole state]
    split
    · next accepted => exact asked mechanism whole state accepted
    · exact ranged
  · unfold LwipExt.Ptp.handleDelayResp
    cases mechanism : c.portDS.delayMechanism with
    | e2e =>
        dsimp -zeta only
        split
        · exact ranged.toState _
        · next whole =>
            split
            · next state => exact absurd ⟨mechanism, Nat.le_of_not_lt whole, state⟩ used
            · exact ranged
    | p2p | delayDisabled => exact ranged

end Handlers

namespace Handling

variable {h : Handling}

/-- The message is a DelayResp that the handler accepts. -/
structure SetsInterval (h : Handling) : Prop where
  considered : h.Considered .delayResp
  sequence : h.clock.sentDelayReqSequenceId.toInt - 1 = h.header.sequenceId.toInt
  tested : h.Tested .delayResp

/-- If the message sets the exponent, it sets one in range. -/
def Moderate (h : Handling) : Prop := h.SetsInterval → Ranged h.header.logMessageInterval

theorem ranged_handled (ranged : Ranged h.clock.requestLog) (moderate : h.Moderate) :
    Ranged h.handled.requestLog := by
  unfold handled dispatch
  cases type : MsgType.ofCode h.header.messageType with
  | none => exact ranged
  | some kind =>
      cases kind with
      | announce => exact ranged.handleAnnounce
      | sync => exact ranged.handleSync
      | followUp => exact ranged.handleFollowUp
      | delayReq => exact ranged.handleDelayReq
      | pdelayReq => exact ranged.handlePDelayReq
      | delayResp =>
          refine ranged.handleDelayResp fun mechanism whole state accepted => moderate ?_
          obtain ⟨sequence, own, parent⟩ := accepted
          exact {
            considered := ⟨type, mechanism, whole, state⟩
            sequence := sequence
            tested := ⟨isSamePortIdentity_iff.mp own, isSamePortIdentity_iff.mp parent⟩ }
      | pdelayResp => exact ranged.handlePDelayResp
      | pdelayRespFollowUp => exact ranged.handlePDelayRespFollowUp
      | management | signaling => exact ranged

end Handling

theorem received_requestLog {h : Handling} (found : received c = some h) :
    h.clock.requestLog = c.requestLog := by
  unfold received at found
  split at found
  · cases found
  · dsimp only at found
    split at found
    · cases found
    split at found
    · cases found
    split at found
    · cases found
    · obtain rfl := Option.some.inj found
      rfl

theorem Ranged.handle (ranged : Ranged c.requestLog)
    (moderate : ∀ h, received c = some h → h.Moderate) : Ranged (handle c).requestLog := by
  cases found : received c with
  | some h =>
      rw [handle_of_received found]
      refine h.ranged_handled ?_ (moderate h found)
      rw [received_requestLog found]
      exact ranged
  | none =>
      rcases handle_of_not_received found with same | faulty
      · rw [same]
        exact ranged
      · rw [faulty]
        exact ranged.toState _

/-! ### The state machine -/

theorem syncTimeout_requestLog : (syncTimeout c).requestLog = c.requestLog := by
  have asked := timerExpired_requestLog c .syncInterval
  unfold syncTimeout
  split
  · next eq =>
      rw [eq] at asked
      rw [issueSync_requestLog]
      exact asked
  · next eq =>
      rw [eq] at asked
      exact asked

theorem announceIntervalTimeout_requestLog :
    (announceIntervalTimeout c).requestLog = c.requestLog := by
  have asked := timerExpired_requestLog c .announceInterval
  unfold announceIntervalTimeout
  split
  · next eq =>
      rw [eq] at asked
      rw [issueAnnounce_requestLog]
      exact asked
  · next eq =>
      rw [eq] at asked
      exact asked

theorem heard_requestLog {d : PtpClock} (found : heard c = some d) :
    d.requestLog = c.requestLog := by
  by_cases waits : c.portDS.portState = .listening ∨ c.portDS.portState = .uncalibrated ∨
      c.portDS.portState = .slave ∨ c.portDS.portState = .passive
  · rw [heard_waiting waits] at found
    split at found
    · cases found
    · obtain rfl := Option.some.inj found
      exact timerExpired_requestLog c .announceReceipt
  · unfold heard at found
    cases state : c.portDS.portState with
    | initializing | faulty | preMaster =>
        rw [state] at found
        cases found
    | disabled =>
        rw [state] at found
        obtain rfl := Option.some.inj found
        rfl
    | master =>
        rw [state] at found
        obtain rfl := Option.some.inj found
        rw [announceIntervalTimeout_requestLog, syncTimeout_requestLog]
    | listening | uncalibrated | slave | passive =>
        rw [state] at waits
        simp at waits

/-- The message that the actions of the port state handle, if any, sets an exponent in range. -/
def Moderates (c : PtpClock) : Prop := ∀ h, (heard c).bind received = some h → h.Moderate

theorem Moderates.received {d : PtpClock} (moderates : Moderates c) (found : heard c = some d) :
    ∀ h, received d = some h → h.Moderate := by
  intro h receives
  apply moderates
  rw [found]
  exact receives

theorem Ranged.announceTimeout (ranged : Ranged c.requestLog) :
    Ranged (announceTimeout c).requestLog := by
  unfold LwipExt.Ptp.announceTimeout
  dsimp only
  split
  · exact Ranged.toState (c := recommendMaster (clearForeign c)) ranged _
  · split
    · exact Ranged.toState (c := clearForeign c) ranged _
    · exact ranged

/-- A port that is initialised has the default exponent. -/
theorem doInit_requestLog :
    (doInit c).2.requestLog = c.requestLog ∨
      (doInit c).2.requestLog = defaultDelayReqInterval := by
  unfold doInit
  split
  · right
    exact initClock_requestLog (initTimer (initData { c with portUuidField := c.input.hwaddr }))
  · exact .inl rfl

theorem Ranged.portActions (ranged : Ranged c.requestLog) (moderates : Moderates c) :
    Ranged (portActions c).requestLog := by
  cases found : heard c with
  | some d =>
      have heard : Ranged d.requestLog := by
        rw [heard_requestLog found]
        exact ranged
      have handled := heard.handle (moderates.received found)
      rcases portActions_of_heard found with acts | acts
      · rw [acts]
        exact handled
      · rw [acts, issueDelayReqTimerExpired_requestLog]
        exact handled
  | none =>
      by_cases waits : c.portDS.portState = .listening ∨ c.portDS.portState = .uncalibrated ∨
          c.portDS.portState = .slave ∨ c.portDS.portState = .passive
      · rw [heard_waiting waits] at found
        rw [portActions_waiting waits]
        split at found
        · next due =>
            rw [if_pos due]
            apply Ranged.announceTimeout
            rw [timerExpired_requestLog]
            exact ranged
        · cases found
      · unfold LwipExt.Ptp.portActions
        unfold heard at found
        cases state : c.portDS.portState with
        | initializing =>
            have started : Ranged (doInit c).2.requestLog := by
              rcases doInit_requestLog (c := c) with kept | reset
              · rw [kept]
                exact ranged
              · rw [reset]
                exact ranged_default
            generalize doInit c = result at started
            obtain ⟨made, d⟩ := result
            cases made with
            | true => exact Ranged.toState started _
            | false => exact Ranged.toState started _
        | faulty => exact ranged.toState _
        | preMaster => exact ranged
        | disabled | master =>
            rw [state] at found
            cases found
        | listening | uncalibrated | slave | passive =>
            rw [state] at waits
            simp at waits

/-- The message that a step handles, if any, does not set an exponent out of range. -/
def KeepsRange (c : PtpClock) (action : PtpAction) : Prop :=
  ∀ h, handling c action = some h → h.Moderate

theorem Ranged.beforeActions (ranged : Ranged c.requestLog) (input : PtpInput) :
    Ranged (beforeActions c input).requestLog := by
  have decided : Ranged (decideState { c with input := input }).requestLog := by
    rw [decideState_requestLog]
    exact ranged
  exact decided.followRecommendation

theorem ptpStep_ranged {action : PtpAction} (ranged : Ranged c.requestLog)
    (keeps : KeepsRange c action) : Ranged (ptpStep c action).requestLog := by
  cases action with
  | expire timer =>
      rw [show ptpStep c (.expire timer) = timerCallback c timer from rfl,
        timerCallback_requestLog]
      exact ranged
  | step input => exact (ranged.beforeActions input).portActions keeps

end LwipExt.Ptp
