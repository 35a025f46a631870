import LwipExt.Ptp.Frames

/-!
The state machine does to `Control` what `Control` says.
-/

namespace LwipExt.Ptp

/-! ### Datagrams that are too short -/

/-- The handler of a type looks at the length of a message. -/
def MsgType.handled (mechanism : DelayMechanism) : MsgType → Bool
  | .announce | .sync | .followUp => true
  | .delayReq | .delayResp => mechanism = .e2e
  | .pdelayReq | .pdelayResp | .pdelayRespFollowUp => mechanism = .p2p
  | .signaling | .management => false

/-- A datagram is too short for its handler. -/
def isShort (c : PtpClock) (packet : Packet) : Bool :=
  let header := msgUnpackHeader packet.payload
  packet.payload.length < headerLength ||
    header.versionPTP = c.portDS.versionNumber && header.domainNumber = c.defaultDS.domainNumber &&
      (MsgType.ofCode header.messageType).any fun type =>
        type.handled c.portDS.delayMechanism && packet.payload.length < type.length

/-- The datagram to handle is too short. -/
def faults (c : PtpClock) : Bool := (c.input.event.or c.input.general).any (isShort c)

/-! ### Handlers -/

open Control (Handle)

variable (c : PtpClock) (header : MsgHeader) (payload : Bytes) (time : TimeInternal)
  (isFromSelf : Bool)

/-- A handler that leaves `Control` alone. -/
theorem Control.Handle.of_eq {short : Prop} {a b : Control} (long : ¬ short) (same : b = a) :
    Handle short a b := by
  rw [same]
  exact .ignored long

theorem Control.Handle.congr {short short' : Prop} {a b : Control} (same : short ↔ short')
    (handled : Handle short a b) : Handle short' a b := by
  rw [← propext same]
  exact handled

theorem handleAnnounce_control :
    Handle (payload.length < MsgType.announce.length) c.control
      (handleAnnounce c header payload isFromSelf).control := by
  unfold handleAnnounce
  split
  · next short =>
      rw [toState_control]
      exact .fault short
  · next long =>
      split
      · exact .ignored long
      · dsimp only
        split
        · exact .ignored long
        · exact .ignored long
        · exact .ignored long
        · split
          · exact .announced long
          · exact .of_eq long (addForeign_control _ _ _)
        · split
          · exact .announced long
          · exact .of_eq long (addForeign_control _ _ _)
        · rw [addForeign_control]
          exact .announced long
        · exact .of_eq long (addForeign_control _ _ _)
        · exact .of_eq long (addForeign_control _ _ _)
        · exact .of_eq long (addForeign_control _ _ _)

theorem handleSync_control :
    Handle (payload.length < MsgType.sync.length) c.control
      (handleSync c header payload time isFromSelf).control := by
  unfold handleSync
  split
  · next short =>
      rw [toState_control]
      exact .fault short
  · next long =>
      apply Control.Handle.of_eq long
      have used (d : PtpClock) (ingress origin correction : TimeInternal) :
          (issueDelayReqTimerExpired (updateClock (updateOffset d ingress origin correction))).control
            = d.control := by
        rw [issueDelayReqTimerExpired_control, updateClock_control, updateOffset_control]
      cases c.portDS.portState with
      | uncalibrated | slave =>
          dsimp only
          split
          · rfl
          · split
            · split
              · rfl
              · rw [used]
                rfl
            · rfl
      | passive => exact issueDelayReqTimerExpired_control c
      | initializing | faulty | disabled | master | listening | preMaster => rfl

theorem handleFollowUp_control :
    Handle (payload.length < MsgType.followUp.length) c.control
      (handleFollowUp c header payload isFromSelf).control := by
  unfold handleFollowUp
  split
  · next short =>
      rw [toState_control]
      exact .fault short
  · next long =>
      apply Control.Handle.of_eq long
      split
      · rfl
      · cases c.portDS.portState with
        | uncalibrated | slave =>
            dsimp only
            split
            · rfl
            · split
              · rfl
              · split
                · rfl
                · rw [issueDelayReqTimerExpired_control, updateClock_control, updateOffset_control]
                  rfl
        | passive => exact issueDelayReqTimerExpired_control c
        | initializing | faulty | disabled | listening | master | preMaster => rfl

theorem handleDelayReq_control :
    Handle (MsgType.delayReq.handled c.portDS.delayMechanism ∧
        payload.length < MsgType.delayReq.length) c.control
      (handleDelayReq c header payload time).control := by
  unfold handleDelayReq
  cases c.portDS.delayMechanism with
  | e2e =>
      dsimp only
      split
      · next short =>
          rw [toState_control]
          exact .fault ⟨rfl, short⟩
      · next long =>
          apply Control.Handle.of_eq (fun short => long short.2)
          split
          · exact issueDelayResp_control c time header
          · rfl
  | p2p | delayDisabled => exact .ignored (fun short => nomatch short.1)

theorem handleDelayResp_control :
    Handle (MsgType.delayResp.handled c.portDS.delayMechanism ∧
        payload.length < MsgType.delayResp.length) c.control
      (handleDelayResp c header payload).control := by
  unfold handleDelayResp
  cases c.portDS.delayMechanism with
  | e2e =>
      dsimp only
      split
      · next short =>
          rw [toState_control]
          exact .fault ⟨rfl, short⟩
      · next long =>
          apply Control.Handle.of_eq (fun short => long short.2)
          split
          · split
            · exact updateDelay_control _ _ _ _
            · rfl
          · rfl
  | p2p | delayDisabled => exact .ignored (fun short => nomatch short.1)

theorem handlePDelayReq_control :
    Handle (MsgType.pdelayReq.handled c.portDS.delayMechanism ∧
        payload.length < MsgType.pdelayReq.length) c.control
      (handlePDelayReq c header payload time isFromSelf).control := by
  unfold handlePDelayReq
  cases c.portDS.delayMechanism with
  | p2p =>
      dsimp only
      split
      · next short =>
          rw [toState_control]
          exact .fault ⟨rfl, short⟩
      · next long =>
          apply Control.Handle.of_eq (fun short => long short.2)
          have answered := issuePDelayResp_control c time header
          cases c.portDS.portState with
          | passive | slave | master =>
              dsimp only
              split
              · rfl
              · split
                · rw [issuePDelayRespFollowUp_control]
                  exact answered
                · exact answered
          | initializing | faulty | disabled | uncalibrated | listening | preMaster => rfl
  | e2e | delayDisabled => exact .ignored (fun short => nomatch short.1)

theorem handlePDelayResp_control :
    Handle (MsgType.pdelayResp.handled c.portDS.delayMechanism ∧
        payload.length < MsgType.pdelayResp.length) c.control
      (handlePDelayResp c header payload time isFromSelf).control := by
  unfold handlePDelayResp
  cases c.portDS.delayMechanism with
  | p2p =>
      dsimp only
      split
      · next short =>
          rw [toState_control]
          exact .fault ⟨rfl, short⟩
      · next long =>
          apply Control.Handle.of_eq (fun short => long short.2)
          cases c.portDS.portState with
          | slave | master =>
              dsimp only
              split
              · rfl
              · split
                · split
                  · rfl
                  · exact updatePeerDelay_control _ _ _
                · rfl
          | initializing | faulty | disabled | uncalibrated | listening | passive | preMaster => rfl
  | e2e | delayDisabled => exact .ignored (fun short => nomatch short.1)

theorem handlePDelayRespFollowUp_control :
    Handle (MsgType.pdelayRespFollowUp.handled c.portDS.delayMechanism ∧
        payload.length < MsgType.pdelayRespFollowUp.length) c.control
      (handlePDelayRespFollowUp c header payload).control := by
  unfold handlePDelayRespFollowUp
  cases c.portDS.delayMechanism with
  | p2p =>
      dsimp only
      split
      · next short =>
          rw [toState_control]
          exact .fault ⟨rfl, short⟩
      · next long =>
          apply Control.Handle.of_eq (fun short => long short.2)
          cases c.portDS.portState with
          | slave | master =>
              dsimp only
              split
              · rfl
              · split
                · have kept (d : PtpClock) :
                      { d with waitingForPDelayRespFollowUp := false }.control = d.control := rfl
                  rw [kept, updatePeerDelay_control]
                  rfl
                · rfl
          | initializing | faulty | disabled | uncalibrated | listening | passive | preMaster => rfl
  | e2e | delayDisabled => exact .ignored (fun short => nomatch short.1)

theorem dispatch_control :
    Handle ((MsgType.ofCode header.messageType).any fun type =>
        type.handled c.portDS.delayMechanism && payload.length < type.length) c.control
      (dispatch c header payload time isFromSelf).control := by
  unfold dispatch
  cases MsgType.ofCode header.messageType with
  | none => exact .ignored nofun
  | some type =>
      cases type with
      | announce => exact (handleAnnounce_control ..).congr (by simp [MsgType.handled])
      | sync => exact (handleSync_control ..).congr (by simp [MsgType.handled])
      | followUp => exact (handleFollowUp_control ..).congr (by simp [MsgType.handled])
      | delayReq => exact (handleDelayReq_control ..).congr (by simp)
      | delayResp => exact (handleDelayResp_control ..).congr (by simp)
      | pdelayReq => exact (handlePDelayReq_control ..).congr (by simp)
      | pdelayResp => exact (handlePDelayResp_control ..).congr (by simp)
      | pdelayRespFollowUp => exact (handlePDelayRespFollowUp_control ..).congr (by simp)
      | management | signaling => exact .ignored (by simp [MsgType.handled])

/-- What the datagram of a step does to `Control`. -/
theorem handle_control : Handle (faults c) c.control (handle c).control := by
  unfold handle faults
  cases c.input.event.or c.input.general with
  | none => exact .ignored nofun
  | some packet =>
      dsimp only [Option.any_some]
      split
      · next short =>
          rw [toState_control]
          exact .fault (by simp [isShort, short])
      · next long =>
          split
          · next version => exact .ignored (by simp [isShort, long, version])
          · next version =>
              split
              · next domain => exact .ignored (by simp [isShort, long, domain])
              · next domain =>
                  have version := not_not.mp version
                  have domain := not_not.mp domain
                  have handled (note : Note) (time : TimeInternal) (isFromSelf : Bool) :=
                    dispatch_control (noted c note) (msgUnpackHeader packet.payload)
                      packet.payload time isFromSelf
                  refine Control.Handle.congr ?_ (handled _ _ _)
                  simp [isShort, long, version, domain, noted]

/-! ### The switches of the state machine -/

open Control (Decide Follow Act)

/-- What a state decision recommends. -/
theorem bmc_cases :
    (bmc c).2.control = c.control ∧ ((bmc c).1 = .listening ∨ (bmc c).1 = .slave ∨
      (bmc c).1 = .master ∨ (bmc c).1 = .passive) := by
  unfold bmc bmcStateDecision
  dsimp only
  split
  · exact ⟨rfl, .inl rfl⟩
  · split
    · split
      · exact ⟨rfl, .inr (.inr (.inl rfl))⟩
      · exact ⟨rfl, .inr (.inr (.inr rfl))⟩
    · split
      · exact ⟨rfl, .inr (.inr (.inl rfl))⟩
      · exact ⟨rfl, .inr (.inl rfl)⟩

/-- A state decision that is made. -/
def recommend (c : PtpClock) : PtpClock :=
  let c := { c with events := { c.events with stateDecisionEvent := false } }
  let (recommended, c) := bmc c
  let c := { c with recommendedState := recommended }
  if (recommended = .master ∨ recommended = .passive) ∧ isSlaveOnly c.defaultDS then
    { c with recommendedState := .listening }
  else c

theorem decideState_eq :
    decideState c = if c.portDS.portState ≠ .initializing ∧ c.portDS.portState ≠ .faulty ∧
        c.portDS.portState ≠ .disabled ∧ c.events.stateDecisionEvent = true
      then recommend c else c := by
  unfold decideState recommend
  cases c.portDS.portState <;> simp

theorem recommend_control (decided : Control.decides c.control.portState) :
    Decide c.control (recommend c).control := by
  unfold recommend
  dsimp only
  have made := bmc_cases { c with events := { c.events with stateDecisionEvent := false } }
  generalize bmc _ = result at *
  obtain ⟨recommended, d⟩ := result
  obtain ⟨same, known⟩ := made
  have same : d.control = c.control := same
  have written (state : PortState) : { d with recommendedState := state }.control =
      { c.control with recommendedState := state } := by
    rw [← same]
    rfl
  have ds : d.defaultDS = c.control.defaultDS := congrArg Control.defaultDS same
  dsimp only
  split
  · rw [written]
    exact .recommend .listening decided (.inl rfl)
  · next free =>
      rw [written]
      refine .recommend recommended decided ?_
      rw [ds] at free
      rcases known with rfl | rfl | rfl | rfl
      · exact .inl rfl
      · exact .inr (.inl rfl)
      · exact .inr (.inr ⟨.inl rfl, by simpa using free⟩)
      · exact .inr (.inr ⟨.inr rfl, by simpa using free⟩)

theorem decideState_control : Decide c.control (decideState c).control := by
  rw [decideState_eq]
  split
  · next made => exact recommend_control c ⟨made.1, made.2.1, made.2.2.1⟩
  · exact .none

/-- The case of PRE_MASTER falls through. -/
theorem Control.toState_preMaster (a : Control) : a.toState .preMaster = a.toState .master := by
  unfold Control.toState leave
  cases a.portState <;> rfl

theorem masterClockSelected_control :
    (masterClockSelected c).control = c.control ∨
      (masterClockSelected c).control = c.control.toState .slave := by
  unfold masterClockSelected
  split
  · exact .inr (toState_control _ _)
  · exact .inl rfl

theorem consumeFault_control :
    (consumeFault c).control = c.control ∨
      (consumeFault c).control = c.control.toState .uncalibrated := by
  unfold consumeFault
  split
  · exact .inr (toState_control _ _)
  · exact .inl rfl

theorem consumeChanged_control :
    (consumeChanged c).control = c.control ∨
      (consumeChanged c).control = c.control.toState .uncalibrated := by
  unfold consumeChanged
  split
  · exact .inr (toState_control _ _)
  · exact .inl rfl

theorem followRecommendation_control : Follow c.control (followRecommendation c).control := by
  have stay (d : PtpClock) (same : d.control = c.control)
      (reached : c.portDS.portState ≠ .faulty) : Follow c.control d.control := by
    rw [same]
    exact .stay (fun faulty => absurd faulty reached)
  unfold followRecommendation
  cases recommended : c.recommendedState with
  | master =>
      cases state : c.portDS.portState with
      | preMaster =>
          have asked : (timerExpired c .qualificationTimeout).2.control = c.control :=
            timerExpired_control c ⟨nofun, nofun, nofun⟩
          dsimp only
          split
          · next eq =>
              rw [eq] at asked
              rw [toState_control, asked]
              exact .master recommended (by rw [show c.control.portState = _ from state]; nofun)
          · next eq =>
              rw [eq] at asked
              exact stay _ asked (by rw [state]; nofun)
      | master => exact stay c rfl (by rw [state]; nofun)
      | initializing | faulty | disabled | listening | passive | uncalibrated | slave =>
          rw [toState_control, Control.toState_preMaster]
          exact .master recommended (by rw [show c.control.portState = _ from state]; nofun)
  | passive =>
      dsimp only
      split
      · next other =>
          rw [toState_control]
          exact .passive recommended other
      · next here =>
          exact stay c rfl (by rw [not_not.mp here]; nofun)
  | slave =>
      cases state : c.portDS.portState with
      | uncalibrated =>
          rcases masterClockSelected_control c with same | moved
          · exact stay _ same (by rw [state]; nofun)
          · rw [clearChanged_control, moved]
            exact .selected recommended state
      | slave =>
          dsimp only
          rcases consumeFault_control c with same | moved
          · rcases consumeChanged_control (consumeFault c) with same' | moved'
            · exact stay _ (same'.trans same) (by rw [state]; nofun)
            · rw [moved', same]
              exact .uncalibrated recommended (by rw [show c.control.portState = _ from state]; nofun)
          · rcases consumeChanged_control (consumeFault c) with same' | moved'
            · rw [same', moved]
              exact .uncalibrated recommended (by rw [show c.control.portState = _ from state]; nofun)
            · rw [moved', moved]
              exact .twice recommended state
      | initializing | faulty | disabled | listening | passive | preMaster | master =>
          rw [toState_control]
          exact .uncalibrated recommended (by rw [show c.control.portState = _ from state]; nofun)
  | listening =>
      dsimp only
      split
      · next other =>
          rw [toState_control]
          exact .listening recommended other
      · next here =>
          exact stay c rfl (by rw [not_not.mp here]; nofun)
  | initializing | faulty | disabled | preMaster | uncalibrated =>
      refine .stay fun _ => ?_
      rw [show c.control.recommendedState = _ from recommended]
      exact ⟨nofun, nofun, nofun, nofun⟩

/-! ### The actions of the port state -/

/-- What the handling of a datagram depends on, apart from `Control`. -/
def SameArrival (c d : PtpClock) : Prop :=
  d.input.event = c.input.event ∧ d.input.general = c.input.general ∧
    d.input.fires = c.input.fires ∧ d.portDS = c.portDS ∧ d.defaultDS = c.defaultDS

variable {c} {d e : PtpClock}

theorem SameArrival.trans (first : SameArrival c d) (second : SameArrival d e) :
    SameArrival c e :=
  ⟨second.1.trans first.1, second.2.1.trans first.2.1, second.2.2.1.trans first.2.2.1,
    second.2.2.2.1.trans first.2.2.2.1, second.2.2.2.2.trans first.2.2.2.2⟩

theorem SameArrival.faults (same : SameArrival c d) : faults d = faults c := by
  obtain ⟨event, general, -, portDS, defaultDS⟩ := same
  unfold Ptp.faults isShort
  rw [event, general, portDS, defaultDS]

/-- A timer that is in the same state expires in the same way. -/
theorem SameArrival.expired (same : SameArrival c d) {index : PtpTimer}
    (timer : d.timers index = c.timers index) :
    (timerExpired d index).1 = (timerExpired c index).1 := by
  unfold timerExpired timerCallback PtpClock.setTimer
  rw [same.2.2.1, timer]
  dsimp only
  split
  · split
    · simp
    · simp [timer]
  · simp [timer]

theorem Issued.sameArrival {m : Message} (issued : Issued c m d) : SameArrival c d := by
  obtain ⟨sends, new, channel, rfl, -⟩ := issued
  exact ⟨rfl, rfl, rfl, rfl, rfl⟩

theorem Issued.timers {m : Message} (issued : Issued c m d) : d.timers = c.timers := by
  obtain ⟨sends, new, channel, rfl, -⟩ := issued
  rfl

variable (c)

theorem timerExpired_sameArrival (index : PtpTimer) :
    SameArrival c (timerExpired c index).2 := by
  obtain ⟨timers, eq, -⟩ := timerExpired_cases c index
  rw [eq]
  exact ⟨rfl, rfl, rfl, rfl, rfl⟩

theorem issueSync_sameArrival : SameArrival c (issueSync c) ∧ (issueSync c).timers = c.timers := by
  obtain ⟨d, m, issued, type, eq | ⟨time, followed⟩⟩ := issueSync_cases c
  · rw [eq]
    exact ⟨issued.sameArrival, issued.timers⟩
  · exact ⟨SameArrival.trans (d := { d with sentSyncSequenceId := d.sentSyncSequenceId + 1 })
      issued.sameArrival followed.sameArrival, followed.timers.trans issued.timers⟩

/-- What the Sync interval timer does. -/
theorem syncTimeout_cases :
    SameArrival c (syncTimeout c) ∧
      (syncTimeout c).timers .announceInterval = c.timers .announceInterval ∧
      ∃ sent, (syncTimeout c).control = { c.control with
        sync := c.control.sync && !(timerExpired c .syncInterval).1
        mastered := sent ++ c.control.mastered } := by
  have asked := askSync_control c
  have arrival := timerExpired_sameArrival c .syncInterval
  obtain ⟨timers, eq, -, others, -⟩ := timerExpired_cases c .syncInterval
  have kept : (timerExpired c .syncInterval).2.timers .announceInterval =
      c.timers .announceInterval := by
    rw [eq]
    exact others _ nofun
  unfold syncTimeout
  generalize timerExpired c .syncInterval = result at *
  obtain ⟨due, d⟩ := result
  cases due with
  | true =>
      obtain ⟨same, timers⟩ := issueSync_sameArrival d
      obtain ⟨sent, control⟩ := issueSync_control d
      refine ⟨arrival.trans same, (congrFun timers _).trans kept, sent, ?_⟩
      rw [control, asked]
  | false => exact ⟨arrival, kept, [], asked⟩

/-- What the Announce interval timer does. -/
theorem announceIntervalTimeout_cases :
    SameArrival c (announceIntervalTimeout c) ∧
      ∃ sent, (announceIntervalTimeout c).control = { c.control with
        announce := c.control.announce && !(timerExpired c .announceInterval).1
        mastered := sent ++ c.control.mastered } := by
  have asked := askAnnounce_control c
  have arrival := timerExpired_sameArrival c .announceInterval
  unfold announceIntervalTimeout
  generalize timerExpired c .announceInterval = result at *
  obtain ⟨due, d⟩ := result
  cases due with
  | true =>
      obtain ⟨e, issued, eq⟩ := issueAnnounce_cases d
      obtain ⟨sent, control⟩ := issueAnnounce_control d
      refine ⟨arrival.trans ?_, sent, ?_⟩
      · dsimp only
        rw [eq]
        exact issued.sameArrival
      · rw [control, asked]
  | false => exact ⟨arrival, [], asked⟩

/-- The actions of a master. -/
theorem masterActions_control (state : c.control.portState = .master) :
    Act (faults c) ((timerExpired c .syncInterval).1 = true)
      ((timerExpired c .announceInterval).1 = true) c.control
      (issueDelayReqTimerExpired (handle (announceIntervalTimeout (syncTimeout c)))).control := by
  obtain ⟨arrival, timer, sent, first⟩ := syncTimeout_cases c
  obtain ⟨arrival', sent', second⟩ := announceIntervalTimeout_cases (syncTimeout c)
  have handled := handle_control (announceIntervalTimeout (syncTimeout c))
  rw [issueDelayReqTimerExpired_control]
  rw [(arrival.trans arrival').faults, second, first, arrival.expired timer] at handled
  have issued : Handle (faults c) (c.control.issue (timerExpired c .syncInterval).1
      (timerExpired c .announceInterval).1 (sent' ++ sent))
      (handle (announceIntervalTimeout (syncTimeout c))).control := by
    rw [Control.issue, List.append_assoc]
    exact handled
  exact .master state Iff.rfl Iff.rfl issued

@[simp] theorem clearForeign_control : (clearForeign c).control = c.control := rfl

@[simp] theorem recommendMaster_control :
    (recommendMaster c).control = { c.control with recommendedState := .master } := rfl

@[simp] theorem startBuffer_control : (startBuffer c).control = c.control := rfl

/-- The announce receipt timeout. -/
theorem announceTimeout_control {d : PtpClock} (live : c.control.receipt = true)
    (asked : d.control = { c.control with receipt := false })
    (state : c.control.portState = .listening ∨ c.control.portState = .uncalibrated ∨
      c.control.portState = .slave ∨ c.control.portState = .passive) (short sync announce : Prop) :
    Act short sync announce c.control (announceTimeout d).control := by
  have ds : d.defaultDS = c.control.defaultDS := congrArg Control.defaultDS asked
  have port : d.portDS.portState = c.control.portState := congrArg Control.portState asked
  unfold announceTimeout
  dsimp only
  split
  · next able =>
      have able : isSlaveOnly c.control.defaultDS = false := by simpa [clearForeign, ds] using able
      rw [toState_control, recommendMaster_control, clearForeign_control, asked]
      exact .promote live state able
  · next only =>
      have only : isSlaveOnly c.control.defaultDS = true := by simpa [clearForeign, ds] using only
      split
      · next other =>
          have other : c.control.portState ≠ .listening := by rwa [← port]
          rw [toState_control, clearForeign_control, asked]
          exact .relisten (state.resolve_left other) only
      · next listening =>
          have listening : c.control.portState = .listening := by
            rw [← port]
            exact not_not.mp listening
          rw [clearForeign_control, asked]
          exact .deaf listening only

/-- `_doInit` on `Control`. -/
theorem doInit_cases :
    (∃ d, doInit c = (false, d) ∧ d.control = c.control) ∨
      ∃ d ds, doInit c = (true, d) ∧ Control.IsInitial ds c.control.rtOpts ∧
        d.control = c.control.init ds := by
  unfold doInit
  split
  · refine .inr ⟨_, (initData { c with portUuidField := c.input.hwaddr }).defaultDS, rfl,
      ⟨rfl, rfl⟩, ?_⟩
    rw [startBuffer_control, m1_control, initClock_control]
    rfl
  · exact .inl ⟨c, rfl, rfl⟩

theorem portActions_control :
    Act (faults c) ((timerExpired c .syncInterval).1 = true)
      ((timerExpired c .announceInterval).1 = true) c.control (portActions c).control := by
  by_cases state : c.portDS.portState = .listening ∨ c.portDS.portState = .uncalibrated ∨
      c.portDS.portState = .slave ∨ c.portDS.portState = .passive
  · rw [portActions_waiting state]
    have asked := askReceipt_control c
    have arrival := timerExpired_sameArrival c .announceReceipt
    obtain ⟨-, -, live, -⟩ := timerExpired_cases c .announceReceipt
    generalize timerExpired c .announceReceipt = result at asked arrival live ⊢
    obtain ⟨due, d⟩ := result
    cases due with
    | true =>
        rw [if_pos rfl]
        refine announceTimeout_control c (live rfl) ?_ state _ _ _
        rw [asked, Bool.not_true, Bool.and_false]
    | false =>
        have asked : d.control = c.control := by
          rw [asked, Bool.not_false, Bool.and_true]
        have handled := handle_control d
        rw [arrival.faults, asked] at handled
        rw [if_neg Bool.false_ne_true]
        refine .wait ?_ handled
        rw [show c.control.portState = c.portDS.portState from rfl]
        rcases state with held | held | held | held <;> rw [held] <;> decide
  unfold portActions
  cases held : c.portDS.portState with
  | initializing =>
      rcases doInit_cases c with ⟨d, failed, same⟩ | ⟨d, ds, done, initial, control⟩
      · rw [failed]
        dsimp only
        rw [toState_control, same]
        exact .initFails held
      · rw [done]
        dsimp only
        rw [toState_control, control]
        exact .init held initial
  | faulty =>
      rw [toState_control]
      exact .clear held
  | disabled =>
      refine .wait ?_ (handle_control c)
      rw [show c.control.portState = _ from held]
      decide
  | listening => exact absurd (.inl held) state
  | uncalibrated => exact absurd (.inr (.inl held)) state
  | slave => exact absurd (.inr (.inr (.inl held))) state
  | passive => exact absurd (.inr (.inr (.inr held))) state
  | master => exact masterActions_control c held
  | preMaster => exact .none held

end LwipExt.Ptp
