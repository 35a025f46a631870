import LwipExt.Ptp.Issue
import LwipExt.Lib.Run

/-!
The handlers of messages, the state machine, and its runs (`ptpProtocol.c`, `ptpMain.c`).

A handler takes what `_handle` leaves in `msgTmpHeader`, `msgIbuf` and `time`. The handlers of
management and signaling messages are empty.
-/

namespace LwipExt.Ptp

/-! ### Handlers -/

/-- A record of what the daemon does. -/
def noted (c : PtpClock) (note : Note) : PtpClock := { c with notes := note :: c.notes }

/-- `STATE_DECISION_EVENT` is set. -/
def setStateDecision (c : PtpClock) : PtpClock :=
  { c with events := { c.events with stateDecisionEvent := true } }

/-- `__handleAnnounce`. -/
def handleAnnounce (c : PtpClock) (header : MsgHeader) (payload : Bytes) (isFromSelf : Bool) :
    PtpClock :=
  if payload.length < MsgType.announce.length then toState c .faulty
  else if isFromSelf then c
  else
    let announce := msgUnpackAnnounce payload
    match c.portDS.portState with
    | .initializing | .faulty | .disabled => c
    | .uncalibrated | .slave =>
        let c := setStateDecision c
        if isSamePortIdentity c.parentDS.parentPortIdentity header.sourcePortIdentity then
          startAnnounceReceipt (s1 c header announce)
        else addForeign c header announce
    | .passive => addForeign (setStateDecision (startAnnounceReceipt c)) header announce
    | .master | .preMaster | .listening => addForeign (setStateDecision c) header announce

/-- `__handleSync`. -/
def handleSync (c : PtpClock) (header : MsgHeader) (payload : Bytes) (time : TimeInternal)
    (isFromSelf : Bool) : PtpClock :=
  if payload.length < MsgType.sync.length then toState c .faulty
  else
    match c.portDS.portState with
    | .uncalibrated | .slave =>
        if isFromSelf then c
        else if isSamePortIdentity c.parentDS.parentPortIdentity header.sourcePortIdentity then
          let c := { c with timestampSyncRecieve := time }
          let correctionField := scaledNanosecondsToInternalTime header.correctionfield
          if getFlag header.flagField0 flag0TwoStep then
            { c with
              waitingForFollowUp := true
              recvSyncSequenceId := header.sequenceId
              correctionFieldSync := correctionField }
          else
            let c := { c with waitingForFollowUp := false }
            let originTimestamp := toInternalTime c.input.internalTime (msgUnpackSync payload)
            let c := updateOffset c c.timestampSyncRecieve originTimestamp correctionField
            issueDelayReqTimerExpired (updateClock c)
        else c
    | .passive => issueDelayReqTimerExpired c
    | .initializing | .faulty | .disabled | .master | .listening | .preMaster => c

/-- `__handleFollowUp`. -/
def handleFollowUp (c : PtpClock) (header : MsgHeader) (payload : Bytes) (isFromSelf : Bool) :
    PtpClock :=
  if payload.length < MsgType.followUp.length then toState c .faulty
  else if isFromSelf then c
  else
    match c.portDS.portState with
    | .uncalibrated | .slave =>
        if !c.waitingForFollowUp then c
        else if !isSamePortIdentity c.parentDS.parentPortIdentity header.sourcePortIdentity then c
        else if c.recvSyncSequenceId ≠ header.sequenceId then c
        else
          let c := { c with waitingForFollowUp := false }
          let preciseOriginTimestamp :=
            toInternalTime c.input.internalTime (msgUnpackSync payload)
          let correctionField :=
            addTime (scaledNanosecondsToInternalTime header.correctionfield) c.correctionFieldSync
          let c := updateOffset c c.timestampSyncRecieve preciseOriginTimestamp correctionField
          issueDelayReqTimerExpired (updateClock c)
    | .passive => issueDelayReqTimerExpired c
    | .initializing | .faulty | .disabled | .listening | .master | .preMaster => c

/-- `__handleDelayReq`. -/
def handleDelayReq (c : PtpClock) (header : MsgHeader) (payload : Bytes) (time : TimeInternal) :
    PtpClock :=
  match c.portDS.delayMechanism with
  | .e2e =>
      if payload.length < MsgType.delayReq.length then toState c .faulty
      else if c.portDS.portState = .master then issueDelayResp c time header
      else c
  | .p2p | .delayDisabled => c

/-- `__handleDelayResp`. -/
def handleDelayResp (c : PtpClock) (header : MsgHeader) (payload : Bytes) : PtpClock :=
  match c.portDS.delayMechanism with
  | .e2e =>
      if payload.length < MsgType.delayResp.length then toState c .faulty
      else if c.portDS.portState = .uncalibrated ∨ c.portDS.portState = .slave then
        let resp := msgUnpackDelayResp payload
        let isFromCurrentParent :=
          isSamePortIdentity c.parentDS.parentPortIdentity header.sourcePortIdentity
        let isCurrentRequest :=
          isSamePortIdentity c.portDS.portIdentity resp.requestingPortIdentity
        if c.sentDelayReqSequenceId.toInt - 1 = header.sequenceId.toInt ∧ isCurrentRequest ∧
            isFromCurrentParent then
          let c := noted c (.delayResp header payload)
          let c := { c with
            timestampDelayReqRecieve := toInternalTime c.timestampDelayReqRecieve resp.timestamp }
          let correctionField := scaledNanosecondsToInternalTime header.correctionfield
          let c := updateDelay c c.timestampDelayReqSend c.timestampDelayReqRecieve correctionField
          { c with portDS := { c.portDS with logMinDelayReqInterval := header.logMessageInterval } }
        else c
      else c
  | .p2p | .delayDisabled => c

/-- `__handlePDelayReq`. -/
def handlePDelayReq (c : PtpClock) (header : MsgHeader) (payload : Bytes) (time : TimeInternal)
    (isFromSelf : Bool) : PtpClock :=
  match c.portDS.delayMechanism with
  | .p2p =>
      if payload.length < MsgType.pdelayReq.length then toState c .faulty
      else
        match c.portDS.portState with
        | .passive | .slave | .master =>
            if isFromSelf then c
            else
              let (time, c) := issuePDelayResp c time header
              if time.seconds ≠ 0 ∧ getFlag header.flagField0 flag0TwoStep then
                issuePDelayRespFollowUp c time header
              else c
        | .initializing | .faulty | .disabled | .uncalibrated | .listening | .preMaster => c
  | .e2e | .delayDisabled => c

/-- `__handlePDelayResp`. -/
def handlePDelayResp (c : PtpClock) (header : MsgHeader) (payload : Bytes) (time : TimeInternal)
    (isFromSelf : Bool) : PtpClock :=
  match c.portDS.delayMechanism with
  | .p2p =>
      if payload.length < MsgType.pdelayResp.length then toState c .faulty
      else
        match c.portDS.portState with
        | .master | .slave =>
            if isFromSelf then c
            else
              let presp := msgUnpackDelayResp payload
              let isCurrentRequest :=
                isSamePortIdentity c.portDS.portIdentity presp.requestingPortIdentity
              if c.sentPDelayReqSequenceId.toInt - 1 = header.sequenceId.toInt ∧
                  isCurrentRequest then
                let c := noted c (.pdelayResp header payload time)
                let correctionField := scaledNanosecondsToInternalTime header.correctionfield
                if getFlag header.flagField0 flag0TwoStep then
                  { c with
                    waitingForPDelayRespFollowUp := true
                    pdelayT4 := time
                    pdelayT2 := toInternalTime c.input.internalTime presp.timestamp
                    correctionFieldPDelayResp := correctionField }
                else
                  let c := { c with waitingForPDelayRespFollowUp := false, pdelayT4 := time }
                  updatePeerDelay c correctionField false
              else c
        | .initializing | .faulty | .disabled | .uncalibrated | .listening | .passive
        | .preMaster => c
  | .e2e | .delayDisabled => c

/-- `__handlePDelayRespFollowUp`. -/
def handlePDelayRespFollowUp (c : PtpClock) (header : MsgHeader) (payload : Bytes) : PtpClock :=
  match c.portDS.delayMechanism with
  | .p2p =>
      if payload.length < MsgType.pdelayRespFollowUp.length then toState c .faulty
      else
        match c.portDS.portState with
        | .slave | .master =>
            if !c.waitingForPDelayRespFollowUp then c
            else if header.sequenceId.toInt = c.sentPDelayReqSequenceId.toInt - 1 then
              let c := noted c (.pdelayRespFollowUp header payload)
              let prespfollow := msgUnpackDelayResp payload
              let c := { c with
                pdelayT3 := toInternalTime c.input.internalTime prespfollow.timestamp }
              let correctionField :=
                addTime (scaledNanosecondsToInternalTime header.correctionfield)
                  c.correctionFieldPDelayResp
              let c := updatePeerDelay c correctionField true
              { c with waitingForPDelayRespFollowUp := false }
            else c
        | .initializing | .faulty | .disabled | .uncalibrated | .listening | .passive
        | .preMaster => c
  | .e2e | .delayDisabled => c

/-- The switch of `_handle` on the type of a message. -/
def dispatch (c : PtpClock) (header : MsgHeader) (payload : Bytes) (time : TimeInternal)
    (isFromSelf : Bool) : PtpClock :=
  match MsgType.ofCode header.messageType with
  | some .announce => handleAnnounce c header payload isFromSelf
  | some .sync => handleSync c header payload time isFromSelf
  | some .followUp => handleFollowUp c header payload isFromSelf
  | some .delayReq => handleDelayReq c header payload time
  | some .pdelayReq => handlePDelayReq c header payload time isFromSelf
  | some .delayResp => handleDelayResp c header payload
  | some .pdelayResp => handlePDelayResp c header payload time isFromSelf
  | some .pdelayRespFollowUp => handlePDelayRespFollowUp c header payload
  | some .management | some .signaling | none => c

/-- The time of a datagram, less the inbound latency unless it comes from the clock itself. -/
def receiveTime (c : PtpClock) (time : TimeInternal) (isFromSelf : Bool) : TimeInternal :=
  if !isFromSelf && time.seconds > 0 then subTime time c.inboundLatency else time

/-- `_handle`. `messageActivity` only tells it whether to ask `netSelect` first, which answers
no when there is nothing to receive. -/
def handle (c : PtpClock) : PtpClock :=
  match c.input.event.or c.input.general with
  | none => c
  | some packet =>
      if packet.payload.length < headerLength then toState c .faulty
      else
        let header := msgUnpackHeader packet.payload
        if header.versionPTP ≠ c.portDS.versionNumber then c
        else if header.domainNumber ≠ c.defaultDS.domainNumber then c
        else
          let isFromSelf := isSamePortIdentity c.portDS.portIdentity header.sourcePortIdentity
          let time := receiveTime c packet.time isFromSelf
          dispatch (noted c (.received header packet.payload time)) header packet.payload time
            isFromSelf

/-! ### The state machine -/

/-- The header of all messages goes into the buffer. -/
def startBuffer (c : PtpClock) : PtpClock := { c with msgObuf := msgPackHeader c c.msgObuf }

/-- `_doInit`. -/
def doInit (c : PtpClock) : Bool × PtpClock :=
  if c.input.netInit then
    let c := initData { c with portUuidField := c.input.hwaddr }
    (true, startBuffer (m1 (initClock (initTimer c))))
  else (false, c)

/-- A clock that may only be a slave. -/
def isSlaveOnly (ds : DefaultDS) : Bool := ds.slaveOnly || ds.clockQuality.clockClass = 255

/-- The first switch of `ptpStateMachine`: the state decision. -/
def decideState (c : PtpClock) : PtpClock :=
  match c.portDS.portState with
  | .initializing | .faulty | .disabled => c
  | .listening | .uncalibrated | .slave | .preMaster | .master | .passive =>
      if c.events.stateDecisionEvent then
        let c := { c with events := { c.events with stateDecisionEvent := false } }
        let (recommended, c) := bmc c
        let c := { c with recommendedState := recommended }
        if (recommended = .master ∨ recommended = .passive) ∧ isSlaveOnly c.defaultDS then
          { c with recommendedState := .listening }
        else c
      else c

/-- `MASTER_CLOCK_SELECTED` is consumed. -/
def masterClockSelected (c : PtpClock) : PtpClock :=
  if c.events.masterClockSelected then
    toState { c with events := { c.events with masterClockSelected := false } } .slave
  else c

/-- `SYNCHRONIZATION_FAULT` is consumed. -/
def consumeFault (c : PtpClock) : PtpClock :=
  if c.events.synchronizationFault then
    toState { c with events := { c.events with synchronizationFault := false } } .uncalibrated
  else c

/-- `MASTER_CLOCK_CHANGED` is consumed in state UNCALIBRATED. -/
def clearChanged (c : PtpClock) : PtpClock :=
  { c with events := { c.events with masterClockChanged := false } }

/-- `MASTER_CLOCK_CHANGED` is consumed in state SLAVE. -/
def consumeChanged (c : PtpClock) : PtpClock :=
  if c.events.masterClockChanged then toState (clearChanged c) .uncalibrated else c

/-- The second switch: towards the recommended state. -/
def followRecommendation (c : PtpClock) : PtpClock :=
  match c.recommendedState with
  | .master =>
      match c.portDS.portState with
      | .preMaster =>
          match timerExpired c .qualificationTimeout with
          | (true, c) => toState c .master
          | (false, c) => c
      | .master => c
      | _ => toState c .preMaster
  | .passive => if c.portDS.portState ≠ .passive then toState c .passive else c
  | .slave =>
      match c.portDS.portState with
      | .uncalibrated => clearChanged (masterClockSelected c)
      | .slave => consumeChanged (consumeFault c)
      | _ => toState c .uncalibrated
  | .listening => if c.portDS.portState ≠ .listening then toState c .listening else c
  | .initializing | .faulty | .disabled | .preMaster | .uncalibrated => c

/-- The foreign masters are forgotten. -/
def clearForeign (c : PtpClock) : PtpClock :=
  { c with foreignMasterDS := { c.foreignMasterDS with count := 0, i := 0 } }

/-- The recommendation that follows the loss of the master. -/
def recommendMaster (c : PtpClock) : PtpClock := { m1 c with recommendedState := .master }

/-- The announce receipt timeout. -/
def announceTimeout (c : PtpClock) : PtpClock :=
  let c := clearForeign c
  if !isSlaveOnly c.defaultDS then toState (recommendMaster c) .master
  else if c.portDS.portState ≠ .listening then toState c .listening
  else c

/-- The Sync interval timer in state MASTER. -/
def syncTimeout (c : PtpClock) : PtpClock :=
  match timerExpired c .syncInterval with
  | (true, c) => issueSync c
  | (false, c) => c

/-- The Announce interval timer in state MASTER. -/
def announceIntervalTimeout (c : PtpClock) : PtpClock :=
  match timerExpired c .announceInterval with
  | (true, c) => issueAnnounce c
  | (false, c) => c

/-- The third switch: the actions of the port state. -/
def portActions (c : PtpClock) : PtpClock :=
  match c.portDS.portState with
  | .initializing =>
      match doInit c with
      | (true, c) => toState c .listening
      | (false, c) => toState c .faulty
  | .faulty => toState c .initializing
  | .disabled => handle c
  | .listening | .uncalibrated | .slave | .passive =>
      match timerExpired c .announceReceipt with
      | (true, c) => announceTimeout c
      | (false, c) => handle c
  | .master => issueDelayReqTimerExpired (handle (announceIntervalTimeout (syncTimeout c)))
  | .preMaster => c

/-- In a state that waits for Announce messages, the port handles a message unless the
announce receipt timeout has run out. -/
theorem portActions_waiting {c : PtpClock} (state : c.portDS.portState = .listening ∨
      c.portDS.portState = .uncalibrated ∨ c.portDS.portState = .slave ∨
      c.portDS.portState = .passive) :
    portActions c =
      if (timerExpired c .announceReceipt).1 = true then
        announceTimeout (timerExpired c .announceReceipt).2
      else handle (timerExpired c .announceReceipt).2 := by
  unfold portActions
  generalize timerExpired c .announceReceipt = result
  obtain ⟨due, d⟩ := result
  rcases state with held | held | held | held <;> rw [held] <;> cases due <;> rfl

/-- `ptpStateMachine`. -/
def ptpStateMachine (c : PtpClock) : PtpClock :=
  portActions (followRecommendation (decideState c))

/-! ### Runs -/

/-- `_ptpdTask` with its options and `_ptpdStartup`, up to the loop. -/
def ptpdStartup (rtOpts : RunTimeOpts) : PtpClock :=
  let rtOpts := { rtOpts with maxForeignRecords := defaultMaxForeignRecords }
  let rtOpts :=
    if rtOpts.slaveOnly then
      { rtOpts with clockQuality := { rtOpts.clockQuality with clockClass := 255 } }
    else rtOpts
  let rtOpts :=
    if rtOpts.servo.ap < 1 then { rtOpts with servo := { rtOpts.servo with ap := 1 } } else rtOpts
  let rtOpts :=
    if rtOpts.servo.ai < 1 then { rtOpts with servo := { rtOpts.servo with ai := 1 } } else rtOpts
  toState
    { rtOpts := rtOpts
      foreignMasterDS := { records := List.replicate defaultMaxForeignRecords default } }
    .initializing

/-- What happens to the daemon: a timer fires, or the loop of `_ptpdTask` goes round. -/
inductive PtpAction where
  | expire (timer : PtpTimer)
  | step (input : PtpInput)

/-- One action. -/
def ptpStep (c : PtpClock) : PtpAction → PtpClock
  | .expire timer => timerCallback c timer
  | .step input => ptpStateMachine { c with input := input }

/-- The clock after a run from the start. -/
abbrev ptpRun (rtOpts : RunTimeOpts) (actions : List PtpAction) : PtpClock :=
  Lib.run ptpStep (ptpdStartup rtOpts) actions

end LwipExt.Ptp
