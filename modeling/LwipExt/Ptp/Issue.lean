import LwipExt.Ptp.Bmc
import LwipExt.Ptp.Servo
import LwipExt.Ptp.Timer

/-!
Changes of the port state and the messages the daemon issues (the first and the last part of
`ptpProtocol.c`).
-/

namespace LwipExt.Ptp

/-! ### Changes of state -/

/-- The start of a timer after a random part of an interval. -/
def timerStartRand (c : PtpClock) (index : PtpTimer) (randMax : UInt32) : PtpClock :=
  let (interval, c) := getRand c randMax
  timerStart c index interval

/-- The start of `ANNOUNCE_RECEIPT_TIMER`. -/
def startAnnounceReceipt (c : PtpClock) : PtpClock :=
  timerStart c .announceReceipt
    (c.portDS.announceReceiptTimeout.toUInt32 * pow2ms c.portDS.logAnnounceInterval.toInt)

/-- The start of `DELAYREQ_INTERVAL_TIMER`. -/
def startDelayReq (c : PtpClock) : PtpClock :=
  timerStartRand c .delayReqInterval (pow2ms (c.portDS.logMinDelayReqInterval.toInt + 1))

/-- The start of `PDELAYREQ_INTERVAL_TIMER`. -/
def startPDelayReq (c : PtpClock) : PtpClock :=
  timerStartRand c .pdelayReqInterval (pow2ms (c.portDS.logMinPdelayReqInterval.toInt + 1))

/-- A new value of `portState`. -/
def PtpClock.setPortState (c : PtpClock) (state : PortState) : PtpClock :=
  { c with portDS := { c.portDS with portState := state } }

/-- The leaving tasks of `toState`. -/
def leaveState (c : PtpClock) (state : PortState) : PtpClock :=
  match c.portDS.portState with
  | .master =>
      let c := timerStop (timerStop (initClock c) .syncInterval) .announceInterval
      timerStop c .pdelayReqInterval
  | .uncalibrated | .slave =>
      if state = .uncalibrated ∨ state = .slave then c
      else
        let c := timerStop c .announceReceipt
        let c :=
          match c.portDS.delayMechanism with
          | .e2e => timerStop c .delayReqInterval
          | .p2p => timerStop c .pdelayReqInterval
          | .delayDisabled => c
        initClock c
  | .passive => timerStop (timerStop (initClock c) .pdelayReqInterval) .announceReceipt
  | .listening => timerStop (initClock c) .announceReceipt
  | .preMaster => timerStop (initClock c) .qualificationTimeout
  | .initializing | .faulty | .disabled => c

/-- The entering tasks of `toState`. -/
def enterState (c : PtpClock) (state : PortState) : PtpClock :=
  match state with
  | .initializing => { c.setPortState .initializing with recommendedState := .initializing }
  | .faulty => c.setPortState .faulty
  | .disabled => c.setPortState .disabled
  | .listening =>
      { (startAnnounceReceipt c).setPortState .listening with recommendedState := .listening }
  -- The case of PRE_MASTER is commented out and falls through.
  | .preMaster | .master =>
      let c := { c with
        portDS := { c.portDS with logMinDelayReqInterval := defaultDelayReqInterval } }
      let c := timerStart c .syncInterval (pow2ms c.portDS.logSyncInterval.toInt)
      let c := timerStart c .announceInterval (pow2ms c.portDS.logAnnounceInterval.toInt)
      let c :=
        if c.portDS.delayMechanism = .p2p then
          timerStartRand c .pdelayReqInterval
            (pow2ms c.portDS.logMinPdelayReqInterval.toInt + 1)
        else c
      c.setPortState .master
  | .passive =>
      let c := startAnnounceReceipt c
      let c := if c.portDS.delayMechanism = .p2p then startPDelayReq c else c
      c.setPortState .passive
  | .uncalibrated =>
      let c := startAnnounceReceipt c
      let c :=
        match c.portDS.delayMechanism with
        | .e2e => startDelayReq c
        | .p2p => startPDelayReq c
        | .delayDisabled => c
      c.setPortState .uncalibrated
  | .slave => c.setPortState .slave

/-- `toState`. -/
def toState (c : PtpClock) (state : PortState) : PtpClock :=
  let entered := enterState (leaveState c state) state
  { entered with moves := (c.portDS.portState, entered.portDS.portState) :: entered.moves }

/-! ### Sending -/

/-- `_netSend` of the first `length` bytes of `msgObuf`: the length, whether or not it was sent,
and the time that it leaves in `time`. -/
def netSend (c : PtpClock) (channel : Channel) (length : Nat) (time : TimeInternal) :
    Nat × TimeInternal × PtpClock :=
  let rest := { c with input := { c.input with sends := c.input.sends.tail } }
  match c.input.sends.headD none with
  | none => (length, time, rest)
  | some stamp =>
      let datagram : PtpSent := ⟨channel, bufRead c.msgObuf 0 length⟩
      (length, stamp, { rest with sent := datagram :: rest.sent })

/-- `__issuePDelayReq`. -/
def issuePDelayReq (c : PtpClock) : PtpClock :=
  let (internalTime, c) := getTime c
  let originTimestamp := fromInternalTime internalTime c.input.timestamp
  let c := { c with msgObuf := msgPackPDelayReq c c.msgObuf originTimestamp }
  let (length, internalTime, c) := netSend c .peerEvent MsgType.pdelayReq.length internalTime
  if length = 0 then toState c .faulty
  else
    let egress := addTime internalTime c.outboundLatency
    let c := { c with sentPDelayReqSequenceId := c.sentPDelayReqSequenceId + 1 }
    if internalTime.seconds ≠ 0 then
      { c with
        pdelayT1 := egress
        notes := .request .p2p (c.sentPDelayReqSequenceId - 1) (some egress) :: c.notes }
    else { c with notes := .request .p2p (c.sentPDelayReqSequenceId - 1) none :: c.notes }

/-- `__issueDelayReq`. -/
def issueDelayReq (c : PtpClock) : PtpClock :=
  let (internalTime, c) := getTime c
  let originTimestamp := fromInternalTime internalTime c.input.timestamp
  let c := { c with msgObuf := msgPackDelayReq c c.msgObuf originTimestamp }
  let (length, internalTime, c) := netSend c .event MsgType.delayReq.length internalTime
  if length = 0 then toState c .faulty
  else
    let egress := addTime internalTime c.outboundLatency
    let c := { c with sentDelayReqSequenceId := c.sentDelayReqSequenceId + 1 }
    if internalTime.seconds ≠ 0 then
      { c with
        timestampDelayReqSend := egress
        notes := .request .e2e (c.sentDelayReqSequenceId - 1) (some egress) :: c.notes }
    else { c with notes := .request .e2e (c.sentDelayReqSequenceId - 1) none :: c.notes }

/-- `_issueDelayReqTimerExpired`. -/
def issueDelayReqTimerExpired (c : PtpClock) : PtpClock :=
  match c.portDS.delayMechanism with
  | .e2e =>
      if c.portDS.portState ≠ .slave then c
      else
        match timerExpired c .delayReqInterval with
        | (true, c) => issueDelayReq (startDelayReq c)
        | (false, c) => c
  | .p2p =>
      match timerExpired c .pdelayReqInterval with
      | (true, c) => issuePDelayReq (startPDelayReq c)
      | (false, c) => c
  | .delayDisabled => c

/-- `_issueAnnounce`. -/
def issueAnnounce (c : PtpClock) : PtpClock :=
  let c := { c with msgObuf := msgPackAnnounce c c.msgObuf }
  let (length, _, c) := netSend c .general MsgType.announce.length {}
  if length = 0 then toState c .faulty
  else { c with sentAnnounceSequenceId := c.sentAnnounceSequenceId + 1 }

/-- `_issueFollowup`. -/
def issueFollowup (c : PtpClock) (time : TimeInternal) : PtpClock :=
  let preciseOriginTimestamp := fromInternalTime time c.input.timestamp
  let c := { c with msgObuf := msgPackFollowUp c c.msgObuf preciseOriginTimestamp }
  let (length, _, c) := netSend c .general MsgType.followUp.length {}
  if length = 0 then toState c .faulty else c

/-- `_issueSync`. -/
def issueSync (c : PtpClock) : PtpClock :=
  let (internalTime, c) := getTime c
  let originTimestamp := fromInternalTime internalTime c.input.timestamp
  let c := { c with msgObuf := msgPackSync c c.msgObuf originTimestamp }
  let (length, internalTime, c) := netSend c .event MsgType.sync.length internalTime
  if length = 0 then toState c .faulty
  else
    let c := { c with sentSyncSequenceId := c.sentSyncSequenceId + 1 }
    if internalTime.seconds ≠ 0 ∧ c.defaultDS.twoStepFlag then
      issueFollowup c (addTime internalTime c.outboundLatency)
    else c

/-- `_issuePDelayResp`: what it leaves in `time`, and the clock. -/
def issuePDelayResp (c : PtpClock) (time : TimeInternal) (pDelayReqHeader : MsgHeader) :
    TimeInternal × PtpClock :=
  let requestReceiptTimestamp := fromInternalTime time c.input.timestamp
  let c := { c with msgObuf := msgPackPDelayResp c.msgObuf pDelayReqHeader requestReceiptTimestamp }
  let (length, time, c) := netSend c .peerEvent MsgType.pdelayResp.length time
  if length = 0 then (time, toState c .faulty)
  else if time.seconds ≠ 0 then (addTime time c.outboundLatency, c)
  else (time, c)

/-- `_issueDelayResp`, which sends `PDELAY_RESP_LENGTH` bytes. -/
def issueDelayResp (c : PtpClock) (time : TimeInternal) (delayReqHeader : MsgHeader) : PtpClock :=
  let requestReceiptTimestamp := fromInternalTime time c.input.timestamp
  let c := { c with msgObuf := msgPackDelayResp c c.msgObuf delayReqHeader requestReceiptTimestamp }
  let (length, _, c) := netSend c .general MsgType.pdelayResp.length {}
  if length = 0 then toState c .faulty else c

/-- `_issuePDelayRespFollowUp`. -/
def issuePDelayRespFollowUp (c : PtpClock) (time : TimeInternal) (pDelayReqHeader : MsgHeader) :
    PtpClock :=
  let responseOriginTimestamp := fromInternalTime time c.input.timestamp
  let c := { c with
    msgObuf := msgPackPDelayRespFollowUp c.msgObuf pDelayReqHeader responseOriginTimestamp }
  let (length, _, c) := netSend c .peerGeneral MsgType.pdelayRespFollowUp.length {}
  if length = 0 then toState c .faulty else c

end LwipExt.Ptp
