import LwipExt.Ptp.Recall

/-!
Which message a step of the daemon handles.

`handling` finds the message that a step hands to the handler of its type, with the clock as it is
then; the rest of the step comes after the handler (`ptpStep_of_handling`).
-/

namespace LwipExt.Ptp

open Memory (Changes)

/-- A message that `_handle` hands to the handler of its type, and the clock it does so with. -/
structure Handling where
  clock : PtpClock
  header : MsgHeader
  payload : Bytes
  time : TimeInternal
  isFromSelf : Bool

namespace Handling

variable (h : Handling)

/-- The type of the message. -/
def type : Option MsgType := MsgType.ofCode h.header.messageType

/-- The clock after the handler. -/
def handled : PtpClock := dispatch h.clock h.header h.payload h.time h.isFromSelf

end Handling

/-- A message as `_handle` hands it on. -/
def arrival (c : PtpClock) (packet : Packet) : Handling :=
  let header := msgUnpackHeader packet.payload
  let isFromSelf := isSamePortIdentity c.portDS.portIdentity header.sourcePortIdentity
  let time := receiveTime c packet.time isFromSelf
  ⟨noted c (.received header packet.payload time), header, packet.payload, time, isFromSelf⟩

/-- The message that `_handle` hands on: it has a header, of this version and domain. -/
def received (c : PtpClock) : Option Handling :=
  match c.input.event.or c.input.general with
  | none => none
  | some packet =>
      if packet.payload.length < headerLength then none
      else
        let header := msgUnpackHeader packet.payload
        if header.versionPTP ≠ c.portDS.versionNumber then none
        else if header.domainNumber ≠ c.defaultDS.domainNumber then none
        else some (arrival c packet)

theorem received_of_event {c : PtpClock} {packet : Packet} (arrived : c.input.event = some packet)
    (long : headerLength ≤ packet.payload.length)
    (version : (msgUnpackHeader packet.payload).versionPTP = c.portDS.versionNumber)
    (domain : (msgUnpackHeader packet.payload).domainNumber = c.defaultDS.domainNumber) :
    received c = some (arrival c packet) := by
  unfold received
  rw [arrived]
  change (if packet.payload.length < headerLength then none else _) = _
  rw [if_neg (by omega), if_neg (not_not.mpr version), if_neg (not_not.mpr domain)]

/-- The clock with which the actions of the port state call `_handle`. -/
def heard (c : PtpClock) : Option PtpClock :=
  match c.portDS.portState with
  | .initializing | .faulty | .preMaster => none
  | .disabled => some c
  | .listening | .uncalibrated | .slave | .passive =>
      match timerExpired c .announceReceipt with
      | (true, _) => none
      | (false, c) => some c
  | .master => some (announceIntervalTimeout (syncTimeout c))

/-- The message that a step hands to the handler of its type. -/
def handling (c : PtpClock) : PtpAction → Option Handling
  | .expire _ => none
  | .step input => (heard (beforeActions c input)).bind received

theorem handle_of_received {c : PtpClock} {h : Handling} (found : received c = some h) :
    handle c = h.handled := by
  unfold received at found
  unfold handle
  generalize c.input.event.or c.input.general = arrived at found ⊢
  cases arrived with
  | none => cases found
  | some packet =>
      dsimp only at found ⊢
      split at found
      · cases found
      · next long =>
          rw [if_neg long]
          split at found
          · cases found
          · next version =>
              rw [if_neg version]
              split at found
              · cases found
              · next domain =>
                  rw [if_neg domain]
                  obtain rfl := Option.some.inj found
                  rfl

/-- What is not handed on is ignored, or too short. -/
theorem handle_of_not_received {c : PtpClock} (nothing : received c = none) :
    handle c = c ∨ handle c = toState c .faulty := by
  unfold received at nothing
  unfold handle
  generalize c.input.event.or c.input.general = arrived at nothing ⊢
  cases arrived with
  | none => exact .inl rfl
  | some packet =>
      dsimp only at nothing ⊢
      split at nothing
      · next short =>
          rw [if_pos short]
          exact .inr rfl
      · next long =>
          rw [if_neg long]
          split at nothing
          · next version =>
              rw [if_pos version]
              exact .inl rfl
          · next version =>
              rw [if_neg version]
              split at nothing
              · next domain =>
                  rw [if_pos domain]
                  exact .inl rfl
              · cases nothing

theorem heard_waiting {c : PtpClock} (state : c.portDS.portState = .listening ∨
      c.portDS.portState = .uncalibrated ∨ c.portDS.portState = .slave ∨
      c.portDS.portState = .passive) :
    heard c = if (timerExpired c .announceReceipt).1 = true then none
      else some (timerExpired c .announceReceipt).2 := by
  unfold heard
  generalize timerExpired c .announceReceipt = result
  obtain ⟨due, d⟩ := result
  rcases state with held | held | held | held <;> rw [held] <;> cases due <;> rfl

/-- The port actions are the handling of a message and, in state MASTER, the requests. -/
theorem portActions_of_heard {c d : PtpClock} (found : heard c = some d) :
    portActions c = handle d ∨ portActions c = issueDelayReqTimerExpired (handle d) := by
  by_cases waits : c.portDS.portState = .listening ∨ c.portDS.portState = .uncalibrated ∨
      c.portDS.portState = .slave ∨ c.portDS.portState = .passive
  · rw [heard_waiting waits] at found
    rw [portActions_waiting waits]
    split at found
    · cases found
    · next due =>
        obtain rfl := Option.some.inj found
        rw [if_neg due]
        exact .inl rfl
  · unfold heard at found
    unfold portActions
    cases state : c.portDS.portState with
    | initializing | faulty | preMaster =>
        rw [state] at found
        cases found
    | disabled =>
        rw [state] at found
        obtain rfl := Option.some.inj found
        exact .inl rfl
    | master =>
        rw [state] at found
        obtain rfl := Option.some.inj found
        exact .inr rfl
    | listening | uncalibrated | slave | passive =>
        rw [state] at waits
        simp at waits

/-- A step that handles a message ends with the handler of its type or, in state MASTER, with the
requests behind it. -/
theorem ptpStep_of_handling {c : PtpClock} {action : PtpAction} {h : Handling}
    (found : handling c action = some h) :
    ptpStep c action = h.handled ∨ ptpStep c action = issueDelayReqTimerExpired h.handled := by
  cases action with
  | expire timer => cases found
  | step input =>
      obtain ⟨d, hears, receives⟩ := Option.bind_eq_some_iff.mp found
      rw [← handle_of_received receives]
      exact portActions_of_heard hears

/-! ### What is kept until then -/

theorem received_memory {c : PtpClock} {h : Handling} (found : received c = some h) :
    h.clock.memory = c.memory.note (.received h.header h.payload h.time) := by
  unfold received at found
  split at found
  · cases found
  · dsimp only at found
    split at found
    · cases found
    split at found
    · cases found
    split at found
    · cases found
    · obtain rfl := Option.some.inj found
      rfl

theorem heard_memory {c d : PtpClock} (found : heard c = some d) : d.memory = c.memory := by
  by_cases waits : c.portDS.portState = .listening ∨ c.portDS.portState = .uncalibrated ∨
      c.portDS.portState = .slave ∨ c.portDS.portState = .passive
  · rw [heard_waiting waits] at found
    split at found
    · cases found
    · obtain rfl := Option.some.inj found
      exact timerExpired_memory c .announceReceipt
  · unfold heard at found
    cases state : c.portDS.portState with
    | initializing | faulty | preMaster =>
        rw [state] at found
        cases found
    | disabled =>
        rw [state] at found
        obtain rfl := Option.some.inj found
        rfl
    | master =>
        rw [state] at found
        obtain rfl := Option.some.inj found
        exact announceIntervalTimeout_memory.trans syncTimeout_memory
    | listening | uncalibrated | slave | passive =>
        rw [state] at waits
        simp at waits

/-- What is kept changes on the way to the handler as on any way. -/
theorem handling_memory {c : PtpClock} (safe : c.memory.Safe) {action : PtpAction} {h : Handling}
    (found : handling c action = some h) : Changes (switches c) c.memory h.clock.memory := by
  cases action with
  | expire timer => cases found
  | step input =>
      obtain ⟨d, hears, receives⟩ := Option.bind_eq_some_iff.mp found
      rw [received_memory receives, heard_memory hears]
      exact (beforeActions_memory safe input).tail (.receive _ _ _)

/-! ### Messages that give an offset -/

section Offsets

variable {c : PtpClock} {header : MsgHeader} {payload : Bytes} {time : TimeInternal}

/-- A two-step Sync that is accepted. -/
def rememberSync (c : PtpClock) (header : MsgHeader) (time : TimeInternal) : PtpClock :=
  { c with
    timestampSyncRecieve := time
    waitingForFollowUp := true
    recvSyncSequenceId := header.sequenceId
    correctionFieldSync := scaledNanosecondsToInternalTime header.correctionfield }

/-- A one-step Sync that is accepted. -/
def rememberSyncOneStep (c : PtpClock) (time : TimeInternal) : PtpClock :=
  { c with timestampSyncRecieve := time, waitingForFollowUp := false }

/-- What `__handleSync` does with a one-step Sync that it accepts, up to the requests. -/
def takeSync (c : PtpClock) (header : MsgHeader) (payload : Bytes) (time : TimeInternal) :
    PtpClock :=
  updateClock (updateOffset (rememberSyncOneStep c time) time
    (toInternalTime c.input.internalTime (msgUnpackSync payload))
    (scaledNanosecondsToInternalTime header.correctionfield))

/-- No Follow_Up is awaited. -/
def clearFollowUp (c : PtpClock) : PtpClock := { c with waitingForFollowUp := false }

/-- What `__handleFollowUp` does with a Follow_Up that it accepts, up to the requests. -/
def takeFollowUp (c : PtpClock) (header : MsgHeader) (payload : Bytes) : PtpClock :=
  updateClock (updateOffset (clearFollowUp c) c.timestampSyncRecieve
    (toInternalTime c.input.internalTime (msgUnpackSync payload))
    (addTime (scaledNanosecondsToInternalTime header.correctionfield) c.correctionFieldSync))

theorem handleSync_eq (whole : MsgType.sync.length ≤ payload.length)
    (state : synchronizes c.portDS.portState) :
    handleSync c header payload time false =
      if isSamePortIdentity c.parentDS.parentPortIdentity header.sourcePortIdentity then
        if getFlag header.flagField0 flag0TwoStep then rememberSync c header time
        else issueDelayReqTimerExpired (takeSync c header payload time)
      else c := by
  unfold handleSync
  rw [if_neg (Nat.not_lt_of_le whole)]
  rcases state with held | held
  · rw [held]
    rfl
  · rw [held]
    rfl

theorem handleFollowUp_eq (whole : MsgType.followUp.length ≤ payload.length)
    (state : synchronizes c.portDS.portState) :
    handleFollowUp c header payload false =
      if !c.waitingForFollowUp then c
      else if !isSamePortIdentity c.parentDS.parentPortIdentity header.sourcePortIdentity then c
      else if c.recvSyncSequenceId ≠ header.sequenceId then c
      else issueDelayReqTimerExpired (takeFollowUp c header payload) := by
  unfold handleFollowUp
  rw [if_neg (Nat.not_lt_of_le whole)]
  rcases state with held | held
  · rw [held]
    rfl
  · rw [held]
    rfl

end Offsets

/-! ### Responses that are accepted -/

section Responses

variable {c : PtpClock} {header : MsgHeader} {payload : Bytes} {time : TimeInternal}

/-- A DelayResp that is accepted, and the time in it. -/
def rememberDelayResp (c : PtpClock) (header : MsgHeader) (payload : Bytes) : PtpClock :=
  { noted c (.delayResp header payload) with
    timestampDelayReqRecieve :=
      toInternalTime c.timestampDelayReqRecieve (msgUnpackDelayResp payload).timestamp }

/-- The interval that the master asks for. -/
def setDelayReqInterval (c : PtpClock) (interval : Int8) : PtpClock :=
  { c with portDS := { c.portDS with logMinDelayReqInterval := interval } }

/-- What `__handleDelayResp` does with a response that it accepts. -/
def takeDelayResp (c : PtpClock) (header : MsgHeader) (payload : Bytes) : PtpClock :=
  let c := rememberDelayResp c header payload
  let correctionField := scaledNanosecondsToInternalTime header.correctionfield
  setDelayReqInterval
    (updateDelay c c.timestampDelayReqSend c.timestampDelayReqRecieve correctionField)
    header.logMessageInterval

/-- A two-step PDelayResp that is accepted. -/
def rememberPDelayResp (c : PtpClock) (header : MsgHeader) (payload : Bytes) (time : TimeInternal) :
    PtpClock :=
  { noted c (.pdelayResp header payload time) with
    waitingForPDelayRespFollowUp := true
    pdelayT4 := time
    pdelayT2 := toInternalTime c.input.internalTime (msgUnpackDelayResp payload).timestamp
    correctionFieldPDelayResp := scaledNanosecondsToInternalTime header.correctionfield }

/-- A one-step PDelayResp that is accepted. -/
def rememberOneStep (c : PtpClock) (header : MsgHeader) (payload : Bytes) (time : TimeInternal) :
    PtpClock :=
  { noted c (.pdelayResp header payload time) with
    waitingForPDelayRespFollowUp := false
    pdelayT4 := time }

/-- What `__handlePDelayResp` does with a response that it accepts. -/
def takePDelayResp (c : PtpClock) (header : MsgHeader) (payload : Bytes) (time : TimeInternal) :
    PtpClock :=
  if getFlag header.flagField0 flag0TwoStep then rememberPDelayResp c header payload time
  else
    updatePeerDelay (rememberOneStep c header payload time)
      (scaledNanosecondsToInternalTime header.correctionfield) false

/-- A PDelayRespFollowUp that is accepted, and the time in it. -/
def rememberPDelayRespFollowUp (c : PtpClock) (header : MsgHeader) (payload : Bytes) : PtpClock :=
  { noted c (.pdelayRespFollowUp header payload) with
    pdelayT3 := toInternalTime c.input.internalTime (msgUnpackDelayResp payload).timestamp }

/-- No PDelayRespFollowUp is awaited. -/
def clearPDelayRespFollowUp (c : PtpClock) : PtpClock :=
  { c with waitingForPDelayRespFollowUp := false }

/-- What `__handlePDelayRespFollowUp` does with a message that it accepts. -/
def takePDelayRespFollowUp (c : PtpClock) (header : MsgHeader) (payload : Bytes) : PtpClock :=
  clearPDelayRespFollowUp
    (updatePeerDelay (rememberPDelayRespFollowUp c header payload)
      (addTime (scaledNanosecondsToInternalTime header.correctionfield)
        c.correctionFieldPDelayResp) true)

theorem handleDelayResp_eq (mechanism : c.portDS.delayMechanism = .e2e)
    (whole : MsgType.delayResp.length ≤ payload.length) (state : synchronizes c.portDS.portState) :
    handleDelayResp c header payload =
      if c.sentDelayReqSequenceId.toInt - 1 = header.sequenceId.toInt ∧
          isSamePortIdentity c.portDS.portIdentity
            (msgUnpackDelayResp payload).requestingPortIdentity ∧
          isSamePortIdentity c.parentDS.parentPortIdentity header.sourcePortIdentity then
        takeDelayResp c header payload
      else c := by
  unfold handleDelayResp
  rw [mechanism]
  dsimp -zeta only
  rw [if_neg (Nat.not_lt_of_le whole),
    if_pos (show c.portDS.portState = .uncalibrated ∨ c.portDS.portState = .slave from state)]
  rfl

theorem handlePDelayResp_eq (mechanism : c.portDS.delayMechanism = .p2p)
    (whole : MsgType.pdelayResp.length ≤ payload.length)
    (state : c.portDS.portState = .master ∨ c.portDS.portState = .slave) :
    handlePDelayResp c header payload time false =
      if c.sentPDelayReqSequenceId.toInt - 1 = header.sequenceId.toInt ∧
          isSamePortIdentity c.portDS.portIdentity
            (msgUnpackDelayResp payload).requestingPortIdentity then
        takePDelayResp c header payload time
      else c := by
  unfold handlePDelayResp
  rw [mechanism]
  dsimp -zeta only
  rw [if_neg (Nat.not_lt_of_le whole)]
  rcases state with held | held
  · rw [held]
    rfl
  · rw [held]
    rfl

theorem handlePDelayRespFollowUp_eq (mechanism : c.portDS.delayMechanism = .p2p)
    (whole : MsgType.pdelayRespFollowUp.length ≤ payload.length)
    (state : c.portDS.portState = .slave ∨ c.portDS.portState = .master)
    (waiting : c.waitingForPDelayRespFollowUp = true) :
    handlePDelayRespFollowUp c header payload =
      if header.sequenceId.toInt = c.sentPDelayReqSequenceId.toInt - 1 then
        takePDelayRespFollowUp c header payload
      else c := by
  unfold handlePDelayRespFollowUp
  rw [mechanism, waiting]
  dsimp -zeta only
  rw [if_neg (Nat.not_lt_of_le whole)]
  rcases state with held | held
  · rw [held]
    rfl
  · rw [held]
    rfl

theorem memory_notes (c : PtpClock) : c.memory.notes = c.notes := rfl

/-- A delay that is computed is recorded or not. -/
theorem updateDelay_notes (c : PtpClock) (egress recieve correction : TimeInternal) :
    ∃ new, (updateDelay c egress recieve correction).notes = new ++ c.notes := by
  rw [← memory_notes, ← memory_notes]
  rcases updateDelay_memory c egress recieve correction with same | ⟨_, sampled⟩
  · rw [same]
    exact ⟨[], rfl⟩
  · rw [sampled]
    exact ⟨[_], rfl⟩

theorem updatePeerDelay_notes (c : PtpClock) (correction : TimeInternal) (twoStep : Bool) :
    ∃ new, (updatePeerDelay c correction twoStep).notes = new ++ c.notes := by
  rw [← memory_notes, ← memory_notes]
  rcases updatePeerDelay_memory c correction twoStep with same | sampled
  · rw [same]
    exact ⟨[], rfl⟩
  · rw [sampled]
    exact ⟨[_], rfl⟩

@[simp] theorem setDelayReqInterval_notes (c : PtpClock) (interval : Int8) :
    (setDelayReqInterval c interval).notes = c.notes := rfl

@[simp] theorem clearPDelayRespFollowUp_notes (c : PtpClock) :
    (clearPDelayRespFollowUp c).notes = c.notes := rfl

theorem takeDelayResp_notes : ∃ new,
    (takeDelayResp c header payload).notes = new ++ .delayResp header payload :: c.notes := by
  unfold takeDelayResp
  rw [setDelayReqInterval_notes]
  exact updateDelay_notes (rememberDelayResp c header payload) _ _ _

theorem takePDelayResp_notes : ∃ new, (takePDelayResp c header payload time).notes =
    new ++ .pdelayResp header payload time :: c.notes := by
  unfold takePDelayResp
  split
  · exact ⟨[], rfl⟩
  · exact updatePeerDelay_notes (rememberOneStep c header payload time) _ _

theorem takePDelayRespFollowUp_notes : ∃ new, (takePDelayRespFollowUp c header payload).notes =
    new ++ .pdelayRespFollowUp header payload :: c.notes := by
  unfold takePDelayRespFollowUp
  rw [clearPDelayRespFollowUp_notes]
  exact updatePeerDelay_notes (rememberPDelayRespFollowUp c header payload) _ _

end Responses

end LwipExt.Ptp
