import LwipExt.Ptp.Frames
import LwipExt.Lib.History
import Mathlib.Logic.Relation

/-!
What the daemon keeps from one message of an exchange to the next.

`Memory` holds the flags, sequence numbers and times that pair a Follow_Up with its Sync and a
response with its request, and the history. `Change` says what can happen to it.
-/

namespace LwipExt.Ptp

/-- What is kept between the messages of an exchange, and the history. -/
structure Memory where
  portState : PortState
  parent : PortIdentity
  waitingForFollowUp : Bool
  recvSyncSequenceId : Int16
  timestampSyncRecieve : TimeInternal
  correctionFieldSync : TimeInternal
  tms : TimeInternal
  /-- The number of offsets in the filter. -/
  offsets : Int32
  sentDelayReqSequenceId : Int16
  timestampDelayReqSend : TimeInternal
  sentPDelayReqSequenceId : Int16
  pdelayT1 : TimeInternal
  pdelayT2 : TimeInternal
  pdelayT4 : TimeInternal
  waitingForPDelayRespFollowUp : Bool
  notes : List Note

def PtpClock.memory (c : PtpClock) : Memory where
  portState := c.portDS.portState
  parent := c.parentDS.parentPortIdentity
  waitingForFollowUp := c.waitingForFollowUp
  recvSyncSequenceId := c.recvSyncSequenceId
  timestampSyncRecieve := c.timestampSyncRecieve
  correctionFieldSync := c.correctionFieldSync
  tms := c.tms
  offsets := c.ofmFilt.n
  sentDelayReqSequenceId := c.sentDelayReqSequenceId
  timestampDelayReqSend := c.timestampDelayReqSend
  sentPDelayReqSequenceId := c.sentPDelayReqSequenceId
  pdelayT1 := c.pdelayT1
  pdelayT2 := c.pdelayT2
  pdelayT4 := c.pdelayT4
  waitingForPDelayRespFollowUp := c.waitingForPDelayRespFollowUp
  notes := c.notes

/-- The states that use the messages of a parent. -/
def synchronizes (state : PortState) : Prop := state = .uncalibrated ∨ state = .slave

instance (state : PortState) : Decidable (synchronizes state) :=
  inferInstanceAs (Decidable (_ ∨ _))

/-- The time stamp of a response, if its seconds fit. -/
def stampOf (payload : Bytes) : Option TimeInternal :=
  let timestamp := (msgUnpackDelayResp payload).timestamp
  if timestamp.secondsLsb < 2147483647 then
    some { seconds := timestamp.secondsLsb.toInt32
           nanoseconds := timestamp.nanosecondsField.toInt32 }
  else none

theorem toInternalTime_of_stampOf {payload : Bytes} {time : TimeInternal}
    (stamp : stampOf payload = some time) (internal : TimeInternal) :
    toInternalTime internal (msgUnpackDelayResp payload).timestamp = time := by
  unfold stampOf at stamp
  dsimp only at stamp
  unfold toInternalTime
  split at stamp
  · next fits =>
      rw [if_pos fits]
      exact Option.some.inj stamp
  · cases stamp

namespace Memory

def note (a : Memory) (note : Note) : Memory := { a with notes := note :: a.notes }

/-- `initClock`. -/
def clear (a : Memory) : Memory :=
  { a with
    tms := {}
    offsets := 0
    waitingForFollowUp := false
    waitingForPDelayRespFollowUp := false
    pdelayT1 := {}
    pdelayT2 := {}
    pdelayT4 := {}
    notes := .cleared :: a.notes }

/-- An offset is computed. -/
def offset (a : Memory) (ingress origin correction : TimeInternal) (offsets : Int32) : Memory :=
  { a with
    tms := subTime (subTime ingress origin) correction
    offsets := offsets
    notes := .offsetSample ingress origin correction :: a.notes }

/-- The states whose leaving tasks call `initClock`. -/
def clears (state entered : PortState) : Prop :=
  state = .master ∨ state = .passive ∨ state = .listening ∨ state = .preMaster ∨
    synchronizes state ∧ ¬ synchronizes entered

instance (state entered : PortState) : Decidable (clears state entered) :=
  inferInstanceAs (Decidable (_ ∨ _))

def toState (a : Memory) (state : PortState) : Memory :=
  { if clears a.portState state then a.clear else a with
    portState := if state = .preMaster then .master else state }

/-- What can happen to the memory. The parent may change while a Follow_Up is awaited if it is
`switched`. -/
inductive Change (switched : Prop) (a : Memory) : Memory → Prop where
  | clear : Change switched a a.clear
  | enter (state : PortState) (safe : a.waitingForFollowUp = true → synchronizes state) :
      Change switched a { a with portState := state }
  | adopt (parent : PortIdentity)
      (safe : a.waitingForFollowUp = true → parent = a.parent ∨ switched) :
      Change switched a { a with parent := parent }
  | receive (header : MsgHeader) (payload : Bytes) (time : TimeInternal) :
      Change switched a (a.note (.received header payload time))
  | sync {header : MsgHeader} {payload : Bytes} {time : TimeInternal} {past : List Note}
      (received : a.notes = .received header payload time :: past)
      (type : MsgType.ofCode header.messageType = some .sync)
      (source : header.sourcePortIdentity = a.parent) (state : synchronizes a.portState) :
      Change switched a { a with
        waitingForFollowUp := true
        recvSyncSequenceId := header.sequenceId
        timestampSyncRecieve := time
        correctionFieldSync := scaledNanosecondsToInternalTime header.correctionfield }
  | syncOneStep {header : MsgHeader} {payload : Bytes} {time : TimeInternal} {past : List Note}
      (origin : TimeInternal) (offsets : Int32)
      (received : a.notes = .received header payload time :: past)
      (type : MsgType.ofCode header.messageType = some .sync) :
      Change switched a
        ({ a with waitingForFollowUp := false, timestampSyncRecieve := time }.offset time origin
          (scaledNanosecondsToInternalTime header.correctionfield) offsets)
  | followUp {header : MsgHeader} {payload : Bytes} {time : TimeInternal} {past : List Note}
      (origin : TimeInternal) (offsets : Int32)
      (received : a.notes = .received header payload time :: past)
      (type : MsgType.ofCode header.messageType = some .followUp)
      (waiting : a.waitingForFollowUp = true) (source : header.sourcePortIdentity = a.parent)
      (sequence : header.sequenceId = a.recvSyncSequenceId) :
      Change switched a
        ({ a with waitingForFollowUp := false }.offset a.timestampSyncRecieve origin
          (addTime (scaledNanosecondsToInternalTime header.correctionfield)
            a.correctionFieldSync) offsets)
  | delayReq (egress : Option TimeInternal) :
      Change switched a { a with
        sentDelayReqSequenceId := a.sentDelayReqSequenceId + 1
        timestampDelayReqSend := egress.getD a.timestampDelayReqSend
        notes := .request .e2e (a.sentDelayReqSequenceId + 1 - 1) egress :: a.notes }
  | pdelayReq (egress : Option TimeInternal) :
      Change switched a { a with
        sentPDelayReqSequenceId := a.sentPDelayReqSequenceId + 1
        pdelayT1 := egress.getD a.pdelayT1
        notes := .request .p2p (a.sentPDelayReqSequenceId + 1 - 1) egress :: a.notes }
  | delayResp {header : MsgHeader} {payload : Bytes} {recieve : TimeInternal} {new : List Note}
      (matched : a.sentDelayReqSequenceId.toInt - 1 = header.sequenceId.toInt)
      (stamp : ∀ time, stampOf payload = some time → recieve = time)
      (sampled : new = [] ∨ a.offsets ≠ 0 ∧
        new = [.delaySample .e2e [a.tms, a.timestampDelayReqSend, recieve]]) :
      Change switched a { a with notes := new ++ .delayResp header payload :: a.notes }
  | pdelayResp {header : MsgHeader} {payload : Bytes} {time receipt : TimeInternal}
      (matched : a.sentPDelayReqSequenceId.toInt - 1 = header.sequenceId.toInt)
      (stamp : ∀ time, stampOf payload = some time → receipt = time) :
      Change switched a { a with
        waitingForPDelayRespFollowUp := true
        pdelayT4 := time
        pdelayT2 := receipt
        notes := .pdelayResp header payload time :: a.notes }
  | pdelayRespOneStep {header : MsgHeader} {payload : Bytes} {time : TimeInternal}
      {new : List Note}
      (matched : a.sentPDelayReqSequenceId.toInt - 1 = header.sequenceId.toInt)
      (oneStep : getFlag header.flagField0 flag0TwoStep = false)
      (sampled : new = [] ∨ new = [.delaySample .p2p [a.pdelayT1, time]]) :
      Change switched a { a with
        waitingForPDelayRespFollowUp := false
        pdelayT4 := time
        notes := new ++ .pdelayResp header payload time :: a.notes }
  | pdelayRespFollowUp {header : MsgHeader} {payload : Bytes} {transmit : TimeInternal}
      {new : List Note}
      (waiting : a.waitingForPDelayRespFollowUp = true)
      (matched : header.sequenceId.toInt = a.sentPDelayReqSequenceId.toInt - 1)
      (stamp : ∀ time, stampOf payload = some time → transmit = time)
      (sampled : new = [] ∨
        new = [.delaySample .p2p [a.pdelayT1, a.pdelayT2, transmit, a.pdelayT4]]) :
      Change switched a { a with
        waitingForPDelayRespFollowUp := false
        notes := new ++ .pdelayRespFollowUp header payload :: a.notes }

/-- Any number of changes. -/
abbrev Changes (switched : Prop) : Memory → Memory → Prop :=
  Relation.ReflTransGen (Change switched)

/-- What every change preserves, any number of changes preserves. -/
theorem Changes.invariant {switched : Prop} (Inv : Memory → Prop)
    (step : ∀ {a b}, Change switched a b → Inv a → Inv b) {a b : Memory}
    (changes : Changes switched a b) (inv : Inv a) : Inv b := by
  induction changes with
  | refl => exact inv
  | tail _ change ih => exact step change ih

end Memory

/-! ### The clock -/

variable (c : PtpClock)

@[simp] theorem initClock_memory : (initClock c).memory = c.memory.clear := by
  unfold initClock
  dsimp only
  split <;> rfl

@[simp] theorem synchronizationFault_memory : (synchronizationFault c).memory = c.memory := by
  unfold synchronizationFault
  split <;> rfl

@[simp] theorem checkOffset_memory (nanoseconds : Int32) :
    (checkOffset c nanoseconds).memory = c.memory := by
  unfold checkOffset
  split
  · split <;> rfl
  · split
    · exact synchronizationFault_memory c
    · rfl

theorem filterOffset_memory (offset : TimeInternal) :
    ∃ offsets, (filterOffset c offset).memory = { c.memory with offsets := offsets } := by
  unfold filterOffset
  split
  · exact ⟨c.ofmFilt.n, synchronizationFault_memory _⟩
  · exact ⟨(filter offset.nanoseconds c.ofmFilt).2.n, checkOffset_memory _ _⟩

theorem updateOffset_memory (ingress origin correction : TimeInternal) :
    ∃ offsets, (updateOffset c ingress origin correction).memory =
      c.memory.offset ingress origin correction offsets := by
  unfold updateOffset
  obtain ⟨offsets, eq⟩ := filterOffset_memory
    { c with
      tms := subTime (subTime ingress origin) correction
      notes := .offsetSample ingress origin correction :: c.notes }
    (pathDelay c (subTime (subTime ingress origin) correction))
  exact ⟨offsets, eq⟩

theorem filterDelay_memory (delay : TimeInternal) (times : List TimeInternal) :
    (filterDelay c delay times).memory = c.memory ∨
      (filterDelay c delay times).memory = c.memory.note (.delaySample .e2e times) := by
  unfold filterDelay
  split
  · exact .inl rfl
  · exact .inr rfl

theorem updateDelay_memory (egress recieve correction : TimeInternal) :
    (updateDelay c egress recieve correction).memory = c.memory ∨
      c.ofmFilt.n ≠ 0 ∧ (updateDelay c egress recieve correction).memory =
        c.memory.note (.delaySample .e2e [c.tms, egress, recieve]) := by
  unfold updateDelay
  split
  · exact .inl rfl
  · next filtered =>
      rcases filterDelay_memory { c with tsm := subTime (subTime recieve egress) correction }
        (div2Time (addTime c.tms (subTime (subTime recieve egress) correction)))
        [c.tms, egress, recieve] with same | sampled
      · exact .inl same
      · exact .inr ⟨filtered, sampled⟩

theorem filterPeerDelay_memory (delay : TimeInternal) (times : List TimeInternal) :
    (filterPeerDelay c delay times).memory = c.memory ∨
      (filterPeerDelay c delay times).memory = c.memory.note (.delaySample .p2p times) := by
  unfold filterPeerDelay
  split
  · exact .inl rfl
  · exact .inr rfl

theorem updatePeerDelay_memory (correction : TimeInternal) (twoStep : Bool) :
    (updatePeerDelay c correction twoStep).memory = c.memory ∨
      (updatePeerDelay c correction twoStep).memory =
        c.memory.note (.delaySample .p2p (peerTimes c twoStep)) :=
  filterPeerDelay_memory c _ _

theorem updateClock_memory :
    (updateClock c).memory = c.memory ∨ (updateClock c).memory = c.memory.clear := by
  unfold updateClock
  dsimp only
  split
  · split
    · exact .inl rfl
    · split
      · exact .inl rfl
      · refine .inr ?_
        rw [initClock_memory]
        rfl
  · split <;> exact .inl rfl

/-! ### Changes of state -/

@[simp] theorem timerStop_memory (index : PtpTimer) :
    (timerStop c index).memory = c.memory := rfl

theorem leaveState_memory (state : PortState) :
    (leaveState c state).memory =
      if Memory.clears c.memory.portState state then c.memory.clear else c.memory := by
  have held : c.memory.portState = c.portDS.portState := rfl
  rw [held]
  unfold leaveState
  cases left : c.portDS.portState with
  | master | passive | listening | preMaster => simp [Memory.clears]
  | uncalibrated | slave =>
      dsimp only
      by_cases stays : state = .uncalibrated ∨ state = .slave
      · rw [if_pos stays, if_neg]
        simp [Memory.clears, synchronizes, stays]
      · rw [if_neg stays, if_pos (by simp [Memory.clears, synchronizes, stays]),
          initClock_memory]
        split <;> rfl
  | initializing | faulty | disabled => simp [Memory.clears, synchronizes]

theorem enterState_memory (state : PortState) :
    (enterState c state).memory =
      { c.memory with portState := if state = .preMaster then .master else state } := by
  unfold enterState
  cases state with
  | initializing | faulty | disabled | listening | slave => rfl
  | preMaster | master =>
      dsimp only
      split <;> rfl
  | passive =>
      dsimp only
      split <;> rfl
  | uncalibrated =>
      dsimp only
      split <;> rfl

@[simp] theorem toState_memory (state : PortState) :
    (toState c state).memory = c.memory.toState state := by
  have entered : (enterState (leaveState c state) state).memory = c.memory.toState state := by
    rw [enterState_memory, leaveState_memory]
    rfl
  rw [← entered]
  rfl

/-! ### Timers and requests -/

@[simp] theorem timerExpired_memory (index : PtpTimer) :
    (timerExpired c index).2.memory = c.memory := by
  obtain ⟨timers, eq, -⟩ := timerExpired_cases c index
  rw [eq]
  rfl

theorem Issued.memory {c d : PtpClock} {m : Message} (issued : Issued c m d) :
    d.memory = c.memory := by
  obtain ⟨sends, new, channel, rfl, -⟩ := issued
  rfl

theorem issueDelayReq_memory (switched : Prop) :
    Memory.Change switched c.memory (issueDelayReq c).memory := by
  obtain ⟨d, m, stamp, issued, -, eq⟩ := issueDelayReq_cases c
  obtain ⟨sends, new, channel, rfl, -⟩ := issued
  rw [eq]
  exact .delayReq stamp

theorem issuePDelayReq_memory (switched : Prop) :
    Memory.Change switched c.memory (issuePDelayReq c).memory := by
  obtain ⟨d, m, stamp, issued, -, eq⟩ := issuePDelayReq_cases c
  obtain ⟨sends, new, channel, rfl, -⟩ := issued
  rw [eq]
  exact .pdelayReq stamp

theorem issueDelayReqTimerExpired_memory (switched : Prop) :
    Memory.Changes switched c.memory (issueDelayReqTimerExpired c).memory := by
  unfold issueDelayReqTimerExpired
  cases c.portDS.delayMechanism with
  | e2e =>
      have asked := timerExpired_memory c .delayReqInterval
      dsimp only
      split
      · exact .refl
      · split
        · next eq =>
            rw [eq] at asked
            rw [← asked]
            exact .single (issueDelayReq_memory (startDelayReq _) switched)
        · next eq =>
            rw [eq] at asked
            rw [← asked]
  | p2p =>
      have asked := timerExpired_memory c .pdelayReqInterval
      dsimp only
      split
      · next eq =>
          rw [eq] at asked
          rw [← asked]
          exact .single (issuePDelayReq_memory (startPDelayReq _) switched)
      · next eq =>
          rw [eq] at asked
          rw [← asked]
  | delayDisabled => exact .refl

theorem issueSync_memory : (issueSync c).memory = c.memory := by
  obtain ⟨d, m, issued, -, eq | ⟨time, followed⟩⟩ := issueSync_cases c
  · rw [eq]
    exact issued.memory
  · exact followed.memory.trans issued.memory

theorem issueAnnounce_memory : (issueAnnounce c).memory = c.memory := by
  obtain ⟨d, issued, eq⟩ := issueAnnounce_cases c
  rw [eq]
  exact issued.memory

end LwipExt.Ptp
