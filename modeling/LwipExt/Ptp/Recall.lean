import LwipExt.Ptp.Freshness
import LwipExt.Ptp.Memory

/-!
The state machine does to `Memory` what `Memory.Change` says.
-/

namespace LwipExt.Ptp

open Memory (Change Changes)

namespace Memory

variable {switched : Prop} {a b : Memory}

/-- A Follow_Up is awaited only in a state that uses it. -/
def Safe (a : Memory) : Prop := a.waitingForFollowUp = true → synchronizes a.portState

theorem Safe.change (change : Change switched a b) (safe : a.Safe) : b.Safe := by
  cases change with
  | clear | syncOneStep _ _ _ _ | followUp _ _ _ _ _ _ _ => exact nofun
  | enter state entered => exact entered
  | sync _ _ _ state => exact fun _ => state
  | adopt _ _ | receive _ _ _ | delayReq _ | pdelayReq _ | delayResp _ _ _ | pdelayResp _ _
  | pdelayRespOneStep _ _ _ | pdelayRespFollowUp _ _ _ _ => exact safe

theorem Safe.changes (changes : Changes switched a b) (safe : a.Safe) : b.Safe :=
  changes.invariant _ Safe.change safe

theorem toState_changes (safe : a.Safe) (state : PortState) :
    Changes switched a (a.toState state) := by
  unfold toState
  by_cases cleared : clears a.portState state
  · rw [if_pos cleared]
    exact .tail (.single .clear) (.enter _ nofun)
  · rw [if_neg cleared]
    refine .single (.enter _ fun waiting => ?_)
    have kept : synchronizes state := by
      by_contra left
      exact cleared (.inr (.inr (.inr (.inr ⟨safe waiting, left⟩))))
    rcases kept with rfl | rfl
    · exact .inl rfl
    · exact .inr rfl

/-- A change of state that forgets the messages makes room for another parent. -/
theorem adopt_toState {state : PortState} (cleared : clears a.portState state)
    (parent : PortIdentity) : Changes switched a ({ a with parent := parent }.toState state) := by
  have first : Changes switched a { a.clear with parent := parent } :=
    .tail (.single .clear) (.adopt parent nofun)
  have entered : { a with parent := parent }.toState state =
      { { a.clear with parent := parent } with
        portState := if state = .preMaster then .master else state } := by
    unfold toState
    rw [if_pos cleared]
    rfl
  rw [entered]
  exact .tail first (.enter _ nofun)

end Memory

/-! ### Handlers -/

variable (c : PtpClock) {switched : Prop} {header : MsgHeader} {payload : Bytes}
  {time : TimeInternal} {past : List Note}

theorem toState_changes {c : PtpClock} (safe : c.memory.Safe) (state : PortState) :
    Changes switched c.memory (toState c state).memory := by
  rw [toState_memory]
  exact Memory.toState_changes safe state

@[simp] theorem addForeign_memory (announce : MsgAnnounce) :
    (addForeign c header announce).memory = c.memory := by
  unfold addForeign
  dsimp only
  split <;> rfl

theorem handleAnnounce_memory (safe : c.memory.Safe) (isFromSelf : Bool) :
    Changes switched c.memory (handleAnnounce c header payload isFromSelf).memory := by
  unfold handleAnnounce
  split
  · exact toState_changes safe .faulty
  · split
    · exact .refl
    · dsimp only
      split
      · exact .refl
      · exact .refl
      · exact .refl
      · split
        · next parent =>
            exact .single (.adopt header.sourcePortIdentity fun _ =>
              .inl (isSamePortIdentity_iff.mp parent).symm)
        · rw [addForeign_memory]
          exact .refl
      · split
        · next parent =>
            exact .single (.adopt header.sourcePortIdentity fun _ =>
              .inl (isSamePortIdentity_iff.mp parent).symm)
        · rw [addForeign_memory]
          exact .refl
      · rw [addForeign_memory]
        exact .refl
      · rw [addForeign_memory]
        exact .refl
      · rw [addForeign_memory]
        exact .refl
      · rw [addForeign_memory]
        exact .refl

/-- What follows the computation of an offset. -/
theorem adjustClock_memory :
    Changes switched c.memory (issueDelayReqTimerExpired (updateClock c)).memory := by
  have issued := issueDelayReqTimerExpired_memory (updateClock c) switched
  rcases updateClock_memory c with same | cleared
  · rw [same] at issued
    exact issued
  · rw [cleared] at issued
    exact .head .clear issued

/-- A Sync in a state that uses it. -/
theorem useSync_memory (received : c.notes = .received header payload time :: past)
    (type : MsgType.ofCode header.messageType = some .sync)
    (source : header.sourcePortIdentity = c.parentDS.parentPortIdentity)
    (state : synchronizes c.portDS.portState) :
    Changes switched c.memory
      (if getFlag header.flagField0 flag0TwoStep then
        { c with
          timestampSyncRecieve := time
          waitingForFollowUp := true
          recvSyncSequenceId := header.sequenceId
          correctionFieldSync := scaledNanosecondsToInternalTime header.correctionfield }
      else
        issueDelayReqTimerExpired (updateClock (updateOffset
          { c with timestampSyncRecieve := time, waitingForFollowUp := false } time
          (toInternalTime c.input.internalTime (msgUnpackSync payload))
          (scaledNanosecondsToInternalTime header.correctionfield)))).memory := by
  split
  · exact .single (.sync received type source state)
  · obtain ⟨offsets, eq⟩ := updateOffset_memory
      { c with timestampSyncRecieve := time, waitingForFollowUp := false } time
      (toInternalTime c.input.internalTime (msgUnpackSync payload))
      (scaledNanosecondsToInternalTime header.correctionfield)
    have adjusted : Changes switched _ _ := adjustClock_memory (updateOffset
      { c with timestampSyncRecieve := time, waitingForFollowUp := false } time
      (toInternalTime c.input.internalTime (msgUnpackSync payload))
      (scaledNanosecondsToInternalTime header.correctionfield))
    rw [eq] at adjusted
    exact .head (.syncOneStep _ offsets received type) adjusted

theorem handleSync_memory (safe : c.memory.Safe)
    (received : c.notes = .received header payload time :: past)
    (type : MsgType.ofCode header.messageType = some .sync) (isFromSelf : Bool) :
    Changes switched c.memory (handleSync c header payload time isFromSelf).memory := by
  unfold handleSync
  split
  · exact toState_changes safe .faulty
  · split
    · next state =>
        split
        · exact .refl
        · split
          · next parent =>
              exact useSync_memory c received type (isSamePortIdentity_iff.mp parent).symm
                (.inl state)
          · exact .refl
    · next state =>
        split
        · exact .refl
        · split
          · next parent =>
              exact useSync_memory c received type (isSamePortIdentity_iff.mp parent).symm
                (.inr state)
          · exact .refl
    · exact issueDelayReqTimerExpired_memory c switched
    · exact .refl
    · exact .refl
    · exact .refl
    · exact .refl
    · exact .refl
    · exact .refl

/-- A Follow_Up in a state that uses it. -/
theorem useFollowUp_memory (received : c.notes = .received header payload time :: past)
    (type : MsgType.ofCode header.messageType = some .followUp) :
    Changes switched c.memory
      (if !c.waitingForFollowUp then c
      else if !isSamePortIdentity c.parentDS.parentPortIdentity header.sourcePortIdentity then c
      else if c.recvSyncSequenceId ≠ header.sequenceId then c
      else
        issueDelayReqTimerExpired (updateClock (updateOffset
          { c with waitingForFollowUp := false } c.timestampSyncRecieve
          (toInternalTime c.input.internalTime (msgUnpackSync payload))
          (addTime (scaledNanosecondsToInternalTime header.correctionfield)
            c.correctionFieldSync)))).memory := by
  split
  · exact .refl
  · next waiting =>
      split
      · exact .refl
      · next parent =>
          split
          · exact .refl
          · next sequence =>
              have awaited : c.waitingForFollowUp = true := by simpa using waiting
              have same : isSamePortIdentity c.parentDS.parentPortIdentity
                  header.sourcePortIdentity = true := by simpa using parent
              obtain ⟨offsets, eq⟩ := updateOffset_memory { c with waitingForFollowUp := false }
                c.timestampSyncRecieve
                (toInternalTime c.input.internalTime (msgUnpackSync payload))
                (addTime (scaledNanosecondsToInternalTime header.correctionfield)
                  c.correctionFieldSync)
              have adjusted : Changes switched _ _ := adjustClock_memory
                (updateOffset { c with waitingForFollowUp := false } c.timestampSyncRecieve
                  (toInternalTime c.input.internalTime (msgUnpackSync payload))
                  (addTime (scaledNanosecondsToInternalTime header.correctionfield)
                    c.correctionFieldSync))
              rw [eq] at adjusted
              exact .head (.followUp _ offsets received type awaited
                (isSamePortIdentity_iff.mp same).symm (not_not.mp sequence).symm) adjusted

theorem handleFollowUp_memory (safe : c.memory.Safe)
    (received : c.notes = .received header payload time :: past)
    (type : MsgType.ofCode header.messageType = some .followUp) (isFromSelf : Bool) :
    Changes switched c.memory (handleFollowUp c header payload isFromSelf).memory := by
  unfold handleFollowUp
  split
  · exact toState_changes safe .faulty
  · split
    · exact .refl
    · split
      · exact useFollowUp_memory c received type
      · exact useFollowUp_memory c received type
      · exact issueDelayReqTimerExpired_memory c switched
      · exact .refl
      · exact .refl
      · exact .refl
      · exact .refl
      · exact .refl
      · exact .refl

theorem handleDelayReq_memory (safe : c.memory.Safe) :
    Changes switched c.memory (handleDelayReq c header payload time).memory := by
  unfold handleDelayReq
  split
  · split
    · exact toState_changes safe .faulty
    · split
      · rw [(issueDelayResp_cases c time header).memory]
      · exact .refl
  · exact .refl
  · exact .refl

/-- A DelayResp that matches is used. -/
theorem useDelayResp_memory {d : PtpClock} {recieve : TimeInternal}
    (answered : d.memory = c.memory.note (.delayResp header payload))
    (matched : c.sentDelayReqSequenceId.toInt - 1 = header.sequenceId.toInt)
    (stamp : ∀ t, stampOf payload = some t → recieve = t) (correction : TimeInternal) :
    Change switched c.memory
      (updateDelay d c.timestampDelayReqSend recieve correction).memory := by
  have tms : d.tms = c.tms := congrArg Memory.tms answered
  have offsets : d.ofmFilt.n = c.ofmFilt.n := congrArg Memory.offsets answered
  rcases updateDelay_memory d c.timestampDelayReqSend recieve correction with same | sampled
  · rw [same, answered]
    exact .delayResp matched stamp (.inl rfl)
  · rw [sampled.2, answered, tms]
    rw [offsets] at sampled
    exact .delayResp matched stamp (.inr ⟨sampled.1, rfl⟩)

theorem handleDelayResp_memory (safe : c.memory.Safe) :
    Changes switched c.memory (handleDelayResp c header payload).memory := by
  have kept (d : PtpClock) (interval : Int8) :
      ({ d with portDS := { d.portDS with logMinDelayReqInterval := interval } } :
        PtpClock).memory = d.memory := rfl
  unfold handleDelayResp
  split
  · split
    · exact toState_changes safe .faulty
    · split
      · dsimp only
        split
        · next matched =>
            rw [kept]
            exact .single (useDelayResp_memory c rfl matched.1
              (fun _ stamped => toInternalTime_of_stampOf stamped _) _)
        · exact .refl
      · exact .refl
  · exact .refl
  · exact .refl

theorem handlePDelayReq_memory (safe : c.memory.Safe) (isFromSelf : Bool) :
    Changes switched c.memory (handlePDelayReq c header payload time isFromSelf).memory := by
  have answered : Changes switched c.memory
      (if isFromSelf then c
      else if (issuePDelayResp c time header).1.seconds ≠ 0 ∧
          getFlag header.flagField0 flag0TwoStep then
        issuePDelayRespFollowUp (issuePDelayResp c time header).2
          (issuePDelayResp c time header).1 header
      else (issuePDelayResp c time header).2).memory := by
    have first := (issuePDelayResp_cases c time header).memory
    split
    · exact .refl
    · split
      · rw [(issuePDelayRespFollowUp_cases _ _ _).memory, first]
      · rw [first]
  unfold handlePDelayReq
  split
  · split
    · exact toState_changes safe .faulty
    · split
      · exact answered
      · exact answered
      · exact answered
      · exact .refl
      · exact .refl
      · exact .refl
      · exact .refl
      · exact .refl
      · exact .refl
  · exact .refl
  · exact .refl

/-- A one-step PDelayResp that matches is used. -/
theorem useOneStep_memory {d : PtpClock}
    (answered : d.memory = { c.memory.note (.pdelayResp header payload time) with
      waitingForPDelayRespFollowUp := false
      pdelayT4 := time })
    (matched : c.sentPDelayReqSequenceId.toInt - 1 = header.sequenceId.toInt)
    (oneStep : getFlag header.flagField0 flag0TwoStep = false) (correction : TimeInternal) :
    Change switched c.memory (updatePeerDelay d correction false).memory := by
  have times : peerTimes d false = [c.pdelayT1, time] := by
    have t1 : d.pdelayT1 = c.pdelayT1 := congrArg Memory.pdelayT1 answered
    have t4 : d.pdelayT4 = time := congrArg Memory.pdelayT4 answered
    rw [← t1, ← t4]
    rfl
  rcases updatePeerDelay_memory d correction false with same | sampled
  · rw [same, answered]
    exact .pdelayRespOneStep matched oneStep (.inl rfl)
  · rw [sampled, answered, times]
    exact .pdelayRespOneStep matched oneStep (.inr rfl)

theorem handlePDelayResp_memory (safe : c.memory.Safe) (isFromSelf : Bool) :
    Changes switched c.memory (handlePDelayResp c header payload time isFromSelf).memory := by
  unfold handlePDelayResp
  split
  · split
    · exact toState_changes safe .faulty
    · dsimp only
      split
      all_goals try exact .refl
      all_goals
        split
        · exact .refl
        · split
          · next matched =>
              split
              · exact .single (.pdelayResp matched.1
                  (fun _ stamped => toInternalTime_of_stampOf stamped _))
              · next oneStep =>
                  exact .single (useOneStep_memory c rfl matched.1 (by simpa using oneStep) _)
          · exact .refl
  · exact .refl
  · exact .refl

/-- A PDelayRespFollowUp that matches is used. -/
theorem usePeerFollowUp_memory {d : PtpClock} {transmit : TimeInternal}
    (answered : d.memory = c.memory.note (.pdelayRespFollowUp header payload))
    (t3 : d.pdelayT3 = transmit) (waiting : c.waitingForPDelayRespFollowUp = true)
    (matched : header.sequenceId.toInt = c.sentPDelayReqSequenceId.toInt - 1)
    (stamp : ∀ t, stampOf payload = some t → transmit = t) (correction : TimeInternal) :
    Change switched c.memory
      { (updatePeerDelay d correction true).memory with
        waitingForPDelayRespFollowUp := false } := by
  have times : peerTimes d true = [c.pdelayT1, c.pdelayT2, transmit, c.pdelayT4] := by
    have t1 : d.pdelayT1 = c.pdelayT1 := congrArg Memory.pdelayT1 answered
    have t2 : d.pdelayT2 = c.pdelayT2 := congrArg Memory.pdelayT2 answered
    have t4 : d.pdelayT4 = c.pdelayT4 := congrArg Memory.pdelayT4 answered
    rw [← t1, ← t2, ← t3, ← t4]
    rfl
  rcases updatePeerDelay_memory d correction true with same | sampled
  · rw [same, answered]
    exact .pdelayRespFollowUp waiting matched stamp (.inl rfl)
  · rw [sampled, answered, times]
    exact .pdelayRespFollowUp waiting matched stamp (.inr rfl)

theorem handlePDelayRespFollowUp_memory (safe : c.memory.Safe) :
    Changes switched c.memory (handlePDelayRespFollowUp c header payload).memory := by
  have kept (d : PtpClock) : ({ d with waitingForPDelayRespFollowUp := false } :
      PtpClock).memory = { d.memory with waitingForPDelayRespFollowUp := false } := rfl
  unfold handlePDelayRespFollowUp
  split
  · split
    · exact toState_changes safe .faulty
    · dsimp only
      split
      all_goals try exact .refl
      all_goals
        split
        · exact .refl
        · next waiting =>
            split
            · next matched =>
                rw [kept]
                exact .single (usePeerFollowUp_memory c rfl rfl (by simpa using waiting) matched
                  (fun _ stamped => toInternalTime_of_stampOf stamped _) _)
            · exact .refl
  · exact .refl
  · exact .refl

theorem dispatch_memory (safe : c.memory.Safe)
    (received : c.notes = .received header payload time :: past) (isFromSelf : Bool) :
    Changes switched c.memory (dispatch c header payload time isFromSelf).memory := by
  unfold dispatch
  split
  · exact handleAnnounce_memory c safe isFromSelf
  · next type => exact handleSync_memory c safe received type isFromSelf
  · next type => exact handleFollowUp_memory c safe received type isFromSelf
  · exact handleDelayReq_memory c safe
  · exact handlePDelayReq_memory c safe isFromSelf
  · exact handleDelayResp_memory c safe
  · exact handlePDelayResp_memory c safe isFromSelf
  · exact handlePDelayRespFollowUp_memory c safe
  · exact .refl
  · exact .refl
  · exact .refl

theorem handle_memory (safe : c.memory.Safe) : Changes switched c.memory (handle c).memory := by
  unfold handle
  split
  · exact .refl
  · next packet _ =>
      split
      · exact toState_changes safe .faulty
      · dsimp only
        split
        · exact .refl
        · split
          · exact .refl
          · exact .head (.receive _ packet.payload _) (dispatch_memory (noted c _) safe rfl _)

/-! ### The switches of the state machine -/

/-- A state decision selects a master other than the parent while a Follow_Up is awaited. -/
def switches (c : PtpClock) : Prop :=
  c.waitingForFollowUp = true ∧ c.events.stateDecisionEvent = true ∧ (bmc c).1 = .slave ∧
    (decidingRecord c).header.sourcePortIdentity ≠ c.parentDS.parentPortIdentity

instance (c : PtpClock) : Decidable (switches c) := inferInstanceAs (Decidable (_ ∧ _))

/-- A state decision may change the parent. -/
theorem bmc_memory :
    (bmc c).2.memory = { c.memory with parent := (bmc c).2.parentDS.parentPortIdentity } := by
  unfold bmc bmcStateDecision
  dsimp only
  split
  · rfl
  · split
    · split <;> rfl
    · split <;> rfl

/-- A state decision that is made: a slave of the record it is made for, or no slave. -/
theorem recommend_memory (input : PtpInput) :
    ∃ parent, (recommend { c with input := input }).memory = { c.memory with parent := parent } ∧
      ((bmc c).1 = .slave ∧ parent = (decidingRecord c).header.sourcePortIdentity ∨
        (recommend { c with input := input }).recommendedState = .master ∨
        (recommend { c with input := input }).recommendedState = .passive ∨
        (recommend { c with input := input }).recommendedState = .listening) := by
  unfold recommend
  dsimp only
  generalize begun : ({ c with
    input := input
    events := { c.events with stateDecisionEvent := false } } : PtpClock) = d
  obtain ⟨same, advised⟩ : chosen d = chosen c ∧ (bmc d).1 = (bmc c).1 := by
    rw [← begun]
    exact bmc_congr rfl rfl rfl
  have record : decidingRecord d = decidingRecord c := by
    rw [decidingRecord, decidingRecord, same, ← begun]
  have memory : d.memory = c.memory := by
    rw [← begun]
    rfl
  have held := bmc_memory d
  rw [memory] at held
  have known := (bmc_cases d).2
  have slave (recommended : (bmc d).1 = .slave) : (bmc d).2.parentDS.parentPortIdentity =
      (decidingRecord c).header.sourcePortIdentity := by
    rw [← record]
    exact congrArg (fun data : MasterData => data.1.parentPortIdentity) (bmc_slave recommended)
  generalize bmc d = result at *
  obtain ⟨recommended, e⟩ := result
  refine ⟨e.parentDS.parentPortIdentity, ?_, ?_⟩
  · dsimp only at held ⊢
    split <;> exact held
  · dsimp only at known slave advised ⊢
    split
    · exact .inr (.inr (.inr rfl))
    · rcases known with listening | slaves | master | passive
      · exact .inr (.inr (.inr listening))
      · exact .inl ⟨advised.symm.trans slaves, slave slaves⟩
      · exact .inr (.inl master)
      · exact .inr (.inr (.inl passive))

variable {c}

theorem masterClockSelected_memory (safe : c.memory.Safe) :
    Changes switched c.memory (masterClockSelected c).memory := by
  unfold masterClockSelected
  split
  · exact toState_changes (c := { c with
      events := { c.events with masterClockSelected := false } }) safe .slave
  · exact .refl

theorem consumeFault_memory (safe : c.memory.Safe) :
    Changes switched c.memory (consumeFault c).memory := by
  unfold consumeFault
  split
  · exact toState_changes (c := { c with
      events := { c.events with synchronizationFault := false } }) safe .uncalibrated
  · exact .refl

theorem consumeChanged_memory (safe : c.memory.Safe) :
    Changes switched c.memory (consumeChanged c).memory := by
  unfold consumeChanged
  split
  · exact toState_changes (c := clearChanged c) safe .uncalibrated
  · exact .refl

theorem followRecommendation_memory (safe : c.memory.Safe) :
    Changes switched c.memory (followRecommendation c).memory := by
  unfold followRecommendation
  split
  · split
    · have asked := timerExpired_memory c .qualificationTimeout
      split
      · next eq =>
          rw [eq] at asked
          rw [← asked] at safe ⊢
          exact toState_changes safe .master
      · next eq =>
          rw [eq] at asked
          rw [← asked]
    · exact .refl
    · exact toState_changes safe .preMaster
  · split
    · exact toState_changes safe .passive
    · exact .refl
  · split
    · exact masterClockSelected_memory safe
    · have faulted : Changes switched c.memory (consumeFault c).memory :=
        consumeFault_memory safe
      exact faulted.trans (consumeChanged_memory (safe.changes faulted))
    · exact toState_changes safe .uncalibrated
  · split
    · exact toState_changes safe .listening
    · exact .refl
  · exact .refl
  · exact .refl
  · exact .refl
  · exact .refl
  · exact .refl

/-- A clock that is recommended to be no slave forgets the messages of its parent. -/
theorem followRecommendation_leaves (state : synchronizes c.portDS.portState)
    (recommended : c.recommendedState = .master ∨ c.recommendedState = .passive ∨
      c.recommendedState = .listening) :
    ∃ entered, Memory.clears c.portDS.portState entered ∧
      (followRecommendation c).memory = c.memory.toState entered := by
  have clears (entered : PortState) (left : ¬ synchronizes entered) :
      Memory.clears c.portDS.portState entered := .inr (.inr (.inr (.inr ⟨state, left⟩)))
  unfold followRecommendation
  rcases recommended with held | held | held
  · refine ⟨.preMaster, clears _ (by decide), ?_⟩
    rw [held]
    dsimp only
    rcases state with port | port
    · rw [port]
      exact toState_memory c _
    · rw [port]
      exact toState_memory c _
  · refine ⟨.passive, clears _ (by decide), ?_⟩
    rw [held]
    dsimp only
    rw [if_pos]
    · exact toState_memory c _
    · rcases state with port | port <;> rw [port] <;> nofun
  · refine ⟨.listening, clears _ (by decide), ?_⟩
    rw [held]
    dsimp only
    rw [if_pos]
    · exact toState_memory c _
    · rcases state with port | port <;> rw [port] <;> nofun

/-- The state decision and the moves towards the recommended state. -/
theorem beforeActions_memory (safe : c.memory.Safe) (input : PtpInput) :
    Changes (switches c) c.memory (beforeActions c input).memory := by
  unfold beforeActions
  rw [decideState_eq]
  split
  · next decides =>
      have event : c.events.stateDecisionEvent = true := decides.2.2.2
      obtain ⟨parent, adopted, kinds⟩ := recommend_memory c input
      generalize recommend { c with input := input } = d at adopted kinds ⊢
      have port : d.portDS.portState = c.portDS.portState := congrArg Memory.portState adopted
      have follow (allowed : c.waitingForFollowUp = true →
          parent = c.parentDS.parentPortIdentity ∨ switches c) :
          Changes (switches c) c.memory (followRecommendation d).memory := by
        have first : Change (switches c) c.memory d.memory := by
          rw [adopted]
          exact .adopt parent allowed
        exact .head first (followRecommendation_memory (safe.change first))
      by_cases waiting : c.waitingForFollowUp = true
      · rcases kinds with ⟨slave, rfl⟩ | left
        · refine follow fun _ => ?_
          by_cases same : (decidingRecord c).header.sourcePortIdentity =
              c.parentDS.parentPortIdentity
          · exact .inl same
          · exact .inr ⟨waiting, event, slave, same⟩
        · have state : synchronizes d.portDS.portState := by
            rw [port]
            exact safe waiting
          obtain ⟨entered, cleared, moved⟩ := followRecommendation_leaves state left
          rw [moved, adopted]
          rw [port] at cleared
          exact Memory.adopt_toState cleared parent
      · exact follow fun awaited => absurd awaited waiting
  · exact followRecommendation_memory (c := { c with input := input }) safe

/-! ### The actions of the port state -/

theorem doInit_memory {d : PtpClock} (done : doInit c = (true, d)) :
    ∃ parent, d.memory = { c.memory.clear with parent := parent } := by
  unfold doInit at done
  split at done
  · have started (e : PtpClock) (a : Memory) (same : e.memory = a) :
        ∃ parent, (startBuffer (m1 e)).memory = { a with parent := parent } := by
      rw [← same]
      exact ⟨_, rfl⟩
    rw [← (Prod.mk.inj done).2]
    exact started _ c.memory.clear (initClock_memory _)
  · cases done

theorem doInit_fails {d : PtpClock} (failed : doInit c = (false, d)) : d = c := by
  unfold doInit at failed
  split at failed
  · cases failed
  · exact (Prod.mk.inj failed).2.symm

theorem announceTimeout_memory (safe : c.memory.Safe)
    (state : c.portDS.portState = .listening ∨ c.portDS.portState = .uncalibrated ∨
      c.portDS.portState = .slave ∨ c.portDS.portState = .passive) :
    Changes switched c.memory (announceTimeout c).memory := by
  unfold announceTimeout
  dsimp only
  split
  · have cleared : Memory.clears c.memory.portState .master := by
      have port : c.memory.portState = c.portDS.portState := rfl
      rw [port]
      rcases state with held | held | held | held <;> rw [held] <;> decide
    rw [toState_memory]
    exact Memory.adopt_toState cleared _
  · split
    · exact toState_changes (c := clearForeign c) safe .listening
    · exact .refl

theorem syncTimeout_memory : (syncTimeout c).memory = c.memory := by
  have asked := timerExpired_memory c .syncInterval
  unfold syncTimeout
  split
  · next eq =>
      rw [eq] at asked
      rw [issueSync_memory]
      exact asked
  · next eq =>
      rw [eq] at asked
      exact asked

theorem announceIntervalTimeout_memory : (announceIntervalTimeout c).memory = c.memory := by
  have asked := timerExpired_memory c .announceInterval
  unfold announceIntervalTimeout
  split
  · next eq =>
      rw [eq] at asked
      rw [issueAnnounce_memory]
      exact asked
  · next eq =>
      rw [eq] at asked
      exact asked

theorem portActions_memory (safe : c.memory.Safe) :
    Changes switched c.memory (portActions c).memory := by
  have hear (state : c.portDS.portState = .listening ∨ c.portDS.portState = .uncalibrated ∨
      c.portDS.portState = .slave ∨ c.portDS.portState = .passive) :
      Changes switched c.memory (portActions c).memory := by
    rw [portActions_waiting state]
    have asked := timerExpired_memory c .announceReceipt
    have port : (timerExpired c .announceReceipt).2.portDS.portState = c.portDS.portState :=
      congrArg Memory.portState asked
    rw [← port] at state
    rw [← asked] at safe ⊢
    split
    · exact announceTimeout_memory safe state
    · exact handle_memory _ safe
  by_cases waits : c.portDS.portState = .listening ∨ c.portDS.portState = .uncalibrated ∨
      c.portDS.portState = .slave ∨ c.portDS.portState = .passive
  · exact hear waits
  unfold portActions
  split
  · split
    · next eq =>
        obtain ⟨parent, made⟩ := doInit_memory eq
        have first : Changes switched c.memory _ :=
          .tail (.single .clear) (.adopt parent fun waiting => absurd waiting Bool.false_ne_true)
        rw [← made] at first
        exact first.trans (toState_changes (safe.changes first) .listening)
    · next eq =>
        rw [doInit_fails eq]
        exact toState_changes safe .faulty
  · exact toState_changes safe .initializing
  · exact handle_memory c safe
  · next state => exact absurd (.inl state) waits
  · next state => exact absurd (.inr (.inl state)) waits
  · next state => exact absurd (.inr (.inr (.inl state))) waits
  · next state => exact absurd (.inr (.inr (.inr state))) waits
  · have same : (announceIntervalTimeout (syncTimeout c)).memory = c.memory :=
      announceIntervalTimeout_memory.trans syncTimeout_memory
    rw [← same] at safe ⊢
    exact (handle_memory _ safe).trans (issueDelayReqTimerExpired_memory _ switched)
  · exact .refl

theorem timerCallback_memory (index : PtpTimer) :
    (timerCallback c index).memory = c.memory := by
  unfold timerCallback
  split <;> rfl

/-- A step of the state machine is a number of changes. -/
theorem ptpStep_memory (safe : c.memory.Safe) (input : PtpInput) :
    Changes (switches c) c.memory (ptpStep c (.step input)).memory := by
  have before := beforeActions_memory safe input
  exact before.trans (portActions_memory (safe.changes before))

end LwipExt.Ptp
