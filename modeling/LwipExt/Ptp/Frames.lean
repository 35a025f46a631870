import LwipExt.Ptp.Control
import LwipExt.Ptp.Packing

/-!
What each function of the daemon does to `Control`.

The servo, the data sets and the path delay leave it alone; `toState` does to it what
`Control.toState` does; a datagram that is sent matters if it is a Sync or an Announce.
-/

namespace LwipExt.Ptp

variable (c : PtpClock)

/-! ### Timers -/

theorem Timer.live_start (interval : UInt32) :
    Timer.live { running := true, interval := interval } = true := rfl

/-- A timer that is flagged no longer runs. -/
theorem Timer.live_clear {t : Timer} (flagged : t.expired = true) : t.clear.live = false := by
  have once := t.once
  rw [flagged, Bool.and_true] at once
  simp [clear, live, once]

/-- A timer that fires stays live. -/
theorem timerCallback_live (index i : PtpTimer) :
    ((timerCallback c index).timers i).live = (c.timers i).live := by
  unfold timerCallback PtpClock.setTimer
  split
  next running =>
    by_cases same : i = index
    · subst same
      simp [Timer.live, running]
    · simp [same]
  next => rfl

@[simp] theorem timerCallback_control (index : PtpTimer) :
    (timerCallback c index).control = c.control := by
  have live := timerCallback_live c index
  unfold PtpClock.control
  rw [live, live, live]
  unfold timerCallback
  split <;> rfl

@[simp] theorem stopQualification_control :
    (timerStop c .qualificationTimeout).control = c.control := rfl

@[simp] theorem stopDelayReq_control : (timerStop c .delayReqInterval).control = c.control := rfl

@[simp] theorem stopPDelayReq_control :
    (timerStop c .pdelayReqInterval).control = c.control := rfl

@[simp] theorem startRandPDelayReq_control (randMax : UInt32) :
    (timerStartRand c .pdelayReqInterval randMax).control = c.control := rfl

/-- What asking for a timer does. -/
theorem timerExpired_cases (index : PtpTimer) :
    ∃ timers, (timerExpired c index).2 = { c with timers := timers } ∧
      ((timerExpired c index).1 = true → (c.timers index).live = true) ∧
      (∀ i ≠ index, timers i = c.timers i) ∧
      ∀ i, (timers i).live =
        if i = index ∧ (timerExpired c index).1 = true then false else (c.timers i).live := by
  have fired : ∃ timers, (if c.input.fires index then timerCallback c index else c) =
      { c with timers := timers } ∧ (∀ i ≠ index, timers i = c.timers i) ∧
      ∀ i, (timers i).live = (c.timers i).live := by
    split
    · refine ⟨(timerCallback c index).timers, ?_, ?_, timerCallback_live c index⟩
      · unfold timerCallback PtpClock.setTimer
        split <;> rfl
      · intro i other
        unfold timerCallback PtpClock.setTimer
        split
        · exact if_neg other
        · rfl
    · exact ⟨c.timers, rfl, fun i _ => rfl, fun i => rfl⟩
  obtain ⟨timers, eq, others, live⟩ := fired
  unfold timerExpired
  rw [eq]
  dsimp only
  by_cases flagged : (timers index).expired = true
  · refine ⟨fun i => if i = index then (timers index).clear else timers i, ?_, ?_, ?_, ?_⟩
    · rw [if_pos flagged]
      rfl
    · intro _
      rw [← live, Timer.live, flagged, Bool.or_true]
    · intro i other
      exact (if_neg other).trans (others i other)
    · intro i
      by_cases same : i = index
      · simp [same, flagged, Timer.live_clear flagged]
      · simp [same, live]
  · refine ⟨timers, by rw [if_neg flagged], fun h => absurd h flagged, others, fun i => ?_⟩
    rw [if_neg (fun h => flagged h.2), live]

theorem askSync_control :
    (timerExpired c .syncInterval).2.control =
      { c.control with sync := c.control.sync && !(timerExpired c .syncInterval).1 } := by
  obtain ⟨timers, eq, -, -, live⟩ := timerExpired_cases c .syncInterval
  rw [eq]
  simp only [PtpClock.control, live]
  cases (timerExpired c .syncInterval).1 <;> simp

theorem askAnnounce_control :
    (timerExpired c .announceInterval).2.control =
      { c.control with announce := c.control.announce && !(timerExpired c .announceInterval).1 } := by
  obtain ⟨timers, eq, -, -, live⟩ := timerExpired_cases c .announceInterval
  rw [eq]
  simp only [PtpClock.control, live]
  cases (timerExpired c .announceInterval).1 <;> simp

theorem askReceipt_control :
    (timerExpired c .announceReceipt).2.control =
      { c.control with receipt := c.control.receipt && !(timerExpired c .announceReceipt).1 } := by
  obtain ⟨timers, eq, -, -, live⟩ := timerExpired_cases c .announceReceipt
  rw [eq]
  simp only [PtpClock.control, live]
  cases (timerExpired c .announceReceipt).1 <;> simp

/-- Asking for a timer of the path delay does not matter. -/
theorem timerExpired_control {index : PtpTimer} (other : index ≠ .syncInterval ∧
      index ≠ .announceInterval ∧ index ≠ .announceReceipt) :
    (timerExpired c index).2.control = c.control := by
  obtain ⟨timers, eq, -, -, live⟩ := timerExpired_cases c index
  rw [eq]
  simp only [PtpClock.control, live, other.1.symm, other.2.1.symm, other.2.2.symm, false_and,
    if_false]

@[simp] theorem startAnnounceReceipt_control :
    (startAnnounceReceipt c).control = { c.control with receipt := true } := rfl

@[simp] theorem startDelayReq_control : (startDelayReq c).control = c.control := rfl

@[simp] theorem startPDelayReq_control : (startPDelayReq c).control = c.control := rfl

@[simp] theorem stopSync_control :
    (timerStop c .syncInterval).control = { c.control with sync := false } := rfl

@[simp] theorem stopAnnounce_control :
    (timerStop c .announceInterval).control = { c.control with announce := false } := rfl

@[simp] theorem stopReceipt_control :
    (timerStop c .announceReceipt).control = { c.control with receipt := false } := rfl

@[simp] theorem startSync_control (interval : UInt32) :
    (timerStart c .syncInterval interval).control = { c.control with sync := true } := rfl

@[simp] theorem startAnnounce_control (interval : UInt32) :
    (timerStart c .announceInterval interval).control = { c.control with announce := true } := rfl

/-! ### The clock and the data sets -/

@[simp] theorem initClock_control : (initClock c).control = c.control := by
  unfold initClock
  dsimp only
  split <;> rfl

@[simp] theorem synchronizationFault_control :
    (synchronizationFault c).control = c.control := by
  unfold synchronizationFault
  split <;> rfl

@[simp] theorem checkOffset_control (nanoseconds : Int32) :
    (checkOffset c nanoseconds).control = c.control := by
  unfold checkOffset
  split
  · split <;> rfl
  · split
    · exact synchronizationFault_control c
    · rfl

@[simp] theorem filterOffset_control (offset : TimeInternal) :
    (filterOffset c offset).control = c.control := by
  unfold filterOffset
  split
  · rw [synchronizationFault_control]
    rfl
  · rw [checkOffset_control]
    rfl

@[simp] theorem updateOffset_control (ingress origin correction : TimeInternal) :
    (updateOffset c ingress origin correction).control = c.control := by
  unfold updateOffset
  rw [filterOffset_control]
  rfl

@[simp] theorem filterDelay_control (delay : TimeInternal) (times : List TimeInternal) :
    (filterDelay c delay times).control = c.control := by
  unfold filterDelay
  split <;> rfl

@[simp] theorem updateDelay_control (egress recieve correction : TimeInternal) :
    (updateDelay c egress recieve correction).control = c.control := by
  unfold updateDelay
  split
  · rfl
  · rw [filterDelay_control]
    rfl

@[simp] theorem filterPeerDelay_control (delay : TimeInternal) (times : List TimeInternal) :
    (filterPeerDelay c delay times).control = c.control := by
  unfold filterPeerDelay
  split <;> rfl

@[simp] theorem updatePeerDelay_control (correction : TimeInternal) (twoStep : Bool) :
    (updatePeerDelay c correction twoStep).control = c.control :=
  filterPeerDelay_control c _ _

@[simp] theorem updateClock_control : (updateClock c).control = c.control := by
  unfold updateClock
  dsimp only
  split
  · split
    · rfl
    · split
      · rfl
      · rw [initClock_control]
        rfl
  · split <;> rfl

@[simp] theorem m1_control : (m1 c).control = c.control := rfl

@[simp] theorem s1_control (header : MsgHeader) (announce : MsgAnnounce) :
    (s1 c header announce).control = c.control := rfl

@[simp] theorem addForeign_control (header : MsgHeader) (announce : MsgAnnounce) :
    (addForeign c header announce).control = c.control := by
  unfold addForeign
  dsimp only
  split <;> rfl

@[simp] theorem setStateDecision_control : (setStateDecision c).control = c.control := rfl

@[simp] theorem clearChanged_control : (clearChanged c).control = c.control := rfl

/-! ### Changes of state -/

@[simp] theorem setPortState_control (state : PortState) :
    (c.setPortState state).control = { c.control with portState := state } := rfl

theorem leaveState_control (state : PortState) :
    (leaveState c state).control = c.control.leave state := by
  have held : c.control.portState = c.portDS.portState := rfl
  unfold leaveState Control.leave
  cases left : c.portDS.portState with
  | master => simp [held.trans left]
  | uncalibrated | slave =>
      by_cases stays : state = .uncalibrated ∨ state = .slave
      · simp [held.trans left, stays]
      · simp only [held.trans left, stays, if_false, initClock_control]
        split <;> simp [held.trans left]
  | passive => simp [held.trans left]
  | listening => simp [held.trans left]
  | preMaster => simp [held.trans left]
  | initializing | faulty | disabled => simp [held.trans left]

theorem enterState_control (state : PortState) :
    (enterState c state).control = c.control.enter state := by
  unfold enterState Control.enter
  cases state with
  | initializing | faulty | disabled | listening | slave => rfl
  | preMaster | master =>
      dsimp only
      split <;> rfl
  | passive =>
      dsimp only
      split <;> rfl
  | uncalibrated =>
      dsimp only
      split <;> rfl

@[simp] theorem toState_control (state : PortState) :
    (toState c state).control = c.control.toState state := by
  have entered : (enterState (leaveState c state) state).control =
      (c.control.leave state).enter state := by
    rw [enterState_control, leaveState_control]
  unfold Control.toState
  rw [← entered]
  rfl

/-! ### Sending -/

/-- What `_netSend` can do. -/
theorem netSend_cases (channel : Channel) (length : Nat) (time : TimeInternal) :
    ∃ stamp sends new, netSend c channel length time =
        (length, stamp, { c with
          input := { c.input with sends := sends }
          sent := new ++ c.sent }) ∧
      (new = [] ∨ new = [⟨channel, bufRead c.msgObuf 0 length⟩]) := by
  unfold netSend
  cases c.input.sends.headD none with
  | none => exact ⟨time, _, [], rfl, .inl rfl⟩
  | some stamp => exact ⟨stamp, _, [_], rfl, .inr rfl⟩

/-- What is left when a message was packed and handed to the network, or got lost there. -/
def Issued (c : PtpClock) (m : Message) (d : PtpClock) : Prop :=
  ∃ sends new channel, d = { c with
      input := { c.input with sends := sends }
      msgObuf := pack c c.msgObuf m
      sent := new ++ c.sent } ∧
    (new = [] ∨ new = [⟨channel, emitted c c.msgObuf m⟩])

/-- A message is packed and sent. -/
theorem send_issued (m : Message) (channel : Channel) (time : TimeInternal) :
    ∃ stamp d, netSend { c with msgObuf := pack c c.msgObuf m } channel m.type.length time =
      (m.type.length, stamp, d) ∧ Issued c m d := by
  obtain ⟨stamp, sends, new, sent, which⟩ :=
    netSend_cases { c with msgObuf := pack c c.msgObuf m } channel m.type.length time
  exact ⟨stamp, _, sent, sends, new, channel, rfl, which⟩

/-- A length that is sent is not zero. -/
theorem MsgType.length_ne_zero (type : MsgType) : type.length ≠ 0 := by
  cases type <;> decide

/-- What `__issueDelayReq` does. -/
theorem issueDelayReq_cases :
    ∃ d m stamp, Issued (getTime c).2 m d ∧ m.type = .delayReq ∧
      issueDelayReq c = { d with
        sentDelayReqSequenceId := c.sentDelayReqSequenceId + 1
        timestampDelayReqSend := stamp.getD c.timestampDelayReqSend
        notes := .request .e2e (c.sentDelayReqSequenceId + 1 - 1) stamp :: c.notes } := by
  obtain ⟨stamp, d, sent, issued⟩ := send_issued (getTime c).2
    (.delayReq (fromInternalTime (getTime c).1 (getTime c).2.input.timestamp)) .event (getTime c).1
  unfold issueDelayReq
  dsimp only [pack, Message.type] at sent
  dsimp only
  rw [sent]
  dsimp only
  rw [if_neg (MsgType.length_ne_zero _)]
  split
  · refine ⟨d, _, some (addTime stamp c.outboundLatency), issued, rfl, ?_⟩
    obtain ⟨sends, new, channel, rfl, -⟩ := issued
    rfl
  · refine ⟨d, _, none, issued, rfl, ?_⟩
    obtain ⟨sends, new, channel, rfl, -⟩ := issued
    rfl

/-- What `__issuePDelayReq` does. -/
theorem issuePDelayReq_cases :
    ∃ d m stamp, Issued (getTime c).2 m d ∧ m.type = .pdelayReq ∧
      issuePDelayReq c = { d with
        sentPDelayReqSequenceId := c.sentPDelayReqSequenceId + 1
        pdelayT1 := stamp.getD c.pdelayT1
        notes := .request .p2p (c.sentPDelayReqSequenceId + 1 - 1) stamp :: c.notes } := by
  obtain ⟨stamp, d, sent, issued⟩ := send_issued (getTime c).2
    (.pdelayReq (fromInternalTime (getTime c).1 (getTime c).2.input.timestamp)) .peerEvent
    (getTime c).1
  unfold issuePDelayReq
  dsimp only [pack, Message.type] at sent
  dsimp only
  rw [sent]
  dsimp only
  rw [if_neg (MsgType.length_ne_zero _)]
  split
  · refine ⟨d, _, some (addTime stamp c.outboundLatency), issued, rfl, ?_⟩
    obtain ⟨sends, new, channel, rfl, -⟩ := issued
    rfl
  · refine ⟨d, _, none, issued, rfl, ?_⟩
    obtain ⟨sends, new, channel, rfl, -⟩ := issued
    rfl

/-- What `_issueAnnounce` does. -/
theorem issueAnnounce_cases :
    ∃ d, Issued c .announce d ∧ issueAnnounce c =
      { d with sentAnnounceSequenceId := d.sentAnnounceSequenceId + 1 } := by
  obtain ⟨stamp, d, sent, issued⟩ := send_issued c .announce .general {}
  refine ⟨d, issued, ?_⟩
  unfold issueAnnounce
  dsimp only [pack, Message.type] at sent
  dsimp only
  rw [sent]
  dsimp only
  rw [if_neg (MsgType.length_ne_zero _)]

/-- What `_issueFollowup` does. -/
theorem issueFollowup_cases (time : TimeInternal) :
    Issued c (.followUp (fromInternalTime time c.input.timestamp)) (issueFollowup c time) := by
  obtain ⟨stamp, d, sent, issued⟩ := send_issued c
    (.followUp (fromInternalTime time c.input.timestamp)) .general {}
  unfold issueFollowup
  dsimp only [pack, Message.type] at sent
  dsimp only
  rw [sent]
  dsimp only
  rw [if_neg (MsgType.length_ne_zero _)]
  exact issued

/-- What `_issueSync` does: a Sync, and a Follow_Up if the time stamp is valid. -/
theorem issueSync_cases :
    ∃ d m, Issued (getTime c).2 m d ∧ m.type = .sync ∧
      (issueSync c = { d with sentSyncSequenceId := d.sentSyncSequenceId + 1 } ∨
        ∃ time, Issued { d with sentSyncSequenceId := d.sentSyncSequenceId + 1 } (.followUp time)
          (issueSync c)) := by
  obtain ⟨stamp, d, sent, issued⟩ := send_issued (getTime c).2
    (.sync (fromInternalTime (getTime c).1 (getTime c).2.input.timestamp)) .event (getTime c).1
  refine ⟨d, _, issued, rfl, ?_⟩
  unfold issueSync
  dsimp only [pack, Message.type] at sent
  dsimp only
  rw [sent]
  dsimp only
  rw [if_neg (MsgType.length_ne_zero _)]
  split
  · exact .inr ⟨_, issueFollowup_cases _ _⟩
  · exact .inl rfl

/-- What `_issuePDelayResp` does. -/
theorem issuePDelayResp_cases (time : TimeInternal) (header : MsgHeader) :
    Issued c (.pdelayResp header (fromInternalTime time c.input.timestamp))
      (issuePDelayResp c time header).2 := by
  obtain ⟨stamp, d, sent, issued⟩ := send_issued c
    (.pdelayResp header (fromInternalTime time c.input.timestamp)) .peerEvent time
  unfold issuePDelayResp
  dsimp only [pack, Message.type] at sent
  dsimp only
  rw [sent]
  dsimp only
  rw [if_neg (MsgType.length_ne_zero _)]
  split <;> exact issued

/-- What `_issueDelayResp` does. -/
theorem issueDelayResp_cases (time : TimeInternal) (header : MsgHeader) :
    Issued c (.delayResp header (fromInternalTime time c.input.timestamp))
      (issueDelayResp c time header) := by
  obtain ⟨stamp, d, sent, issued⟩ := send_issued c
    (.delayResp header (fromInternalTime time c.input.timestamp)) .general {}
  unfold issueDelayResp
  dsimp only [pack, Message.type, MsgType.length] at sent
  dsimp only [MsgType.length]
  rw [sent]
  exact issued

/-- What `_issuePDelayRespFollowUp` does. -/
theorem issuePDelayRespFollowUp_cases (time : TimeInternal) (header : MsgHeader) :
    Issued c (.pdelayRespFollowUp header (fromInternalTime time c.input.timestamp))
      (issuePDelayRespFollowUp c time header) := by
  obtain ⟨stamp, d, sent, issued⟩ := send_issued c
    (.pdelayRespFollowUp header (fromInternalTime time c.input.timestamp)) .peerGeneral {}
  unfold issuePDelayRespFollowUp
  dsimp only [pack, Message.type] at sent
  dsimp only
  rw [sent]
  dsimp only
  rw [if_neg (MsgType.length_ne_zero _)]
  exact issued

/-! ### What sending does to `Control` -/

variable {c} {d : PtpClock} {m : Message}

/-- A datagram that is no Sync and no Announce. -/
theorem isMasters_emitted (other : m.type ≠ .sync ∧ m.type ≠ .announce) (buf : Bytes)
    (channel : Channel) : PtpSent.isMasters ⟨channel, emitted c buf m⟩ = false := by
  have type := sent_type c buf m _ (Nat.pos_of_ne_zero m.type.length_ne_zero)
  unfold PtpSent.isMasters emitted
  dsimp only
  rw [type]
  cases held : m.type <;> rw [held] at other <;> first | rfl | simp at other

theorem Issued.control (issued : Issued c m d) (other : m.type ≠ .sync ∧ m.type ≠ .announce) :
    d.control = c.control := by
  obtain ⟨sends, new, channel, rfl, rfl | rfl⟩ := issued
  · rfl
  · simp only [PtpClock.control, List.singleton_append, List.filter_cons,
      isMasters_emitted other, Bool.false_eq_true, if_false]

theorem Issued.mastered (issued : Issued c m d) :
    ∃ sent, d.control = { c.control with mastered := sent ++ c.control.mastered } := by
  obtain ⟨sends, new, channel, rfl, -⟩ := issued
  exact ⟨new.filter PtpSent.isMasters, by simp only [PtpClock.control, List.filter_append]⟩

variable (c)

@[simp] theorem getTime_control : (getTime c).2.control = c.control := rfl

theorem issueDelayReq_control : (issueDelayReq c).control = c.control := by
  obtain ⟨d, m, stamp, issued, type, eq⟩ := issueDelayReq_cases c
  rw [eq]
  exact issued.control (by rw [type]; exact ⟨nofun, nofun⟩)

theorem issuePDelayReq_control : (issuePDelayReq c).control = c.control := by
  obtain ⟨d, m, stamp, issued, type, eq⟩ := issuePDelayReq_cases c
  rw [eq]
  exact issued.control (by rw [type]; exact ⟨nofun, nofun⟩)

theorem issuePDelayResp_control (time : TimeInternal) (header : MsgHeader) :
    (issuePDelayResp c time header).2.control = c.control :=
  (issuePDelayResp_cases c time header).control ⟨nofun, nofun⟩

theorem issueDelayResp_control (time : TimeInternal) (header : MsgHeader) :
    (issueDelayResp c time header).control = c.control :=
  (issueDelayResp_cases c time header).control ⟨nofun, nofun⟩

theorem issuePDelayRespFollowUp_control (time : TimeInternal) (header : MsgHeader) :
    (issuePDelayRespFollowUp c time header).control = c.control :=
  (issuePDelayRespFollowUp_cases c time header).control ⟨nofun, nofun⟩

theorem issueAnnounce_control :
    ∃ sent, (issueAnnounce c).control =
      { c.control with mastered := sent ++ c.control.mastered } := by
  obtain ⟨d, issued, eq⟩ := issueAnnounce_cases c
  rw [eq]
  exact issued.mastered

theorem issueSync_control :
    ∃ sent, (issueSync c).control =
      { c.control with mastered := sent ++ c.control.mastered } := by
  obtain ⟨d, m, issued, type, eq | ⟨time, followed⟩⟩ := issueSync_cases c
  · rw [eq]
    exact issued.mastered
  · rw [followed.control ⟨nofun, nofun⟩]
    exact issued.mastered

theorem issueDelayReqTimerExpired_control :
    (issueDelayReqTimerExpired c).control = c.control := by
  unfold issueDelayReqTimerExpired
  cases c.portDS.delayMechanism with
  | e2e =>
      have asked : (timerExpired c .delayReqInterval).2.control = c.control :=
        timerExpired_control c ⟨nofun, nofun, nofun⟩
      dsimp only
      split
      · rfl
      · split
        · next eq =>
            rw [eq] at asked
            rw [issueDelayReq_control, startDelayReq_control]
            exact asked
        · next eq =>
            rw [eq] at asked
            exact asked
  | p2p =>
      have asked : (timerExpired c .pdelayReqInterval).2.control = c.control :=
        timerExpired_control c ⟨nofun, nofun, nofun⟩
      dsimp only
      split
      · next eq =>
          rw [eq] at asked
          rw [issuePDelayReq_control, startPDelayReq_control]
          exact asked
      · next eq =>
          rw [eq] at asked
          exact asked
  | delayDisabled => rfl

end LwipExt.Ptp
