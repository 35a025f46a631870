import LwipExt.Ptp.Frames

/-!
Messages that are not handed to the network.

`_netSend` can fail in three places, and returns the length that it was given in each of them
(`netSend_eq_stages`). So none of the eight functions that issue a message takes it for a failure:
whatever becomes of the message, the port stays in its state (`Issue.moves_issued`), and the
counters, the time stamps and the follow-ups go on as if it had been sent.
-/

namespace LwipExt.Ptp

/-! ### The stages of a transmission -/

/-- `ERR_OK`. -/
def errOk : Int := 0

/-- What the functions give that `_netSend` calls: whether `pbuf_alloc` finds a buffer, the results
of `pbuf_take` and `udp_sendto`, and the time stamp in the buffer. -/
structure Transmission where
  alloc : Bool
  take : Int
  sendto : Int
  stamp : TimeInternal

/-- The message is handed to the network. -/
def Transmission.Succeeds (t : Transmission) : Prop :=
  t.alloc = true ∧ t.take = errOk ∧ t.sendto = errOk

instance (t : Transmission) : Decidable t.Succeeds := inferInstanceAs (Decidable (_ ∧ _))

/-- `_netSend`, stage by stage: the length, what it leaves in `time`, and the clock. -/
def netSendStages (c : PtpClock) (channel : Channel) (length : Nat) (time : TimeInternal)
    (t : Transmission) : Nat × TimeInternal × PtpClock :=
  -- `fail01` and `fail02` return the length as well.
  if t.alloc = false then (length, time, c)
  else if t.take ≠ errOk then (length, time, c)
  else if t.sendto ≠ errOk then (length, time, c)
  else
    let datagram : PtpSent := ⟨channel, bufRead c.msgObuf 0 length⟩
    (length, t.stamp, { c with sent := datagram :: c.sent })

/-- The clock before a transmission and others behind it. -/
def PtpClock.sending (c : PtpClock) (t : Transmission) (later : List (Option TimeInternal)) :
    PtpClock :=
  { c with input := { c.input with
      sends := (if t.Succeeds then some t.stamp else none) :: later } }

/-- `netSend` is `_netSend`, stage by stage. -/
theorem netSend_eq_stages (c : PtpClock) (channel : Channel) (length : Nat) (time : TimeInternal)
    (t : Transmission) (later : List (Option TimeInternal)) :
    netSend (c.sending t later) channel length time =
      netSendStages { c with input := { c.input with sends := later } } channel length time t := by
  unfold netSend netSendStages PtpClock.sending
  by_cases success : t.Succeeds
  · obtain ⟨alloc, take, sendto⟩ := id success
    dsimp only [List.headD_cons, List.tail_cons]
    rw [if_pos success, if_neg (by rw [alloc]; exact nofun), if_neg (not_not.mpr take),
      if_neg (not_not.mpr sendto)]
  · dsimp only [List.headD_cons, List.tail_cons]
    rw [if_neg success]
    dsimp only
    by_cases alloc : t.alloc = false
    · rw [if_pos alloc]
    · rw [if_neg alloc]
      by_cases take : t.take = errOk
      · have sendto : t.sendto ≠ errOk := fun sendto =>
          success ⟨Bool.not_eq_false _ ▸ alloc, take, sendto⟩
        rw [if_neg (not_not.mpr take), if_pos sendto]
      · rw [if_pos take]

/-! ### Messages that are issued -/

/-- The functions that issue a message, with their arguments. -/
inductive Issue where
  | delayReq
  | pdelayReq
  | sync
  | announce
  | followup (time : TimeInternal)
  | pdelayResp (time : TimeInternal) (header : MsgHeader)
  | delayResp (time : TimeInternal) (header : MsgHeader)
  | pdelayRespFollowUp (time : TimeInternal) (header : MsgHeader)

/-- The clock after a message is issued. -/
def Issue.issued (c : PtpClock) : Issue → PtpClock
  | .delayReq => issueDelayReq c
  | .pdelayReq => issuePDelayReq c
  | .sync => issueSync c
  | .announce => issueAnnounce c
  | .followup time => issueFollowup c time
  | .pdelayResp time header => (issuePDelayResp c time header).2
  | .delayResp time header => issueDelayResp c time header
  | .pdelayRespFollowUp time header => issuePDelayRespFollowUp c time header

theorem Issued.moves {c d : PtpClock} {m : Message} (issued : Issued c m d) :
    d.moves = c.moves := by
  obtain ⟨sends, new, channel, rfl, -⟩ := issued
  rfl

/-- No function that issues a message moves the port, whatever becomes of the message. -/
theorem Issue.moves_issued (c : PtpClock) (issue : Issue) : (issue.issued c).moves = c.moves := by
  cases issue with
  | delayReq =>
      obtain ⟨d, m, stamp, issued, -, eq⟩ := issueDelayReq_cases c
      change (issueDelayReq c).moves = _
      rw [eq]
      exact issued.moves
  | pdelayReq =>
      obtain ⟨d, m, stamp, issued, -, eq⟩ := issuePDelayReq_cases c
      change (issuePDelayReq c).moves = _
      rw [eq]
      exact issued.moves
  | sync =>
      obtain ⟨d, m, issued, -, eq | ⟨time, followed⟩⟩ := issueSync_cases c
      · change (issueSync c).moves = _
        rw [eq]
        exact issued.moves
      · exact followed.moves.trans issued.moves
  | announce =>
      obtain ⟨d, issued, eq⟩ := issueAnnounce_cases c
      change (issueAnnounce c).moves = _
      rw [eq]
      exact issued.moves
  | followup time => exact (issueFollowup_cases c time).moves
  | pdelayResp time header => exact (issuePDelayResp_cases c time header).moves
  | delayResp time header => exact (issueDelayResp_cases c time header).moves
  | pdelayRespFollowUp time header => exact (issuePDelayRespFollowUp_cases c time header).moves

/-! ### What goes on instead -/

section Lost

variable {c : PtpClock}

theorem netSend_lost (lost : c.input.sends.headD none = none) (channel : Channel) (length : Nat)
    (time : TimeInternal) : netSend c channel length time =
      (length, time, { c with input := { c.input with sends := c.input.sends.tail } }) := by
  unfold netSend
  rw [lost]

/-- A DelayReq that is lost counts, and its time stamp is the time of the local clock. -/
theorem issueDelayReq_lost (lost : c.input.sends.headD none = none) :
    (issueDelayReq c).sentDelayReqSequenceId = c.sentDelayReqSequenceId + 1 ∧
      ((getTime c).1.seconds ≠ 0 →
        (issueDelayReq c).timestampDelayReqSend = addTime (getTime c).1 c.outboundLatency) := by
  unfold issueDelayReq
  dsimp only
  rw [netSend_lost]
  · dsimp only
    rw [if_neg (MsgType.length_ne_zero _)]
    split
    · exact ⟨rfl, fun _ => rfl⟩
    · next zero => exact ⟨rfl, fun valid => absurd valid zero⟩
  · exact lost

/-- So does a PDelayReq. -/
theorem issuePDelayReq_lost (lost : c.input.sends.headD none = none) :
    (issuePDelayReq c).sentPDelayReqSequenceId = c.sentPDelayReqSequenceId + 1 ∧
      ((getTime c).1.seconds ≠ 0 →
        (issuePDelayReq c).pdelayT1 = addTime (getTime c).1 c.outboundLatency) := by
  unfold issuePDelayReq
  dsimp only
  rw [netSend_lost]
  · dsimp only
    rw [if_neg (MsgType.length_ne_zero _)]
    split
    · exact ⟨rfl, fun _ => rfl⟩
    · next zero => exact ⟨rfl, fun valid => absurd valid zero⟩
  · exact lost

/-- A Sync that is lost counts, and a two-step clock sends its Follow_Up. -/
theorem issueSync_lost (lost : c.input.sends.headD none = none) :
    ∃ d, d.sentSyncSequenceId = c.sentSyncSequenceId + 1 ∧
      issueSync c =
        if (getTime c).1.seconds ≠ 0 ∧ c.defaultDS.twoStepFlag then
          issueFollowup d (addTime (getTime c).1 c.outboundLatency)
        else d := by
  unfold issueSync
  dsimp only
  rw [netSend_lost]
  · dsimp only
    rw [if_neg (MsgType.length_ne_zero _)]
    exact ⟨_, rfl, rfl⟩
  · exact lost

end Lost

/-! ### What a failure should do -/

/-- A failure to send a message as the functions that issue it mean to handle it: nothing counts as
sent, nothing else is sent for it, and the port moves to FAULTY. The tasks of leaving a state may
clear the time stamp of a PDelayReq. -/
structure FailsSafely (c d : PtpClock) : Prop where
  delayReq : d.sentDelayReqSequenceId = c.sentDelayReqSequenceId
  pdelayReq : d.sentPDelayReqSequenceId = c.sentPDelayReqSequenceId
  sync : d.sentSyncSequenceId = c.sentSyncSequenceId
  announce : d.sentAnnounceSequenceId = c.sentAnnounceSequenceId
  delayReqEgress : d.timestampDelayReqSend = c.timestampDelayReqSend
  pdelayReqEgress : d.pdelayT1 = c.pdelayT1 ∨ d.pdelayT1 = {}
  faulty : d.portDS.portState = .faulty
  moved : d.moves = (c.portDS.portState, .faulty) :: c.moves
  silent : d.sent = c.sent

/-- A transmission that fails is never handled as a failure, by none of the functions. -/
theorem failsSafely_iff (c : PtpClock) (issue : Issue) (t : Transmission)
    (later : List (Option TimeInternal)) :
    (¬ t.Succeeds → FailsSafely c (issue.issued (c.sending t later))) ↔ t.Succeeds := by
  constructor
  · intro safe
    by_contra fails
    have moved := (safe fails).moved
    have same : (issue.issued (c.sending t later)).moves = c.moves :=
      issue.moves_issued (c.sending t later)
    rw [same] at moved
    have length := congrArg List.length moved
    rw [List.length_cons] at length
    omega
  · exact fun success fails => absurd success fails

/-- A master finds no buffer for a Sync. -/
theorem lost_sync_not_faulty : ¬ ∀ (c : PtpClock) (issue : Issue) (t : Transmission)
    (later : List (Option TimeInternal)),
    ¬ t.Succeeds → FailsSafely c (issue.issued (c.sending t later)) := by
  intro safe
  have faulty := (safe (ptpRun { slaveOnly := false }
    [.step {}, .step { fires := fun timer => timer = .announceReceipt, times := [⟨1, 0⟩] }])
    .sync ⟨false, 0, 0, {}⟩ [] (by decide)).faulty
  revert faulty
  decide

end LwipExt.Ptp
