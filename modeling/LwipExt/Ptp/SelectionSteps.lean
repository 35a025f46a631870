import LwipExt.Ptp.Selection

/-!
The handlers and the actions of the port state do to `Selection` what `Selection.Act` says.
-/

namespace LwipExt.Ptp

variable (c : PtpClock)

/-! ### Offsets -/

/-- An offset without seconds and with fewer than `DEFAULT_CALIBRATED_OFFSET_NS` nanoseconds. -/
def isCalibrated (offset : TimeInternal) : Prop :=
  offset.seconds = 0 ∧ abs32 offset.nanoseconds < defaultCalibratedOffsetNs

/-- What the flags after a computation of an offset say. -/
def Flags (c d : PtpClock) : Prop :=
  ∃ events, d.selection = { c.selection with events := events } ∧
    events.stateDecisionEvent = c.events.stateDecisionEvent ∧
    (events.masterClockSelected = true → c.events.masterClockSelected = true ∨
      c.portDS.portState = .uncalibrated ∧ isCalibrated d.currentDS.offsetFromMaster)

theorem synchronizationFault_flags : Flags c (synchronizationFault c) := by
  unfold synchronizationFault
  split
  · exact ⟨_, rfl, rfl, .inl⟩
  · exact ⟨c.events, rfl, rfl, .inl⟩

theorem checkOffset_flags (offset : TimeInternal) (held : c.currentDS.offsetFromMaster = offset)
    (seconds : offset.seconds = 0) : Flags c (checkOffset c offset.nanoseconds) := by
  unfold checkOffset
  split
  · next small =>
      split
      · next state =>
          refine ⟨_, rfl, rfl, fun _ => .inr ⟨state, ?_⟩⟩
          dsimp only
          rw [held]
          exact ⟨seconds, small⟩
      · exact ⟨c.events, rfl, rfl, .inl⟩
  · split
    · exact synchronizationFault_flags c
    · exact ⟨c.events, rfl, rfl, .inl⟩

theorem filterOffset_flags (offset : TimeInternal) : Flags c (filterOffset c offset) := by
  unfold filterOffset
  split
  · exact synchronizationFault_flags _
  · next seconds =>
      generalize (filter offset.nanoseconds c.ofmFilt).1 = nanoseconds
      generalize (filter offset.nanoseconds c.ofmFilt).2 = filt
      exact checkOffset_flags { c with
        currentDS := { c.currentDS with
          offsetFromMaster := { offset with nanoseconds := nanoseconds } }
        ofmFilt := filt } { offset with nanoseconds := nanoseconds } rfl
        (not_not.mp seconds)

theorem updateOffset_flags (ingress origin correction : TimeInternal) :
    Flags c (updateOffset c ingress origin correction) := by
  unfold updateOffset
  exact filterOffset_flags { c with
    tms := subTime (subTime ingress origin) correction
    notes := .offsetSample ingress origin correction :: c.notes } _

@[simp] theorem initClock_currentDS : (initClock c).currentDS = c.currentDS := by
  unfold initClock
  dsimp only
  split <;> rfl

@[simp] theorem updateClock_currentDS : (updateClock c).currentDS = c.currentDS := by
  unfold updateClock
  dsimp only
  split
  · split
    · rfl
    · split
      · rfl
      · rw [initClock_currentDS]
        rfl
  · split <;> rfl

theorem timerExpired_currentDS (index : PtpTimer) :
    (timerExpired c index).2.currentDS = c.currentDS := by
  obtain ⟨timers, eq, -⟩ := timerExpired_cases c index
  rw [eq]

theorem issueDelayReq_currentDS : (issueDelayReq c).currentDS = c.currentDS := by
  obtain ⟨d, m, stamp, ⟨sends, new, channel, rfl, -⟩, -, eq⟩ := issueDelayReq_cases c
  rw [eq]
  rfl

theorem issuePDelayReq_currentDS : (issuePDelayReq c).currentDS = c.currentDS := by
  obtain ⟨d, m, stamp, ⟨sends, new, channel, rfl, -⟩, -, eq⟩ := issuePDelayReq_cases c
  rw [eq]
  rfl

@[simp] theorem issueDelayReqTimerExpired_currentDS :
    (issueDelayReqTimerExpired c).currentDS = c.currentDS := by
  unfold issueDelayReqTimerExpired
  cases c.portDS.delayMechanism with
  | e2e =>
      have asked := timerExpired_currentDS c .delayReqInterval
      dsimp only
      split
      · rfl
      · split
        · next eq =>
            rw [eq] at asked
            rw [issueDelayReq_currentDS]
            exact asked
        · next eq =>
            rw [eq] at asked
            exact asked
  | p2p =>
      have asked := timerExpired_currentDS c .pdelayReqInterval
      dsimp only
      split
      · next eq =>
          rw [eq] at asked
          rw [issuePDelayReq_currentDS]
          exact asked
      · next eq =>
          rw [eq] at asked
          exact asked
  | delayDisabled => rfl

/-! ### Handlers -/

section Handlers

variable (announced : PortIdentity → Prop) (old : PtpClock)

/-- The clock `d` heard what `Selection.Hear` says since `c`, and noted it since `old`. -/
def Heard (c d : PtpClock) : Prop :=
  Selection.Hear (calibrates old d) announced c.selection d.selection

variable {announced old} {c : PtpClock} {header : MsgHeader} {payload : Bytes}
  {time : TimeInternal}

theorem Heard.of_eq {d : PtpClock} (same : d.selection = c.selection) : Heard announced old c d := by
  rw [Heard, same]
  exact .ignored

theorem Heard.fault : Heard announced old c (toState c .faulty) := by
  rw [Heard, toState_selection]
  exact .fault

/-- An offset from a Sync or a Follow_Up of the parent, and what follows it. -/
theorem useOffset_selection
    (received : c.notes = .received header payload time :: old.notes)
    (sync : Note.isSyncOf old.parentDS.parentPortIdentity (.received header payload time) = true)
    (ingress origin correction : TimeInternal) :
    Heard announced old c
      (issueDelayReqTimerExpired (updateClock (updateOffset c ingress origin correction))) := by
  obtain ⟨events, eq, decision, selected⟩ := updateOffset_flags c ingress origin correction
  obtain ⟨offsets, memory⟩ := updateOffset_memory c ingress origin correction
  have computed : (updateOffset c ingress origin correction).notes =
      .offsetSample ingress origin correction :: .received header payload time :: old.notes := by
    rw [← received]
    exact congrArg Memory.notes memory
  have adjusted : Memory.Changes False _ _ :=
    adjustClock_memory (updateOffset c ingress origin correction)
  obtain ⟨more, grown⟩ := adjusted.notes
  have offset : (issueDelayReqTimerExpired (updateClock
      (updateOffset c ingress origin correction))).currentDS =
        (updateOffset c ingress origin correction).currentDS := by
    rw [issueDelayReqTimerExpired_currentDS, updateClock_currentDS]
  have selection : (issueDelayReqTimerExpired (updateClock
      (updateOffset c ingress origin correction))).selection =
        (updateOffset c ingress origin correction).selection := by
    rw [issueDelayReqTimerExpired_selection, updateClock_selection]
  rw [Heard, selection]
  generalize issueDelayReqTimerExpired _ = final at grown offset ⊢
  generalize updateOffset c ingress origin correction = used at *
  rw [eq]
  refine .offset decision fun flag => ?_
  rcases selected flag with before | ⟨state, seconds, nanoseconds⟩
  · exact .inl before
  · refine .inr ⟨?_, state⟩
    have new : newNotes old final = more ++ [.offsetSample ingress origin correction,
        .received header payload time] := by
      apply newNotes_of_append
      have grown : more ++ used.notes = final.notes := grown
      rw [← grown, computed, List.append_assoc]
      rfl
    rw [calibrates, new, offset]
    refine ⟨?_, ?_, seconds, nanoseconds⟩
    · simp [sync]
    · simp [Note.isOffset]

theorem handleAnnounce_selection (sender : announced header.sourcePortIdentity)
    (isFromSelf : Bool) :
    Heard announced old c (handleAnnounce c header payload isFromSelf) := by
  have foreign {d : PtpClock} (eq : d.selection = c.selection.due)
      (state : Control.decides c.portDS.portState) :
      Heard announced old c (addForeign d header (msgUnpackAnnounce payload)) := by
    have added : (addForeign d header (msgUnpackAnnounce payload)).selection =
        { d.selection with
          foreignMasterDS := d.foreignMasterDS.add header (msgUnpackAnnounce payload) } := by
      unfold addForeign ForeignMasterDS.add
      dsimp only
      cases findForeign d.foreignMasterDS header.sourcePortIdentity d.foreignMasterDS.count
        d.foreignMasterDS.best <;> rfl
    have masters : d.foreignMasterDS = c.foreignMasterDS := congrArg Selection.foreignMasterDS eq
    rw [Heard, added, eq, masters]
    exact .foreign state sender
  have parent (state : synchronizes c.portDS.portState)
      (same : isSamePortIdentity c.parentDS.parentPortIdentity header.sourcePortIdentity = true) :
      Heard announced old c
        (startAnnounceReceipt (s1 (setStateDecision c) header (msgUnpackAnnounce payload))) := by
    have followed : (startAnnounceReceipt (s1 (setStateDecision c) header
        (msgUnpackAnnounce payload))).selection =
          (c.selection.adopt header (msgUnpackAnnounce payload)).due := by
      have flags : (s1 (setStateDecision c) header (msgUnpackAnnounce payload)).events =
          (setStateDecision c).events := if_pos same
      change { (s1 (setStateDecision c) header (msgUnpackAnnounce payload)).selection with
        events := (s1 (setStateDecision c) header (msgUnpackAnnounce payload)).events } = _
      rw [flags]
      rfl
    rw [Heard, followed]
    exact .parent state (isSamePortIdentity_iff.mp same).symm
  unfold handleAnnounce
  split
  · exact .fault
  · split
    · exact .of_eq rfl
    · dsimp only
      cases state : c.portDS.portState with
      | initializing | faulty | disabled => exact .of_eq rfl
      | uncalibrated =>
          dsimp only
          split
          · next same => exact parent (.inl state) same
          · exact foreign rfl (by rw [state]; exact ⟨nofun, nofun, nofun⟩)
      | slave =>
          dsimp only
          split
          · next same => exact parent (.inr state) same
          · exact foreign rfl (by rw [state]; exact ⟨nofun, nofun, nofun⟩)
      | passive | master | preMaster | listening =>
          exact foreign rfl (by rw [state]; exact ⟨nofun, nofun, nofun⟩)

theorem handleSync_selection (received : c.notes = .received header payload time :: old.notes)
    (parent : c.parentDS = old.parentDS)
    (type : MsgType.ofCode header.messageType = some .sync) (isFromSelf : Bool) :
    Heard announced old c (handleSync c header payload time isFromSelf) := by
  unfold handleSync
  split
  · exact .fault
  · cases c.portDS.portState with
    | uncalibrated | slave =>
        dsimp only
        split
        · exact .of_eq rfl
        · split
          · next same =>
              have source : header.sourcePortIdentity = old.parentDS.parentPortIdentity := by
                rw [← parent]
                exact (isSamePortIdentity_iff.mp same).symm
              split
              · exact .of_eq rfl
              · exact useOffset_selection
                  (c := { c with timestampSyncRecieve := time, waitingForFollowUp := false })
                  received (by simp [Note.isSyncOf, type, source]) _ _ _
          · exact .of_eq rfl
    | passive => exact .of_eq (issueDelayReqTimerExpired_selection c)
    | initializing | faulty | disabled | master | listening | preMaster => exact .of_eq rfl

theorem handleFollowUp_selection
    (received : c.notes = .received header payload time :: old.notes)
    (parent : c.parentDS = old.parentDS)
    (type : MsgType.ofCode header.messageType = some .followUp) (isFromSelf : Bool) :
    Heard announced old c (handleFollowUp c header payload isFromSelf) := by
  unfold handleFollowUp
  split
  · exact .fault
  · split
    · exact .of_eq rfl
    · cases c.portDS.portState with
      | uncalibrated | slave =>
          dsimp only
          split
          · exact .of_eq rfl
          · split
            · exact .of_eq rfl
            · next same =>
                have source : header.sourcePortIdentity = old.parentDS.parentPortIdentity := by
                  rw [← parent]
                  exact (isSamePortIdentity_iff.mp (by simpa using same)).symm
                split
                · exact .of_eq rfl
                · exact useOffset_selection (c := { c with waitingForFollowUp := false })
                    received (by simp [Note.isSyncOf, type, source]) _ _ _
      | passive => exact .of_eq (issueDelayReqTimerExpired_selection c)
      | initializing | faulty | disabled | listening | master | preMaster => exact .of_eq rfl

theorem handleDelayReq_selection : Heard announced old c (handleDelayReq c header payload time) := by
  unfold handleDelayReq
  split
  · split
    · exact .fault
    · split
      · exact .of_eq (issueDelayResp_cases c time header).selection
      · exact .of_eq rfl
  · exact .of_eq rfl
  · exact .of_eq rfl

theorem handleDelayResp_selection : Heard announced old c (handleDelayResp c header payload) := by
  have kept (d : PtpClock) (interval : Int8) :
      ({ d with portDS := { d.portDS with logMinDelayReqInterval := interval } } :
        PtpClock).selection = d.selection := rfl
  unfold handleDelayResp
  split
  · split
    · exact .fault
    · split
      · dsimp only
        split
        · refine .of_eq ?_
          rw [kept, updateDelay_selection]
          rfl
        · exact .of_eq rfl
      · exact .of_eq rfl
  · exact .of_eq rfl
  · exact .of_eq rfl

theorem handlePDelayReq_selection (isFromSelf : Bool) :
    Heard announced old c (handlePDelayReq c header payload time isFromSelf) := by
  have first := (issuePDelayResp_cases c time header).selection
  unfold handlePDelayReq
  cases c.portDS.delayMechanism with
  | p2p =>
      dsimp only
      split
      · exact .fault
      · cases c.portDS.portState with
        | passive | slave | master =>
            dsimp only
            split
            · exact .of_eq rfl
            · split
              · exact .of_eq ((issuePDelayRespFollowUp_cases _ _ _).selection.trans first)
              · exact .of_eq first
        | initializing | faulty | disabled | uncalibrated | listening | preMaster =>
            exact .of_eq rfl
  | e2e | delayDisabled => exact .of_eq rfl

theorem handlePDelayResp_selection (isFromSelf : Bool) :
    Heard announced old c (handlePDelayResp c header payload time isFromSelf) := by
  unfold handlePDelayResp
  cases c.portDS.delayMechanism with
  | p2p =>
      dsimp only
      split
      · exact .fault
      · cases c.portDS.portState with
        | master | slave =>
            dsimp only
            split
            · exact .of_eq rfl
            · split
              · split
                · exact .of_eq rfl
                · refine .of_eq ?_
                  rw [updatePeerDelay_selection]
                  rfl
              · exact .of_eq rfl
        | initializing | faulty | disabled | uncalibrated | listening | passive | preMaster =>
            exact .of_eq rfl
  | e2e | delayDisabled => exact .of_eq rfl

theorem handlePDelayRespFollowUp_selection :
    Heard announced old c (handlePDelayRespFollowUp c header payload) := by
  have kept (d : PtpClock) : ({ d with waitingForPDelayRespFollowUp := false } :
      PtpClock).selection = d.selection := rfl
  unfold handlePDelayRespFollowUp
  cases c.portDS.delayMechanism with
  | p2p =>
      dsimp only
      split
      · exact .fault
      · cases c.portDS.portState with
        | slave | master =>
            dsimp only
            split
            · exact .of_eq rfl
            · split
              · refine .of_eq ?_
                rw [kept, updatePeerDelay_selection]
                rfl
              · exact .of_eq rfl
        | initializing | faulty | disabled | uncalibrated | listening | passive | preMaster =>
            exact .of_eq rfl
  | e2e | delayDisabled => exact .of_eq rfl

theorem dispatch_selection (received : c.notes = .received header payload time :: old.notes)
    (parent : c.parentDS = old.parentDS) (isFromSelf : Bool)
    (sender : MsgType.ofCode header.messageType = some .announce →
      announced header.sourcePortIdentity) :
    Heard announced old c (dispatch c header payload time isFromSelf) := by
  unfold dispatch
  split
  · next type => exact handleAnnounce_selection (sender type) isFromSelf
  · next type => exact handleSync_selection received parent type isFromSelf
  · next type => exact handleFollowUp_selection received parent type isFromSelf
  · exact handleDelayReq_selection
  · exact handlePDelayReq_selection isFromSelf
  · exact handleDelayResp_selection
  · exact handlePDelayResp_selection isFromSelf
  · exact handlePDelayRespFollowUp_selection
  · exact .of_eq rfl
  · exact .of_eq rfl
  · exact .of_eq rfl

/-- An Announce that was noted before the history grew. -/
theorem announces_of_grown {d : PtpClock}
    (grown : .received header payload time :: old.notes <:+ d.notes)
    (type : MsgType.ofCode header.messageType = some .announce) :
    announces old d header.sourcePortIdentity := by
  obtain ⟨more, grown⟩ := grown
  have new : newNotes old d = more ++ [.received header payload time] := by
    apply newNotes_of_append
    rw [← grown, List.append_assoc]
    rfl
  rw [announces, new]
  simp [Note.isAnnounceOf, type]

/-- What the datagram of a step does. -/
theorem handle_selection (safe : c.memory.Safe) :
    Heard (announces c (handle c)) c c (handle c) := by
  unfold handle
  split
  · exact .of_eq rfl
  · next packet _ =>
      split
      · exact .fault
      · dsimp only
        split
        · exact .of_eq rfl
        · split
          · exact .of_eq rfl
          · have changes : Memory.Changes False _ _ := dispatch_memory
              (noted c (.received (msgUnpackHeader packet.payload) packet.payload
                (receiveTime c packet.time (isSamePortIdentity c.portDS.portIdentity
                  (msgUnpackHeader packet.payload).sourcePortIdentity)))) safe rfl
              (isSamePortIdentity c.portDS.portIdentity
                (msgUnpackHeader packet.payload).sourcePortIdentity)
            exact dispatch_selection (c := noted c _) rfl rfl _ (announces_of_grown changes.notes)

end Handlers

/-! ### The actions of the port state -/

theorem Selection.Hear.mono {calibrated calibrated' : Prop} {announced announced' : PortIdentity → Prop}
    {a b : Selection} (heard : Hear calibrated announced a b) (weaker : calibrated → calibrated')
    (weaker' : ∀ source, announced source → announced' source) :
    Hear calibrated' announced' a b := by
  cases heard with
  | ignored => exact .ignored
  | fault => exact .fault
  | parent state sender => exact .parent state sender
  | foreign state sender => exact .foreign state (weaker' _ sender)
  | offset decision selected =>
      exact .offset decision fun flag => (selected flag).imp_right fun both =>
        ⟨weaker both.1, both.2⟩

/-- What was noted on the way to a clock was noted on the way to a later one. -/
theorem newNotes_grown {c d e : PtpClock} {p : Note → Bool} (first : c.notes <:+ d.notes)
    (second : d.notes <:+ e.notes) (noted : (newNotes c d).any p = true) :
    (newNotes c e).any p = true := by
  obtain ⟨new, first⟩ := first
  obtain ⟨more, second⟩ := second
  have all : newNotes c e = more ++ new := by
    apply newNotes_of_append
    rw [← second, ← first, List.append_assoc]
  rw [newNotes_of_append first.symm] at noted
  rw [all, List.any_append, noted, Bool.or_true]

variable {c}

/-- The datagram of a clock that took only timers and messages of its own before, and after. -/
theorem hear_selection {d e : PtpClock} (safe : c.memory.Safe) (memory : d.memory = c.memory)
    (selection : d.selection = c.selection) (after : e.selection = (handle d).selection)
    (offset : e.currentDS = (handle d).currentDS) (grown : (handle d).notes <:+ e.notes) :
    Selection.Hear (calibrates c e) (announces c e) c.selection e.selection := by
  have notes : d.notes = c.notes := congrArg Memory.notes memory
  have parent : d.parentDS = c.parentDS := congrArg Selection.parentDS selection
  rw [← memory] at safe
  have heard := handle_selection safe
  have changes : Memory.Changes False d.memory (handle d).memory := handle_memory d safe
  have first : d.notes <:+ (handle d).notes := changes.notes
  have same (f : PtpClock) : newNotes d f = newNotes c f := by
    rw [newNotes, newNotes, notes]
  rw [notes] at first
  rw [after, ← selection]
  refine Selection.Hear.mono heard ?_ ?_
  · rintro ⟨sync, sampled, small⟩
    rw [same] at sync sampled
    rw [parent] at sync
    rw [calibrates, offset]
    exact ⟨newNotes_grown first grown sync, newNotes_grown first grown sampled, small⟩
  · intro source announced
    rw [announces, same] at announced
    exact newNotes_grown first grown announced

theorem announceTimeout_selection (calibrated : Prop) (announced : PortIdentity → Prop)
    (waiting : Selection.waits c.portDS.portState) :
    Selection.Act calibrated announced c.selection (announceTimeout c).selection := by
  have forgotten : (clearForeign c).selection = c.selection.forget := rfl
  have led : (recommendMaster (clearForeign c)).selection =
      { c.selection.forget.adoptLocal with recommendedState := .master } := rfl
  unfold announceTimeout
  dsimp only
  split
  · next able =>
      rw [toState_selection, led]
      exact .promote waiting (by simpa [clearForeign, PtpClock.selection] using able)
  · split
    · rw [toState_selection, forgotten]
      exact .relisten waiting
    · next state =>
        rw [forgotten]
        exact .deaf (not_not.mp state)

theorem doInit_selection {d : PtpClock} (done : doInit c = (true, d)) :
    ∃ ds, d.selection = c.selection.init ds := by
  unfold doInit at done
  split at done
  · have started (e : PtpClock) (a : Selection) (same : e.selection = a) :
        (startBuffer (m1 e)).selection = a.adoptLocal := by
      rw [← same]
      rfl
    rw [← (Prod.mk.inj done).2, started _ _ (initClock_selection _)]
    exact ⟨_, rfl⟩
  · cases done

/-- The actions of the port state are as `Selection.Act` says. -/
def Acted (c d : PtpClock) : Prop :=
  Selection.Act (calibrates c d) (announces c d) c.selection d.selection

theorem portActions_selection (safe : c.memory.Safe) : Acted c (portActions c) := by
  have hears {d e : PtpClock} (awake : c.portDS.portState ≠ .initializing ∧
      c.portDS.portState ≠ .faulty) (memory : d.memory = c.memory)
      (selection : d.selection = c.selection) (after : e.selection = (handle d).selection)
      (offset : e.currentDS = (handle d).currentDS) (grown : (handle d).notes <:+ e.notes) :
      Acted c e := .hear awake (hear_selection safe memory selection after offset grown)
  by_cases state : Selection.waits c.portDS.portState
  · rw [portActions_waiting state]
    have awake : c.portDS.portState ≠ .initializing ∧ c.portDS.portState ≠ .faulty := by
      rcases state with held | held | held | held <;> rw [held] <;> decide
    have memory := timerExpired_memory c .announceReceipt
    have selection := timerExpired_selection c .announceReceipt
    have port : (timerExpired c .announceReceipt).2.portDS.portState = c.portDS.portState :=
      congrArg Memory.portState memory
    rw [← port] at state
    generalize timerExpired c .announceReceipt = result at memory selection state ⊢
    obtain ⟨due, d⟩ := result
    cases due with
    | true =>
        dsimp only at selection ⊢
        rw [if_pos rfl, Acted, ← selection]
        exact announceTimeout_selection _ _ state
    | false =>
        rw [if_neg Bool.false_ne_true]
        exact hears awake memory selection rfl rfl List.suffix_rfl
  unfold portActions
  cases held : c.portDS.portState with
  | initializing =>
      cases done : doInit c with
      | mk succeeded d =>
          cases succeeded with
          | true =>
              obtain ⟨ds, eq⟩ := doInit_selection done
              dsimp only
              rw [Acted, toState_selection, eq]
              exact .init held
          | false =>
              dsimp only
              rw [doInit_fails done, Acted, toState_selection]
              exact .initFails held
  | faulty =>
      rw [Acted, toState_selection]
      exact .clear held
  | disabled => exact hears (by rw [held]; decide) rfl rfl rfl rfl List.suffix_rfl
  | listening => exact absurd (.inl held) state
  | uncalibrated => exact absurd (.inr (.inl held)) state
  | slave => exact absurd (.inr (.inr (.inl held))) state
  | passive => exact absurd (.inr (.inr (.inr held))) state
  | master =>
      have memory : (announceIntervalTimeout (syncTimeout c)).memory = c.memory := by
        rw [announceIntervalTimeout_memory, syncTimeout_memory]
      have selection : (announceIntervalTimeout (syncTimeout c)).selection = c.selection := by
        rw [announceIntervalTimeout_selection, syncTimeout_selection]
      exact hears (by rw [held]; decide) memory selection
        (issueDelayReqTimerExpired_selection _) (issueDelayReqTimerExpired_currentDS _)
        (issueDelayReqTimerExpired_memory _ False).notes
  | preMaster => exact .none held

/-! ### One action -/

/-- A step of the state machine on `Selection`. -/
theorem ptpStep_selection (safe : c.memory.Safe) (input : PtpInput) :
    ∃ a qualified, Selection.Decide (bmc c).1 (decidingRecord c).header.sourcePortIdentity
        c.selection a ∧
      (beforeActions c input).selection = a.follow qualified ∧
      Acted (beforeActions c input) (ptpStep c (.step input)) := by
  obtain ⟨same, advised⟩ : chosen { c with input := input } = chosen c ∧
      (bmc { c with input := input }).1 = (bmc c).1 := bmc_congr rfl rfl rfl
  have record : decidingRecord { c with input := input } = decidingRecord c := by
    rw [decidingRecord, decidingRecord, same]
  have decided := decideState_selection { c with input := input }
  rw [advised, record] at decided
  exact ⟨_, _, decided, followRecommendation_selection _,
    portActions_selection (safe.changes (beforeActions_memory safe input))⟩

@[simp] theorem ptpStep_expire_selection (timer : PtpTimer) :
    (ptpStep c (.expire timer)).selection = c.selection := timerCallback_selection c timer

theorem startup_safe (rtOpts : RunTimeOpts) : (ptpdStartup rtOpts).memory.Safe := nofun

/-- A Follow_Up is awaited only in a state that uses it, in every run. -/
theorem ptpRun_safe (rtOpts : RunTimeOpts) (actions : List PtpAction) :
    (ptpRun rtOpts actions).memory.Safe := by
  refine Lib.run_invariant_of_step (fun c : PtpClock => c.memory.Safe) ?_
    (startup_safe rtOpts) actions
  intro c action safe
  cases action with
  | expire timer =>
      change (timerCallback c timer).memory.Safe
      rw [timerCallback_memory]
      exact safe
  | step input => exact safe.changes (ptpStep_memory safe input)

/-- What the parts of a step preserve, a run preserves. -/
theorem selection_invariant (Inv : Selection → Prop)
    (step : ∀ {a b d calibrated announced advised source qualified},
      Selection.Decide advised source a b → Selection.Act calibrated announced (b.follow qualified) d →
      Inv a → Inv d)
    {rtOpts : RunTimeOpts} (init : Inv (ptpdStartup rtOpts).selection) (actions : List PtpAction) :
    Inv (ptpRun rtOpts actions).selection := by
  have both : (ptpRun rtOpts actions).memory.Safe ∧ Inv (ptpRun rtOpts actions).selection := by
    refine Lib.run_invariant_of_step
      (fun c : PtpClock => c.memory.Safe ∧ Inv c.selection) ?_ ⟨startup_safe rtOpts, init⟩ actions
    rintro c action ⟨safe, inv⟩
    cases action with
    | expire timer =>
        rw [ptpStep_expire_selection]
        refine ⟨?_, inv⟩
        change (timerCallback c timer).memory.Safe
        rw [timerCallback_memory]
        exact safe
    | step input =>
        obtain ⟨a, qualified, decided, followed, acted⟩ := ptpStep_selection safe input
        refine ⟨safe.changes (ptpStep_memory safe input), ?_⟩
        rw [Acted, followed] at acted
        exact step decided acted inv
  exact both.2

end LwipExt.Ptp
