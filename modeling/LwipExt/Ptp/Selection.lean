import LwipExt.Ptp.Recall

/-!
The selection of a master without the messages and the times behind it.

`Selection` keeps of a clock what decides whom it follows: the states, the data sets of the parent,
the foreign masters and the flags. `Decide`, `follow` and `Act` say what the three parts of the
state machine do to it.
-/

namespace LwipExt.Ptp

/-- What decides whom a clock follows, and what came of it. -/
structure Selection where
  portState : PortState
  recommendedState : PortState
  parentDS : ParentDS
  stepsRemoved : Int16
  defaultDS : DefaultDS
  foreignMasterDS : ForeignMasterDS
  events : Events
  rtOpts : RunTimeOpts
  moves : List (PortState × PortState)

def PtpClock.selection (c : PtpClock) : Selection where
  portState := c.portDS.portState
  recommendedState := c.recommendedState
  parentDS := c.parentDS
  stepsRemoved := c.currentDS.stepsRemoved
  defaultDS := c.defaultDS
  foreignMasterDS := c.foreignMasterDS
  events := c.events
  rtOpts := c.rtOpts
  moves := c.moves

/-- `addForeign` on the foreign masters. -/
def ForeignMasterDS.add (ds : ForeignMasterDS) (header : MsgHeader) (announce : MsgAnnounce) :
    ForeignMasterDS :=
  match findForeign ds header.sourcePortIdentity ds.count ds.best with
  | some j =>
      ds.setRecord j { ds.record j with
        foreignMasterAnnounceMessages := (ds.record j).foreignMasterAnnounceMessages + 1
        header := header
        announce := announce }
  | none =>
      let ds := if ds.count < ds.capacity then { ds with count := ds.count + 1 } else ds
      { ds.setRecord ds.i
          { foreignMasterPortIdentity := header.sourcePortIdentity
            foreignMasterAnnounceMessages := 0
            header := header
            announce := announce } with
        i := (ds.i + 1) % ds.capacity }

/-- The parent that a master data set and an Announce describe. -/
def parentOf (header : MsgHeader) (announce : MsgAnnounce) : ParentDS where
  parentPortIdentity := header.sourcePortIdentity
  grandmasterIdentity := announce.grandmasterIdentity
  grandmasterClockQuality := announce.grandmasterClockQuality
  grandmasterPriority1 := announce.grandmasterPriority1
  grandmasterPriority2 := announce.grandmasterPriority2

/-- The parent of a clock that follows none. -/
def localParent (ds : DefaultDS) : ParentDS where
  parentPortIdentity := ⟨ds.clockIdentity, 0⟩
  grandmasterIdentity := ds.clockIdentity
  grandmasterClockQuality := ds.clockQuality
  grandmasterPriority1 := ds.priority1
  grandmasterPriority2 := ds.priority2

namespace Selection

/-! ### The three parts of the state machine -/

def toState (a : Selection) (state : PortState) : Selection :=
  let entered := if state = .preMaster then .master else state
  { a with
    portState := entered
    recommendedState :=
      if state = .initializing ∨ state = .listening then state else a.recommendedState
    moves := (a.portState, entered) :: a.moves }

/-- `m1`. -/
def adoptLocal (a : Selection) : Selection :=
  { a with parentDS := localParent a.defaultDS, stepsRemoved := 0 }

/-- `s1`, when the flags are left alone. -/
def adopt (a : Selection) (header : MsgHeader) (announce : MsgAnnounce) : Selection :=
  { a with parentDS := parentOf header announce, stepsRemoved := announce.stepsRemoved + 1 }

/-- A state decision is due. -/
def due (a : Selection) : Selection :=
  { a with events := { a.events with stateDecisionEvent := true } }

/-- The clock after a state decision with a recommendation. -/
def decided (a : Selection) (best : Nat) (state : PortState) (changed : Bool) : Selection :=
  { a with
    recommendedState := state
    foreignMasterDS := { a.foreignMasterDS with best := best }
    events := { a.events with
      stateDecisionEvent := false
      masterClockChanged := a.events.masterClockChanged || changed } }

/-- The state decision; `advised` and `source` are the state that `bmc` recommends and the sender
of the record that it recommends it for. -/
inductive Decide (advised : PortState) (source : PortIdentity) (a : Selection) :
    Selection → Prop where
  | none (idle : a.events.stateDecisionEvent = true → ¬ Control.decides a.portState) :
      Decide advised source a a
  | stay {best : Nat} {state : PortState} (awake : Control.decides a.portState)
      (event : a.events.stateDecisionEvent = true) (other : advised ≠ .slave)
      (within : 0 < a.foreignMasterDS.count → best < a.foreignMasterDS.count)
      (known : state = .listening ∨ state = .passive) :
      Decide advised source a (a.decided best state false)
  | lead {best : Nat} {state : PortState} (awake : Control.decides a.portState)
      (event : a.events.stateDecisionEvent = true) (other : advised ≠ .slave)
      (within : 0 < a.foreignMasterDS.count → best < a.foreignMasterDS.count)
      (known : state = .listening ∨ state = .master) :
      Decide advised source a (a.decided best state false).adoptLocal
  | follow {best : Nat} {header : MsgHeader} {announce : MsgAnnounce} {changed : Bool}
      (awake : Control.decides a.portState) (event : a.events.stateDecisionEvent = true)
      (slave : advised = .slave) (sender : header.sourcePortIdentity = source)
      (within : 0 < a.foreignMasterDS.count → best < a.foreignMasterDS.count) :
      Decide advised source a ((a.decided best .slave changed).adopt header announce)

/-- `MASTER_CLOCK_SELECTED` is consumed. -/
def select (a : Selection) : Selection :=
  if a.events.masterClockSelected then
    { a with events := { a.events with masterClockSelected := false } }.toState .slave
  else a

/-- `SYNCHRONIZATION_FAULT` is consumed. -/
def desynchronize (a : Selection) : Selection :=
  if a.events.synchronizationFault then
    { a with events := { a.events with synchronizationFault := false } }.toState .uncalibrated
  else a

def clearChanged (a : Selection) : Selection :=
  { a with events := { a.events with masterClockChanged := false } }

/-- `MASTER_CLOCK_CHANGED` is consumed in state SLAVE. -/
def consumeChanged (a : Selection) : Selection :=
  if a.events.masterClockChanged then a.clearChanged.toState .uncalibrated else a

/-- The second switch; `qualified` says whether the qualification timer has expired. -/
def follow (qualified : Bool) (a : Selection) : Selection :=
  match a.recommendedState with
  | .master =>
      match a.portState with
      | .preMaster => if qualified then a.toState .master else a
      | .master => a
      | _ => a.toState .preMaster
  | .passive => if a.portState ≠ .passive then a.toState .passive else a
  | .slave =>
      match a.portState with
      | .uncalibrated => a.select.clearChanged
      | .slave => a.desynchronize.consumeChanged
      | _ => a.toState .uncalibrated
  | .listening => if a.portState ≠ .listening then a.toState .listening else a
  | .initializing | .faulty | .disabled | .preMaster | .uncalibrated => a

/-- What a datagram does. `calibrated` says whether it gives a small offset from the parent, and
`announced` whose Announce it is. -/
inductive Hear (calibrated : Prop) (announced : PortIdentity → Prop) (a : Selection) :
    Selection → Prop where
  | ignored : Hear calibrated announced a a
  | fault : Hear calibrated announced a (a.toState .faulty)
  | parent {header : MsgHeader} {announce : MsgAnnounce} (state : synchronizes a.portState)
      (sender : header.sourcePortIdentity = a.parentDS.parentPortIdentity) :
      Hear calibrated announced a (a.adopt header announce).due
  | foreign {header : MsgHeader} {announce : MsgAnnounce} (state : Control.decides a.portState)
      (sender : announced header.sourcePortIdentity) :
      Hear calibrated announced a
        { a.due with foreignMasterDS := a.foreignMasterDS.add header announce }
  | offset {events : Events} (decision : events.stateDecisionEvent = a.events.stateDecisionEvent)
      (selected : events.masterClockSelected = true →
        a.events.masterClockSelected = true ∨ calibrated ∧ a.portState = .uncalibrated) :
      Hear calibrated announced a { a with events := events }

/-- The foreign masters are forgotten. -/
def forget (a : Selection) : Selection :=
  { a with foreignMasterDS := { a.foreignMasterDS with count := 0, i := 0 } }

/-- The data sets after `_doInit`. -/
def init (a : Selection) (ds : DefaultDS) : Selection :=
  { a with
    defaultDS := ds
    parentDS := localParent ds
    stepsRemoved := 0
    foreignMasterDS := { a.foreignMasterDS with
      count := 0
      capacity := a.rtOpts.maxForeignRecords } }

/-- The states that wait for Announces. -/
def waits (state : PortState) : Prop :=
  state = .listening ∨ state = .uncalibrated ∨ state = .slave ∨ state = .passive

/-- The actions of the port state. -/
inductive Act (calibrated : Prop) (announced : PortIdentity → Prop) (a : Selection) :
    Selection → Prop where
  | init {ds : DefaultDS} (state : a.portState = .initializing) :
      Act calibrated announced a ((a.init ds).toState .listening)
  | initFails (state : a.portState = .initializing) :
      Act calibrated announced a (a.toState .faulty)
  | clear (state : a.portState = .faulty) : Act calibrated announced a (a.toState .initializing)
  | promote (state : waits a.portState) (able : isSlaveOnly a.defaultDS = false) :
      Act calibrated announced a
        ({ a.forget.adoptLocal with recommendedState := .master }.toState .master)
  | relisten (state : waits a.portState) :
      Act calibrated announced a (a.forget.toState .listening)
  | deaf (state : a.portState = .listening) : Act calibrated announced a a.forget
  | hear {b : Selection} (awake : a.portState ≠ .initializing ∧ a.portState ≠ .faulty)
      (heard : Hear calibrated announced a b) : Act calibrated announced a b
  | none (state : a.portState = .preMaster) : Act calibrated announced a a

end Selection

/-! ### What a datagram did -/

/-- What the daemon noted on the way from one clock to another, newest first. -/
def newNotes (c d : PtpClock) : List Note := d.notes.take (d.notes.length - c.notes.length)

/-- An Announce of a sender. -/
def Note.isAnnounceOf (source : PortIdentity) : Note → Bool
  | .received header _ _ =>
      MsgType.ofCode header.messageType = some .announce && header.sourcePortIdentity = source
  | _ => false

/-- A Sync or a Follow_Up of a sender. -/
def Note.isSyncOf (source : PortIdentity) : Note → Bool
  | .received header _ _ =>
      (MsgType.ofCode header.messageType = some .sync ||
        MsgType.ofCode header.messageType = some .followUp) && header.sourcePortIdentity = source
  | _ => false

def Note.isOffset : Note → Bool
  | .offsetSample _ _ _ => true
  | _ => false

/-- An Announce of a sender was handled. -/
def announces (c d : PtpClock) (source : PortIdentity) : Prop :=
  (newNotes c d).any (Note.isAnnounceOf source) = true

/-- A Sync or Follow_Up of the parent was used, and its filtered offset has no seconds and fewer
than `DEFAULT_CALIBRATED_OFFSET_NS` nanoseconds. -/
def calibrates (c d : PtpClock) : Prop :=
  (newNotes c d).any (Note.isSyncOf c.parentDS.parentPortIdentity) = true ∧
    (newNotes c d).any Note.isOffset = true ∧
    d.currentDS.offsetFromMaster.seconds = 0 ∧
    abs32 d.currentDS.offsetFromMaster.nanoseconds < defaultCalibratedOffsetNs

instance (c d : PtpClock) (source : PortIdentity) : Decidable (announces c d source) :=
  inferInstanceAs (Decidable (_ = _))

instance (c d : PtpClock) : Decidable (calibrates c d) := inferInstanceAs (Decidable (_ ∧ _))

theorem newNotes_of_append {c d : PtpClock} {new : List Note} (grown : d.notes = new ++ c.notes) :
    newNotes c d = new := by
  rw [newNotes, grown, List.length_append, Nat.add_sub_cancel, List.take_left]

/-- The history only grows. -/
theorem Memory.Changes.notes {switched : Prop} {a b : Memory} (changes : Changes switched a b) :
    a.notes <:+ b.notes := by
  refine changes.invariant (fun m => a.notes <:+ m.notes) ?_ List.suffix_rfl
  intro m m' change grown
  cases change with
  | clear | receive _ _ _ | syncOneStep _ _ _ _ | followUp _ _ _ _ _ _ _ | delayReq _
  | pdelayReq _ | pdelayResp _ _ => exact grown.trans (List.suffix_cons _ _)
  | enter _ _ | adopt _ _ | sync _ _ _ _ => exact grown
  | delayResp _ _ _ | pdelayRespOneStep _ _ _ | pdelayRespFollowUp _ _ _ _ =>
      exact grown.trans ((List.suffix_cons _ _).trans (List.suffix_append _ _))

/-! ### What leaves the selection alone -/

variable (c : PtpClock)

@[simp] theorem initClock_selection : (initClock c).selection = c.selection := by
  unfold initClock
  dsimp only
  split <;> rfl

@[simp] theorem updateClock_selection : (updateClock c).selection = c.selection := by
  unfold updateClock
  dsimp only
  split
  · split
    · rfl
    · split
      · rfl
      · rw [initClock_selection]
        rfl
  · split <;> rfl

@[simp] theorem filterDelay_selection (delay : TimeInternal) (times : List TimeInternal) :
    (filterDelay c delay times).selection = c.selection := by
  unfold filterDelay
  split <;> rfl

@[simp] theorem updateDelay_selection (egress recieve correction : TimeInternal) :
    (updateDelay c egress recieve correction).selection = c.selection := by
  unfold updateDelay
  split
  · rfl
  · rw [filterDelay_selection]
    rfl

@[simp] theorem filterPeerDelay_selection (delay : TimeInternal) (times : List TimeInternal) :
    (filterPeerDelay c delay times).selection = c.selection := by
  unfold filterPeerDelay
  split <;> rfl

@[simp] theorem updatePeerDelay_selection (correction : TimeInternal) (twoStep : Bool) :
    (updatePeerDelay c correction twoStep).selection = c.selection :=
  filterPeerDelay_selection c _ _

@[simp] theorem timerExpired_selection (index : PtpTimer) :
    (timerExpired c index).2.selection = c.selection := by
  obtain ⟨timers, eq, -⟩ := timerExpired_cases c index
  rw [eq]
  rfl

@[simp] theorem timerCallback_selection (index : PtpTimer) :
    (timerCallback c index).selection = c.selection := by
  unfold timerCallback
  split <;> rfl

theorem Issued.selection {c d : PtpClock} {m : Message} (issued : Issued c m d) :
    d.selection = c.selection := by
  obtain ⟨sends, new, channel, rfl, -⟩ := issued
  rfl

@[simp] theorem issueDelayReq_selection : (issueDelayReq c).selection = c.selection := by
  obtain ⟨d, m, stamp, issued, -, eq⟩ := issueDelayReq_cases c
  rw [eq]
  exact issued.selection

@[simp] theorem issuePDelayReq_selection : (issuePDelayReq c).selection = c.selection := by
  obtain ⟨d, m, stamp, issued, -, eq⟩ := issuePDelayReq_cases c
  rw [eq]
  exact issued.selection

@[simp] theorem issueDelayReqTimerExpired_selection :
    (issueDelayReqTimerExpired c).selection = c.selection := by
  unfold issueDelayReqTimerExpired
  cases c.portDS.delayMechanism with
  | e2e =>
      have asked := timerExpired_selection c .delayReqInterval
      dsimp only
      split
      · rfl
      · split
        · next eq =>
            rw [eq] at asked
            rw [issueDelayReq_selection]
            exact asked
        · next eq =>
            rw [eq] at asked
            exact asked
  | p2p =>
      have asked := timerExpired_selection c .pdelayReqInterval
      dsimp only
      split
      · next eq =>
          rw [eq] at asked
          rw [issuePDelayReq_selection]
          exact asked
      · next eq =>
          rw [eq] at asked
          exact asked
  | delayDisabled => rfl

@[simp] theorem issueSync_selection : (issueSync c).selection = c.selection := by
  obtain ⟨d, m, issued, -, eq | ⟨time, followed⟩⟩ := issueSync_cases c
  · rw [eq]
    exact issued.selection
  · exact followed.selection.trans issued.selection

@[simp] theorem issueAnnounce_selection : (issueAnnounce c).selection = c.selection := by
  obtain ⟨d, issued, eq⟩ := issueAnnounce_cases c
  rw [eq]
  exact issued.selection

@[simp] theorem syncTimeout_selection : (syncTimeout c).selection = c.selection := by
  have asked := timerExpired_selection c .syncInterval
  unfold syncTimeout
  split
  · next eq =>
      rw [eq] at asked
      rw [issueSync_selection]
      exact asked
  · next eq =>
      rw [eq] at asked
      exact asked

@[simp] theorem announceIntervalTimeout_selection :
    (announceIntervalTimeout c).selection = c.selection := by
  have asked := timerExpired_selection c .announceInterval
  unfold announceIntervalTimeout
  split
  · next eq =>
      rw [eq] at asked
      rw [issueAnnounce_selection]
      exact asked
  · next eq =>
      rw [eq] at asked
      exact asked

/-! ### Changes of state -/

@[simp] theorem timerStop_selection (index : PtpTimer) :
    (timerStop c index).selection = c.selection := rfl

theorem leaveState_selection (state : PortState) :
    (leaveState c state).selection = c.selection := by
  unfold leaveState
  cases c.portDS.portState with
  | master | passive | listening | preMaster => simp
  | uncalibrated | slave =>
      dsimp only
      split
      · rfl
      · rw [initClock_selection]
        split <;> simp
  | initializing | faulty | disabled => rfl

theorem enterState_selection (state : PortState) :
    (enterState c state).selection = { c.selection with
      portState := if state = .preMaster then .master else state
      recommendedState :=
        if state = .initializing ∨ state = .listening then state
        else c.selection.recommendedState } := by
  unfold enterState
  cases state with
  | initializing | faulty | disabled | listening | slave => rfl
  | preMaster | master =>
      dsimp only
      split <;> rfl
  | passive =>
      dsimp only
      split <;> rfl
  | uncalibrated =>
      dsimp only
      split <;> rfl

@[simp] theorem toState_selection (state : PortState) :
    (toState c state).selection = c.selection.toState state := by
  have left := leaveState_selection c state
  have entered := enterState_selection (leaveState c state) state
  rw [left] at entered
  unfold toState
  generalize enterState (leaveState c state) state = d at entered ⊢
  have moved : ({ d with
      moves := (c.portDS.portState, d.portDS.portState) :: d.moves } : PtpClock).selection =
        { d.selection with
          moves := (c.selection.portState, d.selection.portState) :: d.selection.moves } := rfl
  dsimp only
  rw [moved, entered]
  rfl

/-! ### The state decision -/

/-- The chosen record is one of the set. -/
theorem chosen_lt (some_ : 0 < c.foreignMasterDS.count) : chosen c < c.foreignMasterDS.count := by
  rw [chosen_eq]
  rcases scanned_cases c (c.foreignMasterDS.count - 1) with ⟨first, -⟩ | ⟨i, -, le, -⟩
  · omega
  · omega

/-- What a state decision recommends, and what it does to the data sets. -/
theorem bmcStateDecision_selection (header : MsgHeader) (announce : MsgAnnounce) :
    ((bmcStateDecision header announce c).1 = .listening ∨
        (bmcStateDecision header announce c).1 = .passive) ∧
        (bmcStateDecision header announce c).2.selection = c.selection ∨
      (bmcStateDecision header announce c).1 = .master ∧
        (bmcStateDecision header announce c).2.selection = c.selection.adoptLocal ∨
      (bmcStateDecision header announce c).1 = .slave ∧
        (bmcStateDecision header announce c).2 = s1 c header announce := by
  unfold bmcStateDecision
  split
  · exact .inl ⟨.inl rfl, rfl⟩
  · dsimp only
    split
    · split
      · exact .inr (.inl ⟨rfl, rfl⟩)
      · exact .inl ⟨.inr rfl, rfl⟩
    · split
      · exact .inr (.inl ⟨rfl, rfl⟩)
      · exact .inr (.inr ⟨rfl, rfl⟩)

/-- `s1` writes the parent, and flags that it is another one. -/
theorem s1_selection (header : MsgHeader) (announce : MsgAnnounce) :
    ∃ changed, (s1 c header announce).selection = { c.selection.adopt header announce with
      events := { c.events with masterClockChanged := c.events.masterClockChanged || changed } } := by
  unfold s1
  dsimp only
  split
  · refine ⟨false, ?_⟩
    rw [Bool.or_false]
    rfl
  · refine ⟨true, ?_⟩
    rw [Bool.or_true]
    rfl

/-- The selection with a new best record. -/
def Selection.withBest (a : Selection) (best : Nat) : Selection :=
  { a with foreignMasterDS := { a.foreignMasterDS with best := best } }

theorem bmc_selection :
    ((bmc c).1 = .listening ∨ (bmc c).1 = .passive) ∧
        (bmc c).2.selection = c.selection.withBest (chosen c) ∨
      (bmc c).1 = .master ∧
        (bmc c).2.selection = (c.selection.withBest (chosen c)).adoptLocal ∨
      (bmc c).1 = .slave ∧ ∃ announce changed, (bmc c).2.selection =
        { (c.selection.withBest (chosen c)).adopt (decidingRecord c).header announce with
          events := { c.events with
            masterClockChanged := c.events.masterClockChanged || changed } } := by
  rw [bmc_eq]
  rcases bmcStateDecision_selection { c with
      foreignMasterDS := { c.foreignMasterDS with best := chosen c } }
    (decidingRecord c).header (decidingRecord c).announce with kept | led | ⟨slave, copied⟩
  · exact .inl kept
  · exact .inr (.inl led)
  · obtain ⟨changed, eq⟩ := s1_selection { c with
        foreignMasterDS := { c.foreignMasterDS with best := chosen c } }
      (decidingRecord c).header (decidingRecord c).announce
    rw [← copied] at eq
    exact .inr (.inr ⟨slave, _, changed, eq⟩)

/-- A state decision that is made. -/
theorem recommend_selection (awake : Control.decides c.portDS.portState)
    (event : c.events.stateDecisionEvent = true) :
    Selection.Decide (bmc c).1 (decidingRecord c).header.sourcePortIdentity c.selection
      (recommend c).selection := by
  have within : 0 < c.selection.foreignMasterDS.count →
      chosen c < c.selection.foreignMasterDS.count := chosen_lt c
  unfold recommend
  dsimp only
  generalize begun : ({ c with
    events := { c.events with stateDecisionEvent := false } } : PtpClock) = d
  obtain ⟨same, advised⟩ : chosen d = chosen c ∧ (bmc d).1 = (bmc c).1 := by
    rw [← begun]
    exact bmc_congr rfl rfl rfl
  have record : decidingRecord d = decidingRecord c := by
    rw [decidingRecord, decidingRecord, same, ← begun]
  have ready (state : PortState) :
      { d.selection.withBest (chosen c) with recommendedState := state } =
        c.selection.decided (chosen c) state false := by
    rw [← begun, Selection.decided, Bool.or_false]
    rfl
  have decisions := bmc_selection d
  rw [same, record] at decisions
  rw [← advised]
  generalize bmc d = result at decisions ⊢
  obtain ⟨state, e⟩ := result
  have written (state : PortState) : ({ e with recommendedState := state } : PtpClock).selection =
      { e.selection with recommendedState := state } := rfl
  dsimp only at decisions ⊢
  rcases decisions with ⟨known, kept⟩ | ⟨rfl, led⟩ | ⟨rfl, announce, changed, eq⟩
  · have other : state ≠ .slave := by
      rcases known with rfl | rfl <;> decide
    split
    · rw [written, kept, ready]
      exact .stay awake event other within (.inl rfl)
    · rw [written, kept, ready]
      exact .stay awake event other within known
  · have lead (state : PortState) :
        { (d.selection.withBest (chosen c)).adoptLocal with recommendedState := state } =
          (c.selection.decided (chosen c) state false).adoptLocal := by
      rw [← ready]
      rfl
    split
    · rw [written, led, lead]
      exact .lead awake event (by decide) within (.inl rfl)
    · rw [written, led, lead]
      exact .lead awake event (by decide) within (.inr rfl)
  · rw [if_neg (by simp), written, eq, ← begun]
    exact .follow awake event rfl rfl within

/-- The first switch. -/
theorem decideState_selection :
    Selection.Decide (bmc c).1 (decidingRecord c).header.sourcePortIdentity c.selection
      (decideState c).selection := by
  rw [decideState_eq]
  split
  · next made => exact recommend_selection c ⟨made.1, made.2.1, made.2.2.1⟩ made.2.2.2
  · next idle =>
      refine .none fun event awake => idle ?_
      exact ⟨awake.1, awake.2.1, awake.2.2, event⟩

/-! ### The recommended state -/

@[simp] theorem masterClockSelected_selection :
    (masterClockSelected c).selection = c.selection.select := by
  unfold masterClockSelected Selection.select
  have flag : c.selection.events.masterClockSelected = c.events.masterClockSelected := rfl
  rw [flag]
  split
  · exact toState_selection _ _
  · rfl

@[simp] theorem consumeFault_selection :
    (consumeFault c).selection = c.selection.desynchronize := by
  unfold consumeFault Selection.desynchronize
  have flag : c.selection.events.synchronizationFault = c.events.synchronizationFault := rfl
  rw [flag]
  split
  · exact toState_selection _ _
  · rfl

@[simp] theorem clearChanged_selection :
    (clearChanged c).selection = c.selection.clearChanged := rfl

@[simp] theorem consumeChanged_selection :
    (consumeChanged c).selection = c.selection.consumeChanged := by
  unfold consumeChanged Selection.consumeChanged
  have flag : c.selection.events.masterClockChanged = c.events.masterClockChanged := rfl
  rw [flag]
  split
  · exact toState_selection _ _
  · rfl

/-- The second switch. -/
theorem followRecommendation_selection :
    (followRecommendation c).selection =
      c.selection.follow (timerExpired c .qualificationTimeout).1 := by
  have advised : c.selection.recommendedState = c.recommendedState := rfl
  have port : c.selection.portState = c.portDS.portState := rfl
  unfold followRecommendation Selection.follow
  rw [advised, port]
  cases c.recommendedState with
  | master =>
      cases c.portDS.portState with
      | preMaster =>
          have asked := timerExpired_selection c .qualificationTimeout
          dsimp only
          generalize timerExpired c .qualificationTimeout = result at asked ⊢
          obtain ⟨qualified, d⟩ := result
          cases qualified with
          | true =>
              dsimp only at asked ⊢
              rw [toState_selection, asked]
              rfl
          | false => exact asked
      | master => rfl
      | initializing | faulty | disabled | listening | passive | uncalibrated | slave =>
          exact toState_selection c _
  | passive =>
      dsimp only
      split
      · exact toState_selection c _
      · rfl
  | slave =>
      cases c.portDS.portState with
      | uncalibrated =>
          dsimp only
          rw [clearChanged_selection, masterClockSelected_selection]
      | slave =>
          dsimp only
          rw [consumeChanged_selection, consumeFault_selection]
      | initializing | faulty | disabled | listening | passive | preMaster | master =>
          exact toState_selection c _
  | listening =>
      dsimp only
      split
      · exact toState_selection c _
      · rfl
  | initializing | faulty | disabled | preMaster | uncalibrated => rfl

namespace Selection

/-! ### What the second switch reaches -/

variable (a : Selection)

/-- A state of a master, or one on the way to it. -/
def leads (state : PortState) : Prop := state = .master ∨ state = .preMaster

/-- The state that a recommendation asks for. -/
def Reached (recommended state : PortState) : Prop :=
  match recommended with
  | .master => leads state
  | .slave => synchronizes state
  | .passive => state = .passive
  | .listening => state = .listening
  | .initializing | .faulty | .disabled | .preMaster | .uncalibrated => True

/-- A change of state leaves the data sets alone. -/
theorem toState_data (state : PortState) :
    (a.toState state).parentDS = a.parentDS ∧ (a.toState state).stepsRemoved = a.stepsRemoved ∧
      (a.toState state).defaultDS = a.defaultDS ∧
      (a.toState state).foreignMasterDS = a.foreignMasterDS ∧
      (a.toState state).events = a.events := ⟨rfl, rfl, rfl, rfl, rfl⟩

theorem select_state (state : a.portState = .uncalibrated) (advised : a.recommendedState = .slave) :
    synchronizes a.select.clearChanged.portState ∧
      a.select.clearChanged.recommendedState = .slave := by
  unfold select clearChanged
  split
  · exact ⟨.inr rfl, advised⟩
  · exact ⟨.inl state, advised⟩

theorem desynchronize_state (state : a.portState = .slave) (advised : a.recommendedState = .slave) :
    synchronizes a.desynchronize.consumeChanged.portState ∧
      a.desynchronize.consumeChanged.recommendedState = .slave := by
  have first : synchronizes a.desynchronize.portState ∧
      a.desynchronize.recommendedState = .slave := by
    unfold desynchronize
    split
    · exact ⟨.inl rfl, advised⟩
    · exact ⟨.inr state, advised⟩
  generalize a.desynchronize = b at first ⊢
  unfold consumeChanged
  split
  · exact ⟨.inl rfl, first.2⟩
  · exact first

/-- The second switch reaches the recommended state. -/
theorem follow_reaches (qualified : Bool) :
    (a.follow qualified).recommendedState = a.recommendedState ∧
      Reached a.recommendedState (a.follow qualified).portState := by
  unfold follow
  cases advised : a.recommendedState with
  | master =>
      cases state : a.portState with
      | preMaster =>
          cases qualified with
          | true => exact ⟨advised, .inl rfl⟩
          | false => exact ⟨advised, .inr state⟩
      | master => exact ⟨advised, .inl state⟩
      | initializing | faulty | disabled | listening | passive | uncalibrated | slave =>
          exact ⟨advised, .inl rfl⟩
  | passive =>
      dsimp only
      split
      · exact ⟨advised, rfl⟩
      · next here => exact ⟨advised, not_not.mp here⟩
  | slave =>
      cases state : a.portState with
      | uncalibrated => exact (a.select_state state advised).symm
      | slave => exact (a.desynchronize_state state advised).symm
      | initializing | faulty | disabled | listening | passive | preMaster | master =>
          exact ⟨advised, .inl rfl⟩
  | listening =>
      dsimp only
      split
      · exact ⟨rfl, rfl⟩
      · next here => exact ⟨advised, not_not.mp here⟩
  | initializing | faulty | disabled | preMaster | uncalibrated => exact ⟨advised, trivial⟩

/-- The data sets stay as the state decision left them. -/
theorem follow_data (qualified : Bool) :
    (a.follow qualified).parentDS = a.parentDS ∧
      (a.follow qualified).stepsRemoved = a.stepsRemoved ∧
      (a.follow qualified).defaultDS = a.defaultDS ∧
      (a.follow qualified).foreignMasterDS = a.foreignMasterDS ∧
      (a.follow qualified).events.stateDecisionEvent = a.events.stateDecisionEvent := by
  have same : a.parentDS = a.parentDS ∧ a.stepsRemoved = a.stepsRemoved ∧
      a.defaultDS = a.defaultDS ∧ a.foreignMasterDS = a.foreignMasterDS ∧
      a.events.stateDecisionEvent = a.events.stateDecisionEvent := ⟨rfl, rfl, rfl, rfl, rfl⟩
  unfold follow
  cases a.recommendedState with
  | master =>
      cases a.portState with
      | preMaster => cases qualified <;> exact same
      | master | initializing | faulty | disabled | listening | passive | uncalibrated | slave =>
          exact same
  | passive | listening =>
      dsimp only
      split <;> exact same
  | slave =>
      cases a.portState with
      | uncalibrated =>
          unfold select clearChanged
          dsimp only
          split <;> exact same
      | slave =>
          unfold desynchronize consumeChanged clearChanged
          dsimp only
          split
          · split <;> exact same
          · split <;> exact same
      | initializing | faulty | disabled | listening | passive | preMaster | master => exact same
  | initializing | faulty | disabled | preMaster | uncalibrated => exact same

end Selection

end LwipExt.Ptp
