import LwipExt.Ptp.Protocol

/-!
The port state machine without its messages and its clock.

`Control` keeps of a clock what decides the port state: the state and the recommended one, the
timers that a state waits for, the default data set. `Control.Step` says what one run of the
state machine can do to it, and `ptpStateMachine_control` that it does nothing else.
-/

namespace LwipExt.Ptp

/-- What decides the port state, and what came of it. -/
structure Control where
  portState : PortState
  recommendedState : PortState
  /-- Whether a timer is running or flagged as expired. -/
  sync : Bool
  announce : Bool
  receipt : Bool
  defaultDS : DefaultDS
  rtOpts : RunTimeOpts
  moves : List (PortState × PortState)
  /-- The Sync and Announce messages sent. -/
  mastered : List PtpSent

/-- A timer is running or flagged as expired. -/
def Timer.live (t : Timer) : Bool := t.running || t.expired

/-- A Sync or Announce message. -/
def PtpSent.isMasters (datagram : PtpSent) : Bool :=
  let type := datagram.payload.getD 0 0 &&& 0x0f
  type = MsgType.sync.code || type = MsgType.announce.code

def PtpClock.control (c : PtpClock) : Control where
  portState := c.portDS.portState
  recommendedState := c.recommendedState
  sync := (c.timers .syncInterval).live
  announce := (c.timers .announceInterval).live
  receipt := (c.timers .announceReceipt).live
  defaultDS := c.defaultDS
  rtOpts := c.rtOpts
  moves := c.moves
  mastered := c.sent.filter PtpSent.isMasters

namespace Control

/-! ### Changes of state -/

/-- The timers that are stopped on leaving a state. -/
def leave (a : Control) (state : PortState) : Control :=
  match a.portState with
  | .master => { a with sync := false, announce := false }
  | .uncalibrated | .slave =>
      if state = .uncalibrated ∨ state = .slave then a else { a with receipt := false }
  | .passive | .listening => { a with receipt := false }
  | .preMaster | .initializing | .faulty | .disabled => a

/-- The timers that are started on entering a state, and the state. -/
def enter (a : Control) (state : PortState) : Control :=
  match state with
  | .initializing => { a with portState := .initializing, recommendedState := .initializing }
  | .faulty => { a with portState := .faulty }
  | .disabled => { a with portState := .disabled }
  | .listening =>
      { a with portState := .listening, recommendedState := .listening, receipt := true }
  | .preMaster | .master => { a with portState := .master, sync := true, announce := true }
  | .passive => { a with portState := .passive, receipt := true }
  | .uncalibrated => { a with portState := .uncalibrated, receipt := true }
  | .slave => { a with portState := .slave }

def toState (a : Control) (state : PortState) : Control :=
  let entered := enter (leave a state) state
  { entered with moves := (a.portState, entered.portState) :: entered.moves }

/-! ### One run of the state machine -/

/-- The states in which a state decision is made. -/
def decides (state : PortState) : Prop :=
  state ≠ .initializing ∧ state ≠ .faulty ∧ state ≠ .disabled

/-- The state decision: nothing, or a new recommendation. -/
inductive Decide (a : Control) : Control → Prop where
  | none : Decide a a
  | recommend (state : PortState) (decided : decides a.portState)
      (known : state = .listening ∨ state = .slave ∨
        ((state = .master ∨ state = .passive) ∧ isSlaveOnly a.defaultDS = false)) :
      Decide a { a with recommendedState := state }

/-- The moves towards the recommended state. -/
inductive Follow (a : Control) : Control → Prop where
  | stay (reached : a.portState = .faulty → a.recommendedState ≠ .master ∧
        a.recommendedState ≠ .passive ∧ a.recommendedState ≠ .slave ∧
        a.recommendedState ≠ .listening) : Follow a a
  | master (recommended : a.recommendedState = .master) (other : a.portState ≠ .master) :
      Follow a (a.toState .master)
  | passive (recommended : a.recommendedState = .passive) (other : a.portState ≠ .passive) :
      Follow a (a.toState .passive)
  | listening (recommended : a.recommendedState = .listening)
      (other : a.portState ≠ .listening) : Follow a (a.toState .listening)
  | selected (recommended : a.recommendedState = .slave)
      (state : a.portState = .uncalibrated) : Follow a (a.toState .slave)
  | uncalibrated (recommended : a.recommendedState = .slave)
      (state : a.portState ≠ .uncalibrated) : Follow a (a.toState .uncalibrated)
  | twice (recommended : a.recommendedState = .slave) (state : a.portState = .slave) :
      Follow a ((a.toState .uncalibrated).toState .uncalibrated)

/-- What a datagram does: nothing, a fault if it is too short, or a new announce receipt
timeout. -/
inductive Handle (short : Prop) (a : Control) : Control → Prop where
  | ignored (long : ¬ short) : Handle short a a
  | fault (isShort : short) : Handle short a (a.toState .faulty)
  | announced (long : ¬ short) : Handle short a { a with receipt := true }

/-- The messages of a master whose timers may have expired. -/
def issue (a : Control) (syncDue announceDue : Bool) (sent : List PtpSent) : Control :=
  { a with
    sync := a.sync && !syncDue
    announce := a.announce && !announceDue
    mastered := sent ++ a.mastered }

/-- The clock after `_doInit`: new default data set, no timer is live. -/
def init (a : Control) (ds : DefaultDS) : Control :=
  { a with defaultDS := ds, sync := false, announce := false, receipt := false }

/-- The default data set that `initData` makes of the options. -/
def IsInitial (ds : DefaultDS) (rtOpts : RunTimeOpts) : Prop :=
  ds.slaveOnly = rtOpts.slaveOnly ∧ ds.clockQuality = rtOpts.clockQuality

/-- The actions of the port state. -/
inductive Act (short syncDue announceDue : Prop) (a : Control) : Control → Prop where
  | init {ds : DefaultDS} (state : a.portState = .initializing)
      (initial : IsInitial ds a.rtOpts) :
      Act short syncDue announceDue a ((a.init ds).toState .listening)
  | initFails (state : a.portState = .initializing) :
      Act short syncDue announceDue a (a.toState .faulty)
  | clear (state : a.portState = .faulty) :
      Act short syncDue announceDue a (a.toState .initializing)
  | promote (live : a.receipt = true) (state : a.portState = .listening ∨
        a.portState = .uncalibrated ∨ a.portState = .slave ∨ a.portState = .passive)
      (able : isSlaveOnly a.defaultDS = false) :
      Act short syncDue announceDue a
        ({ a with receipt := false, recommendedState := .master }.toState .master)
  | relisten (state : a.portState = .uncalibrated ∨ a.portState = .slave ∨
        a.portState = .passive) (only : isSlaveOnly a.defaultDS = true) :
      Act short syncDue announceDue a ({ a with receipt := false }.toState .listening)
  | deaf (state : a.portState = .listening) (only : isSlaveOnly a.defaultDS = true) :
      Act short syncDue announceDue a { a with receipt := false }
  | wait {b : Control} (state : a.portState ≠ .master ∧ a.portState ≠ .initializing ∧
        a.portState ≠ .faulty ∧ a.portState ≠ .preMaster)
      (handled : Handle short a b) : Act short syncDue announceDue a b
  | master {b : Control} {sync announce : Bool} {sent : List PtpSent}
      (state : a.portState = .master) (isSync : sync = true ↔ syncDue)
      (isAnnounce : announce = true ↔ announceDue)
      (handled : Handle short (a.issue sync announce sent) b) :
      Act short syncDue announceDue a b
  | none (state : a.portState = .preMaster) : Act short syncDue announceDue a a

end Control

end LwipExt.Ptp
