import LwipExt.Ptp.Refinement

/-!
The timers that a state waits for, over whole runs.
-/

namespace LwipExt.Ptp

open Control (Decide Follow Act Handle)

/-! ### One action on `Control` -/

/-- The clock when the actions of the port state begin. -/
def beforeActions (c : PtpClock) (input : PtpInput) : PtpClock :=
  followRecommendation (decideState { c with input := input })

/-- The datagram of a step is too short for its handler. -/
def stepFaults (c : PtpClock) (input : PtpInput) : Prop := faults (beforeActions c input) = true

/-- The state machine finds a timer expired. -/
def stepExpires (c : PtpClock) (input : PtpInput) (index : PtpTimer) : Prop :=
  (timerExpired (beforeActions c input) index).1 = true

theorem beforeActions_control (c : PtpClock) (input : PtpInput) :
    ∃ a, Decide c.control a ∧ Follow a (beforeActions c input).control :=
  ⟨_, decideState_control { c with input := input }, followRecommendation_control _⟩

/-- A step of the state machine is a step of `Control`. -/
theorem ptpStep_control (c : PtpClock) (input : PtpInput) :
    ∃ a, Decide c.control a ∧ Follow a (beforeActions c input).control ∧
      Act (stepFaults c input) (stepExpires c input .syncInterval)
        (stepExpires c input .announceInterval) (beforeActions c input).control
        (ptpStep c (.step input)).control := by
  obtain ⟨a, decided, followed⟩ := beforeActions_control c input
  exact ⟨a, decided, followed, portActions_control _⟩

@[simp] theorem ptpStep_expire_control (c : PtpClock) (timer : PtpTimer) :
    (ptpStep c (.expire timer)).control = c.control := timerCallback_control c timer

/-- What the phases of a step preserve, a run preserves. -/
theorem control_invariant (Inv : Control → Prop)
    (decide : ∀ {a b}, Decide a b → Inv a → Inv b) (follow : ∀ {a b}, Follow a b → Inv a → Inv b)
    (act : ∀ {short sync announce a b}, Act short sync announce a b → Inv a → Inv b)
    {c : PtpClock} (init : Inv c.control) (actions : List PtpAction) :
    Inv (Lib.run ptpStep c actions).control := by
  refine Lib.run_invariant_of_step (fun c : PtpClock => Inv c.control) ?_ init actions
  intro c action inv
  cases action with
  | expire timer =>
      rw [ptpStep_expire_control]
      exact inv
  | step input =>
      obtain ⟨a, decided, followed, acted⟩ := ptpStep_control c input
      exact act acted (follow followed (decide decided inv))

/-! ### The announce receipt timer -/

/-- The states that end when nothing is heard of the master. -/
def hearsMaster (state : PortState) : Prop :=
  state = .uncalibrated ∨ state = .slave ∨ state = .passive

namespace Control

/-- The announce receipt timer is live in the states that wait for it. -/
def Hears (a : Control) : Prop := hearsMaster a.portState → a.receipt = true

theorem Hears.toState {a : Control} {state : PortState} (hears : a.Hears)
    (entered : state = .slave → a.portState = .uncalibrated) : (a.toState state).Hears := by
  cases state with
  | slave =>
      intro _
      have live := hears (.inl (entered rfl))
      unfold Control.toState leave
      rw [entered rfl]
      exact live
  | listening | passive | uncalibrated => exact fun _ => rfl
  | initializing | faulty | disabled | preMaster | master =>
      intro heard
      rcases heard with state | state | state <;> cases state

theorem Hears.follow {a b : Control} (followed : Follow a b) (hears : a.Hears) : b.Hears := by
  cases followed with
  | stay _ => exact hears
  | selected _ state => exact hears.toState fun _ => state
  | master _ _ | passive _ _ | listening _ _ | uncalibrated _ _ => exact hears.toState nofun
  | twice _ _ =>
      have first : (a.toState .uncalibrated).Hears := hears.toState nofun
      exact first.toState nofun

theorem Hears.handle {short : Prop} {a b : Control} (handled : Handle short a b)
    (hears : a.Hears) : b.Hears := by
  cases handled with
  | ignored _ => exact hears
  | fault _ => exact hears.toState nofun
  | announced _ => exact fun _ => rfl

theorem Hears.act {short sync announce : Prop} {a b : Control}
    (acted : Act short sync announce a b) (hears : a.Hears) : b.Hears := by
  cases acted with
  | init state _ =>
      intro heard
      rcases heard with entered | entered | entered <;> cases entered
  | initFails _ => exact hears.toState nofun
  | clear _ => exact hears.toState nofun
  | promote _ _ _ =>
      intro heard
      rcases heard with entered | entered | entered <;> cases entered
  | relisten _ _ =>
      intro heard
      rcases heard with entered | entered | entered <;> cases entered
  | deaf state _ =>
      intro heard
      rw [hearsMaster, state] at heard
      rcases heard with entered | entered | entered <;> cases entered
  | wait _ handled => exact hears.handle handled
  | master state _ _ handled => exact Hears.handle handled hears
  | none _ => exact hears

end Control

/-- The loss of the master is always noticed: in a state that hears a master the announce receipt
timer runs or is flagged. -/
theorem announce_receipt_live (rtOpts : RunTimeOpts) (actions : List PtpAction)
    (state : hearsMaster (ptpRun rtOpts actions).portDS.portState) :
    ((ptpRun rtOpts actions).timers .announceReceipt).running = true ∨
      ((ptpRun rtOpts actions).timers .announceReceipt).expired = true := by
  have hears : (ptpRun rtOpts actions).control.Hears := by
    refine control_invariant Control.Hears ?_ Control.Hears.follow Control.Hears.act ?_ actions
    · intro a b decided hears
      cases decided <;> exact hears
    · intro heard
      rcases heard with state | state | state <;> cases state
  have live := hears state
  simpa [PtpClock.control, Timer.live] using live

/-- A run that meets another clock and follows it. -/
theorem announce_receipt_live_met :
    hearsMaster (ptpRun {} [.step {}, .step { event := (peer 7).datagram .announce },
        .step {}]).portDS.portState ∧
      (((ptpRun {} [.step {}, .step { event := (peer 7).datagram .announce },
          .step {}]).timers .announceReceipt).running = true ∨
        ((ptpRun {} [.step {}, .step { event := (peer 7).datagram .announce },
          .step {}]).timers .announceReceipt).expired = true) := by
  have state : hearsMaster (ptpRun {} [.step {}, .step { event := (peer 7).datagram .announce },
      .step {}]).portDS.portState := .inl (by decide +kernel)
  exact ⟨state, announce_receipt_live {} _ state⟩

/-! ### The timers of a master -/

/-- A master waits for the next Sync and the next Announce. -/
def masterTimersLive (c : PtpClock) : Prop :=
  c.portDS.portState = .master → (c.timers .syncInterval).live = true ∧
    (c.timers .announceInterval).live = true

/-- The actions of a master find neither of its timers expired, unless a datagram that is too
short ends the state. -/
def masterTimersKept (c : PtpClock) : PtpAction → Prop
  | .expire _ => True
  | .step input =>
      (beforeActions c input).portDS.portState = .master →
        stepExpires c input .syncInterval ∨ stepExpires c input .announceInterval →
          stepFaults c input

namespace Control

/-- Both timers of a master are live. -/
def Sends (a : Control) : Prop := a.portState = .master → a.sync = true ∧ a.announce = true

theorem Sends.toState (a : Control) (state : PortState) : (a.toState state).Sends := by
  cases state with
  | preMaster | master => exact fun _ => ⟨rfl, rfl⟩
  | initializing | faulty | disabled | listening | passive | uncalibrated | slave =>
      intro entered
      cases entered

theorem Sends.follow {a b : Control} (followed : Follow a b) (sends : a.Sends) : b.Sends := by
  cases followed with
  | stay _ => exact sends
  | selected _ _ | master _ _ | passive _ _ | listening _ _ | uncalibrated _ _ | twice _ _ =>
      exact toState _ _

/-- A datagram leaves a master's timers alone, unless it ends the state. -/
theorem Sends.handle_iff {short : Prop} {a b : Control} (handled : Handle short a b)
    (state : a.portState = .master) :
    b.Sends ↔ (a.sync = true ∧ a.announce = true) ∨ short := by
  cases handled with
  | ignored long => simp [Sends, state, long]
  | fault isShort => simp [isShort, toState]
  | announced long => simp [Sends, state, long]

/-- The actions of the port state keep a master's timers exactly when they do not find one
expired. -/
theorem Sends.act_iff {short sync announce : Prop} {a b : Control}
    (acted : Act short sync announce a b) (sends : a.Sends) :
    b.Sends ↔ (a.portState = .master → sync ∨ announce → short) := by
  have idle (other : a.portState ≠ .master) (holds : b.Sends) :
      b.Sends ↔ (a.portState = .master → sync ∨ announce → short) :=
    iff_of_true holds fun state => absurd state other
  cases acted with
  | init state _ | initFails state => exact idle (by rw [state]; decide) (toState _ _)
  | clear state => exact idle (by rw [state]; decide) (toState _ _)
  | promote _ state _ =>
      exact idle (by rcases state with held | held | held | held <;> rw [held] <;> decide)
        (toState _ _)
  | relisten state _ =>
      exact idle (by rcases state with held | held | held <;> rw [held] <;> decide) (toState _ _)
  | deaf state _ => exact idle (by rw [state]; decide) sends
  | wait state handled =>
      refine idle state.1 ?_
      cases handled with
      | ignored _ | announced _ => exact sends
      | fault _ => exact toState _ _
  | master state isSync isAnnounce handled =>
      rw [Sends.handle_iff handled state, ← isSync, ← isAnnounce]
      simp only [issue, (sends state).1, (sends state).2, state, Bool.true_and, Bool.not_eq_true',
        forall_const]
      rename_i dueSync dueAnnounce _
      cases dueSync <;> cases dueAnnounce <;> simp
  | none state => exact idle (by rw [state]; decide) sends

end Control

/-- In a run both timers of a master are live in every state exactly when the master never finds
one of them expired. -/
theorem master_timers_live_iff (rtOpts : RunTimeOpts) (actions : List PtpAction) :
    Lib.Along ptpStep (fun c action => masterTimersLive (ptpStep c action)) (ptpdStartup rtOpts)
        actions ↔
      Lib.Along ptpStep masterTimersKept (ptpdStartup rtOpts) actions := by
  refine Lib.along_good_iff masterTimersLive ?_ (fun state => by cases state) actions
  intro c action live
  cases action with
  | expire timer =>
      have same : (ptpStep c (.expire timer)).control.Sends ↔ c.control.Sends := by
        rw [ptpStep_expire_control]
      exact iff_of_true (same.mpr live) trivial
  | step input =>
      obtain ⟨a, decided, followed, acted⟩ := ptpStep_control c input
      have sends : a.Sends := by cases decided <;> exact live
      exact Control.Sends.act_iff acted (sends.follow followed)

/-- A master sends its first Sync and never another one. -/
theorem not_master_timers_live : ¬ ∀ (rtOpts : RunTimeOpts) (actions : List PtpAction),
    masterTimersLive (ptpRun rtOpts actions) := by
  intro live
  have stopped := live { slaveOnly := false }
    [.step {}, .step { fires := fun timer => timer = .announceReceipt },
      .step { fires := fun timer => timer = .syncInterval, sends := [some {}] }] (by decide +kernel)
  revert stopped
  decide +kernel

end LwipExt.Ptp
