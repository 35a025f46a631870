import LwipExt.Ptp.ForeignMasters

/-!
A port becomes a slave only after a small offset from its parent.

`MASTER_CLOCK_SELECTED` is set by the datagram of one step and consumed by the next. A datagram
that sets it asks for no state decision, so the next step keeps the parent.
-/

namespace LwipExt.Ptp

/-! ### What a step did -/

/-- The changes of state of a step, newest first. -/
def movesIn (s : PtpClock × PtpAction) : List (PortState × PortState) :=
  (ptpStep s.1 s.2).moves.take ((ptpStep s.1 s.2).moves.length - s.1.moves.length)

/-- A step enters a state. -/
def enters (state : PortState) (s : PtpClock × PtpAction) : Prop :=
  ∃ move ∈ movesIn s, move.2 = state

/-- The parent when the changes of state of a step are made. -/
def parentIn (s : PtpClock × PtpAction) : PortIdentity :=
  match s.2 with
  | .expire _ => s.1.parentDS.parentPortIdentity
  | .step input => (beforeActions s.1 input).parentDS.parentPortIdentity

/-- A Sync or Follow_Up of the parent gave an offset without seconds and with fewer than
`DEFAULT_CALIBRATED_OFFSET_NS` nanoseconds. -/
def calibratedBy (parent : PortIdentity) (s : PtpClock × PtpAction) : Prop :=
  match s.2 with
  | .expire _ => False
  | .step input => calibrates (beforeActions s.1 input) (ptpStep s.1 s.2) ∧ parentIn s = parent

/-- The port enters UNCALIBRATED, or has another parent after a step. -/
def interrupted (parent : PortIdentity) (s : PtpClock × PtpAction) : Prop :=
  enters .uncalibrated s ∨ (ptpStep s.1 s.2).parentDS.parentPortIdentity ≠ parent

/-- A step that enters SLAVE follows a calibration by the parent that nothing interrupted. -/
def CalibratedBefore (s : PtpClock × PtpAction) (past : PtpTrace) : Prop :=
  enters .slave s → Lib.Lasts (calibratedBy (parentIn s)) (interrupted (parentIn s)) past

/-! ### Changes of state -/

namespace Selection

variable {a b : Selection} {calibrated : Prop} {announced : PortIdentity → Prop}

theorem Decide.moves {advised : PortState} {source : PortIdentity}
    (decided : Decide advised source a b) :
    b.moves = a.moves ∧ b.portState = a.portState ∧
      b.events.masterClockSelected = a.events.masterClockSelected := by
  cases decided <;> exact ⟨rfl, rfl, rfl⟩

/-- The port is about to become a slave. -/
def Selects (a : Selection) : Prop :=
  a.recommendedState = .slave ∧ a.portState = .uncalibrated ∧ a.events.masterClockSelected = true

/-- What a part of the second switch does: it enters SLAVE only if the port is about to, and keeps
the flag only if it is not. -/
def SelectsFirst (a b : Selection) : Prop :=
  (∃ new, b.moves = new ++ a.moves ∧ ∀ move ∈ new, move.2 = .slave → a.Selects) ∧
    (b.events.masterClockSelected = true → a.events.masterClockSelected = true ∧ ¬ a.Selects)

/-- A change to another state. -/
theorem SelectsFirst.move {d : Selection} {state : PortState} (other : ¬ a.Selects)
    (ne : state ≠ .slave) (moves : d.moves = a.moves)
    (flag : d.events.masterClockSelected = a.events.masterClockSelected) :
    SelectsFirst a (d.toState state) := by
  refine ⟨⟨[(d.portState, if state = .preMaster then .master else state)], ?_, ?_⟩, ?_⟩
  · rw [← moves]
    rfl
  · intro move mem entered
    rw [List.mem_singleton.mp mem] at entered
    dsimp only at entered
    split at entered
    · cases entered
    · exact absurd entered ne
  · intro kept
    exact ⟨flag.symm.trans kept, other⟩

theorem SelectsFirst.stay {d : Selection} (other : ¬ a.Selects) (moves : d.moves = a.moves)
    (flag : d.events.masterClockSelected = a.events.masterClockSelected) : SelectsFirst a d :=
  ⟨⟨[], moves, nofun⟩, fun kept => ⟨flag.symm.trans kept, other⟩⟩

theorem select_moves (advised : a.recommendedState = .slave) (state : a.portState = .uncalibrated) :
    SelectsFirst a a.select.clearChanged := by
  unfold select clearChanged
  split
  · next selected =>
      refine ⟨⟨[(a.portState, .slave)], rfl, fun _ _ _ => ⟨advised, state, selected⟩⟩, nofun⟩
  · next unselected =>
      exact .stay (fun selects => unselected selects.2.2) rfl rfl

theorem desynchronize_moves (state : a.portState = .slave) :
    SelectsFirst a a.desynchronize.consumeChanged := by
  have other : ¬ a.Selects := fun selects => by cases selects.2.1.symm.trans state
  have quiet {p : Prop} (move : PortState × PortState) (entered : move.2 = .uncalibrated) :
      move.2 = .slave → p := fun slave => by cases entered.symm.trans slave
  unfold desynchronize consumeChanged clearChanged
  split
  · split
    · refine ⟨⟨[(.uncalibrated, .uncalibrated), (a.portState, .uncalibrated)], rfl, ?_⟩,
        fun kept => ⟨kept, other⟩⟩
      intro move mem
      rw [List.mem_pair] at mem
      rcases mem with rfl | rfl <;> exact quiet _ rfl
    · exact .move other nofun rfl rfl
  · split
    · exact .move other nofun rfl rfl
    · exact .stay other rfl rfl

/-- The second switch enters SLAVE only of a selected master, and consumes the flag. -/
theorem follow_moves (qualified : Bool) (a : Selection) : SelectsFirst a (a.follow qualified) := by
  unfold follow
  cases advised : a.recommendedState with
  | master =>
      have other : ¬ a.Selects := fun selects => by cases selects.1.symm.trans advised
      cases a.portState with
      | preMaster =>
          cases qualified with
          | true => exact .move other nofun rfl rfl
          | false => exact .stay other rfl rfl
      | master => exact .stay other rfl rfl
      | initializing | faulty | disabled | listening | passive | uncalibrated | slave =>
          exact .move other nofun rfl rfl
  | passive | listening =>
      have other : ¬ a.Selects := fun selects => by cases selects.1.symm.trans advised
      dsimp only
      split
      · exact .move other nofun rfl rfl
      · exact .stay other rfl rfl
  | slave =>
      cases state : a.portState with
      | uncalibrated => exact select_moves advised state
      | slave => exact desynchronize_moves state
      | initializing | faulty | disabled | listening | passive | preMaster | master =>
          exact .move (fun selects => by cases selects.2.1.symm.trans state) nofun rfl rfl
  | initializing | faulty | disabled | preMaster | uncalibrated =>
      exact .stay (fun selects => by cases selects.1.symm.trans advised) rfl rfl

/-- The actions enter neither SLAVE nor UNCALIBRATED. -/
theorem Act.moves (acted : Act calibrated announced a b) :
    ∃ new, b.moves = new ++ a.moves ∧ ∀ move ∈ new, move.2 ≠ .slave ∧ move.2 ≠ .uncalibrated := by
  have moved {d : Selection} (state : PortState) (same : d.moves = a.moves)
      (other : state ≠ .slave ∧ state ≠ .uncalibrated ∧ state ≠ .preMaster) :
      ∃ new, (d.toState state).moves = new ++ a.moves ∧
        ∀ move ∈ new, move.2 ≠ .slave ∧ move.2 ≠ .uncalibrated := by
    refine ⟨[(d.portState, state)], ?_, ?_⟩
    · rw [toState, if_neg other.2.2, same]
      rfl
    · intro move mem
      rw [List.mem_singleton.mp mem]
      exact ⟨other.1, other.2.1⟩
  cases acted with
  | init _ => exact moved _ rfl ⟨nofun, nofun, nofun⟩
  | initFails _ | clear _ => exact moved _ rfl ⟨nofun, nofun, nofun⟩
  | promote _ _ => exact moved _ rfl ⟨nofun, nofun, nofun⟩
  | relisten _ => exact moved _ rfl ⟨nofun, nofun, nofun⟩
  | deaf _ | none _ => exact ⟨[], rfl, nofun⟩
  | hear _ heard =>
      cases heard with
      | ignored | parent _ _ | foreign _ _ | offset _ _ => exact ⟨[], rfl, nofun⟩
      | fault => exact moved _ rfl ⟨nofun, nofun, nofun⟩

/-- An uncalibrated port is recommended to be a slave. -/
def Bound (a : Selection) : Prop := a.portState = .uncalibrated → a.recommendedState = .slave

theorem Settled.bound (settled : a.Settled) : a.Bound := by
  intro state
  have reached := settled.reached
  rw [state] at reached
  rcases settled.advised with held | held | held | held <;> rw [held] at reached
  · rcases reached with other | other <;> cases other
  · cases reached
  · exact held
  · cases reached

theorem Bound.act (acted : Act calibrated announced a b) (bound : a.Bound) : b.Bound := by
  cases acted with
  | init _ | initFails _ | clear _ | promote _ _ | relisten _ => exact nofun
  | deaf _ | none _ => exact bound
  | hear _ heard =>
      cases heard with
      | ignored | parent _ _ | foreign _ _ | offset _ _ => exact bound
      | fault => exact nofun

/-- A flag that the actions leave set was set before, or by a calibration, which asks for no state
decision. -/
theorem Act.selected (acted : Act calibrated announced a b)
    (flag : b.events.masterClockSelected = true) :
    a.events.masterClockSelected = true ∨
      calibrated ∧ a.portState = .uncalibrated ∧ b.portState = a.portState ∧
        b.parentDS = a.parentDS ∧
        b.events.stateDecisionEvent = a.events.stateDecisionEvent := by
  cases acted with
  | init _ | initFails _ | clear _ | promote _ _ | relisten _ | deaf _ | none _ => exact .inl flag
  | hear _ heard =>
      cases heard with
      | ignored | fault | parent _ _ | foreign _ _ => exact .inl flag
      | offset decision selected =>
          rcases selected flag with before | ⟨calibrated, state⟩
          · exact .inl before
          · exact .inr ⟨calibrated, state, rfl, rfl, decision⟩

/-- A set flag is that of an uncalibrated port without a state decision due. -/
def Quiet (a : Selection) : Prop :=
  a.events.masterClockSelected = true →
    a.portState = .uncalibrated ∧ a.events.stateDecisionEvent = false

/-- No decision is made while the flag is set. -/
theorem Quiet.decide {advised : PortState} {source : PortIdentity} (quiet : a.Quiet)
    (decided : Decide advised source a b) (flag : b.events.masterClockSelected = true) : b = a := by
  have undecided : a.events.stateDecisionEvent = false := by
    rw [decided.moves.2.2] at flag
    exact (quiet flag).2
  cases decided with
  | none _ => rfl
  | stay _ event _ _ _ | lead _ event _ _ _ | follow _ event _ _ _ =>
      cases event.symm.trans undecided

/-- Behind the switches the flag is not set. -/
theorem Quiet.follow {advised : PortState} {source : PortIdentity} (quiet : a.Quiet)
    (bound : a.Bound) (decided : Decide advised source a b) (qualified : Bool) :
    (b.follow qualified).events.masterClockSelected ≠ true := by
  intro kept
  obtain ⟨flag, unready⟩ := (follow_moves qualified b).2 kept
  have same := quiet.decide decided flag
  rw [same] at flag unready
  have state := (quiet flag).1
  exact unready ⟨bound state, state, flag⟩

/-- Behind the switches an uncalibrated port follows a decision, and none is due. -/
theorem resolved {advised : PortState} {source : PortIdentity} (phase : a.Blank ∨ a.Ranked)
    (decided : Decide advised source a b) (qualified : Bool) :
    (b.follow qualified).Bound ∧ ((b.follow qualified).portState = .uncalibrated →
      (b.follow qualified).events.stateDecisionEvent = false) := by
  rcases phase with blank | ranked
  · rw [blank.settle qualified decided]
    have never {p : Prop} (state : a.portState = .uncalibrated) : p := by
      exfalso
      rcases blank.state with held | held <;> cases held.symm.trans state
    exact ⟨never, never⟩
  · have settled := ranked.settle qualified decided
    exact ⟨settled.bound, fun _ => settled.quiet⟩

end Selection

/-! ### Runs -/

/-- What a run keeps: each transition to SLAVE was calibrated, and so is one that is to come. -/
structure CalibratedRun (c : PtpClock) (past : PtpTrace) : Prop where
  ring : RingRun c past
  bound : c.selection.Bound
  calibrated : Lib.Throughout CalibratedBefore past
  quiet : c.selection.Quiet
  pending : c.events.masterClockSelected = true →
    Lib.Lasts (calibratedBy c.parentDS.parentPortIdentity)
      (interrupted c.parentDS.parentPortIdentity) past

/-- The changes of state of a step, in two parts. -/
theorem movesIn_of_append {c : PtpClock} {action : PtpAction} {new : List (PortState × PortState)}
    (grown : (ptpStep c action).moves = new ++ c.moves) : movesIn (c, action) = new := by
  rw [movesIn, grown, List.length_append, Nat.add_sub_cancel, List.take_left]

theorem CalibratedRun.expire {c : PtpClock} {past : PtpTrace} (run : CalibratedRun c past)
    (timer : PtpTimer) : CalibratedRun (ptpStep c (.expire timer)) ((c, .expire timer) :: past) := by
  have same := ptpStep_expire_selection (c := c) timer
  have still : movesIn (c, .expire timer) = [] :=
    movesIn_of_append (congrArg Selection.moves same)
  have idle (state : PortState) : ¬ enters state (c, .expire timer) := by
    rintro ⟨move, mem, -⟩
    rw [still] at mem
    cases mem
  have parent : (ptpStep c (.expire timer)).parentDS = c.parentDS :=
    congrArg Selection.parentDS same
  have events : (ptpStep c (.expire timer)).events = c.events := congrArg Selection.events same
  constructor
  · exact run.ring.step _
  · rw [same]
    exact run.bound
  · exact Lib.throughout_cons.mpr ⟨fun entered => absurd entered (idle _), run.calibrated⟩
  · rw [same]
    exact run.quiet
  · rw [events, parent]
    intro flag
    refine .inr ⟨?_, run.pending flag⟩
    rintro (entered | changed)
    · exact idle _ entered
    · exact changed (congrArg ParentDS.parentPortIdentity parent)

/-- A step enters SLAVE only in the second switch. -/
theorem enters_slave {c : PtpClock} {input : PtpInput} {a d : Selection}
    {first second : List (PortState × PortState)} (grown : d.moves = first ++ c.moves)
    (rest : (ptpStep c (.step input)).moves = second ++ d.moves)
    (others : ∀ move ∈ second, move.2 ≠ .slave ∧ move.2 ≠ .uncalibrated)
    (selects : ∀ move ∈ first, move.2 = .slave → a.Selects)
    (entered : enters .slave (c, .step input)) : a.Selects := by
  obtain ⟨move, mem, slave⟩ := entered
  rw [grown, ← List.append_assoc] at rest
  rw [movesIn_of_append rest, List.mem_append] at mem
  rcases mem with late | early
  · exact absurd slave (others move late).1
  · exact selects move early slave

theorem CalibratedRun.step {c : PtpClock} {past : PtpTrace} (run : CalibratedRun c past)
    (input : PtpInput) : CalibratedRun (ptpStep c (.step input)) ((c, .step input) :: past) := by
  obtain ⟨safe, phase, -⟩ := run.ring
  obtain ⟨a, qualified, decided, before, acted⟩ := ptpStep_selection safe input
  have parent : (beforeActions c input).parentDS = a.parentDS :=
    (congrArg Selection.parentDS before).trans (a.follow_data qualified).1
  obtain ⟨⟨first, grown, selects⟩, -⟩ := Selection.follow_moves qualified a
  have unset := run.quiet.follow run.bound decided qualified
  obtain ⟨bound, quiet⟩ := Selection.resolved phase decided qualified
  rw [decided.moves.1] at grown
  rw [Acted, before] at acted
  obtain ⟨second, rest, others⟩ := acted.moves
  -- What sets the flag in this step is a calibration by the parent that the port has.
  have calibrated (flag : (ptpStep c (.step input)).events.masterClockSelected = true) :=
    (acted.selected flag).resolve_left unset
  constructor
  · exact run.ring.step (.step input)
  · exact bound.act acted
  · refine Lib.throughout_cons.mpr ⟨fun entered => ?_, run.calibrated⟩
    have ready := enters_slave grown rest others selects entered
    have same := run.quiet.decide decided ready.2.2
    have kept : parentIn (c, .step input) = c.parentDS.parentPortIdentity := by
      change (beforeActions c input).parentDS.parentPortIdentity = _
      rw [parent, same]
      rfl
    rw [kept]
    rw [same] at ready
    exact run.pending ready.2.2
  · intro flag
    obtain ⟨-, state, port, -, event⟩ := calibrated flag
    exact ⟨port.trans state, event.trans (quiet state)⟩
  · intro flag
    obtain ⟨gave, -, -, same, -⟩ := calibrated flag
    refine .inl ⟨gave, ?_⟩
    have same : (ptpStep c (.step input)).parentDS = (a.follow qualified).parentDS := same
    change (beforeActions c input).parentDS.parentPortIdentity = _
    rw [same, parent, (a.follow_data qualified).1]

theorem run_calibrated (rtOpts : RunTimeOpts) (actions : List PtpAction) :
    CalibratedRun (ptpRun rtOpts actions) (Lib.trace ptpStep (ptpdStartup rtOpts) actions) := by
  refine Lib.trace_invariant_of_step CalibratedRun ?_ ?_ actions
  · intro c past action run
    cases action with
    | expire timer => exact run.expire timer
    | step input => exact run.step input
  · constructor
    · exact run_ring rtOpts []
    · exact nofun
    · exact Lib.throughout_nil _
    · exact nofun
    · exact nofun

/-- **A slave is calibrated.** In every run each step that enters SLAVE follows, with neither an
entry to UNCALIBRATED nor another parent in between, a Sync or Follow_Up of the parent that gave a
small offset. -/
theorem calibrated_before_slave (rtOpts : RunTimeOpts) (actions : List PtpAction) :
    Lib.Throughout CalibratedBefore (Lib.trace ptpStep (ptpdStartup rtOpts) actions) :=
  (run_calibrated rtOpts actions).calibrated

end LwipExt.Ptp
