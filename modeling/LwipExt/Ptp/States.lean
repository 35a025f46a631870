import LwipExt.Ptp.Timeouts

/-!
The states that a run reaches: a port that is faulty, and a clock that may only be a slave.
-/

namespace LwipExt.Ptp

open Control (Decide Follow Act Handle)

/-! ### A faulty port -/

/-- A port left FAULTY only for INITIALIZING. -/
def faultyInitializes (moves : List (PortState × PortState)) : Prop :=
  ∀ move ∈ moves, move.1 = .faulty → move.2 = .initializing

/-- A recommendation that the second switch follows from any other state. -/
def isFollowed (state : PortState) : Prop :=
  state = .master ∨ state = .passive ∨ state = .slave ∨ state = .listening

/-- A step that begins in FAULTY has no recommendation to follow. -/
def faultUnadvised (c : PtpClock) : PtpAction → Prop
  | .expire _ => True
  | .step _ => c.portDS.portState = .faulty → ¬ isFollowed c.recommendedState

namespace Control

/-- What a change of state adds to the moves. -/
theorem faultyInitializes_toState (a : Control) (state : PortState) :
    faultyInitializes (a.toState state).moves ↔
      (a.portState = .faulty → state = .initializing) ∧ faultyInitializes a.moves := by
  have left : (a.toState state).moves =
      (a.portState, (a.toState state).portState) :: a.moves := by
    unfold toState enter leave
    cases state <;> cases a.portState <;> rfl
  have entered : (a.toState state).portState = .initializing ↔ state = .initializing := by
    unfold toState enter
    cases state <;> simp
  rw [left, faultyInitializes, List.forall_mem_cons]
  dsimp only
  rw [entered]
  rfl

theorem faultyInitializes_follow {a b : Control} (followed : Follow a b) :
    faultyInitializes b.moves ↔
      faultyInitializes a.moves ∧ (a.portState = .faulty → ¬ isFollowed a.recommendedState) := by
  have moved (state : PortState) (other : state ≠ .initializing)
      (recommended : isFollowed a.recommendedState) :
      faultyInitializes (a.toState state).moves ↔
        faultyInitializes a.moves ∧
          (a.portState = .faulty → ¬ isFollowed a.recommendedState) := by
    rw [faultyInitializes_toState, and_comm]
    simp [other, recommended]
  cases followed with
  | stay reached =>
      refine ⟨fun clean => ⟨clean, fun faulty => ?_⟩, fun clean => clean.1⟩
      obtain ⟨master, passive, slave, listening⟩ := reached faulty
      rintro (held | held | held | held)
      · exact master held
      · exact passive held
      · exact slave held
      · exact listening held
  | master recommended _ => exact moved _ nofun (.inl recommended)
  | passive recommended _ => exact moved _ nofun (.inr (.inl recommended))
  | listening recommended _ => exact moved _ nofun (.inr (.inr (.inr recommended)))
  | selected recommended _ => exact moved _ nofun (.inr (.inr (.inl recommended)))
  | uncalibrated recommended _ => exact moved _ nofun (.inr (.inr (.inl recommended)))
  | twice recommended state =>
      have first := moved .uncalibrated nofun (.inr (.inr (.inl recommended)))
      rw [faultyInitializes_toState, first]
      have uncalibrated : (a.toState .uncalibrated).portState = .uncalibrated := rfl
      rw [uncalibrated]
      simp

theorem faultyInitializes_act {short sync announce : Prop} {a b : Control}
    (acted : Act short sync announce a b) :
    faultyInitializes b.moves ↔ faultyInitializes a.moves := by
  have moved {d : Control} {state : PortState} (same : d.moves = a.moves)
      (left : d.portState = .faulty → state = .initializing) :
      faultyInitializes (d.toState state).moves ↔ faultyInitializes a.moves := by
    rw [faultyInitializes_toState, same]
    exact and_iff_right left
  have handles {d : Control} (handled : Handle short d b) (same : d.moves = a.moves)
      (state : d.portState ≠ .faulty) :
      faultyInitializes b.moves ↔ faultyInitializes a.moves := by
    cases handled with
    | ignored _ | announced _ => rw [same]
    | fault _ => exact moved same fun faulty => absurd faulty state
  cases acted with
  | init state _ => exact moved rfl fun faulty => by cases state.symm.trans faulty
  | initFails state => exact moved rfl fun faulty => by cases state.symm.trans faulty
  | clear _ => exact moved rfl fun _ => rfl
  | promote _ state _ =>
      refine moved rfl fun faulty => ?_
      rcases state with held | held | held | held <;> cases held.symm.trans faulty
  | relisten state _ =>
      refine moved rfl fun faulty => ?_
      rcases state with held | held | held <;> cases held.symm.trans faulty
  | deaf _ _ => rfl
  | wait state handled => exact handles handled rfl state.2.2.1
  | master state _ _ handled =>
      refine handles handled rfl fun faulty => ?_
      cases state.symm.trans faulty
  | none _ => rfl

end Control

/-- A step keeps the moves out of FAULTY right exactly when it had no recommendation to follow. -/
theorem faultyInitializes_step (c : PtpClock) (action : PtpAction) :
    faultyInitializes (ptpStep c action).moves ↔
      faultyInitializes c.moves ∧ faultUnadvised c action := by
  cases action with
  | expire timer =>
      have same : (ptpStep c (.expire timer)).moves = c.moves :=
        congrArg Control.moves (ptpStep_expire_control c timer)
      rw [same]
      exact (and_iff_left trivial).symm
  | step input =>
      obtain ⟨a, decided, followed, acted⟩ := ptpStep_control c input
      have acted := (Control.faultyInitializes_act acted).trans
        (Control.faultyInitializes_follow followed)
      refine acted.trans ?_
      cases decided with
      | none => rfl
      | recommend state decided _ =>
          have awake : c.control.portState ≠ .faulty := decided.2.1
          refine and_congr_right fun _ => iff_of_true ?_ ?_
          · exact fun faulty => absurd faulty awake
          · exact fun faulty => absurd faulty awake

/-- In a run a faulty port goes to INITIALIZING only exactly when no step begins in FAULTY with a
recommendation to follow. -/
theorem faulty_initializes_iff (rtOpts : RunTimeOpts) (actions : List PtpAction) :
    faultyInitializes (ptpRun rtOpts actions).moves ↔
      Lib.Along ptpStep faultUnadvised (ptpdStartup rtOpts) actions := by
  refine Lib.clean_run_iff (fun _ => True) (fun c : PtpClock => faultyInitializes c.moves) ?_
    (fun _ _ _ => trivial) ?_ trivial ?_ actions
  · intro c action _ clean
    rw [faultyInitializes_step]
    exact and_iff_right clean
  · intro c action _ dirty
    rw [faultyInitializes_step]
    exact fun clean => dirty clean.1
  · intro move mem
    have first : (ptpdStartup rtOpts).moves = [(.initializing, .initializing)] := rfl
    rw [first, List.mem_singleton] at mem
    rw [mem]
    nofun

/-- A datagram of one byte makes a listening port faulty, and it listens again at once. -/
theorem not_faulty_initializes : ¬ ∀ (rtOpts : RunTimeOpts) (actions : List PtpAction),
    faultyInitializes (ptpRun rtOpts actions).moves := by
  intro clean
  have left := clean {} [.step {}, .step { event := some { payload := [0] } }, .step {}]
    (.faulty, .listening) (by decide +kernel) rfl
  cases left

/-! ### A clock that may only be a slave -/

namespace Control

/-- The options make the clock a slave only. -/
def Only (rtOpts : RunTimeOpts) : Prop :=
  rtOpts.slaveOnly = true ∨ rtOpts.clockQuality.clockClass = 255

theorem isSlaveOnly_iff {ds : DefaultDS} {rtOpts : RunTimeOpts} (initial : IsInitial ds rtOpts) :
    isSlaveOnly ds = true ↔ Only rtOpts := by
  simp [isSlaveOnly, Only, initial.1, initial.2]

/-- The states, recommendations and messages of a slave. -/
structure Obeys (a : Control) : Prop where
  state : a.portState = .initializing ∨ a.portState = .faulty ∨ a.portState = .listening ∨
    a.portState = .uncalibrated ∨ a.portState = .slave
  recommended : a.recommendedState = .initializing ∨ a.recommendedState = .listening ∨
    a.recommendedState = .slave
  silent : a.mastered = []
  /-- The default data set says so as soon as the port is initialized. -/
  only : isSlaveOnly a.defaultDS = true ∨
    (a.portState = .initializing ∨ a.portState = .faulty) ∧ a.recommendedState = .initializing

/-- What a change of state leaves alone. -/
theorem toState_keeps (a : Control) (state : PortState) :
    (a.toState state).defaultDS = a.defaultDS ∧ (a.toState state).mastered = a.mastered ∧
      (a.toState state).rtOpts = a.rtOpts := by
  unfold toState leave enter
  cases state <;> cases a.portState <;> exact ⟨rfl, rfl, rfl⟩

/-- The state and the recommendation after a change of state. -/
theorem toState_state (a : Control) (state : PortState) (other : state ≠ .preMaster) :
    (a.toState state).portState = state ∧ (a.toState state).recommendedState =
      if state = .initializing ∨ state = .listening then state else a.recommendedState := by
  unfold toState leave enter
  cases state <;> cases a.portState <;> first | exact ⟨rfl, rfl⟩ | exact absurd rfl other

/-- A fault, and its end, are always allowed. -/
theorem Obeys.fault {a : Control} (obeys : a.Obeys) : (a.toState .faulty).Obeys := by
  obtain ⟨ds, silent, -⟩ := a.toState_keeps .faulty
  obtain ⟨entered, recommended⟩ := a.toState_state .faulty nofun
  refine ⟨.inr (.inl entered), ?_, silent.trans obeys.silent, ?_⟩
  · rw [recommended]
    exact obeys.recommended
  · rw [ds, recommended]
    rcases obeys.only with only | ⟨-, unadvised⟩
    · exact .inl only
    · exact .inr ⟨.inr entered, unadvised⟩

theorem Obeys.clear {a : Control} (obeys : a.Obeys) : (a.toState .initializing).Obeys := by
  obtain ⟨ds, silent, -⟩ := a.toState_keeps .initializing
  exact ⟨.inl rfl, .inl rfl, silent.trans obeys.silent, .inr ⟨.inl rfl, rfl⟩⟩

/-- A slave may listen and synchronize. -/
theorem Obeys.toState {a : Control} {state : PortState} (silent : a.mastered = [])
    (only : isSlaveOnly a.defaultDS = true)
    (recommended : a.recommendedState = .initializing ∨ a.recommendedState = .listening ∨
      a.recommendedState = .slave)
    (entered : state = .listening ∨ state = .uncalibrated ∨ state = .slave) :
    (a.toState state).Obeys := by
  obtain ⟨ds, kept, -⟩ := a.toState_keeps state
  obtain ⟨at_, advised⟩ := a.toState_state state
    (by rcases entered with rfl | rfl | rfl <;> nofun)
  refine ⟨?_, ?_, kept.trans silent, .inl (ds ▸ only)⟩
  · rw [at_]
    exact .inr (.inr entered)
  · rw [advised]
    split
    · next initial =>
        rcases initial with held | held
        · exact .inl held
        · exact .inr (.inl held)
    · exact recommended

theorem Obeys.decide {a b : Control} (decided : Decide a b) (obeys : a.Obeys) : b.Obeys := by
  cases decided with
  | none => exact obeys
  | recommend state decided known =>
      have only : isSlaveOnly a.defaultDS = true := by
        rcases obeys.only with only | ⟨initial | faulty, -⟩
        · exact only
        · exact absurd initial decided.1
        · exact absurd faulty decided.2.1
      refine ⟨obeys.state, ?_, obeys.silent, .inl only⟩
      rcases known with listening | slave | ⟨-, able⟩
      · exact .inr (.inl listening)
      · exact .inr (.inr slave)
      · rw [only] at able
        cases able

theorem Obeys.follow {a b : Control} (followed : Follow a b) (obeys : a.Obeys) : b.Obeys := by
  have only (advised : a.recommendedState ≠ .initializing) :
      isSlaveOnly a.defaultDS = true := by
    rcases obeys.only with only | ⟨-, unadvised⟩
    · exact only
    · exact absurd unadvised advised
  cases followed with
  | stay _ => exact obeys
  | master recommended _ =>
      rcases obeys.recommended with held | held | held <;> cases recommended.symm.trans held
  | passive recommended _ =>
      rcases obeys.recommended with held | held | held <;> cases recommended.symm.trans held
  | listening recommended _ =>
      exact Obeys.toState obeys.silent (only (by rw [recommended]; nofun)) obeys.recommended
        (.inl rfl)
  | selected recommended _ =>
      exact Obeys.toState obeys.silent (only (by rw [recommended]; nofun)) obeys.recommended
        (.inr (.inr rfl))
  | uncalibrated recommended _ =>
      exact Obeys.toState obeys.silent (only (by rw [recommended]; nofun)) obeys.recommended
        (.inr (.inl rfl))
  | twice recommended _ =>
      have only := only (by rw [recommended]; nofun)
      have first : (a.toState .uncalibrated).Obeys :=
        Obeys.toState obeys.silent only obeys.recommended (.inr (.inl rfl))
      exact Obeys.toState first.silent ((a.toState_keeps .uncalibrated).1 ▸ only)
        first.recommended (.inr (.inl rfl))

theorem Obeys.act {short sync announce : Prop} {a b : Control}
    (acted : Act short sync announce a b) (slave : Only a.rtOpts) (obeys : a.Obeys) :
    b.Obeys := by
  -- Only INITIALIZING and FAULTY come before the default data set is there.
  have only (initialized : a.portState ≠ .initializing) (sound : a.portState ≠ .faulty) :
      isSlaveOnly a.defaultDS = true := by
    rcases obeys.only with only | ⟨initial | faulty, -⟩
    · exact only
    · exact absurd initial initialized
    · exact absurd faulty sound
  cases acted with
  | init state initial =>
      exact Obeys.toState obeys.silent ((isSlaveOnly_iff initial).mpr slave) obeys.recommended
        (.inl rfl)
  | initFails state => exact obeys.fault
  | clear state => exact obeys.clear
  | promote _ state able =>
      have only : isSlaveOnly a.defaultDS = true := by
        rcases state with held | held | held | held <;>
          exact only (by rw [held]; nofun) (by rw [held]; nofun)
      rw [only] at able
      cases able
  | relisten _ only => exact Obeys.toState obeys.silent only obeys.recommended (.inl rfl)
  | deaf _ _ => exact ⟨obeys.state, obeys.recommended, obeys.silent, obeys.only⟩
  | wait _ handled =>
      cases handled with
      | ignored _ => exact obeys
      | fault _ => exact obeys.fault
      | announced _ => exact ⟨obeys.state, obeys.recommended, obeys.silent, obeys.only⟩
  | master state _ _ _ =>
      rcases obeys.state with held | held | held | held | held <;> cases state.symm.trans held
  | none state => exact obeys

/-- The default data set is that of the options, or none. -/
def Slavish (a : Control) : Prop :=
  (isSlaveOnly a.defaultDS = true → Only a.rtOpts) ∧ (Only a.rtOpts → a.Obeys)

/-- The data sets that a step changes. -/
theorem Decide.keeps {a b : Control} (decided : Decide a b) :
    b.defaultDS = a.defaultDS ∧ b.rtOpts = a.rtOpts := by
  cases decided <;> exact ⟨rfl, rfl⟩

theorem Follow.keeps {a b : Control} (followed : Follow a b) :
    b.defaultDS = a.defaultDS ∧ b.rtOpts = a.rtOpts := by
  cases followed with
  | stay _ => exact ⟨rfl, rfl⟩
  | master _ _ | passive _ _ | listening _ _ | selected _ _ | uncalibrated _ _ =>
      exact ⟨(a.toState_keeps _).1, (a.toState_keeps _).2.2⟩
  | twice _ _ =>
      exact ⟨((a.toState .uncalibrated).toState_keeps _).1.trans (a.toState_keeps _).1,
        ((a.toState .uncalibrated).toState_keeps _).2.2.trans (a.toState_keeps _).2.2⟩

theorem Handle.keeps {short : Prop} {a b : Control} (handled : Handle short a b) :
    b.defaultDS = a.defaultDS ∧ b.rtOpts = a.rtOpts := by
  cases handled with
  | ignored _ | announced _ => exact ⟨rfl, rfl⟩
  | fault _ => exact ⟨(a.toState_keeps _).1, (a.toState_keeps _).2.2⟩

theorem Act.keeps {short sync announce : Prop} {a b : Control}
    (acted : Act short sync announce a b) :
    (b.defaultDS = a.defaultDS ∨ IsInitial b.defaultDS a.rtOpts) ∧ b.rtOpts = a.rtOpts := by
  have moved (d : Control) (state : PortState) (ds : d.defaultDS = a.defaultDS)
      (rtOpts : d.rtOpts = a.rtOpts) :
      ((d.toState state).defaultDS = a.defaultDS ∨
        IsInitial (d.toState state).defaultDS a.rtOpts) ∧
        (d.toState state).rtOpts = a.rtOpts :=
    ⟨.inl ((d.toState_keeps state).1.trans ds), (d.toState_keeps state).2.2.trans rtOpts⟩
  cases acted with
  | init state initial =>
      refine ⟨.inr ?_, ((a.init _).toState_keeps _).2.2⟩
      rw [((a.init _).toState_keeps _).1]
      exact initial
  | initFails _ | clear _ | promote _ _ _ | relisten _ _ => exact moved _ _ rfl rfl
  | deaf _ _ | none _ => exact ⟨.inl rfl, rfl⟩
  | wait _ handled => exact ⟨.inl handled.keeps.1, handled.keeps.2⟩
  | master _ _ _ handled => exact ⟨.inl handled.keeps.1, handled.keeps.2⟩

theorem Slavish.decide {a b : Control} (decided : Decide a b) (slavish : a.Slavish) :
    b.Slavish := by
  obtain ⟨ds, rtOpts⟩ := decided.keeps
  rw [Slavish, ds, rtOpts]
  exact ⟨slavish.1, fun only => (slavish.2 only).decide decided⟩

theorem Slavish.follow {a b : Control} (followed : Follow a b) (slavish : a.Slavish) :
    b.Slavish := by
  obtain ⟨ds, rtOpts⟩ := followed.keeps
  rw [Slavish, ds, rtOpts]
  exact ⟨slavish.1, fun only => (slavish.2 only).follow followed⟩

theorem Slavish.act {short sync announce : Prop} {a b : Control}
    (acted : Act short sync announce a b) (slavish : a.Slavish) : b.Slavish := by
  obtain ⟨ds, rtOpts⟩ := acted.keeps
  rw [Slavish, rtOpts]
  refine ⟨fun only => ?_, fun only => (slavish.2 only).act acted only⟩
  rcases ds with same | initial
  · exact slavish.1 (same ▸ only)
  · exact (isSlaveOnly_iff initial).mp only

end Control

/-- A clock that may only be a slave is never a master and never passive, and sends no Sync and no
Announce. -/
theorem slave_only_never_master (rtOpts : RunTimeOpts) (actions : List PtpAction)
    (only : isSlaveOnly (ptpRun rtOpts actions).defaultDS = true) :
    (ptpRun rtOpts actions).portDS.portState ≠ .preMaster ∧
      (ptpRun rtOpts actions).portDS.portState ≠ .master ∧
      (ptpRun rtOpts actions).portDS.portState ≠ .passive ∧
      ∀ datagram ∈ (ptpRun rtOpts actions).sent, datagram.isMasters = false := by
  have slavish : (ptpRun rtOpts actions).control.Slavish := by
    refine control_invariant Control.Slavish Control.Slavish.decide Control.Slavish.follow
      Control.Slavish.act ?_ actions
    exact ⟨nofun, fun _ => ⟨.inl rfl, .inl rfl, rfl, .inr ⟨.inl rfl, rfl⟩⟩⟩
  have obeys := slavish.2 (slavish.1 only)
  have state := obeys.state
  have silent : (ptpRun rtOpts actions).sent.filter PtpSent.isMasters = [] := obeys.silent
  refine ⟨?_, ?_, ?_, ?_⟩
  · intro entered
    rcases state with held | held | held | held | held <;> cases entered.symm.trans held
  · intro entered
    rcases state with held | held | held | held | held <;> cases entered.symm.trans held
  · intro entered
    rcases state with held | held | held | held | held <;> cases entered.symm.trans held
  · intro datagram mem
    rw [List.filter_eq_nil_iff] at silent
    simpa using silent datagram mem

/-- The options of the firmware, and a master that is lost. -/
theorem slave_only_never_master_met :
    isSlaveOnly (ptpRun {} [.step {}, .step { event := (peer 7).datagram .announce }, .step {},
        .step { fires := fun timer => timer = .announceReceipt }]).defaultDS = true ∧
      (ptpRun {} [.step {}, .step { event := (peer 7).datagram .announce }, .step {},
        .step { fires := fun timer => timer = .announceReceipt }]).portDS.portState ≠ .master := by
  have only : isSlaveOnly (ptpRun {} [.step {}, .step { event := (peer 7).datagram .announce },
      .step {}, .step { fires := fun timer => timer = .announceReceipt }]).defaultDS = true := by
    decide +kernel
  exact ⟨only, (slave_only_never_master {} _ only).2.1⟩

end LwipExt.Ptp
