import LwipExt.Ptp.RoundTrip
import LwipExt.Ptp.SelectionSteps
import LwipExt.Ptp.States

/-!
What a master advertises: its data sets describe the local clock, and so does every Announce it
sends.
-/

namespace LwipExt.Ptp

/-- The data sets of the parent describe the local clock. -/
structure DescribesItself (parentDS : ParentDS) (stepsRemoved : Int16) (ds : DefaultDS) : Prop where
  identity : parentDS.grandmasterIdentity = ds.clockIdentity
  quality : parentDS.grandmasterClockQuality = ds.clockQuality
  priority1 : parentDS.grandmasterPriority1 = ds.priority1
  priority2 : parentDS.grandmasterPriority2 = ds.priority2
  steps : stepsRemoved = 0

/-- An Announce advertises a clock. -/
structure MsgAnnounce.Advertises (announce : MsgAnnounce) (ds : DefaultDS) : Prop where
  identity : announce.grandmasterIdentity = ds.clockIdentity
  quality : announce.grandmasterClockQuality = ds.clockQuality
  priority1 : announce.grandmasterPriority1 = ds.priority1
  priority2 : announce.grandmasterPriority2 = ds.priority2
  steps : announce.stepsRemoved = 0

/-! ### The data sets of a master -/

namespace Selection

/-- The data sets are those that `m1` leaves. -/
def IsLocal (a : Selection) : Prop := a.parentDS = localParent a.defaultDS ∧ a.stepsRemoved = 0

/-- A master, and a port that is recommended to be one, holds its own data. -/
def Leads (a : Selection) : Prop := leads a.portState ∨ a.recommendedState = .master → a.IsLocal

/-- After a state decision a master may hold the data of its successor. -/
def Yields (a : Selection) : Prop :=
  a.recommendedState = .slave ∨ a.Leads

variable {a b : Selection}

theorem Leads.decide {advised : PortState} {source : PortIdentity}
    (decided : Decide advised source a b) (leads : a.Leads) : b.Yields := by
  cases decided with
  | none _ => exact .inr leads
  | stay _ _ _ _ known =>
      refine .inr fun leading => ?_
      rcases leading with state | recommended
      · exact leads (.inl state)
      · rcases known with rfl | rfl <;> cases recommended
  | lead _ _ _ _ _ => exact .inr fun _ => ⟨rfl, rfl⟩
  | follow _ _ _ _ _ => exact .inl rfl

/-- Behind the second switch a slave is not recommended to lead. -/
def Ready (a : Selection) : Prop :=
  a.Leads ∧ (synchronizes a.portState → a.recommendedState ≠ .master)

theorem Yields.follow (qualified : Bool) (yields : a.Yields) : (a.follow qualified).Ready := by
  obtain ⟨advised, reached⟩ := a.follow_reaches qualified
  obtain ⟨parentDS, steps, ds, -, -⟩ := a.follow_data qualified
  constructor
  · intro leading
    rw [advised] at leading
    have holds : a.IsLocal → (a.follow qualified).IsLocal := by
      rw [IsLocal, IsLocal, parentDS, steps, ds]
      exact id
    have moved {state : PortState} (other : ¬ Selection.leads state)
        (at_ : (a.follow qualified).portState = state) (another : a.recommendedState ≠ .master) :
        (a.follow qualified).IsLocal := by
      rcases leading with leading | recommended
      · exact absurd (at_ ▸ leading) other
      · exact absurd recommended another
    have idle (same : a.follow qualified = a) (another : a.recommendedState ≠ .slave) :
        (a.follow qualified).IsLocal := by
      rw [same] at leading ⊢
      exact yields.resolve_left another leading
    cases recommended : a.recommendedState with
    | master => exact holds (yields.resolve_left (by rw [recommended]; nofun) (.inr recommended))
    | passive | listening =>
        rw [recommended] at reached
        refine moved ?_ reached (by rw [recommended]; nofun)
        rintro (held | held) <;> cases held
    | slave =>
        rw [recommended] at reached
        rcases reached with held | held
        · refine moved ?_ held (by rw [recommended]; nofun)
          rintro (held | held) <;> cases held
        · refine moved ?_ held (by rw [recommended]; nofun)
          rintro (held | held) <;> cases held
    | initializing | faulty | disabled | preMaster | uncalibrated =>
        refine idle ?_ (by rw [recommended]; nofun)
        unfold Selection.follow
        rw [recommended]
  · intro state recommended
    rw [← advised, recommended] at reached
    rcases state with held | held <;> rcases reached with held' | held' <;>
      cases held.symm.trans held'

theorem Leads.hear (calibrated : Prop) (announced : PortIdentity → Prop)
    (heard : Hear calibrated announced a b) (ready : a.Ready) : b.Leads := by
  cases heard with
  | ignored | foreign _ _ | offset _ _ => exact ready.1
  | fault =>
      intro leading
      rcases leading with (state | state) | recommended
      · cases state
      · cases state
      · exact ready.1 (.inr recommended)
  | parent state _ =>
      rintro (leading | recommended)
      · rcases state with held | held <;> rcases leading with held' | held' <;>
          cases held.symm.trans held'
      · exact absurd recommended (ready.2 state)

theorem Leads.act {calibrated : Prop} {announced : PortIdentity → Prop}
    (acted : Act calibrated announced a b) (ready : a.Ready) : b.Leads := by
  cases acted with
  | init _ | relisten _ =>
      rintro ((state | state) | recommended)
      · cases state
      · cases state
      · cases recommended
  | clear _ =>
      rintro ((state | state) | recommended)
      · cases state
      · cases state
      · cases recommended
  | initFails _ => exact Leads.hear False (fun _ => False) .fault ready
  | promote _ _ => exact fun _ => ⟨rfl, rfl⟩
  | deaf _ | none _ => exact ready.1
  | hear _ heard => exact Leads.hear _ _ heard ready

end Selection

/-- In every run a master holds its own data. -/
theorem run_leads (rtOpts : RunTimeOpts) (actions : List PtpAction) :
    (ptpRun rtOpts actions).selection.Leads := by
  refine selection_invariant Selection.Leads ?_ ?_ actions
  · intro a b d calibrated announced advised source qualified decided acted leads
    exact Selection.Leads.act acted ((leads.decide decided).follow qualified)
  · rintro ((state | state) | recommended)
    · cases state
    · cases state
    · cases recommended

/-! ### The Announces of a master -/

/-- An Announce. -/
def PtpSent.isAnnounce (datagram : PtpSent) : Bool :=
  datagram.payload.getD 0 0 &&& 0x0f = MsgType.announce.code

/-- The Announces are among the messages of a master. -/
theorem filter_isAnnounce (sent : List PtpSent) :
    sent.filter PtpSent.isAnnounce = (sent.filter PtpSent.isMasters).filter PtpSent.isAnnounce := by
  rw [List.filter_filter]
  apply List.filter_congr
  intro datagram _
  unfold PtpSent.isAnnounce PtpSent.isMasters
  dsimp only
  simp
  exact .inr

/-- The Announces that a clock sent. -/
def PtpClock.announces (c : PtpClock) : List PtpSent := c.sent.filter PtpSent.isAnnounce

theorem announces_of_control {c d : PtpClock} (same : d.control.mastered = c.control.mastered) :
    d.announces = c.announces := by
  have same : d.sent.filter PtpSent.isMasters = c.sent.filter PtpSent.isMasters := same
  rw [PtpClock.announces, PtpClock.announces, filter_isAnnounce, same, ← filter_isAnnounce]

/-- A message of another kind is no Announce. -/
theorem Issued.announces {c d : PtpClock} {m : Message} (issued : Issued c m d)
    (other : m.type.code ≠ MsgType.announce.code) : d.announces = c.announces := by
  obtain ⟨sends, new, channel, rfl, which⟩ := issued
  rcases which with rfl | rfl
  · rfl
  · have type := sent_type c c.msgObuf m m.type.length (by
      have := length_pos m.type
      omega)
    rw [PtpClock.announces, List.singleton_append, List.filter_cons_of_neg]
    · rfl
    · have type : (emitted c c.msgObuf m).getD 0 0 &&& 0x0f = m.type.code := type
      simp only [PtpSent.isAnnounce, type, other, decide_false, Bool.false_eq_true,
        not_false_eq_true]

theorem syncTimeout_announces (c : PtpClock) : (syncTimeout c).announces = c.announces := by
  obtain ⟨timers, eq, -⟩ := timerExpired_cases c .syncInterval
  unfold syncTimeout
  generalize timerExpired c .syncInterval = result at eq ⊢
  obtain ⟨due, e⟩ := result
  have kept : e.announces = c.announces := by
    dsimp only at eq
    rw [eq]
    rfl
  cases due with
  | false => exact kept
  | true =>
      dsimp only
      rw [← kept]
      obtain ⟨d, m, issued, type, sync | ⟨time, followed⟩⟩ := issueSync_cases e
      · rw [sync]
        exact issued.announces (by rw [type]; decide)
      · have first : d.announces = e.announces := issued.announces (by rw [type]; decide)
        rw [← first]
        exact followed.announces nofun

/-- The Announce interval timer sends at most one Announce, of the data sets. -/
theorem announceIntervalTimeout_announces (c : PtpClock) :
    ∃ new, (announceIntervalTimeout c).announces = new ++ c.announces ∧
      ∀ datagram ∈ new, msgUnpackAnnounce datagram.payload = c.announced := by
  obtain ⟨timers, eq, -⟩ := timerExpired_cases c .announceInterval
  unfold announceIntervalTimeout
  generalize timerExpired c .announceInterval = result at eq ⊢
  obtain ⟨due, e⟩ := result
  have kept : e.announces = c.announces ∧ e.announced = c.announced := by
    dsimp only at eq
    rw [eq]
    exact ⟨rfl, rfl⟩
  cases due with
  | false => exact ⟨[], kept.1, nofun⟩
  | true =>
      dsimp only
      rw [← kept.1, ← kept.2]
      obtain ⟨d, ⟨sends, new, channel, rfl, which⟩, sent⟩ := issueAnnounce_cases e
      rw [sent]
      refine ⟨new.filter PtpSent.isAnnounce, List.filter_append _ _, ?_⟩
      intro datagram mem
      rcases which with rfl | rfl
      · cases mem
      · have mem := List.mem_of_mem_filter mem
        rw [List.mem_singleton.mp mem]
        exact unpack_emitted e e.msgObuf .announce

/-- What a change of state and a datagram leave alone. -/
theorem Control.Handle.mastered {short : Prop} {a b : Control} (handled : Control.Handle short a b) :
    b.mastered = a.mastered := by
  cases handled with
  | ignored _ | announced _ => rfl
  | fault _ => exact (a.toState_keeps _).2.1

theorem Control.Follow.mastered {a b : Control} (followed : Control.Follow a b) :
    b.mastered = a.mastered := by
  cases followed with
  | stay _ => rfl
  | master _ _ | passive _ _ | listening _ _ | selected _ _ | uncalibrated _ _ =>
      exact (a.toState_keeps _).2.1
  | twice _ _ => exact ((a.toState .uncalibrated).toState_keeps _).2.1.trans (a.toState_keeps _).2.1

/-- Only a master sends Sync and Announce messages. -/
theorem Control.Act.mastered {short sync announce : Prop} {a b : Control}
    (acted : Control.Act short sync announce a b) (other : a.portState ≠ .master) :
    b.mastered = a.mastered := by
  cases acted with
  | init _ _ => exact ((a.init _).toState_keeps _).2.1
  | initFails _ | clear _ => exact (a.toState_keeps _).2.1
  | promote _ _ _ => exact (Control.toState_keeps _ _).2.1
  | relisten _ _ => exact (Control.toState_keeps _ _).2.1
  | deaf _ _ | none _ => rfl
  | wait _ handled => exact handled.mastered
  | master state _ _ _ => exact absurd state other

/-- The default data set of a port that is not initializing stays. -/
theorem Selection.Act.defaultDS {calibrated : Prop} {announced : PortIdentity → Prop}
    {a b : Selection} (acted : Selection.Act calibrated announced a b)
    (state : a.portState ≠ .initializing) : b.defaultDS = a.defaultDS := by
  cases acted with
  | init initial => exact absurd initial state
  | initFails initial => exact absurd initial state
  | clear _ | promote _ _ | relisten _ | deaf _ | none _ => rfl
  | hear _ heard => cases heard <;> rfl

/-- The Announces that the actions of the port state send: those of a master, of its data. -/
theorem portActions_announces (c : PtpClock) :
    ∃ new, (portActions c).announces = new ++ c.announces ∧
      ∀ datagram ∈ new, c.portDS.portState = .master ∧ ∃ d : PtpClock,
        d.selection = c.selection ∧ msgUnpackAnnounce datagram.payload = d.announced := by
  by_cases state : c.portDS.portState = .master
  · obtain ⟨new, sent, announced⟩ := announceIntervalTimeout_announces (syncTimeout c)
    refine ⟨new, ?_, fun datagram mem =>
      ⟨state, _, syncTimeout_selection c, announced datagram mem⟩⟩
    rw [← syncTimeout_announces c, ← sent]
    unfold portActions
    rw [state]
    apply announces_of_control
    rw [issueDelayReqTimerExpired_control]
    exact (handle_control _).mastered
  · exact ⟨[], announces_of_control (Control.Act.mastered (portActions_control c) state), nofun⟩

/-- A clock that holds its own data announces them. -/
theorem announced_advertises {c d : PtpClock} (same : d.selection = c.selection)
    (own : c.selection.IsLocal) : d.announced.Advertises c.defaultDS := by
  have parentDS : d.parentDS = localParent c.defaultDS :=
    (congrArg Selection.parentDS same).trans own.1
  have ds : d.defaultDS = c.defaultDS := congrArg Selection.defaultDS same
  have steps : d.currentDS.stepsRemoved = 0 := (congrArg Selection.stepsRemoved same).trans own.2
  constructor
  · rw [PtpClock.announced, parentDS]
    rfl
  · rw [PtpClock.announced, ds]
  · rw [PtpClock.announced, parentDS]
    rfl
  · rw [PtpClock.announced, parentDS]
    rfl
  · rw [PtpClock.announced, steps]

/-- A step sends Announces of the local clock only. -/
theorem step_announces {c : PtpClock} (safe : c.memory.Safe) (leads : c.selection.Leads)
    (action : PtpAction) :
    ∃ new, (ptpStep c action).announces = new ++ c.announces ∧
      ∀ datagram ∈ new,
        (msgUnpackAnnounce datagram.payload).Advertises (ptpStep c action).defaultDS := by
  cases action with
  | expire timer =>
      exact ⟨[], announces_of_control (congrArg Control.mastered (ptpStep_expire_control c timer)),
        nofun⟩
  | step input =>
      obtain ⟨a, qualified, decided, followed, acted⟩ := ptpStep_selection safe input
      obtain ⟨b, decide, follow⟩ := beforeActions_control c input
      obtain ⟨new, sent, announced⟩ := portActions_announces (beforeActions c input)
      have before : (beforeActions c input).announces = c.announces := by
        apply announces_of_control
        rw [follow.mastered]
        cases decide <;> rfl
      refine ⟨new, by rw [← before]; exact sent, fun datagram mem => ?_⟩
      obtain ⟨state, d, same, values⟩ := announced datagram mem
      have ready : (beforeActions c input).selection.Ready := by
        rw [followed]
        exact (leads.decide decided).follow qualified
      have ds : (ptpStep c (.step input)).defaultDS = (beforeActions c input).defaultDS :=
        Selection.Act.defaultDS acted (by
          rw [show (beforeActions c input).selection.portState = _ from state]
          nofun)
      rw [values, ds]
      exact announced_advertises same (ready.1 (.inl (.inl state)))

/-- **A master advertises its own clock.** In every reachable state MASTER the data sets of the
parent describe the local clock, and every Announce that a step sends from a reachable state
advertises the local clock. -/
theorem master_advertises_itself (rtOpts : RunTimeOpts) (actions : List PtpAction) :
    ((ptpRun rtOpts actions).portDS.portState = .master →
      DescribesItself (ptpRun rtOpts actions).parentDS
        (ptpRun rtOpts actions).currentDS.stepsRemoved (ptpRun rtOpts actions).defaultDS) ∧
      ∀ action, ∃ new, (ptpStep (ptpRun rtOpts actions) action).announces =
          new ++ (ptpRun rtOpts actions).announces ∧
        ∀ datagram ∈ new, (msgUnpackAnnounce datagram.payload).Advertises
          (ptpStep (ptpRun rtOpts actions) action).defaultDS := by
  have leads := run_leads rtOpts actions
  refine ⟨fun state => ?_, step_announces (ptpRun_safe rtOpts actions) leads⟩
  obtain ⟨parentDS, steps⟩ := leads (.inl (.inl state))
  have parentDS : (ptpRun rtOpts actions).parentDS =
      localParent (ptpRun rtOpts actions).defaultDS := parentDS
  rw [parentDS]
  exact ⟨rfl, rfl, rfl, rfl, steps⟩

/-- A clock that hears nothing leads, and sends an Announce. -/
example : (ptpRun { slaveOnly := false } [.step {},
    .step { fires := fun timer => timer = .announceReceipt },
    .step { fires := fun timer => timer = .announceInterval, sends := [some {}] }]).announces.length =
      1 := by
  decide +kernel

end LwipExt.Ptp
