import LwipExt.Ptp.SelectionSteps

/-!
The foreign master data set: a ring of records, one for each known master.

`Kept` says what `addForeign` needs to find the record of a known master; it holds from the first
initialization on.
-/

namespace LwipExt.Ptp

namespace ForeignMasterDS

/-- The master of a record. -/
def master (ds : ForeignMasterDS) (j : Nat) : PortIdentity :=
  (ds.record j).foreignMasterPortIdentity

/-- The records of the set are of different masters, and the next one to write is free or one of
them. -/
structure Kept (ds : ForeignMasterDS) : Prop where
  capacity : ds.capacity = ds.records.length
  count : ds.count ≤ ds.capacity
  cursor : ds.i < ds.capacity
  filling : ds.count < ds.capacity → ds.i = ds.count
  distinct : ∀ j < ds.count, ∀ k < ds.count, ds.master j = ds.master k → j = k

variable {ds : ForeignMasterDS} {source : PortIdentity} {j : Nat}

/-! ### The search -/

/-- What the search finds is a record of the sender. -/
theorem findForeign_some {left j k : Nat} (found : findForeign ds source left j = some k) :
    ds.master k = source := by
  induction left generalizing j with
  | zero => cases found
  | succ left ih =>
      unfold findForeign at found
      split at found
      · next same =>
          cases found
          exact (isSamePortIdentity_iff.mp same).symm
      · exact ih found

/-- A search inside the set stays there. -/
theorem findForeign_lt {left j k : Nat} (lt : j < ds.count)
    (found : findForeign ds source left j = some k) : k < ds.count := by
  induction left generalizing j with
  | zero => cases found
  | succ left ih =>
      unfold findForeign at found
      split at found
      · cases found
        exact lt
      · exact ih (Nat.mod_lt _ (by omega)) found

/-- A search that finds nothing passed no record of the sender. -/
theorem findForeign_none {left j : Nat} (none : findForeign ds source left j = none) (n : Nat)
    (lt : n < left) (inside : j < ds.count) : ds.master ((j + n) % ds.count) ≠ source := by
  induction left generalizing j n with
  | zero => omega
  | succ left ih =>
      unfold findForeign at none
      split at none
      · cases none
      · next other =>
          cases n with
          | zero =>
              rw [Nat.add_zero, Nat.mod_eq_of_lt inside]
              exact fun same => other (isSamePortIdentity_iff.mpr same.symm)
          | succ n =>
              have next := ih none n (by omega) (Nat.mod_lt _ (by omega))
              have shifted : (j + (n + 1)) % ds.count = ((j + 1) % ds.count + n) % ds.count := by
                rw [Nat.mod_add_mod]
                congr 1
                omega
              rw [shifted]
              exact next

/-- A search of the whole set that finds nothing leaves no record of the sender. -/
theorem unknown (begun : 0 < ds.count → ds.best < ds.count)
    (none : findForeign ds source ds.count ds.best = none) (k : Nat) (lt : k < ds.count) :
    ds.master k ≠ source := by
  -- The search passes the record after so many steps.
  have begun := begun (by omega)
  have passed := findForeign_none none ((k + ds.count - ds.best) % ds.count)
    (Nat.mod_lt _ (by omega)) begun
  have reached : (ds.best + (k + ds.count - ds.best) % ds.count) % ds.count = k := by
    rw [Nat.add_mod_mod, show ds.best + (k + ds.count - ds.best) = k + ds.count by omega,
      Nat.add_mod_right, Nat.mod_eq_of_lt lt]
  rwa [reached] at passed

/-- A search of the whole set that begins inside it finds the record of a known master. -/
theorem findForeign_known (distinct : ∀ j < ds.count, ∀ k < ds.count,
      ds.master j = ds.master k → j = k) {k : Nat} (lt : k < ds.count)
    (known : ds.master k = source) (begun : ds.best < ds.count) :
    findForeign ds source ds.count ds.best = some k := by
  cases found : findForeign ds source ds.count ds.best with
  | some j =>
      have same : j = k :=
        distinct j (findForeign_lt begun found) k lt ((findForeign_some found).trans known.symm)
      rw [same]
  | none => exact absurd known (unknown (fun _ => begun) found k lt)

/-! ### Changes of the set -/

/-- A record after one was written. -/
theorem record_setRecord (ds : ForeignMasterDS) {j : Nat} (lt : j < ds.records.length)
    (r : ForeignMasterRecord) (k : Nat) :
    (ds.setRecord j r).record k = if k = j then r else ds.record k := by
  unfold record setRecord
  rw [List.getD_eq_getElem?_getD, List.getD_eq_getElem?_getD, List.getElem?_set]
  by_cases same : j = k
  · subst same
    simp [lt]
  · simp [same, Ne.symm same]

/-- The records after one was written, and how many of them are in the set. -/
theorem master_setRecord (lt : j < ds.records.length) (r : ForeignMasterRecord) (k : Nat) :
    (ds.setRecord j r).master k = if k = j then r.foreignMasterPortIdentity else ds.master k := by
  unfold master
  rw [record_setRecord ds lt]
  split <;> rfl

/-- What `addForeign` does: it updates the record of a known master, and otherwise writes a record
of its own. -/
theorem add_cases (begun : 0 < ds.count → ds.best < ds.count)
    (header : MsgHeader) (announce : MsgAnnounce) :
    (∃ j < ds.count, ds.master j = header.sourcePortIdentity ∧
        ds.add header announce = ds.setRecord j { ds.record j with
          foreignMasterAnnounceMessages := (ds.record j).foreignMasterAnnounceMessages + 1
          header := header
          announce := announce }) ∨
      (∀ j < ds.count, ds.master j ≠ header.sourcePortIdentity) ∧
        ds.add header announce = { ds.setRecord ds.i
            { foreignMasterPortIdentity := header.sourcePortIdentity
              foreignMasterAnnounceMessages := 0
              header := header
              announce := announce } with
          count := if ds.count < ds.capacity then ds.count + 1 else ds.count
          i := (ds.i + 1) % ds.capacity } := by
  unfold add
  cases found : findForeign ds header.sourcePortIdentity ds.count ds.best with
  | some j =>
      by_cases empty : 0 < ds.count
      · exact .inl ⟨j, findForeign_lt (begun empty) found, findForeign_some found, rfl⟩
      · rw [show ds.count = 0 by omega] at found
        cases found
  | none =>
      refine .inr ⟨unknown begun found, ?_⟩
      dsimp only
      by_cases room : ds.count < ds.capacity
      · rw [if_pos room, if_pos room]
        rfl
      · rw [if_neg room, if_neg room]
        rfl

/-- An update of a record changes no master. -/
theorem master_update (lt : j < ds.records.length) (header : MsgHeader) (announce : MsgAnnounce)
    (messages : Int16) (k : Nat) :
    (ds.setRecord j { ds.record j with
      foreignMasterAnnounceMessages := messages
      header := header
      announce := announce }).master k = ds.master k := by
  rw [master_setRecord lt]
  split
  · next at_ =>
      rw [at_]
      rfl
  · rfl

/-- A record of the set is of the sender, or was there before. -/
theorem Kept.master_add (kept : ds.Kept) (begun : 0 < ds.count → ds.best < ds.count)
    (header : MsgHeader) (announce : MsgAnnounce) (lt : j < (ds.add header announce).count) :
    (ds.add header announce).master j = header.sourcePortIdentity ∨
      j < ds.count ∧ (ds.add header announce).master j = ds.master j := by
  obtain ⟨capacity, count, cursor, filling, -⟩ := kept
  rcases add_cases begun header announce with ⟨k, within, same, eq⟩ | ⟨-, eq⟩
  · rw [eq] at lt ⊢
    exact .inr ⟨lt, master_update (by omega) _ _ _ j⟩
  · have masters := master_setRecord (by omega : ds.i < ds.records.length)
      { foreignMasterPortIdentity := header.sourcePortIdentity
        foreignMasterAnnounceMessages := 0
        header := header
        announce := announce } j
    rw [eq] at lt ⊢
    change (ds.setRecord ds.i _).master j = _ ∨ _ ∧ (ds.setRecord ds.i _).master j = _
    rw [masters]
    by_cases here : j = ds.i
    · rw [if_pos here]
      exact .inl rfl
    · rw [if_neg here]
      refine .inr ⟨?_, rfl⟩
      dsimp only at lt
      split at lt
      · next room =>
          have := filling room
          omega
      · exact lt

theorem Kept.add (kept : ds.Kept) (begun : 0 < ds.count → ds.best < ds.count)
    (header : MsgHeader) (announce : MsgAnnounce) : (ds.add header announce).Kept := by
  obtain ⟨capacity, count, cursor, filling, distinct⟩ := kept
  have length (j : Nat) (r : ForeignMasterRecord) :
      (ds.setRecord j r).records.length = ds.records.length := List.length_set ..
  rcases add_cases begun header announce with
    ⟨j, lt, same, eq⟩ | ⟨other, eq⟩
  · rw [eq]
    constructor
    · exact capacity.trans (length _ _).symm
    · exact count
    · exact cursor
    · exact filling
    · intro k lt_k l lt_l eq
      rw [master_update (by omega), master_update (by omega)] at eq
      exact distinct k lt_k l lt_l eq
  · rw [eq]
    have masters := master_setRecord (by omega : ds.i < ds.records.length)
      { foreignMasterPortIdentity := header.sourcePortIdentity
        foreignMasterAnnounceMessages := 0
        header := header
        announce := announce }
    have old {k : Nat} (lt : k < if ds.count < ds.capacity then ds.count + 1 else ds.count)
        (ne : k ≠ ds.i) : k < ds.count := by
      split at lt
      · next room =>
          have := filling room
          omega
      · exact lt
    constructor
    · exact capacity.trans (length _ _).symm
    · dsimp only
      change _ ≤ ds.capacity
      split <;> omega
    · exact Nat.mod_lt _ (by omega)
    · dsimp only
      change _ < ds.capacity → _
      intro room
      split at room
      · next before =>
          rw [if_pos before, filling before, Nat.mod_eq_of_lt room]
      · omega
    · intro k lt_k l lt_l eq
      have eq : (ds.setRecord ds.i _).master k = (ds.setRecord ds.i _).master l := eq
      rw [masters, masters] at eq
      by_cases at_k : k = ds.i
      · by_cases at_l : l = ds.i
        · exact at_k.trans at_l.symm
        · rw [if_pos at_k, if_neg at_l] at eq
          exact absurd eq.symm (other l (old lt_l at_l))
      · by_cases at_l : l = ds.i
        · rw [if_neg at_k, if_pos at_l] at eq
          exact absurd eq (other k (old lt_k at_k))
        · rw [if_neg at_k, if_neg at_l] at eq
          exact distinct k (old lt_k at_k) l (old lt_l at_l) eq

end ForeignMasterDS

/-! ### The set in a run -/

namespace Selection

/-- The port was not initialized yet, and has no foreign masters. -/
structure Blank (a : Selection) : Prop where
  state : a.portState = .initializing ∨ a.portState = .faulty
  advised : a.recommendedState = .initializing
  count : a.foreignMasterDS.count = 0
  cursor : a.foreignMasterDS.i = 0
  capacity : a.foreignMasterDS.capacity = 0
  records : a.foreignMasterDS.records.length = a.rtOpts.maxForeignRecords
  some : 0 < a.rtOpts.maxForeignRecords
  fresh : (PortState.initializing, PortState.listening) ∉ a.moves

/-- The recommendations that the second switch follows from any state. -/
def followed (state : PortState) : Prop :=
  state = .master ∨ state = .passive ∨ state = .slave ∨ state = .listening

/-- The port was initialized. A state decision that is due will be made by the next step, and
until one is due the search begins inside the set. -/
structure Ranked (a : Selection) : Prop where
  advised : followed a.recommendedState
  kept : a.foreignMasterDS.Kept
  due : a.events.stateDecisionEvent = true → Control.decides a.portState
  begun : a.events.stateDecisionEvent = false → 0 < a.foreignMasterDS.count →
    a.foreignMasterDS.best < a.foreignMasterDS.count

/-- Behind the switches no state decision is due. -/
structure Settled (a : Selection) : Prop where
  advised : followed a.recommendedState
  reached : Reached a.recommendedState a.portState
  kept : a.foreignMasterDS.Kept
  quiet : a.events.stateDecisionEvent = false
  begun : 0 < a.foreignMasterDS.count → a.foreignMasterDS.best < a.foreignMasterDS.count

variable {a b d : Selection} {calibrated : Prop} {announced : PortIdentity → Prop}

/-- A new best record changes nothing else of a kept set. -/
theorem kept_best {ds : ForeignMasterDS} (kept : ds.Kept) (best : Nat) :
    ForeignMasterDS.Kept { ds with best := best } :=
  ⟨kept.capacity, kept.count, kept.cursor, kept.filling, kept.distinct⟩

theorem Settled.decides (settled : a.Settled) : Control.decides a.portState := by
  have reached := settled.reached
  rcases settled.advised with held | held | held | held <;> rw [held] at reached
  · rcases reached with state | state <;> rw [state] <;> exact ⟨nofun, nofun, nofun⟩
  · rw [show a.portState = .passive from reached]
    exact ⟨nofun, nofun, nofun⟩
  · rcases reached with state | state <;> rw [state] <;> exact ⟨nofun, nofun, nofun⟩
  · rw [show a.portState = .listening from reached]
    exact ⟨nofun, nofun, nofun⟩

theorem Ranked.settle {advised : PortState} {source : PortIdentity} (qualified : Bool)
    (decided : Decide advised source a b) (ranked : a.Ranked) : (b.follow qualified).Settled := by
  obtain ⟨same, reached⟩ := b.follow_reaches qualified
  obtain ⟨-, -, -, masters, event⟩ := b.follow_data qualified
  have settle (advised : followed b.recommendedState) (kept : b.foreignMasterDS.Kept)
      (quiet : b.events.stateDecisionEvent = false)
      (begun : 0 < b.foreignMasterDS.count → b.foreignMasterDS.best < b.foreignMasterDS.count) :
      (b.follow qualified).Settled := by
    constructor
    · rw [same]
      exact advised
    · rw [same]
      exact reached
    · rw [masters]
      exact kept
    · rw [event]
      exact quiet
    · rw [masters]
      exact begun
  cases decided with
  | none idle =>
      have quiet : a.events.stateDecisionEvent = false := by
        rw [Bool.eq_false_iff]
        exact fun event => idle event (ranked.due event)
      exact settle ranked.advised ranked.kept quiet (ranked.begun quiet)
  | stay _ _ _ within known =>
      refine settle ?_ (kept_best ranked.kept _) rfl within
      rcases known with rfl | rfl
      · exact .inr (.inr (.inr rfl))
      · exact .inr (.inl rfl)
  | lead _ _ _ within known =>
      refine settle ?_ (kept_best ranked.kept _) rfl within
      rcases known with rfl | rfl
      · exact .inr (.inr (.inr rfl))
      · exact .inl rfl
  | follow _ _ _ _ within =>
      exact settle (.inr (.inr (.inl rfl))) (kept_best ranked.kept _) rfl within

theorem Settled.hear (heard : Hear calibrated announced a b) (settled : a.Settled) : b.Ranked := by
  have due : a.due.events.stateDecisionEvent = true → Control.decides a.portState :=
    fun _ => settled.decides
  have early {events : Events} (event : events.stateDecisionEvent = false) {state : PortState} :
      events.stateDecisionEvent = true → Control.decides state := by
    rw [event]
    nofun
  cases heard with
  | ignored => exact ⟨settled.advised, settled.kept, early settled.quiet, fun _ => settled.begun⟩
  | fault =>
      refine ⟨?_, settled.kept, early settled.quiet, fun _ => settled.begun⟩
      exact settled.advised
  | parent _ _ => exact ⟨settled.advised, settled.kept, due, nofun⟩
  | foreign _ _ => exact ⟨settled.advised, settled.kept.add settled.begun _ _, due, nofun⟩
  | offset decision _ =>
      exact ⟨settled.advised, settled.kept, early (decision.trans settled.quiet),
        fun _ => settled.begun⟩

/-- A set that was emptied is kept. -/
theorem kept_forget {ds : ForeignMasterDS} (kept : ds.Kept) :
    ForeignMasterDS.Kept { ds with count := 0, i := 0 } := by
  have := kept.cursor
  exact ⟨kept.capacity, Nat.zero_le _, by dsimp only; omega, fun _ => rfl, nofun⟩

theorem Settled.act (acted : Act calibrated announced a b) (settled : a.Settled) : b.Ranked := by
  have decides := settled.decides
  cases acted with
  | init state => exact absurd state decides.1
  | initFails state => exact absurd state decides.1
  | clear state => exact absurd state decides.2.1
  | promote _ _ =>
      refine ⟨.inl rfl, kept_forget settled.kept, fun _ => ⟨nofun, nofun, nofun⟩, fun _ => nofun⟩
  | relisten _ =>
      exact ⟨.inr (.inr (.inr rfl)), kept_forget settled.kept, fun _ => ⟨nofun, nofun, nofun⟩,
        fun _ => nofun⟩
  | deaf _ => exact ⟨settled.advised, kept_forget settled.kept, fun _ => decides, fun _ => nofun⟩
  | hear _ heard => exact Settled.hear heard settled
  | none _ =>
      exact Settled.hear (.ignored : Hear False (fun _ => False) _ _) settled

/-- Nothing is decided before the first initialization. -/
theorem Blank.settle {advised : PortState} {source : PortIdentity} (qualified : Bool)
    (decided : Decide advised source a b) (blank : a.Blank) : b.follow qualified = a := by
  have asleep : ¬ Control.decides a.portState := by
    rintro ⟨initialized, sound, -⟩
    rcases blank.state with held | held
    · exact initialized held
    · exact sound held
  have same : b = a := by
    cases decided with
    | none _ => rfl
    | stay awake _ _ _ _ | lead awake _ _ _ _ | follow awake _ _ _ _ => exact absurd awake asleep
  rw [same]
  unfold Selection.follow
  rw [blank.advised]

theorem Blank.act (acted : Act calibrated announced a b) (blank : a.Blank) :
    (b.Blank ∨ b.Ranked) ∧ b.foreignMasterDS.count = 0 := by
  obtain ⟨state, advised, count, cursor, capacity, records, some_, fresh⟩ := blank
  have awake {p : Prop} (waiting : waits a.portState) : p := by
    exfalso
    rcases state with held | held <;> rcases waiting with held' | held' | held' | held' <;>
      cases held.symm.trans held'
  cases acted with
  | init _ =>
      refine ⟨.inr ⟨.inr (.inr (.inr rfl)), ?_, fun _ => ⟨nofun, nofun, nofun⟩, fun _ => nofun⟩,
        rfl⟩
      refine ⟨records.symm, Nat.zero_le _, ?_, fun _ => cursor, nofun⟩
      change a.foreignMasterDS.i < a.rtOpts.maxForeignRecords
      rw [cursor]
      exact some_
  | initFails _ =>
      refine ⟨.inl ⟨.inr rfl, advised, count, cursor, capacity, records, some_, ?_⟩, count⟩
      exact List.not_mem_cons_of_ne_of_not_mem (fun eq => by cases congrArg Prod.snd eq) fresh
  | clear _ =>
      refine ⟨.inl ⟨.inl rfl, rfl, count, cursor, capacity, records, some_, ?_⟩, count⟩
      exact List.not_mem_cons_of_ne_of_not_mem (fun eq => by cases congrArg Prod.snd eq) fresh
  | promote waiting _ => exact awake waiting
  | relisten waiting => exact awake waiting
  | deaf listening => exact awake (.inl listening)
  | hear sound _ =>
      rcases state with held | held
      · exact absurd held sound.1
      · exact absurd held sound.2
  | none here => rcases state with held | held <;> cases here.symm.trans held

/-- A state decision changes no master. -/
theorem Decide.masters {advised : PortState} {source : PortIdentity}
    (decided : Decide advised source a b) (qualified : Bool) :
    (b.follow qualified).foreignMasterDS.count = a.foreignMasterDS.count ∧
      ∀ j, (b.follow qualified).foreignMasterDS.master j = a.foreignMasterDS.master j := by
  obtain ⟨-, -, -, masters, -⟩ := b.follow_data qualified
  rw [masters]
  cases decided <;> exact ⟨rfl, fun _ => rfl⟩

/-- The masters of a set after the actions are announced ones or those of before. -/
theorem Settled.masters (acted : Act calibrated announced a b) (settled : a.Settled) (j : Nat)
    (lt : j < b.foreignMasterDS.count) :
    announced (b.foreignMasterDS.master j) ∨
      j < a.foreignMasterDS.count ∧ b.foreignMasterDS.master j = a.foreignMasterDS.master j := by
  have decides := settled.decides
  cases acted with
  | init state => exact absurd state decides.1
  | promote _ _ | relisten _ | deaf _ => exact absurd lt (Nat.not_lt_zero j)
  | initFails _ | clear _ | none _ => exact .inr ⟨lt, rfl⟩
  | hear _ heard =>
      cases heard with
      | ignored | fault | parent _ _ | offset _ _ => exact .inr ⟨lt, rfl⟩
      | @foreign header announce _ sender =>
          rcases settled.kept.master_add settled.begun header announce lt with new | old
          · refine .inl ?_
            change announced ((a.foreignMasterDS.add header announce).master j)
            rw [new]
            exact sender
          · exact .inr old

end Selection

/-- A step of a run, with the clock before it. -/
abbrev PtpTrace := List (PtpClock × PtpAction)

/-- An Announce of a master was handled in a step. -/
def announcedIn (source : PortIdentity) (s : PtpClock × PtpAction) : Prop :=
  match s.2 with
  | .expire _ => False
  | .step input => announces (beforeActions s.1 input) (ptpStep s.1 s.2) source

/-- The set is empty after a step. -/
def emptiedIn (s : PtpClock × PtpAction) : Prop := (ptpStep s.1 s.2).foreignMasterDS.count = 0

/-- The set of a clock after the steps of a run: its records are of different masters, each of them
announced since the set was last empty. -/
structure KeepsMasters (c : PtpClock) (past : PtpTrace) : Prop where
  count : c.foreignMasterDS.count ≤ c.foreignMasterDS.capacity
  cursor : c.foreignMasterDS.i < c.foreignMasterDS.capacity
  distinct : ∀ j < c.foreignMasterDS.count, ∀ k < c.foreignMasterDS.count,
    c.foreignMasterDS.master j = c.foreignMasterDS.master k → j = k
  announced : ∀ j < c.foreignMasterDS.count,
    Lib.Lasts (announcedIn (c.foreignMasterDS.master j)) emptiedIn past

/-- A search begins inside the set, and an Announce of a known master updates its record. -/
structure Searches (ds : ForeignMasterDS) : Prop where
  inside : 0 < ds.count → ds.best < ds.count
  updates : ∀ (c : PtpClock) (header : MsgHeader) (announce : MsgAnnounce) (j : Nat),
    c.foreignMasterDS = ds → j < ds.count → ds.master j = header.sourcePortIdentity →
      (addForeign c header announce).foreignMasterDS = ds.setRecord j { ds.record j with
        foreignMasterAnnounceMessages := (ds.record j).foreignMasterAnnounceMessages + 1
        header := header
        announce := announce }

/-- No initialization has succeeded yet. -/
structure Uninitialized (c : PtpClock) : Prop where
  never : (PortState.initializing, PortState.listening) ∉ c.moves
  count : c.foreignMasterDS.count = 0
  cursor : c.foreignMasterDS.i = 0
  capacity : c.foreignMasterDS.capacity = 0

theorem searches_of_kept {ds : ForeignMasterDS}
    (distinct : ∀ j < ds.count, ∀ k < ds.count, ds.master j = ds.master k → j = k)
    (begun : 0 < ds.count → ds.best < ds.count) : Searches ds := by
  refine ⟨begun, ?_⟩
  intro c header announce j same lt known
  unfold addForeign
  rw [same]
  dsimp only
  rw [ForeignMasterDS.findForeign_known distinct lt known (begun (by omega))]

/-- What a run keeps: the phase of the set, and an Announce behind every record. -/
def RingRun (c : PtpClock) (past : PtpTrace) : Prop :=
  c.memory.Safe ∧ (c.selection.Blank ∨ c.selection.Ranked) ∧
    ∀ j < c.foreignMasterDS.count,
      Lib.Lasts (announcedIn (c.foreignMasterDS.master j)) emptiedIn past

theorem RingRun.step {c : PtpClock} {past : PtpTrace} (ring : RingRun c past) (action : PtpAction) :
    RingRun (ptpStep c action) ((c, action) :: past) := by
  obtain ⟨safe, phase, announced⟩ := ring
  have lasting {j : Nat} (lt : j < (ptpStep c action).foreignMasterDS.count) {source : PortIdentity}
      (earlier : Lib.Lasts (announcedIn source) emptiedIn past) :
      Lib.Lasts (announcedIn source) emptiedIn ((c, action) :: past) :=
    .inr ⟨fun empty => by
      have empty : (ptpStep c action).foreignMasterDS.count = 0 := empty
      omega, earlier⟩
  cases action with
  | expire timer =>
      have same := ptpStep_expire_selection (c := c) timer
      have masters : (ptpStep c (.expire timer)).foreignMasterDS = c.foreignMasterDS :=
        congrArg Selection.foreignMasterDS same
      have memory : (ptpStep c (.expire timer)).memory = c.memory := timerCallback_memory timer
      rw [RingRun, same, memory]
      refine ⟨safe, phase, fun j lt => ?_⟩
      have earlier := lasting lt (announced j (by rwa [masters] at lt))
      rw [masters]
      exact earlier
  | step input =>
      obtain ⟨a, qualified, decided, before, acted⟩ := ptpStep_selection safe input
      refine ⟨safe.changes (ptpStep_memory safe input), ?_⟩
      rw [Acted, before] at acted
      rcases phase with blank | ranked
      · rw [blank.settle qualified decided] at acted
        obtain ⟨phase, empty⟩ := blank.act acted
        refine ⟨phase, fun j lt => ?_⟩
        have empty : (ptpStep c (.step input)).foreignMasterDS.count = 0 := empty
        omega
      · have settled := ranked.settle qualified decided
        obtain ⟨count, masters⟩ := decided.masters qualified
        refine ⟨.inr (settled.act acted), fun j lt => ?_⟩
        rcases settled.masters acted j lt with new | ⟨within, old⟩
        · exact .inl new
        · rw [count] at within
          have same : (ptpStep c (.step input)).foreignMasterDS.master j =
              c.foreignMasterDS.master j := old.trans (masters j)
          rw [same]
          exact lasting lt (announced j within)

/-- The options of a clock that starts have room for the records of the array. -/
theorem startup_maxForeignRecords (rtOpts : RunTimeOpts) :
    (ptpdStartup rtOpts).selection.rtOpts.maxForeignRecords = defaultMaxForeignRecords := by
  unfold ptpdStartup
  rw [toState_selection]
  change (ite _ _ _ : RunTimeOpts).maxForeignRecords = _
  split
  · split
    · split <;> rfl
    · split <;> rfl
  · split
    · split <;> rfl
    · split <;> rfl

theorem startup_blank (rtOpts : RunTimeOpts) : (ptpdStartup rtOpts).selection.Blank := by
  have room := startup_maxForeignRecords rtOpts
  have held : (ptpdStartup rtOpts).selection.foreignMasterDS.records.length =
      defaultMaxForeignRecords := rfl
  constructor
  · exact .inl rfl
  · rfl
  · rfl
  · rfl
  · rfl
  · rw [room, held]
  · rw [room]
    decide
  · have moves : (ptpdStartup rtOpts).selection.moves = [(.initializing, .initializing)] := rfl
    rw [moves, List.mem_singleton]
    nofun

theorem run_ring (rtOpts : RunTimeOpts) (actions : List PtpAction) :
    RingRun (ptpRun rtOpts actions) (Lib.trace ptpStep (ptpdStartup rtOpts) actions) :=
  Lib.trace_invariant_of_step RingRun (fun _ _ action ring => ring.step action)
    ⟨startup_safe rtOpts, .inl (startup_blank rtOpts), nofun⟩ actions

/-- **The foreign masters of a run.** Until the first initialization the set has no room and no
records. From then on it is kept, and every search of it begins inside it and finds the record of a
known master. -/
theorem foreign_masters_kept (rtOpts : RunTimeOpts) (actions : List PtpAction) :
    (Uninitialized (ptpRun rtOpts actions) ∨
      KeepsMasters (ptpRun rtOpts actions) (Lib.trace ptpStep (ptpdStartup rtOpts) actions)) ∧
      ∀ input, Searches (beforeActions (ptpRun rtOpts actions) input).foreignMasterDS := by
  obtain ⟨safe, phase, announced⟩ := run_ring rtOpts actions
  constructor
  · rcases phase with blank | ranked
    · exact .inl ⟨blank.fresh, blank.count, blank.cursor, blank.capacity⟩
    · exact .inr ⟨ranked.kept.count, ranked.kept.cursor, ranked.kept.distinct, announced⟩
  · intro input
    obtain ⟨a, qualified, decided, before, -⟩ := ptpStep_selection safe input
    have masters : (beforeActions (ptpRun rtOpts actions) input).foreignMasterDS =
        (a.follow qualified).foreignMasterDS := congrArg Selection.foreignMasterDS before
    rw [masters]
    rcases phase with blank | ranked
    · rw [blank.settle qualified decided]
      have empty : (ptpRun rtOpts actions).selection.foreignMasterDS.count = 0 := blank.count
      refine searches_of_kept ?_ ?_
      · rw [empty]
        nofun
      · rw [empty]
        nofun
    · have settled := ranked.settle qualified decided
      exact searches_of_kept settled.kept.distinct settled.begun

/-- Before the first step the set has no room: `i` is not below `capacity`. -/
theorem not_foreign_masters_kept : ¬ ∀ (rtOpts : RunTimeOpts) (actions : List PtpAction),
    KeepsMasters (ptpRun rtOpts actions) (Lib.trace ptpStep (ptpdStartup rtOpts) actions) ∧
      ∀ input, Searches (beforeActions (ptpRun rtOpts actions) input).foreignMasterDS := by
  intro all
  have cursor := (all {} []).1.cursor
  exact absurd cursor (by decide)

end LwipExt.Ptp
