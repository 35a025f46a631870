import LwipExt.Ptp.BestMaster
import LwipExt.Ptp.Timeouts

/-!
What the data sets hold of the parent: the values of its latest Announce, and after the next state
decision those of its foreign master record.
-/

namespace LwipExt.Ptp

/-- What the data sets hold of a master. -/
abbrev MasterData := ParentDS × Int16 × TimePropertiesDS

/-- The values of an Announce, as the data sets hold them. -/
def masterData (header : MsgHeader) (announce : MsgAnnounce) : MasterData :=
  ({ parentPortIdentity := header.sourcePortIdentity
     grandmasterIdentity := announce.grandmasterIdentity
     grandmasterClockQuality := announce.grandmasterClockQuality
     grandmasterPriority1 := announce.grandmasterPriority1
     grandmasterPriority2 := announce.grandmasterPriority2 },
    announce.stepsRemoved + 1,
    { currentUtcOffset := announce.currentUtcOffset
      currentUtcOffsetValid := getFlag header.flagField1 0x04
      leap59 := getFlag header.flagField1 0x02
      leap61 := getFlag header.flagField1 0x01
      timeTraceable := getFlag header.flagField1 0x10
      frequencyTraceable := getFlag header.flagField1 0x20
      ptpTimescale := getFlag header.flagField1 0x08
      timeSource := announce.timeSource })

/-- `parentDS`, `currentDS.stepsRemoved` and `timePropertiesDS`. -/
def heldData (c : PtpClock) : MasterData :=
  (c.parentDS, c.currentDS.stepsRemoved, c.timePropertiesDS)

theorem heldData_s1 (c : PtpClock) (header : MsgHeader) (announce : MsgAnnounce) :
    heldData (s1 c header announce) = masterData header announce := rfl

/-- An Announce that the parent sent, if that is the last message handled and the port follows the
parent. -/
def latestAnnounce (c : PtpClock) : Option (MsgHeader × MsgAnnounce) :=
  match c.notes with
  | .received header payload _ :: _ =>
      if MsgType.ofCode header.messageType = some .announce ∧
          header.sourcePortIdentity = c.parentDS.parentPortIdentity ∧
          header.sourcePortIdentity ≠ c.portDS.portIdentity ∧
          (c.portDS.portState = .uncalibrated ∨ c.portDS.portState = .slave) then
        some (header, msgUnpackAnnounce payload)
      else none
  | _ => none

/-- The record that the next state decision is made for. -/
def decidingRecord (c : PtpClock) : ForeignMasterRecord := c.foreignMasterDS.record (chosen c)

/-- The next state decision selects the parent again. -/
def reselects (c : PtpClock) : Prop :=
  c.events.stateDecisionEvent = true ∧ (bmc c).1 = .slave ∧
    (decidingRecord c).header.sourcePortIdentity = c.parentDS.parentPortIdentity

instance (c : PtpClock) : Decidable (reselects c) := inferInstanceAs (Decidable (_ ∧ _))

/-- After an Announce of the parent the state decision that selects it again leaves the values of
that Announce. -/
def KeepsLatest (c : PtpClock) : PtpAction → Prop
  | .expire _ => True
  | .step input => ∀ latest ∈ latestAnnounce c, reselects c →
      heldData (decideState { c with input := input }) = masterData latest.1 latest.2

instance (c : PtpClock) : ∀ action, Decidable (KeepsLatest c action)
  | .expire _ => .isTrue trivial
  | .step _ => inferInstanceAs (Decidable (∀ latest ∈ latestAnnounce c, _))

/-- The foreign master record of the parent holds the values of its latest Announce. -/
def RecordsLatest (c : PtpClock) : PtpAction → Prop
  | .expire _ => True
  | .step _ => ∀ latest ∈ latestAnnounce c, reselects c →
      masterData (decidingRecord c).header (decidingRecord c).announce =
        masterData latest.1 latest.2

/-! ### The two ways that the data sets are written -/

/-- An Announce of the parent is the latest one, its values are held, and a state decision is
due, but the foreign master records stay as they are. -/
theorem handle_parent_announce {c : PtpClock} {packet : Packet}
    (state : c.portDS.portState = .uncalibrated ∨ c.portDS.portState = .slave)
    (received : c.input.event.or c.input.general = some packet)
    (long : ¬ packet.payload.length < MsgType.announce.length)
    (version : (msgUnpackHeader packet.payload).versionPTP = c.portDS.versionNumber)
    (domain : (msgUnpackHeader packet.payload).domainNumber = c.defaultDS.domainNumber)
    (type : MsgType.ofCode (msgUnpackHeader packet.payload).messageType = some .announce)
    (parent : (msgUnpackHeader packet.payload).sourcePortIdentity = c.parentDS.parentPortIdentity)
    (other : (msgUnpackHeader packet.payload).sourcePortIdentity ≠ c.portDS.portIdentity) :
    latestAnnounce (handle c) =
        some (msgUnpackHeader packet.payload, msgUnpackAnnounce packet.payload) ∧
      heldData (handle c) =
        masterData (msgUnpackHeader packet.payload) (msgUnpackAnnounce packet.payload) ∧
      (handle c).events.stateDecisionEvent = true ∧
      (handle c).foreignMasterDS = c.foreignMasterDS := by
  have header : ¬ packet.payload.length < headerLength := by
    simp only [MsgType.length, headerLength] at long ⊢
    omega
  have foreign : isSamePortIdentity c.portDS.portIdentity
      (msgUnpackHeader packet.payload).sourcePortIdentity = false := by
    rw [Bool.eq_false_iff, ne_eq, isSamePortIdentity_iff]
    exact fun same => other same.symm
  have own : isSamePortIdentity c.parentDS.parentPortIdentity
      (msgUnpackHeader packet.payload).sourcePortIdentity = true :=
    isSamePortIdentity_iff.mpr parent.symm
  have handled : handle c = startAnnounceReceipt (s1 (setStateDecision (noted c (.received
        (msgUnpackHeader packet.payload) packet.payload (receiveTime c packet.time false))))
        (msgUnpackHeader packet.payload) (msgUnpackAnnounce packet.payload)) := by
    unfold handle
    rw [received]
    dsimp only
    rw [if_neg header, if_neg (not_not.mpr version), if_neg (not_not.mpr domain), foreign]
    unfold dispatch
    rw [type]
    dsimp only
    unfold handleAnnounce
    rw [if_neg long, if_neg Bool.false_ne_true]
    have port (note : Note) : (noted c note).portDS.portState = c.portDS.portState := rfl
    dsimp only
    rw [port]
    rcases state with held | held
    · rw [held]
      exact if_pos own
    · rw [held]
      exact if_pos own
  rw [handled]
  refine ⟨if_pos ⟨type, rfl, other, state⟩, rfl, ?_, rfl⟩
  change (if _ then _ else _ : Events).stateDecisionEvent = true
  split <;> rfl

/-- A state decision for a slave copies the values of the record it is made for. -/
theorem bmc_slave {c : PtpClock} (slave : (bmc c).1 = .slave) :
    heldData (bmc c).2 = masterData (decidingRecord c).header (decidingRecord c).announce := by
  have decided := bmc_eq c
  rw [decided] at slave ⊢
  unfold bmcStateDecision at slave ⊢
  dsimp only at slave ⊢
  split at slave
  · cases slave
  · next met =>
      rw [if_neg met]
      split at slave
      · split at slave <;> cases slave
      · next class_ =>
          rw [if_neg class_]
          split at slave
          · cases slave
          · next worse =>
              rw [if_neg worse]
              rfl

/-- The state decision after an Announce of the parent. -/
theorem heldData_decideState {c : PtpClock} (input : PtpInput)
    (state : c.portDS.portState = .uncalibrated ∨ c.portDS.portState = .slave)
    (again : reselects c) :
    heldData (decideState { c with input := input }) =
      masterData (decidingRecord c).header (decidingRecord c).announce := by
  obtain ⟨event, slave, -⟩ := again
  have cleared (d : PtpClock) : heldData { d with recommendedState := .slave } = heldData d := rfl
  rw [decideState_eq, if_pos]
  · unfold recommend
    dsimp only
    generalize begun : ({ c with
      input := input
      events := { c.events with stateDecisionEvent := false } } : PtpClock) = d
    obtain ⟨same, advised⟩ : chosen d = chosen c ∧ (bmc d).1 = (bmc c).1 := by
      rw [← begun]
      exact bmc_congr rfl rfl rfl
    have record : decidingRecord d = decidingRecord c := by
      rw [decidingRecord, decidingRecord, same, ← begun]
    have held := bmc_slave (advised.trans slave)
    rw [record] at held
    rw [slave] at advised
    generalize bmc d = result at advised held
    obtain ⟨recommended, e⟩ := result
    cases advised
    dsimp only
    rw [if_neg (by simp), cleared]
    exact held
  · refine ⟨?_, ?_, ?_, event⟩
    · rcases state with held | held <;> rw [held] <;> nofun
    · rcases state with held | held <;> rw [held] <;> nofun
    · rcases state with held | held <;> rw [held] <;> nofun

end LwipExt.Ptp
