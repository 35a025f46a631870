import Mathlib.Algebra.Group.Int.Defs
import Mathlib.Algebra.Group.Nat.Defs
import LwipExt.Ptp.BestMaster
import LwipExt.Ptp.Msg

/-!
The comparison of two foreign masters as an order.

Between records that agree on their grandmasters and come from other clocks, the comparison is the
lexicographic order of the attributes of the grandmaster, its identity, the steps removed and the
sender (`compare_eq`), so it is a strict order. On the wire the attributes are unsigned numbers, and
`bmcDataSetComparison` ranks them so but for the variance and the steps, which it reads as signed.
-/

namespace LwipExt.Ptp

open Std (TransCmp LawfulEqCmp)

/-! ### Orders -/

instance memcmp_trans : TransCmp memcmp := inferInstanceAs (TransCmp (compareOn Vector.toList))

theorem memcmp_eq_iff {a b : ClockIdentity} : memcmp a b = .eq ↔ a = b := by
  unfold memcmp
  rw [Std.LawfulEqOrd.compare_eq_iff_eq]
  exact Vector.toList_inj

/-- The better of two by an order: the smaller one. -/
def betterOf : Ordering → Int8
  | .lt => aBetterThenB
  | .eq => 0
  | .gt => bBetterThenA

theorem betterOf_swap (o : Ordering) : betterOf o.swap = -betterOf o := by
  cases o <;> rfl

theorem betterOf_eq_better_iff {o : Ordering} : betterOf o = aBetterThenB ↔ o = .lt := by
  cases o <;> decide

theorem betterOf_eq_zero_iff {o : Ordering} : betterOf o = 0 ↔ o = .eq := by
  cases o <;> decide

/-- The macro compares one attribute and goes on with the others. -/
theorem compareAbReturnBetter_betterOf (a b : Int) (o : Ordering) :
    compareAbReturnBetter a b (betterOf o) = betterOf ((compare a b).then o) := by
  unfold compareAbReturnBetter
  rcases Int.lt_trichotomy a b with lt | eq | gt
  · rw [if_neg (by omega), if_pos lt, Int.compare_eq_lt.mpr lt]
    rfl
  · rw [if_neg (by omega), if_neg (by omega), Int.compare_eq_eq.mpr eq]
    rfl
  · rw [if_pos gt, Int.compare_eq_gt.mpr gt]
    rfl

/-- The attributes of a grandmaster in the order of figure 27, with its variance as a number. -/
def grandmasterOrder (variance : MsgAnnounce → Int) : MsgAnnounce → MsgAnnounce → Ordering :=
  compareLex (compareOn fun a => (a.grandmasterPriority1.toNat : Int)) <|
  compareLex (compareOn fun a => (a.grandmasterClockQuality.clockClass.toNat : Int)) <|
  compareLex (compareOn fun a => (a.grandmasterClockQuality.clockAccuracy.toNat : Int)) <|
  compareLex (compareOn variance) <|
  compareLex (compareOn fun a => (a.grandmasterPriority2.toNat : Int))
    fun a b => memcmp a.grandmasterIdentity b.grandmasterIdentity

/-- The variance as the comparison reads it. -/
def signedVariance (a : MsgAnnounce) : Int :=
  a.grandmasterClockQuality.offsetScaledLogVariance.toInt

theorem compareGrandmasters_eq {a b : MsgAnnounce}
    (other : memcmp a.grandmasterIdentity b.grandmasterIdentity ≠ .eq) :
    compareGrandmasters a b = betterOf (grandmasterOrder signedVariance a b) := by
  have chain (o : Ordering)
      (last : memcmp a.grandmasterIdentity b.grandmasterIdentity = o) :
      compareAbReturnBetter a.grandmasterPriority1.toNat b.grandmasterPriority1.toNat
        (compareAbReturnBetter a.grandmasterClockQuality.clockClass.toNat
          b.grandmasterClockQuality.clockClass.toNat
          (compareAbReturnBetter a.grandmasterClockQuality.clockAccuracy.toNat
            b.grandmasterClockQuality.clockAccuracy.toNat
            (compareAbReturnBetter (signedVariance a) (signedVariance b)
              (compareAbReturnBetter a.grandmasterPriority2.toNat b.grandmasterPriority2.toNat
                (betterOf o))))) = betterOf (grandmasterOrder signedVariance a b) := by
    rw [← last]
    simp only [compareAbReturnBetter_betterOf]
    rfl
  unfold compareGrandmasters
  cases held : memcmp a.grandmasterIdentity b.grandmasterIdentity with
  | eq => exact absurd held other
  | lt => exact chain .lt held
  | gt => exact chain .gt held

/-- Figure 28 for a reading of the steps removed: the steps, and for neighbours in the topology the
identities of the senders and the receiver. -/
def figure28 (steps : MsgAnnounce → Int) (a b : ForeignMasterRecord) (receiver : ClockIdentity) :
    Int8 :=
  let senderA := a.header.sourcePortIdentity.clockIdentity
  let senderB := b.header.sourcePortIdentity.clockIdentity
  if steps a.announce > steps b.announce + 1 then bBetterThenA
  else if steps b.announce > steps a.announce + 1 then aBetterThenB
  else if steps a.announce > steps b.announce then
    if senderA = receiver then 0 else bBetterThenA
  else if steps a.announce < steps b.announce then
    if senderB = receiver then 0 else aBetterThenB
  else betterOf (memcmp senderA senderB)

/-- The steps as the comparison reads them. -/
def signedSteps (a : MsgAnnounce) : Int := a.stepsRemoved.toInt

theorem compareTopology_eq (a b : ForeignMasterRecord) (port : PortIdentity) :
    compareTopology a.header a.announce b.header b.announce port =
      figure28 signedSteps a b port.clockIdentity := by
  have neighbour (sender : ClockIdentity) :
      memcmp sender port.clockIdentity = .eq ∧ sender = port.clockIdentity ∨
        (memcmp sender port.clockIdentity = .lt ∨ memcmp sender port.clockIdentity = .gt) ∧
          sender ≠ port.clockIdentity := by
    cases held : memcmp sender port.clockIdentity with
    | eq => exact .inl ⟨rfl, memcmp_eq_iff.mp held⟩
    | lt | gt =>
        refine .inr ⟨by simp, fun same => ?_⟩
        rw [memcmp_eq_iff.mpr same] at held
        cases held
  unfold compareTopology figure28 signedSteps
  dsimp only
  split
  · rfl
  · split
    · rfl
    · split
      · rcases neighbour a.header.sourcePortIdentity.clockIdentity with
          ⟨held, same⟩ | ⟨held | held, other⟩
        · rw [held, if_pos same]
        · rw [held, if_neg other]
        · rw [held, if_neg other]
      · split
        · rcases neighbour b.header.sourcePortIdentity.clockIdentity with
            ⟨held, same⟩ | ⟨held | held, other⟩
          · rw [held, if_pos same]
          · rw [held, if_neg other]
          · rw [held, if_neg other]
        · cases memcmp a.header.sourcePortIdentity.clockIdentity
            b.header.sourcePortIdentity.clockIdentity <;> rfl

/-- The steps from the grandmaster, the nearest sender first, then the sender. -/
def topologyOrder (steps : MsgAnnounce → Int) :
    ForeignMasterRecord → ForeignMasterRecord → Ordering :=
  compareLex (compareOn fun r => steps r.announce)
    fun a b => memcmp a.header.sourcePortIdentity.clockIdentity
      b.header.sourcePortIdentity.clockIdentity

/-- Between other clocks, figure 28 is an order. -/
theorem figure28_eq {steps : MsgAnnounce → Int} {a b : ForeignMasterRecord}
    {receiver : ClockIdentity} (foreignA : a.header.sourcePortIdentity.clockIdentity ≠ receiver)
    (foreignB : b.header.sourcePortIdentity.clockIdentity ≠ receiver) :
    figure28 steps a b receiver = betterOf (topologyOrder steps a b) := by
  unfold figure28 topologyOrder compareLex compareOn
  dsimp only
  rcases Int.lt_trichotomy (steps a.announce) (steps b.announce) with lt | eq | gt
  · rw [Int.compare_eq_lt.mpr lt, if_neg (by omega)]
    split
    · rfl
    · rw [if_neg (by omega)]
      rfl
  · rw [Int.compare_eq_eq.mpr eq, if_neg (by omega), if_neg (by omega), if_neg (by omega),
      if_neg (by omega)]
    rfl
  · rw [Int.compare_eq_gt.mpr gt]
    split
    · rfl
    · rw [if_neg (by omega)]
      rfl

/-! ### The comparison of records -/

/-- The comparison of two records. -/
def compareMasters (c : PtpClock) (a b : ForeignMasterRecord) : Int8 :=
  bmcDataSetComparison a.header a.announce b.header b.announce c

/-- Records that agree on every grandmaster that they share, and come from other clocks. -/
structure Comparable (c : PtpClock) (records : Set ForeignMasterRecord) : Prop where
  agree : ∀ a ∈ records, ∀ b ∈ records,
    a.announce.grandmasterIdentity = b.announce.grandmasterIdentity →
      a.announce.grandmasterPriority1 = b.announce.grandmasterPriority1 ∧
        a.announce.grandmasterClockQuality = b.announce.grandmasterClockQuality ∧
        a.announce.grandmasterPriority2 = b.announce.grandmasterPriority2
  foreign : ∀ a ∈ records,
    a.header.sourcePortIdentity.clockIdentity ≠ c.portDS.portIdentity.clockIdentity

/-- The order of records: the grandmaster, then the way to it. -/
def masterOrder : ForeignMasterRecord → ForeignMasterRecord → Ordering :=
  compareLex (fun a b => grandmasterOrder signedVariance a.announce b.announce)
    (topologyOrder signedSteps)

instance grandmasterOrder_trans (variance : MsgAnnounce → Int) :
    TransCmp (grandmasterOrder variance) :=
  have : TransCmp fun a b : MsgAnnounce => memcmp a.grandmasterIdentity b.grandmasterIdentity :=
    inferInstanceAs (TransCmp (compareOn fun a : MsgAnnounce => a.grandmasterIdentity.toList))
  inferInstanceAs (TransCmp (compareLex _ _))

instance topologyOrder_trans (steps : MsgAnnounce → Int) : TransCmp (topologyOrder steps) :=
  have : TransCmp fun a b : ForeignMasterRecord =>
      memcmp a.header.sourcePortIdentity.clockIdentity
        b.header.sourcePortIdentity.clockIdentity :=
    inferInstanceAs (TransCmp (compareOn fun r : ForeignMasterRecord =>
      r.header.sourcePortIdentity.clockIdentity.toList))
  inferInstanceAs (TransCmp (compareLex _ _))

instance masterOrder_trans : TransCmp masterOrder :=
  have : TransCmp fun a b : ForeignMasterRecord =>
      grandmasterOrder signedVariance a.announce b.announce := {
    eq_swap := Std.OrientedCmp.eq_swap
    isLE_trans := TransCmp.isLE_trans }
  inferInstanceAs (TransCmp (compareLex _ _))

section Records

variable {c : PtpClock} {records : Set ForeignMasterRecord}

/-- Records that agree on a grandmaster are equal in its order. -/
theorem Comparable.grandmasterOrder_eq (comparable : Comparable c records)
    {a b : ForeignMasterRecord} (memA : a ∈ records) (memB : b ∈ records)
    (same : a.announce.grandmasterIdentity = b.announce.grandmasterIdentity) :
    grandmasterOrder signedVariance a.announce b.announce = .eq := by
  obtain ⟨priority1, quality, priority2⟩ := comparable.agree a memA b memB same
  simp only [grandmasterOrder, compareLex_eq_eq, compareOn, signedVariance, priority1, quality,
    priority2, same, Std.ReflOrd.compare_self, memcmp_eq_iff, and_self]

/-- Records of different grandmasters are not. -/
theorem grandmasterOrder_ne {a b : MsgAnnounce} {variance : MsgAnnounce → Int}
    (other : memcmp a.grandmasterIdentity b.grandmasterIdentity ≠ .eq) :
    grandmasterOrder variance a b ≠ .eq := by
  intro same
  simp only [grandmasterOrder, compareLex_eq_eq] at same
  exact other same.2.2.2.2.2

/-- Between comparable records, the comparison prefers the smaller one. -/
theorem Comparable.compare_eq (comparable : Comparable c records) {a b : ForeignMasterRecord}
    (memA : a ∈ records) (memB : b ∈ records) :
    compareMasters c a b = betterOf (masterOrder a b) := by
  unfold compareMasters bmcDataSetComparison masterOrder compareLex
  dsimp only
  by_cases other : memcmp a.announce.grandmasterIdentity b.announce.grandmasterIdentity ≠ .eq
  · have decided : grandmasterOrder signedVariance a.announce b.announce ≠ .eq :=
      grandmasterOrder_ne other
    rw [if_pos other, compareGrandmasters_eq other]
    cases held : grandmasterOrder signedVariance a.announce b.announce with
    | eq => exact absurd held decided
    | lt | gt => rfl
  · have same := memcmp_eq_iff.mp (not_not.mp other)
    rw [if_neg other, compareTopology_eq,
      figure28_eq (comparable.foreign a memA) (comparable.foreign b memB),
      comparable.grandmasterOrder_eq memA memB same]
    rfl

/-- Among comparable records the comparison is a strict order: swapping negates it, what is better
is better than all that the other is better than, and it is 0 only for records of one grandmaster,
sender and number of steps. -/
theorem compareMasters_strictOrder (c : PtpClock) (records : Set ForeignMasterRecord)
    (comparable : Comparable c records) :
    (∀ a ∈ records, ∀ b ∈ records, compareMasters c b a = -compareMasters c a b) ∧
      (∀ x ∈ records, ∀ y ∈ records, ∀ z ∈ records, compareMasters c x y = aBetterThenB →
        compareMasters c y z = aBetterThenB → compareMasters c x z = aBetterThenB) ∧
      ∀ a ∈ records, ∀ b ∈ records, compareMasters c a b = 0 →
        a.header.sourcePortIdentity.clockIdentity = b.header.sourcePortIdentity.clockIdentity ∧
          a.announce.grandmasterIdentity = b.announce.grandmasterIdentity ∧
          a.announce.stepsRemoved = b.announce.stepsRemoved := by
  refine ⟨?_, ?_, ?_⟩
  · intro a _ b _
    exact bmcDataSetComparison_swap _ _ _ _ c
  · intro x memX y memY z memZ first second
    rw [comparable.compare_eq memX memY, betterOf_eq_better_iff] at first
    rw [comparable.compare_eq memY memZ, betterOf_eq_better_iff] at second
    rw [comparable.compare_eq memX memZ, betterOf_eq_better_iff]
    exact TransCmp.lt_trans first second
  · intro a memA b memB zero
    rw [comparable.compare_eq memA memB, betterOf_eq_zero_iff] at zero
    simp only [masterOrder, grandmasterOrder, topologyOrder, compareLex_eq_eq, memcmp_eq_iff]
      at zero
    obtain ⟨⟨-, -, -, -, -, grandmaster⟩, steps, sender⟩ := zero
    exact ⟨sender, grandmaster, Int16.toInt_inj.mp (Int.compare_eq_eq.mp steps)⟩

/-- A record of clock 3, which is four steps away from clock 1. -/
def farRecord : ForeignMasterRecord :=
  { recordOf 3 100 with announce := { (recordOf 1 100).announce with stepsRemoved := 4 } }

/-- Two records of one grandmaster and one of another. -/
theorem compareMasters_strictOrder_met :
    Comparable {} {recordOf 1 100, recordOf 2 200, farRecord} ∧
      compareMasters {} (recordOf 1 100) (recordOf 2 200) = aBetterThenB ∧
      compareMasters {} (recordOf 2 200) (recordOf 1 100) = bBetterThenA := by
  have comparable : Comparable {} {recordOf 1 100, recordOf 2 200, farRecord} := by
    constructor
    · rintro a (rfl | rfl | rfl) b (rfl | rfl | rfl) same <;>
        first | exact ⟨rfl, rfl, rfl⟩ | exact absurd same (by decide)
    · rintro a (rfl | rfl | rfl) <;> decide
  have first : compareMasters {} (recordOf 1 100) (recordOf 2 200) = aBetterThenB := by decide
  obtain ⟨swap, -, -⟩ := compareMasters_strictOrder {} _ comparable
  refine ⟨comparable, first, ?_⟩
  rw [swap _ (.inl rfl) _ (.inr (.inl rfl)), first]
  rfl

end Records

/-! ### The numbers on the wire -/

/-- The variance as it is on the wire. -/
def unsignedVariance (a : MsgAnnounce) : Int :=
  a.grandmasterClockQuality.offsetScaledLogVariance.toUInt16.toNat

/-- The steps as they are on the wire. -/
def unsignedSteps (a : MsgAnnounce) : Int := a.stepsRemoved.toUInt16.toNat

/-- The comparison of two records with all numbers unsigned. -/
def compareUnsigned (receiver : ClockIdentity) (a b : ForeignMasterRecord) : Int8 :=
  if a.announce.grandmasterIdentity ≠ b.announce.grandmasterIdentity then
    betterOf (grandmasterOrder unsignedVariance a.announce b.announce)
  else figure28 unsignedSteps a b receiver

/-- What `addForeign` unpacks from the bytes of an Announce. -/
def onWire (buf : Bytes) : ForeignMasterRecord :=
  { header := msgUnpackHeader buf, announce := msgUnpackAnnounce buf }

/-- The unsigned numbers of an Announce are those on the wire. -/
theorem unsigned_unpack (buf : Bytes) :
    unsignedVariance (msgUnpackAnnounce buf) = (be16At buf 50).toNat ∧
      unsignedSteps (msgUnpackAnnounce buf) = (be16At buf 61).toNat := by
  constructor <;> rfl

section Signs

variable {m n : Int16}

/-- A number is in the lower half of the unsigned range. -/
def LowHalf (n : Int16) : Prop := n.toUInt16.toNat < 2 ^ 15

instance (n : Int16) : Decidable (LowHalf n) := inferInstanceAs (Decidable (_ < _))

theorem toInt_of_low (low : LowHalf n) : n.toInt = n.toUInt16.toNat := by
  have small : n.toBitVec.toNat < 2 ^ 15 := low
  rw [Int16.toInt, BitVec.toInt_eq_toNat_cond, if_pos (by omega)]
  rfl

theorem toInt_of_not_low (high : ¬ LowHalf n) : n.toInt = n.toUInt16.toNat - 2 ^ 16 := by
  have large : ¬ n.toBitVec.toNat < 2 ^ 15 := high
  rw [Int16.toInt, BitVec.toInt_eq_toNat_cond, if_neg (by omega)]
  rfl

/-- The two readings of numbers in one half differ by the same. -/
theorem signed_sub (same : LowHalf m ↔ LowHalf n) :
    m.toInt - n.toInt = (m.toUInt16.toNat : Int) - n.toUInt16.toNat := by
  by_cases low : LowHalf n
  · rw [toInt_of_low low, toInt_of_low (same.mpr low)]
  · rw [toInt_of_not_low low, toInt_of_not_low fun held => low (same.mp held)]
    omega

/-- Of numbers in different halves the lower one is the higher when read as signed. -/
theorem signed_lt (low : LowHalf m) (high : ¬ LowHalf n) :
    n.toInt < m.toInt ∧ (m.toUInt16.toNat : Int) < n.toUInt16.toNat := by
  have bound := n.toUInt16.toNat_lt
  have above : ¬ n.toUInt16.toNat < 2 ^ 15 := high
  have below : m.toUInt16.toNat < 2 ^ 15 := low
  rw [toInt_of_low low, toInt_of_not_low high]
  omega

/-- The order of the differences is the order of the numbers. -/
theorem compare_of_sub_eq {a b a' b' : Int} (same : a - b = a' - b') :
    compare a b = compare a' b' := by
  rcases Int.lt_trichotomy a b with lt | eq | gt
  · rw [Int.compare_eq_lt.mpr lt, Int.compare_eq_lt.mpr (by omega)]
  · rw [Int.compare_eq_eq.mpr eq, Int.compare_eq_eq.mpr (by omega)]
  · rw [Int.compare_eq_gt.mpr gt, Int.compare_eq_gt.mpr (by omega)]

/-- The two readings compare alike exactly within one half. -/
theorem compare_signed_iff (o : Ordering) :
    (compare m.toInt n.toInt).then o = (compare (m.toUInt16.toNat : Int) n.toUInt16.toNat).then o ↔
      (LowHalf m ↔ LowHalf n) := by
  constructor
  · intro same
    by_cases lowM : LowHalf m <;> by_cases lowN : LowHalf n
    · exact ⟨fun _ => lowN, fun _ => lowM⟩
    · obtain ⟨gt, lt⟩ := signed_lt lowM lowN
      rw [Int.compare_eq_gt.mpr gt, Int.compare_eq_lt.mpr lt] at same
      cases same
    · obtain ⟨gt, lt⟩ := signed_lt lowN lowM
      rw [Int.compare_eq_lt.mpr gt, Int.compare_eq_gt.mpr lt] at same
      cases same
    · exact ⟨fun held => absurd held lowM, fun held => absurd held lowN⟩
  · intro same
    rw [compare_of_sub_eq (signed_sub same)]

/-- Figure 28 prefers the nearer one, or fails to. -/
theorem figure28_gt {steps : MsgAnnounce → Int} {a b : ForeignMasterRecord}
    {receiver : ClockIdentity} (gt : steps b.announce < steps a.announce) :
    figure28 steps a b receiver =
      if steps a.announce = steps b.announce + 1 ∧
          a.header.sourcePortIdentity.clockIdentity = receiver then 0 else bBetterThenA := by
  unfold figure28
  dsimp only
  by_cases far : steps a.announce > steps b.announce + 1
  · rw [if_pos far, if_neg fun near => by omega]
  · rw [if_neg far, if_neg (by omega), if_pos gt]
    exact if_congr ⟨fun held => ⟨by omega, held⟩, And.right⟩ rfl rfl

theorem figure28_lt {steps : MsgAnnounce → Int} {a b : ForeignMasterRecord}
    {receiver : ClockIdentity} (lt : steps a.announce < steps b.announce) :
    figure28 steps a b receiver =
      if steps b.announce = steps a.announce + 1 ∧
          b.header.sourcePortIdentity.clockIdentity = receiver then 0 else aBetterThenB := by
  unfold figure28
  dsimp only
  by_cases far : steps b.announce > steps a.announce + 1
  · rw [if_neg (by omega), if_pos far, if_neg fun near => by omega]
  · rw [if_neg (by omega), if_neg far, if_neg (by omega), if_pos lt]
    exact if_congr ⟨fun held => ⟨by omega, held⟩, And.right⟩ rfl rfl

theorem figure28_of_sub_eq {steps steps' : MsgAnnounce → Int} {a b : ForeignMasterRecord}
    {receiver : ClockIdentity} (same : steps a.announce - steps b.announce =
      steps' a.announce - steps' b.announce) :
    figure28 steps a b receiver = figure28 steps' a b receiver := by
  rcases Int.lt_trichotomy (steps a.announce) (steps b.announce) with lt | eq | gt
  · rw [figure28_lt lt, figure28_lt (by omega)]
    exact if_congr (and_congr_left' ⟨fun _ => by omega, fun _ => by omega⟩) rfl rfl
  · unfold figure28
    dsimp only
    rw [if_neg (by omega), if_neg (by omega), if_neg (by omega), if_neg (by omega),
      if_neg (by omega), if_neg (by omega), if_neg (by omega), if_neg (by omega)]
  · rw [figure28_gt gt, figure28_gt (by omega)]
    exact if_congr (and_congr_left' ⟨fun _ => by omega, fun _ => by omega⟩) rfl rfl

/-- Between different halves, the readings of the steps disagree in figure 28. -/
theorem figure28_signed_ne {a b : ForeignMasterRecord} {receiver : ClockIdentity}
    (low : LowHalf a.announce.stepsRemoved) (high : ¬ LowHalf b.announce.stepsRemoved) :
    figure28 signedSteps a b receiver ≠ figure28 unsignedSteps a b receiver ∧
      figure28 signedSteps b a receiver ≠ figure28 unsignedSteps b a receiver := by
  obtain ⟨signed, unsigned⟩ := signed_lt low high
  -- They cannot be neighbours for both readings.
  have apart (stepsA : signedSteps a.announce = signedSteps b.announce + 1)
      (stepsB : unsignedSteps b.announce = unsignedSteps a.announce + 1) : False := by
    rw [signedSteps, signedSteps, toInt_of_low low, toInt_of_not_low high] at stepsA
    unfold unsignedSteps at stepsB
    omega
  constructor
  · rw [figure28_gt signed, figure28_lt unsigned]
    split
    · next near =>
        split
        · next near' => exact (apart near.1 near'.1).elim
        · decide
    · split <;> decide
  · rw [figure28_lt signed, figure28_gt unsigned]
    split
    · next near =>
        split
        · next near' => exact (apart near.1 near'.1).elim
        · decide
    · split <;> decide

/-- The readings of the steps agree in figure 28 exactly within one half. -/
theorem figure28_signed_iff {a b : ForeignMasterRecord} {receiver : ClockIdentity} :
    figure28 signedSteps a b receiver = figure28 unsignedSteps a b receiver ↔
      (LowHalf a.announce.stepsRemoved ↔ LowHalf b.announce.stepsRemoved) := by
  constructor
  · intro same
    by_cases lowA : LowHalf a.announce.stepsRemoved <;>
      by_cases lowB : LowHalf b.announce.stepsRemoved
    · exact ⟨fun _ => lowB, fun _ => lowA⟩
    · exact absurd same (figure28_signed_ne lowA lowB).1
    · exact absurd same (figure28_signed_ne lowB lowA).2
    · exact ⟨fun held => absurd held lowA, fun held => absurd held lowB⟩
  · exact fun same => figure28_of_sub_eq (signed_sub same)

theorem betterOf_inj {o o' : Ordering} (same : betterOf o = betterOf o') : o = o' := by
  revert same
  cases o <;> cases o' <;> decide

/-- Whether the variance decides between two grandmasters, and is on different sides of the sign. -/
def VarianceMisread (a b : MsgAnnounce) : Prop :=
  a.grandmasterIdentity ≠ b.grandmasterIdentity ∧
    a.grandmasterPriority1 = b.grandmasterPriority1 ∧
    a.grandmasterClockQuality.clockClass = b.grandmasterClockQuality.clockClass ∧
    a.grandmasterClockQuality.clockAccuracy = b.grandmasterClockQuality.clockAccuracy ∧
    ¬ (LowHalf a.grandmasterClockQuality.offsetScaledLogVariance ↔
      LowHalf b.grandmasterClockQuality.offsetScaledLogVariance)

/-- Whether the steps decide between two senders, and are on different sides of the sign. -/
def StepsMisread (a b : MsgAnnounce) : Prop :=
  a.grandmasterIdentity = b.grandmasterIdentity ∧
    ¬ (LowHalf a.stepsRemoved ↔ LowHalf b.stepsRemoved)

theorem then_congr_iff {o p q : Ordering} : o.then p = o.then q ↔ (o = .eq → p = q) := by
  cases o with
  | eq => exact ⟨fun same _ => same, fun same => same rfl⟩
  | lt | gt => exact ⟨nofun, fun _ => rfl⟩

/-- The readings of the variance agree in figure 27 exactly if it is not misread. -/
theorem grandmasterOrder_signed_iff {a b : MsgAnnounce}
    (other : a.grandmasterIdentity ≠ b.grandmasterIdentity) :
    grandmasterOrder signedVariance a b = grandmasterOrder unsignedVariance a b ↔
      ¬ VarianceMisread a b := by
  have decided (x y : UInt8) : compare (x.toNat : Int) y.toNat = .eq ↔ x = y := by
    rw [Int.compare_eq_eq, Int.ofNat_inj, UInt8.toNat_inj]
  unfold grandmasterOrder compareLex compareOn
  dsimp only
  rw [then_congr_iff, then_congr_iff, then_congr_iff, decided, decided, decided]
  unfold signedVariance unsignedVariance
  rw [compare_signed_iff]
  constructor
  · rintro alike ⟨-, priority1, clockClass, clockAccuracy, apart⟩
    exact apart (alike priority1 clockClass clockAccuracy)
  · intro read priority1 clockClass clockAccuracy
    by_contra apart
    exact read ⟨other, priority1, clockClass, clockAccuracy, apart⟩

/-- The comparison ranks two records by unsigned numbers exactly if neither is misread. -/
theorem compareMasters_unsigned_iff (c : PtpClock) (a b : ForeignMasterRecord) :
    compareMasters c a b = compareUnsigned c.portDS.portIdentity.clockIdentity a b ↔
      ¬ VarianceMisread a.announce b.announce ∧ ¬ StepsMisread a.announce b.announce := by
  unfold compareMasters bmcDataSetComparison compareUnsigned
  by_cases same : a.announce.grandmasterIdentity = b.announce.grandmasterIdentity
  · rw [if_neg (not_not.mpr (memcmp_eq_iff.mpr same)), if_neg (not_not.mpr same),
      compareTopology_eq, figure28_signed_iff]
    constructor
    · intro alike
      exact ⟨fun misread => misread.1 same, fun misread => misread.2 alike⟩
    · rintro ⟨-, read⟩
      by_contra apart
      exact read ⟨same, apart⟩
  · have other : memcmp a.announce.grandmasterIdentity b.announce.grandmasterIdentity ≠ .eq :=
      fun held => same (memcmp_eq_iff.mp held)
    rw [if_pos other, if_pos same, compareGrandmasters_eq other]
    constructor
    · intro alike
      refine ⟨?_, fun misread => same misread.1⟩
      exact (grandmasterOrder_signed_iff same).mp (betterOf_inj alike)
    · rintro ⟨read, -⟩
      rw [(grandmasterOrder_signed_iff same).mpr read]

end Signs

/-- `s1` counts a step more, as an unsigned number, than the master. -/
def CountsSteps (c : PtpClock) (r : ForeignMasterRecord) : Prop :=
  r.announce.stepsRemoved.toUInt16 ≤ (s1 c r.header r.announce).currentDS.stepsRemoved.toUInt16

theorem countsSteps_iff (c : PtpClock) (r : ForeignMasterRecord) :
    CountsSteps c r ↔ r.announce.stepsRemoved.toUInt16 ≠ 0xffff := by
  have counted : (s1 c r.header r.announce).currentDS.stepsRemoved.toUInt16 =
      r.announce.stepsRemoved.toUInt16 + 1 := Int16.toUInt16_add _ _
  unfold CountsSteps
  rw [counted]
  generalize r.announce.stepsRemoved.toUInt16 = steps
  have bound := steps.toNat_lt
  rw [UInt16.le_iff_toNat_le, UInt16.toNat_add, ← UInt16.toNat_inj.ne]
  have one : (1 : UInt16).toNat = 1 := rfl
  have last : (0xffff : UInt16).toNat = 65535 := rfl
  rw [one, last]
  omega

/-- Two Announces are ranked by the numbers on the wire, and `s1` does not go below the steps of
either, exactly if neither the variance nor the steps are misread and the steps are not at their
end. -/
theorem announces_ranked_iff (c : PtpClock) (bufA bufB : Bytes) :
    (compareMasters c (onWire bufA) (onWire bufB) =
        compareUnsigned c.portDS.portIdentity.clockIdentity (onWire bufA) (onWire bufB) ∧
      CountsSteps c (onWire bufA) ∧ CountsSteps c (onWire bufB)) ↔
      ¬ VarianceMisread (msgUnpackAnnounce bufA) (msgUnpackAnnounce bufB) ∧
        ¬ StepsMisread (msgUnpackAnnounce bufA) (msgUnpackAnnounce bufB) ∧
        be16At bufA 61 ≠ 0xffff ∧ be16At bufB 61 ≠ 0xffff := by
  have steps (buf : Bytes) : (onWire buf).announce.stepsRemoved.toUInt16 = be16At buf 61 :=
    UInt16.toUInt16_toInt16 _
  rw [compareMasters_unsigned_iff, countsSteps_iff, countsSteps_iff, steps, steps, and_assoc]
  rfl

/-- Of two grandmasters alike but for their variances 0xFFFF and 0x4E5D, the first one wins. -/
theorem worse_variance_wins : ¬ ∀ (c : PtpClock) (bufA bufB : Bytes),
    compareMasters c (onWire bufA) (onWire bufB) =
        compareUnsigned c.portDS.portIdentity.clockIdentity (onWire bufA) (onWire bufB) ∧
      CountsSteps c (onWire bufA) ∧ CountsSteps c (onWire bufB) := by
  intro ranked
  have first := (ranked {} (List.replicate 50 0 ++ [0xff, 0xff] ++ List.replicate 12 1)
    (List.replicate 50 0 ++ [0x4e, 0x5d] ++ List.replicate 12 2)).1
  revert first
  decide

end LwipExt.Ptp
