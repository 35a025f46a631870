import LwipExt.Ptp.Bmc
import Mathlib.Data.List.Basic

/-!
Which record the best master clock algorithm chooses.

The comparison is antisymmetric, so a scan that replaces its record by one that compares below
it can only end with the best record when there is no other.
-/

namespace LwipExt.Ptp

/-! ### The comparison -/

theorem memcmp_swap (a b : ClockIdentity) : memcmp b a = (memcmp a b).swap :=
  Std.OrientedOrd.eq_swap

/-- One attribute compares the other way round. -/
theorem compareAbReturnBetter_swap (a b : Int) {next next' : Int8} (swapped : next' = -next) :
    compareAbReturnBetter b a next' = -compareAbReturnBetter a b next := by
  unfold compareAbReturnBetter
  rcases Int.lt_trichotomy a b with lt | eq | gt
  · rw [if_pos lt, if_neg (by omega), if_pos lt]
    rfl
  · rw [if_neg (by omega), if_neg (by omega), if_neg (by omega), if_neg (by omega), swapped]
  · rw [if_neg (by omega), if_pos gt, if_pos gt]
    rfl

theorem compareGrandmasters_swap {a b : MsgAnnounce}
    (other : memcmp a.grandmasterIdentity b.grandmasterIdentity ≠ .eq) :
    compareGrandmasters b a = -compareGrandmasters a b := by
  unfold compareGrandmasters
  iterate 5 apply compareAbReturnBetter_swap
  rw [memcmp_swap]
  cases held : memcmp a.grandmasterIdentity b.grandmasterIdentity with
  | eq => exact absurd held other
  | lt | gt => rfl

theorem compareTopology_swap (headerA : MsgHeader) (announceA : MsgAnnounce) (headerB : MsgHeader)
    (announceB : MsgAnnounce) (portIdentity : PortIdentity) :
    compareTopology headerB announceB headerA announceA portIdentity =
      -compareTopology headerA announceA headerB announceB portIdentity := by
  unfold compareTopology
  dsimp only
  generalize announceA.stepsRemoved.toInt = stepsA
  generalize announceB.stepsRemoved.toInt = stepsB
  rcases Int.lt_trichotomy stepsA stepsB with lt | eq | gt
  · by_cases far : stepsB > stepsA + 1
    · rw [if_pos far, if_neg (by omega), if_pos far]
      rfl
    · rw [if_neg far, if_neg (by omega), if_pos lt, if_neg (by omega), if_neg far,
        if_neg (by omega), if_pos lt]
      cases memcmp headerB.sourcePortIdentity.clockIdentity portIdentity.clockIdentity <;> rfl
  · subst eq
    simp only [show ¬ stepsA > stepsA + 1 by omega, show ¬ stepsA > stepsA by omega, if_false]
    rw [memcmp_swap]
    cases memcmp headerA.sourcePortIdentity.clockIdentity
      headerB.sourcePortIdentity.clockIdentity <;> rfl
  · by_cases far : stepsA > stepsB + 1
    · rw [if_neg (by omega), if_pos far, if_pos far]
      rfl
    · rw [if_neg (by omega), if_neg far, if_neg (by omega), if_pos gt, if_neg far,
        if_neg (by omega), if_pos gt]
      cases memcmp headerA.sourcePortIdentity.clockIdentity portIdentity.clockIdentity <;> rfl

/-- The comparison is antisymmetric. -/
theorem bmcDataSetComparison_swap (headerA : MsgHeader) (announceA : MsgAnnounce)
    (headerB : MsgHeader) (announceB : MsgAnnounce) (c : PtpClock) :
    bmcDataSetComparison headerB announceB headerA announceA c =
      -bmcDataSetComparison headerA announceA headerB announceB c := by
  unfold bmcDataSetComparison
  by_cases other : memcmp announceA.grandmasterIdentity announceB.grandmasterIdentity ≠ .eq
  · have swapped : memcmp announceB.grandmasterIdentity announceA.grandmasterIdentity ≠ .eq := by
      rw [memcmp_swap]
      intro eq
      apply other
      cases held : memcmp announceA.grandmasterIdentity announceB.grandmasterIdentity <;>
        rw [held] at eq <;> first | rfl | cases eq
    rw [if_pos other, if_pos swapped, compareGrandmasters_swap other]
  · have swapped : ¬ memcmp announceB.grandmasterIdentity announceA.grandmasterIdentity ≠ .eq := by
      rw [memcmp_swap, not_not.mp other]
      simp
    rw [if_neg other, if_neg swapped, compareTopology_swap]

/-! ### The scan -/

/-- The comparison of two records. -/
def compareRecords (c : PtpClock) (i j : Nat) : Int8 :=
  bmcDataSetComparison (c.foreignMasterDS.record i).header (c.foreignMasterDS.record i).announce
    (c.foreignMasterDS.record j).header (c.foreignMasterDS.record j).announce c

theorem compareRecords_swap (c : PtpClock) (i j : Nat) :
    compareRecords c j i = -compareRecords c i j := bmcDataSetComparison_swap _ _ _ _ c

/-- The record after the first rounds of the scan. -/
def scanned (c : PtpClock) (n : Nat) : Nat :=
  (List.range n).foldl (fun best i => bestOf c best (i + 1)) 0

/-- The scan is still at the first record, and none of the others was below it, or it is at one
that is below an earlier one. -/
theorem scanned_cases (c : PtpClock) (n : Nat) :
    (scanned c n = 0 ∧ ∀ i, 0 < i → i ≤ n → ¬ compareRecords c i 0 < 0) ∨
      ∃ i < scanned c n, scanned c n ≤ n ∧ compareRecords c (scanned c n) i < 0 := by
  induction n with
  | zero => exact .inl ⟨rfl, fun i pos le => by omega⟩
  | succ n ih =>
      have step : scanned c (n + 1) =
          if compareRecords c (n + 1) (scanned c n) < 0 then n + 1 else scanned c n := by
        simp only [scanned, List.range_succ, List.foldl_append, List.foldl_cons, List.foldl_nil]
        rfl
      by_cases below : compareRecords c (n + 1) (scanned c n) < 0
      · rw [step, if_pos below]
        refine .inr ⟨scanned c n, ?_, le_rfl, below⟩
        rcases ih with ⟨first, -⟩ | ⟨i, -, le, -⟩
        · omega
        · omega
      · rw [step, if_neg below]
        rcases ih with ⟨first, kept⟩ | ⟨i, lt, le, worse⟩
        · refine .inl ⟨first, fun i pos le => ?_⟩
          rcases Nat.lt_or_ge n i with last | earlier
          · have : i = n + 1 := by omega
            rw [this, ← first]
            exact below
          · exact kept i pos earlier
        · exact .inr ⟨i, lt, by omega, worse⟩

/-! ### The choice -/

/-- A foreign master data set as the masters make it: no two records have one sender, records of
one grandmaster agree on it, and none comes from the local clock. -/
structure WellFormedMasters (c : PtpClock) : Prop where
  distinct : ∀ i < c.foreignMasterDS.count, ∀ j < c.foreignMasterDS.count, i ≠ j →
    (c.foreignMasterDS.record i).header.sourcePortIdentity ≠
      (c.foreignMasterDS.record j).header.sourcePortIdentity
  agree : ∀ i < c.foreignMasterDS.count, ∀ j < c.foreignMasterDS.count,
    (c.foreignMasterDS.record i).announce.grandmasterIdentity =
        (c.foreignMasterDS.record j).announce.grandmasterIdentity →
      (c.foreignMasterDS.record i).announce.grandmasterPriority1 =
          (c.foreignMasterDS.record j).announce.grandmasterPriority1 ∧
        (c.foreignMasterDS.record i).announce.grandmasterClockQuality =
          (c.foreignMasterDS.record j).announce.grandmasterClockQuality ∧
        (c.foreignMasterDS.record i).announce.grandmasterPriority2 =
          (c.foreignMasterDS.record j).announce.grandmasterPriority2
  foreign : ∀ i < c.foreignMasterDS.count,
    (c.foreignMasterDS.record i).header.sourcePortIdentity.clockIdentity ≠
      c.portDS.portIdentity.clockIdentity

/-- The record that `bmc` chooses. -/
def chosen (c : PtpClock) : Nat := (bmc c).2.foreignMasterDS.best

/-- `bmc` chooses a record that is better than every other one, and decides by it. -/
def ChoosesBest (c : PtpClock) : Prop :=
  (∀ i < c.foreignMasterDS.count, i ≠ chosen c → compareRecords c (chosen c) i > 0) ∧
    bmc c = bmcStateDecision (c.foreignMasterDS.record (chosen c)).header
      (c.foreignMasterDS.record (chosen c)).announce
      { c with foreignMasterDS := { c.foreignMasterDS with best := chosen c } }

/-- A state decision leaves the foreign masters alone. -/
theorem bmcStateDecision_foreign (header : MsgHeader) (announce : MsgAnnounce) (c : PtpClock) :
    (bmcStateDecision header announce c).2.foreignMasterDS = c.foreignMasterDS := by
  unfold bmcStateDecision
  dsimp only
  split
  · rfl
  · split
    · split <;> rfl
    · split <;> rfl

theorem chosen_eq (c : PtpClock) : chosen c = scanned c (c.foreignMasterDS.count - 1) := by
  unfold chosen bmc
  rw [bmcStateDecision_foreign]
  rfl

/-- The decision is made for the chosen record. -/
theorem bmc_eq (c : PtpClock) :
    bmc c = bmcStateDecision (c.foreignMasterDS.record (chosen c)).header
      (c.foreignMasterDS.record (chosen c)).announce
      { c with foreignMasterDS := { c.foreignMasterDS with best := chosen c } } := by
  rw [chosen_eq]
  rfl

/-- The algorithm reads the foreign masters, the port and the local clock only. -/
theorem bmc_congr {c d : PtpClock} (masters : d.foreignMasterDS = c.foreignMasterDS)
    (port : d.portDS = c.portDS) (clock : d.defaultDS = c.defaultDS) :
    chosen d = chosen c ∧ (bmc d).1 = (bmc c).1 := by
  have compared (headerA : MsgHeader) (announceA : MsgAnnounce) (headerB : MsgHeader)
      (announceB : MsgAnnounce) (e f : PtpClock) (same : e.portDS = f.portDS) :
      bmcDataSetComparison headerA announceA headerB announceB e =
        bmcDataSetComparison headerA announceA headerB announceB f := by
    unfold bmcDataSetComparison
    rw [same]
  have rounds : bestOf d = bestOf c := by
    funext best i
    unfold bestOf
    rw [masters]
    dsimp only
    rw [compared _ _ _ _ d c port]
  have same : chosen d = chosen c := by
    rw [chosen_eq, chosen_eq, scanned, scanned, rounds, masters]
  refine ⟨same, ?_⟩
  rw [bmc_eq, bmc_eq, same]
  unfold bmcStateDecision copyD0
  dsimp only
  rw [masters, port, clock, compared _ _ _ _ _ c (by rfl), compared _ _ _ _ { c with
    foreignMasterDS := { c.foreignMasterDS with best := chosen c } } c rfl]
  generalize bmcDataSetComparison _ _ _ _ c = comp
  split
  · rfl
  · split
    · split <;> rfl
    · split <;> rfl

/-- What compares below another record is not better than it. -/
theorem not_better {v : Int8} : v < 0 → ¬ v > 0 := fun below above =>
  absurd (Int8.lt_trans below above) (Int8.lt_irrefl)

theorem not_better_of_swap {v : Int8} (kept : ¬ v < 0) : ¬ -v > 0 := by
  intro above
  rw [gt_iff_lt, Int8.lt_iff_toInt_lt] at above
  rw [Int8.lt_iff_toInt_lt] at kept
  simp only [Int8.toInt_neg, Int8.toInt_zero] at above kept
  have small := v.toInt_lt
  rw [Int.bmod_def] at above
  omega

/-- `bmc` chooses the best record exactly when there is at most one. -/
theorem chooses_best_iff (c : PtpClock) : ChoosesBest c ↔ c.foreignMasterDS.count ≤ 1 := by
  constructor
  · rintro ⟨better, -⟩
    by_contra several
    rw [chosen_eq] at better
    rcases scanned_cases c (c.foreignMasterDS.count - 1) with ⟨first, kept⟩ | ⟨i, lt, le, worse⟩
    · rw [first] at better
      have above := better 1 (by omega) (by decide)
      rw [compareRecords_swap c 1 0] at above
      exact not_better_of_swap (kept 1 (by decide) (by omega)) above
    · exact not_better worse (better i (by omega) (by omega))
  · intro single
    refine ⟨fun i lt other => ?_, bmc_eq c⟩
    have first : chosen c = 0 := by
      rw [chosen_eq, show c.foreignMasterDS.count - 1 = 0 by omega]
      rfl
    omega

/-- A foreign master record of a sender that is its own grandmaster. -/
def recordOf (n priority : UInt8) : ForeignMasterRecord :=
  let identity : PortIdentity := ⟨Vector.replicate 8 n, 1⟩
  { foreignMasterPortIdentity := identity
    header := { sourcePortIdentity := identity }
    announce := { grandmasterPriority1 := priority, grandmasterIdentity := identity.clockIdentity } }

/-- Of two grandmasters `bmc` chooses the one with the higher, that is worse, priority. -/
theorem not_chooses_best : ¬ ∀ c : PtpClock, WellFormedMasters c → ChoosesBest c := by
  intro best
  have chosen := (best { foreignMasterDS :=
    { records := [recordOf 1 100, recordOf 2 200], count := 2, capacity := 5 } }
    ⟨by decide +kernel, by decide +kernel, by decide +kernel⟩).1
  revert chosen
  decide +kernel

end LwipExt.Ptp
