import LwipExt.Ptp.Msg

/-!
The data sets and the best master clock algorithm (`ptpBmc.c`).
-/

namespace LwipExt.Ptp

/-- `EUI48toEUI64`. -/
def eui48toEui64 (eui48 : Vector UInt8 6) : ClockIdentity :=
  #v[eui48.get 0, eui48.get 1, eui48.get 2, 0xff, 0xfe, eui48.get 3, eui48.get 4, eui48.get 5]

/-- `initData`. -/
def initData (c : PtpClock) : PtpClock :=
  let clockIdentity := eui48toEui64 c.portUuidField
  { c with
    defaultDS :=
      { twoStepFlag := true
        clockIdentity := clockIdentity
        clockQuality := c.rtOpts.clockQuality
        priority1 := c.rtOpts.priority1
        priority2 := c.rtOpts.priority2
        domainNumber := c.rtOpts.domainNumber
        slaveOnly := c.rtOpts.slaveOnly }
    portDS := { c.portDS with
      portIdentity := ⟨clockIdentity, numberPorts⟩
      logMinDelayReqInterval := defaultDelayReqInterval
      peerMeanPathDelay := {}
      logAnnounceInterval := c.rtOpts.announceInterval
      announceReceiptTimeout := defaultAnnounceReceiptTimeout
      logSyncInterval := c.rtOpts.syncInterval
      delayMechanism := c.rtOpts.delayMechanism
      logMinPdelayReqInterval := defaultPDelayReqInterval
      versionNumber := versionPtp }
    foreignMasterDS := { c.foreignMasterDS with count := 0, capacity := c.rtOpts.maxForeignRecords }
    inboundLatency := c.rtOpts.inboundLatency
    outboundLatency := c.rtOpts.outboundLatency
    servo := c.rtOpts.servo }

/-! ### Foreign masters -/

/-- The search of `addForeign`: the record of a sender among the `left` records from `j` on. -/
def findForeign (ds : ForeignMasterDS) (source : PortIdentity) : (left j : Nat) → Option Nat
  | 0, _ => none
  | left + 1, j =>
      if isSamePortIdentity source (ds.record j).foreignMasterPortIdentity then some j
      else findForeign ds source left ((j + 1) % ds.count)

/-- A change of one record. -/
def ForeignMasterDS.setRecord (ds : ForeignMasterDS) (j : Nat) (r : ForeignMasterRecord) :
    ForeignMasterDS :=
  { ds with records := ds.records.set j r }

/-- `addForeign`. -/
def addForeign (c : PtpClock) (header : MsgHeader) (announce : MsgAnnounce) : PtpClock :=
  let ds := c.foreignMasterDS
  match findForeign ds header.sourcePortIdentity ds.count ds.best with
  | some j =>
      let r := ds.record j
      let r := { r with
        foreignMasterAnnounceMessages := r.foreignMasterAnnounceMessages + 1
        header := header
        announce := announce }
      { c with foreignMasterDS := ds.setRecord j r }
  | none =>
      let ds := if ds.count < ds.capacity then { ds with count := ds.count + 1 } else ds
      let r : ForeignMasterRecord :=
        { foreignMasterPortIdentity := header.sourcePortIdentity
          foreignMasterAnnounceMessages := 0
          header := header
          announce := announce }
      { c with foreignMasterDS := { ds.setRecord ds.i r with i := (ds.i + 1) % ds.capacity } }

/-! ### Updates of the data sets -/

/-- `m1` and `m2`: the local clock becomes the master. -/
def m1 (c : PtpClock) : PtpClock :=
  { c with
    currentDS := { stepsRemoved := 0, offsetFromMaster := {}, meanPathDelay := {} }
    parentDS :=
      { parentPortIdentity := ⟨c.defaultDS.clockIdentity, 0⟩
        grandmasterIdentity := c.defaultDS.clockIdentity
        grandmasterClockQuality := c.defaultDS.clockQuality
        grandmasterPriority1 := c.defaultDS.priority1
        grandmasterPriority2 := c.defaultDS.priority2 }
    timePropertiesDS :=
      { currentUtcOffset := c.rtOpts.currentUtcOffset, timeSource := defaultTimeSource } }

/-- `p1`. -/
def p1 (c : PtpClock) : PtpClock := c

/-- `s1`: the local clock is synchronized to a master. -/
def s1 (c : PtpClock) (header : MsgHeader) (announce : MsgAnnounce) : PtpClock :=
  let isFromCurrentParent :=
    isSamePortIdentity c.parentDS.parentPortIdentity header.sourcePortIdentity
  { c with
    currentDS := { c.currentDS with stepsRemoved := announce.stepsRemoved + 1 }
    events :=
      if isFromCurrentParent then c.events else { c.events with masterClockChanged := true }
    parentDS :=
      { parentPortIdentity := header.sourcePortIdentity
        grandmasterIdentity := announce.grandmasterIdentity
        grandmasterClockQuality := announce.grandmasterClockQuality
        grandmasterPriority1 := announce.grandmasterPriority1
        grandmasterPriority2 := announce.grandmasterPriority2 }
    timePropertiesDS :=
      { currentUtcOffset := announce.currentUtcOffset
        currentUtcOffsetValid := getFlag header.flagField1 0x04
        leap59 := getFlag header.flagField1 0x02
        leap61 := getFlag header.flagField1 0x01
        timeTraceable := getFlag header.flagField1 0x10
        frequencyTraceable := getFlag header.flagField1 0x20
        ptpTimescale := getFlag header.flagField1 0x08
        timeSource := announce.timeSource } }

/-- `copyD0`: the local data sets as a header and an announce message. Both begin as the buffers
of the last message, of which the comparison reads nothing else. -/
def copyD0 (c : PtpClock) : MsgHeader × MsgAnnounce :=
  ({ sourcePortIdentity := { clockIdentity := c.defaultDS.clockIdentity } },
    { grandmasterPriority1 := c.defaultDS.priority1
      grandmasterIdentity := c.defaultDS.clockIdentity
      grandmasterClockQuality := c.defaultDS.clockQuality
      grandmasterPriority2 := c.defaultDS.priority2
      stepsRemoved := 0 })

/-! ### The comparison -/

/-- The sign of `memcmp`. -/
def memcmp (a b : ClockIdentity) : Ordering := compare a.toList b.toList

/-- `A_better_then_B` and `A_better_by_topology_then_B`. -/
def aBetterThenB : Int8 := 1

/-- `B_better_then_A` and `B_better_by_topology_then_A`. -/
def bBetterThenA : Int8 := -1

/-- `COMPARE_AB_RETURN_BETTER`: smaller is better. -/
def compareAbReturnBetter (a b : Int) (next : Int8) : Int8 :=
  if a > b then bBetterThenA else if b > a then aBetterThenB else next

/-- The first part of the comparison, figure 27, for different grandmasters. -/
def compareGrandmasters (a b : MsgAnnounce) : Int8 :=
  compareAbReturnBetter a.grandmasterPriority1.toNat b.grandmasterPriority1.toNat <|
  compareAbReturnBetter a.grandmasterClockQuality.clockClass.toNat
    b.grandmasterClockQuality.clockClass.toNat <|
  compareAbReturnBetter a.grandmasterClockQuality.clockAccuracy.toNat
    b.grandmasterClockQuality.clockAccuracy.toNat <|
  compareAbReturnBetter a.grandmasterClockQuality.offsetScaledLogVariance.toInt
    b.grandmasterClockQuality.offsetScaledLogVariance.toInt <|
  compareAbReturnBetter a.grandmasterPriority2.toNat b.grandmasterPriority2.toNat <|
  match memcmp a.grandmasterIdentity b.grandmasterIdentity with
  | .gt => bBetterThenA
  | _ => aBetterThenB

/-- The second part, figure 28: by the steps removed and the senders. -/
def compareTopology (headerA : MsgHeader) (announceA : MsgAnnounce) (headerB : MsgHeader)
    (announceB : MsgAnnounce) (portIdentity : PortIdentity) : Int8 :=
  let stepsA := announceA.stepsRemoved.toInt
  let stepsB := announceB.stepsRemoved.toInt
  if stepsA > stepsB + 1 then bBetterThenA
  else if stepsB > stepsA + 1 then aBetterThenB
  else if stepsA > stepsB then
    match memcmp headerA.sourcePortIdentity.clockIdentity portIdentity.clockIdentity with
    | .gt => bBetterThenA
    | .lt => bBetterThenA
    | .eq => 0
  else if stepsA < stepsB then
    match memcmp headerB.sourcePortIdentity.clockIdentity portIdentity.clockIdentity with
    | .gt => aBetterThenB
    | .lt => aBetterThenB
    | .eq => 0
  else
    match memcmp headerA.sourcePortIdentity.clockIdentity
      headerB.sourcePortIdentity.clockIdentity with
    | .gt => bBetterThenA
    | .lt => aBetterThenB
    | .eq => 0

/-- `bmcDataSetComparison`. -/
def bmcDataSetComparison (headerA : MsgHeader) (announceA : MsgAnnounce) (headerB : MsgHeader)
    (announceB : MsgAnnounce) (c : PtpClock) : Int8 :=
  if memcmp announceA.grandmasterIdentity announceB.grandmasterIdentity ≠ .eq then
    compareGrandmasters announceA announceB
  else compareTopology headerA announceA headerB announceB c.portDS.portIdentity

/-- `bmcStateDecision`. -/
def bmcStateDecision (header : MsgHeader) (announce : MsgAnnounce) (c : PtpClock) :
    PortState × PtpClock :=
  if c.foreignMasterDS.count = 0 ∧ c.portDS.portState = .listening then (.listening, c)
  else
    let (headerD0, announceD0) := copyD0 c
    let comp := bmcDataSetComparison headerD0 announceD0 header announce c
    if c.defaultDS.clockQuality.clockClass < 128 then
      if comp = aBetterThenB then (.master, m1 c) else (.passive, p1 c)
    else if comp = aBetterThenB then (.master, m1 c)
    else (.slave, s1 c header announce)

/-- One round of the scan of `bmc`. -/
def bestOf (c : PtpClock) (best i : Nat) : Nat :=
  let r := c.foreignMasterDS.record i
  let b := c.foreignMasterDS.record best
  if bmcDataSetComparison r.header r.announce b.header b.announce c < 0 then i else best

/-- The record that the scan of `bmc` ends with. -/
def bestRecord (c : PtpClock) : Nat :=
  (List.range (c.foreignMasterDS.count - 1)).foldl (fun best i => bestOf c best (i + 1)) 0

/-- `bmc`. -/
def bmc (c : PtpClock) : PortState × PtpClock :=
  let best := bestRecord c
  let c := { c with foreignMasterDS := { c.foreignMasterDS with best := best } }
  let r := c.foreignMasterDS.record best
  bmcStateDecision r.header r.announce c

end LwipExt.Ptp
