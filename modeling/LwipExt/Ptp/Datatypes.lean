import LwipExt.Bytes

/-!
The data types of the PTP daemon (`include/ptp/datatypes.h`, `constants.h`).

`PtpClock` holds what the source's structure of that name holds, as far as the daemon reads
it. `msgTmpHeader` and `msgTmp` are filled before they are read, so they are arguments here.
The structure also holds the timers, what the surroundings deliver during a step (`PtpInput`)
and records of what the daemon did.
-/

namespace LwipExt.Ptp

/-! ### Constants -/

/-- PTP states (table 8). -/
inductive PortState where
  | initializing
  | faulty
  | disabled
  | listening
  | preMaster
  | master
  | passive
  | uncalibrated
  | slave
  deriving DecidableEq, Repr

/-- Delay mechanisms (table 9). -/
inductive DelayMechanism where
  | e2e
  | p2p
  | delayDisabled
  deriving DecidableEq, Repr

/-- PTP timers. -/
inductive PtpTimer where
  | pdelayReqInterval
  | delayReqInterval
  | syncInterval
  | announceReceipt
  | announceInterval
  | qualificationTimeout
  deriving DecidableEq, Repr

/-- `DEFAULT_MAX_FOREIGN_RECORDS`. -/
def defaultMaxForeignRecords : Nat := 5

/-- `DEFAULT_DELAYREQ_INTERVAL`. -/
def defaultDelayReqInterval : Int8 := 3

/-- `DEFAULT_PDELAYREQ_INTERVAL`. -/
def defaultPDelayReqInterval : Int8 := 1

/-- `DEFAULT_ANNOUNCE_RECEIPT_TIMEOUT`. -/
def defaultAnnounceReceiptTimeout : UInt8 := 6

/-- `DEFAULT_TIME_SOURCE`, `INTERNAL_OSCILLATOR`. -/
def defaultTimeSource : UInt8 := 0xa0

/-- `VERSION_PTP`. -/
def versionPtp : UInt8 := 2

/-- `NUMBER_PORTS`. -/
def numberPorts : Int16 := 1

/-- `PACKET_SIZE`. -/
def packetSize : Nat := 300

/-! ### Derived data types -/

/-- `ClockIdentity`. -/
abbrev ClockIdentity := Vector UInt8 8

/-- `PortIdentity`. -/
structure PortIdentity where
  clockIdentity : ClockIdentity := Vector.replicate 8 0
  portNumber : Int16 := 0
  deriving DecidableEq, Repr

/-- `ClockQuality`. -/
structure ClockQuality where
  clockClass : UInt8 := 0
  clockAccuracy : UInt8 := 0
  offsetScaledLogVariance : Int16 := 0
  deriving DecidableEq, Repr

/-- `TimeInternal`. -/
structure TimeInternal where
  seconds : Int32 := 0
  nanoseconds : Int32 := 0
  deriving DecidableEq, Repr, Inhabited

/-- `Timestamp`; `secondsField` has 48 bits in two parts. -/
structure Timestamp where
  secondsMsb : UInt16 := 0
  secondsLsb : UInt32 := 0
  nanosecondsField : UInt32 := 0
  deriving DecidableEq, Repr, Inhabited

/-! ### Messages -/

/-- `MsgHeader`. -/
structure MsgHeader where
  transportSpecific : UInt8 := 0
  messageType : UInt8 := 0
  versionPTP : UInt8 := 0
  messageLength : Int16 := 0
  domainNumber : UInt8 := 0
  flagField0 : UInt8 := 0
  flagField1 : UInt8 := 0
  correctionfield : Int64 := 0
  sourcePortIdentity : PortIdentity := {}
  sequenceId : Int16 := 0
  controlField : UInt8 := 0
  logMessageInterval : Int8 := 0
  deriving DecidableEq, Repr, Inhabited

/-- `MsgAnnounce`. -/
structure MsgAnnounce where
  originTimestamp : Timestamp := {}
  currentUtcOffset : Int16 := 0
  grandmasterPriority1 : UInt8 := 0
  grandmasterClockQuality : ClockQuality := {}
  grandmasterPriority2 : UInt8 := 0
  grandmasterIdentity : ClockIdentity := Vector.replicate 8 0
  stepsRemoved : Int16 := 0
  timeSource : UInt8 := 0
  deriving DecidableEq, Repr, Inhabited

/-- `MsgDelayResp`, `MsgPDelayResp` and `MsgPDelayRespFollowUp`, which are alike. -/
structure MsgResp where
  timestamp : Timestamp := {}
  requestingPortIdentity : PortIdentity := {}
  deriving DecidableEq, Repr

/-! ### Data sets -/

/-- `DefaultDS`. -/
structure DefaultDS where
  twoStepFlag : Bool := false
  clockIdentity : ClockIdentity := Vector.replicate 8 0
  clockQuality : ClockQuality := {}
  priority1 : UInt8 := 0
  priority2 : UInt8 := 0
  domainNumber : UInt8 := 0
  slaveOnly : Bool := false
  deriving DecidableEq, Repr

/-- `CurrentDS`. -/
structure CurrentDS where
  stepsRemoved : Int16 := 0
  offsetFromMaster : TimeInternal := {}
  meanPathDelay : TimeInternal := {}
  deriving DecidableEq, Repr

/-- `ParentDS`, without the statistics, which are not compiled in. -/
structure ParentDS where
  parentPortIdentity : PortIdentity := {}
  grandmasterIdentity : ClockIdentity := Vector.replicate 8 0
  grandmasterClockQuality : ClockQuality := {}
  grandmasterPriority1 : UInt8 := 0
  grandmasterPriority2 : UInt8 := 0
  deriving DecidableEq, Repr

/-- `TimePropertiesDS`. -/
structure TimePropertiesDS where
  currentUtcOffset : Int16 := 0
  currentUtcOffsetValid : Bool := false
  leap59 : Bool := false
  leap61 : Bool := false
  timeTraceable : Bool := false
  frequencyTraceable : Bool := false
  ptpTimescale : Bool := false
  timeSource : UInt8 := 0
  deriving DecidableEq, Repr

/-- `PortDS`. -/
structure PortDS where
  portIdentity : PortIdentity := {}
  portState : PortState := .initializing
  logMinDelayReqInterval : Int8 := 0
  peerMeanPathDelay : TimeInternal := {}
  logAnnounceInterval : Int8 := 0
  announceReceiptTimeout : UInt8 := 0
  logSyncInterval : Int8 := 0
  delayMechanism : DelayMechanism := .delayDisabled
  logMinPdelayReqInterval : Int8 := 0
  versionNumber : UInt8 := 0
  deriving DecidableEq, Repr

/-- `ForeignMasterRecord`. -/
structure ForeignMasterRecord where
  foreignMasterPortIdentity : PortIdentity := {}
  foreignMasterAnnounceMessages : Int16 := 0
  announce : MsgAnnounce := {}
  header : MsgHeader := {}
  deriving DecidableEq, Repr, Inhabited

/-- `ForeignMasterDS`. -/
structure ForeignMasterDS where
  records : List ForeignMasterRecord := []
  count : Nat := 0
  capacity : Nat := 0
  i : Nat := 0
  best : Nat := 0
  deriving DecidableEq, Repr

/-- A record of the array. -/
def ForeignMasterDS.record (ds : ForeignMasterDS) (j : Nat) : ForeignMasterRecord :=
  ds.records.getD j default

/-- `Servo`. -/
structure Servo where
  noResetClock : Bool := false
  noAdjust : Bool := false
  ap : Int16 := 0
  ai : Int16 := 0
  sDelay : Int16 := 0
  sOffset : Int16 := 0
  deriving DecidableEq, Repr

/-- `Filter`. -/
structure Filter where
  yPrev : Int32 := 0
  ySum : Int32 := 0
  s : Int16 := 0
  sPrev : Int16 := 0
  n : Int32 := 0
  deriving DecidableEq, Repr

/-- `RunTimeOpts`. -/
structure RunTimeOpts where
  announceInterval : Int8 := 1
  syncInterval : Int8 := 0
  clockQuality : ClockQuality := ⟨248, 0xfe, 5000⟩
  priority1 : UInt8 := 248
  priority2 : UInt8 := 248
  domainNumber : UInt8 := 0
  slaveOnly : Bool := true
  currentUtcOffset : Int16 := 34
  inboundLatency : TimeInternal := {}
  outboundLatency : TimeInternal := {}
  maxForeignRecords : Nat := defaultMaxForeignRecords
  delayMechanism : DelayMechanism := .e2e
  servo : Servo := { ap := 2, ai := 16, sDelay := 6, sOffset := 1 }
  deriving DecidableEq, Repr

/-- The flags of `events` that the daemon uses. -/
structure Events where
  stateDecisionEvent : Bool := false
  synchronizationFault : Bool := false
  masterClockSelected : Bool := false
  masterClockChanged : Bool := false
  deriving DecidableEq, Repr

/-! ### The surroundings -/

/-- A timer made by `sys_timer_new` with `osTimerOnce`, and its flag in `ptpdTimersExpired`. It
fires once, so it no longer runs when its flag is set. -/
structure Timer where
  running : Bool := false
  expired : Bool := false
  interval : UInt32 := 0
  once : (running && expired) = false := by first | exact Eq.refl false | simp
  deriving DecidableEq, Repr

/-- A datagram as `_netRecv` hands it over: what it copied, and the time stamp of the pbuf. -/
structure Packet where
  payload : Bytes
  time : TimeInternal := {}
  deriving DecidableEq, Repr

/-- What the surroundings deliver while the state machine runs once. -/
structure PtpInput where
  /-- What `netRecvEvent` and `netRecvGeneral` find; an empty or oversized datagram is none. -/
  event : Option Packet := none
  general : Option Packet := none
  /-- Whether `netInit` succeeds, and the address of the interface. -/
  netInit : Bool := true
  hwaddr : Vector UInt8 6 := Vector.replicate 6 0
  /-- What `getTime` and `rand` give, one call after the other. -/
  times : List TimeInternal := []
  rands : List UInt32 := []
  /-- For each datagram to send the time stamp it goes out with, or `none` if it does not. -/
  sends : List (Option TimeInternal) := []
  /-- The timers that fire before the state machine asks for them. -/
  fires : PtpTimer → Bool := fun _ => false
  /-- What the local variables hold that `fromInternalTime` and `toInternalTime` leave alone. -/
  timestamp : Timestamp := {}
  internalTime : TimeInternal := {}

/-- Where a datagram is sent: the multicast address or that of peers, the event port or the
general one. -/
inductive Channel where
  | event
  | general
  | peerEvent
  | peerGeneral
  deriving DecidableEq, Repr

/-- A datagram handed to the network. -/
structure PtpSent where
  channel : Channel
  payload : Bytes
  deriving DecidableEq, Repr

/-- A call into the hardware clock. -/
inductive ClockCall where
  | setTime (time : TimeInternal)
  | adjFreq (adj : Int32)
  deriving DecidableEq, Repr

/-- What the daemon handled and computed. -/
inductive Note where
  /-- A message that passes the checks of `_handle`, with its receive time. -/
  | received (header : MsgHeader) (payload : Bytes) (time : TimeInternal)
  /-- A DelayReq or PDelayReq that was issued, and its egress time if the time stamp is valid. -/
  | request (mechanism : DelayMechanism) (sequenceId : Int16) (egress : Option TimeInternal)
  /-- A DelayResp that matches the DelayReq. -/
  | delayResp (header : MsgHeader) (payload : Bytes)
  /-- A PDelayResp that matches the PDelayReq, with its receive time. -/
  | pdelayResp (header : MsgHeader) (payload : Bytes) (time : TimeInternal)
  /-- A PDelayRespFollowUp that matches the PDelayReq. -/
  | pdelayRespFollowUp (header : MsgHeader) (payload : Bytes)
  /-- The arguments of a call of `updateOffset`. -/
  | offsetSample (syncEventIngress preciseOrigin correction : TimeInternal)
  /-- A sample of the path delay filter, and the times it is computed from. -/
  | delaySample (mechanism : DelayMechanism) (times : List TimeInternal)
  /-- `initClock` forgets the messages that are waited for. -/
  | cleared
  deriving DecidableEq, Repr

/-! ### The clock -/

/-- `PtpClock`, and what it did, newest first. -/
structure PtpClock where
  defaultDS : DefaultDS := {}
  currentDS : CurrentDS := {}
  parentDS : ParentDS := {}
  timePropertiesDS : TimePropertiesDS := {}
  portDS : PortDS := {}
  foreignMasterDS : ForeignMasterDS := {}
  msgObuf : Bytes := List.replicate packetSize 0
  tms : TimeInternal := {}
  tsm : TimeInternal := {}
  pdelayT1 : TimeInternal := {}
  pdelayT2 : TimeInternal := {}
  pdelayT3 : TimeInternal := {}
  pdelayT4 : TimeInternal := {}
  timestampSyncRecieve : TimeInternal := {}
  timestampDelayReqSend : TimeInternal := {}
  timestampDelayReqRecieve : TimeInternal := {}
  correctionFieldSync : TimeInternal := {}
  correctionFieldPDelayResp : TimeInternal := {}
  sentPDelayReqSequenceId : Int16 := 0
  sentDelayReqSequenceId : Int16 := 0
  sentSyncSequenceId : Int16 := 0
  sentAnnounceSequenceId : Int16 := 0
  recvSyncSequenceId : Int16 := 0
  waitingForFollowUp : Bool := false
  waitingForPDelayRespFollowUp : Bool := false
  ofmFilt : Filter := {}
  owdFilt : Filter := {}
  observedDrift : Int32 := 0
  recommendedState : PortState := .initializing
  portUuidField : Vector UInt8 6 := Vector.replicate 6 0
  inboundLatency : TimeInternal := {}
  outboundLatency : TimeInternal := {}
  servo : Servo := {}
  events : Events := {}
  rtOpts : RunTimeOpts := {}
  timers : PtpTimer → Timer := fun _ => {}
  input : PtpInput := {}
  /-- The states left and entered by `toState`. -/
  moves : List (PortState × PortState) := []
  sent : List PtpSent := []
  clockCalls : List ClockCall := []
  notes : List Note := []

/-- `isSamePortIdentity`. -/
def isSamePortIdentity (a b : PortIdentity) : Bool :=
  a.clockIdentity = b.clockIdentity && a.portNumber = b.portNumber

@[simp] theorem isSamePortIdentity_iff {a b : PortIdentity} :
    isSamePortIdentity a b = true ↔ a = b := by
  cases a
  cases b
  simp [isSamePortIdentity]

end LwipExt.Ptp
