import LwipExt.Ptp.Datatypes

/-!
Packing and unpacking of PTP messages (`dep/ptpMsg.c`). Numbers are big-endian on the wire.

A packer writes over the buffer of the last message, and leaves what it does not write.
-/

namespace LwipExt.Ptp

/-! ### Kinds of messages -/

/-- The messages of table 19. -/
inductive MsgType where
  | sync
  | delayReq
  | pdelayReq
  | pdelayResp
  | followUp
  | delayResp
  | pdelayRespFollowUp
  | announce
  | signaling
  | management
  deriving DecidableEq, Repr

/-- The number of a message type. -/
def MsgType.code : MsgType → UInt8
  | .sync => 0x0
  | .delayReq => 0x1
  | .pdelayReq => 0x2
  | .pdelayResp => 0x3
  | .followUp => 0x8
  | .delayResp => 0x9
  | .pdelayRespFollowUp => 0xa
  | .announce => 0xb
  | .signaling => 0xc
  | .management => 0xd

/-- The type with a number. -/
def MsgType.ofCode (code : UInt8) : Option MsgType :=
  [.sync, .delayReq, .pdelayReq, .pdelayResp, .followUp, .delayResp, .pdelayRespFollowUp,
    .announce, .signaling, .management].find? fun type => type.code = code

/-- `HEADER_LENGTH`. -/
def headerLength : Nat := 34

/-- The lengths of the messages, as the handlers ask for them and the packers write them. -/
def MsgType.length : MsgType → Nat
  | .announce => 64
  | .sync | .followUp | .delayReq => 44
  | .pdelayReq | .delayResp | .pdelayResp | .pdelayRespFollowUp => 54
  | .management => 48
  | .signaling => headerLength

/-- The control fields of table 23. -/
def MsgType.control : MsgType → UInt8
  | .sync => 0
  | .delayReq => 1
  | .followUp => 2
  | .delayResp => 3
  | .management => 4
  | .pdelayReq | .pdelayResp | .pdelayRespFollowUp | .announce | .signaling => 5

/-- `FLAG0_TWO_STEP`. -/
def flag0TwoStep : UInt8 := 0x02

/-- `getFlag`. -/
def getFlag (flagField mask : UInt8) : Bool := flagField &&& mask = mask

/-! ### Numbers on the wire -/

/-- The bytes of a 16-bit number behind `flip16`. -/
def be16 (n : UInt16) : Bytes := [(n >>> 8).toUInt8, n.toUInt8]

/-- The bytes of a 32-bit number behind `flip32`. -/
def be32 (n : UInt32) : Bytes :=
  [(n >>> 24).toUInt8, (n >>> 16).toUInt8, (n >>> 8).toUInt8, n.toUInt8]

/-- A 16-bit number of the buffer. -/
def be16At (buf : Bytes) (off : Nat) : UInt16 :=
  (buf.getD off 0).toUInt16 <<< 8 ||| (buf.getD (off + 1) 0).toUInt16

/-- A 32-bit number of the buffer. -/
def be32At (buf : Bytes) (off : Nat) : UInt32 :=
  (buf.getD off 0).toUInt32 <<< 24 ||| (buf.getD (off + 1) 0).toUInt32 <<< 16 |||
    (buf.getD (off + 2) 0).toUInt32 <<< 8 ||| (buf.getD (off + 3) 0).toUInt32

/-- A clock identity in the buffer. -/
def clockIdentityAt (buf : Bytes) (off : Nat) : ClockIdentity :=
  Vector.ofFn fun i => buf.getD (off + i) 0

/-- A port identity in the buffer. -/
def portIdentityAt (buf : Bytes) (off : Nat) : PortIdentity :=
  ⟨clockIdentityAt buf off, (be16At buf (off + 8)).toInt16⟩

/-- A time stamp in the buffer. -/
def timestampAt (buf : Bytes) (off : Nat) : Timestamp :=
  ⟨be16At buf off, be32At buf (off + 2), be32At buf (off + 6)⟩

/-- The bytes of a time stamp. -/
def timestampBytes (t : Timestamp) : Bytes :=
  be16 t.secondsMsb ++ be32 t.secondsLsb ++ be32 t.nanosecondsField

/-- The bytes of a port identity. -/
def portIdentityBytes (p : PortIdentity) : Bytes :=
  p.clockIdentity.toList ++ be16 p.portNumber.toUInt16

/-- The two words of a correction field. -/
def correctionBytes (correctionfield : Int64) : Bytes :=
  be32 (correctionfield >>> 32).toUInt64.toUInt32 ++ be32 correctionfield.toUInt64.toUInt32

/-! ### Unpacking -/

/-- `msgUnpackHeader`. -/
def msgUnpackHeader (buf : Bytes) : MsgHeader where
  transportSpecific := buf.getD 0 0 >>> 4
  messageType := buf.getD 0 0 &&& 0x0f
  versionPTP := buf.getD 1 0 &&& 0x0f
  messageLength := (be16At buf 2).toInt16
  domainNumber := buf.getD 4 0
  flagField0 := buf.getD 6 0
  flagField1 := buf.getD 7 0
  correctionfield :=
    ((be32At buf 8).toUInt64.toInt64 <<< 32) + (be32At buf 12).toUInt64.toInt64
  sourcePortIdentity := portIdentityAt buf 20
  sequenceId := (be16At buf 30).toInt16
  controlField := buf.getD 32 0
  logMessageInterval := (buf.getD 33 0).toInt8

/-- `msgUnpackAnnounce`. -/
def msgUnpackAnnounce (buf : Bytes) : MsgAnnounce where
  originTimestamp := timestampAt buf 34
  currentUtcOffset := (be16At buf 44).toInt16
  grandmasterPriority1 := buf.getD 47 0
  grandmasterClockQuality :=
    ⟨buf.getD 48 0, buf.getD 49 0, (be16At buf 50).toInt16⟩
  grandmasterPriority2 := buf.getD 52 0
  grandmasterIdentity := clockIdentityAt buf 53
  stepsRemoved := (be16At buf 61).toInt16
  timeSource := buf.getD 63 0

/-- `msgUnpackSync`, `msgUnpackFollowUp`, `msgUnpackDelayReq` and `msgUnpackPDelayReq`: their
messages have a time stamp only. -/
def msgUnpackSync (buf : Bytes) : Timestamp := timestampAt buf 34

/-- `msgUnpackDelayResp`, `msgUnpackPDelayResp` and `msgUnpackPDelayRespFollowUp`. -/
def msgUnpackDelayResp (buf : Bytes) : MsgResp := ⟨timestampAt buf 34, portIdentityAt buf 44⟩

/-! ### Packing -/

/-- `msgPackHeader`. -/
def msgPackHeader (c : PtpClock) (buf : Bytes) : Bytes :=
  let buf := bufWrite buf 0 [0x80]
  let buf := bufWrite buf 1 [c.portDS.versionNumber]
  let buf := bufWrite buf 4 [c.defaultDS.domainNumber]
  let buf := if c.defaultDS.twoStepFlag then bufWrite buf 6 [flag0TwoStep] else buf
  let buf := bufWrite buf 8 (List.replicate 8 0)
  let buf := bufWrite buf 20 c.portDS.portIdentity.clockIdentity.toList
  let buf := bufWrite buf 28 (be16 c.portDS.portIdentity.portNumber.toUInt16)
  bufWrite buf 33 [0x7f]

/-- The changes in the header that every packer makes: type, length, sequence number, control
field and interval. -/
def packHeader (type : MsgType) (sequenceId : Int16) (logMessageInterval : Int8) (buf : Bytes) :
    Bytes :=
  let buf := bufWrite buf 0 [buf.getD 0 0 &&& 0xf0]
  let buf := bufWrite buf 0 [buf.getD 0 0 ||| type.code]
  let buf := bufWrite buf 2 (be16 (UInt16.ofNat type.length))
  let buf := bufWrite buf 30 (be16 sequenceId.toUInt16)
  let buf := bufWrite buf 32 [type.control]
  bufWrite buf 33 [logMessageInterval.toUInt8]

/-- `memset` of the correction field. -/
def clearCorrection (buf : Bytes) : Bytes := bufWrite buf 8 (List.replicate 8 0)

/-- `msgPackAnnounce`. -/
def msgPackAnnounce (c : PtpClock) (buf : Bytes) : Bytes :=
  let buf := packHeader .announce c.sentAnnounceSequenceId c.portDS.logAnnounceInterval buf
  let buf := bufWrite buf 34 (List.replicate 10 0)
  let buf := bufWrite buf 44 (be16 c.timePropertiesDS.currentUtcOffset.toUInt16)
  let buf := bufWrite buf 47 [c.parentDS.grandmasterPriority1]
  let buf := bufWrite buf 48 [c.defaultDS.clockQuality.clockClass]
  let buf := bufWrite buf 49 [c.defaultDS.clockQuality.clockAccuracy]
  let buf := bufWrite buf 50 (be16 c.defaultDS.clockQuality.offsetScaledLogVariance.toUInt16)
  let buf := bufWrite buf 52 [c.parentDS.grandmasterPriority2]
  let buf := bufWrite buf 53 c.parentDS.grandmasterIdentity.toList
  let buf := bufWrite buf 61 (be16 c.currentDS.stepsRemoved.toUInt16)
  bufWrite buf 63 [c.timePropertiesDS.timeSource]

/-- `msgPackSync`. -/
def msgPackSync (c : PtpClock) (buf : Bytes) (originTimestamp : Timestamp) : Bytes :=
  let buf := packHeader .sync c.sentSyncSequenceId c.portDS.logSyncInterval buf
  bufWrite (clearCorrection buf) 34 (timestampBytes originTimestamp)

/-- `msgPackDelayReq`. -/
def msgPackDelayReq (c : PtpClock) (buf : Bytes) (originTimestamp : Timestamp) : Bytes :=
  let buf := packHeader .delayReq c.sentDelayReqSequenceId 0x7f buf
  bufWrite (clearCorrection buf) 34 (timestampBytes originTimestamp)

/-- `msgPackFollowUp`; the sequence number has already been incremented. -/
def msgPackFollowUp (c : PtpClock) (buf : Bytes) (preciseOriginTimestamp : Timestamp) : Bytes :=
  let buf := packHeader .followUp (c.sentSyncSequenceId - 1) c.portDS.logSyncInterval buf
  bufWrite buf 34 (timestampBytes preciseOriginTimestamp)

/-- `msgPackDelayResp`. -/
def msgPackDelayResp (c : PtpClock) (buf : Bytes) (header : MsgHeader)
    (receiveTimestamp : Timestamp) : Bytes :=
  let buf := packHeader .delayResp header.sequenceId c.portDS.logMinDelayReqInterval buf
  let buf := bufWrite (clearCorrection buf) 8 (correctionBytes header.correctionfield)
  let buf := bufWrite buf 34 (timestampBytes receiveTimestamp)
  bufWrite buf 44 (portIdentityBytes header.sourcePortIdentity)

/-- `msgPackPDelayReq`. -/
def msgPackPDelayReq (c : PtpClock) (buf : Bytes) (originTimestamp : Timestamp) : Bytes :=
  let buf := packHeader .pdelayReq c.sentPDelayReqSequenceId 0x7f buf
  let buf := bufWrite (clearCorrection buf) 34 (timestampBytes originTimestamp)
  bufWrite buf 44 (List.replicate 10 0)

/-- `msgPackPDelayResp`. -/
def msgPackPDelayResp (buf : Bytes) (header : MsgHeader) (requestReceiptTimestamp : Timestamp) :
    Bytes :=
  let buf := packHeader .pdelayResp header.sequenceId 0x7f buf
  let buf := bufWrite (clearCorrection buf) 34 (timestampBytes requestReceiptTimestamp)
  bufWrite buf 44 (portIdentityBytes header.sourcePortIdentity)

/-- `msgPackPDelayRespFollowUp`. -/
def msgPackPDelayRespFollowUp (buf : Bytes) (header : MsgHeader)
    (responseOriginTimestamp : Timestamp) : Bytes :=
  let buf := packHeader .pdelayRespFollowUp header.sequenceId 0x7f buf
  let buf := bufWrite buf 8 (correctionBytes header.correctionfield)
  let buf := bufWrite buf 34 (timestampBytes responseOriginTimestamp)
  bufWrite buf 44 (portIdentityBytes header.sourcePortIdentity)

end LwipExt.Ptp
