import LwipExt.Cmn.SysConfig
import LwipExt.Firmware
import LwipExt.Http.Conn

/-!
The TFTP server `others/tftpServer.c` and its callbacks of `cmn/extUploadFile.c`, ARM
build.

There is one `tftp_state` for all peers. The block number of a DATA packet is read only
to be acknowledged: whatever payload arrives is written.
-/

namespace LwipExt.Tftp

open Http (Pbuf totLen pbufCopyPartial)

/-! ### State -/

/-- A datagram given to `udp_sendto`. -/
structure Sent where
  addr : UInt32
  port : UInt16
  payload : Bytes
  deriving DecidableEq, Repr

/-- `tftp_state`, with the pending timeouts of `_tftpTmr`, the firmware store, whether the
coming `pbuf_alloc` succeed (they do when the list has run out), and what was sent. The
handle is the context or `NULL`. -/
structure TftpState where
  handle : Bool := false
  lastData : Option Bytes := none
  addr : UInt32 := 0
  port : UInt16 := 0
  timer : Nat := 0
  lastPkt : Nat := 0
  blknum : UInt16 := 0
  retries : UInt8 := 0
  modeWrite : Bool := false
  timeouts : Nat := 0
  firmware : Firmware := {}
  pbufAllocs : List Bool := []
  sent : List Sent := []
  deriving DecidableEq, Repr

/-- `TFTP_MAX_PAYLOAD_SIZE`. -/
def tftpMaxPayloadSize : Nat := 512

/-- `TFTP_HEADER_LENGTH`. -/
def tftpHeaderLength : Nat := 4

/-- `TFTP_MAX_RETRIES`. -/
def tftpMaxRetries : UInt8 := 5

/-- `TFTP_TIMEOUT_MSECS / TFTP_TIMER_MSECS`. -/
def tftpTimeoutTicks : Nat := 10000 / 50

/-- `TFTP_MAX_FILENAME_LEN`. -/
def tftpMaxFilenameLen : Nat := 20

/-- `TFTP_MAX_MODE_LEN`. -/
def tftpMaxModeLen : Nat := 10

/-- The opcodes, as the bytes of a packet. -/
inductive Opcode where
  | rrq
  | wrq
  | data
  | ack
  | error
  deriving DecidableEq, Repr

/-- The bytes of an opcode. -/
def Opcode.code : Opcode → Bytes
  | .rrq => [0, 1]
  | .wrq => [0, 2]
  | .data => [0, 3]
  | .ack => [0, 4]
  | .error => [0, 5]

/-- `enum tftp_error`, as far as it is sent. -/
inductive TftpError where
  | fileNotFound
  | accessViolation
  | illegalOperation
  | unknownTrfrId
  deriving DecidableEq, Repr

/-- The bytes of an error code. -/
def TftpError.code : TftpError → Bytes
  | .fileNotFound => [0, 1]
  | .accessViolation => [0, 2]
  | .illegalOperation => [0, 4]
  | .unknownTrfrId => [0, 5]

/-- `lwip_htons` of a block number. -/
def blockBytes (n : UInt16) : Bytes := [(n >>> 8).toUInt8, n.toUInt8]

/-! ### The callbacks of `extUploadFile.c` -/

/-- `EXT_TFTP_IMAGE_OS_NAME`. -/
def imageOsName : Bytes := str "firmOs"

/-- `EXT_TFTP_IMAGE_FPGA_NAME`. -/
def imageFpgaName : Bytes := str "firmFpga"

/-- `_extTftpOpen`. It does not fail on the ARM build. -/
def extTftpOpen (fw : Firmware) (fname : Bytes) : Firmware :=
  firmwareUpdateInit fw (if isStringEqual fname imageOsName then .rtos else .fpga)

/-- `_extTftpClose`. -/
def extTftpClose (fw : Firmware) : Firmware := firmwareUpdateEnd fw

/-- `_extTftpRead`: -1 on the ARM build. -/
def extTftpRead (_bytes : Nat) : Option Bytes := none

/-- `_extTftpWrite`: the pbufs of the chain, until the flash refuses one. -/
def extTftpWrite (fw : Firmware) : Pbuf → Firmware × Bool
  | [] => (fw, true)
  | payload :: p =>
      match bspSpiFlashWrite fw payload with
      | (fw, false) => (fw, false)
      | (fw, true) => extTftpWrite { fw with size := fw.size + payload.length } p

/-! ### Sending -/

/-- `pbuf_alloc`, then `udp_sendto` if there was a pbuf. -/
def TftpState.send (s : TftpState) (addr : UInt32) (port : UInt16) (payload : Bytes) : TftpState :=
  let allocated := s.pbufAllocs.headD true
  let s := { s with pbufAllocs := s.pbufAllocs.tail }
  if allocated then { s with sent := s.sent ++ [⟨addr, port, payload⟩] } else s

/-- `_tftpCloseHandle`. Closing the handle records the update, whatever was the reason. -/
def tftpCloseHandle (s : TftpState) : TftpState :=
  let s := { s with port := 0, addr := 0, lastData := none, timeouts := s.timeouts - 1 }
  if s.handle then { s with firmware := extTftpClose s.firmware, handle := false } else s

/-- `_tftpSendError`. -/
def tftpSendError (s : TftpState) (addr : UInt32) (port : UInt16) (code : TftpError)
    (text : Bytes) : TftpState :=
  s.send addr port (Opcode.error.code ++ code.code ++ text ++ [0])

/-- `_tftpSendAck`. -/
def tftpSendAck (s : TftpState) (blknum : UInt16) : TftpState :=
  s.send s.addr s.port (Opcode.ack.code ++ blockBytes blknum)

/-- `_tftpResendData`. -/
def tftpResendData (s : TftpState) : TftpState := s.send s.addr s.port (s.lastData.getD [])

/-- `_tftpSendData`. -/
def tftpSendData (s : TftpState) : TftpState :=
  let allocated := s.pbufAllocs.headD true
  let s := { s with pbufAllocs := s.pbufAllocs.tail }
  if ¬ allocated then { s with lastData := none }
  else
    match extTftpRead tftpMaxPayloadSize with
    | none =>
        tftpCloseHandle (tftpSendError s s.addr s.port .accessViolation
          (str "Error occured while reading the file."))
    | some content =>
        tftpResendData { s with lastData := some (Opcode.data.code ++ blockBytes s.blknum ++ content) }

/-! ### The timer -/

/-- `_tftpTmr`. -/
def tftpTmr (s : TftpState) : TftpState :=
  let s := { s with timer := s.timer + 1 }
  if ¬ s.handle then s
  else
    let s := { s with timeouts := s.timeouts + 1 }
    if s.timer - s.lastPkt > tftpTimeoutTicks then
      if s.lastData.isSome ∧ s.retries < tftpMaxRetries then
        let s := tftpResendData s
        { s with retries := s.retries + 1 }
      else tftpCloseHandle s
    else s

/-- A timeout of `_tftpTmr` expires, if one is pending. -/
def tftpTick (s : TftpState) : TftpState :=
  if s.timeouts = 0 then s else tftpTmr { s with timeouts := s.timeouts - 1 }

/-! ### Receiving -/

/-- `pbuf_memfind` of a NUL. -/
def pbufFindNul (p : Pbuf) (start : Nat) : Nat :=
  let found := start + (p.flatten.drop start).findIdx (· = 0)
  if found < totLen p then found else 0xffff

/-- A byte of the header, read from the first pbuf. -/
def headerByte (p : Pbuf) (i : Nat) : UInt8 := (p.headD []).getD i 0

/-- `sbuf[0]`. -/
def opcodeOf (p : Pbuf) : Bytes := [headerByte p 0, headerByte p 1]

/-- `lwip_ntohs(sbuf[1])`. -/
def blknumOf (p : Pbuf) : UInt16 := (headerByte p 2).toUInt16 <<< 8 ||| (headerByte p 3).toUInt16

/-- `pbuf_header` by `-TFTP_HEADER_LENGTH`, which a first pbuf without a whole header
refuses. -/
def dataPayload : Pbuf → Pbuf
  | [] => []
  | payload :: p =>
      if tftpHeaderLength ≤ payload.length then payload.drop tftpHeaderLength :: p else payload :: p

/-- The packet comes from another peer than the one of the transfer. -/
def otherPeer (s : TftpState) (addr : UInt32) (port : UInt16) : Prop :=
  (s.port ≠ 0 ∧ port ≠ s.port) ∨ (s.addr ≠ 0 ∧ s.addr ≠ addr)

instance (s : TftpState) (addr : UInt32) (port : UInt16) : Decidable (otherPeer s addr port) :=
  inferInstanceAs (Decidable (_ ∨ _))

/-- `TFTP_RRQ` and `TFTP_WRQ`. -/
def recvRequest (board : Board) (s : TftpState) (p : Pbuf) (addr : UInt32) (port : UInt16)
    (isWrite : Bool) : TftpState :=
  let refuse (s : TftpState) (text : Bytes) := tftpSendError s addr port .accessViolation text
  if s.handle then refuse s (str "Only one connection at a time is supported")
  else
    -- The timeout is started before the request is looked at.
    let s := { s with timeouts := s.timeouts + 1 }
    let filenameEnd := pbufFindNul p 2
    if sub16 filenameEnd 2 > tftpMaxFilenameLen then
      refuse s (str "Filename too long/not NULL terminated")
    else
      let filename := pbufCopyPartial p (filenameEnd - 2) 2
      let modeEnd := pbufFindNul p (filenameEnd + 1)
      if sub16 modeEnd filenameEnd > tftpMaxModeLen then
        refuse s (str "Mode too long/not NULL terminated")
      else if board = .extt ∧ ¬ isStringEqual filename imageOsName ∧
          ¬ isStringEqual filename imageFpgaName then
        refuse s (str "Only '" ++ imageOsName ++ str "' or '" ++ imageFpgaName ++
          str "' can be put or get")
      else
        let s := { s with
          handle := true
          firmware := extTftpOpen s.firmware filename
          blknum := 1
          addr := addr
          port := port }
        if isWrite then tftpSendAck { s with modeWrite := true } 0
        else tftpSendData { s with modeWrite := false }

/-- `TFTP_DATA`. -/
def recvData (s : TftpState) (p : Pbuf) (addr : UInt32) (port : UInt16) : TftpState :=
  if ¬ s.handle then tftpSendError s addr port .accessViolation (str "No connection")
  else if ¬ s.modeWrite then
    tftpSendError s addr port .accessViolation (str "Not a write connection")
  else
    let blknum := blknumOf p
    let p := dataPayload p
    let (firmware, ok) := extTftpWrite s.firmware p
    let s := { s with firmware := firmware }
    let s :=
      if ¬ ok then
        tftpCloseHandle (tftpSendError s addr port .accessViolation (str "error writing file"))
      else tftpSendAck s blknum
    if totLen p < tftpMaxPayloadSize then tftpCloseHandle s else s

/-- `TFTP_ACK`. -/
def recvAck (s : TftpState) (p : Pbuf) (addr : UInt32) (port : UInt16) : TftpState :=
  if ¬ s.handle then tftpSendError s addr port .accessViolation (str "No connection")
  else if s.modeWrite then
    tftpSendError s addr port .accessViolation (str "Not a read connection")
  else if blknumOf p ≠ s.blknum then
    tftpSendError s addr port .unknownTrfrId (str "Wrong block number")
  else if s.lastData.any fun data => data.length ≠ tftpMaxPayloadSize + tftpHeaderLength then
    tftpCloseHandle s
  else tftpSendData { s with blknum := s.blknum + 1 }

/-- `_tftpRecv`. -/
def tftpRecv (board : Board) (s : TftpState) (p : Pbuf) (addr : UInt32) (port : UInt16) :
    TftpState :=
  if otherPeer s addr port then
    tftpSendError s addr port .accessViolation (str "Only one connection at a time is supported")
  else
    let s := { s with lastPkt := s.timer, retries := 0 }
    if opcodeOf p = Opcode.rrq.code then recvRequest board s p addr port false
    else if opcodeOf p = Opcode.wrq.code then recvRequest board s p addr port true
    else if opcodeOf p = Opcode.data.code then recvData s p addr port
    else if opcodeOf p = Opcode.ack.code then recvAck s p addr port
    else tftpSendError s addr port .illegalOperation (str "Unknown operation")

/-! ### Events -/

/-- What happens to the server. -/
inductive TftpEvent where
  | recv (p : Pbuf) (addr : UInt32) (port : UInt16)
  | tick
  deriving DecidableEq, Repr

/-- One event. -/
def TftpState.step (board : Board) (s : TftpState) : TftpEvent → TftpState
  | .recv p addr port => tftpRecv board s p addr port
  | .tick => tftpTick s

end LwipExt.Tftp
