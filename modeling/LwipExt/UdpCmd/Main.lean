import LwipExt.UdpCmd.Setup

/-!
The commands of the agent and its entry: `send_data_rs232` and `security_check`
(`udpCmd/extUdpCmdExecs.c`), the command table (`udpCmd/extUdpCmdResponses.c`) and the
handler of a datagram (`udpCmd/extUdpCmdMain.c`).
-/

namespace LwipExt.UdpCmd

/-- The loop of `_rs232SendHexStr`: what is written before a pair fails. -/
def rs232HexBytes : (left : Nat) → Bytes → List HwOp × Bool
  | 0, _ => ([], true)
  | left + 1, text =>
      match extSysAtoInt8 text with
      | (_, false) => ([], false)
      | (value, true) =>
          let (ops, ok) := rs232HexBytes left (text.drop 2)
          (.rs232Write value :: ops, ok)

/-- `_rs232SendHexStr`. The last of an odd number of characters is left out. -/
def rs232SendHexStr (text : Bytes) : List HwOp × Bool :=
  rs232HexBytes ((cstr text).length / 2) (cstr text)

/-- `parseFailed` of the command handlers. -/
def parseFailed (parser : ExtJsonParser) (text : Bytes) : ExtJsonParser × Bool :=
  ({ parser with toRequest := (parser.say text).withStatus .parseParamError }, false)

/-- The message for a parameter that is missing. -/
def noParameter (key : Bytes) : Bytes :=
  str "No " ++ quoted key ++ str " is found or it is invalidate value"

/-- `extUdpCmdSendRsData`. -/
def extUdpCmdSendRsData (parser : ExtJsonParser) : ExtJsonParser × Bool :=
  let (rq, islocal) := extUdpCmdIsLocal parser.runCfg parser.toRequest
  let parser := { parser with toRequest := rq }
  if ¬ islocal then (parser, false)
  else
    let (r, found) := extJsonParseDataArray parser.json parser.report
    let parser := { parser with report := r }
    if ¬ found then parseFailed parser (str "No 'Data' array is found")
    else
      let (r, hex) := extJsonParseString parser.json (str "hexdata") 128 parser.report
      let parser := { parser with report := r }
      match hex with
      | none => parseFailed parser (noParameter (str "hexdata"))
      | some hex =>
          let parser := { parser with setupData := { parser.setupData with hexData := hex } }
          let (r, wait) := extJsonParseUnsignedShort parser.json (str "waitTime") parser.report
          let parser := { parser with report := r }
          match wait with
          | none => parseFailed parser (noParameter (str "waitTime"))
          | some wait =>
              let parser := { parser with setupData := { parser.setupData with waitMs := wait } }
              let (r, feedback) :=
                extJsonParseUnsignedChar parser.json (str "isFeedback") parser.report
              let parser := { parser with report := r }
              match feedback with
              | none => parseFailed parser (noParameter (str "isFeedback"))
              | some feedback =>
                  let parser := { parser with
                    setupData := { parser.setupData with isFeedBack := feedback } }
                  let (ops, ok) := rs232SendHexStr hex
                  let parser := { parser with ops := parser.ops ++ ops }
                  if ¬ ok then
                    parseFailed parser (quoted hex ++ str " is not validate when sent to RS232")
                  else
                    (extUdpCmdResponseReply { parser with toRequest := parser.withStatus .ok }, true)

/-- `_securityCheckId`. -/
def securityCheckId (parser : ExtJsonParser) : ExtJsonParser :=
  let parser := { parser with
    toRequest := parser.withStatus .ok
    setupData := { parser.setupData with scID := scIdText } }
  extUdpCmdResponseTailCalculate <| printBody (extUdpCmdResponseHeaderPrint parser)
    [str "," ++ jsonKey (str "data") ++ str "[\x7b",
      jsonString (str "get_id") ((bufRead parser.setupData.scID 0 8).flatMap (hexByte 65)),
      str "\x7d]"]

/-- A sub-command is looked for under its key; its value goes to `scKey`. -/
def securitySubCommand (parser : ExtJsonParser) (key : Bytes) : ExtJsonParser × Bool :=
  match extJsonParseString parser.json key 32 parser.report with
  | (r, some value) =>
      ({ parser with report := r, setupData := { parser.setupData with scKey := value } }, true)
  | (r, none) => ({ parser with report := r }, false)

/-- The sub-command of `extUdpCmdSecurityCheck`. -/
def securityCommand (parser : ExtJsonParser) : ExtJsonParser × Bool :=
  let (r, found) := extJsonParseDataArray parser.json parser.report
  let parser := { parser with report := r }
  if ¬ found then parseFailed parser (str "No 'Data' array is found")
  else
    match securitySubCommand parser (str "set_key") with
    | (parser, true) =>
        (extUdpCmdResponseReply { parser with toRequest := parser.withStatus .ok }, true)
    | (parser, false) =>
        match securitySubCommand parser (str "get_status") with
        | (parser, true) =>
            (extUdpCmdResponseReply { parser with toRequest := parser.withStatus .ok }, true)
        | (parser, false) =>
            match securitySubCommand parser (str "get_id") with
            | (parser, true) => (securityCheckId parser, true)
            | (parser, false) =>
                parseFailed parser (str "No validate sub-command is found for " ++
                  quoted (str "security_check"))

/-- `extUdpCmdSecurityCheck`. The media data go out before anything is checked. -/
def extUdpCmdSecurityCheck (parser : ExtJsonParser) : ExtJsonParser × Bool :=
  let parser := extUdpCmdSendMediaData parser
  let (rq, islocal) := extUdpCmdIsLocal parser.runCfg parser.toRequest
  let parser := { parser with toRequest := rq }
  if ¬ islocal then (parser, false) else securityCommand parser

/-- `_extUdpCmdGetParams`. -/
def extUdpCmdGetParams (parser : ExtJsonParser) : ExtJsonParser × Bool :=
  let (rq, valid) := extJsonUserValidate parser.runCfg parser.toRequest
  let parser := { parser with toRequest := rq }
  if ¬ valid then (parser, false)
  else if parser.target ≠ parser.runCfg.localCfg.mac ∧ ¬ macAddrIsBoardcast parser.target ∧
      parser.target ≠ parser.runCfg.dest.mac then
    ({ parser with toRequest := parser.say (str "'targ' is not boardcast or local address") },
      false)
  else (extJsonResponsePrintConfig parser, true)

/-- The entries of `_extUdpCmdTable`. -/
inductive IpCommand where
  | getParams
  | setParams
  | sendRs232
  | securityCheck
  deriving DecidableEq, Repr

/-- Name of a command. -/
def IpCommand.cmd : IpCommand → Bytes
  | .getParams => str "get_param"
  | .setParams => str "set_param"
  | .sendRs232 => str "send_data_rs232"
  | .securityCheck => str "security_check"

/-- Handler of a command. -/
def IpCommand.handler : IpCommand → ExtJsonParser → ExtJsonParser × Bool
  | .getParams => extUdpCmdGetParams
  | .setParams => extUdpCmdSetupParams
  | .sendRs232 => extUdpCmdSendRsData
  | .securityCheck => extUdpCmdSecurityCheck

/-- The first entry of `_extUdpCmdTable` whose name starts the text, without case. -/
def ipCommandOf (cmd : Bytes) : Option IpCommand :=
  [IpCommand.getParams, .setParams, .sendRs232, .securityCheck].find? fun entry =>
    entry.cmd.isPrefixOf ((cstr cmd).map toLower)

/-- `extJsonHandle`. -/
def extJsonHandle (parser : ExtJsonParser) : ExtJsonParser × Bool :=
  match ipCommandOf parser.cmd with
  | some entry =>
      let (parser, ok) := entry.handler parser
      if ok then (parser, true)
      else ({ parser with toRequest := parser.withStatus .parseParamError }, false)
  | none =>
      parseFailed parser (str "No command " ++ quoted (cstr parser.cmd) ++ str " is found!")

/-- `ntohs` of the length field, in place. -/
def swapLength (mem : Bytes) : Bytes :=
  bufWrite mem 2 [mem.getD 3 0, mem.getD 2 0]

/-- Four bytes of memory as an `unsigned int`. -/
def uint32At (mem : Bytes) (off : Nat) : UInt32 :=
  (mem.getD off 0).toUInt32 ||| (mem.getD (off + 1) 0).toUInt32 <<< 8 |||
    (mem.getD (off + 2) 0).toUInt32 <<< 16 ||| (mem.getD (off + 3) 0).toUInt32 <<< 24

/-- `ipCmd->length`, in host order. -/
def lengthOf (data : Bytes) : Nat := (data.getD 2 0).toNat * 256 + (data.getD 3 0).toNat

/-- `crcReceived`, read where the length field says. -/
def crcReceived (data : Bytes) : UInt32 := uint32At (swapLength data) (lengthOf data)

/-- `crcDecoded`. A length below that of the header makes it the CRC of nothing. -/
def crcDecoded (data : Bytes) : UInt32 :=
  htonl (cmnMuxCRC32b false
    (bufRead data ipcmdHeaderLength (lengthOf data - ipcmdHeaderLength)))

/-- What `extUdpCmdPaserHandler` does before the command is run: the request, and whether
the tag, the CRC, the text, the target and the command field are in order. -/
def checkDatagram (data : Bytes) (rq : Request) (size : Nat) : Request × Bool :=
  if tagOf data ≠ cmdTagRequest then
    ((rq.say (str "Tag of command is wrong:0x" ++ hexadecimal (tagOf data).toNat)).withStatus
      .tagError, false)
  else if crcReceived data ≠ crcDecoded data then
    ((rq.say (str "CRC of command is wrong:received CRC: 0x" ++
      hexadecimal (crcReceived data).toNat ++ str ", Decoded CRC:0x" ++
      hexadecimal (crcDecoded data).toNat)).withStatus .crcError, false)
  else
    extJsonRequestParseCommand { rq with report := { rq.report with msg := [] } }
      ((swapLength data).drop ipcmdHeaderLength) (sub16 size (ipcmdHeaderLength * 2))

/-- `extUdpCmdPaserHandler` on the memory of `bufRead`. Whatever fails is answered. -/
def extUdpCmdPaserHandler (parser : ExtJsonParser) (size : Nat) : ExtJsonParser :=
  let data := parser.bufRead
  let (rq, ok) := checkDatagram data parser.toRequest size
  -- `extJsonInit` clears `outIndex`; a reply sets it in any case.
  let parser := { parser with toRequest := rq, bufRead := swapLength data, outIndex := 0 }
  if ¬ ok then extUdpCmdResponseReply parser
  else
    let (parser, ok) := extJsonHandle parser
    if ok then parser else extUdpCmdResponseReply parser

/-- The size that `_rawUdpEchoRecv` copies. -/
def receivedSize (p : Bytes) : Nat := min p.length extRwBufferSize

/-- `bufRead` after `pbuf_copy_partial`. -/
def receivedBuffer (bufRead p : Bytes) : Bytes := bufWrite bufRead 0 (p.take (receivedSize p))

/-- `_rawUdpEchoRecv`: a datagram from an address and port. -/
def rawUdpEchoRecv (parser : ExtJsonParser) (p : Bytes) (addr : UInt32) (port : UInt16) :
    ExtJsonParser :=
  let parser := { parser with bufRead := receivedBuffer parser.bufRead p }
  extUdpCmdSendout (extUdpCmdPaserHandler parser (receivedSize p)) addr port

end LwipExt.UdpCmd
