import LwipExt.UdpCmd.Parser

/-!
What the agent sends: the frames of `udpCmd/extUdpCmdResponses.c`, and
`extUdpCmdSendMediaData` and `extUdpCmdSendout`.

A printer is the list of the texts its `snprintf` calls produce. They are written one
behind the other, each call with the room the buffer has left.
-/

namespace LwipExt.UdpCmd

/-- `CMD_TAG_REQUEST`. -/
def cmdTagRequest : UInt16 := 0xa0fa

/-- `CMD_TAG_RESPONSE`. -/
def cmdTagResponse : UInt16 := 0xa0fb

/-- `ipCmd->tag`: the first two bytes of a datagram. -/
def tagOf (data : Bytes) : UInt16 := (data.getD 0 0).toUInt16 ||| (data.getD 1 0).toUInt16 <<< 8

/-- `IPCMD_HEADER_LENGTH`. -/
def ipcmdHeaderLength : Nat := 4

/-- `EXT_JSON_OUT_BUF_SIZE`, the value of `outSize`. -/
def extJsonOutBufSize : Nat := 512 * 2

/-- `EXT_CTRL_PORT`. -/
def extCtrlPort : UInt16 := 3600

/-- The bytes of an `unsigned short` in memory. -/
def short16 (n : UInt16) : Bytes := [n.toUInt8, (n >>> 8).toUInt8]

/-- The bytes of an `unsigned int` in memory. -/
def int32 (n : UInt32) : Bytes :=
  [n.toUInt8, (n >>> 8).toUInt8, (n >>> 16).toUInt8, (n >>> 24).toUInt8]

/-- `snprintf` of a text to an offset with `room` bytes left. A negative room is a huge
one once it is a `size_t`. -/
def printAt (buf : Bytes) (off : Nat) (room : Int) (text : Bytes) : Bytes :=
  if room = 0 then buf
  else if room < 0 then bufWrite buf off (text ++ [0])
  else bufWrite buf off (text.take (room.toNat - 1) ++ [0])

/-- The `snprintf` calls of a printer, from offset `base` with room for `size` bytes;
`index` counts what the texts so far ask for. -/
def printTexts (base : Nat) (size : Int) : (index : Nat) → Bytes → List Bytes → Bytes × Nat
  | index, buf, [] => (buf, index)
  | index, buf, text :: texts =>
      printTexts base size (index + text.length)
        (printAt buf (base + index) (size - index) text) texts

/-- `"key":` of an object. -/
def jsonKey (key : Bytes) : Bytes := str "\"" ++ key ++ str "\":"

/-- `"key":"value"`. -/
def jsonString (key value : Bytes) : Bytes := jsonKey key ++ str "\"" ++ value ++ str "\""

/-- `"key":value`. -/
def jsonNumber (key : Bytes) (value : UInt32) : Bytes := jsonKey key ++ decimalSigned value

/-- `"key":1` or `"key":0`. -/
def jsonFlag (key : Bytes) (value : UInt8) : Bytes := jsonNumber key (if value = 0 then 0 else 1)

/-- A comma behind a member. -/
def comma (text : Bytes) : Bytes := text ++ str ","

/-- `"%02d"`. -/
def decimal2 (n : UInt8) : Bytes := if n < 10 then str "0" ++ decimal n.toNat else decimal n.toNat

/-- `extUdpCmdPrintMediaCfg`. -/
def extUdpCmdPrintMediaCfg (runCfg : RuntimeCfg) : List Bytes :=
  let rt := runCfg.runtime
  [comma (jsonFlag (str "isMCAST") runCfg.isMCast),
    comma (jsonString (str "MCASTip") (inetNtoa runCfg.dest.ip)),
    comma (jsonNumber (str "vidPort") runCfg.dest.vport.toUInt32),
    comma (jsonNumber (str "audPort") runCfg.dest.aport.toUInt32),
    comma (jsonNumber (str "datPort") runCfg.dest.dport.toUInt32),
    jsonNumber (str "strPort") runCfg.dest.sport.toUInt32,
    str "," ++ comma (jsonNumber (str "vidW") rt.vWidth.toUInt32),
    comma (jsonNumber (str "vidH") rt.vHeight.toUInt32),
    comma (jsonNumber (str "vidFps") rt.vFrameRate.toUInt32),
    comma (jsonNumber (str "vidDepth") rt.vDepth.toUInt32),
    comma (jsonFlag (str "vidIsIntlc") rt.vIsInterlaced),
    comma (jsonFlag (str "vidIsSgmt") rt.vIsSegmented),
    comma (jsonString (str "vidClrSpace")
      (extCmnStringFind videoColorSpaces rt.vColorSpace.toUInt16)),
    comma (jsonNumber (str "audFrq") rt.aSampleRate.toUInt32),
    comma (jsonNumber (str "audBit") rt.aDepth.toUInt32),
    comma (jsonNumber (str "audChan") rt.aChannels.toUInt32),
    jsonNumber (str "IsConnect") rt.isConnect.toUInt32]

/-- `extUdpCmdRequestHeaderPrint`. The user name is printed without quotes. -/
def extUdpCmdRequestHeaderPrint (parser : ExtJsonParser) (cmd : Bytes) : ExtJsonParser :=
  let (out, index) := printTexts ipcmdHeaderLength (extJsonOutBufSize - ipcmdHeaderLength) 0
    parser.outBuffer
    [str "\x7b" ++ jsonKey (str "targ"), macAddressPrint parser.runCfg.dest.mac,
      comma (jsonString (str "cmd") cmd),
      comma (jsonKey (str "login-ack") ++ cstr parser.runCfg.user),
      jsonString (str "pwd-msg") (cstr parser.runCfg.password)]
  { parser with outBuffer := out, outIndex := index }

/-- `extUdpCmdResponseHeaderPrint`. -/
def extUdpCmdResponseHeaderPrint (parser : ExtJsonParser) : ExtJsonParser :=
  let (out, index) := printTexts ipcmdHeaderLength (extJsonOutBufSize - ipcmdHeaderLength) 0
    parser.outBuffer
    [str "\x7b" ++ jsonKey (str "targ"), macAddressPrint parser.runCfg.localCfg.mac,
      comma (jsonString (str "cmd") (cstr parser.cmd)),
      comma (jsonString (str "login-ack") (if parser.parseIsOk then str "OK" else str "NOK")),
      jsonString (str "pwd-msg") (if parser.parseIsOk then str "OK" else cstr parser.report.msg)]
  { parser with outBuffer := out, outIndex := index }

/-- Texts behind those `outIndex` counts. -/
def printBody (parser : ExtJsonParser) (texts : List Bytes) : ExtJsonParser :=
  let base := ipcmdHeaderLength + parser.outIndex
  let (out, index) := printTexts base (extJsonOutBufSize - base) 0 parser.outBuffer texts
  { parser with outBuffer := out, outIndex := parser.outIndex + index }

/-- `extUdpCmdResponseTailCalculate`: the closing brace, the tag, the length and the CRC.
The tag is that of a response for every frame. -/
def extUdpCmdResponseTailCalculate (parser : ExtJsonParser) : ExtJsonParser :=
  let parser := printBody parser [str "\x7d"]
  let length := UInt16.ofNat (parser.outIndex + ipcmdHeaderLength)
  let out := bufWrite parser.outBuffer 0
    (short16 cmdTagResponse ++ [(length >>> 8).toUInt8, length.toUInt8])
  let crc32 := htonl (cmnMuxCRC32b false (bufRead out ipcmdHeaderLength parser.outIndex))
  { parser with
    outBuffer := bufWrite out (ipcmdHeaderLength + parser.outIndex) (int32 crc32)
    outIndex := parser.outIndex + 2 * ipcmdHeaderLength }

/-- `extUdpCmdResponseReply`. -/
def extUdpCmdResponseReply (parser : ExtJsonParser) : ExtJsonParser :=
  extUdpCmdResponseTailCalculate (extUdpCmdResponseHeaderPrint parser)

/-- `extJsonResponsePrintConfig`. The address is that of the interface, not the configured
one. -/
def extJsonResponsePrintConfig (parser : ExtJsonParser) : ExtJsonParser :=
  let cfg := parser.runCfg
  let texts :=
    [comma (jsonString (str "pName") ext767ProductName),
      comma (jsonString (str "model")
        (ext767Model ++ str "-" ++ if extIsTx cfg then str "TX" else str "RX")),
      comma (jsonString (str "fwVer") (decimal2 cfg.version.major ++ str "." ++
        decimal2 cfg.version.minor ++ str "." ++ decimal2 cfg.version.revision)),
      comma (jsonString (str "cName") (cstr cfg.name)),
      jsonKey (str "mac"), macAddressPrint cfg.localCfg.mac,
      comma (jsonString (str "ip") (inetNtoa parser.netIp)),
      comma (jsonString (str "mask") (inetNtoa cfg.ipMask)),
      comma (jsonString (str "gateway") (inetNtoa cfg.ipGateway)),
      comma (jsonNumber (str "isDhcp") (if extDhcpIsEnable cfg then 1 else 0)),
      comma (jsonFlag (str "isDipOn") cfg.isDipOn),
      comma (jsonNumber (str "RS232Baudrate") cfg.rs232Cfg.baudRate),
      comma (jsonNumber (str "RS232Databits") cfg.rs232Cfg.charLength.toUInt32),
      comma (jsonString (str "RS232Parity")
        (extCmnStringFind ipcmdStringRsParities cfg.rs232Cfg.parityType.toUInt16)),
      comma (jsonNumber (str "RS232Stopbits") cfg.rs232Cfg.stopbits.toUInt32)]
  extUdpCmdResponseTailCalculate <| printBody (extUdpCmdResponseHeaderPrint parser) <|
    (str "," ++ jsonKey (str "data") ++ str "[\x7b") :: texts ++ extUdpCmdPrintMediaCfg cfg ++
      [str "\x7d]"]

/-- `extUdpCmdSendout`: send the frame of the out buffer, if there is a pbuf for it. -/
def extUdpCmdSendout (parser : ExtJsonParser) (ip : UInt32) (port : UInt16) : ExtJsonParser :=
  let allocated := parser.pbufAllocs.headD true
  let parser := { parser with pbufAllocs := parser.pbufAllocs.tail }
  if allocated then
    { parser with
      sent := parser.sent ++ [⟨ip, port, bufRead parser.outBuffer 0 parser.outIndex⟩] }
  else parser

/-- What the scratch id of the security check holds: seven digits of `"1234567890"`. -/
def scIdText : Bytes := snprintf 8 (str "1234567890")

/-- The text of the media data: a `set_param` command for the peer. -/
def mediaDataText (parser : ExtJsonParser) : ExtJsonParser :=
  let parser := { parser with
    toRequest := parser.withStatus .ok
    setupData := { parser.setupData with scID := scIdText } }
  let parser := extUdpCmdRequestHeaderPrint parser (str "set_param")
  printBody parser <|
    (str "," ++ jsonKey (str "data") ++ str "[\x7b") :: extUdpCmdPrintMediaCfg parser.runCfg ++
      [str "\x7d]"]

/-- `extUdpCmdSendMediaData`. The request goes out in a frame with the tag of a response. -/
def extUdpCmdSendMediaData (parser : ExtJsonParser) : ExtJsonParser :=
  extUdpCmdSendout (extUdpCmdResponseTailCalculate (mediaDataText parser)) parser.runCfg.dest.ip
    extCtrlPort

/-! ### What a frame changes -/

/-- `parser'` is `parser` with another frame in the out buffer. -/
def Framed (parser parser' : ExtJsonParser) : Prop :=
  ∃ out index, parser' = { parser with outBuffer := out, outIndex := index }

/-- The frame in the out buffer. -/
def frameOf (parser : ExtJsonParser) : Bytes :=
  bufRead parser.outBuffer 0 parser.outIndex

/-- `Framed`, and the frame has the tag of a response. -/
def Responded (parser parser' : ExtJsonParser) : Prop :=
  Framed parser parser' ∧ tagOf (frameOf parser') = cmdTagResponse

theorem Framed.trans {parser parser' parser'' : ExtJsonParser} (first : Framed parser parser')
    (second : Framed parser' parser'') : Framed parser parser'' := by
  obtain ⟨_, _, rfl⟩ := first
  obtain ⟨out, index, rfl⟩ := second
  exact ⟨out, index, rfl⟩

theorem Framed.responded {parser parser' parser'' : ExtJsonParser} (first : Framed parser parser')
    (second : Responded parser' parser'') : Responded parser parser'' :=
  ⟨first.trans second.1, second.2⟩

theorem printBody_framed (parser : ExtJsonParser) (texts : List Bytes) :
    Framed parser (printBody parser texts) :=
  ⟨_, _, rfl⟩

theorem extUdpCmdRequestHeaderPrint_framed (parser : ExtJsonParser) (cmd : Bytes) :
    Framed parser (extUdpCmdRequestHeaderPrint parser cmd) :=
  ⟨_, _, rfl⟩

theorem extUdpCmdResponseHeaderPrint_framed (parser : ExtJsonParser) :
    Framed parser (extUdpCmdResponseHeaderPrint parser) :=
  ⟨_, _, rfl⟩

theorem tagOf_response (buf rest : Bytes) :
    tagOf (bufWrite buf 0 (short16 cmdTagResponse ++ rest)) = cmdTagResponse := by
  have bytes : short16 cmdTagResponse = [0xfb, 0xa0] := by decide
  simp only [tagOf, bufWrite, bufRead, bytes, List.cons_append, List.nil_append, List.drop_zero,
    List.take_zero, List.length_nil, Nat.sub_zero, List.replicate_zero, List.getD_cons_zero,
    List.getD_cons_succ]
  decide

/-- Every frame gets the tag of a response. -/
theorem extUdpCmdResponseTailCalculate_responded (parser : ExtJsonParser) :
    Responded parser (extUdpCmdResponseTailCalculate parser) := by
  refine ⟨(printBody_framed parser _).trans ⟨_, _, rfl⟩, ?_⟩
  have read (out crc : Bytes) (n : Nat) {i : Nat} (lt : i < 4) :
      (bufRead (bufWrite out (4 + n) crc) 0 (n + 2 * 4)).getD i 0 = out.getD i 0 := by
    rw [getD_bufRead _ _ (by omega), Nat.zero_add, getD_bufWrite _ _ (by omega)]
  unfold frameOf tagOf extUdpCmdResponseTailCalculate
  simp only [ipcmdHeaderLength]
  rw [read _ _ _ (by decide), read _ _ _ (by decide)]
  exact tagOf_response _ _

theorem extUdpCmdResponseReply_responded (parser : ExtJsonParser) :
    Responded parser (extUdpCmdResponseReply parser) :=
  (extUdpCmdResponseHeaderPrint_framed parser).responded
    (extUdpCmdResponseTailCalculate_responded _)

theorem extJsonResponsePrintConfig_responded (parser : ExtJsonParser) :
    Responded parser (extJsonResponsePrintConfig parser) :=
  ((extUdpCmdResponseHeaderPrint_framed parser).trans (printBody_framed _ _)).responded
    (extUdpCmdResponseTailCalculate_responded _)

/-- What is sent is the frame of the out buffer, if there is a pbuf for it. -/
theorem extUdpCmdSendout_eq (parser : ExtJsonParser) (ip : UInt32) (port : UInt16) :
    extUdpCmdSendout parser ip port =
      { parser with
        pbufAllocs := parser.pbufAllocs.tail
        sent := parser.sent ++
          if parser.pbufAllocs.headD true then
            [⟨ip, port, frameOf parser⟩]
          else [] } := by
  unfold extUdpCmdSendout frameOf
  cases parser.pbufAllocs.headD true <;> simp

theorem mediaDataText_framed (parser : ExtJsonParser) :
    Framed { parser with
        toRequest := parser.withStatus .ok
        setupData := { parser.setupData with scID := scIdText } } (mediaDataText parser) := by
  unfold mediaDataText
  exact (extUdpCmdRequestHeaderPrint_framed _ _).trans (printBody_framed _ _)

/-- Sending the media data changes nothing but the report, the scratch id, the out buffer
and what was sent. -/
theorem extUdpCmdSendMediaData_eq (parser : ExtJsonParser) :
    ∃ out index, tagOf (bufRead out 0 index) = cmdTagResponse ∧
      extUdpCmdSendMediaData parser =
        { parser with
          toRequest := parser.withStatus .ok
          setupData := { parser.setupData with scID := scIdText }
          outBuffer := out
          outIndex := index
          pbufAllocs := parser.pbufAllocs.tail
          sent := parser.sent ++
            if parser.pbufAllocs.headD true then
              [⟨parser.runCfg.dest.ip, extCtrlPort, bufRead out 0 index⟩]
            else [] } := by
  obtain ⟨⟨out, index, same⟩, tagged⟩ :=
    (mediaDataText_framed parser).responded (extUdpCmdResponseTailCalculate_responded _)
  unfold frameOf at tagged
  rw [same] at tagged
  refine ⟨out, index, tagged, ?_⟩
  rw [extUdpCmdSendMediaData, extUdpCmdSendout_eq, same]
  rfl

end LwipExt.UdpCmd
