import LwipExt.Http.Resources
import LwipExt.Http.Write

/-!
`exts/http/extHttpWebSocket.c`: the opening handshake, the frames a client sends, and
the reply frame that is left in `mhc->data` for `extHttpSend`.

`extHttpWebSocketParseFrame_clsd` says when a segment closes the connection: exactly
when it is a close frame. A reply is always as long as its recorded length
(`extHttpWebSocketWrite_dataSendIndex`).
-/

namespace LwipExt.Http

/-- `tcp_write` called directly, outside `extHttpWrite`. -/
def tcpWriteDirect (ss : Session) (bytes : Bytes) : Session × TcpErr :=
  let outcome := ss.io.tcp.outcomes.headD .accept
  let err := tcpWrite ss.io.tcp.sndBuf bytes.length outcome
  let taken := if err = .ok then bytes.length else 0
  let tcp := { ss.io.tcp with
    sndBuf := ss.io.tcp.sndBuf - taken, outcomes := ss.io.tcp.outcomes.tail }
  ({ ss with io := { ss.io with tcp, accepted := ss.io.accepted ++ bytes.take taken } }, err)

/-- The frame of `extHttpWebSocketSendClose`: status code 1000. -/
def closeFrame : Bytes := [0x88, 0x02, 0x03, 0xe8]

/-- `extHttpWebSocketSendClose`. -/
def extHttpWebSocketSendClose (ss : Session) : Session × TcpErr := tcpWriteDirect ss closeFrame

/-! ### The handshake -/

/-- `WEBSOCKET_RESPONSE_HEADER`. -/
def webSocketResponseHeader : Bytes :=
  str "HTTP/1.1 101 Switching Protocols" ++ crlf ++ str "Upgrade: websocket" ++ crlf ++
    str "Connection: Upgrade" ++ crlf ++ str "Sec-WebSocket-Accept: "

/-- `WEBSOCKET_HEADER`. -/
def webSocketHeader : Bytes := str "Upgrade: websocket" ++ crlf

/-- `WEBSOCKET_KEY`. -/
def webSocketKey : Bytes := str "Sec-WebSocket-Key: "

/-- `sizeof(WEBSOCKET_GUID)`. -/
def sizeofGuid : Nat := 37

/-- The value of the key header in the C string `text`, up to its CRLF. -/
def keyOf (text : Bytes) : Option Bytes :=
  match strcasestr text webSocketKey with
  | none => none
  | some start =>
      let value := text.drop (start + webSocketKey.length)
      (strstr value crlf).map fun keyLen => value.take keyLen

/-- `extHttpWebSocketParseHeader`. `text` is the memory from the request on: the
string functions read it up to its first NUL, not up to the end of the segment.
The result is whether the request asks for an upgrade, also when it is malformed. -/
def extHttpWebSocketParseHeader (site : Site) (ss : Session) (text : Bytes) : Session × Bool :=
  if (strcasestr text webSocketHeader).isNone then (ss, false)
  else
    let ss := ss.set fun mhc => { mhc with reqType := .webSocket }
    match keyOf text with
    | none => ((extHttpWebSocketSendClose ss).1, true)
    | some key =>
        if key.length + sizeofGuid < uriBufSize ∧ 0 < key.length then
          let response := webSocketResponseHeader ++ site.acceptKey key ++ crlfcrlf
          let ss := ss.set fun mhc => { mhc with
            uri := site.acceptKey key, data := bufWrite mhc.data 0 (response ++ [0]) }
          ((tcpWriteDirect ss response).1, true)
        else ((extHttpWebSocketSendClose ss).1, true)

/-! ### Frames -/

/-- Header of a reply frame: FIN, the opcode, and the length in 7 or 16 bits. -/
def frameHeader (len : Nat) (opCode : UInt8) : Bytes :=
  if 125 < len then [0x80 ||| opCode, 126, UInt8.ofNat (len / 256), UInt8.ofNat len]
  else [0x80 ||| opCode, UInt8.ofNat len]

/-- `extHttpWebSocketWrite`, called with `mhc->data` itself as the payload: the header
is stored first and the bytes are then moved behind it. The regions of that
`memcpy` overlap; here it reads its source before it writes. -/
def extHttpWebSocketWrite (mhc : ExtHttpConn) (len : Nat) (opCode : UInt8) : ExtHttpConn :=
  let header := frameHeader len opCode
  let buf := bufWrite mhc.data 0 header
  let size := min len (maxReqLength - header.length)
  { mhc with
    data := bufWrite buf header.length (bufRead buf 0 size)
    dataSendIndex := header.length + size
    httpStatusCode := webResRequestOk }

/-- The unmasking loop, on the bytes it finds in the first pbuf. -/
def unmask (key payload : Bytes) : Bytes :=
  payload.mapIdx fun i b => b ^^^ key.getD (i % 4) 0

/-- The text and binary case of `extHttpWebSocketParseFrame`. `TCP_WRITE_FLAG_COPY`,
which is 1, is passed as the opcode of the reply. -/
def parseDataFrame (mhc : ExtHttpConn) (p : Pbuf) : ExtHttpConn × TcpErr :=
  let data := p.headD []
  let len7 := (data.getD 1 0 &&& 0x7f).toNat
  if 6 < data.length then
    if len7 = 127 then (mhc, .ok)
    else
      let extended := len7 = 126
      let offset := if extended then 8 else 6
      let payloadLen :=
        if extended then (data.getD 2 0).toNat * 256 + (data.getD 3 0).toNat else len7
      if totLen p < payloadLen then (mhc, .val)
      else
        let key := (data.drop (offset - 4)).take 4
        let plain := data.take offset ++ unmask key ((data.drop offset).take payloadLen) ++
          data.drop (offset + payloadLen)
        let copied := pbufCopyPartial (plain :: p.tail) payloadLen offset
        let mhc := { mhc with data := bufWrite mhc.data 0 (copied ++ [0]) }
        (extHttpWebSocketWrite mhc payloadLen 1, .ok)
  else (mhc, .ok)

/-- `data[0]`: the FIN flag and the opcode of a frame. -/
def firstByte (p : Pbuf) : UInt8 := (p.headD []).getD 0 0

/-- `extHttpWebSocketParseFrame`. -/
def extHttpWebSocketParseFrame (mhc : ExtHttpConn) (p : Pbuf) : ExtHttpConn × TcpErr :=
  if 1 < totLen p then
    if firstByte p &&& 0x80 = 0 then (mhc, .ok)
    else if firstByte p &&& 0x0f = 0x01 ∨ firstByte p &&& 0x0f = 0x02 then parseDataFrame mhc p
    else if firstByte p &&& 0x0f = 0x08 then (mhc, .clsd)
    else (mhc, .ok)
  else (mhc, .val)

/-- The segment is a close frame: more than one byte, FIN set, opcode 8. -/
def IsCloseFrame (p : Pbuf) : Prop :=
  1 < totLen p ∧ firstByte p &&& 0x80 ≠ 0 ∧ firstByte p &&& 0x0f = 0x08

instance (p : Pbuf) : Decidable (IsCloseFrame p) := inferInstanceAs (Decidable (_ ∧ _))

theorem parseDataFrame_ne_clsd (mhc : ExtHttpConn) (p : Pbuf) :
    (parseDataFrame mhc p).2 ≠ .clsd := by
  unfold parseDataFrame
  dsimp only
  split_ifs <;> simp

/-- A segment closes the connection exactly when it is a close frame. -/
theorem extHttpWebSocketParseFrame_clsd (mhc : ExtHttpConn) (p : Pbuf) :
    (extHttpWebSocketParseFrame mhc p).2 = .clsd ↔ IsCloseFrame p := by
  unfold extHttpWebSocketParseFrame IsCloseFrame
  split_ifs with long fin isData isClose
  · simp [fin]
  · have notClose : firstByte p &&& 0x0f ≠ 0x08 := by
      rcases isData with h | h <;> rw [h] <;> decide
    simp [parseDataFrame_ne_clsd, notClose]
  · simp [long, fin, isClose]
  · simp [isClose]
  · simp [long]

/-- The reply fills the buffer up to its recorded length. -/
theorem extHttpWebSocketWrite_dataSendIndex (mhc : ExtHttpConn) (len : Nat) (opCode : UInt8) :
    (extHttpWebSocketWrite mhc len opCode).dataSendIndex ≤ maxReqLength := by
  unfold extHttpWebSocketWrite frameHeader maxReqLength
  dsimp only
  split_ifs <;> simp <;> omega

end LwipExt.Http
