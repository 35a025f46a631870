import LwipExt.CString
import Mathlib.Algebra.GroupWithZero.Nat

/-!
The MQTT client `mqtt/mqtt.c`: its output ring, its requests and what it does on every call and
callback.

A request keeps its callback and argument as one value of any type. Callbacks do not call the
client. `u32_t` counters of one message are `Nat`; no message has 4 GiB.
-/

namespace LwipExt.Mqtt

/-! ### Configuration -/

/-- `MQTT_OUTPUT_RINGBUF_SIZE`. -/
def mqttOutputRingbufSize : Nat := 256

/-- `MQTT_VAR_HEADER_BUFFER_LEN`. -/
def mqttVarHeaderBufferLen : Nat := 128

/-- `MQTT_REQ_MAX_IN_FLIGHT`. -/
def mqttReqMaxInFlight : Nat := 4

/-- `MQTT_CYCLIC_TIMER_INTERVAL`, in seconds. -/
def mqttCyclicTimerInterval : Nat := 5

/-- `MQTT_REQ_TIMEOUT`, in seconds. -/
def mqttReqTimeout : Nat := 30

/-- `MQTT_CONNECT_TIMOUT`, in seconds. -/
def mqttConnectTimout : Nat := 100

/-- `err_t` values that the client returns or passes to a callback. -/
inductive MqttErr where
  | ok
  | mem
  | conn
  | isConn
  | arg
  | val
  | timeout
  | abrt
  deriving DecidableEq, Repr

/-- The connection states of the client. -/
inductive ConnState where
  | tcpDisconnected
  | tcpConnecting
  | mqttConnecting
  | mqttConnected
  deriving DecidableEq, Repr

/-- `enum mqtt_message_type`. -/
inductive MsgType where
  | connect
  | connack
  | publish
  | puback
  | pubrec
  | pubrel
  | pubcomp
  | subscribe
  | suback
  | unsubscribe
  | unsuback
  | pingreq
  | pingresp
  | disconnect
  deriving DecidableEq, Repr

/-- The value of a message type. -/
def MsgType.code : MsgType → Nat
  | .connect => 1
  | .connack => 2
  | .publish => 3
  | .puback => 4
  | .pubrec => 5
  | .pubrel => 6
  | .pubcomp => 7
  | .subscribe => 8
  | .suback => 9
  | .unsubscribe => 10
  | .unsuback => 11
  | .pingreq => 12
  | .pingresp => 13
  | .disconnect => 14

/-- `mqtt_connection_status_t`: what a CONNACK says, or one of these. -/
def mqttConnectAccepted : Nat := 0

/-- `MQTT_CONNECT_DISCONNECTED`. -/
def mqttConnectDisconnected : Nat := 256

/-- `MQTT_CONNECT_TIMEOUT`. -/
def mqttConnectTimeout : Nat := 257

/-- What the client does to the outside. `tcpWrite` has what one `mqtt_output_send` writes. -/
inductive MqttEffect (α : Type) where
  | tcpWrite (data : Bytes)
  | tcpClose
  | connection (status : Nat)
  | request (arg : α) (err : MqttErr)
  | publish (topic : Bytes) (totLen : Nat)
  | data (data : Bytes) (last : Bool)
  deriving DecidableEq, Repr

/-! ### The output ring -/

/-- `struct mqtt_ringbuf_t`. -/
structure MqttRingbuf where
  put : Nat := 0
  get : Nat := 0
  buf : Bytes := List.replicate 256 0
  deriving DecidableEq, Repr

/-- What the connection answers during one `mqtt_output_send`: its send buffer and whether it
takes what is written, before and after the end of the ring. -/
structure TcpSend where
  sndbuf : Nat
  written : Bool
  sndbufWrap : Nat
  writtenWrap : Bool
  deriving DecidableEq, Repr

namespace MqttRingbuf

/-- `mqtt_ringbuf_put`. -/
def putItem (rb : MqttRingbuf) (item : UInt8) : MqttRingbuf :=
  { rb with buf := rb.buf.set (rb.put % mqttOutputRingbufSize) item, put := u16 (rb.put + 1) }

/-- `mqtt_ringbuf_len`. -/
def len (rb : MqttRingbuf) : Nat := sub16 rb.put rb.get

/-- `mqtt_ringbuf_linear_read_length`. -/
def linearReadLength (rb : MqttRingbuf) : Nat :=
  min rb.len (mqttOutputRingbufSize - rb.get % mqttOutputRingbufSize)

/-- The bytes from `mqtt_ringbuf_get_ptr` on. -/
def getPtr (rb : MqttRingbuf) (n : Nat) : Bytes :=
  (rb.buf.drop (rb.get % mqttOutputRingbufSize)).take n

/-- `mqtt_ringbuf_advance_get_idx`. -/
def advanceGetIdx (rb : MqttRingbuf) (n : Nat) : MqttRingbuf := { rb with get := u16 (rb.get + n) }

/-- `mqtt_output_append_u8`. -/
def appendU8 (rb : MqttRingbuf) (value : UInt8) : MqttRingbuf := rb.putItem value

/-- `mqtt_output_append_u16`. -/
def appendU16 (rb : MqttRingbuf) (value : Nat) : MqttRingbuf :=
  (rb.putItem (UInt8.ofNat (value / 256))).putItem (UInt8.ofNat value)

/-- `mqtt_output_append_buf`. -/
def appendBuf (rb : MqttRingbuf) (data : Bytes) : MqttRingbuf := data.foldl putItem rb

/-- `mqtt_output_append_string`. -/
def appendString (rb : MqttRingbuf) (text : Bytes) : MqttRingbuf :=
  (rb.appendU16 text.length).appendBuf text

/-- The loop of `mqtt_output_append_fixed_header` over a remaining length. -/
def appendLength (rb : MqttRingbuf) (rLength : Nat) : MqttRingbuf :=
  let rb := rb.appendU8 (UInt8.ofNat (rLength % 128 + if 128 ≤ rLength then 128 else 0))
  if 0 < rLength / 128 then rb.appendLength (rLength / 128) else rb
termination_by rLength

/-- `mqtt_output_append_fixed_header`. -/
def appendFixedHeader (rb : MqttRingbuf) (msgType : MsgType) (dup qos retain rLength : Nat) :
    MqttRingbuf :=
  (rb.appendU8 (UInt8.ofNat (msgType.code * 16 + dup % 2 * 8 + qos % 4 * 2 + retain % 2))).appendLength
    rLength

/-- The loop of `mqtt_output_check_space`: the bytes of a remaining length. -/
def lengthBytes (rLength : Nat) : Nat :=
  if 0 < rLength / 128 then lengthBytes (rLength / 128) + 1 else 1
termination_by rLength

/-- `mqtt_output_check_space`. Its sum is of 16 bits. -/
def checkSpace (rb : MqttRingbuf) (rLength : Nat) : Bool :=
  u16 (1 + rLength + lengthBytes rLength) + rb.len ≤ mqttOutputRingbufSize

/-- `mqtt_output_send`, and what it writes. -/
def send (rb : MqttRingbuf) (tcp : TcpSend) : MqttRingbuf × Bytes :=
  if tcp.sndbuf = 0 ∨ rb.linearReadLength = 0 then (rb, [])
  else
    let sendLen := min tcp.sndbuf rb.linearReadLength
    let wrap := rb.linearReadLength < tcp.sndbuf ∧ rb.linearReadLength < rb.len
    if !tcp.written then (rb, [])
    else
      let first := rb.getPtr sendLen
      let rb := rb.advanceGetIdx sendLen
      if wrap then
        let sendLen := min tcp.sndbufWrap rb.linearReadLength
        if tcp.writtenWrap then (rb.advanceGetIdx sendLen, first ++ rb.getPtr sendLen)
        else (rb, first)
      else (rb, first)

end MqttRingbuf

/-! ### Requests -/

/-- `struct mqtt_request_t`, in its slot of `req_list`. -/
structure MqttRequest (α : Type) where
  slot : Nat
  cb : Option α
  pktId : Nat
  timeoutDiff : Nat := 0
  deriving DecidableEq, Repr

/-- `struct mqtt_client_t`. `reqList` says which slots are in use, `conn` what the connection
answers to the coming calls of `mqtt_output_send` (no more is sent behind the last), and
`cyclicTimer` whether the timer runs. -/
structure MqttClient (α : Type) where
  cyclicTick : Nat := 0
  keepAlive : Nat := 0
  serverWatchdog : Nat := 0
  pktIdSeq : Nat := 0
  inpubPktId : Nat := 0
  connState : ConnState := .tcpDisconnected
  conn : Option (List TcpSend) := none
  connectCb : Bool := false
  pendReqQueue : List (MqttRequest α) := []
  reqList : List Bool := List.replicate mqttReqMaxInFlight false
  dataCb : Bool := false
  pubCb : Bool := false
  msgIdx : Nat := 0
  rxBuffer : Bytes := List.replicate mqttVarHeaderBufferLen 0
  output : MqttRingbuf := {}
  cyclicTimer : Bool := false
  deriving DecidableEq, Repr

section Requests

variable {α : Type}

/-- `mqtt_append_request`. -/
def mqttAppendRequest (queue : List (MqttRequest α)) (r : MqttRequest α) : List (MqttRequest α) :=
  queue ++ [{ r with timeoutDiff := mqttReqTimeout - (queue.map (·.timeoutDiff)).sum }]

/-- The time that a request had left goes to the next. -/
def addTime (t : Nat) : List (MqttRequest α) → List (MqttRequest α)
  | [] => []
  | next :: queue => { next with timeoutDiff := next.timeoutDiff + t } :: queue

/-- `mqtt_take_request`: the first request of the id, and the queue without it. -/
def mqttTakeRequest (pktId : Nat) :
    List (MqttRequest α) → Option (MqttRequest α) × List (MqttRequest α)
  | [] => (none, [])
  | r :: queue =>
      if r.pktId = pktId then (some r, addTime r.timeoutDiff queue)
      else
        let (taken, rest) := mqttTakeRequest pktId queue
        (taken, r :: rest)

/-- The loop of `mqtt_request_time_elapsed`: the requests that run out, and the others. -/
def mqttRequestTimeElapsed (t : Nat) :
    List (MqttRequest α) → List (MqttRequest α) × List (MqttRequest α)
  | [] => ([], [])
  | r :: queue =>
      if t = 0 then ([], r :: queue)
      else if r.timeoutDiff ≤ t then
        let (out, rest) := mqttRequestTimeElapsed (t - r.timeoutDiff) queue
        (r :: out, rest)
      else ([], { r with timeoutDiff := r.timeoutDiff - t } :: queue)

/-- `mqtt_delete_request`, of several. -/
def freeSlots (reqList : List Bool) (requests : List (MqttRequest α)) : List Bool :=
  requests.foldl (fun used r => used.set r.slot false) reqList

/-- The callback of a request. -/
def MqttRequest.call (r : MqttRequest α) (err : MqttErr) : List (MqttEffect α) :=
  r.cb.toList.map fun arg => .request arg err

end Requests

/-- `struct mqtt_connect_client_info_t`; `will` has topic and message, where both are given. The
user and the password are not sent. -/
structure ClientInfo where
  clientId : Bytes
  keepAlive : Nat
  will : Option (Bytes × Bytes) := none
  willQos : Nat := 0
  willRetain : Bool := false
  deriving DecidableEq, Repr

/-- The connect flags. -/
def ClientInfo.flags (info : ClientInfo) : Nat :=
  match info.will with
  | some _ => 4 + info.willQos % 4 * 8 + (if info.willRetain then 32 else 0) + 2
  | none => 2

/-- The bytes of the will in a CONNECT. -/
def ClientInfo.willLength (info : ClientInfo) : Nat :=
  match info.will with
  | some (topic, msg) => 2 + topic.length + 2 + msg.length
  | none => 0

/-- `mqtt_client_connect` accepts the will. -/
def ClientInfo.willOk (info : ClientInfo) : Bool :=
  match info.will with
  | some (topic, msg) => 0 < topic.length && topic.length ≤ 255 && msg.length ≤ 255
  | none => true

/-- The CONNECT that `mqtt_client_connect` appends. -/
def ClientInfo.append (info : ClientInfo) (rLength : Nat) (rb : MqttRingbuf) : MqttRingbuf :=
  let rb := (rb.appendFixedHeader .connect 0 0 0 rLength).appendString (str "MQTT")
  let rb := (rb.appendU8 4).appendU8 (UInt8.ofNat info.flags)
  let rb := (rb.appendU16 info.keepAlive).appendString info.clientId
  match info.will with
  | some (topic, msg) => (rb.appendString topic).appendString msg
  | none => rb

/-- What a call does, and what it returns. -/
abbrev Called (α : Type) : Type := MqttClient α × List (MqttEffect α) × MqttErr

/-- The client, what it does, and the connection status that a message makes. -/
abbrev Received (α : Type) : Type := MqttClient α × List (MqttEffect α) × Nat

/-- The local variables of `mqtt_parse_incoming`. -/
structure Parser where
  msgRemLen : Nat := 0
  fixedHdrIdx : Nat := 0
  b : UInt8 := 0
  deriving DecidableEq, Repr

/-- What the loop makes of the bytes up to here: it goes on, or it returns. -/
inductive ParseStep (α : Type) where
  | goOn (client : MqttClient α) (l : Parser) (p : Bytes) (effects : List (MqttEffect α))
  | stop (client : MqttClient α) (effects : List (MqttEffect α)) (res : Nat)

/-- The client after a round of the parser. -/
def ParseStep.client {α : Type} : ParseStep α → MqttClient α
  | .goOn client _ _ _ => client
  | .stop client _ _ => client

/-- What a round of the parser does. -/
def ParseStep.effects {α : Type} : ParseStep α → List (MqttEffect α)
  | .goOn _ _ _ effects => effects
  | .stop _ effects _ => effects

namespace MqttClient

variable {α : Type}

/-! ### Sending and closing -/

/-- `mqtt_output_send(&client->output, client->conn)`. -/
def outputSend (client : MqttClient α) : MqttClient α × List (MqttEffect α) :=
  match client.conn with
  | some (tcp :: later) =>
      let (output, data) := client.output.send tcp
      ({ client with output := output, conn := some later }, [.tcpWrite data])
  | _ => (client, [])

/-- `mqtt_close`. -/
def close (client : MqttClient α) (reason : Nat) : MqttClient α × List (MqttEffect α) :=
  let tcp := if client.conn.isSome then [MqttEffect.tcpClose] else []
  let notice := if client.connState ≠ .tcpDisconnected ∧ client.connectCb then
    [MqttEffect.connection reason] else []
  ({ client with
      conn := none
      reqList := freeSlots client.reqList client.pendReqQueue
      pendReqQueue := []
      cyclicTimer := false
      connState := .tcpDisconnected }, tcp ++ notice)

/-- The server was silent for a further interval. -/
def watchServer (client : MqttClient α) : MqttClient α × List (MqttEffect α) :=
  let client := { client with serverWatchdog := client.serverWatchdog + 1 }
  if client.keepAlive + client.keepAlive / 2 <
      client.serverWatchdog * mqttCyclicTimerInterval then
    client.close mqttConnectTimeout
  else (client, [])

/-- The keep-alive message, if it is time for it and there is space. -/
def sendKeepAlive (client : MqttClient α) : MqttClient α :=
  if client.keepAlive ≤ client.cyclicTick * mqttCyclicTimerInterval then
    if client.output.checkSpace 0 then
      { client with
        output := client.output.appendFixedHeader .pingreq 0 0 0 0, cyclicTick := 0 }
    else client
  else { client with cyclicTick := client.cyclicTick + 1 }

/-- `mqtt_request_time_elapsed(&client->pend_req_queue, MQTT_CYCLIC_TIMER_INTERVAL)`. -/
def requestTimeElapsed (client : MqttClient α) : MqttClient α × List (MqttEffect α) :=
  let (out, queue) := mqttRequestTimeElapsed mqttCyclicTimerInterval client.pendReqQueue
  ({ client with pendReqQueue := queue, reqList := freeSlots client.reqList out },
    out.flatMap fun r => r.call .timeout)

/-- `mqtt_cyclic_timer`. -/
def cyclicTimerExpired (client : MqttClient α) : MqttClient α × List (MqttEffect α) :=
  match client.connState with
  | .mqttConnecting =>
      let client := { client with cyclicTick := client.cyclicTick + 1 }
      if mqttConnectTimout ≤ client.cyclicTick * mqttCyclicTimerInterval then
        client.close mqttConnectTimeout
      else (client, [])
  | .mqttConnected =>
      let (client, called) := client.requestTimeElapsed
      if client.keepAlive = 0 then (client, called)
      else
        let (client, closed) := client.watchServer
        -- also after the connection was closed
        (client.sendKeepAlive, called ++ closed)
  | _ => ({ client with cyclicTimer := false }, [])

/-! ### Incoming messages -/

/-- `pub_ack_rec_rel_response`. -/
def pubAckRecRelResponse (client : MqttClient α) (msg : MsgType) (pktId qos : Nat) :
    MqttClient α × List (MqttEffect α) :=
  if client.output.checkSpace 2 then
    outputSend { client with
      output := (client.output.appendFixedHeader msg 0 qos 0 2).appendU16 pktId }
  else (client, [])

/-- The byte of the received message at an offset. -/
def rxAt (client : MqttClient α) (i : Nat) : UInt8 := client.rxBuffer.getD i 0

/-- Two bytes of the received message. -/
def rxU16 (client : MqttClient α) (i : Nat) : Nat :=
  (client.rxAt i).toNat * 256 + (client.rxAt (i + 1)).toNat

/-- The rest of a PUBLISH: a part of its payload from an offset on. A client without `data_cb` jumps
to `NULL`. -/
def publishData (client : MqttClient α) (off length remainingLength qos : Nat)
    (before : List (MqttEffect α)) : Option (Received α) :=
  if 0 < length ∨ remainingLength = 0 then
    if client.dataCb then
      let part := MqttEffect.data ((client.rxBuffer.drop off).take length) (remainingLength = 0)
      if remainingLength = 0 ∧ 0 < qos then
        let (client, effects) := client.pubAckRecRelResponse
          (if qos = 1 then .puback else .pubrec) client.inpubPktId 0
        some (client, before ++ part :: effects, mqttConnectAccepted)
      else some (client, before ++ [part], mqttConnectAccepted)
    else none
  else some (client, before, mqttConnectAccepted)

/-- A PUBLISH in `mqtt_message_received`. The length of the topic is of 16 bits, with its own two
bytes; if that is too much, the NUL behind the topic goes past the buffer. -/
def receivedPublish (client : MqttClient α) (fixedHdrIdx length remainingLength : Nat) :
    Option (Received α) :=
  let qos := (client.rxAt 0).toNat / 2 % 4
  if client.msgIdx ≤ mqttVarHeaderBufferLen then
    let topicLen := client.rxU16 fixedHdrIdx
    let afterTopic := u16 (2 + topicLen)
    if length < afterTopic + (if 0 < qos then 2 else 1) then
      some (client, [], mqttConnectDisconnected)
    else if mqttVarHeaderBufferLen ≤ fixedHdrIdx + 2 + topicLen then none
    else
      let client := { client with
        inpubPktId := if 0 < qos then client.rxU16 (fixedHdrIdx + afterTopic) else 0 }
      let afterTopic := if 0 < qos then afterTopic + 2 else afterTopic
      let payloadLength := length - afterTopic
      let topic := (client.rxBuffer.drop (fixedHdrIdx + 2)).take topicLen
      let notice := if client.pubCb then
        [MqttEffect.publish (cstr topic) (remainingLength + payloadLength)] else []
      client.publishData (fixedHdrIdx + afterTopic) payloadLength remainingLength qos notice
  else client.publishData fixedHdrIdx length remainingLength qos []

/-- An acknowledgement in `mqtt_message_received`. -/
def receivedAck (client : MqttClient α) (suback : Bool) (pktId result length : Nat) :
    Received α :=
  match mqttTakeRequest pktId client.pendReqQueue with
  | (some r, queue) =>
      let client := { client with pendReqQueue := queue }
      if suback && length < 3 then (client, [], mqttConnectDisconnected)
      else
        let err := if suback && 3 ≤ result then MqttErr.abrt else .ok
        ({ client with reqList := freeSlots client.reqList [r] }, r.call err, mqttConnectAccepted)
  | (none, _) => (client, [], mqttConnectAccepted)

/-- `mqtt_message_received`. -/
def messageReceived (client : MqttClient α) (fixedHdrIdx length remainingLength : Nat) :
    Option (Received α) :=
  let pktType := (client.rxAt 0).toNat / 16
  if pktType = MsgType.connack.code then
    if client.connState = .mqttConnecting then
      let res := (client.rxAt (fixedHdrIdx + 1)).toNat
      if res = mqttConnectAccepted then
        some ({ client with cyclicTick := 0, connState := .mqttConnected },
          if client.connectCb then [.connection res] else [], res)
      else some (client, [], res)
    else some (client, [], mqttConnectAccepted)
  else if pktType = MsgType.pingresp.code then some (client, [], mqttConnectAccepted)
  else if pktType = MsgType.publish.code then
    client.receivedPublish fixedHdrIdx length remainingLength
  else
    let pktId := client.rxU16 fixedHdrIdx
    if pktId = 0 then some (client, [], mqttConnectDisconnected)
    else if pktType = MsgType.pubrec.code then
      let (client, effects) := client.pubAckRecRelResponse .pubrel pktId 1
      some (client, effects, mqttConnectAccepted)
    else if pktType = MsgType.pubrel.code then
      let (client, effects) := client.pubAckRecRelResponse .pubcomp pktId 0
      some (client, effects, mqttConnectAccepted)
    else if pktType = MsgType.suback.code ∨ pktType = MsgType.unsuback.code ∨
        pktType = MsgType.pubcomp.code ∨ pktType = MsgType.puback.code then
      some (client.receivedAck (pktType = MsgType.suback.code) pktId
        (client.rxAt (fixedHdrIdx + 2)).toNat length)
    else some (client, [], mqttConnectDisconnected)

/-- One more byte of the fixed header. From the seventh on, `msg_rem_len` is shifted by more bits
than it has, and `rx_buffer` may end. -/
def headerByte (client : MqttClient α) (l : Parser) (b : UInt8) (p : Bytes) :
    Option (ParseStep α) :=
  let idx := l.fixedHdrIdx + 1
  if idx < 2 then some (.goOn client { l with fixedHdrIdx := idx, b := b } p [])
  else if 7 ≤ idx then none
  else
    let remLen := l.msgRemLen ||| b.toNat % 128 * 2 ^ ((idx - 2) * 7) % 4294967296
    if 128 ≤ b.toNat then some (.goOn client { msgRemLen := remLen, fixedHdrIdx := idx, b := b } p [])
    else if remLen = 0 then
      -- the result is not looked at
      (client.messageReceived idx 0 0).map fun (client, effects, _) =>
        .goOn { client with msgIdx := 0 } { b := b } p effects
    else some (.goOn client
      { msgRemLen := remLen + idx - client.msgIdx, fixedHdrIdx := idx, b := b } p [])

/-- Some bytes behind the fixed header. -/
def bodyBytes (client : MqttClient α) (l : Parser) (p : Bytes) : Option (ParseStep α) :=
  let start := (client.msgIdx - l.fixedHdrIdx) % (mqttVarHeaderBufferLen - l.fixedHdrIdx) +
    l.fixedHdrIdx
  let space := mqttVarHeaderBufferLen - start
  let n := min (min p.length l.msgRemLen) space
  let client := { client with
    rxBuffer := client.rxBuffer.take start ++ p.take n ++ client.rxBuffer.drop (start + n)
    msgIdx := client.msgIdx + n }
  let l := { l with msgRemLen := l.msgRemLen - n }
  if l.msgRemLen = 0 ∨ n = space then
    (client.messageReceived l.fixedHdrIdx (start + n - l.fixedHdrIdx) l.msgRemLen).map
      fun (client, effects, res) =>
        if res ≠ mqttConnectAccepted then .stop client effects res
        else if l.msgRemLen = 0 then
          .goOn { client with msgIdx := 0 } { l with fixedHdrIdx := 0 } (p.drop n) effects
        else .goOn client l (p.drop n) effects
  else some (.goOn client l (p.drop n) [])

/-- A round of the loop of `mqtt_parse_incoming`. -/
def parseStep (client : MqttClient α) (l : Parser) (p : Bytes) : Option (ParseStep α) :=
  if l.fixedHdrIdx < 2 ∨ 128 ≤ l.b.toNat then
    if l.fixedHdrIdx < client.msgIdx then
      client.headerByte l (client.rxAt l.fixedHdrIdx) p
    else
      headerByte { client with
        rxBuffer := client.rxBuffer.set client.msgIdx (p.headD 0), msgIdx := client.msgIdx + 1 }
        l (p.headD 0) p.tail
  else client.bodyBytes l p

/-- The loop of `mqtt_parse_incoming`. -/
def parseLoop : (fuel : Nat) → MqttClient α → Parser → Bytes → List (MqttEffect α) →
    Option (Received α)
  | 0, client, _, _, effects => some (client, effects, mqttConnectAccepted)
  | fuel + 1, client, l, p, effects =>
      if p = [] then some (client, effects, mqttConnectAccepted)
      else
        match client.parseStep l p with
        | none => none
        | some (.stop client more res) => some (client, effects ++ more, res)
        | some (.goOn client l p more) => parseLoop fuel client l p (effects ++ more)

/-- `mqtt_parse_incoming`. The loop reads what it has of the header once more. -/
def parseIncoming (client : MqttClient α) (p : Bytes) : Option (Received α) :=
  parseLoop (p.length + 7) client {} p []

/-! ### Callbacks of the connection -/

/-- `mqtt_tcp_recv_cb`, with `none` for `NULL`. -/
def tcpRecvCb (client : MqttClient α) (p : Option Bytes) :
    Option (MqttClient α × List (MqttEffect α)) :=
  match p with
  | none => some (client.close mqttConnectDisconnected)
  | some p =>
      (client.parseIncoming p).map fun (client, effects, res) =>
        let (client, closed) :=
          if res ≠ mqttConnectAccepted then client.close res else (client, [])
        let client := if client.keepAlive ≠ 0 then { client with serverWatchdog := 0 } else client
        (client, effects ++ closed)

/-- The loop of `mqtt_tcp_sent_cb` over the requests without an id. -/
def completeQos0 : (fuel : Nat) → MqttClient α → MqttClient α × List (MqttEffect α)
  | 0, client => (client, [])
  | fuel + 1, client =>
      match mqttTakeRequest 0 client.pendReqQueue with
      | (some r, queue) =>
          let (client, effects) := completeQos0 fuel { client with
            pendReqQueue := queue, reqList := freeSlots client.reqList [r] }
          (client, r.call .ok ++ effects)
      | (none, _) => (client, [])

/-- `mqtt_tcp_sent_cb`. -/
def tcpSentCb (client : MqttClient α) : MqttClient α × List (MqttEffect α) :=
  if client.connState = .mqttConnected then
    let (client, called) := completeQos0 client.pendReqQueue.length
      { client with cyclicTick := 0, serverWatchdog := 0 }
    let (client, sent) := client.outputSend
    (client, called ++ sent)
  else (client, [])

/-- `mqtt_tcp_err_cb`. -/
def tcpErrCb (client : MqttClient α) : MqttClient α × List (MqttEffect α) :=
  close { client with conn := none } mqttConnectDisconnected

/-- `mqtt_tcp_poll_cb`. -/
def tcpPollCb (client : MqttClient α) : MqttClient α × List (MqttEffect α) :=
  if client.connState = .mqttConnected then client.outputSend else (client, [])

/-- `mqtt_tcp_connect_cb`. -/
def tcpConnectCb (client : MqttClient α) : MqttClient α × List (MqttEffect α) :=
  outputSend { client with
    msgIdx := 0, connState := .mqttConnecting, cyclicTimer := true, cyclicTick := 0 }

/-! ### Calls of the application -/

/-- `msg_generate_packet_id`. -/
def generatePacketId (client : MqttClient α) : Nat :=
  let id := u16 (client.pktIdSeq + 1)
  if id = 0 then 1 else id

/-- What `mqtt_publish` and `mqtt_sub_unsub` do with a message: they take a free slot, check the
space, append it, and send. -/
def queueMessage (client : MqttClient α) (pktId : Nat) (cb : Option α) (rLength : Nat)
    (append : MqttRingbuf → MqttRingbuf) : Called α :=
  match client.reqList.findIdx? (· = false) with
  | none => (client, [], .mem)
  | some slot =>
      if client.output.checkSpace rLength then
        let (client, sent) := outputSend { client with
          reqList := client.reqList.set slot true
          output := append client.output
          pendReqQueue := mqttAppendRequest client.pendReqQueue
            { slot := slot, cb := cb, pktId := pktId } }
        (client, sent, .ok)
      else (client, [], .mem)

/-- The message of `mqtt_publish`. The payload is `none` for `NULL`. -/
def appendPublish (topic : Bytes) (payload : Option Bytes) (payloadLength qos retain pktId
    rLength : Nat) (rb : MqttRingbuf) : MqttRingbuf :=
  let rb := (rb.appendFixedHeader .publish 0 qos retain rLength).appendString topic
  let rb := if 0 < qos then rb.appendU16 pktId else rb
  match payload with
  | some data => rb.appendBuf (data.take payloadLength)
  | none => rb

/-- `mqtt_publish`. -/
def publish (client : MqttClient α) (topic : Bytes) (payload : Option Bytes) (payloadLength : Nat)
    (qos retain : Nat) (cb : Option α) : Called α :=
  if client.connState = .tcpDisconnected then (client, [], .conn)
  else if 65535 - 2 < topic.length then (client, [], .arg)
  else if 65535 < 2 + topic.length + payloadLength then (client, [], .arg)
  else
    let pktId := if 0 < qos then client.generatePacketId else 0
    let client := if 0 < qos then { client with pktIdSeq := pktId } else client
    let rLength := u16 (2 + topic.length + payloadLength + if 0 < qos then 2 else 0)
    client.queueMessage pktId cb rLength
      (appendPublish topic payload payloadLength qos retain pktId rLength)

/-- The message of `mqtt_sub_unsub`. -/
def appendTopic (topic : Bytes) (qos : Nat) (sub : Bool) (pktId rLength : Nat) (rb : MqttRingbuf) :
    MqttRingbuf :=
  let msg := if sub then MsgType.subscribe else .unsubscribe
  let rb := ((rb.appendFixedHeader msg 0 1 0 rLength).appendU16 pktId).appendString topic
  if sub then rb.appendU8 (UInt8.ofNat (min qos 2)) else rb

/-- `mqtt_sub_unsub`. It asserts that `qos` is below 3. -/
def subUnsub (client : MqttClient α) (topic : Bytes) (qos : Nat) (cb : Option α) (sub : Bool) :
    Called α :=
  if 65535 - 2 < topic.length then (client, [], .arg)
  else if 65535 < topic.length + 2 + 2 + (if sub then 1 else 0) then (client, [], .arg)
  else if client.connState = .tcpDisconnected then (client, [], .conn)
  else
    let pktId := client.generatePacketId
    let rLength := topic.length + 2 + 2 + if sub then 1 else 0
    queueMessage { client with pktIdSeq := pktId } pktId cb rLength
      (appendTopic topic qos sub pktId rLength)

/-- `mqtt_client_connect`. `tcp` is what `tcp_new`, `tcp_bind` and `tcp_connect` make: a connection,
or an error. -/
def clientConnect (client : MqttClient α) (cb : Bool) (info : ClientInfo)
    (tcp : Except MqttErr (List TcpSend)) : Called α :=
  if client.connState ≠ .tcpDisconnected then (client, [], .isConn)
  else
    let client : MqttClient α := { connectCb := cb, keepAlive := info.keepAlive }
    let rLength := 2 + 4 + 1 + 1 + 2 + info.willLength + 2 + info.clientId.length
    if !info.willOk then (client, [], .val)
    else if 65535 < rLength then (client, [], .val)
    else if client.output.checkSpace rLength then
      match tcp with
      | .error err => (client, [], err)
      | .ok sends =>
          ({ client with
              conn := some sends
              connState := .tcpConnecting
              output := info.append rLength client.output }, [], .ok)
    else (client, [], .mem)

/-- `mqtt_set_inpub_callback`. -/
def setInpubCallback (client : MqttClient α) (pubCb dataCb : Bool) : MqttClient α :=
  { client with pubCb := pubCb, dataCb := dataCb }

/-- `mqtt_disconnect`. -/
def disconnect (client : MqttClient α) : MqttClient α × List (MqttEffect α) :=
  if client.connState ≠ .tcpDisconnected then
    close { client with connState := .tcpDisconnected } 0
  else (client, [])

end MqttClient

/-! ### Events -/

/-- What happens to a client: a call of the application, a callback of its connection, or its
timer. -/
inductive MqttEvent (α : Type) where
  | clientConnect (cb : Bool) (info : ClientInfo) (tcp : Except MqttErr (List TcpSend))
  | publish (topic : Bytes) (payload : Option Bytes) (payloadLength qos retain : Nat)
      (cb : Option α)
  | subUnsub (topic : Bytes) (qos : Nat) (cb : Option α) (sub : Bool)
  | setInpubCallback (pubCb dataCb : Bool)
  | disconnect
  | tcpConnected
  | tcpRecv (p : Option Bytes)
  | tcpSent
  | tcpErr
  | tcpPoll
  | timer

/-- The client at an event, with what it does and what a call returns; `none` where it writes or
jumps to where it must not. Callbacks of a connection only come while there is one, and the timer
only while it runs. -/
def MqttClient.step {α : Type} (client : MqttClient α) : MqttEvent α → Option (Called α)
  | .clientConnect cb info tcp => some (client.clientConnect cb info tcp)
  | .publish topic payload payloadLength qos retain cb =>
      some (client.publish topic payload payloadLength qos retain cb)
  | .subUnsub topic qos cb sub => some (client.subUnsub topic qos cb sub)
  | .setInpubCallback pubCb dataCb => some (client.setInpubCallback pubCb dataCb, [], .ok)
  | .disconnect => some (client.disconnect.1, client.disconnect.2, .ok)
  | .tcpConnected =>
      if client.connState = .tcpConnecting then
        some (client.tcpConnectCb.1, client.tcpConnectCb.2, .ok)
      else some (client, [], .ok)
  | .tcpRecv p =>
      if client.connState = .mqttConnecting ∨ client.connState = .mqttConnected then
        (client.tcpRecvCb p).map fun (client, effects) => (client, effects, .ok)
      else some (client, [], .ok)
  | .tcpSent =>
      if client.conn.isSome then some (client.tcpSentCb.1, client.tcpSentCb.2, .ok)
      else some (client, [], .ok)
  | .tcpErr =>
      if client.conn.isSome then some (client.tcpErrCb.1, client.tcpErrCb.2, .ok)
      else some (client, [], .ok)
  | .tcpPoll =>
      if client.conn.isSome then some (client.tcpPollCb.1, client.tcpPollCb.2, .ok)
      else some (client, [], .ok)
  | .timer =>
      if client.cyclicTimer then
        some (client.cyclicTimerExpired.1, client.cyclicTimerExpired.2, .ok)
      else some (client, [], .ok)

end LwipExt.Mqtt
