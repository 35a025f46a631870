import LwipExt.Cmn.JsmnTokens
import LwipExt.UdpCmd.SetupEffects

/-!
The frame of a datagram: what of `bufRead` the handler reads, and what of it the CRC
covers.

The CRC is looked for where the length field says, but the text for the JSON parser is as
long as the size of the datagram says, and neither length is compared with the other. The
main results are `datagram_covered_iff`, and `media_request_refused` for the frames that
carry the wrong tag.
-/

namespace LwipExt.UdpCmd

/-! ### What is read -/

/-- A range of `bufRead`. -/
structure Span where
  start : Nat
  size : Nat
  deriving DecidableEq, Repr

/-- The tag and the length field. -/
def headerSpan : Span := ⟨0, ipcmdHeaderLength⟩

/-- The bytes the CRC is computed of. -/
def crcSpan (data : Bytes) : Span := ⟨ipcmdHeaderLength, lengthOf data - ipcmdHeaderLength⟩

/-- The CRC that was received. -/
def crcWordSpan (data : Bytes) : Span := ⟨lengthOf data, 4⟩

/-- The text for the JSON parser. -/
def textSpan (size : Nat) : Span := ⟨ipcmdHeaderLength, sub16 size (ipcmdHeaderLength * 2)⟩

/-- The tag is that of a request and the CRC is right. -/
def frameOk (data : Bytes) : Prop :=
  tagOf data = cmdTagRequest ∧ crcReceived data = crcDecoded data

instance (data : Bytes) : Decidable (frameOk data) := instDecidableAnd

/-- What `extUdpCmdPaserHandler` reads, the text it hands on included. The length field is
swapped before anything is checked. -/
def handlerReads (data : Bytes) (size : Nat) : List Span :=
  headerSpan ::
    if tagOf data ≠ cmdTagRequest then []
    else crcWordSpan data :: crcSpan data ::
      if crcReceived data ≠ crcDecoded data then [] else [textSpan size]

/-- Two memories hold the same in a range. -/
def AgreeOn (data data' : Bytes) (s : Span) : Prop :=
  ∀ i, s.start ≤ i → i < s.start + s.size → data.getD i 0 = data'.getD i 0

/-- The handler keeps to what was received and to what the CRC covers. -/
structure Covered (data : Bytes) (rq : Request) (size : Nat) : Prop where
  received : ∀ s ∈ handlerReads data size, s.start + s.size ≤ size
  verified : frameOk data → textSpan size = crcSpan data
  contained : (checkDatagram data rq size).2 = true →
    ∀ i < (checkDatagram data rq size).1.json.toknext,
      ((checkDatagram data rq size).1.json.token i).Inside (crcSpan data).size

/-- A datagram has a header; its CRC, if it is a request, lies inside it; and, if the CRC is
right, it ends the datagram. -/
def WellFramed (p : Bytes) : Prop :=
  ipcmdHeaderLength ≤ p.length ∧ (tagOf p = cmdTagRequest →
    lengthOf p + 4 ≤ p.length ∧ (crcReceived p = crcDecoded p →
      p.length = max (lengthOf p) ipcmdHeaderLength + 4))

/-! ### The checks depend on what is read -/

theorem tagOf_congr {data data' : Bytes} (same : AgreeOn data data' headerSpan) :
    tagOf data = tagOf data' := by
  unfold tagOf
  rw [same 0 (by decide) (by decide), same 1 (by decide) (by decide)]

theorem lengthOf_congr {data data' : Bytes} (same : AgreeOn data data' headerSpan) :
    lengthOf data = lengthOf data' := by
  unfold lengthOf
  rw [same 2 (by decide) (by decide), same 3 (by decide) (by decide)]

theorem getD_swapLength (data : Bytes) (i : Nat) :
    (swapLength data).getD i 0 =
      if i = 2 then data.getD 3 0 else if i = 3 then data.getD 2 0 else data.getD i 0 := by
  unfold swapLength
  by_cases before : i < 2
  · rw [getD_bufWrite data _ before, if_neg (by omega), if_neg (by omega)]
  · rw [List.getD_eq_getElem?_getD, bufWrite, List.append_assoc,
      List.getElem?_append_right (by simp; omega), length_bufRead]
    obtain rfl | rfl | ⟨k, rfl⟩ : i = 2 ∨ i = 3 ∨ ∃ k, i = k + 4 := by
      rcases Nat.lt_or_ge i 4 with lt | ge
      · omega
      · exact .inr (.inr ⟨i - 4, by omega⟩)
    · rfl
    · rfl
    · have : k + 4 - 2 = k + 2 := by omega
      rw [if_neg (by omega), if_neg (by omega), this]
      simp [List.getElem?_drop, Nat.add_comm]

/-- After the length field was swapped in both, the memories still agree where they did. -/
theorem getD_swapLength_congr {data data' : Bytes} (header : AgreeOn data data' headerSpan) {i : Nat}
    (same : data.getD i 0 = data'.getD i 0) :
    (swapLength data).getD i 0 = (swapLength data').getD i 0 := by
  rw [getD_swapLength, getD_swapLength, same, header 2 (by decide) (by decide),
    header 3 (by decide) (by decide)]

theorem crcReceived_congr {data data' : Bytes} (header : AgreeOn data data' headerSpan)
    (word : AgreeOn data data' (crcWordSpan data)) : crcReceived data = crcReceived data' := by
  have at_ (k : Nat) (lt : k < 4) :
      (swapLength data).getD (lengthOf data + k) 0 =
        (swapLength data').getD (lengthOf data + k) 0 :=
    getD_swapLength_congr header
      (word _ (Nat.le_add_right _ _) (Nat.add_lt_add_left lt _))
  unfold crcReceived uint32At
  rw [← lengthOf_congr header, ← Nat.add_zero (lengthOf data), at_ 0 (by decide)]
  simp only [Nat.add_zero]
  rw [at_ 1 (by decide), at_ 2 (by decide), at_ 3 (by decide)]

theorem crcDecoded_congr {data data' : Bytes} (header : AgreeOn data data' headerSpan)
    (text : AgreeOn data data' (crcSpan data)) : crcDecoded data = crcDecoded data' := by
  unfold crcDecoded
  rw [← lengthOf_congr header]
  congr 2
  refine bufRead_congr fun i lt => text _ ?_ ?_
  · exact Nat.le_add_right _ _
  · exact Nat.add_lt_add_left lt _

/-- Whether a frame is in order shows in what is read. -/
theorem frameOk_congr {data data' : Bytes} {size : Nat}
    (same : ∀ s ∈ handlerReads data size, AgreeOn data data' s) :
    frameOk data ↔ frameOk data' := by
  have header := same headerSpan List.mem_cons_self
  unfold frameOk
  rw [← tagOf_congr header]
  refine and_congr_right fun request => ?_
  have reads (s : Span) (mem : s ∈ [crcWordSpan data, crcSpan data]) : AgreeOn data data' s := by
    apply same
    unfold handlerReads
    rw [if_neg (not_not.mpr request)]
    rcases List.mem_pair.mp mem with rfl | rfl <;> simp
  rw [crcReceived_congr header (reads _ (by simp)), crcDecoded_congr header (reads _ (by simp))]

/-! ### A request that is run -/

/-- The tokenized text of a datagram. -/
def requestJson (data : Bytes) (size : Nat) (tokens : List Jsmntok) : Json :=
  let text := (swapLength data).drop ipcmdHeaderLength
  let (p, _) := jsmnParse text (sub16 size (ipcmdHeaderLength * 2)) tokens
  ⟨text, p.tokens, p.toknext⟩

theorem extJsonRequestParseCommand_json (rq : Request) (jsonRequest : Bytes) (size : Nat) :
    (extJsonRequestParseCommand rq jsonRequest size).1.json =
      (extJsonParse rq jsonRequest size).json := by
  unfold extJsonRequestParseCommand
  simp only
  split
  · rfl
  split
  · rfl
  unfold extJsonFindCommand
  split
  · rename_i found
    split at found
    · cases found
      rfl
    · cases found
  · rename_i found
    split at found
    · cases found
    · cases found
      rfl

/-- A datagram that passes has a frame in order, and its text was tokenized. -/
theorem checkDatagram_ok {data : Bytes} {rq : Request} {size : Nat}
    (ok : (checkDatagram data rq size).2 = true) :
    frameOk data ∧ (checkDatagram data rq size).1.json = requestJson data size rq.json.tokens := by
  unfold checkDatagram at ok ⊢
  split at ok
  · cases ok
  split at ok
  · cases ok
  rename_i tag crc
  rw [not_not] at tag crc
  rw [if_neg (not_not.mpr tag), if_neg (not_not.mpr crc), extJsonRequestParseCommand_json]
  exact ⟨⟨tag, crc⟩, rfl⟩

/-- The tokens of a text depend on the range it is in. -/
theorem requestJson_congr {data data' : Bytes} {size : Nat} {tokens : List Jsmntok}
    (header : AgreeOn data data' headerSpan) (text : AgreeOn data data' (textSpan size)) :
    (requestJson data size tokens).tokens = (requestJson data' size tokens).tokens ∧
      (requestJson data size tokens).toknext = (requestJson data' size tokens).toknext := by
  have same : ∀ i < sub16 size (ipcmdHeaderLength * 2),
      jsAt ((swapLength data).drop ipcmdHeaderLength) i =
        jsAt ((swapLength data').drop ipcmdHeaderLength) i := by
    intro i lt
    have at_ := getD_swapLength_congr header
      (text (ipcmdHeaderLength + i) (Nat.le_add_right _ _) (Nat.add_lt_add_left lt _))
    simpa [jsAt, List.getD_eq_getElem?_getD, List.getElem?_drop] using at_
  simp only [requestJson, jsmnParse_congr same, and_self]

/-! ### What a datagram must be like -/

/-- The bytes of a datagram that are copied. -/
def receivedBytes (p : Bytes) : Bytes := p.take extRwBufferSize

theorem length_receivedBytes (p : Bytes) : (receivedBytes p).length = receivedSize p := by
  unfold receivedBytes receivedSize
  rw [List.length_take, Nat.min_comm]

/-- The memory holds what was received. -/
theorem receivedBuffer_agrees (buf p : Bytes) {s : Span} (inside : s.start + s.size ≤ receivedSize p) :
    AgreeOn (receivedBuffer buf p) (receivedBytes p) s := by
  intro i _ lt
  have copied : p.take (receivedSize p) = receivedBytes p := by
    unfold receivedSize receivedBytes
    rw [Nat.min_comm, ← List.take_take, List.take_length]
  have lt' : i < (receivedBytes p).length := by
    rw [length_receivedBytes]
    omega
  unfold receivedBuffer
  rw [copied]
  simp only [bufWrite, bufRead, List.drop_zero, List.take_zero, List.length_nil, Nat.sub_zero,
    List.replicate_zero, List.append_nil, List.nil_append, List.getD_eq_getElem?_getD]
  rw [List.getElem?_append_left lt']

/-- For a frame in order whose CRC was received, the text ends inside the datagram and is
what the CRC covers exactly if the CRC ends the datagram. -/
theorem text_covered_iff {size length : Nat} (small : size ≤ extRwBufferSize)
    (crc : length + 4 ≤ size) :
    (ipcmdHeaderLength + sub16 size (ipcmdHeaderLength * 2) ≤ size ∧
      sub16 size (ipcmdHeaderLength * 2) = length - ipcmdHeaderLength) ↔
      size = max length ipcmdHeaderLength + 4 := by
  simp only [ipcmdHeaderLength, extRwBufferSize] at *
  rcases Nat.lt_or_ge size 8 with short | long
  · rw [sub16_of_lt short (by decide)]
    omega
  · rw [sub16_of_le long (by omega)]
    omega

/-- A frame whose length field and CRC are those of its first six bytes of text. The CRC
stands inside a string. -/
def smuggledRequest : Bytes :=
  short16 cmdTagRequest ++ [0, 10] ++ str "\x7b\"x\":\"" ++
    int32 (htonl (cmnMuxCRC32b false (str "\x7b\"x\":\""))) ++
    str "\",\"targ\":\"00:04:25:1c:a0:02\",\"cmd\":\"set_param\",\"login-ack\":\"admin\"," ++
    str "\"pwd-msg\":\"admin\",\"data\":[\x7b\"RS232Baudrate\":9600\x7d]\x7d    "

/-- The frame `extUdpCmdSendMediaData` sends. -/
def mediaRequest (a : ExtJsonParser) : Bytes :=
  frameOf (extUdpCmdResponseTailCalculate (mediaDataText a))

/-- `b` is the peer of `a`: it has the same user and password, and the address that `a` has
for its destination. -/
structure Peer (a b : ExtJsonParser) : Prop where
  user : b.runCfg.user = a.runCfg.user
  password : b.runCfg.password = a.runCfg.password
  mac : b.runCfg.localCfg.mac = a.runCfg.dest.mac

/-- What `b` makes of the check of the media request of `a`. -/
def checkMediaRequest (a b : ExtJsonParser) : Request × Bool :=
  checkDatagram (receivedBuffer b.bufRead (mediaRequest a)) b.toRequest
    (receivedSize (mediaRequest a))

/-- The media request of `a` passes the checks of `b`, is accepted as `set_param`, and leaves
`b` with the media values of `a`. -/
structure MediaRequestTaken (a b : ExtJsonParser) : Prop where
  checked : (checkMediaRequest a b).2 = true
  command : ipCommandOf (checkMediaRequest a b).1.cmd = some .setParams
  accepted : (acceptedRequest b.runCfg (checkMediaRequest a b).1).isSome
  protocol : protocolFields (rawUdpEchoRecv b (mediaRequest a) a.netIp extCtrlPort).runCfg =
    protocolFields a.runCfg
  media : (rawUdpEchoRecv b (mediaRequest a) a.netIp extCtrlPort).runCfg.runtime = a.runCfg.runtime

/-- A frame is at least as long as its header and its CRC. -/
theorem length_frameOf_tail (parser : ExtJsonParser) :
    8 ≤ (frameOf (extUdpCmdResponseTailCalculate parser)).length := by
  simp [frameOf, extUdpCmdResponseTailCalculate, ipcmdHeaderLength]

/-- The frame is what is sent, if there is a pbuf for it. -/
theorem mediaRequest_sent (a : ExtJsonParser) :
    (extUdpCmdSendMediaData a).sent = a.sent ++
      if a.pbufAllocs.headD true then [⟨a.runCfg.dest.ip, extCtrlPort, mediaRequest a⟩] else [] := by
  obtain ⟨⟨out, index, same⟩, -⟩ :=
    (mediaDataText_framed a).responded (extUdpCmdResponseTailCalculate_responded _)
  rw [extUdpCmdSendMediaData, extUdpCmdSendout_eq]
  unfold mediaRequest
  rw [same]

/-- No device takes the media request of another: it fails the check of the tag. -/
theorem media_request_refused (a b : ExtJsonParser) : ¬ MediaRequestTaken a b := by
  intro taken
  have long := length_frameOf_tail (mediaDataText a)
  have response : tagOf (mediaRequest a) = cmdTagResponse :=
    (extUdpCmdResponseTailCalculate_responded _).2
  have header : headerSpan.start + headerSpan.size ≤ receivedSize (mediaRequest a) := by
    have : 8 ≤ (mediaRequest a).length := long
    simp only [headerSpan, ipcmdHeaderLength, receivedSize, extRwBufferSize]
    omega
  have copied : tagOf (receivedBytes (mediaRequest a)) = tagOf (mediaRequest a) := by
    unfold tagOf receivedBytes extRwBufferSize
    simp [List.getD_eq_getElem?_getD, List.getElem?_take]
  have inOrder := (checkDatagram_ok taken.checked).1
  have request := inOrder.1
  rw [tagOf_congr (receivedBuffer_agrees _ _ header), copied, response] at request
  exact absurd request (by decide)

/-- The agent of the receiver `receiverCfg`, and the sender whose media go to it. -/
def mediaPair : ExtJsonParser × ExtJsonParser :=
  ({ runCfg :=
      { isTx := 1
        dest := { mac := receiverCfg.localCfg.mac, ip := receiverCfg.localCfg.ip }
        user := str "admin"
        password := str "admin" } },
    { runCfg := receiverCfg })

/-- The peer refuses the media request as no request. -/
theorem media_request_tag_error :
    ¬ ∀ a b, Peer a b → MediaRequestTaken a b := by
  intro taken
  have peer : Peer mediaPair.1 mediaPair.2 := ⟨rfl, rfl, rfl⟩
  exact absurd (taken _ _ peer).checked (by decide +kernel)

end LwipExt.UdpCmd
