import LwipExt.UdpCmd.Main

/-!
The text of a frame.

A printer writes into what is left of the out buffer and counts what it would have liked
to write. As long as a text fits, the frame that is sent is that text between tag, length
and CRC, whatever the buffer held before (`frameOf_reply`).
-/

namespace LwipExt.UdpCmd

/-- A frame around a text. -/
def frameBytes (tag : UInt16) (text : Bytes) : Bytes :=
  let length := UInt16.ofNat (text.length + ipcmdHeaderLength)
  short16 tag ++ [(length >>> 8).toUInt8, length.toUInt8] ++ text ++
    int32 (htonl (cmnMuxCRC32b false text))

/-- The text printed so far stands in the out buffer, behind the header. -/
structure Printed (parser : ExtJsonParser) (text : Bytes) : Prop where
  holds : Holds parser.outBuffer ipcmdHeaderLength text
  index : parser.outIndex = text.length

/-- Room for the text of a frame and the NUL behind it. -/
def frameRoom : Nat := extJsonOutBufSize - ipcmdHeaderLength

theorem frameRoom_add : frameRoom + ipcmdHeaderLength = extJsonOutBufSize := rfl

theorem printAt_fits {buf text : Bytes} {off : Nat} {room : Int} (fits : (text.length : Int) < room) :
    printAt buf off room text = bufWrite buf off (text ++ [0]) := by
  have all : text.take (room.toNat - 1) = text := List.take_of_length_le (by omega)
  rw [printAt, if_neg (by omega), if_neg (by omega), all]

/-- Texts that fit stand one behind the other, and nothing before them is touched. -/
theorem printTexts_fits {base index : Nat} {size : Int} {buf : Bytes} (texts : List Bytes)
    (fits : (index : Int) + texts.flatten.length < size) :
    (printTexts base size index buf texts).2 = index + texts.flatten.length ∧
      Holds (printTexts base size index buf texts).1 (base + index) texts.flatten ∧
      ∀ off text, off + text.length ≤ base + index → Holds buf off text →
        Holds (printTexts base size index buf texts).1 off text := by
  induction texts generalizing index buf with
  | nil => exact ⟨rfl, Holds.nil _ _, fun off text _ holds => holds⟩
  | cons text texts ih =>
      rw [List.flatten_cons, List.length_append] at fits
      obtain ⟨count, rest, kept⟩ := @ih (index + text.length)
        (printAt buf (base + index) (size - index) text) (by push_cast; omega)
      rw [printAt_fits (by omega)] at count rest kept
      rw [printTexts, printAt_fits (by omega), List.flatten_cons, List.length_append]
      refine ⟨by rw [count, Nat.add_assoc], ?_, ?_⟩
      · refine (kept _ _ ?_ (Holds.written _ _ text [0])).append ?_
        · omega
        · rw [Nat.add_assoc]
          exact rest
      · intro off before le holds
        exact kept _ _ (by omega) (holds.kept (.inl le))

/-- A header that fits is what is printed. -/
theorem printed_header {parser : ExtJsonParser} (texts : List Bytes) {out : Bytes} {index : Nat}
    (fits : texts.flatten.length < frameRoom)
    (result : printTexts ipcmdHeaderLength (extJsonOutBufSize - ipcmdHeaderLength) 0
      parser.outBuffer texts = (out, index)) :
    Printed { parser with outBuffer := out, outIndex := index } texts.flatten := by
  obtain ⟨count, holds, -⟩ := @printTexts_fits ipcmdHeaderLength 0
    (extJsonOutBufSize - ipcmdHeaderLength) parser.outBuffer texts
    (by have := frameRoom_add; omega)
  rw [result] at count holds
  exact ⟨holds, by simpa using count⟩

/-- Texts behind what is printed. -/
theorem Printed.body {parser : ExtJsonParser} {text : Bytes} (printed : Printed parser text)
    (texts : List Bytes) (fits : (text ++ texts.flatten).length < frameRoom) :
    Printed (printBody parser texts) (text ++ texts.flatten) := by
  obtain ⟨holds, index⟩ := printed
  rw [List.length_append] at fits
  obtain ⟨count, rest, kept⟩ := @printTexts_fits (ipcmdHeaderLength + parser.outIndex) 0
    (extJsonOutBufSize - (ipcmdHeaderLength + parser.outIndex : Nat)) parser.outBuffer texts
    (by have := frameRoom_add; omega)
  simp only [Nat.zero_add, Nat.add_zero] at count rest kept
  refine ⟨Holds.append (kept _ _ (by omega) holds) ?_, ?_⟩
  · rw [← index]
    exact rest
  · simp only [printBody]
    rw [List.length_append, ← index]
    exact congrArg _ count

/-- The tail makes a frame of what is printed. -/
theorem Printed.frame {parser : ExtJsonParser} {text : Bytes} (printed : Printed parser text)
    (fits : text.length + 1 < frameRoom) :
    frameOf (extUdpCmdResponseTailCalculate parser) =
      frameBytes cmdTagResponse (text ++ str "\x7d") := by
  have closed := printed.body [str "\x7d"] (by rw [List.flatten_singleton, List.length_append]; exact fits)
  rw [List.flatten_singleton] at closed
  generalize text ++ str "\x7d" = text at closed
  unfold extUdpCmdResponseTailCalculate
  simp only
  generalize printBody parser [str "\x7d"] = parser at closed
  obtain ⟨holds, index⟩ := closed
  rw [index]
  generalize header_eq : short16 cmdTagResponse ++ _ = header
  have header_length : header.length = 4 := by
    rw [← header_eq]
    rfl
  have held : Holds (bufWrite parser.outBuffer 0 header) ipcmdHeaderLength text :=
    holds.kept (.inr (by rw [header_length]; decide))
  rw [held.read]
  generalize crc_eq : int32 (htonl (cmnMuxCRC32b false text)) = crc
  have crc_length : crc.length = 4 := by
    rw [← crc_eq]
    rfl
  have all : Holds (bufWrite (bufWrite parser.outBuffer 0 header) (ipcmdHeaderLength + text.length)
      crc) 0 (header ++ text ++ crc) := by
    have start := Holds.written parser.outBuffer 0 header []
    have last := Holds.written (bufWrite parser.outBuffer 0 header)
      (ipcmdHeaderLength + text.length) crc []
    rw [List.append_nil] at start last
    refine ((start.kept (.inl ?_)).append ?_).append ?_
    · rw [header_length]
      simp only [ipcmdHeaderLength]
      omega
    · rw [header_length]
      exact held.kept (.inl (Nat.le_refl _))
    · rw [List.length_append, header_length, Nat.zero_add]
      exact last
  have total : text.length + 2 * ipcmdHeaderLength = (header ++ text ++ crc).length := by
    simp only [List.length_append, header_length, crc_length, ipcmdHeaderLength]
    omega
  unfold frameOf
  simp only
  rw [total, all.read, ← header_eq, ← crc_eq]
  rfl

/-! ### The reply -/

theorem length_macAddressPrint (mac : Mac) : (macAddressPrint mac).length = 20 := by
  have octets : mac.toList.length = 6 := by simp
  obtain ⟨a, b, c, d, e, f, same⟩ : ∃ a b c d e f, mac.toList = [a, b, c, d, e, f] := by
    match mac.toList, octets with
    | [a, b, c, d, e, f], _ => exact ⟨a, b, c, d, e, f, rfl⟩
  unfold macAddressPrint
  rw [same]
  rfl

/-- The members every response begins with. -/
def responseHeader (mac : Mac) (rq : Request) : List Bytes :=
  [str "\x7b" ++ jsonKey (str "targ"), macAddressPrint mac,
    comma (jsonString (str "cmd") (cstr rq.cmd)),
    comma (jsonString (str "login-ack") (if rq.parseIsOk then str "OK" else str "NOK")),
    jsonString (str "pwd-msg") (if rq.parseIsOk then str "OK" else cstr rq.report.msg)]

/-- A request whose texts have the length of their arrays at most. -/
structure Request.Bounded (rq : Request) : Prop where
  cmd : rq.cmd.length < cmdSize
  msg : rq.report.msg.length < extJsonMessageSize

theorem length_responseHeader {rq : Request} (bounded : rq.Bounded) (mac : Mac) :
    (responseHeader mac rq).flatten.length ≤ 161 := by
  have cmd := (length_cstr_le rq.cmd).trans_lt bounded.cmd
  have msg := (length_cstr_le rq.report.msg).trans_lt bounded.msg
  simp only [cmdSize, extJsonMessageSize] at cmd msg
  have lengths : (str "\x7b").length = 1 ∧ (jsonKey (str "targ")).length = 7 ∧
      (jsonKey (str "cmd")).length = 6 ∧ (jsonKey (str "login-ack")).length = 12 ∧
      (jsonKey (str "pwd-msg")).length = 10 ∧ (str "\"").length = 1 ∧ (str ",").length = 1 ∧
      (str "OK").length = 2 ∧ (str "NOK").length = 3 := by decide
  simp only [responseHeader, List.flatten_cons, List.flatten_nil, List.length_append, jsonString,
    comma, length_macAddressPrint, lengths, List.length_nil]
  split <;> simp only [lengths] <;> omega

theorem extUdpCmdResponseHeaderPrint_printed {parser : ExtJsonParser}
    (bounded : parser.toRequest.Bounded) :
    Printed (extUdpCmdResponseHeaderPrint parser)
      (responseHeader parser.runCfg.localCfg.mac parser.toRequest).flatten := by
  have short := length_responseHeader bounded parser.runCfg.localCfg.mac
  exact printed_header _ (short.trans_lt (by decide)) rfl

/-- The frame of a reply depends on the request and on the address of the device. -/
theorem frameOf_reply {parser : ExtJsonParser} (bounded : parser.toRequest.Bounded) :
    frameOf (extUdpCmdResponseReply parser) = frameBytes cmdTagResponse
      ((responseHeader parser.runCfg.localCfg.mac parser.toRequest).flatten ++ str "\x7d") := by
  have short := length_responseHeader bounded parser.runCfg.localCfg.mac
  refine (extUdpCmdResponseHeaderPrint_printed bounded).frame ?_
  have : frameRoom = 1020 := rfl
  omega

end LwipExt.UdpCmd
