import LwipExt.Lib.Digits
import LwipExt.UdpCmd.Independence

/-!
Every frame stays inside the out buffer, and is what its header says.

The four printers of frames are the entries of `FramePrinter`. A printer counts what its
`snprintf` calls would have liked to write; with the strings of the configuration and of
the request inside their arrays all of it fits, so the count is what was written, and the
length field and the CRC belong to the text (`frames_right`).
-/

namespace LwipExt.UdpCmd

/-- The printers of frames. -/
inductive FramePrinter where
  | reply
  | config
  | checkId
  | media
  deriving DecidableEq, Repr

/-- The frame a printer leaves in the out buffer. -/
def FramePrinter.run : FramePrinter → ExtJsonParser → ExtJsonParser
  | .reply, parser => extUdpCmdResponseReply parser
  | .config, parser => extJsonResponsePrintConfig parser
  | .checkId, parser => securityCheckId parser
  | .media, parser => extUdpCmdResponseTailCalculate (mediaDataText parser)

/-- What is written stands inside `outBuffer`. -/
def InBuffer (parser : ExtJsonParser) : Prop := parser.outBuffer.length ≤ extJsonOutBufSize

/-- The frame of a text is in the out buffer. -/
structure FrameRight (text : Bytes) (parser : ExtJsonParser) : Prop where
  inside : InBuffer parser
  index : parser.outIndex = (frameBytes cmdTagResponse text).length
  written : frameOf parser = frameBytes cmdTagResponse text
  length : lengthOf (frameOf parser) = ipcmdHeaderLength + text.length
  crc : ∀ buf, crcReceived (receivedBuffer buf (frameOf parser)) =
    crcDecoded (receivedBuffer buf (frameOf parser))

/-! ### What is written stays in the buffer -/

theorem printTexts_inside {base index : Nat} {size : Int} {buf : Bytes} (texts : List Bytes)
    (fits : (index : Int) + texts.flatten.length < size) (room : base + size ≤ extJsonOutBufSize)
    (inside : buf.length ≤ extJsonOutBufSize) :
    (printTexts base size index buf texts).1.length ≤ extJsonOutBufSize := by
  induction texts generalizing index buf with
  | nil => exact inside
  | cons text texts ih =>
      rw [List.flatten_cons, List.length_append] at fits
      rw [printTexts, printAt_fits (by omega)]
      apply ih
      · push_cast
        omega
      · rw [length_bufWrite, List.length_append, List.length_singleton]
        omega

/-! ### The fields of a frame -/

theorem uint32At_int32 {mem : Bytes} {off : Nat} {n : UInt32} (holds : Holds mem off (int32 n)) :
    uint32At mem off = n := by
  have byte (k : Nat) (lt : k < 4) : mem.getD (off + k) 0 = (int32 n).getD k 0 := holds k lt
  unfold uint32At
  rw [byte 1 (by decide), byte 2 (by decide), byte 3 (by decide), ← Nat.add_zero off,
    byte 0 (by decide)]
  simp only [int32, List.getD_cons_zero, List.getD_cons_succ]
  have swap (a b c d : UInt32) : a ||| b ||| c ||| d = d ||| c ||| b ||| a := by
    rw [UInt32.or_comm, UInt32.or_comm (a ||| b), UInt32.or_comm a, ← UInt32.or_assoc,
      ← UInt32.or_assoc]
  exact (swap _ _ _ _).trans (Lib.join32 n)

theorem high_low (n : UInt16) : (n >>> 8).toUInt8.toNat * 256 + n.toUInt8.toNat = n.toNat := by
  have small := n.toNat_lt
  have high : (n >>> 8).toUInt8.toNat = n.toNat / 256 := by
    rw [UInt16.toNat_toUInt8, UInt16.toNat_shiftRight]
    change n.toNat >>> 8 % 256 = n.toNat / 256
    rw [Nat.shiftRight_eq_div_pow]
    omega
  rw [high, UInt16.toNat_toUInt8]
  omega

theorem length_frameBytes (tag : UInt16) (text : Bytes) :
    (frameBytes tag text).length = text.length + 2 * ipcmdHeaderLength := by
  simp only [frameBytes, List.length_append, short16, int32, List.length_cons, List.length_nil,
    ipcmdHeaderLength]
  omega

/-- The parts of a frame in a memory that holds it. -/
theorem frame_parts {data text : Bytes} {tag : UInt16} (holds : Holds data 0 (frameBytes tag text))
    (short : text.length + ipcmdHeaderLength < 65536) :
    lengthOf data = ipcmdHeaderLength + text.length ∧ Holds data ipcmdHeaderLength text ∧
      Holds data (ipcmdHeaderLength + text.length)
        (int32 (htonl (cmnMuxCRC32b false text))) := by
  unfold frameBytes at holds
  obtain ⟨behind, crc⟩ := holds.parts
  obtain ⟨header, body⟩ := behind.parts
  rw [List.length_append, ← Nat.add_assoc] at crc
  refine ⟨?_, body, crc⟩
  have high := header 2 (by decide : 2 < 4)
  have low := header 3 (by decide : 3 < 4)
  rw [Nat.zero_add] at high low
  rw [lengthOf, high, low]
  simp only [short16, List.cons_append, List.nil_append, List.getD_cons_succ, List.getD_cons_zero]
  rw [high_low, UInt16.toNat_ofNat', Nat.mod_eq_of_lt short, Nat.add_comm]

/-- The handler finds the CRC of a frame where it looks for it, and computes the same. -/
theorem crc_of_frame {data text : Bytes} {tag : UInt16} (holds : Holds data 0 (frameBytes tag text))
    (short : text.length + ipcmdHeaderLength < 65536) : crcReceived data = crcDecoded data := by
  obtain ⟨length, body, crc⟩ := frame_parts holds short
  have swapped : Holds (swapLength data) (ipcmdHeaderLength + text.length)
      (int32 (htonl (cmnMuxCRC32b false text))) :=
    crc.kept (.inr (Nat.le_add_right _ _))
  rw [crcReceived, crcDecoded, length, uint32At_int32 swapped, Nat.add_sub_cancel_left, body.read]

/-! ### The printers -/

/-- What is printed so far, inside the buffer. -/
structure Drafted (parser : ExtJsonParser) (text : Bytes) : Prop where
  printed : Printed parser text
  inside : InBuffer parser

theorem drafted_header {parser : ExtJsonParser} (inside : InBuffer parser) (texts : List Bytes)
    {out : Bytes} {index : Nat} (fits : texts.flatten.length < frameRoom)
    (result : printTexts ipcmdHeaderLength (extJsonOutBufSize - ipcmdHeaderLength) 0
      parser.outBuffer texts = (out, index)) :
    Drafted { parser with outBuffer := out, outIndex := index } texts.flatten := by
  refine ⟨printed_header texts fits result, ?_⟩
  have room := frameRoom_add
  have kept := @printTexts_inside ipcmdHeaderLength 0 (extJsonOutBufSize - ipcmdHeaderLength)
    parser.outBuffer texts (by omega) (by omega) inside
  rwa [result] at kept

theorem Drafted.body {parser : ExtJsonParser} {text : Bytes} (drafted : Drafted parser text)
    (texts : List Bytes) (fits : (text ++ texts.flatten).length < frameRoom) :
    Drafted (printBody parser texts) (text ++ texts.flatten) := by
  refine ⟨drafted.printed.body texts fits, ?_⟩
  have room := frameRoom_add
  have index := drafted.printed.index
  rw [List.length_append] at fits
  exact printTexts_inside texts (by push_cast; omega) (by push_cast; omega) drafted.inside

/-- The tail makes a frame of what is printed, if there is room for the CRC as well. -/
theorem Drafted.frame {parser : ExtJsonParser} {text : Bytes} (drafted : Drafted parser text)
    (fits : text.length + 5 < frameRoom) :
    FrameRight (text ++ str "\x7d") (extUdpCmdResponseTailCalculate parser) := by
  have room : frameRoom = 1020 := rfl
  have size : extJsonOutBufSize = 1024 := rfl
  have brace : (str "\x7d").length = 1 := rfl
  have written := drafted.printed.frame (by omega : text.length + 1 < frameRoom)
  have total : (text ++ str "\x7d").length = text.length + 1 := List.length_append
  have closed := drafted.body [str "\x7d"] (by
    rw [List.length_append, List.flatten_singleton, brace]
    omega)
  have index : (printBody parser [str "\x7d"]).outIndex = text.length + 1 := by
    rw [closed.printed.index, List.length_append, List.flatten_singleton, brace]
  have short : (text ++ str "\x7d").length + ipcmdHeaderLength < 65536 := by
    simp only [total, ipcmdHeaderLength]
    omega
  constructor
  · have inside : (printBody parser [str "\x7d"]).outBuffer.length ≤ extJsonOutBufSize := closed.inside
    simp only [InBuffer, extUdpCmdResponseTailCalculate, length_bufWrite, index, int32, short16,
      List.length_append, List.length_cons, List.length_nil, ipcmdHeaderLength]
    omega
  · rw [length_frameBytes, total, ← index]
    rfl
  · exact written
  · rw [written]
    exact (frame_parts (Holds.self _) short).1
  · intro buf
    have whole : receivedSize (frameOf (extUdpCmdResponseTailCalculate parser)) =
        (frameOf (extUdpCmdResponseTailCalculate parser)).length := by
      rw [receivedSize, written, length_frameBytes, total]
      exact Nat.min_eq_left (by simp only [ipcmdHeaderLength, extRwBufferSize]; omega)
    rw [receivedBuffer, whole, List.take_length, written]
    have copied := Holds.written buf 0 (frameBytes cmdTagResponse (text ++ str "\x7d")) []
    rw [List.append_nil] at copied
    exact crc_of_frame copied short

/-- The JSON text of a frame. -/
def FramePrinter.text : FramePrinter → ExtJsonParser → Bytes
  | .reply, parser => (responseHeader parser.runCfg.localCfg.mac parser.toRequest).flatten ++ str "\x7d"
  | .config, parser =>
      (responseHeader parser.runCfg.localCfg.mac parser.toRequest).flatten ++
        (dataBody (configTexts parser.runCfg parser.netIp)).flatten ++ str "\x7d"
  | .checkId, parser =>
      (responseHeader parser.runCfg.localCfg.mac (parser.withStatus .ok)).flatten ++ checkIdBody ++
        str "\x7d"
  | .media, parser =>
      (mediaHeader parser.runCfg).flatten ++
        (dataBody (extUdpCmdPrintMediaCfg parser.runCfg)).flatten ++ str "\x7d"

section Printers

variable {parser : ExtJsonParser} (inside : InBuffer parser)

include inside

theorem drafted_answer (answerable : Answerable parser.toRequest) :
    Drafted (extUdpCmdResponseHeaderPrint parser)
      (responseHeader parser.runCfg.localCfg.mac parser.toRequest).flatten := by
  have header := length_answer answerable parser.runCfg.localCfg.mac
  have room : frameRoom = 1020 := rfl
  exact drafted_header inside _ (by omega) rfl

theorem data_right (answerable : Answerable parser.toRequest) {texts : List Bytes}
    (short : texts.flatten.length ≤ 800) :
    FrameRight ((responseHeader parser.runCfg.localCfg.mac parser.toRequest).flatten ++
        (dataBody texts).flatten ++ str "\x7d")
      (extUdpCmdResponseTailCalculate
        (printBody (extUdpCmdResponseHeaderPrint parser) (dataBody texts))) := by
  have header := length_answer answerable parser.runCfg.localCfg.mac
  have body := length_dataBody texts
  have room : frameRoom = 1020 := rfl
  have both := (drafted_answer inside answerable).body (dataBody texts) (by
    rw [List.length_append]
    omega)
  apply both.frame
  rw [List.length_append]
  omega

/-- **Every frame stays inside the buffer, and its count, length and CRC are those of its
text.** -/
theorem frames_right (answerable : Answerable parser.toRequest) (stored : Stored parser.runCfg)
    (printer : FramePrinter) : FrameRight (printer.text parser) (printer.run parser) := by
  cases printer with
  | reply =>
      have header := length_answer answerable parser.runCfg.localCfg.mac
      have room : frameRoom = 1020 := rfl
      exact (drafted_answer inside answerable).frame (by omega)
  | config =>
      have texts := length_configTexts stored parser.netIp
      exact data_right inside answerable (by omega)
  | checkId =>
      have texts : [jsonString (str "get_id")
          ((bufRead scIdText 0 8).flatMap (hexByte 65))].flatten.length ≤ 800 := by decide +kernel
      have accepted : Answerable (parser.withStatus .ok) := ⟨answerable.1, .inl rfl⟩
      exact @data_right { parser with
        toRequest := parser.withStatus .ok
        setupData := { parser.setupData with scID := scIdText } } inside accepted _ texts
  | media =>
      have header := length_mediaHeader stored
      have body := length_dataBody (extUdpCmdPrintMediaCfg parser.runCfg)
      have media := length_mediaCfg parser.runCfg
      have room : frameRoom = 1020 := rfl
      have drafted := @drafted_header { parser with
        toRequest := parser.withStatus .ok
        setupData := { parser.setupData with scID := scIdText } } inside
        (mediaHeader parser.runCfg) _ _ (by omega) rfl
      have both := drafted.body (dataBody (extUdpCmdPrintMediaCfg parser.runCfg)) (by
        rw [List.length_append]
        omega)
      apply both.frame
      rw [List.length_append]
      omega

end Printers

/-- The reply to `get_param` of a receiver. -/
theorem frames_right_receiver :
    FrameRight (FramePrinter.config.text { runCfg := receiverCfg })
      (FramePrinter.config.run { runCfg := receiverCfg }) := by
  apply frames_right
  · exact Nat.zero_le _
  · exact ⟨by decide, .inr (by decide)⟩
  · exact ⟨by decide, by decide, by decide⟩

end LwipExt.UdpCmd
