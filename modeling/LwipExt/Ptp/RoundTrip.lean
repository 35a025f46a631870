import LwipExt.Lib.Digits
import LwipExt.Ptp.SharedBuffer

/-!
What the unpackers read in a packed message.

A chunk of a message stands where its packer copies it, unless a later copy covers it. The
unpackers put the bytes of a chunk together again.
-/

namespace LwipExt.Ptp

open Lib

/-! ### Joining bytes -/

/-- The sign bits that the shift brings in are not written. -/
theorem high_word (n : Int64) :
    (n >>> 32).toUInt64.toUInt32 = (n.toUInt64 >>> 32).toUInt32 := by
  have unsigned : (n.toUInt64 >>> 32).toBitVec = n.toBitVec >>> 32 := by
    rw [UInt64.toBitVec_shiftRight, Int64.toBitVec_toUInt64]
    rfl
  have signed : (n >>> 32).toBitVec = n.toBitVec.sshiftRight 32 := by
    rw [Int64.toBitVec_shiftRight]
    rfl
  apply UInt32.toBitVec_inj.mp
  rw [UInt64.toBitVec_toUInt32, UInt64.toBitVec_toUInt32, unsigned, Int64.toBitVec_toUInt64,
    signed]
  ext i lt
  have inside : 32 + i < 64 := by omega
  have below : i < 64 := by omega
  rw [BitVec.getElem_setWidth, BitVec.getElem_setWidth, BitVec.getLsbD_sshiftRight,
    BitVec.getLsbD_ushiftRight, if_pos inside]
  simp [below]

/-- The two words of a signed number make it again. -/
theorem join_words (n : Int64) :
    ((n >>> 32).toUInt64.toUInt32.toUInt64.toInt64 <<< 32) +
      n.toUInt64.toUInt32.toUInt64.toInt64 = n := by
  have shifted (m : UInt64) : m.toInt64 <<< 32 = (m <<< 32).toInt64 := by
    apply Int64.toBitVec_inj.mp
    rw [Int64.toBitVec_shiftLeft]
    rfl
  rw [high_word, shifted, ← UInt64.toInt64_add, join64, Int64.toInt64_toUInt64]

/-! ### What stands at an offset -/

section Standing

variable {buf : Bytes} {off : Nat}

theorem byte_of_holds {b : UInt8} (holds : Holds buf off [b]) : buf.getD off 0 = b :=
  holds 0 Nat.one_pos

theorem be16At_of_holds {n : UInt16} (holds : Holds buf off (be16 n)) : be16At buf off = n := by
  have high : buf.getD off 0 = (n >>> 8).toUInt8 := holds 0 (by simp [be16])
  have low : buf.getD (off + 1) 0 = n.toUInt8 := holds 1 (by simp [be16])
  rw [be16At, high, low, join16]

theorem be32At_of_holds {n : UInt32} (holds : Holds buf off (be32 n)) : be32At buf off = n := by
  have first : buf.getD off 0 = (n >>> 24).toUInt8 := holds 0 (by simp [be32])
  have second : buf.getD (off + 1) 0 = (n >>> 16).toUInt8 := holds 1 (by simp [be32])
  have third : buf.getD (off + 2) 0 = (n >>> 8).toUInt8 := holds 2 (by simp [be32])
  have fourth : buf.getD (off + 3) 0 = n.toUInt8 := holds 3 (by simp [be32])
  rw [be32At, first, second, third, fourth, join32]

/-- The parts of a text that stands in the buffer. -/
theorem holds_append {text text' : Bytes} (holds : Holds buf off (text ++ text')) :
    Holds buf off text ∧ Holds buf (off + text.length) text' := by
  constructor
  · intro i lt
    rw [holds i (by rw [List.length_append]; omega), List.getD_eq_getElem?_getD,
      List.getElem?_append_left lt, ← List.getD_eq_getElem?_getD]
  · intro i lt
    have at_ := holds (text.length + i) (by rw [List.length_append]; omega)
    have behind : (text ++ text').getD (text.length + i) 0 = text'.getD i 0 := by
      rw [List.getD_eq_getElem?_getD, List.getElem?_append_right (by omega),
        Nat.add_sub_cancel_left, List.getD_eq_getElem?_getD]
    rw [Nat.add_assoc, at_, behind]

theorem clockIdentityAt_of_holds {id : ClockIdentity} (holds : Holds buf off id.toList) :
    clockIdentityAt buf off = id := by
  apply Vector.ext
  intro i lt
  have at_ := holds i (by simpa using lt)
  rw [clockIdentityAt, Vector.getElem_ofFn, at_]
  simp [List.getD_eq_getElem?_getD, lt]

theorem portIdentityAt_of_holds {p : PortIdentity} (holds : Holds buf off (portIdentityBytes p)) :
    portIdentityAt buf off = p := by
  obtain ⟨clock, port⟩ := holds_append holds
  rw [Vector.length_toList] at port
  rw [portIdentityAt, clockIdentityAt_of_holds clock, be16At_of_holds port,
    Int16.toInt16_toUInt16]

theorem timestampAt_of_holds {t : Timestamp} (holds : Holds buf off (timestampBytes t)) :
    timestampAt buf off = t := by
  obtain ⟨seconds, nanoseconds⟩ := holds_append holds
  obtain ⟨msb, lsb⟩ := holds_append seconds
  have at_lsb : be32At buf (off + 2) = t.secondsLsb := be32At_of_holds lsb
  have at_nanoseconds : be32At buf (off + 6) = t.nanosecondsField := be32At_of_holds nanoseconds
  rw [timestampAt, be16At_of_holds msb, at_lsb, at_nanoseconds]

theorem correction_of_holds {n : Int64} (holds : Holds buf off (correctionBytes n)) :
    ((be32At buf off).toUInt64.toInt64 <<< 32) + (be32At buf (off + 4)).toUInt64.toInt64 = n := by
  obtain ⟨high, low⟩ := holds_append holds
  have at_low : be32At buf (off + 4) = n.toUInt64.toUInt32 := be32At_of_holds low
  rw [be32At_of_holds high, at_low, join_words]

end Standing

/-! ### Copies that no later copy touches -/

/-- A copy of the list that no later one touches. -/
def Stands (off : Nat) (src : Bytes) : List (Nat × Bytes) → Prop
  | [] => False
  | copy :: later =>
      (copy = (off, src) ∧
        ∀ other ∈ later, off + src.length ≤ other.1 ∨ other.1 + other.2.length ≤ off) ∨
      Stands off src later

/-- A text that no copy touches. -/
theorem holds_overlay_of_apart {copies : List (Nat × Bytes)} {buf src : Bytes} {off : Nat}
    (holds : Holds buf off src)
    (apart : ∀ other ∈ copies, off + src.length ≤ other.1 ∨ other.1 + other.2.length ≤ off) :
    Holds (overlay buf copies) off src := by
  induction copies generalizing buf with
  | nil => exact holds
  | cons copy copies ih =>
      rw [List.forall_mem_cons] at apart
      exact ih (holds.kept apart.1) apart.2

theorem holds_overlay {copies : List (Nat × Bytes)} {src : Bytes} {off : Nat}
    (stands : Stands off src copies) (buf : Bytes) : Holds (overlay buf copies) off src := by
  induction copies generalizing buf with
  | nil => exact absurd stands id
  | cons copy copies ih =>
      rcases stands with ⟨rfl, apart⟩ | stands
      · have written := Holds.written buf off src []
        rw [List.append_nil] at written
        change Holds (overlay (bufWrite buf off src) copies) off src
        exact holds_overlay_of_apart written apart
      · exact ih stands _

/-- A chunk of a packed message. -/
theorem holds_pack {c : PtpClock} {m : Message} {src : Bytes} {off : Nat}
    (stands : Stands off src (m.copies c)) (buf : Bytes) : Holds (pack c buf m) off src := by
  rw [pack_eq]
  exact holds_overlay stands _

/-- A chunk of the header that a packer leaves alone. -/
theorem holds_header {c : PtpClock} {m : Message} {src : Bytes} {off : Nat} (pos : 0 < off)
    (stands : Stands off src (startCopies c))
    (apart : ∀ span ∈ m.spans, off + src.length ≤ span.1 ∨ span.1 + span.2 ≤ off)
    (buf : Bytes) : Holds (pack c (msgPackHeader c buf) m) off src := by
  intro i lt
  have free : covers m.spans (off + i) = false := by
    rw [covers_eq_false]
    intro span mem
    have := apart span mem
    omega
  rw [getD_pack (by omega) free, msgPackHeader_eq]
  exact holds_overlay stands buf i lt

/-! ### Values of a message -/

/-- The sequence number that a packer writes. -/
def Message.sequenceId (c : PtpClock) : Message → Int16
  | .announce => c.sentAnnounceSequenceId
  | .sync _ => c.sentSyncSequenceId
  | .followUp _ => c.sentSyncSequenceId - 1
  | .delayReq _ => c.sentDelayReqSequenceId
  | .pdelayReq _ => c.sentPDelayReqSequenceId
  | .delayResp header _ | .pdelayResp header _ | .pdelayRespFollowUp header _ => header.sequenceId

/-- The interval that a packer writes. -/
def Message.logMessageInterval (c : PtpClock) : Message → Int8
  | .announce => c.portDS.logAnnounceInterval
  | .sync _ | .followUp _ => c.portDS.logSyncInterval
  | .delayResp _ _ => c.portDS.logMinDelayReqInterval
  | .delayReq _ | .pdelayReq _ | .pdelayResp _ _ | .pdelayRespFollowUp _ _ => 0x7f

/-- The values that `msgPackHeader` and the packer of a message write into the header; of the
flags they write only the first, and that one only for a two-step clock. -/
def Message.header (c : PtpClock) (buf : Bytes) (m : Message) : MsgHeader where
  transportSpecific := 8
  messageType := m.type.code
  versionPTP := c.portDS.versionNumber &&& 0x0f
  messageLength := Int16.ofNat m.type.length
  domainNumber := c.defaultDS.domainNumber
  flagField0 := if c.defaultDS.twoStepFlag then flag0TwoStep else buf.getD 6 0
  flagField1 := buf.getD 7 0
  correctionfield := m.correction.getD 0
  sourcePortIdentity := c.portDS.portIdentity
  sequenceId := m.sequenceId c
  controlField := m.type.control
  logMessageInterval := m.logMessageInterval c

/-- The values of an Announce. -/
def PtpClock.announced (c : PtpClock) : MsgAnnounce where
  currentUtcOffset := c.timePropertiesDS.currentUtcOffset
  grandmasterPriority1 := c.parentDS.grandmasterPriority1
  grandmasterClockQuality := c.defaultDS.clockQuality
  grandmasterPriority2 := c.parentDS.grandmasterPriority2
  grandmasterIdentity := c.parentDS.grandmasterIdentity
  stepsRemoved := c.currentDS.stepsRemoved
  timeSource := c.timePropertiesDS.timeSource

/-- The unpacker of a message finds in a packet what the packer was given. -/
def Message.Unpacks (c : PtpClock) (packet : Bytes) : Message → Prop
  | .announce => msgUnpackAnnounce packet = c.announced
  | .sync time | .followUp time | .delayReq time | .pdelayReq time => msgUnpackSync packet = time
  | .delayResp header time | .pdelayResp header time | .pdelayRespFollowUp header time =>
      msgUnpackDelayResp packet = ⟨time, header.sourcePortIdentity⟩

section Values

variable (c : PtpClock) (buf : Bytes) (m : Message)

@[simp] theorem length_be16 (n : UInt16) : (be16 n).length = 2 := rfl

@[simp] theorem length_timestampBytes (t : Timestamp) : (timestampBytes t).length = 10 := rfl

@[simp] theorem length_portIdentityBytes (p : PortIdentity) :
    (portIdentityBytes p).length = 10 := by
  simp [portIdentityBytes]

/-- A packet that holds the chunks of a message. -/
def Carries (packet : Bytes) : Prop :=
  ∀ {off : Nat} {src : Bytes}, Stands off src (m.copies c) → Holds packet off src

theorem carries_pack : Carries c m (pack c buf m) := fun stands => holds_pack stands buf

/-- A copy lies in the bytes that are sent. -/
theorem stands_within {off : Nat} {src : Bytes} (stands : Stands off src (m.copies c)) :
    off + src.length ≤ m.type.length := by
  have within : ∀ copies : List (Nat × Bytes), Stands off src copies →
      (off, src.length) ∈ spans copies := by
    intro copies
    induction copies with
    | nil => exact fun stands => absurd stands id
    | cons copy copies ih =>
        rintro (⟨rfl, -⟩ | stands)
        · exact List.mem_cons_self
        · exact List.mem_cons_of_mem _ (ih stands)
  have bounded : ∀ span ∈ m.spans, span.1 + span.2 ≤ m.type.length := by
    cases m <;> simp [Message.spans, Message.type, MsgType.length]
  have mem := within _ stands
  rw [spans_copies] at mem
  exact bounded _ mem

theorem carries_emitted : Carries c m (emitted c buf m) := by
  intro off src stands i lt
  have within := stands_within c m stands
  rw [emitted, getD_bufRead _ _ (by omega), Nat.zero_add]
  exact holds_pack stands buf i lt

section Packet

variable {c m} {packet : Bytes} (carries : Carries c m packet)
include carries

/-- A number of 16 bits in a message. -/
theorem Carries.be16At {off : Nat} {n : Int16} (stands : Stands off (be16 n.toUInt16) (m.copies c)) :
    (be16At packet off).toInt16 = n := by
  rw [be16At_of_holds (carries stands), Int16.toInt16_toUInt16]

/-- A byte of a message. -/
theorem Carries.byte {off : Nat} {b : UInt8} (stands : Stands off [b] (m.copies c)) :
    packet.getD off 0 = b := byte_of_holds (carries stands)

end Packet

theorem unpack_announce {packet : Bytes} (carries : Carries c .announce packet) :
    msgUnpackAnnounce packet = c.announced := by
  have origin : Stands 34 (timestampBytes {}) (Message.announce.copies c) := by
    rw [show timestampBytes {} = List.replicate 10 0 from rfl]
    simp [Message.copies, headerCopies, Stands]
  have identity : Stands 53 c.parentDS.grandmasterIdentity.toList (Message.announce.copies c) := by
    simp [Message.copies, headerCopies, Stands]
  rw [msgUnpackAnnounce, PtpClock.announced, timestampAt_of_holds (carries origin),
    clockIdentityAt_of_holds (carries identity), carries.be16At, carries.be16At, carries.be16At,
    carries.byte, carries.byte, carries.byte, carries.byte, carries.byte]
  all_goals simp [Message.copies, headerCopies, Stands]

/-- Each unpacker returns what its packer was given. -/
theorem unpack_body {packet : Bytes} (carries : Carries c m packet) : m.Unpacks c packet := by
  have time {t : Timestamp} (stands : Stands 34 (timestampBytes t) (m.copies c)) :
      timestampAt packet 34 = t := timestampAt_of_holds (carries stands)
  have port {p : PortIdentity} (stands : Stands 44 (portIdentityBytes p) (m.copies c)) :
      portIdentityAt packet 44 = p := portIdentityAt_of_holds (carries stands)
  cases m with
  | announce => exact unpack_announce c carries
  | sync t | delayReq t | followUp t | pdelayReq t =>
      exact time (by simp [Message.copies, headerCopies, Stands])
  | delayResp header t | pdelayResp header t | pdelayRespFollowUp header t =>
      rw [Message.Unpacks, msgUnpackDelayResp, time, port]
      · simp [Message.copies, headerCopies, Stands]
      · simp [Message.copies, headerCopies, Stands]

/-- The bytes that are sent give back the values. -/
theorem unpack_emitted : m.Unpacks c (emitted c buf m) := unpack_body c m (carries_emitted c buf m)

/-- The parts of the header that a packer writes. -/
theorem stands_headerCopies :
    Stands 2 (be16 (UInt16.ofNat m.type.length)) (m.copies c) ∧
      Stands 30 (be16 (m.sequenceId c).toUInt16) (m.copies c) ∧
      Stands 32 [m.type.control] (m.copies c) ∧
      Stands 33 [(m.logMessageInterval c).toUInt8] (m.copies c) := by
  cases m <;>
    simp [Message.copies, headerCopies, Stands, Message.sequenceId, Message.logMessageInterval,
      Message.type]

/-- The parts of the header that `msgPackHeader` writes. -/
theorem stands_startCopies :
    Stands 1 [c.portDS.versionNumber] (startCopies c) ∧
      Stands 4 [c.defaultDS.domainNumber] (startCopies c) ∧
      Stands 8 (correctionBytes 0) (startCopies c) ∧
      Stands 20 c.portDS.portIdentity.clockIdentity.toList (startCopies c) ∧
      Stands 28 (be16 c.portDS.portIdentity.portNumber.toUInt16) (startCopies c) := by
  rw [correctionBytes_zero]
  cases twoStep : c.defaultDS.twoStepFlag <;> simp [startCopies, twoStep, Stands]

/-- The port identity of the header is the clock's own. -/
theorem header_portIdentity :
    portIdentityAt (pack c (msgPackHeader c buf) m) 20 = c.portDS.portIdentity := by
  obtain ⟨-, -, -, clock, port⟩ := stands_startCopies c
  have apart {off length : Nat} (le : 16 ≤ off) (le' : off + length ≤ 30) :
      ∀ span ∈ m.spans, off + length ≤ span.1 ∨ span.1 + span.2 ≤ off := by
    cases m <;> simp [Message.spans] <;> omega
  have at_clock := holds_header (by omega) clock (apart (by omega) (by simp)) buf
  have at_port := holds_header (by omega) port (apart (by omega) (by simp)) buf
  rw [portIdentityAt, clockIdentityAt_of_holds at_clock, be16At_of_holds at_port,
    Int16.toInt16_toUInt16]

/-- The correction field of the header. -/
theorem header_correction :
    Holds (pack c (msgPackHeader c buf) m) 8 (correctionBytes (m.correction.getD 0)) := by
  obtain ⟨-, -, zero, -, -⟩ := stands_startCopies c
  cases m with
  | announce | followUp t => exact holds_header (by omega) zero (by simp [Message.spans]) buf
  | sync t | delayReq t | pdelayReq t | pdelayResp header t =>
      rw [Message.correction, Option.getD_some, correctionBytes_zero]
      exact holds_pack (by simp [Message.copies, headerCopies, Stands]) _
  | delayResp header t | pdelayRespFollowUp header t =>
      exact holds_pack (by simp [Message.copies, headerCopies, Stands, Message.correction]) _

/-- The flags of the header. -/
theorem header_flags :
    (pack c (msgPackHeader c buf) m).getD 6 0 =
        (if c.defaultDS.twoStepFlag then flag0TwoStep else buf.getD 6 0) ∧
      (pack c (msgPackHeader c buf) m).getD 7 0 = buf.getD 7 0 := by
  have kept {i : Nat} (header : isHeaders i) :
      (pack c (msgPackHeader c buf) m).getD i 0 = (overlay buf (startCopies c)).getD i 0 := by
    obtain ⟨pos, free⟩ := headers_free header m
    rw [getD_pack pos free, msgPackHeader_eq]
  rw [kept (by simp [isHeaders]), kept (by simp [isHeaders])]
  constructor
  · cases twoStep : c.defaultDS.twoStepFlag with
    | true =>
        exact byte_of_holds (holds_overlay (by simp [startCopies, twoStep, Stands]) buf)
    | false =>
        apply getD_overlay
        rw [covers_eq_false]
        simp [startCopies, twoStep, spans]
  · apply getD_overlay
    rw [covers_eq_false]
    cases twoStep : c.defaultDS.twoStepFlag <;> simp [startCopies, twoStep, spans]

/-- The first byte holds the transport and the type. -/
theorem header_type :
    (pack c (msgPackHeader c buf) m).getD 0 0 >>> 4 = 8 ∧
      (pack c (msgPackHeader c buf) m).getD 0 0 &&& 0x0f = m.type.code := by
  have transport : (msgPackHeader c buf).getD 0 0 = 0x80 := by
    rw [msgPackHeader_eq]
    refine byte_of_holds (holds_overlay ?_ buf)
    cases twoStep : c.defaultDS.twoStepFlag <;> simp [startCopies, twoStep, Stands]
  refine ⟨?_, pack_type c _ m⟩
  have upper (type : MsgType) : ((0x80 : UInt8) &&& 0xf0 ||| type.code) >>> 4 = 8 := by
    cases type <;> rfl
  rw [getD_pack_zero, transport, upper]

/-- The unpacked header holds what was packed. -/
theorem unpack_header : msgUnpackHeader (pack c (msgPackHeader c buf) m) = m.header c buf := by
  obtain ⟨transport, type⟩ := header_type c buf m
  obtain ⟨length, sequence, control, interval⟩ := stands_headerCopies c m
  obtain ⟨version, domain, -, -, -⟩ := stands_startCopies c
  obtain ⟨flag0, flag1⟩ := header_flags c buf m
  have apart {off : Nat} (le : off + 1 ≤ 8) (ne : off ≠ 2) (ne' : off ≠ 3) :
      ∀ span ∈ m.spans, off + 1 ≤ span.1 ∨ span.1 + span.2 ≤ off := by
    cases m <;> simp [Message.spans] <;> omega
  have carries : Carries c m (pack c (msgPackHeader c buf) m) := carries_pack c _ m
  have at_version := byte_of_holds
    (holds_header (m := m) (by omega) version (apart (by omega) (by omega) (by omega)) buf)
  have at_domain := byte_of_holds
    (holds_header (m := m) (by omega) domain (apart (by omega) (by omega) (by omega)) buf)
  have at_length : (be16At (pack c (msgPackHeader c buf) m) 2).toInt16 =
      Int16.ofNat m.type.length := by
    rw [be16At_of_holds (holds_pack length _)]
    rfl
  rw [msgUnpackHeader, Message.header, transport, type, at_version, at_domain, at_length, flag0,
    flag1, correction_of_holds (header_correction c buf m), header_portIdentity,
    carries.be16At sequence, carries.byte control, carries.byte interval,
    Int8.toInt8_toUInt8]

/-- **Unpacking inverts packing**: the header and the body of a packed message are the values
that were packed. -/
theorem unpack_pack :
    msgUnpackHeader (pack c (msgPackHeader c buf) m) = m.header c buf ∧
      m.Unpacks c (pack c (msgPackHeader c buf) m) :=
  ⟨unpack_header c buf m, unpack_body c m (carries_pack c (msgPackHeader c buf) m)⟩

end Values

end LwipExt.Ptp
