import LwipExt.Ptp.Msg

/-!
What a message shows of the messages packed before it.

A packer is a list of copies into the buffer. A position that they cover holds the same after
any buffer; another one holds what the buffer held.
-/

namespace LwipExt.Ptp

/-! ### Lists of copies -/

/-- Copies into a buffer, one after the other. -/
def overlay (buf : Bytes) : List (Nat × Bytes) → Bytes
  | [] => buf
  | copy :: copies => overlay (bufWrite buf copy.1 copy.2) copies

/-- The offsets and lengths of copies. -/
def spans (copies : List (Nat × Bytes)) : List (Nat × Nat) :=
  copies.map fun copy => (copy.1, copy.2.length)

/-- A position lies in one of the spans. -/
def covers (spans : List (Nat × Nat)) (i : Nat) : Bool :=
  spans.any fun span => span.1 ≤ i && i < span.1 + span.2

/-- A position that no copy covers keeps its byte. -/
theorem getD_overlay {copies : List (Nat × Bytes)} {i : Nat}
    (free : covers (spans copies) i = false) (buf : Bytes) :
    (overlay buf copies).getD i 0 = buf.getD i 0 := by
  induction copies generalizing buf with
  | nil => rfl
  | cons copy copies ih =>
      simp only [spans, covers, List.map_cons, List.any_cons, Bool.or_eq_false_iff] at free
      obtain ⟨outside, rest⟩ := free
      rw [overlay, ih rest, getD_bufWrite_eq]
      simp only [Bool.and_eq_false_iff, decide_eq_false_iff_not] at outside
      rcases outside with before | behind
      · rw [if_pos (by omega)]
      · rw [if_neg behind]
        split <;> rfl

/-- A position that a copy covers holds the same after any two buffers. -/
theorem overlay_covered {copies : List (Nat × Bytes)} {i : Nat}
    (covered : covers (spans copies) i = true) (buf buf' : Bytes) :
    (overlay buf copies).getD i 0 = (overlay buf' copies).getD i 0 := by
  induction copies generalizing buf buf' with
  | nil => cases covered
  | cons copy copies ih =>
      by_cases later : covers (spans copies) i = true
      · exact ih later _ _
      · rw [Bool.not_eq_true] at later
        simp only [spans, covers, List.map_cons, List.any_cons, Bool.or_eq_true] at covered
        have inside : copy.1 ≤ i ∧ i < copy.1 + copy.2.length := by
          rcases covered with here | there
          · simpa using here
          · rw [spans, covers, there] at later
            cases later
        have written (b : Bytes) :
            (bufWrite b copy.1 copy.2).getD i 0 = copy.2.getD (i - copy.1) 0 := by
          rw [getD_bufWrite_eq, if_neg (by omega), if_pos inside.2]
        rw [overlay, overlay, getD_overlay later, getD_overlay later, written, written]

theorem overlay_append (buf : Bytes) (front back : List (Nat × Bytes)) :
    overlay buf (front ++ back) = overlay (overlay buf front) back := by
  induction front generalizing buf with
  | nil => rfl
  | cons copy front ih => exact ih _

/-- What the last copy over a position leaves there. -/
theorem getD_overlay_last (buf : Bytes) (front : List (Nat × Bytes)) {back : List (Nat × Bytes)}
    {off i : Nat} {src : Bytes} (inside : i < src.length)
    (free : covers (spans back) (off + i) = false) :
    (overlay buf (front ++ (off, src) :: back)).getD (off + i) 0 = src.getD i 0 := by
  have before : ¬ off + i < off := by omega
  have within : off + i < off + src.length := by omega
  rw [overlay_append, overlay, getD_overlay free, getD_bufWrite_eq, if_neg before,
    if_pos within, Nat.add_sub_cancel_left]

/-! ### Messages -/

/-- A message to pack, with the arguments of its packer. -/
inductive Message where
  | announce
  | sync (originTimestamp : Timestamp)
  | followUp (preciseOriginTimestamp : Timestamp)
  | delayReq (originTimestamp : Timestamp)
  | delayResp (header : MsgHeader) (receiveTimestamp : Timestamp)
  | pdelayReq (originTimestamp : Timestamp)
  | pdelayResp (header : MsgHeader) (requestReceiptTimestamp : Timestamp)
  | pdelayRespFollowUp (header : MsgHeader) (responseOriginTimestamp : Timestamp)

def Message.type : Message → MsgType
  | .announce => .announce
  | .sync _ => .sync
  | .followUp _ => .followUp
  | .delayReq _ => .delayReq
  | .delayResp _ _ => .delayResp
  | .pdelayReq _ => .pdelayReq
  | .pdelayResp _ _ => .pdelayResp
  | .pdelayRespFollowUp _ _ => .pdelayRespFollowUp

/-- The packer of a message. -/
def pack (c : PtpClock) (buf : Bytes) : Message → Bytes
  | .announce => msgPackAnnounce c buf
  | .sync time => msgPackSync c buf time
  | .followUp time => msgPackFollowUp c buf time
  | .delayReq time => msgPackDelayReq c buf time
  | .delayResp header time => msgPackDelayResp c buf header time
  | .pdelayReq time => msgPackPDelayReq c buf time
  | .pdelayResp header time => msgPackPDelayResp buf header time
  | .pdelayRespFollowUp header time => msgPackPDelayRespFollowUp buf header time

/-- The bytes of a message that are sent. -/
def emitted (c : PtpClock) (buf : Bytes) (m : Message) : Bytes :=
  bufRead (pack c buf m) 0 m.type.length

/-- The first byte, of which a packer keeps the upper half. -/
def packType (type : MsgType) (buf : Bytes) : Bytes :=
  let buf := bufWrite buf 0 [buf.getD 0 0 &&& 0xf0]
  bufWrite buf 0 [buf.getD 0 0 ||| type.code]

/-- The copies that every packer makes. -/
def headerCopies (type : MsgType) (sequenceId : Int16) (logMessageInterval : Int8) :
    List (Nat × Bytes) :=
  [(2, be16 (UInt16.ofNat type.length)), (30, be16 sequenceId.toUInt16), (32, [type.control]),
    (33, [logMessageInterval.toUInt8])]

/-- The copies of the packer of a message. -/
def Message.copies (c : PtpClock) : Message → List (Nat × Bytes)
  | .announce =>
      headerCopies .announce c.sentAnnounceSequenceId c.portDS.logAnnounceInterval ++
        [(34, List.replicate 10 0), (44, be16 c.timePropertiesDS.currentUtcOffset.toUInt16),
          (47, [c.parentDS.grandmasterPriority1]), (48, [c.defaultDS.clockQuality.clockClass]),
          (49, [c.defaultDS.clockQuality.clockAccuracy]),
          (50, be16 c.defaultDS.clockQuality.offsetScaledLogVariance.toUInt16),
          (52, [c.parentDS.grandmasterPriority2]), (53, c.parentDS.grandmasterIdentity.toList),
          (61, be16 c.currentDS.stepsRemoved.toUInt16), (63, [c.timePropertiesDS.timeSource])]
  | .sync time =>
      headerCopies .sync c.sentSyncSequenceId c.portDS.logSyncInterval ++
        [(8, List.replicate 8 0), (34, timestampBytes time)]
  | .followUp time =>
      headerCopies .followUp (c.sentSyncSequenceId - 1) c.portDS.logSyncInterval ++
        [(34, timestampBytes time)]
  | .delayReq time =>
      headerCopies .delayReq c.sentDelayReqSequenceId 0x7f ++
        [(8, List.replicate 8 0), (34, timestampBytes time)]
  | .delayResp header time =>
      headerCopies .delayResp header.sequenceId c.portDS.logMinDelayReqInterval ++
        [(8, List.replicate 8 0), (8, correctionBytes header.correctionfield),
          (34, timestampBytes time), (44, portIdentityBytes header.sourcePortIdentity)]
  | .pdelayReq time =>
      headerCopies .pdelayReq c.sentPDelayReqSequenceId 0x7f ++
        [(8, List.replicate 8 0), (34, timestampBytes time), (44, List.replicate 10 0)]
  | .pdelayResp header time =>
      headerCopies .pdelayResp header.sequenceId 0x7f ++
        [(8, List.replicate 8 0), (34, timestampBytes time),
          (44, portIdentityBytes header.sourcePortIdentity)]
  | .pdelayRespFollowUp header time =>
      headerCopies .pdelayRespFollowUp header.sequenceId 0x7f ++
        [(8, correctionBytes header.correctionfield), (34, timestampBytes time),
          (44, portIdentityBytes header.sourcePortIdentity)]

/-- A packer writes the type and makes its copies. -/
theorem pack_eq (c : PtpClock) (buf : Bytes) (m : Message) :
    pack c buf m = overlay (packType m.type buf) (m.copies c) := by
  cases m <;> rfl

/-- The positions that the copies of a message cover. -/
def Message.spans : Message → List (Nat × Nat)
  | .announce =>
      [(2, 2), (30, 2), (32, 1), (33, 1), (34, 10), (44, 2), (47, 1), (48, 1), (49, 1), (50, 2),
        (52, 1), (53, 8), (61, 2), (63, 1)]
  | .sync _ | .delayReq _ => [(2, 2), (30, 2), (32, 1), (33, 1), (8, 8), (34, 10)]
  | .followUp _ => [(2, 2), (30, 2), (32, 1), (33, 1), (34, 10)]
  | .delayResp _ _ =>
      [(2, 2), (30, 2), (32, 1), (33, 1), (8, 8), (8, 8), (34, 10), (44, 10)]
  | .pdelayReq _ | .pdelayResp _ _ | .pdelayRespFollowUp _ _ =>
      [(2, 2), (30, 2), (32, 1), (33, 1), (8, 8), (34, 10), (44, 10)]

theorem spans_copies (c : PtpClock) (m : Message) : spans (m.copies c) = m.spans := by
  cases m <;> simp [spans, Message.copies, Message.spans, headerCopies, be16, be32,
    timestampBytes, portIdentityBytes, correctionBytes]

/-! ### What a packer leaves alone -/

theorem getD_packType {i : Nat} (pos : 0 < i) (type : MsgType) (buf : Bytes) :
    (packType type buf).getD i 0 = buf.getD i 0 := by
  have past : ¬ i < 0 + 1 := by omega
  simp only [packType, getD_bufWrite_eq, Nat.not_lt_zero, if_false, List.length_singleton, past]

theorem getD_packType_zero (type : MsgType) (buf : Bytes) :
    (packType type buf).getD 0 0 = buf.getD 0 0 &&& 0xf0 ||| type.code := by
  simp only [packType, getD_bufWrite_eq, Nat.lt_irrefl, if_false, List.length_singleton,
    Nat.zero_lt_one, Nat.zero_add, if_true, List.getD_cons_zero, Nat.sub_zero]

/-- A position that a packer does not cover keeps its byte. -/
theorem getD_pack {m : Message} {i : Nat} (pos : 0 < i) (free : covers m.spans i = false)
    (c : PtpClock) (buf : Bytes) : (pack c buf m).getD i 0 = buf.getD i 0 := by
  rw [← spans_copies c] at free
  rw [pack_eq, getD_overlay free, getD_packType pos]

/-- A position that a packer covers does not show the buffer. -/
theorem pack_covered {m : Message} {i : Nat} (covered : covers m.spans i = true) (c : PtpClock)
    (buf buf' : Bytes) : (pack c buf m).getD i 0 = (pack c buf' m).getD i 0 := by
  rw [← spans_copies c] at covered
  rw [pack_eq, pack_eq]
  exact overlay_covered covered _ _

theorem getD_pack_zero (c : PtpClock) (buf : Bytes) (m : Message) :
    (pack c buf m).getD 0 0 = buf.getD 0 0 &&& 0xf0 ||| m.type.code := by
  have free : covers (spans (m.copies c)) 0 = false := by
    rw [spans_copies]
    cases m <;> rfl
  rw [pack_eq, getD_overlay free, getD_packType_zero]

/-- The two halves of a byte do not mix. -/
theorem and_or_code (b : UInt8) (type : MsgType) (mask : UInt8) :
    (b &&& 0xf0 ||| type.code) &&& mask = (b &&& 0xf0) &&& mask ||| type.code &&& mask := by
  apply UInt8.toNat_inj.mp
  simp only [UInt8.toNat_and, UInt8.toNat_or, Nat.and_or_distrib_right]

/-- The type of a packed message. -/
theorem pack_type (c : PtpClock) (buf : Bytes) (m : Message) :
    (pack c buf m).getD 0 0 &&& 0x0f = m.type.code := by
  have cleared (b : UInt8) : (b &&& 0xf0) &&& 0x0f = 0 := by
    rw [UInt8.and_assoc]
    exact UInt8.and_zero
  have own : m.type.code &&& 0x0f = m.type.code := by
    cases m.type <;> rfl
  rw [getD_pack_zero, and_or_code, cleared, own, UInt8.zero_or]

/-- The upper half of the first byte stays. -/
theorem pack_upper (c : PtpClock) (buf : Bytes) (m : Message) :
    (pack c buf m).getD 0 0 &&& 0xf0 = buf.getD 0 0 &&& 0xf0 := by
  have cleared : m.type.code &&& 0xf0 = 0 := by
    cases m.type <;> rfl
  rw [getD_pack_zero, and_or_code, cleared, UInt8.or_zero, UInt8.and_assoc]
  rfl

/-- The type of the bytes that are sent. -/
theorem sent_type (c : PtpClock) (buf : Bytes) (m : Message) (length : Nat) (pos : 0 < length) :
    (bufRead (pack c buf m) 0 length).getD 0 0 &&& 0x0f = m.type.code := by
  rw [getD_bufRead _ _ pos, pack_type]

/-- A datagram of another clock that packed nothing before. -/
def PtpClock.datagram (c : PtpClock) (m : Message) : Packet where
  payload := emitted c (msgPackHeader c (List.replicate packetSize 0)) m

/-- A clock of the network, known by one byte. -/
def peer (n : UInt8) : PtpClock where
  portDS := { portIdentity := ⟨Vector.replicate 8 n, 1⟩, versionNumber := versionPtp }
  parentDS := { grandmasterIdentity := Vector.replicate 8 n }

end LwipExt.Ptp
