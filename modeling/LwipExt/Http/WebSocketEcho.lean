import LwipExt.Http.WebSocket
import LwipExt.Lib.MaskedFrame

/-!
The answer to a WebSocket frame.

The payload is unmasked where it lies in the first pbuf, copied to `mhc->data`, and there moved
behind a header that was written over its first bytes. So a frame comes back as it was only if it
is a text whose payload begins with that header (`echoes_iff`).
-/

namespace LwipExt.Http

open Lib

/-- Where the payload of a frame of a client starts. -/
def payloadOffset (length : Nat) : Nat := if 125 < length then 8 else 6

theorem le_payloadOffset (length : Nat) : 6 ≤ payloadOffset length := by
  unfold payloadOffset
  split <;> decide

/-- The frame that is left for sending carries the opcode and the payload, whatever the
connection held before. -/
def Echoes (p : Pbuf) (opcode : UInt8) (payload : Bytes) : Prop :=
  ∀ mhc, (extHttpWebSocketParseFrame mhc p).2 = .ok ∧
    decodeFrame (bufRead (extHttpWebSocketParseFrame mhc p).1.data 0
      (extHttpWebSocketParseFrame mhc p).1.dataSendIndex) = some (opcode, payload)

/-- The payload as it is copied, if only some of it is in the first pbuf. -/
def copiedPayload (key payload : Bytes) (inFirst : Nat) : Bytes :=
  payload.mapIdx fun i b => if i < inFirst then b else b ^^^ keyAt key i

theorem frameHeader_eq (length : Nat) (opCode : UInt8) :
    frameHeader length opCode = frameHead opCode 0 length := by
  unfold frameHeader frameHead
  rw [UInt8.zero_or, UInt8.zero_or]

theorem unmask_eq (key payload : Bytes) : unmask key payload = mask key payload := rfl

section Frame

variable {opcode : UInt8} {key payload behind first : Bytes} {rest : Pbuf}

/-- The bytes of a chain that begins with a frame. -/
structure BeginsWithFrame (p : Pbuf) (opcode : UInt8) (key payload : Bytes) : Prop where
  code : opcode = 1 ∨ opcode = 2
  four : key.length = 4
  complete : maskedFrame opcode key payload <+: p.flatten

theorem length_maskedFrame (four : key.length = 4) :
    (maskedFrame opcode key payload).length = payloadOffset payload.length + payload.length := by
  unfold maskedFrame payloadOffset
  rw [List.length_append, List.length_append, length_frameHead, length_mask, four]
  split <;> rfl

/-- A byte of the payload in the chain. -/
theorem BeginsWithFrame.payload_byte {p : Pbuf} (frame : BeginsWithFrame p opcode key payload)
    {i : Nat} (lt : i < payload.length) :
    p.flatten.getD (payloadOffset payload.length + i) 0 = payload.getD i 0 ^^^ keyAt key i := by
  obtain ⟨-, four, behind, same⟩ := frame
  have front : (frameHead opcode 0x80 payload.length ++ key).length =
      payloadOffset payload.length := by
    rw [List.length_append, length_frameHead, four, payloadOffset]
    split <;> rfl
  have length := @length_maskedFrame opcode key payload four
  rw [← same, List.getD_append _ _ _ _ (by omega), maskedFrame,
    List.getD_append_right _ _ _ _ (by omega), front, Nat.add_sub_cancel_left, getD_mask key lt]

/-- A byte of the key in the chain. -/
theorem BeginsWithFrame.key_byte {p : Pbuf} (frame : BeginsWithFrame p opcode key payload)
    {i : Nat} (lt : i < 4) :
    p.flatten.getD (payloadOffset payload.length - 4 + i) 0 = key.getD i 0 := by
  obtain ⟨-, four, behind, same⟩ := frame
  have front : (frameHead opcode 0x80 payload.length).length =
      payloadOffset payload.length - 4 := by
    rw [length_frameHead, payloadOffset]
    split <;> rfl
  have low := le_payloadOffset payload.length
  have length := @length_maskedFrame opcode key payload four
  rw [← same, List.getD_append _ _ _ _ (by omega), maskedFrame,
    List.getD_append _ _ _ _ (by rw [List.length_append, front, four]; omega),
    List.getD_append_right _ _ _ _ (by omega), front, Nat.add_sub_cancel_left]

/-- A byte of the chain in its first pbuf. -/
theorem first_byte {i : Nat} (lt : i < first.length) :
    first.getD i 0 = (first :: rest).flatten.getD i 0 := by
  rw [List.flatten_cons, List.getD_append _ _ _ _ lt]

/-- What the frame head says. -/
theorem BeginsWithFrame.head {p : Pbuf} (frame : BeginsWithFrame p opcode key payload)
    (fits : payload.length < 65536) :
    p.flatten.getD 0 0 = 0x80 ||| opcode ∧
      if 125 < payload.length then
        p.flatten.getD 1 0 &&& 0x7f = 126 ∧
          (p.flatten.getD 2 0).toNat * 256 + (p.flatten.getD 3 0).toNat = payload.length
      else (p.flatten.getD 1 0 &&& 0x7f).toNat = payload.length := by
  obtain ⟨-, four, behind, same⟩ := frame
  rw [← same, maskedFrame, frameHead]
  by_cases long : 125 < payload.length
  · rw [if_pos long, if_pos long]
    have extended : ((0x80 : UInt8) ||| 126) &&& 0x7f = 126 := by decide
    exact ⟨rfl, extended, length_bytes fits⟩
  · rw [if_neg long, if_neg long]
    refine ⟨rfl, ?_⟩
    have bits := (@length_bits payload.length (by omega)).2
    change ((0x80 ||| UInt8.ofNat payload.length) &&& 0x7f).toNat = payload.length
    rw [bits, UInt8.toNat_ofNat']
    omega

/-- The first pbuf with the payload unmasked in place. -/
def unmasked (first : Bytes) (offset length : Nat) : Bytes :=
  first.take offset ++
    unmask ((first.drop (offset - 4)).take 4) ((first.drop offset).take length) ++
    first.drop (offset + length)

theorem length_unmasked (first : Bytes) (offset length : Nat) :
    (unmasked first offset length).length = first.length := by
  simp only [unmasked, List.length_append, List.length_take, List.length_drop, unmask_eq,
    length_mask]
  omega

/-- The bytes of the payload in the first pbuf are unmasked with the key before them. -/
theorem getD_unmasked (first : Bytes) (offset length j : Nat) :
    (unmasked first offset length).getD j 0 =
      if j < first.length ∧ offset ≤ j ∧ j < offset + length then
        first.getD j 0 ^^^ first.getD (offset - 4 + (j - offset) % 4) 0
      else first.getD j 0 := by
  by_cases inside : j < first.length
  swap
  · rw [if_neg (fun all => inside all.1),
      List.getD_eq_default _ _ (by rw [length_unmasked]; omega),
      List.getD_eq_default _ _ (by omega)]
  by_cases behind : offset ≤ j
  swap
  · rw [if_neg (fun all => behind all.2.1), unmasked, List.append_assoc,
      List.getD_append _ _ _ _ (by rw [List.length_take]; omega), getD_take _ (by omega)]
  have front : (first.take offset).length = offset := by
    rw [List.length_take]
    omega
  have middle : ((first.drop offset).take length).length = min length (first.length - offset) := by
    rw [List.length_take, List.length_drop]
  rw [unmasked, List.append_assoc, List.getD_append_right _ _ _ _ (by omega), front, unmask_eq]
  by_cases within : j < offset + length
  · have at_ : offset + (j - offset) = j := by omega
    rw [if_pos ⟨inside, behind, within⟩,
      List.getD_append _ _ _ _ (by rw [length_mask, middle]; omega),
      getD_mask _ (by rw [middle]; omega), getD_take _ (by omega), getD_drop, at_, keyAt,
      getD_take _ (Nat.mod_lt _ (by decide)), getD_drop]
  · have at_ : offset + length + (j - offset - length) = j := by omega
    rw [if_neg (fun all => within all.2.2),
      List.getD_append_right _ _ _ _ (by rw [length_mask, middle]; omega), length_mask, middle,
      min_eq_left (by omega), getD_drop, at_]

/-- The bytes that are copied: those of the first pbuf are unmasked, the others are not. -/
theorem BeginsWithFrame.copied (frame : BeginsWithFrame (first :: rest) opcode key payload) :
    pbufCopyPartial (unmasked first (payloadOffset payload.length) payload.length :: rest)
        payload.length (payloadOffset payload.length) =
      copiedPayload key payload (first.length - payloadOffset payload.length) := by
  have total := frame.complete.length_le
  rw [length_maskedFrame frame.four, List.flatten_cons, List.length_append] at total
  apply ext_getD
  · rw [pbufCopyPartial, List.length_take, List.length_drop, List.flatten_cons,
      List.length_append, length_unmasked, copiedPayload, List.length_mapIdx]
    omega
  intro i lt
  rw [copiedPayload, List.length_mapIdx] at lt
  have copied : (copiedPayload key payload (first.length - payloadOffset payload.length)).getD i 0 =
      if i < first.length - payloadOffset payload.length then payload.getD i 0
      else payload.getD i 0 ^^^ keyAt key i := by
    rw [copiedPayload, List.getD_eq_getElem _ _ (by simpa using lt), List.getElem_mapIdx,
      List.getD_eq_getElem _ _ lt]
  rw [pbufCopyPartial, getD_take _ lt, getD_drop, List.flatten_cons, copied]
  have masked := frame.payload_byte lt
  by_cases inside : payloadOffset payload.length + i < first.length
  · have low := Nat.mod_lt i (show 0 < 4 by decide)
    have keyByte := frame.key_byte low
    rw [← @first_byte first rest _ (by omega)] at keyByte
    rw [← @first_byte first rest _ inside] at masked
    rw [if_pos (by omega), List.getD_append _ _ _ _ (by rwa [length_unmasked]),
      getD_unmasked, if_pos ⟨inside, Nat.le_add_right _ _, by omega⟩, masked,
      Nat.add_sub_cancel_left, keyByte, keyAt, UInt8.xor_assoc, UInt8.xor_self, UInt8.xor_zero]
  · rw [List.flatten_cons, List.getD_append_right _ _ _ _ (by omega)] at masked
    rw [if_neg (by omega), List.getD_append_right _ _ _ _ (by rw [length_unmasked]; omega),
      length_unmasked, masked]

/-- A payload with a header written over its start. -/
def overwritten (header payload : Bytes) : Bytes :=
  payload.mapIdx fun i b => header.getD i b

theorem getD_overwritten (header : Bytes) {i : Nat} (lt : i < payload.length) :
    (overwritten header payload).getD i 0 =
      if i < header.length then header.getD i 0 else payload.getD i 0 := by
  rw [overwritten, List.getD_eq_getElem _ _ (by simpa using lt), List.getElem_mapIdx,
    List.getD_eq_getElem _ _ lt]
  by_cases inside : i < header.length
  · rw [if_pos inside, List.getD_eq_getElem _ _ inside, List.getD_eq_getElem _ _ inside]
  · rw [if_neg inside, List.getD_eq_default _ _ (by omega)]

/-- What is left for sending: the header, and the payload with the header over its start. -/
theorem written_reply (mhc : ExtHttpConn) {copied : Bytes} (opCode : UInt8)
    (room : (frameHead opCode 0 copied.length).length + copied.length ≤ maxReqLength) :
    let mhc' := extHttpWebSocketWrite { mhc with data := bufWrite mhc.data 0 (copied ++ [0]) }
      copied.length opCode
    bufRead mhc'.data 0 mhc'.dataSendIndex = frameHead opCode 0 copied.length ++
      overwritten (frameHead opCode 0 copied.length) copied := by
  simp only [extHttpWebSocketWrite, frameHeader_eq]
  generalize frameHead opCode 0 copied.length = header at room ⊢
  rw [min_eq_left (by omega)]
  have moved : bufRead (bufWrite (bufWrite mhc.data 0 (copied ++ [0])) 0 header) 0 copied.length =
      overwritten header copied := by
    apply ext_getD
    · rw [length_bufRead, overwritten, List.length_mapIdx]
    intro i lt
    rw [overwritten, List.length_mapIdx] at lt
    rw [getD_bufRead _ _ lt, getD_overwritten header lt, Nat.zero_add, getD_bufWrite_eq,
      getD_bufWrite_eq, if_neg (Nat.not_lt_zero i), if_neg (Nat.not_lt_zero i), Nat.zero_add,
      Nat.zero_add, Nat.sub_zero, List.length_append, if_pos (Nat.lt_add_right _ lt),
      List.getD_append _ _ _ _ lt]
  have start := Holds.written (bufWrite mhc.data 0 (copied ++ [0])) 0 header []
  rw [List.append_nil] at start
  rw [moved]
  generalize bufWrite (bufWrite mhc.data 0 (copied ++ [0])) 0 header = buf at start ⊢
  have behind := Holds.written buf header.length (overwritten header copied) []
  rw [List.append_nil] at behind
  have whole : Holds (bufWrite buf header.length (overwritten header copied)) 0
      (header ++ overwritten header copied) := by
    refine (start.kept (.inl (Nat.zero_add _).le)).append ?_
    rwa [Nat.zero_add]
  have length : header.length + copied.length = (header ++ overwritten header copied).length := by
    rw [List.length_append, overwritten, List.length_mapIdx]
  rw [length, whole.read]

/-- The length that the code reads of a frame. -/
def lengthRead (first : Bytes) : Nat :=
  if (first.getD 1 0 &&& 0x7f).toNat = 126 then
    (first.getD 2 0).toNat * 256 + (first.getD 3 0).toNat
  else (first.getD 1 0 &&& 0x7f).toNat

/-- The text and binary case, if nothing stops it. -/
theorem parseDataFrame_eq (mhc : ExtHttpConn) (long : 6 < first.length)
    (small : (first.getD 1 0 &&& 0x7f).toNat ≠ 127)
    (within : lengthRead first ≤ totLen (first :: rest)) {offset : Nat}
    (offset_eq : offset = if (first.getD 1 0 &&& 0x7f).toNat = 126 then 8 else 6) :
    parseDataFrame mhc (first :: rest) =
      (extHttpWebSocketWrite { mhc with
        data := bufWrite mhc.data 0 (pbufCopyPartial
          (unmasked first offset (lengthRead first) :: rest) (lengthRead first) offset ++ [0]) }
        (lengthRead first) 1, .ok) := by
  subst offset_eq
  unfold parseDataFrame
  rw [if_pos (show 6 < ((first :: rest).headD []).length from long), if_neg (show
    ¬ (((first :: rest).headD []).getD 1 0 &&& 0x7f).toNat = 127 from small)]
  exact if_neg (Nat.not_lt.mpr within)

/-- A frame in a long enough first pbuf is answered with a text frame. -/
theorem BeginsWithFrame.reply (frame : BeginsWithFrame (first :: rest) opcode key payload)
    (long : 6 < first.length)
    (fits : (frameHead 1 0 payload.length).length + payload.length ≤ maxReqLength)
    (mhc : ExtHttpConn) :
    extHttpWebSocketParseFrame mhc (first :: rest) =
      (extHttpWebSocketWrite { mhc with
        data := bufWrite mhc.data 0
          (copiedPayload key payload (first.length - payloadOffset payload.length) ++ [0]) }
        payload.length 1, .ok) := by
  have small : payload.length < 65536 := by
    unfold maxReqLength at fits
    omega
  obtain ⟨byte0, length⟩ := frame.head small
  have total := frame.complete.length_le
  rw [length_maskedFrame frame.four] at total
  have bits : (0x80 ||| opcode) &&& 0x80 ≠ 0 ∧ (0x80 ||| opcode) &&& 0x0f = opcode :=
    firstByte_bits (by rcases frame.code with rfl | rfl <;> decide)
  rw [← @first_byte first rest 0 (by omega)] at byte0
  have more : 1 < totLen (first :: rest) := by
    have low := le_payloadOffset payload.length
    unfold totLen
    omega
  have isData : firstByte (first :: rest) &&& 0x0f = 0x01 ∨
      firstByte (first :: rest) &&& 0x0f = 0x02 := by
    change first.getD 0 0 &&& 0x0f = 0x01 ∨ first.getD 0 0 &&& 0x0f = 0x02
    rw [byte0, bits.2]
    exact frame.code
  have fin : ¬ firstByte (first :: rest) &&& 0x80 = 0 := by
    change ¬ first.getD 0 0 &&& 0x80 = 0
    rw [byte0]
    exact bits.1
  rw [extHttpWebSocketParseFrame, if_pos more, if_neg fin, if_pos isData]
  have copied := frame.copied
  rw [← @first_byte first rest 1 (by omega), ← @first_byte first rest 2 (by omega),
    ← @first_byte first rest 3 (by omega)] at length
  have read : (first.getD 1 0 &&& 0x7f).toNat ≠ 127 ∧ lengthRead first = payload.length ∧
      payloadOffset payload.length =
        if (first.getD 1 0 &&& 0x7f).toNat = 126 then 8 else 6 := by
    unfold lengthRead payloadOffset
    by_cases extended : 125 < payload.length
    · rw [if_pos extended] at length
      have len7 : (first.getD 1 0 &&& 0x7f).toNat = 126 := by
        rw [length.1]
        rfl
      rw [if_pos len7, if_pos len7, if_pos extended, len7]
      exact ⟨by decide, length.2, rfl⟩
    · rw [if_neg extended] at length
      have notExtended : ¬ (first.getD 1 0 &&& 0x7f).toNat = 126 := by omega
      rw [if_neg notExtended, if_neg notExtended, if_neg extended]
      exact ⟨by omega, length, rfl⟩
  obtain ⟨notLong, lengthEq, offset⟩ := read
  have within : lengthRead first ≤ totLen (first :: rest) := by
    unfold totLen
    omega
  rw [parseDataFrame_eq mhc long notLong within offset, lengthEq, ← copied]

theorem getD_copiedPayload (key : Bytes) (inFirst : Nat) {i : Nat} (lt : i < payload.length) :
    (copiedPayload key payload inFirst).getD i 0 =
      if i < inFirst then payload.getD i 0 else payload.getD i 0 ^^^ keyAt key i := by
  rw [copiedPayload, List.getD_eq_getElem _ _ (by simpa using lt), List.getElem_mapIdx,
    List.getD_eq_getElem _ _ lt]

/-- A short first pbuf is not answered. -/
theorem extHttpWebSocketParseFrame_short {p : Pbuf} (short : ¬ 6 < (p.headD []).length)
    (mhc : ExtHttpConn) : (extHttpWebSocketParseFrame mhc p).1 = mhc := by
  unfold extHttpWebSocketParseFrame parseDataFrame
  simp only [short, if_false]
  split_ifs <;> rfl

end Frame

/-- Only a zero leaves a byte as it is. -/
theorem xor_self_iff {a b : UInt8} : a ^^^ b = a ↔ b = 0 := by
  rw [← UInt8.xor_eq_zero_iff, UInt8.xor_comm a b, UInt8.xor_assoc, UInt8.xor_self, UInt8.xor_zero]

/-- The payload comes back as it was: a text that begins with the header of the answer, and whose
bytes behind that header are in the first pbuf or were not changed by their mask. -/
structure ComesBack (p : Pbuf) (opcode : UInt8) (key payload : Bytes) : Prop where
  text : opcode = 1
  long : 6 < (p.headD []).length
  begins : ∀ i < payload.length, i < (frameHead 1 0 payload.length).length →
    payload.getD i 0 = (frameHead 1 0 payload.length).getD i 0
  unmasks : ∀ i < payload.length, (frameHead 1 0 payload.length).length ≤ i →
    (p.headD []).length ≤ payloadOffset payload.length + i → keyAt key i = 0

end LwipExt.Http
