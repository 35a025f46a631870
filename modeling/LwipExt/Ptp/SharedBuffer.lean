import LwipExt.Ptp.Packing
import Mathlib.Data.List.GetD

/-!
The buffer that all messages are packed into, over any sequence of messages.
-/

namespace LwipExt.Ptp

/-- The buffer after `_doInit` of a clock: the header of all messages. -/
def startedBuffer (c : PtpClock) : Bytes := msgPackHeader c (List.replicate packetSize 0)

/-- The buffer after messages were packed, newest first, each with the data sets of its time. -/
def bufferAfter (c₀ : PtpClock) : List (PtpClock × Message) → Bytes
  | [] => startedBuffer c₀
  | (c, m) :: earlier => pack c (bufferAfter c₀ earlier) m

/-- The reserved bytes of a message. -/
def Message.reserved : Message → List Nat
  | .announce => [5, 16, 17, 18, 19, 46]
  | .pdelayReq _ => [5, 16, 17, 18, 19, 44, 45, 46, 47, 48, 49, 50, 51, 52, 53]
  | .sync _ | .followUp _ | .delayReq _ | .delayResp _ _ | .pdelayResp _ _
  | .pdelayRespFollowUp _ _ => [5, 16, 17, 18, 19]

/-- The correction field that a packer writes, if it does. -/
def Message.correction : Message → Option Int64
  | .announce | .followUp _ => none
  | .sync _ | .delayReq _ | .pdelayReq _ | .pdelayResp _ _ => some 0
  | .delayResp header _ | .pdelayRespFollowUp header _ => some header.correctionfield

/-- The byte that a packer writes where an Announce has a reserved one, if it does. -/
def Message.octet : Message → Option UInt8
  | .announce | .sync _ | .followUp _ | .delayReq _ => none
  | .pdelayReq _ => some 0
  | .delayResp header _ | .pdelayResp header _ | .pdelayRespFollowUp header _ =>
      some header.sourcePortIdentity.clockIdentity[2]

/-- The correction field that the messages left in the buffer. -/
def correctionLeft : List (PtpClock × Message) → Int64
  | [] => 0
  | (_, m) :: earlier => m.correction.getD (correctionLeft earlier)

/-- The byte that the messages left where an Announce has a reserved one. -/
def octetLeft : List (PtpClock × Message) → UInt8
  | [] => 0
  | (_, m) :: earlier => m.octet.getD (octetLeft earlier)

/-- A message shows nothing of the messages before it, and has no correction and no reserved bytes
unless it answers a request. -/
def ShowsNothing (c₀ : PtpClock) (earlier : List (PtpClock × Message)) (c : PtpClock)
    (m : Message) : Prop :=
  emitted c (bufferAfter c₀ earlier) m = emitted c (startedBuffer c₀) m ∧
    (m.type ≠ .delayResp → m.type ≠ .pdelayRespFollowUp →
      (∀ i < 8, (emitted c (bufferAfter c₀ earlier) m).getD (8 + i) 0 = 0) ∧
        ∀ i ∈ m.reserved, (emitted c (bufferAfter c₀ earlier) m).getD i 0 = 0)

/-- What the buffer must hold for a message. -/
def leavesNothing (earlier : List (PtpClock × Message)) : Message → Prop
  | .announce => correctionLeft earlier = 0 ∧ octetLeft earlier = 0
  | .followUp _ => correctionLeft earlier = 0
  | .sync _ | .delayReq _ | .delayResp _ _ | .pdelayReq _ | .pdelayResp _ _
  | .pdelayRespFollowUp _ _ => True

/-! ### The correction field -/

/-- A 64-bit number of which both words are zero. -/
theorem int64_eq_zero {v : Int64} (high : (v >>> 32).toUInt64.toUInt32 = 0)
    (low : v.toUInt64.toUInt32 = 0) : v = 0 := by
  have high : BitVec.setWidth 32 (v.toBitVec.sshiftRight 32) = 0#32 := by
    simpa [Int64.toBitVec_shiftRight] using congrArg UInt32.toBitVec high
  have low : BitVec.setWidth 32 v.toBitVec = 0#32 := by
    simpa using congrArg UInt32.toBitVec low
  apply Int64.toBitVec_inj.mp
  apply BitVec.eq_of_getLsbD_eq
  intro i lt
  by_cases small : i < 32
  · have bit := congrArg (fun w : BitVec 32 => w.getLsbD i) low
    simpa [small] using bit
  · have bit := congrArg (fun w : BitVec 32 => w.getLsbD (i - 32)) high
    have shifted : 32 + (i - 32) = i := by omega
    have inside : i - 32 < 32 := by omega
    have unsigned : ¬ 64 ≤ i - 32 := by omega
    have zero : (0 : Int64).toBitVec.getLsbD i = false := BitVec.getLsbD_zero
    rw [zero]
    simpa only [BitVec.getLsbD_setWidth, BitVec.getLsbD_sshiftRight, inside, unsigned, shifted, lt,
      decide_true, decide_false, Bool.true_and, Bool.not_false, if_true,
      BitVec.getLsbD_zero] using bit
theorem be32_eq_zero {n : UInt32} : (∀ i < 4, (be32 n).getD i 0 = 0) ↔ n = 0 := by
  constructor
  · intro zero
    have b₀ := congrArg UInt8.toNat (zero 0 (by decide))
    have b₁ := congrArg UInt8.toNat (zero 1 (by decide))
    have b₂ := congrArg UInt8.toNat (zero 2 (by decide))
    have b₃ := congrArg UInt8.toNat (zero 3 (by decide))
    simp [be32, Nat.shiftRight_eq_div_pow] at b₀ b₁ b₂ b₃
    apply UInt32.toNat_inj.mp
    have := n.toNat_lt
    simp
    omega
  · rintro rfl
    decide

theorem correctionBytes_eq_zero {v : Int64} :
    (∀ i < 8, (correctionBytes v).getD i 0 = 0) ↔ v = 0 := by
  constructor
  · intro zero
    have first (i : Nat) (lt : i < 4) :
        (correctionBytes v).getD i 0 = (be32 (v >>> 32).toUInt64.toUInt32).getD i 0 := by
      rw [correctionBytes, List.getD_append _ _ _ _ lt]
    have second (i : Nat) :
        (correctionBytes v).getD (4 + i) 0 = (be32 v.toUInt64.toUInt32).getD i 0 := by
      rw [correctionBytes, List.getD_append_right _ _ _ _ (Nat.le_add_right 4 i)]
      rw [show (be32 (v >>> 32).toUInt64.toUInt32).length = 4 from rfl, Nat.add_sub_cancel_left]
    refine int64_eq_zero (be32_eq_zero.mp fun i lt => ?_) (be32_eq_zero.mp fun i lt => ?_)
    · rw [← first i lt, zero i (by omega)]
    · rw [← second i, zero (4 + i) (by omega)]
  · rintro rfl
    decide
/-! ### What the buffer holds -/

/-- The header bytes that no packer writes. -/
def isHeaders (i : Nat) : Prop := i = 1 ∨ 4 ≤ i ∧ i < 8 ∨ 16 ≤ i ∧ i < 30

/-- A position outside a list of spans. -/
theorem covers_eq_false {spans : List (Nat × Nat)} {i : Nat} :
    covers spans i = false ↔ ∀ span ∈ spans, i < span.1 ∨ span.1 + span.2 ≤ i := by
  rw [covers, List.any_eq_false]
  refine forall₂_congr fun span mem => ?_
  simp only [Bool.and_eq_true, decide_eq_true_eq]
  omega

/-- The bytes of a message that its packer does not write. -/
theorem free_cases {m : Message} {i : Nat} (pos : 0 < i) (lt : i < m.type.length)
    (free : covers m.spans i = false) :
    isHeaders i ∨ (m.correction = none ∧ 8 ≤ i ∧ i < 16) ∨ (m = .announce ∧ i = 46) := by
  rw [covers_eq_false] at free
  unfold isHeaders
  cases m with
  | announce =>
      simp only [Message.spans, List.forall_mem_cons, List.not_mem_nil, false_implies,
        implies_true, and_true, Message.type, MsgType.length] at free lt
      simp only [Message.correction, true_and]
      omega
  | followUp _ =>
      simp only [Message.spans, List.forall_mem_cons, List.not_mem_nil, false_implies,
        implies_true, and_true, Message.type, MsgType.length] at free lt
      simp only [Message.correction, true_and]
      omega
  | sync _ | delayReq _ | pdelayReq _ | pdelayResp _ _ | pdelayRespFollowUp _ _ | delayResp _ _ =>
      simp only [Message.spans, List.forall_mem_cons, List.not_mem_nil, false_implies,
        implies_true, and_true, Message.type, MsgType.length] at free lt
      exact .inl (by omega)

/-- No packer writes the bytes of the header. -/
theorem headers_free {i : Nat} (header : isHeaders i) (m : Message) :
    0 < i ∧ covers m.spans i = false := by
  unfold isHeaders at header
  refine ⟨by omega, covers_eq_false.mpr ?_⟩
  cases m <;> simp only [Message.spans, List.forall_mem_cons, List.not_mem_nil, false_implies,
    implies_true, and_true] <;> omega

/-- A copy of the correction field is not covered by what follows it. -/
theorem behind_correction {copies : List (Nat × Bytes)} {i : Nat} (lt : i < 8)
    (behind : ∀ copy ∈ copies, 16 ≤ copy.1) : covers (spans copies) (8 + i) = false := by
  rw [covers_eq_false]
  intro span mem
  obtain ⟨copy, held, rfl⟩ := List.mem_map.mp mem
  exact .inl (by have := behind copy held; dsimp only; omega)

theorem correctionBytes_zero : correctionBytes 0 = List.replicate 8 0 := by decide

@[simp] theorem length_correctionBytes (v : Int64) : (correctionBytes v).length = 8 := rfl

/-- What a packer writes into the correction field. -/
theorem pack_correction {m : Message} {v : Int64} (writes : m.correction = some v) {i : Nat}
    (lt : i < 8) (c : PtpClock) (buf : Bytes) :
    (pack c buf m).getD (8 + i) 0 = (correctionBytes v).getD i 0 := by
  have written (front back : List (Nat × Bytes)) (behind : ∀ copy ∈ back, 16 ≤ copy.1)
      (split : m.copies c = front ++ (8, correctionBytes v) :: back) :
      (pack c buf m).getD (8 + i) 0 = (correctionBytes v).getD i 0 := by
    rw [pack_eq, split]
    exact getD_overlay_last _ _ (by simpa using lt) (behind_correction lt behind)
  cases m with
  | announce | followUp _ => cases writes
  | sync time | delayReq time | pdelayReq time | pdelayResp header time =>
      cases writes
      refine written (headerCopies _ _ _) _ ?_ (by rw [correctionBytes_zero]; rfl)
      simp
  | delayResp header time =>
      cases writes
      refine written (headerCopies _ _ _ ++ [(8, List.replicate 8 0)]) _ ?_ rfl
      simp
  | pdelayRespFollowUp header time =>
      cases writes
      refine written (headerCopies _ _ _) _ ?_ rfl
      simp

/-- What a packer writes where an Announce has a reserved byte. -/
theorem pack_octet {m : Message} {b : UInt8} (writes : m.octet = some b) (c : PtpClock)
    (buf : Bytes) : (pack c buf m).getD 46 0 = b := by
  have written (front : List (Nat × Bytes)) (src : Bytes) (third : src.getD 2 0 = b)
      (long : 2 < src.length) (split : m.copies c = front ++ [(44, src)]) :
      (pack c buf m).getD 46 0 = b := by
    rw [pack_eq, split, ← third]
    exact getD_overlay_last _ _ long rfl
  have identity (p : PortIdentity) : (portIdentityBytes p).getD 2 0 = p.clockIdentity[2] ∧
      2 < (portIdentityBytes p).length := by
    refine ⟨?_, by simp [portIdentityBytes, be16]⟩
    rw [portIdentityBytes, List.getD_append _ _ _ _ (by simp), List.getD_eq_getElem _ _ (by simp),
      Vector.getElem_toList]
  cases m with
  | announce | sync _ | followUp _ | delayReq _ => cases writes
  | pdelayReq time =>
      cases writes
      exact written (headerCopies _ _ _ ++ [(8, List.replicate 8 0), (34, timestampBytes time)])
        (List.replicate 10 0) rfl (by decide) rfl
  | delayResp header time =>
      cases writes
      exact written (headerCopies _ _ _ ++ [(8, List.replicate 8 0),
        (8, correctionBytes header.correctionfield), (34, timestampBytes time)]) _
        (identity _).1 (identity _).2 rfl
  | pdelayResp header time =>
      cases writes
      exact written (headerCopies _ _ _ ++ [(8, List.replicate 8 0), (34, timestampBytes time)]) _
        (identity _).1 (identity _).2 rfl
  | pdelayRespFollowUp header time =>
      cases writes
      exact written (headerCopies _ _ _ ++ [(8, correctionBytes header.correctionfield),
        (34, timestampBytes time)]) _ (identity _).1 (identity _).2 rfl

/-- The copies of `msgPackHeader`. -/
def startCopies (c : PtpClock) : List (Nat × Bytes) :=
  [(0, [0x80]), (1, [c.portDS.versionNumber]), (4, [c.defaultDS.domainNumber])] ++
    (if c.defaultDS.twoStepFlag then [(6, [flag0TwoStep])] else []) ++
    [(8, List.replicate 8 0), (20, c.portDS.portIdentity.clockIdentity.toList),
      (28, be16 c.portDS.portIdentity.portNumber.toUInt16), (33, [0x7f])]

theorem msgPackHeader_eq (c : PtpClock) (buf : Bytes) :
    msgPackHeader c buf = overlay buf (startCopies c) := by
  unfold msgPackHeader startCopies
  cases c.defaultDS.twoStepFlag <;> rfl

/-- The bytes that `msgPackHeader` leaves zero. -/
theorem startedBuffer_zero (c : PtpClock) {i : Nat}
    (zero : i = 5 ∨ 8 ≤ i ∧ i < 20 ∨ 34 ≤ i) : (startedBuffer c).getD i 0 = 0 := by
  have blank (j : Nat) : (List.replicate packetSize (0 : UInt8)).getD j 0 = 0 := by
    rw [List.getD_eq_getElem?_getD, List.getElem?_replicate]
    split <;> rfl
  rw [startedBuffer, msgPackHeader_eq]
  by_cases correction : 8 ≤ i ∧ i < 16
  · obtain ⟨k, rfl⟩ := Nat.exists_eq_add_of_le correction.1
    have lt : k < 8 := by omega
    have zeros : (List.replicate 8 (0 : UInt8)).getD k 0 = 0 := by
      rw [← correctionBytes_zero]
      exact correctionBytes_eq_zero.mpr rfl k lt
    rw [startCopies, getD_overlay_last _ _ (by simpa using lt) (behind_correction lt (by simp)),
      zeros]
  · have free : covers (spans (startCopies c)) i = false := by
      rw [covers_eq_false]
      unfold startCopies
      cases c.defaultDS.twoStepFlag <;>
        simp only [spans, be16, Vector.length_toList, List.length_cons, List.length_nil,
          List.length_replicate, List.cons_append, List.nil_append, List.map_cons, List.map_nil,
          List.forall_mem_cons, List.not_mem_nil, false_implies, implies_true, and_true, if_true,
          Bool.false_eq_true, if_false] <;>
        omega
    rw [getD_overlay free, blank]

variable (c₀ : PtpClock)

/-- The header stays as `_doInit` made it. -/
theorem bufferAfter_header {i : Nat} (header : isHeaders i)
    (earlier : List (PtpClock × Message)) :
    (bufferAfter c₀ earlier).getD i 0 = (startedBuffer c₀).getD i 0 := by
  induction earlier with
  | nil => rfl
  | cons packed earlier ih =>
      obtain ⟨c, m⟩ := packed
      obtain ⟨pos, free⟩ := headers_free header m
      rw [bufferAfter, getD_pack pos free, ih]

theorem bufferAfter_upper (earlier : List (PtpClock × Message)) :
    (bufferAfter c₀ earlier).getD 0 0 &&& 0xf0 = (startedBuffer c₀).getD 0 0 &&& 0xf0 := by
  induction earlier with
  | nil => rfl
  | cons packed earlier ih => rw [bufferAfter, pack_upper, ih]

/-- The correction field is that of the last message that has one. -/
theorem bufferAfter_correction {i : Nat} (lt : i < 8) (earlier : List (PtpClock × Message)) :
    (bufferAfter c₀ earlier).getD (8 + i) 0 = (correctionBytes (correctionLeft earlier)).getD i 0 := by
  induction earlier with
  | nil =>
      rw [bufferAfter, startedBuffer_zero c₀ (.inr (.inl (by omega))), correctionLeft]
      exact (correctionBytes_eq_zero.mpr rfl i lt).symm
  | cons packed earlier ih =>
      obtain ⟨c, m⟩ := packed
      cases writes : m.correction with
      | none =>
          have free : covers m.spans (8 + i) = false := by
            rw [covers_eq_false]
            cases m with
            | announce | followUp _ =>
                simp only [Message.spans, List.forall_mem_cons, List.not_mem_nil, false_implies,
                  implies_true, and_true]
                omega
            | sync _ | delayReq _ | pdelayReq _ | pdelayResp _ _ | delayResp _ _
            | pdelayRespFollowUp _ _ => cases writes
          rw [bufferAfter, getD_pack (by omega) free, ih, correctionLeft, writes, Option.getD_none]
      | some v =>
          rw [bufferAfter, pack_correction writes lt, correctionLeft, writes, Option.getD_some]

/-- The byte where an Announce has a reserved one is that of the last message that has one. -/
theorem bufferAfter_octet (earlier : List (PtpClock × Message)) :
    (bufferAfter c₀ earlier).getD 46 0 = octetLeft earlier := by
  induction earlier with
  | nil => exact startedBuffer_zero c₀ (.inr (.inr (by decide)))
  | cons packed earlier ih =>
      obtain ⟨c, m⟩ := packed
      cases writes : m.octet with
      | none =>
          have free : covers m.spans 46 = false := by
            cases m with
            | announce | sync _ | followUp _ | delayReq _ => rfl
            | pdelayReq _ | pdelayResp _ _ | delayResp _ _ | pdelayRespFollowUp _ _ =>
                cases writes
          rw [bufferAfter, getD_pack (by omega) free, ih, octetLeft, writes, Option.getD_none]
      | some b => rw [bufferAfter, pack_octet writes, octetLeft, writes, Option.getD_some]

/-! ### What a message shows -/

/-- A message without a correction field of its own keeps that of the buffer. -/
theorem free_correction {m : Message} (none : m.correction = none) {i : Nat} (lt : i < 8) :
    covers m.spans (8 + i) = false := by
  rw [covers_eq_false]
  cases m with
  | announce | followUp _ =>
      simp only [Message.spans, List.forall_mem_cons, List.not_mem_nil, false_implies,
        implies_true, and_true]
      omega
  | sync _ | delayReq _ | pdelayReq _ | pdelayResp _ _ | delayResp _ _
  | pdelayRespFollowUp _ _ => cases none

theorem bufRead_inj {buf buf' : Bytes} {n : Nat} :
    bufRead buf 0 n = bufRead buf' 0 n ↔ ∀ i < n, buf.getD i 0 = buf'.getD i 0 := by
  constructor
  · intro same i lt
    have at_ := congrArg (fun bytes : Bytes => bytes.getD i 0) same
    simpa only [getD_bufRead _ _ lt, Nat.zero_add] using at_
  · intro same
    exact bufRead_congr fun i lt => by simpa using same i lt

theorem length_pos (type : MsgType) : 34 ≤ type.length := by
  cases type <;> decide

/-- The bytes of a message are those of a fresh buffer exactly when the messages before it left
nothing that it keeps. -/
theorem emitted_eq_iff (earlier : List (PtpClock × Message)) (c : PtpClock) (m : Message) :
    emitted c (bufferAfter c₀ earlier) m = emitted c (startedBuffer c₀) m ↔
      leavesNothing earlier m := by
  have long := length_pos m.type
  rw [emitted, emitted, bufRead_inj]
  constructor
  · intro same
    have correction (none : m.correction = none) : correctionLeft earlier = 0 := by
      refine correctionBytes_eq_zero.mp fun i lt => ?_
      have at_ := same (8 + i) (by omega)
      have free := free_correction none lt
      rw [getD_pack (by omega) free, getD_pack (by omega) free, bufferAfter_correction c₀ lt,
        startedBuffer_zero c₀ (.inr (.inl (by omega)))] at at_
      exact at_
    cases m with
    | announce =>
        refine ⟨correction rfl, ?_⟩
        have at_ := same 46 (by decide)
        have free : covers Message.announce.spans 46 = false := rfl
        rw [getD_pack (by decide) free, getD_pack (by decide) free, bufferAfter_octet,
          startedBuffer_zero c₀ (.inr (.inr (by decide)))] at at_
        exact at_
    | followUp _ => exact correction rfl
    | sync _ | delayReq _ | delayResp _ _ | pdelayReq _ | pdelayResp _ _
    | pdelayRespFollowUp _ _ => trivial
  · intro leaves i lt
    by_cases pos : 0 < i
    · by_cases covered : covers m.spans i = true
      · exact pack_covered covered c _ _
      · rw [Bool.not_eq_true] at covered
        rw [getD_pack pos covered, getD_pack pos covered]
        rcases free_cases pos lt covered with header | ⟨none, low, high⟩ | ⟨rfl, rfl⟩
        · exact bufferAfter_header c₀ header earlier
        · have left : correctionLeft earlier = 0 := by
            cases m with
            | announce => exact leaves.1
            | followUp _ => exact leaves
            | sync _ | delayReq _ | delayResp _ _ | pdelayReq _ | pdelayResp _ _
            | pdelayRespFollowUp _ _ => cases none
          obtain ⟨k, rfl⟩ := Nat.exists_eq_add_of_le low
          rw [bufferAfter_correction c₀ (by omega), left, startedBuffer_zero c₀ (.inr (.inl (by omega)))]
          exact correctionBytes_eq_zero.mpr rfl k (by omega)
        · rw [bufferAfter_octet, leaves.2, startedBuffer_zero c₀ (.inr (.inr (by decide)))]
    · have first : i = 0 := by omega
      rw [first, getD_pack_zero, getD_pack_zero, bufferAfter_upper]

/-- In a fresh buffer a message that answers no request has no correction. -/
theorem started_correction (c : PtpClock) {m : Message} (request : m.type ≠ .delayResp)
    (request' : m.type ≠ .pdelayRespFollowUp) {i : Nat} (lt : i < 8) :
    (pack c (startedBuffer c₀) m).getD (8 + i) 0 = 0 := by
  cases writes : m.correction with
  | none =>
      rw [getD_pack (by omega) (free_correction writes lt),
        startedBuffer_zero c₀ (.inr (.inl (by omega)))]
  | some v =>
      have zero : v = 0 := by
        cases m <;> cases writes <;> first | rfl | exact absurd rfl request |
          exact absurd rfl request'
      rw [pack_correction writes lt, zero]
      exact correctionBytes_eq_zero.mpr rfl i lt

/-- In a fresh buffer the reserved bytes are zero. -/
theorem started_reserved (c : PtpClock) {m : Message} {i : Nat} (mem : i ∈ m.reserved) :
    (pack c (startedBuffer c₀) m).getD i 0 = 0 := by
  have header (reserved : i = 5 ∨ i = 16 ∨ i = 17 ∨ i = 18 ∨ i = 19) :
      (pack c (startedBuffer c₀) m).getD i 0 = 0 := by
    have free : isHeaders i := by
      unfold isHeaders
      omega
    rw [getD_pack (headers_free free m).1 (headers_free free m).2,
      startedBuffer_zero c₀ (by omega)]
  cases m with
  | announce =>
      simp only [Message.reserved, List.mem_cons, List.not_mem_nil, or_false] at mem
      by_cases octet : i = 46
      · rw [octet, getD_pack (by decide) rfl, startedBuffer_zero c₀ (.inr (.inr (by decide)))]
      · exact header (by omega)
  | pdelayReq time =>
      simp only [Message.reserved, List.mem_cons, List.not_mem_nil, or_false] at mem
      by_cases body : 44 ≤ i
      · obtain ⟨k, rfl⟩ := Nat.exists_eq_add_of_le body
        have lt : k < 10 := by omega
        have zeros : (List.replicate 10 (0 : UInt8)).getD k 0 = 0 := by
          rw [List.getD_replicate _ lt]
        have split : (Message.pdelayReq time).copies c =
            (headerCopies .pdelayReq c.sentPDelayReqSequenceId 0x7f ++
              [(8, List.replicate 8 0), (34, timestampBytes time)]) ++
                [(44, List.replicate 10 0)] := rfl
        rw [pack_eq, split, getD_overlay_last _ _ (by simpa using lt) rfl, zeros]
      · exact header (by omega)
  | sync _ | followUp _ | delayReq _ | delayResp _ _ | pdelayResp _ _ | pdelayRespFollowUp _ _ =>
      simp only [Message.reserved, List.mem_cons, List.not_mem_nil, or_false] at mem
      exact header mem

/-- A message shows nothing of the messages before it exactly when they left nothing that it
keeps: for an Announce no correction field and no byte of a port identity, for a Follow_Up no
correction field. -/
theorem shows_nothing_iff (earlier : List (PtpClock × Message)) (c : PtpClock) (m : Message) :
    ShowsNothing c₀ earlier c m ↔ leavesNothing earlier m := by
  have long := length_pos m.type
  have inside {i : Nat} (mem : i ∈ m.reserved) : i < m.type.length := by
    cases m <;> simp only [Message.reserved, List.mem_cons, List.not_mem_nil, or_false] at mem <;>
      simp only [Message.type, MsgType.length] <;> omega
  rw [ShowsNothing, emitted_eq_iff]
  refine ⟨fun shows => shows.1, fun leaves => ⟨leaves, fun request request' => ?_⟩⟩
  rw [(emitted_eq_iff c₀ earlier c m).mpr leaves, emitted]
  constructor
  · intro i lt
    rw [getD_bufRead _ _ (by omega), Nat.zero_add]
    exact started_correction c₀ c request request' lt
  · intro i mem
    rw [getD_bufRead _ _ (inside mem), Nat.zero_add]
    exact started_reserved c₀ c mem

/-- A master that answers a DelayReq with a correction shows it in its next Announce. -/
theorem not_shows_nothing : ¬ ∀ (c₀ : PtpClock) (earlier : List (PtpClock × Message))
    (c : PtpClock) (m : Message), ShowsNothing c₀ earlier c m := by
  intro shows
  have same := (shows {} [({}, .delayResp { correctionfield := 65536 } {})] {} .announce).1
  revert same
  decide +kernel

end LwipExt.Ptp
