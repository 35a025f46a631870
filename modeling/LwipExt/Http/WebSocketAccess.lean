import LwipExt.Http.WebSocketEcho

/-!
The memory that `extHttpWebSocketParseFrame` reads and writes.

`parseFrameTraced` runs the function with a log of its accesses to the first pbuf and to
`mhc->data`; what it computes is what `extHttpWebSocketParseFrame` does (`parseFrameTraced_fst`).
The length in a frame is compared with `tot_len` only, so the accesses stay inside the first pbuf
and the array only for some frames (`accesses_inside_iff`).
-/

namespace LwipExt.Http

open Lib

/-- An access to a byte: counted from `p->payload`, or from `mhc->data`. -/
inductive Access where
  | payload (i : Nat)
  | data (i : Nat)
  deriving DecidableEq, Repr

/-- The byte belongs to the first pbuf, or to the array. -/
def Access.Inside (p : Pbuf) : Access → Prop
  | .payload i => i < (p.headD []).length
  | .data i => i < maxReqLength

/-- The last `left` rounds of the unmasking loop, with pointers as offsets into the pbuf. What
lies behind the pbuf is not changed here. -/
def unmaskLoop (kptr dptr payloadLen : Nat) : (left : Nat) → Bytes → Bytes × List Access
  | 0, data => (data, [])
  | left + 1, data =>
      let i := payloadLen - (left + 1)
      let key := kptr + i % 4
      let (after, log) := unmaskLoop kptr dptr payloadLen left
        (data.set (dptr + i) (data.getD (dptr + i) 0 ^^^ data.getD key 0))
      (after, .payload key :: .payload (dptr + i) :: log)

/-- The accesses of `pbuf_copy_partial` for the bytes that it copies. -/
def copyAccesses (offset copied : Nat) : List Access :=
  (List.range copied).flatMap fun i => [.payload (offset + i), .data i]

/-- The accesses of `extHttpWebSocketWrite` to `mhc->data`: the header, and the bytes moved. -/
def writeAccesses (len : Nat) (opCode : UInt8) : List Access :=
  let offset := (frameHeader len opCode).length
  (List.range offset).map .data ++
    (List.range (min len (maxReqLength - offset))).flatMap fun i => [.data i, .data (offset + i)]

/-- The rest of the text and binary case, once offset and length of the payload are known. -/
def answerTraced (mhc : ExtHttpConn) (p : Pbuf) (offset payloadLen : Nat) :
    (ExtHttpConn × TcpErr) × List Access :=
  let (plain, unmasking) := unmaskLoop (offset - 4) offset payloadLen payloadLen (p.headD [])
  let copied := pbufCopyPartial (plain :: p.tail) payloadLen offset
  let mhc := { mhc with data := bufWrite mhc.data 0 (copied ++ [0]) }
  ((extHttpWebSocketWrite mhc payloadLen 1, .ok),
    unmasking ++ copyAccesses offset copied.length ++ .data copied.length ::
      writeAccesses payloadLen 1)

/-- Where the code takes the payload of a frame to start. -/
def offsetRead (first : Bytes) : Nat := if (first.getD 1 0 &&& 0x7f).toNat = 126 then 8 else 6

/-- The accesses that read the length of a frame. -/
def lengthAccesses (first : Bytes) : List Access :=
  .payload 1 :: if (first.getD 1 0 &&& 0x7f).toNat = 126 then [.payload 2, .payload 3] else []

/-- The text and binary case of `extHttpWebSocketParseFrame`, with its accesses. -/
def parseDataFrameTraced (mhc : ExtHttpConn) (p : Pbuf) :
    (ExtHttpConn × TcpErr) × List Access :=
  let data := p.headD []
  if 6 < data.length then
    if (data.getD 1 0 &&& 0x7f).toNat = 127 then ((mhc, .ok), lengthAccesses data)
    else if totLen p < lengthRead data then ((mhc, .val), lengthAccesses data)
    else
      let (result, log) := answerTraced mhc p (offsetRead data) (lengthRead data)
      (result, lengthAccesses data ++ log)
  else ((mhc, .ok), [])

/-- `extHttpWebSocketParseFrame`, with its accesses. -/
def parseFrameTraced (mhc : ExtHttpConn) (p : Pbuf) : (ExtHttpConn × TcpErr) × List Access :=
  if 1 < totLen p then
    if firstByte p &&& 0x80 = 0 then ((mhc, .ok), [.payload 0])
    else if firstByte p &&& 0x0f = 0x01 ∨ firstByte p &&& 0x0f = 0x02 then
      let (result, log) := parseDataFrameTraced mhc p
      (result, .payload 0 :: log)
    else if firstByte p &&& 0x0f = 0x08 then ((mhc, .clsd), [.payload 0])
    else ((mhc, .ok), [.payload 0])
  else ((mhc, .val), [])

/-- The segment is a text or binary frame that is unmasked and answered. -/
structure Answered (p : Pbuf) : Prop where
  more : 1 < totLen p
  fin : firstByte p &&& 0x80 ≠ 0
  code : firstByte p &&& 0x0f = 0x01 ∨ firstByte p &&& 0x0f = 0x02
  long : 6 < (p.headD []).length
  short : ((p.headD []).getD 1 0 &&& 0x7f).toNat ≠ 127
  within : lengthRead (p.headD []) ≤ totLen p

/-- The accesses for a segment stay where they belong: there is a first byte if the segment has
more than one, and a payload that is unmasked lies in the first pbuf and fits the array with the
NUL behind it. -/
structure StaysInside (p : Pbuf) : Prop where
  first : 1 < totLen p → p.headD [] ≠ []
  payload : Answered p → lengthRead (p.headD []) = 0 ∨
    offsetRead (p.headD []) + lengthRead (p.headD []) ≤ (p.headD []).length ∧
      lengthRead (p.headD []) < maxReqLength

/-! ### The same result -/

/-- The bytes of a pbuf after some rounds of the loop. -/
theorem unmaskLoop_getD {kptr dptr n left : Nat} (le : left ≤ n) (apart : kptr + 4 ≤ dptr)
    (data : Bytes) :
    (unmaskLoop kptr dptr n left data).1.length = data.length ∧
      ∀ j, (unmaskLoop kptr dptr n left data).1.getD j 0 =
        if j < data.length ∧ dptr + (n - left) ≤ j ∧ j < dptr + n then
          data.getD j 0 ^^^ data.getD (kptr + (j - dptr) % 4) 0
        else data.getD j 0 := by
  induction left generalizing data with
  | zero =>
      refine ⟨rfl, fun j => ?_⟩
      rw [if_neg (by omega)]
      rfl
  | succ left ih =>
      rw [unmaskLoop]
      simp only
      generalize changed : data.getD (dptr + (n - (left + 1))) 0 ^^^
        data.getD (kptr + (n - (left + 1)) % 4) 0 = v
      obtain ⟨length, bytes⟩ := ih (Nat.le_of_succ_le le) (data.set (dptr + (n - (left + 1))) v)
      rw [List.length_set] at length bytes
      refine ⟨length, fun j => ?_⟩
      -- The key lies before the payload, so no round changes it.
      have keyByte : (data.set (dptr + (n - (left + 1))) v).getD (kptr + (j - dptr) % 4) 0 =
          data.getD (kptr + (j - dptr) % 4) 0 := by
        have low := Nat.mod_lt (j - dptr) (show 0 < 4 by decide)
        rw [getD_set, if_neg (by omega)]
      by_cases here : j = dptr + (n - (left + 1))
      · subst here
        rw [bytes, if_neg (by omega), getD_set]
        by_cases inside : dptr + (n - (left + 1)) < data.length
        · rw [if_pos ⟨rfl, inside⟩, if_pos ⟨inside, le_refl _, by omega⟩, Nat.add_sub_cancel_left,
            changed]
        · rw [if_neg (fun both => inside both.2), if_neg (fun all => inside all.1)]
      · have same : (data.set (dptr + (n - (left + 1))) v).getD j 0 = data.getD j 0 := by
          rw [getD_set, if_neg (fun both => here both.1)]
        rw [bytes, keyByte, same]
        refine if_congr ?_ rfl rfl
        constructor
        · exact fun all => ⟨all.1, by omega, all.2.2⟩
        · exact fun all => ⟨all.1, by omega, all.2.2⟩

/-- The loop unmasks the payload as far as it is in the pbuf. -/
theorem unmaskLoop_fst {offset : Nat} (low : 6 ≤ offset) (n : Nat) (data : Bytes) :
    (unmaskLoop (offset - 4) offset n n data).1 = unmasked data offset n := by
  obtain ⟨length, bytes⟩ := @unmaskLoop_getD (offset - 4) offset n n (le_refl n) (by omega) data
  rw [Nat.sub_self, Nat.add_zero] at bytes
  apply ext_getD
  · rw [length, length_unmasked]
  · intro j _
    rw [bytes, getD_unmasked]

theorem le_offsetRead (first : Bytes) : 6 ≤ offsetRead first := by
  unfold offsetRead
  split <;> decide

theorem parseDataFrameTraced_fst (mhc : ExtHttpConn) (p : Pbuf) :
    (parseDataFrameTraced mhc p).1 = parseDataFrame mhc p := by
  by_cases long : 6 < (p.headD []).length
  swap
  · rw [parseDataFrameTraced, parseDataFrame, if_neg long, if_neg long]
  by_cases tooLong : ((p.headD []).getD 1 0 &&& 0x7f).toNat = 127
  · rw [parseDataFrameTraced, parseDataFrame, if_pos long, if_pos long, if_pos tooLong,
      if_pos tooLong]
  by_cases within : lengthRead (p.headD []) ≤ totLen p
  · obtain ⟨first, rest, rfl⟩ : ∃ first rest, p = first :: rest := by
      cases p with
      | nil => cases long
      | cons first rest => exact ⟨first, rest, rfl⟩
    have answer := @parseDataFrame_eq first rest mhc long tooLong within _ rfl
    rw [← offsetRead, ← unmaskLoop_fst (le_offsetRead first)] at answer
    rw [parseDataFrameTraced, if_pos long, if_neg tooLong, if_neg (Nat.not_lt.mpr within)]
    exact answer.symm
  · rw [parseDataFrameTraced, parseDataFrame, if_pos long, if_pos long, if_neg tooLong,
      if_neg tooLong, if_pos (Nat.lt_of_not_le within)]
    exact (if_pos (Nat.lt_of_not_le within)).symm

/-- **The logged run computes what the function computes.** -/
theorem parseFrameTraced_fst (mhc : ExtHttpConn) (p : Pbuf) :
    (parseFrameTraced mhc p).1 = extHttpWebSocketParseFrame mhc p := by
  unfold parseFrameTraced extHttpWebSocketParseFrame
  split_ifs
  · rfl
  · exact parseDataFrameTraced_fst mhc p
  · rfl
  · rfl
  · rfl

/-! ### Where the accesses are -/

/-- The loop reads the key bytes and reads and writes the payload. -/
theorem forall_unmaskLoop {inside : Access → Prop} {kptr dptr n left : Nat} (le : left ≤ n)
    (data : Bytes) :
    (∀ a ∈ (unmaskLoop kptr dptr n left data).2, inside a) ↔
      ∀ i < n, n - left ≤ i → inside (.payload (kptr + i % 4)) ∧ inside (.payload (dptr + i)) := by
  induction left generalizing data with
  | zero =>
      constructor
      · intro _ i lt behind
        omega
      · intro _ a mem
        cases mem
  | succ left ih =>
      rw [unmaskLoop]
      simp only
      rw [List.forall_mem_cons, List.forall_mem_cons, ih (Nat.le_of_succ_le le)]
      constructor
      · rintro ⟨key, byte, others⟩ i lt behind
        by_cases here : i = n - (left + 1)
        · rw [here]
          exact ⟨key, byte⟩
        · exact others i lt (by omega)
      · intro all
        obtain ⟨key, byte⟩ := all (n - (left + 1)) (by omega) (le_refl _)
        exact ⟨key, byte, fun i lt behind => all i lt (by omega)⟩

/-- A read of the length stays in a pbuf of more than six bytes. -/
theorem lengthAccesses_inside {p : Pbuf} (long : 6 < (p.headD []).length) :
    ∀ a ∈ lengthAccesses (p.headD []), a.Inside p := by
  intro a mem
  have few : ∃ i < 4, a = .payload i := by
    unfold lengthAccesses at mem
    split at mem
    · simp only [List.mem_cons, List.not_mem_nil, or_false] at mem
      rcases mem with rfl | rfl | rfl
      · exact ⟨1, by decide, rfl⟩
      · exact ⟨2, by decide, rfl⟩
      · exact ⟨3, by decide, rfl⟩
    · exact ⟨1, by decide, List.mem_singleton.mp mem⟩
  obtain ⟨i, lt, rfl⟩ := few
  change i < (p.headD []).length
  omega

/-- The reply is written inside the array whatever its length is. -/
theorem writeAccesses_inside (p : Pbuf) (len : Nat) (opCode : UInt8) :
    ∀ a ∈ writeAccesses len opCode, a.Inside p := by
  intro a mem
  have header : (frameHeader len opCode).length ≤ 4 := by
    rw [frameHeader_eq, length_frameHead]
    split <;> decide
  rw [writeAccesses, List.mem_append] at mem
  rcases mem with start | moved
  · obtain ⟨i, lt, rfl⟩ := List.mem_map.mp start
    rw [List.mem_range] at lt
    change i < 3072
    omega
  · obtain ⟨i, lt, pair⟩ := List.mem_flatMap.mp moved
    rw [List.mem_range, Nat.lt_min] at lt
    have room := lt.2
    unfold maxReqLength at room
    simp only [List.mem_cons, List.not_mem_nil, or_false] at pair
    rcases pair with rfl | rfl
    · change i < 3072
      omega
    · change (frameHeader len opCode).length + i < 3072
      omega

/-- The answer stays inside exactly if the payload lies in the first pbuf, and fits the array with
the NUL behind it. -/
theorem answerTraced_inside_iff (mhc : ExtHttpConn) {p : Pbuf} {offset n : Nat}
    (low : 6 ≤ offset) :
    (∀ a ∈ (answerTraced mhc p offset n).2, a.Inside p) ↔
      n = 0 ∨ offset + n ≤ (p.headD []).length ∧ n < maxReqLength := by
  rw [answerTraced, ← Prod.eta (unmaskLoop (offset - 4) offset n n (p.headD [])),
    unmaskLoop_fst low]
  simp only
  generalize copied_eq :
    (pbufCopyPartial (unmasked (p.headD []) offset n :: p.tail) n offset).length = copied
  have copied_le : copied ≤ n := by
    rw [← copied_eq, pbufCopyPartial, List.length_take]
    exact Nat.min_le_left _ _
  rw [List.forall_mem_append, List.forall_mem_append, forall_unmaskLoop (le_refl n),
    List.forall_mem_cons]
  constructor
  · rintro ⟨⟨unmasking, -⟩, stop, -⟩
    by_cases none : n = 0
    · exact .inl none
    right
    obtain ⟨-, last⟩ := unmasking (n - 1) (by omega) (by omega)
    change offset + (n - 1) < (p.headD []).length at last
    have fits : offset + n ≤ (p.headD []).length := by omega
    have whole : copied = n := by
      rw [← copied_eq, pbufCopyPartial, List.length_take, List.length_drop, List.flatten_cons,
        List.length_append, length_unmasked]
      omega
    rw [whole] at stop
    exact ⟨fits, stop⟩
  · intro fits
    refine ⟨⟨fun i lt _ => ?_, ?_⟩, ?_, writeAccesses_inside p n 1⟩
    · obtain none | ⟨inFirst, -⟩ := fits
      · omega
      have key := Nat.mod_lt i (show 0 < 4 by decide)
      change offset - 4 + i % 4 < (p.headD []).length ∧ offset + i < (p.headD []).length
      omega
    · intro a mem
      obtain ⟨i, lt, pair⟩ := List.mem_flatMap.mp mem
      rw [List.mem_range] at lt
      obtain none | ⟨inFirst, inArray⟩ := fits
      · omega
      simp only [List.mem_cons, List.not_mem_nil, or_false] at pair
      rcases pair with rfl | rfl
      · change offset + i < (p.headD []).length
        omega
      · change i < maxReqLength
        omega
    · change copied < maxReqLength
      obtain none | ⟨-, inArray⟩ := fits
      · unfold maxReqLength
        omega
      · omega

/-- The text and binary case stays inside exactly if its answer does. -/
theorem parseDataFrameTraced_inside_iff (mhc : ExtHttpConn) (p : Pbuf) :
    (∀ a ∈ (parseDataFrameTraced mhc p).2, a.Inside p) ↔
      (6 < (p.headD []).length → ((p.headD []).getD 1 0 &&& 0x7f).toNat ≠ 127 →
        lengthRead (p.headD []) ≤ totLen p → lengthRead (p.headD []) = 0 ∨
          offsetRead (p.headD []) + lengthRead (p.headD []) ≤ (p.headD []).length ∧
            lengthRead (p.headD []) < maxReqLength) := by
  unfold parseDataFrameTraced
  by_cases long : 6 < (p.headD []).length
  swap
  · rw [if_neg long]
    constructor
    · exact fun _ long' => absurd long' long
    · intro _ a mem
      cases mem
  have head := lengthAccesses_inside long
  rw [if_pos long]
  by_cases tooLong : ((p.headD []).getD 1 0 &&& 0x7f).toNat = 127
  · rw [if_pos tooLong]
    exact ⟨fun _ _ short => absurd tooLong short, fun _ => head⟩
  rw [if_neg tooLong]
  by_cases within : lengthRead (p.headD []) ≤ totLen p
  · rw [if_neg (Nat.not_lt.mpr within)]
    have answer := @answerTraced_inside_iff mhc p _ (lengthRead (p.headD []))
      (le_offsetRead (p.headD []))
    simp only [List.forall_mem_append]
    constructor
    · exact fun all _ _ _ => answer.mp all.2
    · exact fun fits => ⟨head, answer.mpr (fits long tooLong within)⟩
  · rw [if_pos (Nat.lt_of_not_le within)]
    exact ⟨fun _ _ _ within' => absurd within' within, fun _ => head⟩

/-- **The accesses stay inside the first pbuf and the array exactly if a segment of more than one
byte has a first byte there, and a payload that is answered lies in the first pbuf and fits the
array with a NUL.** -/
theorem accesses_inside_iff (mhc : ExtHttpConn) (p : Pbuf) :
    (∀ a ∈ (parseFrameTraced mhc p).2, a.Inside p) ↔ StaysInside p := by
  unfold parseFrameTraced
  by_cases more : 1 < totLen p
  swap
  · rw [if_neg more]
    constructor
    · exact fun _ => ⟨fun more' => absurd more' more, fun answered => absurd answered.more more⟩
    · intro _ a mem
      cases mem
  have firstInside : Access.Inside p (.payload 0) ↔ p.headD [] ≠ [] := List.length_pos_iff
  rw [if_pos more]
  by_cases fin : firstByte p &&& 0x80 = 0
  · rw [if_pos fin, List.forall_mem_singleton, firstInside]
    exact ⟨fun some => ⟨fun _ => some, fun answered => absurd fin answered.fin⟩,
      fun stays => stays.first more⟩
  rw [if_neg fin]
  by_cases code : firstByte p &&& 0x0f = 0x01 ∨ firstByte p &&& 0x0f = 0x02
  · rw [if_pos code]
    simp only [List.forall_mem_cons]
    rw [firstInside, parseDataFrameTraced_inside_iff]
    constructor
    · rintro ⟨some, payload⟩
      exact ⟨fun _ => some, fun answered => payload answered.long answered.short answered.within⟩
    · intro stays
      exact ⟨stays.first more,
        fun long short within => stays.payload ⟨more, fin, code, long, short, within⟩⟩
  · have only : (if firstByte p &&& 0x0f = 0x08 then ((mhc, TcpErr.clsd), [Access.payload 0])
        else ((mhc, .ok), [.payload 0])).2 = [.payload 0] := by
      split <;> rfl
    rw [if_neg code, only, List.forall_mem_singleton, firstInside]
    exact ⟨fun some => ⟨fun _ => some, fun answered => absurd answered.code code⟩,
      fun stays => stays.first more⟩

/-- A frame of seven bytes that announces four bytes of payload is read behind its pbuf. -/
theorem not_accesses_inside : ¬ ∀ (mhc : ExtHttpConn) (p : Pbuf),
    ∀ a ∈ (parseFrameTraced mhc p).2, a.Inside p := by
  intro inside
  have read : Access.payload 9 ∈ (parseFrameTraced {} [[0x81, 0x84, 1, 2, 3, 4, 5]]).2 := by
    decide +kernel
  have behind : ¬ 9 < 7 := by decide
  exact behind (inside {} _ _ read)

end LwipExt.Http
