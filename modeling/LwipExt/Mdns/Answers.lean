import LwipExt.Mdns.Outpacket
import Mathlib.Algebra.GroupWithZero.Nat

/-!
Reading back what the multicast DNS responder writes.

A record that stands in a packet is read by `mdns_read_answer` (`mdnsReadAnswer_of_answerIn`), a
question by `mdns_read_question`, and a section of records as the list of them
(`readAnswers_of_answersIn`). The reader is the one that the client uses for responses.
-/

namespace LwipExt.Mdns

/-! ### Fields -/

theorem foldl_ntoh (y : Bytes) (n : Nat) :
    y.foldl (fun n b => n * 256 + b.toNat) n = n * 256 ^ y.length + ntoh y := by
  induction y generalizing n with
  | nil => exact (Nat.mul_one n).symm
  | cons b y ih =>
      have unfolded : ntoh (b :: y) = y.foldl (fun n b => n * 256 + b.toNat) (0 * 256 + b.toNat) :=
        rfl
      rw [unfolded, List.foldl_cons, ih, ih, List.length_cons, Nat.zero_mul, Nat.zero_add,
        Nat.add_mul, Nat.pow_succ, Nat.mul_assoc, Nat.mul_comm 256, Nat.add_assoc]

theorem ntoh_append (x y : Bytes) : ntoh (x ++ y) = ntoh x * 256 ^ y.length + ntoh y := by
  have unfolded : ntoh (x ++ y) = y.foldl (fun n b => n * 256 + b.toNat) (ntoh x) :=
    List.foldl_append
  rw [unfolded, foldl_ntoh]

theorem ntoh_hton16 {n : Nat} (small : n < 65536) : ntoh (hton16 n) = n := by
  simp only [hton16, ntoh, List.foldl_cons, List.foldl_nil, UInt8.toNat_ofNat']
  omega

theorem ntoh_hton32 {n : Nat} (small : n < 4294967296) : ntoh (hton32 n) = n := by
  rw [hton32, ntoh_append, ntoh_hton16 (by omega), length_hton16]
  have low : hton16 n = hton16 (n % 65536) := by
    simp only [hton16, List.cons.injEq, and_true]
    constructor
    · apply UInt8.toNat_inj.mp
      rw [UInt8.toNat_ofNat', UInt8.toNat_ofNat']
      omega
    · apply UInt8.toNat_inj.mp
      rw [UInt8.toNat_ofNat', UInt8.toNat_ofNat']
      omega
  rw [low, ntoh_hton16 (by omega)]
  omega

section Reading

variable {limit : Nat} {v : Nat → Option UInt8} {p : Bytes}

theorem copied_of_dataIn (below : Below v p) {o : Nat} {data : Bytes} (stands : DataIn v o data) :
    pbufCopyPartial p data.length o = data := by
  rw [pbufCopyPartial]
  apply List.ext_getElem?
  intro i
  by_cases lt : i < data.length
  · rw [List.getElem?_take_of_lt lt, List.getElem?_drop, List.getElem?_eq_getElem lt]
    apply below
    rw [stands i lt, List.getElem?_eq_getElem lt]
  · rw [List.getElem?_eq_none (by simp; omega), List.getElem?_eq_none (by omega)]

theorem DataIn.inside (below : Below v p) {o : Nat} {data : Bytes} (stands : DataIn v o data)
    (nonempty : data ≠ []) : o + data.length ≤ p.length := by
  have some_ := List.length_pos_of_ne_nil nonempty
  have last := stands (data.length - 1) (by omega)
  rw [List.getElem?_eq_getElem (by omega)] at last
  have := below.lt last
  omega

theorem field_of_dataIn (pkt : MdnsPacket) (below : Below v pkt.pbuf)
    (small : pkt.pbuf.length < mdnsReadnameError) {data : Bytes} (nonempty : data ≠ [])
    (stands : DataIn v pkt.parseOffset data) :
    pkt.field data.length =
      (some (ntoh data), { pkt with parseOffset := pkt.parseOffset + data.length }) := by
  have error : mdnsReadnameError = 65535 := rfl
  have inside := stands.inside below nonempty
  rw [MdnsPacket.field, copied_of_dataIn below stands]
  rw [if_neg (fun other => other rfl), u16_of_lt (by omega)]

theorem NameStands.read (below : Below v p) (small : p.length < mdnsReadnameError) {o stop : Nat}
    {labels : List Bytes} (stands : NameStands limit v o labels stop) :
    mdnsReadname p o = (stop, ⟨encodeName labels⟩) ∧ stop ≤ p.length := by
  obtain ⟨plain, jumps, deep, named⟩ := stands
  have fits := plain.fits
  obtain ⟨last, written, behind⟩ := named.stop_written
  have inside := below.lt written
  exact ⟨mdnsReadname_of_nameIn below small named deep (by omega), by omega⟩

/-! ### Records -/

theorem mdnsReadRrInfo_of_questionIn (pkt : MdnsPacket) (below : Below v pkt.pbuf)
    (small : pkt.pbuf.length < mdnsReadnameError) {type klass stop : Nat} {labels : List Bytes}
    (typed : type < 65536) (classed : klass < 65536)
    (stands : QuestionIn limit v pkt.parseOffset labels type klass stop) :
    mdnsReadRrInfo pkt =
      (some ⟨⟨encodeName labels⟩, type, klass⟩, { pkt with parseOffset := stop }) := by
  have error : mdnsReadnameError = 65535 := rfl
  obtain ⟨mid, named, fields, rfl⟩ := stands
  obtain ⟨read, inside⟩ := named.read below small
  obtain ⟨typeField, klassField⟩ := fields.parts
  have first := field_of_dataIn { pkt with parseOffset := mid } below small (hton16_ne_nil type)
    typeField
  have second := field_of_dataIn { pkt with parseOffset := mid + 2 } below small
    (hton16_ne_nil klass) klassField
  rw [length_hton16, ntoh_hton16 typed] at first
  rw [length_hton16, ntoh_hton16 classed] at second
  rw [mdnsReadRrInfo, read]
  simp only
  rw [if_neg (by omega), first]
  simp only
  rw [second]

/-- The fields of a record are in their widths. -/
structure MdnsRecord.InWidth (r : MdnsRecord) : Prop where
  type : r.type < 65536
  klass : r.klass < 32768
  ttl : r.ttl < 4294967296

/-- The answer that is read for a record of a packet. -/
structure ReadAs (p : Bytes) (r : MdnsRecord) (ans : MdnsAnswer) : Prop where
  info : ans.info = ⟨⟨encodeName r.labels⟩, r.type, r.klass⟩
  cacheFlush : ans.cacheFlush = r.cacheFlush
  ttl : ans.ttl = r.ttl
  data : pbufCopyPartial p r.data.length ans.rdOffset = r.data
  target : match r.target with
    | none => ans.rdLength = r.data.length
    | some labels => mdnsReadname p (ans.rdOffset + r.data.length) =
        (ans.rdOffset + ans.rdLength, ⟨encodeName labels⟩)

theorem klassField_read {klass : Nat} (small : klass < 32768) (flag : Bool) :
    klassField klass flag < 65536 ∧ klassField klass flag % 0x8000 = klass ∧
      decide (0x8000 ≤ klassField klass flag) = flag := by
  cases flag with
  | false =>
      have plain : klassField klass false = klass := rfl
      rw [plain]
      exact ⟨by omega, by omega, decide_eq_false (by omega)⟩
  | true =>
      have set : klassField klass true = klass + 0x8000 := by
        rw [klassField, if_pos rfl, Nat.or_comm, Nat.add_comm]
        exact (Nat.two_pow_add_eq_or_of_lt (i := 15) small 1).symm
      rw [set]
      exact ⟨by omega, by omega, decide_eq_true (by omega)⟩

/-- The data of a record end before the record does, and the record before the packet. -/
theorem data_stop (below : Below v p) {o stop : Nat} {r : MdnsRecord} (room : o ≤ p.length)
    (data : DataIn v o r.data) (target : TargetIn limit v (o + r.data.length) r.target stop) :
    o + r.data.length ≤ stop ∧ stop ≤ p.length := by
  cases named : r.target with
  | none =>
      rw [named] at target
      have at_ : stop = o + r.data.length := target
      by_cases empty : r.data = []
      · rw [empty, List.length_nil] at at_ ⊢
        omega
      · have := data.inside below empty
        omega
  | some labels =>
      rw [named] at target
      obtain ⟨_, jumps, _, standing⟩ := target
      obtain ⟨last, written, behind⟩ := standing.stop_written
      have := below.lt written
      omega

theorem mdnsReadAnswer_of_answerIn (pkt : MdnsPacket) (below : Below v pkt.pbuf)
    (small : pkt.pbuf.length < mdnsReadnameError) (asked : pkt.questionsLeft = 0)
    (left : pkt.answersLeft ≠ 0) {r : MdnsRecord} (width : r.InWidth) {stop : Nat}
    (stands : AnswerIn limit v pkt.parseOffset r stop) :
    ∃ ans, ReadAs pkt.pbuf r ans ∧
      mdnsReadAnswer pkt =
        (some ans, { pkt with parseOffset := stop, answersLeft := pkt.answersLeft - 1 }) := by
  have error : mdnsReadnameError = 65535 := rfl
  obtain ⟨mid, question, ttlField, lengthField, data, target⟩ := stands
  obtain ⟨inWidth, klass, flush⟩ := klassField_read width.klass r.cacheFlush
  have info := mdnsReadRrInfo_of_questionIn { pkt with answersLeft := pkt.answersLeft - 1 } below
    small width.type inWidth question
  have ttl := field_of_dataIn
    { pkt with parseOffset := mid, answersLeft := pkt.answersLeft - 1 } below small
    (hton32_ne_nil r.ttl) ttlField
  have length := field_of_dataIn
    { pkt with parseOffset := mid + 4, answersLeft := pkt.answersLeft - 1 } below small
    (hton16_ne_nil _) lengthField
  have room := lengthField.inside below (hton16_ne_nil _)
  rw [length_hton16] at room
  have ends := data_stop below (by omega) data target
  rw [length_hton32, ntoh_hton32 width.ttl] at ttl
  rw [length_hton16, ntoh_hton16 (by omega)] at length
  have started : ¬ pkt.pbuf.length < pkt.parseOffset := by
    obtain ⟨nameStop, named, _, _⟩ := question
    have inside := (named.read below small).2
    obtain ⟨_, jumps, _, standing⟩ := named
    have := standing.stop_written.choose_spec.2
    omega
  refine ⟨⟨⟨⟨encodeName r.labels⟩, r.type, r.klass⟩, r.cacheFlush, r.ttl, stop - (mid + 6),
    mid + 6⟩, ⟨rfl, rfl, rfl, copied_of_dataIn below data, ?_⟩, ?_⟩
  · cases named : r.target with
    | none =>
        rw [named] at target
        have at_ : stop = mid + 6 + r.data.length := target
        simp only
        omega
    | some labels =>
        rw [named] at target
        have read := (NameStands.read below small target).1
        simp only
        rw [read, Nat.add_sub_cancel' (by omega)]
  · rw [mdnsReadAnswer, if_neg (fun other => other asked), if_neg started, if_neg left, info]
    simp only
    rw [ttl]
    simp only
    rw [length]
    simp only [klass, flush]
    rw [u16_of_lt (by omega), Nat.add_assoc mid 4 2, Nat.add_sub_cancel' (by omega)]

/-! ### Sections -/

/-- Records stand one after the other. -/
def AnswersIn (limit : Nat) (v : Nat → Option UInt8) : Nat → List MdnsRecord → Nat → Prop
  | o, [], stop => stop = o
  | o, r :: rs, stop => ∃ mid, AnswerIn limit v o r mid ∧ AnswersIn limit v mid rs stop

theorem AnswersIn.mono {v' : Nat → Option UInt8} (kept : ∀ i b, v i = some b → v' i = some b)
    {rs : List MdnsRecord} {o stop : Nat} (stands : AnswersIn limit v o rs stop) :
    AnswersIn limit v' o rs stop := by
  induction rs generalizing o with
  | nil => exact stands
  | cons r rs ih =>
      obtain ⟨mid, first, rest⟩ := stands
      exact ⟨mid, first.mono kept, ih rest⟩

theorem AnswersIn.snoc {rs : List MdnsRecord} {r : MdnsRecord} {o mid stop : Nat}
    (stands : AnswersIn limit v o rs mid) (last : AnswerIn limit v mid r stop) :
    AnswersIn limit v o (rs ++ [r]) stop := by
  induction rs generalizing o with
  | nil =>
      obtain rfl : mid = o := stands
      exact ⟨stop, last, rfl⟩
  | cons r' rs ih =>
      obtain ⟨next, first, rest⟩ := stands
      exact ⟨next, first, ih rest⟩

/-- A section of records is read as the list of them. -/
theorem readAnswers_of_answersIn {rs : List MdnsRecord} (width : ∀ r ∈ rs, r.InWidth)
    (pkt : MdnsPacket) (below : Below v pkt.pbuf) (small : pkt.pbuf.length < mdnsReadnameError)
    (asked : pkt.questionsLeft = 0) (left : pkt.answersLeft = rs.length) {stop : Nat}
    (stands : AnswersIn limit v pkt.parseOffset rs stop) :
    List.Forall₂ (ReadAs pkt.pbuf) rs pkt.answers := by
  rw [MdnsPacket.answers, left]
  induction rs generalizing pkt with
  | nil => exact .nil
  | cons r rs ih =>
      obtain ⟨mid, first, rest⟩ := stands
      rw [List.length_cons] at left
      obtain ⟨ans, read, answered⟩ := mdnsReadAnswer_of_answerIn pkt below small asked
        (by omega) (width r (.head _)) first
      rw [List.length_cons, readAnswers, answered]
      have others := ih (fun r' mem => width r' (.tail _ mem))
        { pkt with parseOffset := mid, answersLeft := pkt.answersLeft - 1 } below small asked
        (by simp only; omega) rest
      exact .cons read others

end Reading

end LwipExt.Mdns
