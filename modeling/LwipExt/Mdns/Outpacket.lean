import LwipExt.Mdns.Compression

/-!
The packet that the multicast DNS responder writes: `mdns_write_domain`, `mdns_add_question` and
`mdns_add_answer` of `extMdns.c`.

Each of them reports success with the packet as it left it, since `mdns_add_answer` does not look
at what `mdns_add_question` reports. A packet under construction is `Composed`: the names whose
offsets it stores stand in what is written of it. Adding a name, a question or an answer keeps
that (`mdnsWriteDomain_grown`, `mdnsAddQuestion_grown`, `mdnsAddAnswer_grown`) and leaves what was
written before.
-/

namespace LwipExt.Mdns

/-- `NUM_DOMAIN_OFFSETS`. -/
def numDomainOffsets : Nat := 10

/-- `OUTPACKET_SIZE`. -/
def outpacketSize : Nat := 500

/-- The bits `REPLY_HOST_*` of `host_replies`. -/
structure HostReplies where
  a : Bool := false
  ptrV4 : Bool := false
  deriving DecidableEq, Repr

/-- The bits `REPLY_SERVICE_*` of an entry of `serv_replies`. -/
structure ServReplies where
  typePtr : Bool := false
  namePtr : Bool := false
  srv : Bool := false
  txt : Bool := false
  deriving DecidableEq, Repr

/-- `struct mdns_outpacket`, without the interface and the count of questions, which nothing
reads. -/
structure MdnsOutpacket where
  pbuf : Option Bytes := none
  writeOffset : Nat := 0
  txId : Nat := 0
  destAddr : UInt32 := 0
  destPort : Nat := 0
  answers : Nat := 0
  additional : Nat := 0
  domainOffsets : List Nat := List.replicate numDomainOffsets 0
  cacheFlush : Bool := false
  unicastReply : Bool := false
  legacyQuery : Bool := false
  hostReplies : HostReplies := {}
  servReplies : List ServReplies := []
  deriving DecidableEq, Repr

/-- A domain with its `skip_compression`, which only the responder sets. -/
structure MdnsName where
  domain : MdnsDomain
  skipCompression : Bool := false
  deriving DecidableEq, Repr

/-- A 32-bit number behind `lwip_htonl`. -/
def hton32 (n : Nat) : Bytes := hton16 (n / 65536) ++ hton16 n

/-- `pbuf_take_at` into the packet; `false` is `ERR_MEM`. -/
def MdnsOutpacket.takeAt (out : MdnsOutpacket) (data : Bytes) (offset : Nat) :
    MdnsOutpacket × Bool :=
  match out.pbuf with
  | none => (out, false)
  | some p =>
      if offset < p.length ∧ offset + data.length ≤ p.length then
        ({ out with pbuf := some (pbufTakeAt p data offset) }, true)
      else (out, false)

/-- A write at the write offset, which moves behind it. -/
def MdnsOutpacket.put (out : MdnsOutpacket) (data : Bytes) : MdnsOutpacket × Bool :=
  match out.takeAt data out.writeOffset with
  | (out, false) => (out, false)
  | (out, true) => ({ out with writeOffset := u16 (out.writeOffset + data.length) }, true)

/-- The loop of `mdns_write_domain` over the stored offsets: the bytes of the name to write, and
where a jump behind them leads, if anywhere. -/
def mdnsBestJump (p : Bytes) (domain : MdnsDomain) : List Nat → Nat × Nat → Nat × Nat
  | [], best => best
  | offset :: offsets, best =>
      if offset = 0 then mdnsBestJump p domain offsets best
      else
        match mdnsCompressDomain p offset domain with
        | (len, jump) =>
            mdnsBestJump p domain offsets (if len < best.1 then (len, jump) else best)

/-- The offset of a new name goes to the first free place. -/
def storeDomainOffset (offset : Nat) : List Nat → List Nat
  | [] => []
  | o :: os => if o = 0 then offset :: os else o :: storeDomainOffset offset os

/-- `mdns_write_domain`. -/
def mdnsWriteDomain (out : MdnsOutpacket) (name : MdnsName) : MdnsOutpacket × Bool :=
  let domain := name.domain
  let best :=
    match out.pbuf with
    | none => (domain.length, 0)
    | some p =>
        if name.skipCompression then (domain.length, 0)
        else mdnsBestJump p domain out.domainOffsets (domain.length, 0)
  let written :=
    if best.1 = 0 then (out, true)
    else
      match out.put (domain.name.take best.1) with
      | (out', false) => (out', false)
      | (out', true) =>
          ({ out' with domainOffsets := storeDomainOffset out.writeOffset out.domainOffsets }, true)
  match written with
  | (out, false) => (out, false)
  | (out, true) => if best.2 = 0 then (out, true) else out.put (hton16 (0xc000 ||| best.2))

/-- The packet, with a pbuf when `pbuf_alloc` has one; `fresh` is what it returns. -/
def MdnsOutpacket.allocated (out : MdnsOutpacket) (fresh : Option Bytes) : MdnsOutpacket :=
  match out.pbuf, fresh with
  | none, some p => { out with pbuf := some p, writeOffset := sizeofDnsHdr }
  | _, _ => out

/-- `mdns_add_question`. -/
def mdnsAddQuestion (fresh : Option Bytes) (out : MdnsOutpacket) (domain : MdnsDomain)
    (type klass : Nat) (unicast : Bool) : MdnsOutpacket × Bool :=
  let out := out.allocated fresh
  match out.pbuf with
  | none => (out, false)
  | some p =>
      let questionLen := u16 (domain.length + 2 + 2)
      if p.length < out.writeOffset + questionLen then (out, false)
      else
        match mdnsWriteDomain out { domain } with
        | (out, false) => (out, false)
        | (out, true) =>
            match out.put (hton16 type) with
            | (out, false) => (out, false)
            | (out, true) => out.put (hton16 (if unicast then klass ||| 0x8000 else klass))

/-- The static data of an answer, if it has some. -/
def MdnsOutpacket.putStatic (out : MdnsOutpacket) : Option Bytes → MdnsOutpacket × Bool
  | none => (out, true)
  | some data => out.put data

/-- The name in an answer, if it has one. -/
def mdnsWriteAnswerDomain (out : MdnsOutpacket) : Option MdnsName → MdnsOutpacket × Bool
  | none => (out, true)
  | some name => mdnsWriteDomain out name

/-- `mdns_add_answer`. -/
def mdnsAddAnswer (fresh : Option Bytes) (reply : MdnsOutpacket) (domain : MdnsDomain)
    (type klass : Nat) (cacheFlush : Bool) (ttl : Nat) (buf : Option Bytes)
    (answerDomain : Option MdnsName) : MdnsOutpacket × Bool :=
  let reply := reply.allocated fresh
  match reply.pbuf with
  | none => (reply, false)
  | some p =>
      let answerLen := u16 (domain.length + 2 + 2 + 4 + 2)
      let answerLen := u16 (answerLen + (buf.map List.length).getD 0)
      let answerLen := u16 (answerLen + (answerDomain.map fun name => name.domain.length).getD 0)
      if p.length < reply.writeOffset + answerLen then (reply, false)
      else
        -- the result is not looked at
        let reply := (mdnsAddQuestion fresh reply domain type klass cacheFlush).1
        match reply.put (hton32 ttl) with
        | (reply, false) => (reply, false)
        | (reply, true) =>
            let rdlenOffset := reply.writeOffset
            let answerOffset := u16 (rdlenOffset + 2)
            let reply := { reply with writeOffset := answerOffset }
            match reply.putStatic buf with
            | (reply, false) => (reply, false)
            | (reply, true) =>
                match mdnsWriteAnswerDomain reply answerDomain with
                | (reply, false) => (reply, false)
                | (reply, true) =>
                    reply.takeAt (hton16 (sub16 reply.writeOffset answerOffset)) rdlenOffset

@[simp] theorem length_hton16 (n : Nat) : (hton16 n).length = 2 := rfl

@[simp] theorem length_hton32 (n : Nat) : (hton32 n).length = 4 := rfl

theorem hton16_ne_nil (n : Nat) : hton16 n ≠ [] := List.cons_ne_nil _ _

theorem hton32_ne_nil (n : Nat) : hton32 n ≠ [] := List.cons_ne_nil _ _

/-! ### What is written -/

/-- Bytes stand at an offset of what is written. -/
def DataIn (v : Nat → Option UInt8) (o : Nat) (data : Bytes) : Prop :=
  ∀ i < data.length, v (o + i) = data[i]?

/-- What is written after a write at an offset. -/
def written (v : Nat → Option UInt8) (o : Nat) (data : Bytes) : Nat → Option UInt8 := fun i =>
  if o ≤ i ∧ i < o + data.length then data[i - o]? else v i

theorem written_of_lt {v : Nat → Option UInt8} {o i : Nat} {data : Bytes} (before : i < o) :
    written v o data i = v i := if_neg fun both => by omega

theorem written_of_ge {v : Nat → Option UInt8} {o i : Nat} {data : Bytes}
    (behind : o + data.length ≤ i) : written v o data i = v i := if_neg fun both => by omega

theorem dataIn_written (v : Nat → Option UInt8) (o : Nat) (data : Bytes) :
    DataIn (written v o data) o data := by
  intro i lt
  rw [written, if_pos ⟨by omega, by omega⟩, Nat.add_sub_cancel_left]

theorem DataIn.mono {v v' : Nat → Option UInt8} (kept : ∀ i b, v i = some b → v' i = some b)
    {o : Nat} {data : Bytes} (stands : DataIn v o data) : DataIn v' o data := by
  intro i lt
  rw [List.getElem?_eq_getElem lt]
  apply kept
  rw [stands i lt, List.getElem?_eq_getElem lt]

theorem DataIn.append {v : Nat → Option UInt8} {o : Nat} {data data' : Bytes}
    (first : DataIn v o data) (second : DataIn v (o + data.length) data') :
    DataIn v o (data ++ data') := by
  intro i lt
  rw [List.length_append] at lt
  by_cases inFirst : i < data.length
  · rw [List.getElem?_append_left inFirst]
    exact first i inFirst
  · rw [List.getElem?_append_right (by omega), ← second (i - data.length) (by omega)]
    congr 1
    omega

theorem DataIn.parts {v : Nat → Option UInt8} {o : Nat} {data data' : Bytes}
    (stands : DataIn v o (data ++ data')) :
    DataIn v o data ∧ DataIn v (o + data.length) data' := by
  constructor
  · intro i lt
    rw [stands i (by rw [List.length_append]; omega), List.getElem?_append_left lt]
  · intro i lt
    rw [Nat.add_assoc, stands (data.length + i) (by rw [List.length_append]; omega),
      List.getElem?_append_right (by omega), Nat.add_sub_cancel_left]

/-- Labels that are written before a name make it longer. -/
theorem nameIn_of_dataIn {v : Nat → Option UInt8} {pre suf : List Bytes} {jumps o stop : Nat}
    (each : ∀ label ∈ pre, label ≠ [] ∧ label.length ≤ mdnsLabelMaxlen)
    (stands : DataIn v o (encodeLabels pre))
    (rest : NameIn v jumps (o + (encodeLabels pre).length) suf stop) :
    NameIn v jumps o (pre ++ suf) stop := by
  induction pre generalizing o with
  | nil => exact rest
  | cons label pre ih =>
      have bytes : encodeLabels (label :: pre) =
          [UInt8.ofNat label.length] ++ (label ++ encodeLabels pre) := rfl
      rw [bytes] at stands rest
      obtain ⟨len, others⟩ := stands.parts
      obtain ⟨text, behind⟩ := others.parts
      obtain ⟨nonempty, short⟩ := each label (.head _)
      refine .label nonempty short (len 0 (by simp)) text ?_
      apply ih (fun next mem => each next (.tail _ mem))
      · exact behind
      · simp only [List.length_append, List.length_singleton, ← Nat.add_assoc] at rest
        exact rest

/-! ### Packets under construction -/

/-- A packet under construction: in the part written of its pbuf, behind the header and before the
write offset, stand the names whose offsets are stored, each behind at most `depth` jumps. -/
structure Composed (limit depth : Nat) (v : Nat → Option UInt8) (p : Bytes) (w : Nat)
    (offsets : List Nat) : Prop where
  size : p.length = outpacketSize
  below : Below v p
  body : ∀ i b, v i = some b → sizeofDnsHdr ≤ i ∧ i < w
  started : sizeofDnsHdr ≤ w
  inside : w ≤ p.length
  names : ∀ o ∈ offsets, o ≠ 0 →
    ∃ jumps labels stop, jumps ≤ depth ∧ Plain limit labels ∧ NameIn v jumps o labels stop

/-- The packet has grown: what was written before the write offset is as it was. -/
structure Grown (limit : Nat) (v : Nat → Option UInt8) (w : Nat) (depth' : Nat)
    (v' : Nat → Option UInt8) (p' : Bytes) (w' : Nat) (offsets' : List Nat) : Prop where
  composed : Composed limit depth' v' p' w' offsets'
  same : ∀ i < w, v' i = v i
  le : w ≤ w'

/-- A packet with this much written. -/
def MdnsOutpacket.holding (out : MdnsOutpacket) (p : Bytes) (w : Nat) (offsets : List Nat) :
    MdnsOutpacket :=
  { out with pbuf := some p, writeOffset := w, domainOffsets := offsets }

section Growing

variable {limit depth : Nat} {v : Nat → Option UInt8} {p : Bytes} {w : Nat} {offsets : List Nat}

theorem Composed.kept (composed : Composed limit depth v p w offsets) {v' : Nat → Option UInt8}
    (same : ∀ i < w, v' i = v i) : ∀ i b, v i = some b → v' i = some b := by
  intro i b at_
  rw [same i (composed.body i b at_).2, at_]

theorem Composed.deeper (composed : Composed limit depth v p w offsets) {depth' : Nat}
    (le : depth ≤ depth') : Composed limit depth' v p w offsets := by
  refine { composed with names := fun o mem nonzero => ?_ }
  obtain ⟨jumps, labels, stop, deep, rest⟩ := composed.names o mem nonzero
  exact ⟨jumps, labels, stop, Nat.le_trans deep le, rest⟩

theorem Grown.trans {v₁ v₂ : Nat → Option UInt8} {p₁ p₂ : Bytes} {w₁ w₂ depth₁ depth₂ : Nat}
    {offsets₁ offsets₂ : List Nat} (first : Grown limit v w depth₁ v₁ p₁ w₁ offsets₁)
    (second : Grown limit v₁ w₁ depth₂ v₂ p₂ w₂ offsets₂) :
    Grown limit v w depth₂ v₂ p₂ w₂ offsets₂ where
  composed := second.composed
  same i lt := by rw [second.same i (Nat.lt_of_lt_of_le lt first.le), first.same i lt]
  le := Nat.le_trans first.le second.le

theorem pbufTakeAt_of_fits {p data : Bytes} {offset : Nat} (some_ : data ≠ [])
    (fits : offset + data.length ≤ p.length) :
    pbufTakeAt p data offset = Lib.patch p (offset, data) := by
  have := List.length_pos_of_ne_nil some_
  rw [pbufTakeAt, if_pos ⟨by omega, fits⟩, bufWrite_eq_patch p (w := (offset, data)) fits]

theorem getElem?_patch {p data : Bytes} {offset : Nat} (fits : offset + data.length ≤ p.length)
    (i : Nat) : (Lib.patch p (offset, data))[i]? =
      if offset ≤ i ∧ i < offset + data.length then data[i - offset]? else p[i]? := by
  have front : (p.take offset).length = offset := List.length_take_of_le (by omega)
  change (p.take offset ++ data ++ p.drop (offset + data.length))[i]? = _
  by_cases before : i < offset
  · rw [if_neg (by omega), List.append_assoc, List.getElem?_append_left (by omega),
      List.getElem?_take_of_lt before]
  · rw [List.append_assoc, List.getElem?_append_right (by omega), front]
    by_cases within : i < offset + data.length
    · rw [if_pos ⟨by omega, within⟩, List.getElem?_append_left (by omega)]
    · rw [if_neg (by omega), List.getElem?_append_right (by omega), List.getElem?_drop]
      congr 1
      omega

/-- Bytes where nothing is written yet. -/
theorem Composed.patch (composed : Composed limit depth v p w offsets) (data : Bytes) {o w' : Nat}
    (body : sizeofDnsHdr ≤ o) (gap : ∀ i, o ≤ i → i < o + data.length → v i = none)
    (le : w ≤ w') (reaches : o + data.length ≤ w') (fits : w' ≤ p.length) :
    Composed limit depth (written v o data) (Lib.patch p (o, data)) w' offsets := by
  have kept : ∀ i b, v i = some b → written v o data i = some b := by
    intro i b at_
    rw [written, if_neg, at_]
    rintro ⟨ge, lt⟩
    rw [gap i ge lt] at at_
    cases at_
  refine
    { size := by rw [Lib.length_patch p (w := (o, data)) (by simp only; omega)]; exact composed.size
      below := fun i b at_ => ?_
      body := fun i b at_ => ?_
      started := Nat.le_trans composed.started le
      inside := by rw [Lib.length_patch p (w := (o, data)) (by simp only; omega)]; exact fits
      names := fun o mem nonzero => ?_ }
  · rw [getElem?_patch (by omega)]
    rw [written] at at_
    split at at_
    next within => rw [if_pos within, at_]
    next outside => rw [if_neg outside, composed.below i b at_]
  · rw [written] at at_
    split at at_
    · omega
    · have := composed.body i b at_
      omega
  · obtain ⟨jumps, labels, stop, deep, plain, named⟩ := composed.names o mem nonzero
    exact ⟨jumps, labels, stop, deep, plain, named.mono kept⟩

theorem outpacketSize_small {p : Bytes} (size : p.length = outpacketSize) :
    p.length < mdnsReadnameError := by
  rw [size]
  decide

@[simp] theorem holding_pbuf (out : MdnsOutpacket) (p : Bytes) (w : Nat) (offsets : List Nat) :
    (out.holding p w offsets).pbuf = some p := rfl

@[simp] theorem holding_writeOffset (out : MdnsOutpacket) (p : Bytes) (w : Nat)
    (offsets : List Nat) : (out.holding p w offsets).writeOffset = w := rfl

@[simp] theorem holding_domainOffsets (out : MdnsOutpacket) (p : Bytes) (w : Nat)
    (offsets : List Nat) : (out.holding p w offsets).domainOffsets = offsets := rfl

theorem takeAt_of_fits (out : MdnsOutpacket) {p : Bytes} (w : Nat) (offsets : List Nat)
    {data : Bytes} {o : Nat} (fits : o < p.length ∧ o + data.length ≤ p.length) :
    (out.holding p w offsets).takeAt data o =
      (out.holding (pbufTakeAt p data o) w offsets, true) := if_pos fits

theorem takeAt_holding (out : MdnsOutpacket) {p : Bytes} {w : Nat} {offsets : List Nat}
    {data : Bytes} {o : Nat} (nonempty : data ≠ []) (fits : o + data.length ≤ p.length) :
    (out.holding p w offsets).takeAt data o =
      (out.holding (Lib.patch p (o, data)) w offsets, true) := by
  have some_ := List.length_pos_of_ne_nil nonempty
  rw [takeAt_of_fits out w offsets ⟨by omega, fits⟩, pbufTakeAt_of_fits nonempty fits]

/-- What a write at the write offset does. -/
theorem put_holding (out : MdnsOutpacket) {p : Bytes} {w : Nat} (offsets : List Nat)
    {data : Bytes} (size : p.length = outpacketSize) (nonempty : data ≠ []) (fits : w + data.length ≤ p.length) :
    (out.holding p w offsets).put data =
      (out.holding (Lib.patch p (w, data)) (w + data.length) offsets, true) := by
  have small := outpacketSize_small size
  have error : mdnsReadnameError = 65535 := rfl
  rw [MdnsOutpacket.put, holding_writeOffset, takeAt_holding out nonempty fits]
  simp only [MdnsOutpacket.holding]
  rw [u16_of_lt (by omega)]

theorem Composed.put (composed : Composed limit depth v p w offsets) (data : Bytes)
    (fits : w + data.length ≤ p.length) :
    Grown limit v w depth (written v w data) (Lib.patch p (w, data)) (w + data.length) offsets := by
  refine ⟨composed.patch data composed.started (fun i ge lt => ?_) (by omega) (by omega) fits,
    fun i lt => written_of_lt lt, by omega⟩
  cases at_ : v i with
  | none => rfl
  | some b =>
      have := composed.body i b at_
      omega

/-! ### A name -/

/-- What the loop of `mdns_write_domain` may come to: the whole name, or labels of it before a
jump to a label behind which the others stand. -/
def GoodJump (depth : Nat) (v : Nat → Option UInt8) (labels : List Bytes) (best : Nat × Nat) :
    Prop :=
  best = ((encodeName labels).length, 0) ∨
    ∃ pre suf jumps stop, labels = pre ++ suf ∧ suf ≠ [] ∧ best.1 = (encodeLabels pre).length ∧
      jumps ≤ depth ∧ NameIn v jumps best.2 suf stop ∧ best.2 + 2 < stop

theorem GoodJump.le {labels : List Bytes} {best : Nat × Nat} (good : GoodJump depth v labels best) :
    best.1 ≤ (encodeName labels).length := by
  rcases good with rfl | ⟨pre, suf, _, _, rfl, _, len, _⟩
  · exact Nat.le_refl _
  · rw [len, encodeName_append, List.length_append]
    omega

theorem mdnsBestJump_good (composed : Composed limit depth v p w offsets) (deep : depth ≤ 5)
    {labels : List Bytes} (plain : Plain limit labels) {os : List Nat}
    (stored : ∀ o ∈ os, o ∈ offsets) {best : Nat × Nat} (good : GoodJump depth v labels best) :
    GoodJump depth v labels (mdnsBestJump p ⟨encodeName labels⟩ os best) := by
  induction os generalizing best with
  | nil => exact good
  | cons o os ih =>
      have others := fun o' mem => stored o' (.tail _ mem)
      rw [mdnsBestJump]
      split
      · exact ih others good
      next nonzero =>
        obtain ⟨jumps, target, stop, le, plainTarget, named⟩ :=
          composed.names o (stored o (.head _)) nonzero
        cases compressed : mdnsCompressDomain p o ⟨encodeName labels⟩ with
        | mk len jump =>
            apply ih others
            split
            next shorter =>
              rcases mdnsCompressDomain_of_nameIn composed.below
                  (outpacketSize_small composed.size) named (by omega) plainTarget plain compressed
                with whole | ⟨pre, suf, split, nonempty, length, rest, literal⟩
              · have := good.le
                omega
              · exact .inr ⟨pre, suf, jumps, stop, split, nonempty, length, le, rest, literal⟩
            next => exact good

theorem mem_storeDomainOffset {o o' : Nat} {os : List Nat} (mem : o' ∈ storeDomainOffset o os) :
    o' = o ∨ o' ∈ os := by
  induction os with
  | nil => exact .inr mem
  | cons first os ih =>
      rw [storeDomainOffset] at mem
      split at mem
      · rcases List.mem_cons.mp mem with rfl | later
        · exact .inl rfl
        · exact .inr (.tail _ later)
      · rcases List.mem_cons.mp mem with rfl | later
        · exact .inr (.head _)
        · exact (ih later).imp_right (.tail _)

theorem Composed.store (composed : Composed limit depth v p w offsets) {jumps o stop : Nat}
    {labels : List Bytes} (named : NameIn v jumps o labels stop) (plain : Plain limit labels)
    (le : jumps ≤ depth) : Composed limit depth v p w (storeDomainOffset o offsets) := by
  refine { composed with names := fun o' mem nonzero => ?_ }
  rcases mem_storeDomainOffset mem with rfl | earlier
  · exact ⟨jumps, labels, stop, le, plain, named⟩
  · exact composed.names o' earlier nonzero

/-- The two bytes of a jump. -/
theorem jump_bytes {addr : Nat} (small : addr < 16384) :
    ∃ hi lo, hton16 (0xc000 ||| addr) = [hi, lo] ∧ hi &&& 0xc0 = 0xc0 ∧
      (hi &&& 0x3f).toNat * 256 + lo.toNat = addr := by
  have sum : 0xc000 ||| addr = 0xc000 + addr :=
    (Nat.two_pow_add_eq_or_of_lt (i := 14) small 3).symm
  have high : ∀ n < 64, UInt8.ofNat (192 + n) &&& 0xc0 = 0xc0 ∧
      (UInt8.ofNat (192 + n) &&& 0x3f).toNat = n := by decide
  obtain ⟨flag, value⟩ := high (addr / 256) (by omega)
  refine ⟨UInt8.ofNat (192 + addr / 256), UInt8.ofNat (0xc000 + addr), ?_, flag, ?_⟩
  · rw [sum, hton16, show (0xc000 + addr) / 256 = 192 + addr / 256 by omega]
  · rw [value, UInt8.toNat_ofNat']
    omega

/-- A jump that is written behind labels completes the name. -/
theorem nameIn_of_jump {pre suf : List Bytes} {jumps o addr stop : Nat}
    (each : ∀ label ∈ pre, label ≠ [] ∧ label.length ≤ mdnsLabelMaxlen) (small : addr < 16384)
    (body : sizeofDnsHdr ≤ addr)
    (stands : DataIn v o (encodeLabels pre ++ hton16 (0xc000 ||| addr)))
    (rest : NameIn v jumps addr suf stop) (literal : addr + 2 < stop) :
    NameIn v (jumps + 1) o (pre ++ suf) (o + (encodeLabels pre).length + 2) := by
  obtain ⟨front, behind⟩ := stands.parts
  obtain ⟨hi, lo, bytes, compressed, leads⟩ := jump_bytes small
  rw [bytes] at behind
  exact nameIn_of_dataIn each front
    (.jump (behind 0 (by simp)) (behind 1 (by simp)) compressed leads body rest literal)

/-- A name without a jump. -/
theorem nameIn_of_encodeName {labels : List Bytes} {o : Nat}
    (each : ∀ label ∈ labels, label ≠ [] ∧ label.length ≤ mdnsLabelMaxlen)
    (stands : DataIn v o (encodeName labels)) :
    NameIn v 0 o labels (o + (encodeName labels).length) := by
  obtain ⟨front, behind⟩ := stands.parts
  have root : NameIn v 0 (o + (encodeLabels labels).length) [] _ := .root (behind 0 (by simp))
  have named := nameIn_of_dataIn each front root
  rw [List.append_nil] at named
  rw [length_encodeName]
  exact named

/-- The part of `mdns_write_domain` in front of the jump, with the offset stored when something
is written. -/
def writtenLabels (out : MdnsOutpacket) (domain : MdnsDomain) (writelen : Nat) :
    MdnsOutpacket × Bool :=
  if writelen = 0 then (out, true)
  else
    match out.put (domain.name.take writelen) with
    | (out', false) => (out', false)
    | (out', true) =>
        ({ out' with domainOffsets := storeDomainOffset out.writeOffset out.domainOffsets }, true)

theorem writtenLabels_holding (composed : Composed limit depth v p w offsets) (out : MdnsOutpacket)
    (domain : MdnsDomain) {data : Bytes} (data_eq : domain.name.take data.length = data)
    (fits : w + data.length ≤ p.length) :
    ∃ v' p', writtenLabels (out.holding p w offsets) domain data.length =
        (out.holding p' (w + data.length)
          (if data = [] then offsets else storeDomainOffset w offsets), true) ∧
      Grown limit v w depth v' p' (w + data.length) offsets ∧ DataIn v' w data := by
  by_cases empty : data = []
  · subst empty
    exact ⟨v, p, rfl, ⟨composed, fun _ _ => rfl, Nat.le_refl _⟩, fun i lt => by simp at lt⟩
  · refine ⟨_, _, ?_, composed.put _ fits, dataIn_written v w data⟩
    have some_ := List.length_pos_of_ne_nil empty
    rw [writtenLabels, if_neg (by omega), data_eq, put_holding out offsets composed.size empty fits,
      if_neg empty]
    rfl

/-- Writing a name keeps the packet composed; the name stands where it was written, and is no
longer than it would be without compression. -/
theorem mdnsWriteDomain_grown (composed : Composed limit depth v p w offsets) (deep : depth ≤ 5)
    {labels : List Bytes} (plain : Plain limit labels)
    (fits : w + (encodeName labels).length ≤ p.length) (out : MdnsOutpacket) (skip : Bool) :
    ∃ v' p' w' offsets' jumps,
      mdnsWriteDomain (out.holding p w offsets) ⟨⟨encodeName labels⟩, skip⟩ =
        (out.holding p' w' offsets', true) ∧
      Grown limit v w (max depth jumps) v' p' w' offsets' ∧ NameIn v' jumps w labels w' ∧
      jumps ≤ depth + 1 ∧ w' ≤ w + (encodeName labels).length := by
  obtain ⟨best, best_eq⟩ : ∃ best, best = (if skip then ((encodeName labels).length, 0)
      else mdnsBestJump p ⟨encodeName labels⟩ offsets ((encodeName labels).length, 0)) := ⟨_, rfl⟩
  have good : GoodJump depth v labels best := by
    rw [best_eq]
    split
    · exact .inl rfl
    · exact mdnsBestJump_good composed deep plain (fun _ mem => mem) (.inl rfl)
  have unfolded : mdnsWriteDomain (out.holding p w offsets) ⟨⟨encodeName labels⟩, skip⟩ =
      match writtenLabels (out.holding p w offsets) ⟨encodeName labels⟩ best.1 with
      | (out, false) => (out, false)
      | (out, true) => if best.2 = 0 then (out, true) else out.put (hton16 (0xc000 ||| best.2)) := by
    rw [best_eq]
    rfl
  rcases good with whole | ⟨pre, suf, jumps, stop, split, nonempty, length, le, rest, literal⟩
  · -- the whole name
    have some_ : encodeName labels ≠ [] := by
      rw [encodeName_eq]
      simp
    obtain ⟨v', p', wrote, grown, stands⟩ := writtenLabels_holding composed out
      ⟨encodeName labels⟩ (List.take_length) fits
    have named := nameIn_of_encodeName plain.each stands
    refine ⟨v', p', _, storeDomainOffset w offsets, 0, ?_, ?_, named, by omega, Nat.le_refl _⟩
    · rw [unfolded, whole]
      simp only
      rw [wrote, if_neg some_]
      rfl
    · exact ⟨(grown.composed.store named plain (by omega)).deeper (by omega), grown.same, grown.le⟩
  · -- some labels, and a jump
    have addr : sizeofDnsHdr ≤ best.2 ∧ best.2 < outpacketSize := by
      have first : ∃ b, v best.2 = some b := by
        cases rest with
        | root zero => exact ⟨_, zero⟩
        | label _ _ len _ _ => exact ⟨_, len⟩
        | jump high _ _ _ _ _ _ => exact ⟨_, high⟩
      obtain ⟨b, at_⟩ := first
      have body := composed.body _ _ at_
      exact ⟨body.1, by have := composed.inside; rw [← composed.size]; omega⟩
    have header : sizeofDnsHdr = 12 := rfl
    have packet : outpacketSize = 500 := rfl
    have longer : (encodeLabels pre).length + 3 ≤ (encodeName labels).length := by
      obtain ⟨s, others, rfl⟩ := List.exists_cons_of_ne_nil nonempty
      have some_ := List.length_pos_of_ne_nil (plain.each s (by rw [split]; simp)).1
      rw [split, encodeName_append, encodeName_cons, List.length_append, List.length_cons,
        List.length_append, length_encodeName]
      omega
    have prefixed : (encodeName labels).take (encodeLabels pre).length = encodeLabels pre := by
      rw [split, encodeName_append, List.take_left]
    obtain ⟨v₁, p₁, wrote, grown₁, stands₁⟩ := writtenLabels_holding composed out
      ⟨encodeName labels⟩ prefixed (by omega)
    have size₁ : p₁.length = p.length := by rw [grown₁.composed.size, composed.size]
    have two : (hton16 (0xc000 ||| best.2)).length = 2 := rfl
    have grown₂ := grown₁.composed.put (hton16 (0xc000 ||| best.2)) (by omega)
    have all := grown₁.trans grown₂
    have stands : DataIn (written v₁ (w + (encodeLabels pre).length) (hton16 (0xc000 ||| best.2))) w
        (encodeLabels pre ++ hton16 (0xc000 ||| best.2)) :=
      (stands₁.mono (grown₁.composed.kept grown₂.same)).append (dataIn_written _ _ _)
    have named := nameIn_of_jump (fun label mem => plain.each label (by rw [split]; simp [mem]))
      (by omega) addr.1 stands (rest.mono (composed.kept all.same)) literal
    rw [← split] at named
    have stored : Composed limit (max depth (jumps + 1))
        (written v₁ (w + (encodeLabels pre).length) (hton16 (0xc000 ||| best.2)))
        (Lib.patch p₁ (w + (encodeLabels pre).length, hton16 (0xc000 ||| best.2)))
        (w + (encodeLabels pre).length + 2)
        (if encodeLabels pre = [] then offsets else storeDomainOffset w offsets) := by
      have deeper := all.composed.deeper (Nat.le_max_left depth (jumps + 1))
      split
      · exact deeper
      · exact deeper.store named plain (Nat.le_max_right _ _)
    refine ⟨_, _, _, _, jumps + 1, ?_, ⟨stored, all.same, by omega⟩, named, by omega, by omega⟩
    rw [unfolded, length, wrote]
    simp only
    rw [if_neg (by omega)]
    exact put_holding out _ grown₁.composed.size (List.cons_ne_nil _ _) (by omega)

/-! ### Questions and answers -/

/-- The jumps that names may need once one more is added. -/
def depthWith (depth : Nat) (labels : List Bytes) : Nat := max depth (min (depth + 1) labels.length)

/-- A name that is read back stands at an offset. -/
def NameStands (limit : Nat) (v : Nat → Option UInt8) (o : Nat) (labels : List Bytes) (stop : Nat) : Prop :=
  Plain limit labels ∧ ∃ jumps, jumps ≤ 5 ∧ NameIn v jumps o labels stop

/-- Name, type and class, as they begin a question or an answer. -/
def QuestionIn (limit : Nat) (v : Nat → Option UInt8) (o : Nat) (labels : List Bytes)
    (type klass : Nat) (stop : Nat) : Prop :=
  ∃ mid, NameStands limit v o labels mid ∧ DataIn v mid (hton16 type ++ hton16 klass) ∧
    stop = mid + 4

/-- A resource record: its data, and the name behind them. -/
structure MdnsRecord where
  labels : List Bytes
  type : Nat
  klass : Nat
  cacheFlush : Bool
  ttl : Nat
  data : Bytes
  target : Option (List Bytes)
  deriving DecidableEq, Repr

/-- The class field of a question or an answer with the highest bit, if it is to be set. -/
def klassField (klass : Nat) (flag : Bool) : Nat := if flag then klass ||| 0x8000 else klass

/-- The name stands up to an offset, if there is one. -/
def TargetIn (limit : Nat) (v : Nat → Option UInt8) (o : Nat) (target : Option (List Bytes))
    (stop : Nat) : Prop :=
  match target with
  | none => stop = o
  | some labels => NameStands limit v o labels stop

/-- A record stands at an offset. -/
def AnswerIn (limit : Nat) (v : Nat → Option UInt8) (o : Nat) (r : MdnsRecord) (stop : Nat) :
    Prop :=
  ∃ mid, QuestionIn limit v o r.labels r.type (klassField r.klass r.cacheFlush) mid ∧
    DataIn v mid (hton32 r.ttl) ∧ DataIn v (mid + 4) (hton16 (stop - (mid + 6))) ∧
    DataIn v (mid + 6) r.data ∧ TargetIn limit v (mid + 6 + r.data.length) r.target stop

theorem NameStands.mono {v' : Nat → Option UInt8} (kept : ∀ i b, v i = some b → v' i = some b)
    {o stop : Nat} {labels : List Bytes} (stands : NameStands limit v o labels stop) :
    NameStands limit v' o labels stop := by
  obtain ⟨plain, jumps, deep, named⟩ := stands
  exact ⟨plain, jumps, deep, named.mono kept⟩

theorem TargetIn.mono {v' : Nat → Option UInt8} (kept : ∀ i b, v i = some b → v' i = some b)
    {o stop : Nat} {target : Option (List Bytes)} (stands : TargetIn limit v o target stop) :
    TargetIn limit v' o target stop := by
  cases target with
  | none => exact stands
  | some labels => exact NameStands.mono kept stands

theorem QuestionIn.mono {v' : Nat → Option UInt8} (kept : ∀ i b, v i = some b → v' i = some b)
    {o type klass stop : Nat} {labels : List Bytes}
    (stands : QuestionIn limit v o labels type klass stop) :
    QuestionIn limit v' o labels type klass stop := by
  obtain ⟨mid, named, fields, rfl⟩ := stands
  exact ⟨mid, named.mono kept, fields.mono kept, rfl⟩

theorem AnswerIn.mono {v' : Nat → Option UInt8} (kept : ∀ i b, v i = some b → v' i = some b)
    {o stop : Nat} {r : MdnsRecord} (stands : AnswerIn limit v o r stop) :
    AnswerIn limit v' o r stop := by
  obtain ⟨mid, question, ttl, length, data, target⟩ := stands
  exact ⟨mid, question.mono kept, ttl.mono kept, length.mono kept, data.mono kept,
    target.mono kept⟩

theorem allocated_holding (out : MdnsOutpacket) (p : Bytes) (w : Nat) (offsets : List Nat)
    (fresh : Option Bytes) :
    (out.holding p w offsets).allocated fresh = out.holding p w offsets := by
  cases fresh <;> rfl

theorem questionLen_eq {labels : List Bytes} (plain : Plain limit labels) :
    u16 ((⟨encodeName labels⟩ : MdnsDomain).length + 2 + 2) = (encodeName labels).length + 4 := by
  have short := plain.fits
  have limit256 : mdnsDomainMaxlen = 256 := rfl
  have length : (⟨encodeName labels⟩ : MdnsDomain).length = (encodeName labels).length := rfl
  rw [length, u16_of_lt (by rw [length_encodeName]; omega)]

/-- A question for which the packet has no room is refused, whatever its name may be
compressed to. -/
theorem mdnsAddQuestion_refused (fresh : Option Bytes) (out : MdnsOutpacket) {labels : List Bytes}
    (plain : Plain limit labels) (type klass : Nat) (unicast : Bool)
    (full : p.length < w + ((encodeName labels).length + 4)) :
    mdnsAddQuestion fresh (out.holding p w offsets) ⟨encodeName labels⟩ type klass unicast =
      (out.holding p w offsets, false) := by
  have noRoom : p.length < (out.holding p w offsets).writeOffset +
      u16 ((⟨encodeName labels⟩ : MdnsDomain).length + 2 + 2) := by
    rw [questionLen_eq plain, holding_writeOffset]
    omega
  rw [mdnsAddQuestion, allocated_holding]
  exact if_pos noRoom

theorem mdnsAddQuestion_grown (composed : Composed limit depth v p w offsets) (fresh : Option Bytes)
    (out : MdnsOutpacket) {labels : List Bytes} (plain : Plain limit labels)
    (deep : depthWith depth labels ≤ 5) (type klass : Nat) (unicast : Bool)
    (fits : w + ((encodeName labels).length + 4) ≤ p.length) :
    ∃ v' p' w' offsets',
      mdnsAddQuestion fresh (out.holding p w offsets) ⟨encodeName labels⟩ type klass unicast =
        (out.holding p' w' offsets', true) ∧
      Grown limit v w (depthWith depth labels) v' p' w' offsets' ∧
      QuestionIn limit v' w labels type (klassField klass unicast) w' ∧
      w' ≤ w + ((encodeName labels).length + 4) := by
  have short := plain.fits
  have limit256 : mdnsDomainMaxlen = 256 := rfl
  have shallow : depth ≤ 5 := Nat.le_trans (Nat.le_max_left _ _) deep
  obtain ⟨v₁, p₁, w₁, offsets₁, jumps, wrote, grown₁, named, jumped, shorter⟩ :=
    mdnsWriteDomain_grown composed shallow plain (by omega) out false
  have size₁ : p₁.length = p.length := by rw [grown₁.composed.size, composed.size]
  have jumps_le : max depth jumps ≤ depthWith depth labels := by
    have := named.jumps_le.1
    rw [depthWith]
    omega
  have grown₂ := grown₁.composed.put (hton16 type) (by rw [length_hton16]; omega)
  have size₂ : (Lib.patch p₁ (w₁, hton16 type)).length = p.length := by
    rw [grown₂.composed.size, composed.size]
  have grown₃ := grown₂.composed.put (hton16 (klassField klass unicast)) (by
    rw [length_hton16, length_hton16]
    omega)
  have tail := grown₂.trans grown₃
  refine ⟨_, _, _, _, ?_, ⟨(grown₁.trans tail).composed.deeper jumps_le,
    (grown₁.trans tail).same, (grown₁.trans tail).le⟩, ?_, ?_⟩
  · have room : ¬ p.length < (out.holding p w offsets).writeOffset +
        u16 ((⟨encodeName labels⟩ : MdnsDomain).length + 2 + 2) := by
      rw [questionLen_eq plain, holding_writeOffset]
      omega
    rw [mdnsAddQuestion, allocated_holding]
    simp only [holding_pbuf]
    rw [if_neg room, wrote]
    simp only
    rw [put_holding out _ grown₁.composed.size (hton16_ne_nil type)
      (by rw [length_hton16]; omega)]
    exact put_holding out _ grown₂.composed.size (hton16_ne_nil _)
      (by rw [length_hton16, length_hton16]; omega)
  · refine ⟨w₁, ⟨plain, jumps, by omega, named.mono (grown₁.composed.kept tail.same)⟩, ?_, rfl⟩
    exact ((dataIn_written _ _ _).mono (grown₂.composed.kept grown₃.same)).append
      (dataIn_written _ _ _)
  · rw [length_hton16, length_hton16]
    omega

/-! ### The parts of an answer -/

theorem Composed.skip (composed : Composed limit depth v p w offsets) (w' : Nat) (le : w ≤ w')
    (fits : w' ≤ p.length) : Composed limit depth v p w' offsets where
  size := composed.size
  below := composed.below
  body i b at_ := by
    have := composed.body i b at_
    omega
  started := Nat.le_trans composed.started le
  inside := fits
  names := composed.names

/-- The static data of an answer. The one write of it that may fail is that of no byte, at the
end of the packet. -/
theorem static_grown (composed : Composed limit depth v p w offsets) (out : MdnsOutpacket)
    (buf : Option Bytes) (fits : w + (buf.getD []).length ≤ p.length) :
    (buf = some [] ∧
      (out.holding p w offsets).putStatic buf = (out.holding p w offsets, false)) ∨
    ∃ v' p', (out.holding p w offsets).putStatic buf =
        (out.holding p' (w + (buf.getD []).length) offsets, true) ∧
      Grown limit v w depth v' p' (w + (buf.getD []).length) offsets ∧
      DataIn v' w (buf.getD []) := by
  have stays : Grown limit v w depth v p w offsets := ⟨composed, fun _ _ => rfl, Nat.le_refl _⟩
  have nothing : DataIn v w [] := fun i lt => by simp at lt
  match buf with
  | none => exact .inr ⟨v, p, rfl, stays, nothing⟩
  | some [] =>
      by_cases room : w < p.length
      · -- no byte is written, and the write offset stays
        right
        refine ⟨v, p, ?_, stays, nothing⟩
        have small := outpacketSize_small composed.size
        have error : mdnsReadnameError = 65535 := rfl
        have fits' : w < p.length ∧ w + ([] : Bytes).length ≤ p.length := ⟨room, by simpa using fits⟩
        have same : pbufTakeAt p [] w = p := by
          rw [pbufTakeAt, if_pos fits', bufWrite_eq_patch p (w := (w, [])) fits'.2]
          simp [Lib.patch]
        have taken := takeAt_of_fits out w offsets fits'
        rw [same] at taken
        simp only [MdnsOutpacket.putStatic, MdnsOutpacket.put, holding_writeOffset, taken]
        rw [List.length_nil, Nat.add_zero, u16_of_lt (by omega)]
        rfl
      · left
        have full : ¬ (w < p.length ∧ w + ([] : Bytes).length ≤ p.length) := fun both => room both.1
        refine ⟨rfl, ?_⟩
        have taken : (out.holding p w offsets).takeAt [] w = (out.holding p w offsets, false) :=
          if_neg full
        simp only [MdnsOutpacket.putStatic, MdnsOutpacket.put, holding_writeOffset, taken]
  | some (b :: data) =>
      exact .inr ⟨_, _, put_holding out offsets composed.size (List.cons_ne_nil _ _) fits, composed.put _ fits,
        dataIn_written _ _ _⟩

/-- The bytes that the name in an answer takes without compression. -/
def targetLength : Option (List Bytes) → Nat
  | none => 0
  | some labels => (encodeName labels).length

/-- The jumps that names may need behind an answer. -/
def depthWithTarget (depth : Nat) : Option (List Bytes) → Nat
  | none => depth
  | some labels => depthWith depth labels

/-- The name in an answer as it is handed over. -/
def targetName (skip : Bool) (target : Option (List Bytes)) : Option MdnsName :=
  target.map fun labels => ⟨⟨encodeName labels⟩, skip⟩

theorem target_grown (composed : Composed limit depth v p w offsets) (out : MdnsOutpacket)
    (skip : Bool) {target : Option (List Bytes)} (plain : ∀ labels ∈ target, Plain limit labels)
    (deep : depthWithTarget depth target ≤ 5) (fits : w + targetLength target ≤ p.length) :
    ∃ v' p' w' offsets',
      mdnsWriteAnswerDomain (out.holding p w offsets) (targetName skip target) =
        (out.holding p' w' offsets', true) ∧
      Grown limit v w (depthWithTarget depth target) v' p' w' offsets' ∧
      TargetIn limit v' w target w' ∧ w' ≤ w + targetLength target := by
  cases target with
  | none =>
      exact ⟨v, p, w, offsets, rfl, ⟨composed, fun _ _ => rfl, Nat.le_refl _⟩, rfl, Nat.le_refl _⟩
  | some labels =>
      have shallow : depth ≤ 5 := Nat.le_trans (Nat.le_max_left _ _) deep
      obtain ⟨v', p', w', offsets', jumps, wrote, grown, named, jumped, shorter⟩ :=
        mdnsWriteDomain_grown composed shallow (plain labels rfl) fits out skip
      have jumps_le : max depth jumps ≤ depthWith depth labels := by
        have := named.jumps_le.1
        rw [depthWith]
        omega
      exact ⟨v', p', w', offsets', wrote, ⟨grown.composed.deeper jumps_le, grown.same, grown.le⟩,
        ⟨plain labels rfl, jumps, by simp only [depthWithTarget] at deep; omega, named⟩, shorter⟩

/-! ### An answer -/

/-- The bytes that an answer takes without compression. -/
def answerLength (labels : List Bytes) (data : Bytes) (target : Option (List Bytes)) : Nat :=
  (encodeName labels).length + 10 + data.length + targetLength target

theorem answerLen_eq {labels : List Bytes} (plain : Plain limit labels) (skip : Bool)
    {buf : Option Bytes} (short : (buf.getD []).length ≤ mdnsDomainMaxlen)
    {target : Option (List Bytes)} (plainTarget : ∀ labels ∈ target, Plain limit labels) :
    u16 (u16 (u16 ((⟨encodeName labels⟩ : MdnsDomain).length + 2 + 2 + 4 + 2) +
      (buf.map List.length).getD 0) +
        ((targetName skip target).map fun name => name.domain.length).getD 0) =
      answerLength labels (buf.getD []) target := by
  have fits := plain.fits
  have limit256 : mdnsDomainMaxlen = 256 := rfl
  have own : (⟨encodeName labels⟩ : MdnsDomain).length = (encodeLabels labels).length + 1 :=
    length_encodeName labels
  have data : (buf.map List.length).getD 0 = (buf.getD []).length := by cases buf <;> rfl
  have name : ((targetName skip target).map fun name => name.domain.length).getD 0 =
      targetLength target := by cases target <;> rfl
  have named : targetLength target ≤ 256 := by
    cases target with
    | none => exact Nat.zero_le _
    | some labels =>
        have := (plainTarget labels rfl).fits
        rw [targetLength, length_encodeName]
        omega
  rw [own, data, name, answerLength, length_encodeName]
  simp only [u16]
  omega

/-- An answer for which the packet has no room is refused. -/
theorem mdnsAddAnswer_refused (fresh : Option Bytes) (out : MdnsOutpacket) {labels : List Bytes}
    (plain : Plain limit labels) (type klass : Nat) (flush : Bool) (ttl : Nat) (skip : Bool)
    {buf : Option Bytes} (short : (buf.getD []).length ≤ mdnsDomainMaxlen)
    {target : Option (List Bytes)} (plainTarget : ∀ labels ∈ target, Plain limit labels)
    (full : p.length < w + answerLength labels (buf.getD []) target) :
    mdnsAddAnswer fresh (out.holding p w offsets) ⟨encodeName labels⟩ type klass flush ttl buf
      (targetName skip target) = (out.holding p w offsets, false) := by
  have noRoom := full
  rw [← answerLen_eq plain skip short plainTarget] at noRoom
  rw [mdnsAddAnswer, allocated_holding]
  exact if_pos noRoom

/-- What `mdns_add_answer` does once name, type and class are written. -/
def answerRest (reply : MdnsOutpacket) (ttl : Nat) (buf : Option Bytes)
    (answerDomain : Option MdnsName) : MdnsOutpacket × Bool :=
  match reply.put (hton32 ttl) with
  | (reply, false) => (reply, false)
  | (reply, true) =>
      let rdlenOffset := reply.writeOffset
      let answerOffset := u16 (rdlenOffset + 2)
      let reply := { reply with writeOffset := answerOffset }
      match reply.putStatic buf with
      | (reply, false) => (reply, false)
      | (reply, true) =>
          match mdnsWriteAnswerDomain reply answerDomain with
          | (reply, false) => (reply, false)
          | (reply, true) =>
              reply.takeAt (hton16 (sub16 reply.writeOffset answerOffset)) rdlenOffset

theorem answerRest_grown (composed : Composed limit depth v p w offsets) (out : MdnsOutpacket)
    (ttl : Nat) (skip : Bool) {target : Option (List Bytes)}
    (plain : ∀ labels ∈ target, Plain limit labels) (deep : depthWithTarget depth target ≤ 5)
    (buf : Option Bytes) (fits : w + 6 + (buf.getD []).length + targetLength target ≤ p.length) :
    (buf = some [] ∧
      (answerRest (out.holding p w offsets) ttl buf (targetName skip target)).2 = false) ∨
    ∃ v' p' w' offsets', answerRest (out.holding p w offsets) ttl buf (targetName skip target) =
        (out.holding p' w' offsets', true) ∧
      Grown limit v w (depthWithTarget depth target) v' p' w' offsets' ∧
      DataIn v' w (hton32 ttl) ∧ DataIn v' (w + 4) (hton16 (w' - (w + 6))) ∧
      DataIn v' (w + 6) (buf.getD []) ∧
      TargetIn limit v' (w + 6 + (buf.getD []).length) target w' ∧
      w' ≤ w + 6 + (buf.getD []).length + targetLength target := by
  have small := outpacketSize_small composed.size
  have error : mdnsReadnameError = 65535 := rfl
  have grown₁ := composed.put (hton32 ttl) (by rw [length_hton32]; omega)
  have size₁ : (Lib.patch p (w, hton32 ttl)).length = p.length := by
    rw [grown₁.composed.size, composed.size]
  have put₁ := put_holding out offsets composed.size (hton32_ne_nil ttl)
    (show w + (hton32 ttl).length ≤ p.length by rw [length_hton32]; omega)
  rw [length_hton32] at grown₁ put₁
  -- the length is written last; until then nothing stands in its place
  have skipped := grown₁.composed.skip (w + 6) (by omega) (by omega)
  have gap : u16 (w + 4 + 2) = w + 6 := u16_of_lt (by omega)
  have unfolded : answerRest (out.holding p w offsets) ttl buf (targetName skip target) =
      match (out.holding (Lib.patch p (w, hton32 ttl)) (w + 6) offsets).putStatic buf with
      | (reply, false) => (reply, false)
      | (reply, true) =>
          match mdnsWriteAnswerDomain reply (targetName skip target) with
          | (reply, false) => (reply, false)
          | (reply, true) => reply.takeAt (hton16 (sub16 reply.writeOffset (w + 6))) (w + 4) := by
    rw [answerRest, put₁]
    simp only [holding_writeOffset, gap]
    rfl
  rcases static_grown skipped out buf (by omega) with ⟨empty, failed⟩ | ⟨v₂, p₂, put₂, grown₂, data⟩
  · left
    rw [unfolded, failed]
    exact ⟨empty, rfl⟩
  · right
    have size₂ : p₂.length = p.length := by rw [grown₂.composed.size, composed.size]
    obtain ⟨v₃, p₃, w₃, offsets₃, put₃, grown₃, named, shorter⟩ :=
      target_grown grown₂.composed out skip plain deep (by omega)
    have size₃ : p₃.length = p.length := by rw [grown₃.composed.size, composed.size]
    have reaches := grown₃.le
    have untouched : ∀ i < w + 6, v₃ i = written v w (hton32 ttl) i := fun i lt => by
      rw [grown₃.same i (by omega), grown₂.same i lt]
    have inside := grown₃.composed.inside
    have patched := grown₃.composed.patch (hton16 (w₃ - (w + 6)))
      (show sizeofDnsHdr ≤ w + 4 by have := composed.started; omega)
      (fun i ge lt => by
        rw [length_hton16] at lt
        rw [untouched i (by omega)]
        cases at_ : written v w (hton32 ttl) i with
        | none => rfl
        | some b =>
            have := grown₁.composed.body i b at_
            omega)
      (Nat.le_refl _) (by rw [length_hton16]; omega) inside
    have kept : ∀ i b, v₃ i = some b →
        written v₃ (w + 4) (hton16 (w₃ - (w + 6))) i = some b := by
      intro i b at_
      by_cases before : i < w + 4
      · rw [written_of_lt before, at_]
      by_cases behind : w + 6 ≤ i
      · rw [written_of_ge (by rw [length_hton16]; omega), at_]
      · -- the place of the length
        rw [untouched i (by omega)] at at_
        have := grown₁.composed.body i b at_
        omega
    refine ⟨_, _, w₃, offsets₃, ?_, ⟨patched, fun i lt => ?_, by omega⟩, ?_,
      dataIn_written _ _ _, ?_, named.mono kept, shorter⟩
    · rw [unfolded, put₂]
      simp only
      rw [put₃]
      simp only [holding_writeOffset]
      rw [sub16_of_le (by omega) (by omega)]
      exact takeAt_holding out (hton16_ne_nil _) (by rw [length_hton16]; omega)
    · rw [written_of_lt (by omega), untouched i (by omega), written_of_lt lt]
    · refine DataIn.mono kept fun i lt => ?_
      rw [length_hton32] at lt
      rw [untouched _ (by omega)]
      exact dataIn_written v w (hton32 ttl) i (by rw [length_hton32]; exact lt)
    · exact (data.mono (grown₂.composed.kept grown₃.same)).mono kept

/-- An answer that fits: it is written, unless it is one without a byte of data at the end of the
packet. -/
theorem mdnsAddAnswer_grown (composed : Composed limit depth v p w offsets) (fresh : Option Bytes)
    (out : MdnsOutpacket) {labels : List Bytes} (plain : Plain limit labels) (type klass : Nat)
    (flush : Bool) (ttl : Nat) (skip : Bool) {buf : Option Bytes}
    (short : (buf.getD []).length ≤ mdnsDomainMaxlen) {target : Option (List Bytes)}
    (plainTarget : ∀ labels ∈ target, Plain limit labels)
    (deep : depthWithTarget (depthWith depth labels) target ≤ 5)
    (fits : w + answerLength labels (buf.getD []) target ≤ p.length) :
    (buf = some [] ∧ (mdnsAddAnswer fresh (out.holding p w offsets) ⟨encodeName labels⟩ type klass
      flush ttl buf (targetName skip target)).2 = false) ∨
    ∃ v' p' w' offsets',
      mdnsAddAnswer fresh (out.holding p w offsets) ⟨encodeName labels⟩ type klass flush ttl buf
        (targetName skip target) = (out.holding p' w' offsets', true) ∧
      Grown limit v w (depthWithTarget (depthWith depth labels) target) v' p' w' offsets' ∧
      AnswerIn limit v' w ⟨labels, type, klass, flush, ttl, buf.getD [], target⟩ w' ∧
      w' ≤ w + answerLength labels (buf.getD []) target := by
  have shallow : depthWith depth labels ≤ 5 := by
    cases target with
    | none => exact deep
    | some _ => exact Nat.le_trans (Nat.le_max_left _ _) deep
  rw [answerLength] at fits
  obtain ⟨v₁, p₁, w₁, offsets₁, asked, grown₁, question, shorter⟩ :=
    mdnsAddQuestion_grown composed fresh out plain shallow type klass flush (by omega)
  have size₁ : p₁.length = p.length := by rw [grown₁.composed.size, composed.size]
  have unfolded : mdnsAddAnswer fresh (out.holding p w offsets) ⟨encodeName labels⟩ type klass
      flush ttl buf (targetName skip target) =
      answerRest (out.holding p₁ w₁ offsets₁) ttl buf (targetName skip target) := by
    have room : ¬ p.length < w + answerLength labels (buf.getD []) target := by
      rw [answerLength]
      omega
    rw [← answerLen_eq plain skip short plainTarget] at room
    rw [mdnsAddAnswer, allocated_holding]
    refine (if_neg room).trans ?_
    rw [asked]
    rfl
  rw [unfolded]
  rcases answerRest_grown grown₁.composed out ttl skip plainTarget deep buf (by omega) with
    failed | ⟨v₂, p₂, w₂, offsets₂, wrote, grown₂, ttlField, length, data, named, reaches⟩
  · exact .inl failed
  · exact .inr ⟨v₂, p₂, w₂, offsets₂, wrote, grown₁.trans grown₂,
      ⟨w₁, question.mono (grown₁.composed.kept grown₂.same), ttlField, length, data, named⟩,
      by rw [answerLength]; omega⟩

end Growing

end LwipExt.Mdns
