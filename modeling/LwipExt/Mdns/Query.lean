import LwipExt.Lib.Writes
import LwipExt.Mdns.Response

/-!
The queries of the multicast DNS client.

The writes of `mdnsClientSendQuery` follow each other from the first byte of the pbuf to its last
(`queryWrites_consecutive`), so that the packet is what they write, whatever was in the pbuf. The
name in it is read back label by label (`mdnsReadLabels_encode`).
-/

namespace LwipExt.Mdns

/-! ### The writes -/

/-- The size of the pbuf that is allocated for a query. -/
def queryLength (hostOrServiceName : Bytes) : Nat :=
  u16 (sizeofDnsHdr + hostOrServiceName.length + 2 + 4)

/-- What `mdnsClientSendQuery` makes of the pbuf `p`. -/
def fillQuery (txId qType : Nat) (hostOrServiceName p : Bytes) : Bytes :=
  let header := hton16 txId ++ [0x01, 0] ++ hton16 1 ++ List.replicate 6 0
  match putLabels (hostOrServiceName.splitOn 46) sizeofDnsHdr (pbufTakeAt p header 0) with
  | (queryIdx, p) =>
      let p := pbufPutAt p queryIdx 0
      pbufTakeAt p (hton16 qType ++ hton16 dnsRrclassIn) (u16 (queryIdx + 1))

theorem queryPacket_eq (txId qType : Nat) (hostOrServiceName : Bytes) :
    queryPacket txId qType hostOrServiceName =
      fillQuery txId qType hostOrServiceName
        (List.replicate (queryLength hostOrServiceName) 0) := rfl

/-- The header of a query. -/
def queryHeader (txId : Nat) : Bytes :=
  hton16 txId ++ [0x01, 0] ++ hton16 1 ++ List.replicate 6 0

/-- The offset behind the labels. -/
def labelsEnd : List Bytes → Nat → Nat
  | [], queryIdx => queryIdx
  | label :: labels, queryIdx =>
      labelsEnd labels (u16 (queryIdx + ((UInt8.ofNat label.length).toNat + 1)))

/-- The writes of the labels: each length, and the label behind it. -/
def labelWrites : List Bytes → Nat → List (Lib.Patch UInt8)
  | [], _ => []
  | label :: labels, queryIdx =>
      let n := UInt8.ofNat label.length
      (queryIdx, [n]) :: (u16 (queryIdx + 1), label) ::
        labelWrites labels (u16 (queryIdx + (n.toNat + 1)))

/-- The writes of a query, in their order. -/
def queryWrites (txId qType : Nat) (hostOrServiceName : Bytes) : List (Lib.Patch UInt8) :=
  let labels := hostOrServiceName.splitOn 46
  let queryIdx := labelsEnd labels sizeofDnsHdr
  (0, queryHeader txId) :: (labelWrites labels sizeofDnsHdr ++
    [(queryIdx, [0]), (u16 (queryIdx + 1), hton16 qType ++ hton16 dnsRrclassIn)])

/-- A write into a pbuf. -/
def putAt (p : Bytes) (w : Lib.Patch UInt8) : Bytes := pbufTakeAt p w.2 w.1

theorem bufWrite_eq_patch (p : Bytes) {w : Lib.Patch UInt8} (inside : w.1 + w.2.length ≤ p.length) :
    bufWrite p w.1 w.2 = Lib.patch p w := by
  have held : (p.take w.1).length = w.1 := List.length_take_of_le (by omega)
  simp only [bufWrite, Lib.patch, bufRead, List.drop_zero, held, Nat.sub_self, List.replicate_zero,
    List.append_nil]

/-- A write inside the pbuf. -/
theorem putAt_eq_patch {p : Bytes} {w : Lib.Patch UInt8} (nonempty : w.2 ≠ [])
    (inside : w.1 + w.2.length ≤ p.length) : putAt p w = Lib.patch p w := by
  have some_ := List.length_pos_of_ne_nil nonempty
  rw [putAt, pbufTakeAt, if_pos ⟨by omega, inside⟩, bufWrite_eq_patch p inside]

theorem pbufPutAt_eq_putAt (p : Bytes) (offset : Nat) (byte : UInt8) :
    pbufPutAt p offset byte = putAt p (offset, [byte]) := by
  by_cases inside : offset < p.length
  · rw [putAt_eq_patch (w := (offset, [byte])) (List.cons_ne_nil _ _) inside, pbufPutAt, Lib.patch,
      List.set_eq_take_append_cons_drop, if_pos inside, List.append_assoc]
    rfl
  · rw [pbufPutAt, List.set_eq_of_length_le (Nat.le_of_not_lt inside), putAt, pbufTakeAt,
      if_neg fun both => inside both.1]

theorem putLabels_eq (labels : List Bytes) (queryIdx : Nat) (p : Bytes) :
    putLabels labels queryIdx p =
      (labelsEnd labels queryIdx, (labelWrites labels queryIdx).foldl putAt p) := by
  induction labels generalizing queryIdx p with
  | nil => rfl
  | cons label labels ih =>
      rw [putLabels, ih, pbufPutAt_eq_putAt]
      rfl

/-- The query is filled in by its writes. -/
theorem fillQuery_eq (txId qType : Nat) (hostOrServiceName p : Bytes) :
    fillQuery txId qType hostOrServiceName p =
      (queryWrites txId qType hostOrServiceName).foldl putAt p := by
  simp only [fillQuery, putLabels_eq, pbufPutAt_eq_putAt, queryWrites, List.foldl_cons,
    List.foldl_append, List.foldl_nil]
  rfl

/-! ### Domain names -/

/-- A domain name: labels of 1 to 63 characters, at most 253 characters with the dots. -/
structure DomainName where
  labels : List Bytes
  nonempty : labels ≠ []
  each : ∀ label ∈ labels, label ≠ [] ∧ label.length ≤ mdnsLabelMaxlen
  plain : ∀ label ∈ labels, 46 ∉ label ∧ 0 ∉ label
  short : (dotted labels).length ≤ 253

/-- Labels behind their lengths. -/
def encodeLabels (labels : List Bytes) : Bytes :=
  labels.flatMap fun label => UInt8.ofNat label.length :: label

theorem encodeName_eq (labels : List Bytes) : encodeName labels = encodeLabels labels ++ [0] := rfl

theorem encodeLabels_cons (label : Bytes) (labels : List Bytes) :
    encodeLabels (label :: labels) = UInt8.ofNat label.length :: (label ++ encodeLabels labels) :=
  rfl

/-- In the packet a name has one byte more than as text. -/
theorem length_encodeLabels {labels : List Bytes} (nonempty : labels ≠ []) :
    (encodeLabels labels).length = (dotted labels).length + 1 := by
  induction labels with
  | nil => exact absurd rfl nonempty
  | cons label labels ih =>
      cases labels with
      | nil => simp [encodeLabels, dotted]
      | cons next labels =>
          rw [encodeLabels_cons, List.length_cons, List.length_append,
            ih (List.cons_ne_nil _ _), dotted, dotted, List.intercalate_cons_cons]
          simp only [List.length_append, List.length_singleton]
          omega

theorem splitOn_dotted (name : DomainName) : (dotted name.labels).splitOn 46 = name.labels :=
  List.splitOn_intercalate 46 (fun label mem => (name.plain label mem).1) name.nonempty

/-! ### The writes follow each other -/

theorem toNat_length {label : Bytes} (short : label.length ≤ mdnsLabelMaxlen) :
    (UInt8.ofNat label.length).toNat = label.length := by
  have small : label.length < 256 := Nat.lt_of_le_of_lt short (by decide)
  exact UInt8.toNat_ofNat_of_lt' small

theorem labelsEnd_eq {labels : List Bytes} (each : ∀ label ∈ labels, label.length ≤ mdnsLabelMaxlen)
    {queryIdx : Nat} (small : queryIdx + (encodeLabels labels).length < 65536) :
    labelsEnd labels queryIdx = queryIdx + (encodeLabels labels).length := by
  induction labels generalizing queryIdx with
  | nil => rfl
  | cons label labels ih =>
      rw [encodeLabels_cons, List.length_cons, List.length_append] at small ⊢
      rw [labelsEnd, toNat_length (each label (.head _)), u16_of_lt (by omega),
        ih (fun next mem => each next (.tail _ mem)) (by omega)]
      omega

theorem labelWrites_consecutive {labels : List Bytes}
    (each : ∀ label ∈ labels, label.length ≤ mdnsLabelMaxlen) {queryIdx : Nat}
    (small : queryIdx + (encodeLabels labels).length < 65536) :
    Lib.Consecutive queryIdx (labelWrites labels queryIdx)
      (queryIdx + (encodeLabels labels).length) := by
  induction labels generalizing queryIdx with
  | nil => rfl
  | cons label labels ih =>
      rw [encodeLabels_cons, List.length_cons, List.length_append] at small ⊢
      have smaller : queryIdx + 1 + label.length + (encodeLabels labels).length < 65536 := by omega
      have rest := ih (fun next mem => each next (.tail _ mem)) smaller
      simp only [labelWrites, toNat_length (each label (.head _))]
      rw [u16_of_lt (show queryIdx + 1 < 65536 by omega),
        u16_of_lt (show queryIdx + (label.length + 1) < 65536 by omega),
        show queryIdx + (label.length + 1) = queryIdx + 1 + label.length by omega]
      refine ⟨rfl, rfl, ?_⟩
      rw [show queryIdx + (label.length + (encodeLabels labels).length + 1) =
        queryIdx + 1 + label.length + (encodeLabels labels).length by omega]
      exact rest

theorem flatMap_labelWrites (labels : List Bytes) (queryIdx : Nat) :
    (labelWrites labels queryIdx).flatMap Prod.snd = encodeLabels labels := by
  induction labels generalizing queryIdx with
  | nil => rfl
  | cons label labels ih =>
      simp only [labelWrites, List.flatMap_cons]
      rw [ih]
      rfl

/-- The writes of a query cover the pbuf. -/
theorem queryWrites_consecutive (txId qType : Nat) (name : DomainName) :
    Lib.Consecutive 0 (queryWrites txId qType (dotted name.labels))
      (queryLength (dotted name.labels)) := by
  have short := name.short
  have each := fun label mem => (name.each label mem).2
  have length := length_encodeLabels name.nonempty
  have header : sizeofDnsHdr = 12 := rfl
  have small : sizeofDnsHdr + (encodeLabels name.labels).length < 65536 := by omega
  have reaches : labelsEnd name.labels sizeofDnsHdr = 12 + ((dotted name.labels).length + 1) := by
    rw [labelsEnd_eq each small, length, header]
  have labels := labelWrites_consecutive each small
  rw [length] at labels
  simp only [queryWrites, splitOn_dotted, reaches]
  refine ⟨rfl, labels.append ⟨by rw [header], ?_, ?_⟩⟩
  · rw [u16_of_lt (by omega)]
    rfl
  · change sizeofDnsHdr + ((dotted name.labels).length + 1) + 1 + 4 = _
    rw [queryLength, u16_of_lt (by omega)]
    omega

/-- The bytes of a query. -/
def queryBytes (txId qType : Nat) (labels : List Bytes) : Bytes :=
  queryHeader txId ++ (encodeName labels ++ (hton16 qType ++ hton16 dnsRrclassIn))

theorem queryWrites_nonempty (txId qType : Nat) (name : DomainName) :
    ∀ w ∈ queryWrites txId qType (dotted name.labels), w.2 ≠ [] := by
  have labels : ∀ (labels : List Bytes) (queryIdx : Nat), (∀ label ∈ labels, label ≠ []) →
      ∀ w ∈ labelWrites labels queryIdx, w.2 ≠ [] := by
    intro labels
    induction labels with
    | nil => exact fun queryIdx each w mem => by cases mem
    | cons label labels ih =>
        intro queryIdx each w mem
        rcases List.mem_cons.mp mem with rfl | later
        · exact List.cons_ne_nil _ _
        rcases List.mem_cons.mp later with rfl | rest
        · exact each label (.head _)
        · exact ih _ (fun next inRest => each next (.tail _ inRest)) w rest
  intro w mem
  simp only [queryWrites, splitOn_dotted] at mem
  rcases List.mem_cons.mp mem with rfl | later
  · exact List.cons_ne_nil _ _
  rcases List.mem_append.mp later with inLabels | atEnd
  · exact labels _ _ (fun label inName => (name.each label inName).1) w inLabels
  · simp only [List.mem_cons, List.not_mem_nil, or_false] at atEnd
    rcases atEnd with rfl | rfl
    · exact List.cons_ne_nil _ _
    · exact List.cons_ne_nil _ _

theorem foldl_putAt {ws : List (Lib.Patch UInt8)} {p : Bytes} (nonempty : ∀ w ∈ ws, w.2 ≠ [])
    (inside : ∀ w ∈ ws, w.1 + w.2.length ≤ p.length) :
    ws.foldl putAt p = ws.foldl Lib.patch p := by
  induction ws generalizing p with
  | nil => rfl
  | cons w ws ih =>
      have first := inside w (.head _)
      rw [List.foldl_cons, List.foldl_cons, putAt_eq_patch (nonempty w (.head _)) first]
      apply ih (fun next mem => nonempty next (.tail _ mem))
      intro next mem
      rw [Lib.length_patch p first]
      exact inside next (.tail _ mem)

/-- Whatever was in the pbuf, the query fills all of it. -/
theorem fillQuery_bytes (txId qType : Nat) (name : DomainName) {p : Bytes}
    (allocated : p.length = queryLength (dotted name.labels)) :
    fillQuery txId qType (dotted name.labels) p = queryBytes txId qType name.labels := by
  have follow := queryWrites_consecutive txId qType name
  rw [← allocated] at follow
  rw [fillQuery_eq, foldl_putAt (queryWrites_nonempty txId qType name) follow.inside,
    follow.foldl_patch (Nat.le_refl _), List.drop_length, List.append_nil, List.take_zero,
    List.nil_append]
  simp only [queryWrites, splitOn_dotted, List.flatMap_cons, List.flatMap_append,
    flatMap_labelWrites, List.flatMap_nil, List.append_nil, queryBytes, encodeName_eq,
    List.append_assoc]

/-! ### Reading the name back -/

/-- A length is not the first byte of a compressed label. -/
theorem not_compressed {c : UInt8} (short : c.toNat ≤ mdnsLabelMaxlen) : c &&& 0xc0 ≠ 0xc0 := by
  intro compressed
  have bits := congrArg UInt8.toNat compressed
  rw [UInt8.toNat_and] at bits
  have le := Nat.and_le_left (n := c.toNat) (m := (0xc0 : UInt8).toNat)
  rw [bits] at le
  have limit : mdnsLabelMaxlen = 63 := rfl
  have flag : (0xc0 : UInt8).toNat = 192 := rfl
  omega

/-- A label that stands at an offset of a packet is added to the name. -/
theorem mdnsReadLabels_label {label : Bytes} (short : label.length ≤ mdnsLabelMaxlen)
    (jump : Nat → MdnsDomain → Nat × MdnsDomain) (rounds : Nat) {domain : MdnsDomain}
    (fits : domain.length + label.length + 1 ≤ mdnsDomainMaxlen)
    (room : label ≠ [] → domain.length + label.length + 1 < mdnsDomainMaxlen)
    (before after : Bytes) (small : before.length + label.length + 1 < 65536) :
    mdnsReadLabels (before ++ UInt8.ofNat label.length :: (label ++ after)) jump (rounds + 1)
        before.length domain =
      if label = [] then (before.length + 1, ⟨domain.name ++ UInt8.ofNat label.length :: label⟩)
      else mdnsReadLabels (before ++ UInt8.ofNat label.length :: (label ++ after)) jump rounds
        (before.length + 1 + label.length) ⟨domain.name ++ UInt8.ofNat label.length :: label⟩ := by
  have count := toNat_length short
  have first : pbufGetAt (before ++ UInt8.ofNat label.length :: (label ++ after)) before.length =
      UInt8.ofNat label.length := by
    rw [pbufGetAt, List.getD_append_right _ _ _ _ (Nat.le_refl _), Nat.sub_self]
    rfl
  have copied : pbufCopyPartial (before ++ UInt8.ofNat label.length :: (label ++ after))
      label.length (before.length + 1) = label := by
    rw [pbufCopyPartial, List.drop_append, List.drop_of_length_le (by omega),
      Nat.add_sub_cancel_left, List.nil_append, List.drop_succ_cons, List.drop_zero,
      List.take_left]
  have added : mdnsDomainAddLabel domain label =
      some ⟨domain.name ++ UInt8.ofNat label.length :: label⟩ := by
    simp only [mdnsDomainAddLabel]
    rw [if_neg (by omega), if_neg, if_neg]
    · omega
    · rintro ⟨some_, full⟩
      have := room (List.ne_nil_of_length_pos some_)
      omega
  have zero : UInt8.ofNat label.length = 0 ↔ label = [] := by
    rw [UInt8.ext_iff, count, ← List.length_eq_zero_iff]
    rfl
  simp only [mdnsReadLabels, first]
  rw [if_neg (not_compressed (by rw [count]; exact short)), count, if_pos short, if_neg (by omega),
    u16_of_lt (by omega), copied, if_neg (fun other => other rfl), added]
  simp only [zero]
  rw [u16_of_lt (by omega)]
  split
  next empty => rw [empty]; rfl
  next => rfl

/-- The name that stands at an offset of a packet is read, and the offset behind it. -/
theorem mdnsReadLabels_encode {labels : List Bytes}
    (each : ∀ label ∈ labels, label ≠ [] ∧ label.length ≤ mdnsLabelMaxlen)
    (jump : Nat → MdnsDomain → Nat × MdnsDomain) {rounds : Nat} (enough : labels.length < rounds)
    {domain : MdnsDomain} (fits : domain.length + (encodeLabels labels).length < mdnsDomainMaxlen)
    (before after : Bytes)
    (small : before.length + (encodeLabels labels).length + 1 < 65536) :
    mdnsReadLabels (before ++ (encodeName labels ++ after)) jump rounds before.length domain =
      (before.length + (encodeLabels labels).length + 1, ⟨domain.name ++ encodeName labels⟩) := by
  induction labels generalizing rounds domain before with
  | nil =>
      -- the length zero is read as an empty label
      obtain ⟨rounds, rfl⟩ : ∃ left, rounds = left + 1 := ⟨rounds - 1, by simp at enough; omega⟩
      have empty : ([] : Bytes).length ≤ mdnsLabelMaxlen := by decide
      have root := mdnsReadLabels_label empty jump rounds fits (absurd rfl) before after small
      rw [if_pos rfl] at root
      exact root
  | cons label labels ih =>
      obtain ⟨rounds, rfl⟩ : ∃ left, rounds = left + 1 := ⟨rounds - 1, by omega⟩
      obtain ⟨some_, short⟩ := each label (.head _)
      rw [encodeLabels_cons, List.length_cons, List.length_append] at fits small
      have room : domain.length + label.length + 1 ≤ mdnsDomainMaxlen := by omega
      have step := mdnsReadLabels_label short jump rounds room (fun _ => by omega) before
        (encodeName labels ++ after) (by omega)
      rw [if_neg some_] at step
      have left : labels.length < rounds := by simpa using enough
      have leftFits : (⟨domain.name ++ UInt8.ofNat label.length :: label⟩ : MdnsDomain).length +
          (encodeLabels labels).length < mdnsDomainMaxlen := by
        simp only [MdnsDomain.length, List.length_append, List.length_cons] at fits ⊢
        omega
      have rest := ih (fun next mem => each next (.tail _ mem)) left leftFits
        (before ++ UInt8.ofNat label.length :: label)
        (by
          simp only [List.length_append, List.length_cons]
          omega)
      have bytes : before ++ (encodeName (label :: labels) ++ after) =
          before ++ UInt8.ofNat label.length :: (label ++ (encodeName labels ++ after)) := by
        simp [encodeName]
      have same : before ++ UInt8.ofNat label.length :: label ++ (encodeName labels ++ after) =
          before ++ UInt8.ofNat label.length :: (label ++ (encodeName labels ++ after)) := by
        simp
      have length : (before ++ UInt8.ofNat label.length :: label).length =
          before.length + 1 + label.length := by
        rw [List.length_append, List.length_cons]
        omega
      rw [same, length] at rest
      rw [bytes, step, rest, encodeLabels_cons, List.length_cons, List.length_append]
      congr 1
      · omega
      · simp [encodeName]

/-- The labels of a name in a packet, up to the one of length zero. -/
def labelsOf : Nat → Bytes → List Bytes
  | 0, _ => []
  | _ + 1, [] => []
  | rounds + 1, len :: rest =>
      if len = 0 then [] else rest.take len.toNat :: labelsOf rounds (rest.drop len.toNat)

/-- The labels that were encoded. -/
theorem labelsOf_encodeName {labels : List Bytes}
    (each : ∀ label ∈ labels, label ≠ [] ∧ label.length ≤ mdnsLabelMaxlen) {rounds : Nat}
    (enough : labels.length < rounds) : labelsOf rounds (encodeName labels) = labels := by
  induction labels generalizing rounds with
  | nil =>
      obtain ⟨rounds, rfl⟩ : ∃ left, rounds = left + 1 := ⟨rounds - 1, by simp at enough; omega⟩
      rfl
  | cons label labels ih =>
      obtain ⟨rounds, rfl⟩ : ∃ left, rounds = left + 1 := ⟨rounds - 1, by omega⟩
      obtain ⟨some_, short⟩ := each label (.head _)
      have count := toNat_length short
      have nonzero : UInt8.ofNat label.length ≠ 0 := by
        intro zero
        rw [zero] at count
        exact some_ (List.length_eq_zero_iff.mp count.symm)
      have bytes : encodeName (label :: labels) =
          UInt8.ofNat label.length :: (label ++ encodeName labels) := by
        simp [encodeName]
      rw [bytes, labelsOf, if_neg nonzero, count, List.take_left, List.drop_left,
        ih (fun next mem => each next (.tail _ mem)) (by simpa using enough)]

theorem length_le_encodeLabels (labels : List Bytes) :
    labels.length ≤ (encodeLabels labels).length := by
  induction labels with
  | nil => exact Nat.le_refl 0
  | cons label labels ih =>
      rw [encodeLabels_cons, List.length_cons, List.length_cons, List.length_append]
      omega

/-! ### Queries -/

/-- The type that a query asks for. -/
def queryType (client : MdnsClient) (apiType : NmosApiType) : Nat :=
  if cstr (client.apiIf apiType).hostname = [] then dnsRrtypePtr else dnsRrtypeA

/-- The packet asks for a name: its labels are read back, and behind them stand type and class. -/
structure AsksFor (packet : Bytes) (labels : List Bytes) (qType : Nat) : Prop where
  name : ∃ domain,
    mdnsReadname packet sizeofDnsHdr = (sizeofDnsHdr + (dotted labels).length + 2, domain) ∧
      labelsOf domain.length domain.name = labels
  question : packet.drop (sizeofDnsHdr + (dotted labels).length + 2) =
    hton16 qType ++ hton16 dnsRrclassIn

theorem queryBytes_asksFor (txId qType : Nat) (name : DomainName) :
    AsksFor (queryBytes txId qType name.labels) name.labels qType := by
  have short := name.short
  have length := length_encodeLabels name.nonempty
  have count := length_le_encodeLabels name.labels
  have header : (queryHeader txId).length = sizeofDnsHdr := rfl
  have limit : mdnsDomainMaxlen = 256 := rfl
  have size : sizeofDnsHdr = 12 := rfl
  constructor
  · refine ⟨⟨encodeName name.labels⟩, ?_, ?_⟩
    · have enough : name.labels.length < mdnsDomainMaxlen + 1 := by omega
      have fits : MdnsDomain.length {} + (encodeLabels name.labels).length < mdnsDomainMaxlen := by
        change 0 + _ < _
        omega
      have read := mdnsReadLabels_encode name.each
        (mdnsReadnameLoop (queryBytes txId qType name.labels) 5) enough fits
        (queryHeader txId) (hton16 qType ++ hton16 dnsRrclassIn) (by omega)
      rw [header, length] at read
      exact read
    · apply labelsOf_encodeName name.each
      rw [MdnsDomain.length, encodeName_eq, List.length_append, List.length_singleton]
      omega
  · have before : (queryHeader txId ++ encodeName name.labels).length =
        sizeofDnsHdr + (dotted name.labels).length + 2 := by
      rw [List.length_append, header, encodeName_eq, List.length_append, List.length_singleton,
        length]
      omega
    rw [queryBytes, ← List.append_assoc, ← before, List.drop_left]

/-- A query fills exactly the pbuf that is allocated for it, whatever was in there, and the labels
of the name are read back from it with the type and class directly behind them. -/
theorem query_asksFor (client : MdnsClient) (apiType : NmosApiType) (name : DomainName)
    (named : cstr client.domainName = dotted name.labels)
    (allocated : client.pool.head? ≠ some false) :
    ∃ packet, (mdnsClientSendQuery client apiType).sent = client.sent ++ [packet] ∧
      AsksFor packet name.labels (queryType client apiType) ∧
      Lib.Consecutive 0 (queryWrites client.txId (queryType client apiType)
        (cstr client.domainName)) packet.length ∧
      packet.length = queryLength (cstr client.domainName) ∧
      ∀ p, p.length = packet.length →
        fillQuery client.txId (queryType client apiType) (cstr client.domainName) p = packet := by
  have length : (queryBytes client.txId (queryType client apiType) name.labels).length =
      queryLength (dotted name.labels) := by
    have short := name.short
    have header : (queryHeader client.txId).length = sizeofDnsHdr := rfl
    have size : sizeofDnsHdr = 12 := rfl
    have fields : (hton16 (queryType client apiType) ++ hton16 dnsRrclassIn).length = 4 := rfl
    rw [queryBytes, List.length_append, List.length_append, header, encodeName_eq,
      List.length_append, List.length_singleton, length_encodeLabels name.nonempty, fields,
      queryLength, u16_of_lt (by omega)]
    omega
  refine ⟨queryBytes client.txId (queryType client apiType) name.labels, ?_,
    queryBytes_asksFor _ _ name, ?_, ?_, ?_⟩
  · rw [mdnsClientSendQuery, if_neg allocated, named]
    simp only
    rw [queryPacket_eq, fillQuery_bytes _ _ name (List.length_replicate ..)]
    rfl
  · rw [named, length]
    exact queryWrites_consecutive _ _ name
  · rw [named, length]
  · intro p same
    rw [named]
    exact fillQuery_bytes _ _ name (same.trans length)

/-- The name of the query service. -/
def queryServiceName : DomainName where
  labels := [str "_nmos-query", str "_tcp", str "local"]
  nonempty := by decide
  each := by decide
  plain := by decide
  short := by decide

/-- A client that is going to ask for the query service. -/
def askingClient : MdnsClient where
  txId := 7
  domainName := nmosMdnsTypeQuery
  service := []
  qType := dnsRrtypePtr
  rdata := []
  state := .init
  registrationApi := ⟨.registration, 0, 0, 0, 0, 0, [], [], []⟩
  queryApi := ⟨.query, 0, 0, 0, 0, 0, [], [], []⟩
  pool := []
  sent := []

theorem query_asksFor_queryService :
    ∃ packet, (mdnsClientSendQuery askingClient .query).sent = [packet] ∧
      AsksFor packet queryServiceName.labels dnsRrtypePtr ∧
      Lib.Consecutive 0 (queryWrites 7 dnsRrtypePtr (cstr nmosMdnsTypeQuery)) packet.length ∧
      packet.length = queryLength (cstr nmosMdnsTypeQuery) ∧
      ∀ p, p.length = packet.length →
        fillQuery 7 dnsRrtypePtr (cstr nmosMdnsTypeQuery) p = packet :=
  query_asksFor askingClient .query queryServiceName (by decide) (by decide)

end LwipExt.Mdns
