import LwipExt.Mdns.Answers
import LwipExt.Mdns.Responder

/-!
The records that the multicast DNS responder writes into a reply.

A reply lists the selected records of the host, then those of each service, then the additional
ones (`replyRecords`). Each addition of a record keeps the packet composed, and goes through when
the record fits without compression (`Adding`). The additions of `mdns_send_outpacket` are put
together from it, by `Adding.bind` and, over the services, by `Adding.services`.
-/

namespace LwipExt.Mdns

/-! ### Labels of the responder -/

/-- No label is as long as the code of a printable character, and no other character is in one. -/
def labelLimit : Nat := 32

/-- A printable label, neither empty nor of 32 characters. -/
structure Printable (label : Bytes) : Prop where
  nonempty : label ≠ []
  short : label.length < labelLimit
  printable : ∀ b ∈ label, labelLimit ≤ b.toNat

instance (label : Bytes) : Decidable (Printable label) :=
  have := List.decidableBAll (fun b : UInt8 => labelLimit ≤ b.toNat) label
  decidable_of_iff (label ≠ [] ∧ label.length < labelLimit ∧ ∀ b ∈ label, labelLimit ≤ b.toNat)
    ⟨fun ⟨some_, short, printable⟩ => ⟨some_, short, printable⟩,
      fun ⟨some_, short, printable⟩ => ⟨some_, short, printable⟩⟩

theorem length_encodeLabels_le {labels : List Bytes} (each : ∀ label ∈ labels, Printable label) :
    (encodeLabels labels).length ≤ labels.length * labelLimit := by
  induction labels with
  | nil => exact Nat.le_refl 0
  | cons label labels ih =>
      have short := (each label (.head _)).short
      have rest := ih fun next mem => each next (.tail _ mem)
      rw [encodeLabels_cons, List.length_cons, List.length_append, List.length_cons, Nat.succ_mul]
      omega

theorem plain_of_printable {labels : List Bytes} (each : ∀ label ∈ labels, Printable label)
    (few : labels.length ≤ 7) : Plain labelLimit labels where
  each label mem := by
    have short := (each label mem).short
    have limit : labelLimit = 32 := rfl
    have most : mdnsLabelMaxlen = 63 := rfl
    exact ⟨(each label mem).nonempty, by omega⟩
  apart label mem := ⟨(each label mem).short, (each label mem).printable⟩
  fits := by
    have size := length_encodeLabels_le each
    have limit : labelLimit = 32 := rfl
    have most : mdnsDomainMaxlen = 256 := rfl
    rw [limit] at size
    omega

/-- The domain built of labels, with the root behind them. -/
theorem addLabels_root {labels : List Bytes} (each : ∀ label ∈ labels, label ≠ [] ∧
      label.length ≤ mdnsLabelMaxlen) {domain : MdnsDomain}
    (fits : domain.length + (encodeLabels labels).length < mdnsDomainMaxlen) :
    addLabels domain (labels ++ [[]]) = (⟨domain.name ++ encodeName labels⟩, true) := by
  induction labels generalizing domain with
  | nil =>
      have length : (encodeLabels ([] : List Bytes)).length = 0 := rfl
      have none_ : ([] : Bytes).length = 0 := rfl
      rw [List.nil_append, addLabels, mdnsDomainAddLabel, if_neg (by simp), if_neg (by simp),
        if_neg (by omega)]
      rfl
  | cons label labels ih =>
      obtain ⟨some_, short⟩ := each label (.head _)
      have pos := List.length_pos_of_ne_nil some_
      rw [encodeLabels_cons, List.length_cons, List.length_append] at fits
      have added : mdnsDomainAddLabel domain label =
          some ⟨domain.name ++ UInt8.ofNat label.length :: label⟩ := by
        rw [mdnsDomainAddLabel, if_neg (by omega), if_neg (by omega), if_neg (by omega)]
      rw [List.cons_append, addLabels, added]
      simp only
      rw [ih (fun next mem => each next (.tail _ mem)), encodeName_cons]
      · simp
      · simp only [MdnsDomain.length, List.length_append, List.length_cons] at fits ⊢
        omega

/-- The labels of the domains of the responder. -/
def hostLabels (mdns : MdnsHost) : List Bytes := [mdns.name.text, str "local"]
def reverseV4Labels (addr : UInt32) : List Bytes :=
  (ip4Octets addr).reverse.map (fun val => decimal val.toNat) ++ [str "in-addr", str "arpa"]
def dnssdLabels : List Bytes := [str "_services", str "_dns-sd", str "_udp", str "local"]
def serviceTypeLabels (service : MdnsService) : List Bytes :=
  [service.service.text, dnssdProtos service.proto, str "local"]
def serviceLabels (service : MdnsService) : List Bytes :=
  service.name.text :: serviceTypeLabels service

/-- A service with printable names. -/
structure MdnsService.Named (service : MdnsService) : Prop where
  name : Printable service.name.text
  type : Printable service.service.text
  txt : (mdnsPrepareTxtdata service).length ≤ mdnsDomainMaxlen
  ttl : service.dnsTtl < 4294967296

/-- A host with printable names. -/
structure MdnsHost.Named (mdns : MdnsHost) : Prop where
  name : Printable mdns.name.text
  services : ∀ service, some service ∈ mdns.services → service.Named
  ttl : mdns.dnsTtl < 4294967296

theorem printable_decimal (val : UInt8) : Printable (decimal val.toNat) := by
  have all : ∀ n < 256, Printable (decimal n) := by decide +kernel
  exact all val.toNat val.toNat_lt

theorem printable_proto (proto : MdnsSdProto) : Printable (dnssdProtos proto) := by
  cases proto <;> decide

theorem plain_hostLabels {mdns : MdnsHost} (named : mdns.Named) :
    Plain labelLimit (hostLabels mdns) := by
  refine plain_of_printable (fun label mem => ?_) (by simp [hostLabels])
  simp only [hostLabels, List.mem_cons, List.not_mem_nil, or_false] at mem
  rcases mem with rfl | rfl
  · exact named.name
  · decide

theorem plain_reverseV4Labels (addr : UInt32) : Plain labelLimit (reverseV4Labels addr) := by
  refine plain_of_printable (fun label mem => ?_) (by simp [reverseV4Labels, ip4Octets])
  rcases List.mem_append.mp mem with octet | fixed
  · obtain ⟨val, _, rfl⟩ := List.mem_map.mp octet
    exact printable_decimal val
  · simp only [List.mem_cons, List.not_mem_nil, or_false] at fixed
    rcases fixed with rfl | rfl <;> decide

theorem plain_dnssdLabels : Plain labelLimit dnssdLabels :=
  plain_of_printable (by decide) (by decide)

theorem plain_serviceTypeLabels {service : MdnsService} (named : service.Named) :
    Plain labelLimit (serviceTypeLabels service) := by
  refine plain_of_printable (fun label mem => ?_) (by simp [serviceTypeLabels])
  simp only [serviceTypeLabels, List.mem_cons, List.not_mem_nil, or_false] at mem
  rcases mem with rfl | rfl | rfl
  · exact named.type
  · exact printable_proto _
  · decide

theorem plain_serviceLabels {service : MdnsService} (named : service.Named) :
    Plain labelLimit (serviceLabels service) := by
  refine plain_of_printable (fun label mem => ?_) (by simp [serviceLabels, serviceTypeLabels])
  simp only [serviceLabels, serviceTypeLabels, List.mem_cons, List.not_mem_nil, or_false] at mem
  rcases mem with rfl | rfl | rfl | rfl
  · exact named.name
  · exact named.type
  · exact printable_proto _
  · decide

/-- The domain of plain labels. -/
theorem addLabels_of_plain {labels : List Bytes} (plain : Plain labelLimit labels) :
    addLabels {} (labels ++ [[]]) = (⟨encodeName labels⟩, true) := by
  have fits := plain.fits
  have empty : ({} : MdnsDomain).length = 0 := rfl
  exact addLabels_root plain.each (by omega)

theorem mdnsBuildHostDomain_eq {mdns : MdnsHost} (named : mdns.Named) :
    mdnsBuildHostDomain mdns = (⟨encodeName (hostLabels mdns)⟩, true) :=
  addLabels_of_plain (plain_hostLabels named)

theorem mdnsBuildReverseV4Domain_eq (addr : UInt32) :
    mdnsBuildReverseV4Domain addr = (⟨encodeName (reverseV4Labels addr)⟩, true) := by
  rw [← addLabels_of_plain (plain_reverseV4Labels addr), reverseV4Labels, List.append_assoc]
  rfl

theorem mdnsBuildDnssdDomain_eq : mdnsBuildDnssdDomain = (⟨encodeName dnssdLabels⟩, true) :=
  addLabels_of_plain plain_dnssdLabels

theorem mdnsBuildServiceDomain_type {service : MdnsService} (named : service.Named) :
    mdnsBuildServiceDomain service false = (⟨encodeName (serviceTypeLabels service)⟩, true) :=
  addLabels_of_plain (plain_serviceTypeLabels named)

theorem mdnsBuildServiceDomain_name {service : MdnsService} (named : service.Named) :
    mdnsBuildServiceDomain service true = (⟨encodeName (serviceLabels service)⟩, true) :=
  addLabels_of_plain (plain_serviceLabels named)

/-! ### Records -/

/-- The records that the responder sends. -/
def aRecord (netif : Netif) (mdns : MdnsHost) (flush : Bool) : MdnsRecord :=
  ⟨hostLabels mdns, dnsRrtypeA, dnsRrclassIn, flush, mdns.dnsTtl, ip4Octets netif.ip4Addr, none⟩
def hostv4PtrRecord (netif : Netif) (mdns : MdnsHost) (flush : Bool) : MdnsRecord :=
  ⟨reverseV4Labels netif.ip4Addr, dnsRrtypePtr, dnsRrclassIn, flush, mdns.dnsTtl, [],
    some (hostLabels mdns)⟩
def servicetypePtrRecord (service : MdnsService) : MdnsRecord :=
  ⟨dnssdLabels, dnsRrtypePtr, dnsRrclassIn, false, service.dnsTtl, [],
    some (serviceTypeLabels service)⟩
def servicenamePtrRecord (service : MdnsService) : MdnsRecord :=
  ⟨serviceTypeLabels service, dnsRrtypePtr, dnsRrclassIn, false, service.dnsTtl, [],
    some (serviceLabels service)⟩
def srvRecord (mdns : MdnsHost) (service : MdnsService) (flush : Bool) : MdnsRecord :=
  ⟨serviceLabels service, dnsRrtypeSrv, dnsRrclassIn, flush, service.dnsTtl,
    hton16 0 ++ hton16 0 ++ hton16 service.port, some (hostLabels mdns)⟩
def txtRecord (service : MdnsService) (flush : Bool) : MdnsRecord :=
  ⟨serviceLabels service, dnsRrtypeTxt, dnsRrclassIn, flush, service.dnsTtl,
    (mdnsPrepareTxtdata service).name, none⟩

/-- A record when it is selected. -/
def recordWhen (selected : Bool) (r : MdnsRecord) : List MdnsRecord := if selected then [r] else []

/-- The answers for the host. -/
def hostRecords (netif : Netif) (mdns : MdnsHost) (flush : Bool) (replies : HostReplies) :
    List MdnsRecord :=
  recordWhen replies.a (aRecord netif mdns flush) ++
    recordWhen replies.ptrV4 (hostv4PtrRecord netif mdns flush)

/-- The answers for one service. -/
def serviceRecords (mdns : MdnsHost) (flush : Bool) (service : MdnsService)
    (replies : ServReplies) : List MdnsRecord :=
  recordWhen replies.typePtr (servicetypePtrRecord service) ++
    (recordWhen replies.namePtr (servicenamePtrRecord service) ++
      (recordWhen replies.srv (srvRecord mdns service flush) ++
        recordWhen replies.txt (txtRecord service flush)))

/-- The additional records for one service. -/
def additionalRecords (netif : Netif) (mdns : MdnsHost) (flush : Bool) (host : HostReplies)
    (service : MdnsService) (replies : ServReplies) : List MdnsRecord :=
  recordWhen (replies.namePtr && !replies.srv) (srvRecord mdns service flush) ++
    (recordWhen (replies.namePtr && !replies.txt) (txtRecord service flush) ++
      recordWhen ((replies.namePtr || replies.srv || host.a) && !host.a) (aRecord netif mdns flush))

/-- The records for all services. -/
def recordsOf (records : MdnsService → ServReplies → List MdnsRecord) :
    List (Option MdnsService) → List ServReplies → List MdnsRecord
  | [], _ => []
  | none :: services, replies => recordsOf records services replies.tail
  | some service :: services, replies =>
      records service (replies.headD {}) ++ recordsOf records services replies.tail

/-- The records of a reply, in their order. -/
def replyRecords (netif : Netif) (mdns : MdnsHost) (out : MdnsOutpacket) : List MdnsRecord :=
  hostRecords netif mdns out.cacheFlush out.hostReplies ++
    (recordsOf (serviceRecords mdns out.cacheFlush) mdns.services out.servReplies ++
      recordsOf (additionalRecords netif mdns out.cacheFlush out.hostReplies) mdns.services
        out.servReplies)

/-! ### Packets with records -/

/-- A question that was written: its labels, type and class. -/
structure Asked where
  labels : List Bytes
  type : Nat
  klass : Nat
  deriving DecidableEq, Repr

/-- The bytes that a question takes without compression. -/
def askedLength (asked : List Asked) : Nat :=
  (asked.map fun q => (encodeName q.labels).length + 4).sum

/-- The bytes that records take without compression. -/
def recordsLength (rs : List MdnsRecord) : Nat :=
  (rs.map fun r => answerLength r.labels r.data r.target).sum

/-- Questions stand one after the other. -/
def QuestionsIn (limit : Nat) (v : Nat → Option UInt8) : Nat → List Asked → Nat → Prop
  | o, [], stop => stop = o
  | o, q :: qs, stop => ∃ mid, QuestionIn limit v o q.labels q.type (klassField q.klass false) mid ∧
      QuestionsIn limit v mid qs stop

theorem QuestionsIn.mono {limit : Nat} {v v' : Nat → Option UInt8}
    (kept : ∀ i b, v i = some b → v' i = some b) {qs : List Asked} {o stop : Nat}
    (stands : QuestionsIn limit v o qs stop) : QuestionsIn limit v' o qs stop := by
  induction qs generalizing o with
  | nil => exact stands
  | cons q qs ih =>
      obtain ⟨mid, first, rest⟩ := stands
      exact ⟨mid, first.mono kept, ih rest⟩

/-- The pbuf of a packet with its write offset and stored offsets, once it is allocated. -/
def MdnsOutpacket.body (out : MdnsOutpacket) (fresh : Option Bytes) :
    Option (Bytes × Nat × List Nat) :=
  match out.pbuf with
  | some p => some (p, out.writeOffset, out.domainOffsets)
  | none => fresh.map fun p => (p, sizeofDnsHdr, out.domainOffsets)

theorem allocated_of_body {out : MdnsOutpacket} {fresh : Option Bytes} {p : Bytes} {w : Nat}
    {offsets : List Nat} (body : out.body fresh = some (p, w, offsets)) :
    out.allocated fresh = out.holding p w offsets := by
  obtain ⟨pbuf, writeOffset⟩ := out
  cases pbuf with
  | some q =>
      cases body
      cases fresh <;> rfl
  | none =>
      cases fresh with
      | none => cases body
      | some q =>
          cases body
          rfl

/-- A packet with questions and records, whose names are behind at most `depth` jumps. -/
def Packed (fresh : Option Bytes) (depth : Nat) (asked : List Asked) (rs : List MdnsRecord)
    (out : MdnsOutpacket) : Prop :=
  ∃ v p w offsets mid, out.body fresh = some (p, w, offsets) ∧
    Composed labelLimit depth v p w offsets ∧ QuestionsIn labelLimit v sizeofDnsHdr asked mid ∧
    AnswersIn labelLimit v mid rs w ∧
    w ≤ sizeofDnsHdr + askedLength asked + recordsLength rs

/-- A record as the responder hands it over. -/
structure MdnsRecord.Plain (r : MdnsRecord) : Prop where
  labels : Mdns.Plain labelLimit r.labels
  target : ∀ labels ∈ r.target, Mdns.Plain labelLimit labels
  short : r.data.length ≤ mdnsDomainMaxlen
  width : r.InWidth

theorem recordsLength_snoc (rs : List MdnsRecord) (r : MdnsRecord) :
    recordsLength (rs ++ [r]) = recordsLength rs + answerLength r.labels r.data r.target := by
  simp [recordsLength]

theorem mdnsAddAnswer_allocated (fresh : Option Bytes) (out : MdnsOutpacket) (domain : MdnsDomain)
    (type klass : Nat) (flush : Bool) (ttl : Nat) (buf : Option Bytes)
    (answerDomain : Option MdnsName) :
    mdnsAddAnswer fresh (out.allocated fresh) domain type klass flush ttl buf answerDomain =
      mdnsAddAnswer fresh out domain type klass flush ttl buf answerDomain := by
  have idem : (out.allocated fresh).allocated fresh = out.allocated fresh := by
    obtain ⟨pbuf, writeOffset⟩ := out
    cases pbuf <;> cases fresh <;> rfl
  rw [mdnsAddAnswer, mdnsAddAnswer, idem]

/-- Writing a reply leaves what was decided about it. -/
def SameReply (ctx out : MdnsOutpacket) : Prop :=
  { out with
    pbuf := ctx.pbuf
    writeOffset := ctx.writeOffset
    domainOffsets := ctx.domainOffsets
    answers := ctx.answers
    additional := ctx.additional } = ctx

/-- An answer that is added to a packet. -/
theorem Packed.add {fresh : Option Bytes} {depth : Nat} {asked : List Asked} {rs : List MdnsRecord}
    {out : MdnsOutpacket} (packed : Packed fresh depth asked rs out) {r : MdnsRecord}
    (plain : r.Plain) (deep : depthWithTarget (depthWith depth r.labels) r.target ≤ 5)
    {buf : Option Bytes} (data : buf.getD [] = r.data) (skip : Bool) :
    (∀ out', mdnsAddAnswer fresh out ⟨encodeName r.labels⟩ r.type r.klass r.cacheFlush r.ttl buf
        (targetName skip r.target) = (out', true) →
      Packed fresh (depthWithTarget (depthWith depth r.labels) r.target) asked (rs ++ [r]) out' ∧
        ∃ p w offsets, out' = out.holding p w offsets) ∧
    (buf ≠ some [] →
      sizeofDnsHdr + askedLength asked + recordsLength (rs ++ [r]) ≤ outpacketSize →
      (mdnsAddAnswer fresh out ⟨encodeName r.labels⟩ r.type r.klass r.cacheFlush r.ttl buf
        (targetName skip r.target)).2 = true) := by
  obtain ⟨v, p, w, offsets, mid, body, composed, questions, answers, size⟩ := packed
  have short : (buf.getD []).length ≤ mdnsDomainMaxlen := by
    rw [data]
    exact plain.short
  rw [← mdnsAddAnswer_allocated, allocated_of_body body, recordsLength_snoc]
  by_cases fits : w + answerLength r.labels (buf.getD []) r.target ≤ p.length
  · rcases mdnsAddAnswer_grown composed fresh out plain.labels r.type r.klass r.cacheFlush r.ttl
        skip short plain.target deep fits with
      ⟨empty, failed⟩ | ⟨v', p', w', offsets', added, grown, answer, reaches⟩
    · refine ⟨fun out' added => ?_, fun nonempty => absurd empty nonempty⟩
      rw [added] at failed
      cases failed
    · rw [added]
      refine ⟨fun out' same => ?_, fun _ _ => rfl⟩
      cases same
      rw [data] at answer reaches
      have kept := composed.kept grown.same
      refine ⟨⟨v', p', w', offsets', mid, rfl, grown.composed, questions.mono kept,
        (answers.mono kept).snoc answer, ?_⟩, p', w', offsets', rfl⟩
      rw [recordsLength_snoc]
      omega
  · rw [mdnsAddAnswer_refused fresh out plain.labels r.type r.klass r.cacheFlush r.ttl skip short
      plain.target (by omega)]
    refine ⟨fun out' same => (by cases same), fun _ room => ?_⟩
    rw [data, composed.size] at fits
    omega

/-! ### Additions -/

/-- A reply that is being written: its records, and the counts of the two kinds. -/
structure Sending (fresh : Option Bytes) (ctx : MdnsOutpacket) (most : Nat) (asked : List Asked)
    (rs : List MdnsRecord) (answers additional : Nat) (out : MdnsOutpacket) : Prop where
  packed : ∃ depth, depth ≤ most ∧ Packed fresh depth asked rs out
  same : SameReply ctx out
  answers_eq : out.answers = answers
  additional_eq : out.additional = additional
  counted : answers + additional = rs.length

/-- A record that takes at least one byte behind its length. -/
def MdnsRecord.Sized (r : MdnsRecord) : Prop := r.data = [] → r.target ≠ none

instance (r : MdnsRecord) : Decidable r.Sized := inferInstanceAs (Decidable (_ → _))

/-- A step of `mdns_send_outpacket` that adds records, additional ones if `extra` is set: what it
makes of a reply, that it goes through when the records fit, and that it does nothing without
any. -/
def Adding (fresh : Option Bytes) (ctx : MdnsOutpacket) (most most' : Nat) (extra : Bool)
    (step : MdnsOutpacket → Option MdnsOutpacket) (rs : List MdnsRecord) : Prop :=
  ∀ asked all answers additional out, Sending fresh ctx most asked all answers additional out →
    (∀ out', step out = some out' →
      Sending fresh ctx most' asked (all ++ rs) (if extra then answers else answers + rs.length)
        (if extra then additional + rs.length else additional) out') ∧
    (sizeofDnsHdr + askedLength asked + recordsLength (all ++ rs) ≤ outpacketSize →
      (∀ r ∈ rs, r.Sized) → (step out).isSome) ∧
    (rs = [] → step out = some out)

section Additions

variable {fresh : Option Bytes} {ctx : MdnsOutpacket} {most most' : Nat} {extra : Bool}

theorem Sending.mono {asked : List Asked} {rs : List MdnsRecord} {answers additional : Nat}
    {out : MdnsOutpacket} (sending : Sending fresh ctx most asked rs answers additional out)
    (le : most ≤ most') : Sending fresh ctx most' asked rs answers additional out := by
  obtain ⟨depth, within, packed⟩ := sending.packed
  exact { sending with packed := ⟨depth, Nat.le_trans within le, packed⟩ }

theorem Packed.congr {depth : Nat} {asked : List Asked} {rs : List MdnsRecord}
    {out out' : MdnsOutpacket} (packed : Packed fresh depth asked rs out)
    (same : out'.body fresh = out.body fresh) : Packed fresh depth asked rs out' := by
  obtain ⟨v, p, w, offsets, mid, body, rest⟩ := packed
  exact ⟨v, p, w, offsets, mid, same.trans body, rest⟩

/-- Every record takes a byte. -/
theorem length_le_of_answersIn {limit : Nat} {v : Nat → Option UInt8} {rs : List MdnsRecord}
    {o stop : Nat} (stands : AnswersIn limit v o rs stop) : o + rs.length ≤ stop := by
  induction rs generalizing o with
  | nil => exact Nat.le_of_eq (Eq.symm stands)
  | cons r rs ih =>
      obtain ⟨mid, ⟨m, ⟨nameStop, ⟨_, jumps, _, named⟩, _, rfl⟩, _, _, _, target⟩, rest⟩ := stands
      have behind := named.stop_written.choose_spec.2
      have ends : nameStop + 4 ≤ mid := by
        cases at_ : r.target with
        | none =>
            rw [at_] at target
            have : mid = nameStop + 4 + 6 + r.data.length := target
            omega
        | some labels =>
            rw [at_] at target
            obtain ⟨_, jumps, _, standing⟩ := target
            have := standing.stop_written.choose_spec.2
            omega
      have := ih rest
      rw [List.length_cons]
      omega

theorem Packed.length_le {depth : Nat} {asked : List Asked} {rs : List MdnsRecord}
    {out : MdnsOutpacket} (packed : Packed fresh depth asked rs out) :
    rs.length ≤ outpacketSize := by
  obtain ⟨v, p, w, offsets, mid, body, composed, questions, answers, size⟩ := packed
  have := length_le_of_answersIn answers
  have inside := composed.inside
  rw [composed.size] at inside
  omega

/-- The count of one kind of records. -/
def countOne (extra : Bool) : MdnsOutpacket → MdnsOutpacket :=
  if extra then countAdditional else countAnswer

theorem Adding.when {r : MdnsRecord} (plain : r.Plain) (selected : Bool) (le : most ≤ most')
    (deep : ∀ depth ≤ most, depthWithTarget (depthWith depth r.labels) r.target ≤ most')
    (shallow : most' ≤ 5) (buf : Option Bytes) (data : buf.getD [] = r.data)
    (sized : buf = some [] → r.target = none) (skip : Bool)
    {add : MdnsOutpacket → MdnsOutpacket × Bool}
    (adds : ∀ out, SameReply ctx out → add out =
      mdnsAddAnswer fresh out ⟨encodeName r.labels⟩ r.type r.klass r.cacheFlush r.ttl buf
        (targetName skip r.target)) :
    Adding fresh ctx most most' extra (addWhen selected add (countOne extra))
      (recordWhen selected r) := by
  intro asked all answers additional out sending
  cases selected with
  | false =>
      refine ⟨fun out' stepped => ?_, fun _ _ => rfl, fun _ => rfl⟩
      cases stepped
      simpa [recordWhen] using sending.mono le
  | true =>
      obtain ⟨depth, within, packed⟩ := sending.packed
      obtain ⟨grown, accepted⟩ := packed.add plain (Nat.le_trans (deep depth within) shallow) data
        skip
      have one : recordWhen true r = [r] := rfl
      simp only [addWhen, adds out sending.same, if_true]
      refine ⟨?_, ?_, fun other => (by cases other)⟩
      · intro out' stepped
        split at stepped
        · cases stepped
        next added =>
          cases stepped
          obtain ⟨packed', p, w, offsets, rfl⟩ := grown _ added
          have few := packed'.length_le
          have size : outpacketSize = 500 := rfl
          rw [List.length_append, List.length_singleton, ← sending.counted] at few
          have counts := sending.counted
          refine ⟨⟨_, deep depth within, packed'.congr ?_⟩, ?_, ?_, ?_, ?_⟩
          · cases extra <;> rfl
          · have same := sending.same
            unfold SameReply at same ⊢
            cases extra <;> exact same
          · cases extra with
            | false =>
                change u16 (out.answers + 1) = answers + 1
                rw [sending.answers_eq, u16_of_lt (by omega)]
            | true => exact sending.answers_eq
          · cases extra with
            | false => exact sending.additional_eq
            | true =>
                change u16 (out.additional + 1) = additional + 1
                rw [sending.additional_eq, u16_of_lt (by omega)]
          · rw [one, List.length_append, ← counts]
            cases extra with
            | false => exact Nat.add_right_comm _ _ _
            | true => rfl
      · intro room each
        have nonempty : buf ≠ some [] := by
          intro empty
          have none_ := sized empty
          rw [empty] at data
          exact each r (by simp [one]) data.symm none_
        have went := accepted nonempty room
        split
        next added => rw [added] at went; cases went
        next => rfl

theorem Adding.mono {step : MdnsOutpacket → Option MdnsOutpacket} {rs : List MdnsRecord}
    (adding : Adding fresh ctx most most' extra step rs) {least most'' : Nat} (le : least ≤ most)
    (le' : most' ≤ most'') : Adding fresh ctx least most'' extra step rs := by
  intro asked all answers additional out sending
  obtain ⟨grown, rest⟩ := adding asked all answers additional out (sending.mono le)
  exact ⟨fun out' stepped => (grown out' stepped).mono le', rest⟩

theorem Adding.none : Adding fresh ctx most most extra some [] := by
  intro asked all answers additional out sending
  refine ⟨fun out' stepped => ?_, fun _ _ => rfl, fun _ => rfl⟩
  cases stepped
  simpa using sending

theorem Adding.congr {step step' : MdnsOutpacket → Option MdnsOutpacket} {rs : List MdnsRecord}
    (adding : Adding fresh ctx most most' extra step rs)
    (same : ∀ out, SameReply ctx out → step' out = step out) :
    Adding fresh ctx most most' extra step' rs := by
  intro asked all answers additional out sending
  rw [same out sending.same]
  exact adding asked all answers additional out sending

theorem recordsLength_append (rs rs' : List MdnsRecord) :
    recordsLength (rs ++ rs') = recordsLength rs + recordsLength rs' := by
  simp [recordsLength]

/-- One addition after another. -/
theorem Adding.bind {most'' : Nat} {step step' : MdnsOutpacket → Option MdnsOutpacket}
    {rs rs' : List MdnsRecord} (first : Adding fresh ctx most most' extra step rs)
    (second : Adding fresh ctx most' most'' extra step' rs') :
    Adding fresh ctx most most'' extra (fun out => step out >>= step') (rs ++ rs') := by
  intro asked all answers additional out sending
  obtain ⟨grown, accepted, idle⟩ := first asked all answers additional out sending
  refine ⟨?_, ?_, ?_⟩
  · intro out' stepped
    cases firstStep : step out with
    | none => simp [firstStep] at stepped
    | some out₁ =>
        simp only [firstStep, Option.bind_eq_bind, Option.bind_some] at stepped
        obtain ⟨grown', _⟩ := second _ _ _ _ _ (grown out₁ firstStep)
        have last := grown' out' stepped
        rw [List.append_assoc] at last
        cases extra <;> simpa [Nat.add_assoc] using last
  · intro room sized
    have rooms := room
    rw [← List.append_assoc, recordsLength_append] at rooms
    have went := accepted (by omega) fun r mem => sized r (List.mem_append_left _ mem)
    obtain ⟨out₁, firstStep⟩ := Option.isSome_iff_exists.mp went
    obtain ⟨_, accepted', _⟩ := second _ _ _ _ _ (grown out₁ firstStep)
    simp only [firstStep, Option.bind_eq_bind, Option.bind_some]
    exact accepted' (by rw [List.append_assoc]; exact room)
      fun r mem => sized r (List.mem_append_right _ mem)
  · intro empty
    obtain ⟨none_, none_'⟩ := List.append_eq_nil_iff.mp empty
    have stays := idle none_
    simp only [stays, Option.bind_eq_bind, Option.bind_some]
    exact (second _ _ _ _ _ (grown out stays)).2.2 none_'

/-- The additions for all services. -/
theorem Adding.services {add : MdnsService → ServReplies → MdnsOutpacket → Option MdnsOutpacket}
    {records : MdnsService → ServReplies → List MdnsRecord} {services : List (Option MdnsService)}
    (each : ∀ service, some service ∈ services → ∀ replies,
      Adding fresh ctx most most extra (add service replies) (records service replies))
    (replies : List ServReplies) :
    Adding fresh ctx most most extra (forServices add services replies)
      (recordsOf records services replies) := by
  induction services generalizing replies with
  | nil => exact Adding.none
  | cons slot services ih =>
      have rest := ih (fun service mem => each service (.tail _ mem)) replies.tail
      cases slot with
      | none => exact rest
      | some service =>
          refine ((each service (.head _) (replies.headD {})).bind rest).congr fun out _ => ?_
          simp only [forServices]
          cases add service (replies.headD {}) out <;> rfl

end Additions

/-! ### The records of the responder -/

/-- A record of the class `IN`. -/
theorem inWidth {labels : List Bytes} {type ttl : Nat} {flush : Bool} {data : Bytes}
    {target : Option (List Bytes)} (typed : type < 65536) (small : ttl < 4294967296) :
    (⟨labels, type, dnsRrclassIn, flush, ttl, data, target⟩ : MdnsRecord).InWidth :=
  ⟨typed, show dnsRrclassIn < 32768 by decide, small⟩

theorem plain_aRecord {mdns : MdnsHost} (named : mdns.Named) (netif : Netif) (flush : Bool) :
    (aRecord netif mdns flush).Plain where
  labels := plain_hostLabels named
  target _ mem := by cases mem
  short := by
    rw [show (aRecord netif mdns flush).data.length = 4 from rfl]
    decide
  width := inWidth (show dnsRrtypeA < 65536 by decide) named.ttl

theorem plain_hostv4PtrRecord {mdns : MdnsHost} (named : mdns.Named) (netif : Netif)
    (flush : Bool) : (hostv4PtrRecord netif mdns flush).Plain where
  labels := plain_reverseV4Labels netif.ip4Addr
  target _ mem := by
    cases mem
    exact plain_hostLabels named
  short := Nat.zero_le _
  width := inWidth (show dnsRrtypePtr < 65536 by decide) named.ttl

theorem plain_servicetypePtrRecord {service : MdnsService} (named : service.Named) :
    (servicetypePtrRecord service).Plain where
  labels := plain_dnssdLabels
  target _ mem := by
    cases mem
    exact plain_serviceTypeLabels named
  short := Nat.zero_le _
  width := inWidth (show dnsRrtypePtr < 65536 by decide) named.ttl

theorem plain_servicenamePtrRecord {service : MdnsService} (named : service.Named) :
    (servicenamePtrRecord service).Plain where
  labels := plain_serviceTypeLabels named
  target _ mem := by
    cases mem
    exact plain_serviceLabels named
  short := Nat.zero_le _
  width := inWidth (show dnsRrtypePtr < 65536 by decide) named.ttl

theorem plain_srvRecord {mdns : MdnsHost} (host : mdns.Named) {service : MdnsService}
    (named : service.Named) (flush : Bool) : (srvRecord mdns service flush).Plain where
  labels := plain_serviceLabels named
  target _ mem := by
    cases mem
    exact plain_hostLabels host
  short := by
    simp only [srvRecord, List.length_append, length_hton16]
    decide
  width := inWidth (show dnsRrtypeSrv < 65536 by decide) named.ttl

theorem plain_txtRecord {service : MdnsService} (named : service.Named) (flush : Bool) :
    (txtRecord service flush).Plain where
  labels := plain_serviceLabels named
  target _ mem := by cases mem
  short := named.txt
  width := inWidth (show dnsRrtypeTxt < 65536 by decide) named.ttl

/-! ### The additions of the responder -/

section Replies

variable {fresh : Option Bytes} {ctx : MdnsOutpacket} {mdns : MdnsHost} {netif : Netif}

theorem SameReply.cacheFlush {out : MdnsOutpacket} (same : SameReply ctx out) :
    out.cacheFlush = ctx.cacheFlush := by
  have kept := congrArg MdnsOutpacket.cacheFlush same
  exact kept

theorem SameReply.legacyQuery {out : MdnsOutpacket} (same : SameReply ctx out) :
    out.legacyQuery = ctx.legacyQuery := by
  have kept := congrArg MdnsOutpacket.legacyQuery same
  exact kept

theorem SameReply.hostReplies {out : MdnsOutpacket} (same : SameReply ctx out) :
    out.hostReplies = ctx.hostReplies := by
  have kept := congrArg MdnsOutpacket.hostReplies same
  exact kept

theorem SameReply.servReplies {out : MdnsOutpacket} (same : SameReply ctx out) :
    out.servReplies = ctx.servReplies := by
  have kept := congrArg MdnsOutpacket.servReplies same
  exact kept

theorem adding_a (named : mdns.Named) (selected extra : Bool) {most most' : Nat}
    (le : most ≤ most') (rise : max most (min (most + 1) 2) ≤ most') (shallow : most' ≤ 5) :
    Adding fresh ctx most most' extra
      (addWhen selected (fun out => mdnsAddAAnswer fresh out out.cacheFlush netif mdns)
        (countOne extra)) (recordWhen selected (aRecord netif mdns ctx.cacheFlush)) := by
  refine Adding.when (plain_aRecord named netif ctx.cacheFlush) selected le
    (fun depth within => ?_) shallow (some (ip4Octets netif.ip4Addr)) rfl (fun _ => rfl) false
    (fun out same => ?_)
  · simp only [depthWithTarget, depthWith, aRecord, hostLabels, List.length_cons, List.length_nil]
    omega
  · rw [mdnsAddAAnswer, mdnsBuildHostDomain_eq named, same.cacheFlush]
    rfl

theorem adding_hostv4Ptr (named : mdns.Named) (selected : Bool) :
    Adding fresh ctx 2 3 false
      (addWhen selected (fun out => mdnsAddHostv4PtrAnswer fresh out out.cacheFlush netif mdns)
        countAnswer) (recordWhen selected (hostv4PtrRecord netif mdns ctx.cacheFlush)) := by
  refine Adding.when (plain_hostv4PtrRecord named netif ctx.cacheFlush) selected (by omega)
    (fun depth within => ?_) (by omega) none rfl (fun other => by cases other) false
    (fun out same => ?_)
  · simp only [depthWithTarget, depthWith, hostv4PtrRecord, hostLabels, List.length_cons,
      List.length_nil]
    omega
  · rw [mdnsAddHostv4PtrAnswer, mdnsBuildHostDomain_eq named, mdnsBuildReverseV4Domain_eq,
      same.cacheFlush]
    rfl

theorem adding_hostAnswers (named : mdns.Named) :
    Adding fresh ctx 1 5 false (addHostAnswers fresh netif mdns)
      (hostRecords netif mdns ctx.cacheFlush ctx.hostReplies) := by
  have a : Adding fresh ctx 1 2 false (fun out => addWhen out.hostReplies.a
      (fun out => mdnsAddAAnswer fresh out out.cacheFlush netif mdns) countAnswer out) _ :=
    (adding_a named ctx.hostReplies.a false (by omega) (by omega) (by omega)).congr
      fun out same => by rw [same.hostReplies]; rfl
  have ptr : Adding fresh ctx 2 5 false (fun out => addWhen out.hostReplies.ptrV4
      (fun out => mdnsAddHostv4PtrAnswer fresh out out.cacheFlush netif mdns) countAnswer out) _ :=
    ((adding_hostv4Ptr named ctx.hostReplies.ptrV4).mono (Nat.le_refl 2) (by omega)).congr
      fun out same => by rw [same.hostReplies]
  exact a.bind ptr

theorem adding_servicetypePtr {service : MdnsService} (named : service.Named) (selected : Bool) :
    Adding fresh ctx 5 5 false
      (addWhen selected (fun out => mdnsAddServicetypePtrAnswer fresh out service) countAnswer)
      (recordWhen selected (servicetypePtrRecord service)) := by
  refine Adding.when (plain_servicetypePtrRecord named) selected (Nat.le_refl 5)
    (fun depth within => ?_) (Nat.le_refl 5) none rfl (fun other => by cases other) false
    (fun out same => ?_)
  · simp only [depthWithTarget, depthWith, servicetypePtrRecord, dnssdLabels, serviceTypeLabels,
      List.length_cons, List.length_nil]
    omega
  · rw [mdnsAddServicetypePtrAnswer, mdnsBuildDnssdDomain_eq, mdnsBuildServiceDomain_type named]
    rfl

theorem adding_servicenamePtr {service : MdnsService} (named : service.Named) (selected : Bool) :
    Adding fresh ctx 5 5 false
      (addWhen selected (fun out => mdnsAddServicenamePtrAnswer fresh out service) countAnswer)
      (recordWhen selected (servicenamePtrRecord service)) := by
  refine Adding.when (plain_servicenamePtrRecord named) selected (Nat.le_refl 5)
    (fun depth within => ?_) (Nat.le_refl 5) none rfl (fun other => by cases other) false
    (fun out same => ?_)
  · simp only [depthWithTarget, depthWith, servicenamePtrRecord, serviceLabels, serviceTypeLabels,
      List.length_cons, List.length_nil]
    omega
  · rw [mdnsAddServicenamePtrAnswer, mdnsBuildServiceDomain_type named,
      mdnsBuildServiceDomain_name named]
    rfl

theorem adding_srv (host : mdns.Named) {service : MdnsService} (named : service.Named)
    (selected extra : Bool) :
    Adding fresh ctx 5 5 extra
      (addWhen selected (fun out => mdnsAddSrvAnswer fresh out out.cacheFlush mdns service)
        (countOne extra)) (recordWhen selected (srvRecord mdns service ctx.cacheFlush)) := by
  refine Adding.when (plain_srvRecord host named ctx.cacheFlush) selected (Nat.le_refl 5)
    (fun depth within => ?_) (Nat.le_refl 5) (some (hton16 0 ++ hton16 0 ++ hton16 service.port))
    rfl (fun other => by cases other) ctx.legacyQuery (fun out same => ?_)
  · simp only [depthWithTarget, depthWith, srvRecord, serviceLabels, serviceTypeLabels, hostLabels,
      List.length_cons, List.length_nil]
    omega
  · rw [mdnsAddSrvAnswer, mdnsBuildServiceDomain_name named, mdnsBuildHostDomain_eq host,
      same.cacheFlush, same.legacyQuery]
    rfl

theorem adding_txt {service : MdnsService} (named : service.Named) (selected extra : Bool) :
    Adding fresh ctx 5 5 extra
      (addWhen selected (fun out => mdnsAddTxtAnswer fresh out out.cacheFlush service)
        (countOne extra)) (recordWhen selected (txtRecord service ctx.cacheFlush)) := by
  refine Adding.when (plain_txtRecord named ctx.cacheFlush) selected (Nat.le_refl 5)
    (fun depth within => ?_) (Nat.le_refl 5) (some (mdnsPrepareTxtdata service).name) rfl
    (fun _ => rfl) false (fun out same => ?_)
  · simp only [depthWithTarget, depthWith, txtRecord, serviceLabels, serviceTypeLabels,
      List.length_cons, List.length_nil]
    omega
  · rw [mdnsAddTxtAnswer, mdnsBuildServiceDomain_name named, same.cacheFlush]
    rfl

theorem adding_serviceAnswers (host : mdns.Named) {service : MdnsService} (named : service.Named)
    (replies : ServReplies) :
    Adding fresh ctx 5 5 false (addServiceAnswers fresh mdns service replies)
      (serviceRecords mdns ctx.cacheFlush service replies) :=
  (adding_servicetypePtr named replies.typePtr).bind
    ((adding_servicenamePtr named replies.namePtr).bind
      ((adding_srv host named replies.srv false).bind (adding_txt named replies.txt false)))

theorem adding_serviceAdditional (host : mdns.Named) {service : MdnsService}
    (named : service.Named) (replies : ServReplies) :
    Adding fresh ctx 5 5 true (addServiceAdditional fresh netif mdns service replies)
      (additionalRecords netif mdns ctx.cacheFlush ctx.hostReplies service replies) := by
  have a : Adding fresh ctx 5 5 true (fun out =>
      addWhen ((replies.namePtr || replies.srv || out.hostReplies.a) && !out.hostReplies.a)
        (fun out => mdnsAddAAnswer fresh out out.cacheFlush netif mdns) countAdditional out) _ :=
    (adding_a host ((replies.namePtr || replies.srv || ctx.hostReplies.a) && !ctx.hostReplies.a)
      true (by omega) (by omega) (by omega)).congr fun out same => by rw [same.hostReplies]; rfl
  exact (adding_srv host named (replies.namePtr && !replies.srv) true).bind
    ((adding_txt named (replies.namePtr && !replies.txt) true).bind a)

end Replies

end LwipExt.Mdns
