import LwipExt.Mdns.Replies

/-!
What the multicast DNS responder sends.

When `mdns_send_outpacket` sends a packet, its reader finds in it the question of a legacy query
and exactly the selected records, in their order (`sent_reads`); and it sends one when they fit
without compression (`sent_of_fits`).
-/

namespace LwipExt.Mdns

/-- The questions of a packet are read, as those that were asked. -/
def QuestionsRead : MdnsPacket → List Asked → MdnsPacket → Prop
  | pkt, [], pkt' => pkt.questionsLeft = 0 ∧ pkt' = pkt
  | pkt, q :: qs, pkt' => ∃ next,
      mdnsReadQuestion pkt = (some ⟨⟨encodeName q.labels⟩, q.type, q.klass⟩, next) ∧
        QuestionsRead next qs pkt'

/-- A datagram that is received as these questions and these records. -/
def Received (bytes : Bytes) (asked : List Asked) (rs : List MdnsRecord) : Prop :=
  ∃ pkt, QuestionsRead (receivedPacket bytes) asked pkt ∧
    List.Forall₂ (ReadAs bytes) rs pkt.answers

theorem field_questionsLeft (pkt : MdnsPacket) (len : Nat) :
    (pkt.field len).2.questionsLeft = pkt.questionsLeft := by
  simp only [MdnsPacket.field]
  split <;> rfl

theorem mdnsReadRrInfo_questionsLeft (pkt : MdnsPacket) :
    (mdnsReadRrInfo pkt).2.questionsLeft = pkt.questionsLeft := by
  simp only [mdnsReadRrInfo]
  split
  · rfl
  have type := field_questionsLeft
    { pkt with parseOffset := (mdnsReadname pkt.pbuf pkt.parseOffset).1 } 2
  split
  next first => exact (congrArg (·.2.questionsLeft) first).symm.trans type
  next pkt₁ first =>
    have same := (congrArg (·.2.questionsLeft) first).symm.trans type
    have klass := field_questionsLeft pkt₁ 2
    split
    next second => exact ((congrArg (·.2.questionsLeft) second).symm.trans klass).trans same
    next second => exact ((congrArg (·.2.questionsLeft) second).symm.trans klass).trans same

/-- A question that was read is no longer left. -/
theorem questionsLeft_of_read {pkt next : MdnsPacket} {info : MdnsRrInfo}
    (read : mdnsReadQuestion pkt = (some info, next)) :
    pkt.questionsLeft = next.questionsLeft + 1 := by
  simp only [mdnsReadQuestion] at read
  split at read
  · cases read
  split at read
  · cases read
  next left =>
    have kept := mdnsReadRrInfo_questionsLeft { pkt with questionsLeft := pkt.questionsLeft - 1 }
    split at read
    · cases read
    next readInfo =>
      cases read
      have same := (congrArg (·.2.questionsLeft) readInfo).symm.trans kept
      simp only at same
      omega

/-- The reader of a response skips the questions. -/
theorem QuestionsRead.skipped {asked : List Asked} {pkt pkt' : MdnsPacket}
    (read : QuestionsRead pkt asked pkt') : skipQuestions pkt.questionsLeft pkt = some pkt' := by
  induction asked generalizing pkt with
  | nil =>
      obtain ⟨none_, rfl⟩ := read
      rw [none_]
      rfl
  | cons q qs ih =>
      obtain ⟨next, first, rest⟩ := read
      rw [questionsLeft_of_read first, skipQuestions, first]
      exact ih rest

section Reading

variable {limit : Nat} {v : Nat → Option UInt8}

/-- Questions that stand in a packet are read. -/
theorem questionsRead_of_questionsIn {asked : List Asked}
    (width : ∀ q ∈ asked, q.type < 65536 ∧ q.klass < 32768) (pkt : MdnsPacket)
    (below : Below v pkt.pbuf) (small : pkt.pbuf.length < mdnsReadnameError)
    (left : pkt.questionsLeft = asked.length) {stop : Nat}
    (stands : QuestionsIn limit v pkt.parseOffset asked stop) :
    QuestionsRead pkt asked { pkt with parseOffset := stop, questionsLeft := 0 } := by
  induction asked generalizing pkt with
  | nil =>
      obtain rfl : stop = pkt.parseOffset := stands
      obtain ⟨pbuf, parseOffset, questionsLeft, answersLeft⟩ := pkt
      cases left
      exact ⟨rfl, rfl⟩
  | cons q qs ih =>
      obtain ⟨mid, first, rest⟩ := stands
      obtain ⟨typed, classed⟩ := width q (.head _)
      obtain ⟨inWidth, klass, _⟩ := klassField_read classed false
      have info := mdnsReadRrInfo_of_questionIn
        { pkt with questionsLeft := pkt.questionsLeft - 1 } below small typed inWidth first
      have started : ¬ pkt.pbuf.length < pkt.parseOffset := by
        obtain ⟨nameStop, named, _, _⟩ := first
        have inside := (named.read below small).2
        obtain ⟨_, jumps, _, standing⟩ := named
        have := standing.stop_written.choose_spec.2
        omega
      rw [List.length_cons] at left
      refine ⟨{ pkt with parseOffset := mid, questionsLeft := pkt.questionsLeft - 1 }, ?_, ?_⟩
      · rw [mdnsReadQuestion, if_neg started, if_neg (by omega), info]
        simp only [klass]
      · exact ih (fun q' mem => width q' (.tail _ mem)) _ below small (by simp only; omega) rest

end Reading

/-- Every question takes a byte. -/
theorem length_le_of_questionsIn {limit : Nat} {v : Nat → Option UInt8} {asked : List Asked}
    {o stop : Nat} (stands : QuestionsIn limit v o asked stop) : o + asked.length ≤ stop := by
  induction asked generalizing o with
  | nil => exact Nat.le_of_eq (Eq.symm stands)
  | cons q qs ih =>
      obtain ⟨mid, ⟨nameStop, ⟨_, jumps, _, named⟩, _, rfl⟩, rest⟩ := stands
      have behind := named.stop_written.choose_spec.2
      have := ih rest
      rw [List.length_cons]
      omega

/-! ### The header -/

theorem length_replyHeader (out : MdnsOutpacket) : (replyHeader out).length = sizeofDnsHdr := by
  simp only [replyHeader, hton16]
  cases out.legacyQuery <;> rfl

/-- The bytes that are sent: the header in front of what was written. -/
def sentBytes (out : MdnsOutpacket) (p : Bytes) : Bytes :=
  (pbufTakeAt p (replyHeader out) 0).take out.writeOffset

theorem sentBytes_eq {out : MdnsOutpacket} {p : Bytes} (started : sizeofDnsHdr ≤ out.writeOffset)
    (inside : out.writeOffset ≤ p.length) :
    sentBytes out p = replyHeader out ++ (p.take out.writeOffset).drop sizeofDnsHdr := by
  have header := length_replyHeader out
  have size : sizeofDnsHdr = 12 := rfl
  have nonempty : replyHeader out ≠ [] := by
    intro empty
    rw [empty] at header
    cases header
  rw [sentBytes, pbufTakeAt_of_fits nonempty (by omega)]
  change (p.take 0 ++ replyHeader out ++ p.drop (0 + (replyHeader out).length)).take _ = _
  rw [header, List.take_zero, List.nil_append, Nat.zero_add, List.take_append,
    List.take_of_length_le (by omega), header, List.drop_take]

theorem below_sentBytes {limit depth : Nat} {v : Nat → Option UInt8} {p : Bytes}
    {offsets : List Nat} {out : MdnsOutpacket}
    (composed : Composed limit depth v p out.writeOffset offsets) : Below v (sentBytes out p) := by
  intro i b at_
  obtain ⟨behind, before⟩ := composed.body i b at_
  have header := length_replyHeader out
  have here := composed.below i b at_
  rw [sentBytes_eq composed.started composed.inside,
    List.getElem?_append_right (by omega), header, List.getElem?_drop,
    Nat.add_sub_cancel' behind, List.getElem?_take_of_lt before, here]

theorem receivedPacket_sentBytes {out : MdnsOutpacket} {p : Bytes}
    (started : sizeofDnsHdr ≤ out.writeOffset) (inside : out.writeOffset ≤ p.length)
    (fits : out.answers + out.additional < 65536) :
    receivedPacket (sentBytes out p) =
      ⟨sentBytes out p, sizeofDnsHdr, if out.legacyQuery then 1 else 0,
        out.answers + out.additional⟩ := by
  obtain ⟨rest, split⟩ : ∃ rest, sentBytes out p = replyHeader out ++ rest :=
    ⟨_, sentBytes_eq started inside⟩
  have questions : bufRead (sentBytes out p) 4 2 = hton16 (if out.legacyQuery then 1 else 0) := by
    rw [split, replyHeader]
    cases out.legacyQuery <;> rfl
  have answers : bufRead (sentBytes out p) 6 2 = hton16 out.answers := by
    rw [split, replyHeader]
    cases out.legacyQuery <;> rfl
  have authority : bufRead (sentBytes out p) 8 2 = [0, 0] := by
    rw [split, replyHeader]
    cases out.legacyQuery <;> rfl
  have additional : bufRead (sentBytes out p) 10 2 = hton16 out.additional := by
    rw [split, replyHeader]
    cases out.legacyQuery <;> rfl
  have none_ : ntoh [0, 0] = 0 := rfl
  rw [receivedPacket, questions, answers, authority, additional, ntoh_hton16 (by split <;> omega),
    ntoh_hton16 (by omega), ntoh_hton16 (by omega), none_, Nat.add_zero, u16_of_lt fits]

/-! ### Sending -/

section Sending

variable {fresh : Option Bytes} {netif : Netif} {mdns : MdnsHost} {outpkt : MdnsOutpacket}

/-- The answers of `mdns_send_outpacket`, and its additional records. -/
def addAnswers (fresh : Option Bytes) (netif : Netif) (mdns : MdnsHost) (out : MdnsOutpacket) :
    Option MdnsOutpacket := do
  let out ← addHostAnswers fresh netif mdns out
  forServices (addServiceAnswers fresh mdns) mdns.services out.servReplies out

def addAdditional (fresh : Option Bytes) (netif : Netif) (mdns : MdnsHost) (out : MdnsOutpacket) :
    Option MdnsOutpacket :=
  forServices (addServiceAdditional fresh netif mdns) mdns.services out.servReplies out

/-- The records of the answers to `outpkt`, and of the additional ones. -/
def answerRecords (netif : Netif) (mdns : MdnsHost) (out : MdnsOutpacket) : List MdnsRecord :=
  hostRecords netif mdns out.cacheFlush out.hostReplies ++
    recordsOf (serviceRecords mdns out.cacheFlush) mdns.services out.servReplies

def extraRecords (netif : Netif) (mdns : MdnsHost) (out : MdnsOutpacket) : List MdnsRecord :=
  recordsOf (additionalRecords netif mdns out.cacheFlush out.hostReplies) mdns.services
    out.servReplies

theorem adding_answers (named : mdns.Named) :
    Adding fresh outpkt 1 5 false (addAnswers fresh netif mdns)
      (answerRecords netif mdns outpkt) := by
  have services : Adding fresh outpkt 5 5 false
      (fun out => forServices (addServiceAnswers fresh mdns) mdns.services out.servReplies out) _ :=
    (Adding.services (fun service mem replies =>
      adding_serviceAnswers named (named.services service mem) replies) outpkt.servReplies).congr
      fun out same => by rw [same.servReplies]
  exact (adding_hostAnswers named).bind services

theorem adding_additional (named : mdns.Named) :
    Adding fresh outpkt 5 5 true (addAdditional fresh netif mdns)
      (extraRecords netif mdns outpkt) :=
  (Adding.services (fun service mem replies =>
    adding_serviceAdditional named (named.services service mem) replies) outpkt.servReplies).congr
    fun out same => by rw [addAdditional, same.servReplies]

/-- What is handed over of a packet. -/
def handedOver (out : MdnsOutpacket) : Option MdnsSent :=
  out.pbuf.map fun p =>
    if out.unicastReply then ⟨sentBytes out p, out.destAddr, out.destPort⟩
    else ⟨sentBytes out p, mdnsV4Group, mdnsPort⟩

theorem mdnsSendOutpacket_eq : mdnsSendOutpacket fresh netif mdns outpkt =
    ((addAnswers fresh netif mdns outpkt).bind (addAdditional fresh netif mdns)).bind
      handedOver := by
  have last : handedOver = fun out : MdnsOutpacket => out.pbuf.bind fun p =>
      let bytes := (pbufTakeAt p (replyHeader out) 0).take out.writeOffset
      if out.unicastReply then some ⟨bytes, out.destAddr, out.destPort⟩
      else some ⟨bytes, mdnsV4Group, mdnsPort⟩ := by
    funext out
    rw [handedOver]
    cases out.pbuf with
    | none => rfl
    | some p => cases out.unicastReply <;> rfl
  rw [mdnsSendOutpacket, addAnswers, last]
  simp only [Option.bind_eq_bind, Option.bind_assoc, addAdditional]

/-- What the steps of `mdns_send_outpacket` make of a packet. -/
theorem sending_records (named : mdns.Named) {asked : List Asked} {out : MdnsOutpacket}
    (start : Sending fresh outpkt 1 asked [] 0 0 outpkt)
    (added : (addAnswers fresh netif mdns outpkt).bind (addAdditional fresh netif mdns) =
      some out) :
    Sending fresh outpkt 5 asked (replyRecords netif mdns outpkt)
      (answerRecords netif mdns outpkt).length (extraRecords netif mdns outpkt).length out := by
  obtain ⟨mid, answered, extra⟩ := Option.bind_eq_some_iff.mp added
  have first := (adding_answers named asked [] 0 0 outpkt start).1 mid answered
  have last := (adding_additional named _ _ _ _ _ first).1 out extra
  have records : replyRecords netif mdns outpkt =
      [] ++ answerRecords netif mdns outpkt ++ extraRecords netif mdns outpkt := by
    rw [replyRecords, answerRecords, extraRecords, List.nil_append, List.append_assoc]
  simp only [Bool.false_eq_true, if_false, if_true, Nat.zero_add] at last
  rw [records]
  exact last

theorem mem_recordWhen {selected : Bool} {r r' : MdnsRecord} (mem : r' ∈ recordWhen selected r) :
    r' = r := by
  cases selected with
  | false => cases mem
  | true => exact List.mem_singleton.mp mem

theorem mem_recordsOf {records : MdnsService → ServReplies → List MdnsRecord} {r : MdnsRecord}
    {services : List (Option MdnsService)} {replies : List ServReplies}
    (mem : r ∈ recordsOf records services replies) :
    ∃ service, some service ∈ services ∧ ∃ selected, r ∈ records service selected := by
  induction services generalizing replies with
  | nil => cases mem
  | cons slot services ih =>
      cases slot with
      | none =>
          obtain ⟨service, mem, rest⟩ := ih mem
          exact ⟨service, .tail _ mem, rest⟩
      | some service =>
          rcases List.mem_append.mp mem with here | later
          · exact ⟨service, .head _, _, here⟩
          · obtain ⟨service, mem, rest⟩ := ih later
            exact ⟨service, .tail _ mem, rest⟩

theorem plain_replyRecords (named : mdns.Named) {r : MdnsRecord}
    (mem : r ∈ replyRecords netif mdns outpkt) : r.Plain := by
  rcases List.mem_append.mp mem with host | services
  · rcases List.mem_append.mp host with a | ptr
    · rw [mem_recordWhen a]
      exact plain_aRecord named _ _
    · rw [mem_recordWhen ptr]
      exact plain_hostv4PtrRecord named _ _
  rcases List.mem_append.mp services with answer | extra
  · obtain ⟨service, slot, replies, mem⟩ := mem_recordsOf answer
    have each := named.services service slot
    simp only [serviceRecords, List.mem_append] at mem
    rcases mem with type | name | srv | txt
    · rw [mem_recordWhen type]
      exact plain_servicetypePtrRecord each
    · rw [mem_recordWhen name]
      exact plain_servicenamePtrRecord each
    · rw [mem_recordWhen srv]
      exact plain_srvRecord named each _
    · rw [mem_recordWhen txt]
      exact plain_txtRecord each _
  · obtain ⟨service, slot, replies, mem⟩ := mem_recordsOf extra
    have each := named.services service slot
    simp only [additionalRecords, List.mem_append] at mem
    rcases mem with srv | txt | a
    · rw [mem_recordWhen srv]
      exact plain_srvRecord named each _
    · rw [mem_recordWhen txt]
      exact plain_txtRecord each _
    · rw [mem_recordWhen a]
      exact plain_aRecord named _ _

/-- What is sent is received as the records of the reply. -/
theorem received_of_sent (named : mdns.Named) {asked : List Asked}
    (width : ∀ q ∈ asked, q.type < 65536 ∧ q.klass < 32768)
    (legacy : asked.length = if outpkt.legacyQuery then 1 else 0)
    (start : Sending fresh outpkt 1 asked [] 0 0 outpkt) {sent : MdnsSent}
    (sends : mdnsSendOutpacket fresh netif mdns outpkt = some sent) :
    Received sent.bytes asked (replyRecords netif mdns outpkt) := by
  rw [mdnsSendOutpacket_eq] at sends
  obtain ⟨out, added, handed⟩ := Option.bind_eq_some_iff.mp sends
  have sending := sending_records named start added
  obtain ⟨depth, _, packed⟩ := sending.packed
  have few := packed.length_le
  obtain ⟨v, p, w, offsets, mid, body, composed, questions, answers, size⟩ := packed
  obtain ⟨p', allocated, rfl⟩ := Option.map_eq_some_iff.mp handed
  have same : (p', out.writeOffset, out.domainOffsets) = (p, w, offsets) := by
    rw [MdnsOutpacket.body, allocated] at body
    exact Option.some.inj body
  cases same
  have bytes : (if out.unicastReply then ⟨sentBytes out p, out.destAddr, out.destPort⟩
      else ⟨sentBytes out p, mdnsV4Group, mdnsPort⟩ : MdnsSent).bytes = sentBytes out p := by
    split <;> rfl
  rw [bytes]
  have size500 : outpacketSize = 500 := rfl
  have error : mdnsReadnameError = 65535 := rfl
  have counted := sending.counted
  have below := below_sentBytes composed
  have small : (sentBytes out p).length < mdnsReadnameError := by
    have inside := composed.inside
    rw [composed.size] at inside
    have short := List.length_take_le out.writeOffset (pbufTakeAt p (replyHeader out) 0)
    rw [sentBytes]
    omega
  have packet := receivedPacket_sentBytes composed.started composed.inside
    (by rw [sending.answers_eq, sending.additional_eq]; omega)
  rw [sending.answers_eq, sending.additional_eq, counted, sending.same.legacyQuery,
    ← legacy] at packet
  refine ⟨{ receivedPacket (sentBytes out p) with parseOffset := mid, questionsLeft := 0 }, ?_, ?_⟩
  · apply questionsRead_of_questionsIn width
    · exact below
    · exact small
    · rw [packet]
    · rw [packet]
      exact questions
  · exact readAnswers_of_answersIn (fun r mem => (plain_replyRecords named mem).width)
      { receivedPacket (sentBytes out p) with parseOffset := mid, questionsLeft := 0 } below small
      rfl (by rw [packet]) answers

/-- A packet that holds something is allocated. -/
theorem Packed.allocated {depth : Nat} {asked : List Asked} {rs : List MdnsRecord}
    {out : MdnsOutpacket} (packed : Packed fresh depth asked rs out)
    (some_ : asked ≠ [] ∨ rs ≠ []) : ∃ p, out.pbuf = some p := by
  obtain ⟨v, p, w, offsets, mid, body, composed, questions, answers, size⟩ := packed
  cases allocated : out.pbuf with
  | some p => exact ⟨p, rfl⟩
  | none =>
      have started : w = sizeofDnsHdr := by
        rw [MdnsOutpacket.body, allocated] at body
        obtain ⟨_, _, same⟩ := Option.map_eq_some_iff.mp body
        cases same
        rfl
      have behind := length_le_of_questionsIn questions
      have ends := length_le_of_answersIn answers
      rcases some_ with some_ | some_
      · have := List.length_pos_of_ne_nil some_
        omega
      · have := List.length_pos_of_ne_nil some_
        omega

/-- A reply is sent when its records fit. -/
theorem sent_of_fits (named : mdns.Named) {asked : List Asked}
    (start : Sending fresh outpkt 1 asked [] 0 0 outpkt)
    (some_ : asked ≠ [] ∨ replyRecords netif mdns outpkt ≠ [])
    (sized : ∀ r ∈ replyRecords netif mdns outpkt, r.Sized)
    (fits : sizeofDnsHdr + askedLength asked + recordsLength (replyRecords netif mdns outpkt) ≤
      outpacketSize) :
    (mdnsSendOutpacket fresh netif mdns outpkt).isSome := by
  have records : replyRecords netif mdns outpkt =
      answerRecords netif mdns outpkt ++ extraRecords netif mdns outpkt := by
    rw [replyRecords, answerRecords, extraRecords, List.append_assoc]
  have rooms := fits
  rw [records] at rooms sized
  rw [recordsLength_append] at rooms
  obtain ⟨grown, accepted, _⟩ := adding_answers named asked [] 0 0 outpkt start
  obtain ⟨mid, answered⟩ := Option.isSome_iff_exists.mp
    (accepted (by rw [List.nil_append]; omega) fun r mem => sized r (List.mem_append_left _ mem))
  obtain ⟨out, extra⟩ := Option.isSome_iff_exists.mp
    ((adding_additional named _ _ _ _ _ (grown mid answered)).2.1
      (by rw [List.nil_append, ← records]; exact fits)
      fun r mem => sized r (List.mem_append_right _ mem))
  have added : (addAnswers fresh netif mdns outpkt).bind (addAdditional fresh netif mdns) =
      some out := by rw [answered]; exact extra
  rw [mdnsSendOutpacket_eq, added]
  obtain ⟨depth, _, packed⟩ := (sending_records named start added).packed
  obtain ⟨p, allocated⟩ := packed.allocated some_
  rw [Option.bind_some, handedOver, allocated]
  rfl

/-- Without a record, what was there is handed over. -/
theorem idle_of_nil (named : mdns.Named) {asked : List Asked}
    (start : Sending fresh outpkt 1 asked [] 0 0 outpkt)
    (none_ : replyRecords netif mdns outpkt = []) :
    mdnsSendOutpacket fresh netif mdns outpkt = handedOver outpkt := by
  rw [replyRecords, ← List.append_assoc] at none_
  obtain ⟨answers, extra⟩ := List.append_eq_nil_iff.mp none_
  obtain ⟨grown, _, idle⟩ := adding_answers named asked [] 0 0 outpkt start
  have first := idle answers
  have second := (adding_additional named _ _ _ _ _ (grown outpkt first)).2.2 extra
  rw [mdnsSendOutpacket_eq, first, Option.bind_some, second, Option.bind_some]

/-- Where a reply goes, and how it starts. -/
theorem destination_of_sent (named : mdns.Named) {asked : List Asked}
    (start : Sending fresh outpkt 1 asked [] 0 0 outpkt) {sent : MdnsSent}
    (sends : mdnsSendOutpacket fresh netif mdns outpkt = some sent) :
    (sent.addr, sent.port) =
        (if outpkt.unicastReply then (outpkt.destAddr, outpkt.destPort)
          else (mdnsV4Group, mdnsPort)) ∧
      sent.bytes.take 4 = (if outpkt.legacyQuery then hton16 outpkt.txId else [0, 0]) ++ [0x84, 0] := by
  rw [mdnsSendOutpacket_eq] at sends
  obtain ⟨out, added, handed⟩ := Option.bind_eq_some_iff.mp sends
  have sending := sending_records named start added
  obtain ⟨p, allocated, rfl⟩ := Option.map_eq_some_iff.mp handed
  obtain ⟨depth, _, v, q, w, offsets, mid, body, composed, rest⟩ := sending.packed
  have same : (p, out.writeOffset, out.domainOffsets) = (q, w, offsets) := by
    rw [MdnsOutpacket.body, allocated] at body
    exact Option.some.inj body
  cases same
  have unicast := congrArg MdnsOutpacket.unicastReply sending.same
  have addr := congrArg MdnsOutpacket.destAddr sending.same
  have port := congrArg MdnsOutpacket.destPort sending.same
  have legacy := congrArg MdnsOutpacket.legacyQuery sending.same
  have id := congrArg MdnsOutpacket.txId sending.same
  simp only at unicast addr port legacy id
  have front : (sentBytes out p).take 4 =
      (if out.legacyQuery then hton16 out.txId else [0, 0]) ++ [0x84, 0] := by
    rw [sentBytes_eq composed.started composed.inside, replyHeader]
    cases out.legacyQuery <;> rfl
  rw [legacy, id] at front
  rw [unicast, addr, port]
  cases outpkt.unicastReply <;> exact ⟨rfl, front⟩

end Sending

/-! ### Where a reply starts -/

/-- A reply that is not written yet. -/
structure Blank (out : MdnsOutpacket) : Prop where
  pbuf : out.pbuf = none
  answers : out.answers = 0
  additional : out.additional = 0
  offsets : ∀ o ∈ out.domainOffsets, o = 0

theorem Blank.packed {out : MdnsOutpacket} (blank : Blank out) {p : Bytes}
    (size : p.length = outpacketSize) : Packed (some p) 0 [] [] out := by
  have limit : outpacketSize = 500 := rfl
  have header : sizeofDnsHdr = 12 := rfl
  refine ⟨fun _ => none, p, sizeofDnsHdr, out.domainOffsets, sizeofDnsHdr, ?_, ?_, rfl, rfl,
    Nat.le_refl _⟩
  · rw [MdnsOutpacket.body, blank.pbuf]
    rfl
  · exact { size, below := fun _ _ other => (by cases other),
            body := fun _ _ other => (by cases other), started := Nat.le_refl _,
            inside := (by omega), names := fun o mem nonzero => absurd (blank.offsets o mem) nonzero }

theorem Blank.start {out : MdnsOutpacket} (blank : Blank out) {p : Bytes}
    (size : p.length = outpacketSize) : Sending (some p) out 1 [] [] 0 0 out where
  packed := ⟨0, Nat.zero_le 1, blank.packed size⟩
  same := rfl
  answers_eq := blank.answers
  additional_eq := blank.additional
  counted := rfl

/-! ### Without memory -/

/-- A step that leaves a packet without a pbuf. -/
def Bare (step : MdnsOutpacket → Option MdnsOutpacket) : Prop :=
  ∀ out out', out.pbuf = none → step out = some out' → out'.pbuf = none

theorem Bare.when {add : MdnsOutpacket → MdnsOutpacket × Bool} {count : MdnsOutpacket → MdnsOutpacket}
    (selected : MdnsOutpacket → Bool) (fails : ∀ out, out.pbuf = none → (add out).2 = false) :
    Bare fun out => addWhen (selected out) add count out := by
  intro out out' bare stepped
  simp only [addWhen] at stepped
  split at stepped
  · have failed := fails out bare
    split at stepped
    · cases stepped
    next added =>
      rw [added] at failed
      cases failed
  · cases stepped
    exact bare

theorem Bare.bind {step step' : MdnsOutpacket → Option MdnsOutpacket} (first : Bare step)
    (second : Bare step') : Bare fun out => step out >>= step' := by
  intro out out' bare stepped
  obtain ⟨mid, one, two⟩ := Option.bind_eq_some_iff.mp stepped
  exact second mid out' (first out mid bare one) two

theorem Bare.services {add : MdnsService → ServReplies → MdnsOutpacket → Option MdnsOutpacket}
    (each : ∀ service replies, Bare (add service replies)) (services : List (Option MdnsService))
    (replies : List ServReplies) : Bare (forServices add services replies) := by
  induction services generalizing replies with
  | nil =>
      intro out out' bare stepped
      cases stepped
      exact bare
  | cons slot services ih =>
      intro out out' bare stepped
      cases slot with
      | none => exact ih replies.tail out out' bare stepped
      | some service =>
          rw [forServices] at stepped
          split at stepped
          · cases stepped
          next mid one =>
            exact ih replies.tail mid out' (each service _ out mid bare one) stepped

theorem mdnsAddAnswer_bare (out : MdnsOutpacket) (bare : out.pbuf = none) (domain : MdnsDomain)
    (type klass : Nat) (flush : Bool) (ttl : Nat) (buf : Option Bytes) (name : Option MdnsName) :
    (mdnsAddAnswer none out domain type klass flush ttl buf name).2 = false := by
  have same : out.allocated none = out := by
    cases allocated : out.pbuf <;> simp [MdnsOutpacket.allocated]
  rw [mdnsAddAnswer, same]
  simp only [bare]

/-- Without memory for a packet, nothing is sent. -/
theorem mdnsSendOutpacket_bare (netif : Netif) (mdns : MdnsHost) {out : MdnsOutpacket}
    (bare : out.pbuf = none) : mdnsSendOutpacket none netif mdns out = none := by
  have answers : Bare (addAnswers none netif mdns) := by
    refine ((Bare.when (fun out => out.hostReplies.a) fun out bare =>
      mdnsAddAnswer_bare out bare ..).bind (Bare.when (fun out => out.hostReplies.ptrV4)
        fun out bare => mdnsAddAnswer_bare out bare ..)).bind fun out out' bare stepped => ?_
    refine Bare.services (fun service replies => ?_) mdns.services out.servReplies out out' bare
      stepped
    exact (Bare.when _ fun out bare => mdnsAddAnswer_bare out bare ..).bind
      ((Bare.when _ fun out bare => mdnsAddAnswer_bare out bare ..).bind
        ((Bare.when _ fun out bare => mdnsAddAnswer_bare out bare ..).bind
          (Bare.when _ fun out bare => mdnsAddAnswer_bare out bare ..)))
  have extra : Bare (addAdditional none netif mdns) := by
    intro out out' bare stepped
    refine Bare.services (fun service replies => ?_) mdns.services out.servReplies out out' bare
      stepped
    exact (Bare.when _ fun out bare => mdnsAddAnswer_bare out bare ..).bind
      ((Bare.when _ fun out bare => mdnsAddAnswer_bare out bare ..).bind
        (Bare.when (fun out => (replies.namePtr || replies.srv || out.hostReplies.a) &&
          !out.hostReplies.a) fun out bare => mdnsAddAnswer_bare out bare ..))
  rw [mdnsSendOutpacket_eq]
  cases added : (addAnswers none netif mdns out).bind (addAdditional none netif mdns) with
  | none => rfl
  | some out' =>
      have still := (answers.bind extra) out out' bare added
      rw [Option.bind_some, handedOver, still]
      rfl

end LwipExt.Mdns
