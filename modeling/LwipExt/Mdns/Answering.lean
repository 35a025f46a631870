import LwipExt.Mdns.Selection

/-!
How the multicast DNS responder answers a query.

A query that can be read is its questions and its known answers (`readQuery`). What
`mdns_handle_question` sends is received as the records that a question asks for and no known
answer supplies, and the additional ones of their services (`mdnsHandleQuestion_answers`); it sends
it when they fit (`mdnsHandleQuestion_sends`), and nothing for a query that cannot be read.
-/

namespace LwipExt.Mdns

/-! ### Queries -/

/-- The questions of a query, each with its flag for a unicast reply; `none` when one cannot be
read. -/
def questionsOf : Nat → MdnsPacket → Option (List (MdnsRrInfo × Bool) × MdnsPacket)
  | 0, pkt => some ([], pkt)
  | left + 1, pkt =>
      match mdnsReadQuestionFlag pkt with
      | (none, _) => none
      | (some question, pkt) =>
          (questionsOf left pkt).map fun (questions, pkt) => (question :: questions, pkt)

/-- The known answers of a query; `none` when one cannot be read. -/
def knownOf : Nat → MdnsPacket → Option (List MdnsAnswer)
  | 0, _ => some []
  | left + 1, pkt =>
      match mdnsReadAnswer pkt with
      | (none, _) => none
      | (some ans, pkt) => (knownOf left pkt).map (ans :: ·)

/-- A query as its questions and known answers. -/
structure ReadQuery where
  questions : List (MdnsRrInfo × Bool)
  known : List MdnsAnswer
  deriving DecidableEq, Repr

/-- What is read of a query. -/
def readQuery (pkt : MdnsPacket) : Option ReadQuery :=
  (questionsOf pkt.questionsLeft pkt).bind fun (questions, pkt) =>
    (knownOf pkt.answersLeft pkt).map (ReadQuery.mk questions)

/-- A record that some question asks for and no known answer supplies. -/
def ReadQuery.wants (p : Bytes) (query : ReadQuery) (r : MdnsRecord) : Bool :=
  (query.questions.any fun question => decide (Asks question.1 r)) &&
    !query.known.any fun ans => decide (Supplies p ans r)

/-! ### Reading on -/

theorem mdnsReadQuestionFlag_pbuf (pkt : MdnsPacket) :
    (mdnsReadQuestionFlag pkt).2.pbuf = pkt.pbuf := by
  simp only [mdnsReadQuestionFlag]
  split
  · rfl
  split
  · rfl
  have kept := mdnsReadRrInfo_pbuf { pkt with questionsLeft := pkt.questionsLeft - 1 }
  split
  next read => exact (congrArg (·.2.pbuf) read).symm.trans kept
  next read => exact (congrArg (·.2.pbuf) read).symm.trans kept

/-- The field behind a parse offset is in the packet. -/
theorem inside_of_field {pkt next : MdnsPacket} {len value : Nat} (some_ : len ≠ 0)
    (small : pkt.pbuf.length < 65536) (read : pkt.field len = (some value, next)) :
    next.parseOffset ≤ next.pbuf.length := by
  rw [MdnsPacket.field] at read
  split at read
  · cases read
  next whole =>
    cases read
    simp only [pbufCopyPartial, List.length_take, List.length_drop, ne_eq, not_not] at whole
    have inside : pkt.parseOffset + len ≤ pkt.pbuf.length := by omega
    simp only
    rw [u16_of_lt (by omega)]
    exact inside

/-- The data of an answer that was read start in the packet. -/
theorem inside_of_read {pkt next : MdnsPacket} {ans : MdnsAnswer} (small : pkt.pbuf.length < 65536)
    (read : mdnsReadAnswer pkt = (some ans, next)) : ans.rdOffset ≤ pkt.pbuf.length := by
  simp only [mdnsReadAnswer] at read
  split at read
  · cases read
  split at read
  · cases read
  split at read
  · cases read
  have kept := mdnsReadRrInfo_pbuf { pkt with answersLeft := pkt.answersLeft - 1 }
  split at read
  · cases read
  next pkt₁ info =>
    have same : pkt₁.pbuf = pkt.pbuf := (congrArg (·.2.pbuf) info).symm.trans kept
    split at read
    · cases read
    next pkt₂ ttl =>
      have same : pkt₂.pbuf = pkt.pbuf :=
        ((congrArg (·.2.pbuf) ttl).symm.trans (field_pbuf pkt₁ 4)).trans same
      split at read
      · cases read
      next pkt₃ length =>
        have inside := inside_of_field (by omega) (by rw [same]; exact small) length
        have same : pkt₃.pbuf = pkt.pbuf :=
          ((congrArg (·.2.pbuf) length).symm.trans (field_pbuf pkt₂ 2)).trans same
        cases read
        rw [same] at inside
        exact inside

/-! ### The loops -/

section Loops

variable {netif : Netif} {mdns : MdnsHost} {flush : Bool}

/-- Only the bits of a reply, and whether it is unicast, were changed. -/
def Decided (reply : MdnsOutpacket) (unicast : Bool) (reply' : MdnsOutpacket) : Prop :=
  { reply' with hostReplies := reply.hostReplies, servReplies := reply.servReplies } =
    { reply with unicastReply := reply.unicastReply || unicast }

/-- The loop over the questions of a query that is not a legacy one. -/
theorem readQuestions_selects (fresh : Option Bytes) (named : mdns.Named) (left : Nat)
    (pkt : MdnsPacket)
    {reply : MdnsOutpacket} {test : MdnsRecord → Bool} (legacy : reply.legacyQuery = false)
    (selects : Selects netif mdns flush test reply) :
    (questionsOf left pkt = none → readQuestions fresh netif mdns left pkt reply = none) ∧
    ∀ questions pkt', questionsOf left pkt = some (questions, pkt') → ∃ reply',
      readQuestions fresh netif mdns left pkt reply = some (pkt', reply') ∧
        pkt'.pbuf = pkt.pbuf ∧
        Selects netif mdns flush (fun r => test r || questions.any fun q => decide (Asks q.1 r))
          reply' ∧
        Decided reply (questions.any fun q => q.2) reply' := by
  induction left generalizing pkt reply test with
  | zero =>
      refine ⟨fun other => (by cases other), fun questions pkt' read => ?_⟩
      cases read
      refine ⟨reply, rfl, rfl, ?_, ?_⟩
      · simpa using selects
      · simp [Decided]
  | succ left ih =>
      have kept := mdnsReadQuestionFlag_pbuf pkt
      rcases first : mdnsReadQuestionFlag pkt with ⟨_ | ⟨info, unicast⟩, next⟩
      · simp only [questionsOf, readQuestions, first]
        exact ⟨fun _ => trivial, fun _ _ other => (by cases other)⟩
      · rw [first] at kept
        let asked := selectReplies netif mdns info
          { reply with unicastReply := reply.unicastReply || unicast }
        have bits := selects.question named info
        have selected : Selects netif mdns flush (fun r => test r || decide (Asks info r)) asked :=
          ⟨bits.host, bits.services⟩
        have others : asked.legacyQuery = false := legacy
        obtain ⟨refused, reads⟩ := ih next others selected
        have plain : (asked.selected && asked.legacyQuery) = false := by
          rw [Bool.and_eq_false_imp]
          exact fun _ => legacy
        have step : readQuestions fresh netif mdns (left + 1) pkt reply =
            readQuestions fresh netif mdns left next asked := by
          simp only [readQuestions, first]
          exact if_neg (by rw [plain]; exact Bool.false_ne_true)
        have readStep : questionsOf (left + 1) pkt = (questionsOf left next).map
            fun (questions, pkt) => ((info, unicast) :: questions, pkt) := by
          simp only [questionsOf, first]
        rw [step, readStep]
        constructor
        · intro failed
          exact refused (Option.map_eq_none_iff.mp failed)
        · intro questions pkt' read
          obtain ⟨⟨others, last⟩, rest, same⟩ := Option.map_eq_some_iff.mp read
          cases same
          obtain ⟨reply', loop, pbuf, bits, decided⟩ := reads others pkt' rest
          refine ⟨reply', loop, pbuf.trans kept, ?_, ?_⟩
          · simpa [Bool.or_assoc] using bits
          · have unfolded : { reply' with
                hostReplies := asked.hostReplies, servReplies := asked.servReplies } =
                { asked with unicastReply := asked.unicastReply || others.any fun q => q.2 } :=
              decided
            rw [Decided, List.any_cons, ← Bool.or_assoc]
            have replies := congrArg (fun out : MdnsOutpacket =>
              { out with hostReplies := reply.hostReplies, servReplies := reply.servReplies }) unfolded
            exact replies

/-- The loop over the known answers. -/
theorem readKnownAnswers_selects (named : mdns.Named) (left : Nat) (pkt : MdnsPacket)
    (small : pkt.pbuf.length < 65536) {reply : MdnsOutpacket} {test : MdnsRecord → Bool}
    (selects : Selects netif mdns flush test reply) :
    (knownOf left pkt = none → readKnownAnswers netif mdns left pkt reply = none) ∧
    ∀ known, knownOf left pkt = some known → ∃ reply',
      readKnownAnswers netif mdns left pkt reply = some reply' ∧
        Selects netif mdns flush
          (fun r => test r && !known.any fun ans => decide (Supplies pkt.pbuf ans r)) reply' ∧
        Decided reply false reply' := by
  induction left generalizing pkt reply test with
  | zero =>
      refine ⟨fun other => (by cases other), fun known read => ?_⟩
      cases read
      refine ⟨reply, rfl, ?_, ?_⟩
      · simpa using selects
      · simp [Decided]
  | succ left ih =>
      have kept := mdnsReadAnswer_pbuf pkt
      rcases first : mdnsReadAnswer pkt with ⟨_ | ans, next⟩
      · simp only [knownOf, readKnownAnswers, first]
        exact ⟨fun _ => trivial, fun _ other => (by cases other)⟩
      · rw [first] at kept
        have same : next.pbuf = pkt.pbuf := kept
        have selected := selects.known named small ans (inside_of_read small first)
        obtain ⟨refused, reads⟩ := ih next (by rw [same]; exact small) selected
        have step : readKnownAnswers netif mdns (left + 1) pkt reply =
            readKnownAnswers netif mdns left next (withdrawKnown netif mdns pkt.pbuf reply ans) := by
          simp only [readKnownAnswers, first]
        have readStep : knownOf (left + 1) pkt = (knownOf left next).map (ans :: ·) := by
          simp only [knownOf, first]
        rw [step, readStep]
        constructor
        · intro failed
          exact refused (Option.map_eq_none_iff.mp failed)
        · intro known read
          obtain ⟨others, rest, rfl⟩ := Option.map_eq_some_iff.mp read
          obtain ⟨reply', loop, bits, decided⟩ := reads others rest
          refine ⟨reply', loop, ?_, ?_⟩
          · rw [same] at bits
            simpa [Bool.and_assoc] using bits
          · have withdrawn : Decided reply false (withdrawKnown netif mdns pkt.pbuf reply ans) := by
              rw [withdrawKnown, Decided, Bool.or_false]
              split <;> rfl
            rw [Decided, Bool.or_false] at decided withdrawn ⊢
            have replies := congrArg (fun out : MdnsOutpacket =>
              { out with hostReplies := reply.hostReplies, servReplies := reply.servReplies }) decided
            exact replies.trans withdrawn

theorem selected_eq {reply : MdnsOutpacket} {test : MdnsRecord → Bool}
    (selects : Selects netif mdns flush test reply) :
    reply.selected = (ownRecords netif mdns flush).any test := by
  rw [MdnsOutpacket.selected, selects.host, selects.services, ownRecords, List.any_append,
    List.any_map, List.any_flatMap]
  congr 1
  · rw [hostMask, HostReplies.any]
    split
    next address => simp [address]
    next address => simp [address]
  · congr 1
    funext slot
    cases slot with
    | none => rfl
    | some service => simp [slotMask, serviceMask, slotRecords, ServReplies.any, Bool.or_assoc]

theorem plain_ownRecords (named : mdns.Named) {r : MdnsRecord}
    (mem : r ∈ ownRecords netif mdns flush) : r.Plain := by
  rcases List.mem_append.mp mem with host | services
  · split at host
    · simp only [List.mem_cons, List.not_mem_nil, or_false] at host
      rcases host with rfl | rfl
      · exact plain_aRecord named _ _
      · exact plain_hostv4PtrRecord named _ _
    · cases host
  · obtain ⟨slot, slotMem, mem⟩ := List.mem_flatMap.mp services
    cases slot with
    | none => cases mem
    | some service =>
        have each := named.services service slotMem
        simp only [slotRecords, List.mem_cons, List.not_mem_nil, or_false] at mem
        rcases mem with rfl | rfl | rfl | rfl
        · exact plain_servicetypePtrRecord each
        · exact plain_servicenamePtrRecord each
        · exact plain_srvRecord named each _
        · exact plain_txtRecord each _

end Loops

/-! ### The question of a legacy query -/

/-- A question as it is read. -/
def Asked.info (q : Asked) : MdnsRrInfo := ⟨⟨encodeName q.labels⟩, q.type, q.klass⟩

theorem mdnsAddQuestion_allocated (fresh : Option Bytes) (out : MdnsOutpacket)
    (domain : MdnsDomain) (type klass : Nat) (unicast : Bool) :
    mdnsAddQuestion fresh (out.allocated fresh) domain type klass unicast =
      mdnsAddQuestion fresh out domain type klass unicast := by
  have idem : (out.allocated fresh).allocated fresh = out.allocated fresh := by
    obtain ⟨pbuf, writeOffset⟩ := out
    cases pbuf <;> cases fresh <;> rfl
  rw [mdnsAddQuestion, mdnsAddQuestion, idem]

/-- The question that a record of the responder is selected for goes into the reply. -/
theorem mdnsAddQuestion_blank {out : MdnsOutpacket} (blank : Blank out) {p : Bytes}
    (size : p.length = outpacketSize) {labels : List Bytes} (plain : Plain labelLimit labels)
    (type klass : Nat) :
    ∃ p' w offsets, mdnsAddQuestion (some p) out ⟨encodeName labels⟩ type klass false =
        (out.holding p' w offsets, true) ∧
      Packed (some p) 1 [⟨labels, type, klass⟩] [] (out.holding p' w offsets) := by
  obtain ⟨v, q, w, offsets, mid, body, composed, rfl, rfl, _⟩ := blank.packed size
  have header : sizeofDnsHdr = 12 := rfl
  have limit : outpacketSize = 500 := rfl
  have most : mdnsDomainMaxlen = 256 := rfl
  have fits := plain.fits
  have shallow : depthWith 0 labels ≤ 1 := by
    rw [depthWith]
    omega
  have length := length_encodeName labels
  obtain ⟨v', p', w', offsets', added, grown, question, reaches⟩ :=
    mdnsAddQuestion_grown composed (some p) out plain (by omega) type klass false
      (by rw [composed.size, length]; omega)
  rw [← mdnsAddQuestion_allocated, allocated_of_body body]
  refine ⟨p', w', offsets', added, v', p', w', offsets', w', rfl, grown.composed.deeper shallow,
    ⟨w', question, rfl⟩, rfl, ?_⟩
  simp only [askedLength, recordsLength, List.map_cons, List.map_nil, List.sum_cons, List.sum_nil]
  omega

/-! ### What a query asks for -/

/-- A query from another port than that of multicast DNS, with one question. -/
def MdnsQuery.legacy (query : MdnsQuery) : Bool :=
  decide (query.sourcePort ≠ mdnsPort) && decide (query.questions = 1)

/-- The flag of unique records in the reply. -/
def MdnsQuery.flush (query : MdnsQuery) : Bool := decide (query.sourcePort = mdnsPort)

/-- Whether the reply goes to the querier alone. -/
def MdnsQuery.unicast (query : MdnsQuery) (read : ReadQuery) : Bool :=
  decide (query.sourcePort ≠ mdnsPort) || query.recvUnicast || read.questions.any fun q => q.2

/-- The questions that are repeated in the reply. -/
def MdnsQuery.repeated (query : MdnsQuery) (read : ReadQuery) : List MdnsRrInfo :=
  if query.legacy then read.questions.map Prod.fst else []

/-- The records that a query is answered with, and the additional ones. -/
def MdnsQuery.answers (query : MdnsQuery) (netif : Netif) (mdns : MdnsHost) (read : ReadQuery) :
    List MdnsRecord :=
  (ownRecords netif mdns query.flush).filter (read.wants query.packet.pbuf)

def MdnsQuery.extras (query : MdnsQuery) (netif : Netif) (mdns : MdnsHost) (read : ReadQuery) :
    List MdnsRecord :=
  mdns.services.flatMap (slotExtras netif mdns query.flush (read.wants query.packet.pbuf))

/-- A reply to a query whose bits are set. -/
structure Prepared (netif : Netif) (mdns : MdnsHost) (query : MdnsQuery) (read : ReadQuery)
    (reply : MdnsOutpacket) : Prop where
  selects : Selects netif mdns query.flush (read.wants query.packet.pbuf) reply
  cacheFlush : reply.cacheFlush = query.flush
  legacy : reply.legacyQuery = query.legacy
  unicast : reply.unicastReply = query.unicast read
  addr : reply.destAddr = query.sourceAddr
  port : reply.destPort = query.sourcePort
  txId : query.legacy → reply.txId = query.txId

section Handling

variable {netif : Netif} {mdns : MdnsHost} {query : MdnsQuery}

/-- The reply before the first question. -/
def emptyReply (mdns : MdnsHost) (query : MdnsQuery) : MdnsOutpacket :=
  { mdnsInitOutpacket query with servReplies := mdns.services.map fun _ => {} }

theorem mdnsInitOutpacket_eq (query : MdnsQuery) : mdnsInitOutpacket query =
    { cacheFlush := query.flush
      destAddr := query.sourceAddr
      destPort := query.sourcePort
      unicastReply := decide (query.sourcePort ≠ mdnsPort) || query.recvUnicast
      legacyQuery := query.legacy
      txId := if query.legacy then query.txId else 0 } := by
  rw [MdnsQuery.flush, MdnsQuery.legacy, mdnsInitOutpacket]
  by_cases port : query.sourcePort = mdnsPort
  · cases query.recvUnicast <;> simp [port]
  · by_cases one : query.questions = 1
    · cases query.recvUnicast <;> simp [port, one]
    · cases query.recvUnicast <;> simp [port, one]

theorem blank_emptyReply : Blank (emptyReply mdns query) := by
  rw [emptyReply, mdnsInitOutpacket_eq]
  exact ⟨rfl, rfl, rfl, fun o mem => (List.mem_replicate.mp mem).2⟩

theorem selects_emptyReply :
    Selects netif mdns query.flush (fun _ => false) (emptyReply mdns query) where
  host := by
    rw [emptyReply, mdnsInitOutpacket_eq]
    simp [hostMask]
  services := by
    rw [emptyReply]
    apply List.map_congr_left
    intro slot _
    cases slot <;> rfl

theorem mdnsHandleQuestion_eq (fresh : Option Bytes) (netif : Netif) (mdns : MdnsHost)
    (query : MdnsQuery) : mdnsHandleQuestion fresh netif mdns query =
    (readQuestions fresh netif mdns query.packet.questionsLeft query.packet
      (emptyReply mdns query)).bind fun (pkt, reply) =>
        (readKnownAnswers netif mdns pkt.answersLeft pkt reply).bind
          (mdnsSendOutpacket fresh netif mdns) := rfl

/-- What deciding about a reply leaves. -/
theorem Decided.fields {reply reply' : MdnsOutpacket} {unicast : Bool}
    (decided : Decided reply unicast reply') :
    reply'.pbuf = reply.pbuf ∧ reply'.writeOffset = reply.writeOffset ∧
      reply'.domainOffsets = reply.domainOffsets ∧ reply'.answers = reply.answers ∧
      reply'.additional = reply.additional ∧ reply'.cacheFlush = reply.cacheFlush ∧
      reply'.legacyQuery = reply.legacyQuery ∧
      reply'.unicastReply = (reply.unicastReply || unicast) ∧ reply'.destAddr = reply.destAddr ∧
      reply'.destPort = reply.destPort ∧ reply'.txId = reply.txId := by
  rw [Decided, MdnsOutpacket.mk.injEq] at decided
  tauto

theorem Blank.decided {reply reply' : MdnsOutpacket} {unicast : Bool} (blank : Blank reply)
    (decided : Decided reply unicast reply') : Blank reply' := by
  obtain ⟨pbuf, _, offsets, answered, additional, _⟩ := decided.fields
  exact ⟨pbuf.trans blank.pbuf, answered.trans blank.answers, additional.trans blank.additional,
    by rw [offsets]; exact blank.offsets⟩

/-- The known answers, and then the packet. -/
theorem prepared_of_known (named : mdns.Named) (fresh : Option Bytes) {pkt : MdnsPacket}
    (same : pkt.pbuf = query.packet.pbuf) (small : query.packet.pbuf.length < 65536)
    {questions : List (MdnsRrInfo × Bool)} {reply : MdnsOutpacket}
    (selects : Selects netif mdns query.flush
      (fun r => questions.any fun q => decide (Asks q.1 r)) reply)
    (decided : ∃ asked, Decided (emptyReply mdns query) (questions.any fun q => q.2) asked ∧
      SameReply asked reply) :
    (knownOf pkt.answersLeft pkt = none →
      (readKnownAnswers netif mdns pkt.answersLeft pkt reply).bind
        (mdnsSendOutpacket fresh netif mdns) = none) ∧
    ∀ known, knownOf pkt.answersLeft pkt = some known → ∃ reply',
      (readKnownAnswers netif mdns pkt.answersLeft pkt reply).bind
        (mdnsSendOutpacket fresh netif mdns) = mdnsSendOutpacket fresh netif mdns reply' ∧
      Prepared netif mdns query ⟨questions, known⟩ reply' ∧ Decided reply false reply' := by
  obtain ⟨asked, decided, others⟩ := decided
  obtain ⟨refused, reads⟩ := readKnownAnswers_selects named pkt.answersLeft pkt
    (by rw [same]; exact small) selects
  refine ⟨fun failed => by rw [refused failed]; rfl, fun known read => ?_⟩
  obtain ⟨reply', loop, bits, after⟩ := reads known read
  refine ⟨reply', by rw [loop]; rfl, ?_, after⟩
  obtain ⟨_, _, _, _, _, flush, legacy, unicast, addr, port, txId⟩ := after.fields
  obtain ⟨_, _, _, _, _, flush₀, legacy₀, unicast₀, addr₀, port₀, txId₀⟩ := decided.fields
  rw [same] at bits
  refine ⟨bits, ?_, ?_, ?_, ?_, ?_, fun is => ?_⟩
  · rw [flush, others.cacheFlush, flush₀, emptyReply, mdnsInitOutpacket_eq]
  · rw [legacy, others.legacyQuery, legacy₀, emptyReply, mdnsInitOutpacket_eq]
  · have kept := congrArg MdnsOutpacket.unicastReply others
    simp only at kept
    rw [unicast, kept, unicast₀, emptyReply, mdnsInitOutpacket_eq, Bool.or_false, MdnsQuery.unicast]
  · have kept := congrArg MdnsOutpacket.destAddr others
    simp only at kept
    rw [addr, kept, addr₀, emptyReply, mdnsInitOutpacket_eq]
  · have kept := congrArg MdnsOutpacket.destPort others
    simp only at kept
    rw [port, kept, port₀, emptyReply, mdnsInitOutpacket_eq]
  · have kept := congrArg MdnsOutpacket.txId others
    simp only at kept
    rw [txId, kept, txId₀, emptyReply, mdnsInitOutpacket_eq]
    simp only
    rw [if_pos is]

/-- A query that is not a legacy one. -/
theorem prepared_of_read (netif : Netif) (named : mdns.Named) (fresh : Option Bytes)
    (small : query.packet.pbuf.length < 65536) (plain : query.legacy = false) :
    (readQuery query.packet = none → mdnsHandleQuestion fresh netif mdns query = none) ∧
    ∀ read, readQuery query.packet = some read → ∃ reply,
      mdnsHandleQuestion fresh netif mdns query = mdnsSendOutpacket fresh netif mdns reply ∧
        Prepared netif mdns query read reply ∧ Blank reply := by
  have legacy : (emptyReply mdns query).legacyQuery = false := by
    rw [emptyReply, mdnsInitOutpacket_eq]
    exact plain
  obtain ⟨refused, reads⟩ := readQuestions_selects fresh named
    query.packet.questionsLeft query.packet legacy selects_emptyReply
  rw [mdnsHandleQuestion_eq, readQuery]
  cases parsed : questionsOf query.packet.questionsLeft query.packet with
  | none => exact ⟨fun _ => by rw [refused parsed]; rfl, fun read other => (by cases other)⟩
  | some result =>
      obtain ⟨questions, pkt⟩ := result
      obtain ⟨reply, loop, same, bits, decided⟩ := reads questions pkt parsed
      simp only [Bool.false_or] at bits
      obtain ⟨failed, known⟩ := prepared_of_known named fresh same small bits ⟨reply, decided, rfl⟩
      rw [loop, Option.bind_some, Option.bind_some]
      refine ⟨fun none_ => failed (Option.map_eq_none_iff.mp none_), fun read some_ => ?_⟩
      obtain ⟨answers, parsed', rfl⟩ := Option.map_eq_some_iff.mp some_
      obtain ⟨reply', sends, prepared, after⟩ := known answers parsed'
      exact ⟨reply', sends, prepared, (blank_emptyReply.decided decided).decided after⟩

theorem ntoh_lt (field : Bytes) : ntoh field < 256 ^ field.length := by
  induction field using List.reverseRecOn with
  | nil => exact Nat.one_pos
  | append_singleton field b ih =>
      have last := b.toNat_lt
      have one : ntoh [b] = b.toNat := Nat.zero_add _
      rw [ntoh_append, one, List.length_append, List.length_singleton, Nat.pow_succ]
      omega

theorem field_lt {pkt next : MdnsPacket} {len value : Nat}
    (read : pkt.field len = (some value, next)) : value < 256 ^ len := by
  rw [MdnsPacket.field] at read
  split at read
  · cases read
  next whole =>
    cases read
    have bound := ntoh_lt (pbufCopyPartial pkt.pbuf len pkt.parseOffset)
    rwa [not_not.mp whole] at bound

theorem type_of_info {pkt next : MdnsPacket} {info : MdnsRrInfo}
    (read : mdnsReadRrInfo pkt = (some info, next)) : info.type < 65536 := by
  simp only [mdnsReadRrInfo] at read
  split at read
  · cases read
  split at read
  · cases read
  next type =>
    split at read
    · cases read
    next =>
      cases read
      exact field_lt type

/-- The numbers of a question are in their widths. -/
theorem width_of_question {pkt next : MdnsPacket} {info : MdnsRrInfo} {unicast : Bool}
    (read : mdnsReadQuestionFlag pkt = (some (info, unicast), next)) :
    info.type < 65536 ∧ info.klass < 32768 := by
  simp only [mdnsReadQuestionFlag] at read
  split at read
  · cases read
  split at read
  · cases read
  split at read
  · cases read
  next info₀ pkt₀ readInfo =>
    have typed := type_of_info readInfo
    cases read
    exact ⟨typed, Nat.mod_lt _ (by omega)⟩

/-- Nothing additional comes without an answer. -/
theorem extras_nil {flush : Bool} {test : MdnsRecord → Bool}
    (none_ : (ownRecords netif mdns flush).any test = false) :
    mdns.services.flatMap (slotExtras netif mdns flush test) = [] := by
  rw [List.flatMap_eq_nil_iff]
  intro slot mem
  cases slot with
  | none => rfl
  | some service =>
      rw [List.any_eq_false] at none_
      have own {r : MdnsRecord} (inside : r ∈ slotRecords mdns flush (some service)) :
          test r = false := by
        have passes := none_ r (List.mem_append_right _ (List.mem_flatMap_of_mem mem inside))
        simpa using passes
      have name := own (r := servicenamePtrRecord service) (by simp [slotRecords])
      have srv := own (r := srvRecord mdns service flush) (by simp [slotRecords])
      simp [slotExtras, name, srv, recordWhen]

/-- The records of a prepared reply. -/
theorem Prepared.replyRecords {read : ReadQuery} {reply : MdnsOutpacket}
    (prepared : Prepared netif mdns query read reply) : replyRecords netif mdns reply =
      query.answers netif mdns read ++ query.extras netif mdns read := by
  have answers := prepared.selects.answerRecords prepared.cacheFlush
  have extras := prepared.selects.extraRecords prepared.cacheFlush
  rw [MdnsQuery.answers, MdnsQuery.extras, ← answers, ← extras, Mdns.replyRecords,
    Mdns.answerRecords, Mdns.extraRecords, List.append_assoc]

/-- Nothing is sent of a blank reply without answers. -/
theorem Prepared.idle (named : mdns.Named) {fresh : Option Bytes}
    (size : ∀ p ∈ fresh, p.length = outpacketSize) {read : ReadQuery} {reply : MdnsOutpacket}
    (prepared : Prepared netif mdns query read reply) (blank : Blank reply)
    (none_ : query.answers netif mdns read = []) :
    mdnsSendOutpacket fresh netif mdns reply = none := by
  cases fresh with
  | none => exact mdnsSendOutpacket_bare netif mdns blank.pbuf
  | some p =>
      have extras : query.extras netif mdns read = [] := by
        apply extras_nil
        rw [List.any_eq_false]
        exact List.filter_eq_nil_iff.mp none_
      rw [idle_of_nil named (blank.start (size p rfl))
        (by rw [prepared.replyRecords, none_, extras]; rfl), handedOver, blank.pbuf]
      rfl

/-- A legacy query. -/
theorem prepared_of_legacy (netif : Netif) (named : mdns.Named) {fresh : Option Bytes}
    (size : ∀ p ∈ fresh, p.length = outpacketSize) (small : query.packet.pbuf.length < 65536)
    (legacy : query.legacy = true) (counted : query.questions = query.packet.questionsLeft) :
    (readQuery query.packet = none → mdnsHandleQuestion fresh netif mdns query = none) ∧
    ∀ read, readQuery query.packet = some read →
      ((ownRecords netif mdns query.flush).any
          (fun r => read.questions.any fun q => decide (Asks q.1 r)) = false →
        mdnsHandleQuestion fresh netif mdns query = none) ∧
      ((ownRecords netif mdns query.flush).any
          (fun r => read.questions.any fun q => decide (Asks q.1 r)) = true →
        (fresh = none → mdnsHandleQuestion fresh netif mdns query = none) ∧
        ∀ p, fresh = some p → ∃ reply asked,
          mdnsHandleQuestion fresh netif mdns query = mdnsSendOutpacket fresh netif mdns reply ∧
            Prepared netif mdns query read reply ∧ asked.map Asked.info = query.repeated read ∧
            asked.length = 1 ∧ (∀ q ∈ asked, q.type < 65536 ∧ q.klass < 32768) ∧
                Sending fresh reply 1 asked [] 0 0 reply) := by
  have one : query.packet.questionsLeft = 1 := by
    rw [← counted]
    rw [MdnsQuery.legacy, Bool.and_eq_true, decide_eq_true_iff, decide_eq_true_iff] at legacy
    exact legacy.2
  rw [mdnsHandleQuestion_eq, readQuery, one]
  have kept := mdnsReadQuestionFlag_pbuf query.packet
  rcases first : mdnsReadQuestionFlag query.packet with ⟨_ | ⟨info, unicast⟩, next⟩
  · simp [questionsOf, readQuestions, first]
  rw [first] at kept
  have same : next.pbuf = query.packet.pbuf := kept
  have parsed : questionsOf 1 query.packet = some ([(info, unicast)], next) := by
    simp [questionsOf, first]
  let reply := selectReplies netif mdns info { emptyReply mdns query with
    unicastReply := (emptyReply mdns query).unicastReply || unicast }
  have bits : Selects netif mdns query.flush
      (fun r => [(info, unicast)].any fun q => decide (Asks q.1 r)) reply := by
    have start : Selects netif mdns query.flush (fun _ => false) (emptyReply mdns query) :=
      selects_emptyReply
    have asked := start.question named info
    simp only [Bool.false_or] at asked
    simp only [List.any_cons, List.any_nil, Bool.or_false]
    exact ⟨asked.host, asked.services⟩
  have decided : Decided (emptyReply mdns query) ([(info, unicast)].any fun q => q.2) reply := by
    rw [List.any_cons, List.any_nil, Bool.or_false]
    rfl
  have blank : Blank reply := by
    have blank₀ : Blank (emptyReply mdns query) := blank_emptyReply
    exact ⟨blank₀.pbuf, blank₀.answers, blank₀.additional, blank₀.offsets⟩
  have isLegacy : reply.legacyQuery = true := by
    have kept := (decided.fields).2.2.2.2.2.2.1
    rw [kept, emptyReply, mdnsInitOutpacket_eq]
    exact legacy
  have selected := selected_eq bits
  rw [parsed, Option.bind_some]
  -- what is left to do once the questions are read
  have go (reply' : MdnsOutpacket) (loop : readQuestions fresh netif mdns 1 query.packet
      (emptyReply mdns query) = some (next, reply')) (others : SameReply reply reply') :
      (knownOf next.answersLeft next = none →
        (readQuestions fresh netif mdns 1 query.packet (emptyReply mdns query)).bind
          (fun (pkt, reply) => (readKnownAnswers netif mdns pkt.answersLeft pkt reply).bind
            (mdnsSendOutpacket fresh netif mdns)) = none) ∧
      ∀ known, knownOf next.answersLeft next = some known → ∃ sending,
        (readQuestions fresh netif mdns 1 query.packet (emptyReply mdns query)).bind
          (fun (pkt, reply) => (readKnownAnswers netif mdns pkt.answersLeft pkt reply).bind
            (mdnsSendOutpacket fresh netif mdns)) = mdnsSendOutpacket fresh netif mdns sending ∧
        Prepared netif mdns query ⟨[(info, unicast)], known⟩ sending ∧
        Decided reply' false sending := by
    rw [loop, Option.bind_some]
    apply prepared_of_known named fresh same small ?_ ⟨reply, decided, others⟩
    have host := congrArg MdnsOutpacket.hostReplies others
    have services := congrArg MdnsOutpacket.servReplies others
    exact ⟨host.trans bits.host, services.trans bits.services⟩
  cases any : (ownRecords netif mdns query.flush).any
      fun r => [(info, unicast)].any fun q => decide (Asks q.1 r) with
  | false =>
      have loop : readQuestions fresh netif mdns 1 query.packet (emptyReply mdns query) =
          some (next, reply) := by
        simp only [readQuestions, first]
        exact if_neg (by rw [selected, any]; exact Bool.false_ne_true)
      obtain ⟨failed, known⟩ := go reply loop rfl
      refine ⟨fun none_ => failed (Option.map_eq_none_iff.mp none_), fun read some_ => ?_⟩
      obtain ⟨answers, parsed', rfl⟩ := Option.map_eq_some_iff.mp some_
      refine ⟨fun _ => ?_, fun other => absurd (other.symm.trans any) (by decide)⟩
      obtain ⟨sending, sends, prepared, after⟩ := known answers parsed'
      rw [sends]
      apply prepared.idle named size (blank.decided after)
      rw [MdnsQuery.answers, List.filter_eq_nil_iff]
      rw [List.any_eq_false] at any
      intro r mem wanted
      rw [ReadQuery.wants, Bool.and_eq_true] at wanted
      exact any r mem wanted.1
  | true =>
      obtain ⟨r, mem, asks⟩ := List.any_eq_true.mp any
      simp only [List.any_cons, List.any_nil, Bool.or_false, decide_eq_true_iff] at asks
      obtain ⟨labels, named_, plain⟩ := plain_of_sameName (plain_ownRecords named mem).labels asks.1
      have domain : info.domain = ⟨encodeName labels⟩ := by
        rw [← named_]
      cases fresh with
      | none =>
          have failed : (mdnsAddQuestion none reply info.domain info.type info.klass false).2 =
              false := by
            have bare : reply.allocated none = reply := by
              cases allocated : reply.pbuf <;> simp [MdnsOutpacket.allocated]
            rw [mdnsAddQuestion, bare]
            simp only [blank.pbuf]
          have loop : readQuestions none netif mdns 1 query.packet (emptyReply mdns query) =
              none := by
            simp only [readQuestions, first]
            rw [if_pos (by
              change (reply.selected && reply.legacyQuery) = true
              rw [selected, any, isLegacy]
              rfl)]
            split
            · rfl
            next added =>
              rw [added] at failed
              cases failed
          rw [loop, Option.bind_none]
          refine ⟨fun _ => rfl, fun read some_ => ?_⟩
          exact ⟨fun _ => rfl, fun _ => ⟨fun _ => rfl, fun p other => (by cases other)⟩⟩
      | some p =>
          obtain ⟨p', w, offsets, added, packed⟩ :=
            mdnsAddQuestion_blank blank (size p rfl) plain info.type info.klass
          rw [← domain] at added
          have loop : readQuestions (some p) netif mdns 1 query.packet (emptyReply mdns query) =
              some (next, reply.holding p' w offsets) := by
            simp only [readQuestions, first]
            rw [if_pos (by
              change (reply.selected && reply.legacyQuery) = true
              rw [selected, any, isLegacy]
              rfl)]
            split
            next refused =>
              cases congrArg Prod.snd (added.symm.trans refused)
            next kept =>
              exact congrArg (fun out => some (next, out)) (congrArg Prod.fst (kept.symm.trans added))
          obtain ⟨failed, known⟩ := go _ loop rfl
          refine ⟨fun none_ => failed (Option.map_eq_none_iff.mp none_), fun read some_ => ?_⟩
          obtain ⟨answers, parsed', rfl⟩ := Option.map_eq_some_iff.mp some_
          refine ⟨fun other => absurd (other.symm.trans any) (by decide), fun _ => ?_⟩
          refine ⟨fun other => (by cases other), fun q other => ?_⟩
          obtain rfl : p = q := Option.some.inj other
          obtain ⟨sending, sends, prepared, after⟩ := known answers parsed'
          obtain ⟨typed, classed⟩ := width_of_question first
          refine ⟨sending, [⟨labels, info.type, info.klass⟩], sends, prepared, ?_, rfl, ?_, ?_⟩
          · rw [MdnsQuery.repeated, if_pos legacy, List.map_singleton, List.map_singleton,
              Asked.info, ← domain]
          · intro q mem
            rw [List.mem_singleton.mp mem]
            exact ⟨typed, classed⟩
          · obtain ⟨pbuf, offset, offsets', answered, additional, _⟩ := after.fields
            refine ⟨⟨1, Nat.le_refl 1, packed.congr ?_⟩, rfl, ?_, ?_, rfl⟩
            · rw [MdnsOutpacket.body, MdnsOutpacket.body, pbuf, offset, offsets']
            · rw [answered]
              exact blank.answers
            · rw [additional]
              exact blank.additional

/-! ### The reply -/

/-- A datagram that answers a query. -/
structure Answered (netif : Netif) (mdns : MdnsHost) (query : MdnsQuery) (read : ReadQuery)
    (sent : MdnsSent) : Prop where
  received : ∃ asked : List Asked, asked.map Asked.info = query.repeated read ∧
    Received sent.bytes asked (query.answers netif mdns read ++ query.extras netif mdns read)
  destination : (sent.addr, sent.port) =
    if query.unicast read then (query.sourceAddr, query.sourcePort) else (mdnsV4Group, mdnsPort)
  header : sent.bytes.take 4 = (if query.legacy then hton16 query.txId else [0, 0]) ++ [0x84, 0]
  purpose : query.legacy = true ∨ query.answers netif mdns read ≠ []

theorem answered_of_prepared (named : mdns.Named) {fresh : Option Bytes} {read : ReadQuery}
    {reply : MdnsOutpacket} (prepared : Prepared netif mdns query read reply)
    (asked : List Asked) (same : asked.map Asked.info = query.repeated read)
    (width : ∀ q ∈ asked, q.type < 65536 ∧ q.klass < 32768)
    (count : asked.length = if query.legacy then 1 else 0)
    (start : Sending fresh reply 1 asked [] 0 0 reply)
    (purpose : query.legacy = true ∨ query.answers netif mdns read ≠ []) {sent : MdnsSent}
    (sends : mdnsSendOutpacket fresh netif mdns reply = some sent) :
    Answered netif mdns query read sent := by
  obtain ⟨destination, header⟩ := destination_of_sent named start sends
  refine ⟨⟨asked, same, ?_⟩, ?_, ?_, purpose⟩
  · rw [← prepared.replyRecords]
    exact received_of_sent named width (by rw [prepared.legacy, count]) start sends
  · rw [destination, prepared.unicast, prepared.addr, prepared.port]
  · rw [header, prepared.legacy]
    cases legacy : query.legacy with
    | false => rfl
    | true => rw [prepared.txId legacy]

/-- What is sent for a query answers it. -/
theorem mdnsHandleQuestion_answers (named : mdns.Named) {fresh : Option Bytes}
    (size : ∀ p ∈ fresh, p.length = outpacketSize) (small : query.packet.pbuf.length < 65536)
    (counted : query.questions = query.packet.questionsLeft) {sent : MdnsSent}
    (sends : mdnsHandleQuestion fresh netif mdns query = some sent) :
    ∃ read, readQuery query.packet = some read ∧ Answered netif mdns query read sent := by
  cases legacy : query.legacy with
  | false =>
      obtain ⟨failed, known⟩ := prepared_of_read netif named fresh small legacy
      cases parsed : readQuery query.packet with
      | none =>
          rw [failed parsed] at sends
          cases sends
      | some read =>
          obtain ⟨reply, same, prepared, blank⟩ := known read parsed
          rw [same] at sends
          refine ⟨read, rfl, ?_⟩
          have some_ : query.answers netif mdns read ≠ [] := by
            intro none_
            rw [prepared.idle named size blank none_] at sends
            cases sends
          cases fresh with
          | none =>
              rw [mdnsSendOutpacket_bare netif mdns blank.pbuf] at sends
              cases sends
          | some p =>
              have nothing : query.repeated read = [] := by
                rw [MdnsQuery.repeated, legacy]
                rfl
              exact answered_of_prepared named prepared [] nothing.symm
                (fun _ mem => (by cases mem)) (by rw [legacy]; rfl) (blank.start (size p rfl))
                (.inr some_) sends
  | true =>
      obtain ⟨failed, known⟩ := prepared_of_legacy netif named size small legacy counted
      cases parsed : readQuery query.packet with
      | none =>
          rw [failed parsed] at sends
          cases sends
      | some read =>
          obtain ⟨unasked, answered⟩ := known read parsed
          refine ⟨read, rfl, ?_⟩
          cases any : (ownRecords netif mdns query.flush).any
              fun r => read.questions.any fun q => decide (Asks q.1 r) with
          | false =>
              rw [unasked any] at sends
              cases sends
          | true =>
              obtain ⟨bare, full⟩ := answered any
              cases fresh with
              | none =>
                  rw [bare rfl] at sends
                  cases sends
              | some p =>
                  obtain ⟨reply, asked, same, prepared, repeated, one, width, start⟩ := full p rfl
                  rw [same] at sends
                  exact answered_of_prepared named prepared asked repeated width
                    (by rw [legacy, one]; rfl) start (.inl legacy) sends

/-- An answer is sent when it fits without compression. -/
theorem mdnsHandleQuestion_sends (named : mdns.Named) {p : Bytes} (size : p.length = outpacketSize)
    (small : query.packet.pbuf.length < 65536)
    (counted : query.questions = query.packet.questionsLeft) {read : ReadQuery}
    (reads : readQuery query.packet = some read) (wanted : query.answers netif mdns read ≠ [])
    (sized : ∀ r ∈ query.answers netif mdns read ++ query.extras netif mdns read, r.Sized)
    (fits : sizeofDnsHdr + ((query.repeated read).map fun info => info.domain.length + 4).sum +
      recordsLength (query.answers netif mdns read ++ query.extras netif mdns read) ≤
        outpacketSize) :
    (mdnsHandleQuestion (some p) netif mdns query).isSome := by
  have one : ∀ q ∈ some p, q.length = outpacketSize := fun q same => (Option.some.inj same) ▸ size
  have records : query.answers netif mdns read ++ query.extras netif mdns read ≠ [] := fun none_ =>
    wanted (List.append_eq_nil_iff.mp none_).1
  cases legacy : query.legacy with
  | false =>
      obtain ⟨reply, same, prepared, blank⟩ :=
        (prepared_of_read netif named (some p) small legacy).2 read reads
      have nothing : query.repeated read = [] := by
        rw [MdnsQuery.repeated, legacy]
        rfl
      rw [nothing] at fits
      rw [same]
      rw [← prepared.replyRecords] at records sized fits
      exact sent_of_fits named (blank.start size) (.inr records) sized fits
  | true =>
      obtain ⟨_, answered⟩ := (prepared_of_legacy netif named one small legacy counted).2 read reads
      have any : ((ownRecords netif mdns query.flush).any
          fun r => read.questions.any fun q => decide (Asks q.1 r)) = true := by
        obtain ⟨r, mem⟩ := List.exists_mem_of_ne_nil _ wanted
        obtain ⟨own, test⟩ := List.mem_filter.mp mem
        rw [ReadQuery.wants, Bool.and_eq_true] at test
        exact List.any_eq_true.mpr ⟨r, own, test.1⟩
      obtain ⟨reply, asked, same, prepared, repeated, _, _, start⟩ := (answered any).2 p rfl
      have length : ((query.repeated read).map fun info => info.domain.length + 4).sum =
          askedLength asked := by
        rw [← repeated, List.map_map]
        rfl
      rw [length] at fits
      rw [same]
      rw [← prepared.replyRecords] at records sized fits
      exact sent_of_fits named start (.inr records) sized fits

end Handling

end LwipExt.Mdns
