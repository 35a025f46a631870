import LwipExt.Mdns.Answering

/-!
The multicast DNS responder on the network.

A received datagram is answered with the records that it asks for (`mdnsRecvQuery_answers`,
`mdnsRecvQuery_sends`). An announcement carries all records of the responder
(`mdnsAnnounce_received`), and the query that the client sends for a type of service is answered
with the instance, its place, its TXT data and the address (`mdnsRecvQuery_discovers`).
-/

namespace LwipExt.Mdns

/-! ### The node -/

/-- The service of the node, with its host, as they are set up at the start. -/
def nodeService : MdnsService where
  name := ⟨str "767_TX_192.168.168.102", by decide, by decide⟩
  service := ⟨str "_nmos-node", by decide, by decide⟩
  txtFn := some srvTxt
  dnsTtl := 3600
  proto := .tcp
  port := 80

def nodeHost : MdnsHost where
  name := ⟨str "EXT767", by decide, by decide⟩
  services := [some nodeService]
  dnsTtl := 3600

def nodeNetif : Netif := ⟨0x66a8a8c0⟩

theorem nodeHost_named : nodeHost.Named where
  name := by decide
  services service mem := by
    simp only [nodeHost, List.mem_singleton, Option.some.injEq] at mem
    rw [mem]
    exact ⟨by decide, by decide, by decide +kernel, by decide⟩
  ttl := by decide

/-- What `pbuf_alloc` returns for a reply. -/
def nodePbuf : Bytes := List.replicate outpacketSize 0

theorem length_nodePbuf : nodePbuf.length = outpacketSize := List.length_replicate

/-- A query for the nodes on the network. -/
def nodeQuery : Bytes := queryBytes 7 dnsRrtypePtr (serviceTypeLabels nodeService)

section Received

variable {netif : Netif} {mdns : MdnsHost}

/-- The query of a datagram to this address. -/
def queryOf (bytes : Bytes) (addr : UInt32) (port : Nat) (destination : UInt32) : MdnsQuery :=
  receivedQuery bytes addr port (destination ≠ mdnsV4Group)

/-- The header that a query starts with. -/
def QueryHeader (bytes : Bytes) : Prop :=
  sizeofDnsHdr ≤ bytes.length ∧ bytes.getD 2 0 >>> 3 &&& 0xf = 0 ∧ bytes.getD 2 0 &&& 0x80 = 0

instance (bytes : Bytes) : Decidable (QueryHeader bytes) := inferInstanceAs (Decidable (_ ∧ _))

theorem mdnsRecvQuery_eq (fresh : Option Bytes) (netif : Netif) (mdns : MdnsHost) (bytes : Bytes)
    (addr : UInt32) (port : Nat) (destination : UInt32) :
    mdnsRecvQuery fresh netif (some mdns) bytes addr port destination =
      if QueryHeader bytes then
        mdnsHandleQuestion fresh netif mdns (queryOf bytes addr port destination)
      else none := by
  simp only [mdnsRecvQuery]
  by_cases whole : bytes.length < sizeofDnsHdr
  · have refused : ¬ QueryHeader bytes := fun other => absurd other.1 (Nat.not_le.mpr whole)
    rw [if_pos whole, if_neg refused]
  by_cases opcode : bytes.getD 2 0 >>> 3 &&& 0xf = 0
  · by_cases response : bytes.getD 2 0 &&& 0x80 = 0
    · have accepted : QueryHeader bytes := ⟨Nat.not_lt.mp whole, opcode, response⟩
      rw [if_neg whole, if_neg (not_not.mpr opcode), if_neg (not_not.mpr response),
        if_pos accepted]
      rfl
    · have refused : ¬ QueryHeader bytes := fun other => response other.2.2
      rw [if_neg whole, if_neg (not_not.mpr opcode), if_pos response, if_neg refused]
  · have refused : ¬ QueryHeader bytes := fun other => opcode other.2.1
    rw [if_neg whole, if_pos opcode, if_neg refused]

/-- What is sent for a datagram is an answer to it: it is received as the records of the responder
that a question of the datagram asks for and no known answer of it supplies, with the additional
records of their services. -/
theorem mdnsRecvQuery_answers (named : mdns.Named) {fresh : Option Bytes}
    (size : ∀ p ∈ fresh, p.length = outpacketSize) {bytes : Bytes} (small : bytes.length < 65536)
    {addr : UInt32} {port : Nat} {destination : UInt32} {sent : MdnsSent}
    (sends : mdnsRecvQuery fresh netif (some mdns) bytes addr port destination = some sent) :
    ∃ read, readQuery (receivedPacket bytes) = some read ∧
      Answered netif mdns (queryOf bytes addr port destination) read sent := by
  rw [mdnsRecvQuery_eq] at sends
  split at sends
  · exact mdnsHandleQuestion_answers named size small rfl sends
  · cases sends

theorem mdnsRecvQuery_answers_node :
    ∃ sent, mdnsRecvQuery (some nodePbuf) nodeNetif (some nodeHost) nodeQuery 0x05a8a8c0 5353
        mdnsV4Group = some sent ∧
      ∃ read, readQuery (receivedPacket nodeQuery) = some read ∧
        Answered nodeNetif nodeHost (queryOf nodeQuery 0x05a8a8c0 5353 mdnsV4Group) read sent := by
  have answers : (mdnsRecvQuery (some nodePbuf) nodeNetif (some nodeHost) nodeQuery 0x05a8a8c0 5353
      mdnsV4Group).isSome := by decide +kernel
  obtain ⟨sent, sends⟩ := Option.isSome_iff_exists.mp answers
  exact ⟨sent, sends, mdnsRecvQuery_answers nodeHost_named
    (fun p mem => (Option.some.inj mem) ▸ length_nodePbuf) (by decide +kernel) sends⟩

/-! ### Announcements -/

/-- The records of an announcement. Without an address, the one of the host is announced with its
services as 0.0.0.0. -/
def announced (netif : Netif) (mdns : MdnsHost) : List MdnsRecord :=
  ownRecords netif mdns true ++ mdns.services.flatMap (slotExtras netif mdns true fun _ => true)

/-- An announcement before its first record. -/
def announcement (netif : Netif) (mdns : MdnsHost) (destination : UInt32) : MdnsOutpacket :=
  { cacheFlush := true
    hostReplies := if netif.ip4Addr ≠ 0 then ⟨true, true⟩ else {}
    servReplies := mdns.services.map fun service =>
      if service.isSome then ⟨true, true, true, true⟩ else {}
    destPort := mdnsPort
    destAddr := destination }

theorem selects_announcement (destination : UInt32) :
    Selects netif mdns true (fun _ => true) (announcement netif mdns destination) where
  host := by
    rw [announcement, hostMask]
    by_cases address : netif.ip4Addr = 0 <;> simp [address]
  services := by
    apply List.map_congr_left
    intro slot _
    cases slot <;> rfl

theorem blank_announcement (destination : UInt32) :
    Blank (announcement netif mdns destination) :=
  ⟨rfl, rfl, rfl, fun _ mem => (List.mem_replicate.mp mem).2⟩

theorem replyRecords_announcement (destination : UInt32) :
    replyRecords netif mdns (announcement netif mdns destination) = announced netif mdns := by
  have selects : Selects netif mdns true (fun _ => true) (announcement netif mdns destination) :=
    selects_announcement destination
  have answers := selects.answerRecords rfl
  rw [List.filter_true] at answers
  rw [announced, ← answers, ← selects.extraRecords rfl, replyRecords, answerRecords, extraRecords,
    List.append_assoc]

/-- An announcement is received as all records of the responder. -/
theorem received_of_announced (named : mdns.Named) {fresh : Option Bytes}
    (size : ∀ p ∈ fresh, p.length = outpacketSize) {destination : UInt32} {sent : MdnsSent}
    (sends : mdnsAnnounce fresh netif mdns destination = some sent) :
    (sent.addr, sent.port) = (mdnsV4Group, mdnsPort) ∧
      Received sent.bytes [] (announced netif mdns) := by
  have unfolded : mdnsSendOutpacket fresh netif mdns (announcement netif mdns destination) =
      some sent := sends
  have blank : Blank (announcement netif mdns destination) := blank_announcement destination
  cases fresh with
  | none =>
      rw [mdnsSendOutpacket_bare netif mdns blank.pbuf] at unfolded
      cases unfolded
  | some p =>
      have start := blank.start (size p rfl)
      rw [← replyRecords_announcement destination]
      exact ⟨(destination_of_sent named start unfolded).1,
        received_of_sent named (fun _ mem => (by cases mem)) rfl start unfolded⟩

theorem text_of_labelText {text : Bytes} {label : LabelText} (copied : labelText text = some label) :
    label.text = cstr text := by
  rw [labelText] at copied
  split at copied
  · cases copied
    rfl
  · cases copied

/-- The slots after a service was stored. -/
theorem storeService_slots {service : MdnsService} {services services' : List (Option MdnsService)}
    (stored : storeService service services = some services') :
    ∃ before after, services = before ++ none :: after ∧
      services' = before ++ some service :: after ∧ none ∉ before := by
  induction services generalizing services' with
  | nil => cases stored
  | cons slot services ih =>
      cases slot with
      | none =>
          cases stored
          exact ⟨[], services, rfl, rfl, List.not_mem_nil⟩
      | some other =>
          obtain ⟨rest, storedRest, rfl⟩ := Option.map_eq_some_iff.mp stored
          obtain ⟨before, after, rfl, rfl, full⟩ := ih storedRest
          exact ⟨some other :: before, after, rfl, rfl, by simpa using full⟩

/-- A service that is added goes to the first free slot, and what is announced then is received as
all records of the responder, those of the new service and of the others among them. -/
theorem mdnsRespAddService_announces {fresh : Option Bytes}
    (size : ∀ p ∈ fresh, p.length = outpacketSize) {name service : Bytes} {proto : MdnsSdProto}
    {port dnsTtl : Nat} {txtFn : Option (MdnsDomain → MdnsDomain)} {allocated : Bool}
    {mdns' : MdnsHost} {sent : MdnsSent}
    (added : mdnsRespAddService fresh netif mdns name service proto port dnsTtl txtFn allocated =
      some (mdns', some sent))
    (named : mdns'.Named) :
    (sent.addr, sent.port) = (mdnsV4Group, mdnsPort) ∧
      Received sent.bytes [] (announced netif mdns') ∧
      ∃ before after new, mdns.services = before ++ none :: after ∧ none ∉ before ∧
        mdns'.services = before ++ some new :: after ∧ new.name.text = cstr name ∧
        new.service.text = cstr service ∧ new.port = port ∧
        ∀ slot ∈ mdns'.services, slotRecords mdns' true slot ⊆ announced netif mdns' := by
  obtain ⟨nameText, named₁, added⟩ := Option.bind_eq_some_iff.mp added
  obtain ⟨serviceText, named₂, added⟩ := Option.bind_eq_some_iff.mp added
  obtain ⟨services, stored, added⟩ := Option.bind_eq_some_iff.mp added
  split at added
  · obtain ⟨same, announces⟩ := Prod.mk.inj (Option.some.inj added)
    obtain ⟨before, after, slots, slots', full⟩ := storeService_slots stored
    subst same
    obtain ⟨destination, received⟩ := received_of_announced named size announces
    refine ⟨destination, received, before, after, _, slots, full, slots', text_of_labelText named₁,
      text_of_labelText named₂, rfl, fun slot mem r inside => ?_⟩
    exact List.mem_append_left _ (List.mem_append_right _ (List.mem_flatMap_of_mem mem inside))
  · cases added

theorem mdnsRespAddService_announces_node :
    ∃ sent, mdnsRespAddService (some nodePbuf) nodeNetif { nodeHost with services := [none] }
        nodeService.name.text nodeService.service.text .tcp 80 3600 (some srvTxt) true =
          some (nodeHost, some sent) ∧
      Received sent.bytes [] (announced nodeNetif nodeHost) := by
  have announces : (mdnsAnnounce (some nodePbuf) nodeNetif nodeHost 0).isSome := by decide +kernel
  obtain ⟨sent, sends⟩ := Option.isSome_iff_exists.mp announces
  have added : mdnsRespAddService (some nodePbuf) nodeNetif { nodeHost with services := [none] }
      nodeService.name.text nodeService.service.text .tcp 80 3600 (some srvTxt) true =
        some (nodeHost, some sent) := by
    rw [← sends]
    rfl
  exact ⟨sent, added, (mdnsRespAddService_announces
    (fun p mem => (Option.some.inj mem) ▸ length_nodePbuf) added nodeHost_named).2.1⟩

/-! ### The query of the client -/

/-- Names that differ in case only have as many labels. -/
theorem length_of_sameName {labels labels' : List Bytes}
    (each : ∀ label ∈ labels, label ≠ [] ∧ label.length ≤ mdnsLabelMaxlen)
    (each' : ∀ label ∈ labels', label ≠ [] ∧ label.length ≤ mdnsLabelMaxlen)
    (same : SameName (encodeName labels) (encodeName labels')) :
    labels.length = labels'.length := by
  have most : mdnsLabelMaxlen = 63 := rfl
  have nil : encodeName ([] : List Bytes) = [0] := rfl
  have head {label : Bytes} (short : label ≠ [] ∧ label.length ≤ mdnsLabelMaxlen) :
      (UInt8.ofNat label.length).toNat = label.length ∧ 0 < label.length ∧ label.length < 65 := by
    have := List.length_pos_of_ne_nil short.1
    rw [UInt8.toNat_ofNat']
    omega
  induction labels generalizing labels' with
  | nil =>
      cases labels' with
      | nil => rfl
      | cons label' labels' =>
          obtain ⟨value, pos, few⟩ := head (each' label' (.head _))
          rw [nil, encodeName_cons, SameName, List.map_cons, List.map_cons] at same
          have first := (toLower_eq_low (by omega)).mp (List.cons.inj same).1
          rw [← first] at value
          exact absurd value.symm (Nat.ne_of_gt pos)
  | cons label labels ih =>
      obtain ⟨value, pos, few⟩ := head (each label (.head _))
      cases labels' with
      | nil =>
          rw [nil, encodeName_cons, SameName, List.map_cons, List.map_cons] at same
          have first := (toLower_eq_low (by decide)).mp (List.cons.inj same).1
          rw [first] at value
          exact absurd value.symm (Nat.ne_of_gt pos)
      | cons label' labels' =>
          obtain ⟨value', pos', few'⟩ := head (each' label' (.head _))
          rw [encodeName_cons, encodeName_cons, SameName, List.map_cons, List.map_cons,
            List.map_append, List.map_append] at same
          obtain ⟨first, rest⟩ := List.cons.inj same
          have lengths := (toLower_eq_low (by omega)).mp first
          rw [lengths, value'] at value
          have tails := (List.append_inj rest (by rw [List.length_map, List.length_map, value])).2
          rw [List.length_cons, List.length_cons,
            ih (fun next mem => each next (.tail _ mem)) (fun next mem => each' next (.tail _ mem))
              tails]

/-- The query of the client is read as its one question. -/
theorem readQuery_queryBytes (txId : Nat) {qType : Nat} (typed : qType < 65536)
    {labels : List Bytes} (plain : Plain labelLimit labels) :
    readQuery (receivedPacket (queryBytes txId qType labels)) =
      some ⟨[(⟨⟨encodeName labels⟩, qType, dnsRrclassIn⟩, false)], []⟩ := by
  have header : (queryHeader txId).length = sizeofDnsHdr := rfl
  have size : sizeofDnsHdr = 12 := rfl
  have limit : mdnsDomainMaxlen = 256 := rfl
  have error : mdnsReadnameError = 65535 := rfl
  have fits := plain.fits
  have count := length_le_encodeLabels labels
  have length := length_encodeName labels
  have bytes : (queryBytes txId qType labels).length =
      sizeofDnsHdr + (encodeName labels).length + 4 := by
    rw [queryBytes, List.length_append, List.length_append, header]
    rfl
  have packet : receivedPacket (queryBytes txId qType labels) =
      ⟨queryBytes txId qType labels, sizeofDnsHdr, 1, 0⟩ := by
    have questions : bufRead (queryBytes txId qType labels) 4 2 = hton16 1 := by
      rw [queryBytes, queryHeader]
      rfl
    have answers : bufRead (queryBytes txId qType labels) 6 2 = hton16 0 := by
      rw [queryBytes, queryHeader]
      rfl
    have authority : bufRead (queryBytes txId qType labels) 8 2 = hton16 0 := by
      rw [queryBytes, queryHeader]
      rfl
    have additional : bufRead (queryBytes txId qType labels) 10 2 = hton16 0 := by
      rw [queryBytes, queryHeader]
      rfl
    rw [receivedPacket, questions, answers, authority, additional]
    rfl
  have name : mdnsReadname (queryBytes txId qType labels) sizeofDnsHdr =
      (sizeofDnsHdr + (encodeName labels).length, ⟨encodeName labels⟩) := by
    have empty : MdnsDomain.length {} + (encodeLabels labels).length < mdnsDomainMaxlen := by
      change 0 + _ < _
      omega
    have enough : labels.length < mdnsDomainMaxlen + 1 := by omega
    have read := mdnsReadLabels_encode plain.each
      (mdnsReadnameLoop (queryBytes txId qType labels) 5) enough empty (queryHeader txId)
      (hton16 qType ++ hton16 dnsRrclassIn) (by omega)
    rw [header, Nat.add_assoc, ← length] at read
    exact read
  have behind : (queryBytes txId qType labels).drop (sizeofDnsHdr + (encodeName labels).length) =
      hton16 qType ++ hton16 dnsRrclassIn := by
    rw [queryBytes, ← List.append_assoc]
    exact List.drop_left' (by rw [List.length_append, header])
  have below : Below (fun i => (queryBytes txId qType labels)[i]?) (queryBytes txId qType labels) :=
    fun _ _ at_ => at_
  have small : (queryBytes txId qType labels).length < mdnsReadnameError := by omega
  have fields : DataIn (fun i => (queryBytes txId qType labels)[i]?)
      (sizeofDnsHdr + (encodeName labels).length) (hton16 qType ++ hton16 dnsRrclassIn) := by
    intro i _
    rw [← behind, List.getElem?_drop]
  obtain ⟨type, klass⟩ := fields.parts
  have first := field_of_dataIn
    ⟨queryBytes txId qType labels, sizeofDnsHdr + (encodeName labels).length, 0, 0⟩ below small
    (hton16_ne_nil qType) type
  have second := field_of_dataIn
    ⟨queryBytes txId qType labels, sizeofDnsHdr + (encodeName labels).length + 2, 0, 0⟩ below small
    (hton16_ne_nil dnsRrclassIn) klass
  rw [length_hton16, ntoh_hton16 typed] at first
  rw [length_hton16, ntoh_hton16 (by decide)] at second
  have info : mdnsReadRrInfo ⟨queryBytes txId qType labels, sizeofDnsHdr, 0, 0⟩ =
      (some ⟨⟨encodeName labels⟩, qType, dnsRrclassIn⟩, ⟨queryBytes txId qType labels,
        sizeofDnsHdr + (encodeName labels).length + 2 + 2, 0, 0⟩) := by
    rw [mdnsReadRrInfo, name]
    simp only
    rw [if_neg (by omega), first]
    simp only
    rw [second]
  have question : mdnsReadQuestionFlag ⟨queryBytes txId qType labels, sizeofDnsHdr, 1, 0⟩ =
      (some (⟨⟨encodeName labels⟩, qType, dnsRrclassIn⟩, false), ⟨queryBytes txId qType labels,
        sizeofDnsHdr + (encodeName labels).length + 2 + 2, 0, 0⟩) := by
    have started : ¬ (queryBytes txId qType labels).length < sizeofDnsHdr := by omega
    simp only [mdnsReadQuestionFlag]
    rw [if_neg started, if_neg Nat.one_ne_zero, Nat.sub_self, info]
    rfl
  rw [readQuery, packet]
  simp only [questionsOf, question, Option.map_some, Option.bind_some, knownOf]

/-- An answer is sent when it fits without compression. -/
theorem mdnsRecvQuery_sends (named : mdns.Named) {p : Bytes} (size : p.length = outpacketSize)
    {bytes : Bytes} (small : bytes.length < 65536) (header : QueryHeader bytes) {addr : UInt32}
    {port : Nat} {destination : UInt32} {query : MdnsQuery}
    (received : query = queryOf bytes addr port destination) {read : ReadQuery}
    (reads : readQuery (receivedPacket bytes) = some read)
    (wanted : query.answers netif mdns read ≠ [])
    (sized : ∀ r ∈ query.answers netif mdns read ++ query.extras netif mdns read, r.Sized)
    (fits : sizeofDnsHdr + ((query.repeated read).map fun info => info.domain.length + 4).sum +
      recordsLength (query.answers netif mdns read ++ query.extras netif mdns read) ≤
        outpacketSize) :
    (mdnsRecvQuery (some p) netif (some mdns) bytes addr port destination).isSome := by
  rw [mdnsRecvQuery_eq, if_pos header]
  subst received
  exact mdnsHandleQuestion_sends named size small rfl reads wanted sized fits

theorem mdnsRecvQuery_sends_node :
    (mdnsRecvQuery (some nodePbuf) nodeNetif (some nodeHost) nodeQuery 0x05a8a8c0 5354
      mdnsV4Group).isSome :=
  mdnsRecvQuery_sends nodeHost_named length_nodePbuf (by decide +kernel) (by decide +kernel) rfl
    (readQuery_queryBytes 7 (by decide) (plain_serviceTypeLabels
      (nodeHost_named.services nodeService (.head _)))) (by decide +kernel) (by decide +kernel)
    (by decide +kernel)

/-- The client that looks for a type of service on the network is answered with the instance, its
place, its TXT data and the address of the host. -/
theorem mdnsRecvQuery_discovers (named : mdns.Named) {p : Bytes} (size : p.length = outpacketSize)
    {service : MdnsService} (slot : mdns.services = [some service]) (txId : Nat)
    {labels : List Bytes}
    (same : SameName (encodeName labels) (encodeName (serviceTypeLabels service)))
    (txt : (mdnsPrepareTxtdata service).name ≠ []) (addr : UInt32)
    (fits : sizeofDnsHdr + recordsLength [servicenamePtrRecord service,
      srvRecord mdns service true, txtRecord service true, aRecord netif mdns true] ≤
        outpacketSize) :
    ∃ sent, mdnsRecvQuery (some p) netif (some mdns) (queryBytes txId dnsRrtypePtr labels) addr
        mdnsPort mdnsV4Group = some sent ∧
      (sent.addr, sent.port) = (mdnsV4Group, mdnsPort) ∧
      Received sent.bytes [] [servicenamePtrRecord service, srvRecord mdns service true,
        txtRecord service true, aRecord netif mdns true] := by
  have each : service.Named := named.services service (by rw [slot]; exact .head _)
  obtain ⟨name, encoded, plain⟩ := plain_of_sameName (plain_serviceTypeLabels each) same
  have bytes : queryBytes txId dnsRrtypePtr labels = queryBytes txId dnsRrtypePtr name := by
    rw [queryBytes, queryBytes, encoded]
  rw [encoded] at same
  rw [bytes]
  have count := length_of_sameName plain.each (plain_serviceTypeLabels each).each same
  have other {labels' : List Bytes} (plain' : Plain labelLimit labels') (apart : labels'.length ≠ 3) :
      ¬ SameName (encodeName name) (encodeName labels') := fun same' =>
    apart ((length_of_sameName plain.each plain'.each same').symm.trans count)
  let info : MdnsRrInfo := ⟨⟨encodeName name⟩, dnsRrtypePtr, dnsRrclassIn⟩
  have reads := readQuery_queryBytes txId (show dnsRrtypePtr < 65536 by decide) plain
  let query := queryOf (queryBytes txId dnsRrtypePtr name) addr mdnsPort mdnsV4Group
  let read : ReadQuery := ⟨[(info, false)], []⟩
  have wants (r : MdnsRecord) : read.wants query.packet.pbuf r = decide (Asks info r) := by
    simp [ReadQuery.wants, read]
  have flush : query.flush = true := rfl
  have asksName : Asks info (servicenamePtrRecord service) := ⟨same, .inl rfl, .inl rfl⟩
  have noType : ¬ Asks info (servicetypePtrRecord service) := fun asks =>
    other plain_dnssdLabels (by decide) asks.1
  have noHost : ¬ Asks info (hostv4PtrRecord netif mdns true) := fun asks =>
    other (plain_reverseV4Labels netif.ip4Addr) (by simp [reverseV4Labels, ip4Octets]) asks.1
  have noSrv : ¬ Asks info (srvRecord mdns service true) := fun asks =>
    absurd asks.2.1 (show ¬ (dnsRrtypePtr = dnsRrtypeSrv ∨ dnsRrtypePtr = dnsRrtypeAny) by decide)
  have noTxt : ¬ Asks info (txtRecord service true) := fun asks =>
    absurd asks.2.1 (show ¬ (dnsRrtypePtr = dnsRrtypeTxt ∨ dnsRrtypePtr = dnsRrtypeAny) by decide)
  have noA : ¬ Asks info (aRecord netif mdns true) := fun asks =>
    absurd asks.2.1 (show ¬ (dnsRrtypePtr = dnsRrtypeA ∨ dnsRrtypePtr = dnsRrtypeAny) by decide)
  have answers : query.answers netif mdns read = [servicenamePtrRecord service] := by
    rw [MdnsQuery.answers, ownRecords, slot, flush, List.filter_append]
    have host : (if netif.ip4Addr ≠ 0 then [aRecord netif mdns true, hostv4PtrRecord netif mdns true]
        else []).filter (read.wants query.packet.pbuf) = [] := by
      split
      · simp [wants, noA, noHost]
      · rfl
    rw [host]
    simp [slotRecords, wants, noType, asksName, noSrv, noTxt]
  have extras : query.extras netif mdns read =
      [srvRecord mdns service true, txtRecord service true, aRecord netif mdns true] := by
    rw [MdnsQuery.extras, slot, flush]
    simp [slotExtras, wants, asksName, noSrv, noTxt, noA, recordWhen]
  have nothing : query.repeated read = [] := rfl
  have all : query.answers netif mdns read ++ query.extras netif mdns read =
      [servicenamePtrRecord service, srvRecord mdns service true, txtRecord service true,
        aRecord netif mdns true] := by
    rw [answers, extras]
    rfl
  have small : (queryBytes txId dnsRrtypePtr name).length < 65536 := by
    have fits := plain.fits
    have limit : mdnsDomainMaxlen = 256 := rfl
    have length := length_encodeName name
    have header : (queryHeader txId).length = 12 := rfl
    have fields : (hton16 dnsRrtypePtr ++ hton16 dnsRrclassIn).length = 4 := rfl
    rw [queryBytes, List.length_append, List.length_append, header, fields]
    omega
  have accepted : QueryHeader (queryBytes txId dnsRrtypePtr name) := by
    have flags : (queryBytes txId dnsRrtypePtr name).getD 2 0 = 1 := by
      rw [queryBytes, queryHeader]
      rfl
    refine ⟨?_, by rw [flags]; rfl, by rw [flags]; rfl⟩
    have header : (queryHeader txId).length = sizeofDnsHdr := rfl
    rw [queryBytes, List.length_append, header]
    omega
  have sized : ∀ r ∈ query.answers netif mdns read ++ query.extras netif mdns read, r.Sized := by
    rw [all]
    intro r mem
    simp only [List.mem_cons, List.not_mem_nil, or_false] at mem
    rcases mem with rfl | rfl | rfl | rfl
    · exact fun _ other => (by cases other)
    · exact fun _ other => (by cases other)
    · exact fun empty => absurd empty txt
    · exact fun empty => (by cases empty)
  have sends := mdnsHandleQuestion_sends named size small rfl reads (by rw [answers]; simp) sized
    (by rw [nothing, all]; exact fits)
  obtain ⟨sent, sends⟩ := Option.isSome_iff_exists.mp sends
  obtain ⟨read', reads', answered⟩ := mdnsHandleQuestion_answers named
    (fun q mem => (Option.some.inj mem) ▸ size) small rfl sends
  obtain rfl : read = read' := Option.some.inj (reads.symm.trans reads')
  obtain ⟨⟨asked, none_, received⟩, destination, _, _⟩ := answered
  refine ⟨sent, ?_, destination, ?_⟩
  · rw [mdnsRecvQuery_eq, if_pos accepted]
    exact sends
  · obtain rfl : asked = [] := List.map_eq_nil_iff.mp none_
    rw [all] at received
    exact received

theorem mdnsRecvQuery_discovers_node :
    ∃ sent, mdnsRecvQuery (some nodePbuf) nodeNetif (some nodeHost) nodeQuery 0x05a8a8c0 mdnsPort
        mdnsV4Group = some sent ∧
      (sent.addr, sent.port) = (mdnsV4Group, mdnsPort) ∧
      Received sent.bytes [] [servicenamePtrRecord nodeService,
        srvRecord nodeHost nodeService true, txtRecord nodeService true,
        aRecord nodeNetif nodeHost true] :=
  mdnsRecvQuery_discovers nodeHost_named length_nodePbuf rfl 7 rfl (by decide +kernel) 0x05a8a8c0
    (by decide +kernel)

end Received

end LwipExt.Mdns
