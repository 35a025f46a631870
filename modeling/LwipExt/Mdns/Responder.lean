import LwipExt.Mdns.Outpacket
import LwipExt.Mdns.Client

/-!
The multicast DNS responder of `extMdns.c`: what a host and its services are asked, which answers
it gives, and the packet that it sends.

An interface has one IPv4 address, as the stack is built without IPv6. The TXT data of a service
come from a callback, which is a parameter. The bit masks of replies are records of their bits.
A reply or an announcement is what is handed to `udp_sendto_if`; `none` stands for every path on
which nothing is sent. `fresh` is what `pbuf_alloc` returns for it.
-/

namespace LwipExt.Mdns

/-- `DNS_RRTYPE_ANY` and `DNS_RRCLASS_ANY`. -/
def dnsRrtypeAny : Nat := 255
def dnsRrclassAny : Nat := 255

/-- `MDNS_PORT`. -/
def mdnsPort : Nat := 5353

/-- The IPv4 group of multicast DNS, 224.0.0.251, as it is in memory. -/
def mdnsV4Group : UInt32 := 0xFB0000E0

/-- A string in an array `char [MDNS_LABEL_MAXLEN + 1]`. -/
structure LabelText where
  text : Bytes
  short : text.length ≤ mdnsLabelMaxlen
  plain : 0 ∉ text
  deriving DecidableEq

/-- `enum mdns_sd_proto`. -/
inductive MdnsSdProto where
  | udp
  | tcp
  deriving DecidableEq, Repr

/-- `dnssd_protos`. -/
def dnssdProtos : MdnsSdProto → Bytes
  | .udp => str "_udp"
  | .tcp => str "_tcp"

/-- `struct mdns_service`; the callback makes the TXT data from empty ones. -/
structure MdnsService where
  name : LabelText
  service : LabelText
  txtFn : Option (MdnsDomain → MdnsDomain)
  dnsTtl : Nat
  proto : MdnsSdProto
  port : Nat

/-- `struct mdns_host`, with a slot for each of `MDNS_MAX_SERVICES` services. -/
structure MdnsHost where
  name : LabelText
  services : List (Option MdnsService)
  dnsTtl : Nat

/-- What the responder uses of an interface. -/
structure Netif where
  ip4Addr : UInt32
  deriving DecidableEq, Repr

/-- The bytes of an IPv4 address in memory. -/
def ip4Octets (addr : UInt32) : Bytes :=
  [addr.toUInt8, (addr >>> 8).toUInt8, (addr >>> 16).toUInt8, (addr >>> 24).toUInt8]

/-! ### Domains -/

/-- `lwip_strnicmp` compares one character more than `len`, up to a NUL: whether the strings are
equal. -/
def lwipStrnicmp : Nat → Bytes → Bytes → Bool
  | len, str1, str2 =>
      let c1 := str1.getD 0 0
      let c2 := str2.getD 0 0
      let upc (c : UInt8) : UInt8 := c ||| 0x20
      if c1 ≠ c2 ∧ ¬ (97 ≤ upc c1 ∧ upc c1 ≤ 122 ∧ upc c1 = upc c2) then false
      else
        match len with
        | 0 => true
        | len + 1 => if c1 = 0 then true else lwipStrnicmp len (str1.drop 1) (str2.drop 1)

/-- The loop of `mdns_domain_eq`, both pointers at offset `i`. -/
def mdnsDomainEqLoop (a b : MdnsDomain) : Nat → Nat → Bool
  | 0, _ => false
  | rounds + 1, i =>
      let x := a.name.getD i 0
      let y := b.name.getD i 0
      if x ≠ 0 ∧ y ≠ 0 ∧ i < a.length then
        if x ≠ y then false
        else if lwipStrnicmp x.toNat (a.name.drop (i + 1)) (b.name.drop (i + 1)) = false then false
        else mdnsDomainEqLoop a b rounds (i + 1 + x.toNat)
      else ¬ (x ≠ y ∧ i < a.length)

/-- `mdns_domain_eq`. -/
def mdnsDomainEq (a b : MdnsDomain) : Bool :=
  if a.length ≠ b.length then false else mdnsDomainEqLoop a b (a.length + 1) 0

/-- Labels added one after the other, until one is refused. -/
def addLabels : MdnsDomain → List Bytes → MdnsDomain × Bool
  | domain, [] => (domain, true)
  | domain, label :: labels =>
      match mdnsDomainAddLabel domain label with
      | none => (domain, false)
      | some domain => addLabels domain labels

/-- `mdns_build_reverse_v4_domain`. -/
def mdnsBuildReverseV4Domain (addr : UInt32) : MdnsDomain × Bool :=
  addLabels {} ((ip4Octets addr).reverse.map (fun val => decimal val.toNat) ++
    [str "in-addr", str "arpa", []])

/-- `mdns_build_host_domain`. -/
def mdnsBuildHostDomain (mdns : MdnsHost) : MdnsDomain × Bool :=
  addLabels {} [mdns.name.text, str "local", []]

/-- `mdns_build_dnssd_domain`. -/
def mdnsBuildDnssdDomain : MdnsDomain × Bool :=
  addLabels {} [str "_services", str "_dns-sd", dnssdProtos .udp, str "local", []]

/-- `mdns_build_service_domain`. -/
def mdnsBuildServiceDomain (service : MdnsService) (includeName : Bool) : MdnsDomain × Bool :=
  addLabels {} ((if includeName then [service.name.text] else []) ++
    [service.service.text, dnssdProtos service.proto, str "local", []])

/-- `mdns_prepare_txtdata`. -/
def mdnsPrepareTxtdata (service : MdnsService) : MdnsDomain :=
  match service.txtFn with
  | none => {}
  | some txtFn => txtFn {}

/-- `mdns_resp_add_service_txtitem`. -/
def mdnsRespAddServiceTxtitem (txtdata : MdnsDomain) (txt : Bytes) : Option MdnsDomain :=
  mdnsDomainAddLabel txtdata txt

/-- `srv_txt`, the callback of the service of the node. -/
def srvTxt (txtdata : MdnsDomain) : MdnsDomain :=
  match mdnsRespAddServiceTxtitem txtdata (str "api_proto=http") with
  | none => txtdata
  | some txtdata =>
      (mdnsRespAddServiceTxtitem txtdata (str "api_ver=v1.0,v1.1,v1.2")).getD txtdata

/-! ### Which replies -/

/-- The class and one of the types that a question or a known answer may be about. -/
def MdnsRrInfo.isType (rr : MdnsRrInfo) (type : Nat) : Bool :=
  rr.type = type ∨ rr.type = dnsRrtypeAny

/-- Whether a domain could be built and is that of a question. -/
def MdnsRrInfo.isFor (rr : MdnsRrInfo) (mydomain : MdnsDomain × Bool) : Bool :=
  mydomain.2 && mdnsDomainEq rr.domain mydomain.1

/-- `check_host`. -/
def checkHost (netif : Netif) (mdns : MdnsHost) (rr : MdnsRrInfo) : HostReplies :=
  if rr.klass ≠ dnsRrclassIn ∧ rr.klass ≠ dnsRrclassAny then {}
  else
    { ptrV4 := rr.isType dnsRrtypePtr && netif.ip4Addr ≠ 0 &&
        rr.isFor (mdnsBuildReverseV4Domain netif.ip4Addr)
      a := rr.isFor (mdnsBuildHostDomain mdns) && (netif.ip4Addr ≠ 0 && rr.isType dnsRrtypeA) }

/-- `check_service`. -/
def checkService (service : MdnsService) (rr : MdnsRrInfo) : ServReplies :=
  if rr.klass ≠ dnsRrclassIn ∧ rr.klass ≠ dnsRrclassAny then {}
  else
    { typePtr := rr.isFor mdnsBuildDnssdDomain && rr.isType dnsRrtypePtr
      namePtr := rr.isFor (mdnsBuildServiceDomain service false) && rr.isType dnsRrtypePtr
      srv := rr.isFor (mdnsBuildServiceDomain service true) && rr.isType dnsRrtypeSrv
      txt := rr.isFor (mdnsBuildServiceDomain service true) && rr.isType dnsRrtypeTxt }

/-- Bits of either mask. -/
def HostReplies.union (x y : HostReplies) : HostReplies := ⟨x.a || y.a, x.ptrV4 || y.ptrV4⟩

/-- Bits of the first mask that are not in the second. -/
def HostReplies.without (x y : HostReplies) : HostReplies := ⟨x.a && !y.a, x.ptrV4 && !y.ptrV4⟩

/-- Whether a bit is set. -/
def HostReplies.any (x : HostReplies) : Bool := x.a || x.ptrV4

/-- Bits of either mask. -/
def ServReplies.union (x y : ServReplies) : ServReplies :=
  ⟨x.typePtr || y.typePtr, x.namePtr || y.namePtr, x.srv || y.srv, x.txt || y.txt⟩

/-- Bits of the first mask that are not in the second. -/
def ServReplies.without (x y : ServReplies) : ServReplies :=
  ⟨x.typePtr && !y.typePtr, x.namePtr && !y.namePtr, x.srv && !y.srv, x.txt && !y.txt⟩

/-- Whether a bit is set. -/
def ServReplies.any (x : ServReplies) : Bool := x.typePtr || x.namePtr || x.srv || x.txt

/-! ### Answers -/

/-- `mdns_add_a_answer`. -/
def mdnsAddAAnswer (fresh : Option Bytes) (reply : MdnsOutpacket) (cacheFlush : Bool)
    (netif : Netif) (mdns : MdnsHost) : MdnsOutpacket × Bool :=
  mdnsAddAnswer fresh reply (mdnsBuildHostDomain mdns).1 dnsRrtypeA dnsRrclassIn cacheFlush
    mdns.dnsTtl (some (ip4Octets netif.ip4Addr)) none

/-- `mdns_add_hostv4_ptr_answer`. -/
def mdnsAddHostv4PtrAnswer (fresh : Option Bytes) (reply : MdnsOutpacket) (cacheFlush : Bool)
    (netif : Netif) (mdns : MdnsHost) : MdnsOutpacket × Bool :=
  mdnsAddAnswer fresh reply (mdnsBuildReverseV4Domain netif.ip4Addr).1 dnsRrtypePtr dnsRrclassIn
    cacheFlush mdns.dnsTtl none (some { domain := (mdnsBuildHostDomain mdns).1 })

/-- `mdns_add_servicetype_ptr_answer`. -/
def mdnsAddServicetypePtrAnswer (fresh : Option Bytes) (reply : MdnsOutpacket)
    (service : MdnsService) : MdnsOutpacket × Bool :=
  mdnsAddAnswer fresh reply mdnsBuildDnssdDomain.1 dnsRrtypePtr dnsRrclassIn false service.dnsTtl
    none (some { domain := (mdnsBuildServiceDomain service false).1 })

/-- `mdns_add_servicename_ptr_answer`. -/
def mdnsAddServicenamePtrAnswer (fresh : Option Bytes) (reply : MdnsOutpacket)
    (service : MdnsService) : MdnsOutpacket × Bool :=
  mdnsAddAnswer fresh reply (mdnsBuildServiceDomain service false).1 dnsRrtypePtr dnsRrclassIn
    false service.dnsTtl none (some { domain := (mdnsBuildServiceDomain service true).1 })

/-- `mdns_add_srv_answer`; priority and weight are 0. -/
def mdnsAddSrvAnswer (fresh : Option Bytes) (reply : MdnsOutpacket) (cacheFlush : Bool)
    (mdns : MdnsHost) (service : MdnsService) : MdnsOutpacket × Bool :=
  mdnsAddAnswer fresh reply (mdnsBuildServiceDomain service true).1 dnsRrtypeSrv dnsRrclassIn
    cacheFlush service.dnsTtl (some (hton16 0 ++ hton16 0 ++ hton16 service.port))
    (some { domain := (mdnsBuildHostDomain mdns).1, skipCompression := reply.legacyQuery })

/-- `mdns_add_txt_answer`. -/
def mdnsAddTxtAnswer (fresh : Option Bytes) (reply : MdnsOutpacket) (cacheFlush : Bool)
    (service : MdnsService) : MdnsOutpacket × Bool :=
  mdnsAddAnswer fresh reply (mdnsBuildServiceDomain service true).1 dnsRrtypeTxt dnsRrclassIn
    cacheFlush service.dnsTtl (some (mdnsPrepareTxtdata service).name) none

/-! ### Sending -/

/-- What is handed to `udp_sendto_if`. -/
structure MdnsSent where
  bytes : Bytes
  addr : UInt32
  port : Nat
  deriving DecidableEq, Repr

/-- `outpkt->answers++`. -/
def countAnswer (out : MdnsOutpacket) : MdnsOutpacket := { out with answers := u16 (out.answers + 1) }

/-- `outpkt->additional++`. -/
def countAdditional (out : MdnsOutpacket) : MdnsOutpacket :=
  { out with additional := u16 (out.additional + 1) }

/-- An answer that is added when it is selected, and counted; `none` is the jump to `cleanup`. -/
def addWhen (selected : Bool) (add : MdnsOutpacket → MdnsOutpacket × Bool)
    (count : MdnsOutpacket → MdnsOutpacket) (out : MdnsOutpacket) : Option MdnsOutpacket :=
  if selected then
    match add out with
    | (_, false) => none
    | (out, true) => some (count out)
  else some out

/-- The answers to host questions. -/
def addHostAnswers (fresh : Option Bytes) (netif : Netif) (mdns : MdnsHost) (out : MdnsOutpacket) :
    Option MdnsOutpacket := do
  let out ← addWhen out.hostReplies.a
    (fun out => mdnsAddAAnswer fresh out out.cacheFlush netif mdns) countAnswer out
  addWhen out.hostReplies.ptrV4
    (fun out => mdnsAddHostv4PtrAnswer fresh out out.cacheFlush netif mdns) countAnswer out

/-- The answers to questions for one service. -/
def addServiceAnswers (fresh : Option Bytes) (mdns : MdnsHost) (service : MdnsService)
    (replies : ServReplies) (out : MdnsOutpacket) : Option MdnsOutpacket := do
  let out ← addWhen replies.typePtr
    (fun out => mdnsAddServicetypePtrAnswer fresh out service) countAnswer out
  let out ← addWhen replies.namePtr
    (fun out => mdnsAddServicenamePtrAnswer fresh out service) countAnswer out
  let out ← addWhen replies.srv
    (fun out => mdnsAddSrvAnswer fresh out out.cacheFlush mdns service) countAnswer out
  addWhen replies.txt
    (fun out => mdnsAddTxtAnswer fresh out out.cacheFlush service) countAnswer out

/-- The additional records for one service. -/
def addServiceAdditional (fresh : Option Bytes) (netif : Netif) (mdns : MdnsHost)
    (service : MdnsService) (replies : ServReplies) (out : MdnsOutpacket) :
    Option MdnsOutpacket := do
  let out ← addWhen (replies.namePtr && !replies.srv)
    (fun out => mdnsAddSrvAnswer fresh out out.cacheFlush mdns service) countAdditional out
  let out ← addWhen (replies.namePtr && !replies.txt)
    (fun out => mdnsAddTxtAnswer fresh out out.cacheFlush service) countAdditional out
  addWhen ((replies.namePtr || replies.srv || out.hostReplies.a) && !out.hostReplies.a)
    (fun out => mdnsAddAAnswer fresh out out.cacheFlush netif mdns) countAdditional out

/-- A loop over the slots of the services with their replies. -/
def forServices (add : MdnsService → ServReplies → MdnsOutpacket → Option MdnsOutpacket) :
    List (Option MdnsService) → List ServReplies → MdnsOutpacket → Option MdnsOutpacket
  | [], _, out => some out
  | none :: services, replies, out => forServices add services replies.tail out
  | some service :: services, replies, out =>
      match add service (replies.headD {}) out with
      | none => none
      | some out => forServices add services replies.tail out

/-- The header of a reply. -/
def replyHeader (out : MdnsOutpacket) : Bytes :=
  (if out.legacyQuery then hton16 out.txId else [0, 0]) ++ [0x84, 0] ++
    (if out.legacyQuery then hton16 1 else [0, 0]) ++ hton16 out.answers ++ [0, 0] ++
      hton16 out.additional

/-- `mdns_send_outpacket`. -/
def mdnsSendOutpacket (fresh : Option Bytes) (netif : Netif) (mdns : MdnsHost)
    (outpkt : MdnsOutpacket) : Option MdnsSent := do
  let out ← addHostAnswers fresh netif mdns outpkt
  let out ← forServices (addServiceAnswers fresh mdns) mdns.services out.servReplies out
  let out ← forServices (addServiceAdditional fresh netif mdns) mdns.services out.servReplies out
  let p ← out.pbuf
  let bytes := (pbufTakeAt p (replyHeader out) 0).take out.writeOffset
  if out.unicastReply then some ⟨bytes, out.destAddr, out.destPort⟩
  else some ⟨bytes, mdnsV4Group, mdnsPort⟩

/-- `mdns_announce`. -/
def mdnsAnnounce (fresh : Option Bytes) (netif : Netif) (mdns : MdnsHost) (destination : UInt32) :
    Option MdnsSent :=
  mdnsSendOutpacket fresh netif mdns
    { cacheFlush := true
      hostReplies := if netif.ip4Addr ≠ 0 then ⟨true, true⟩ else {}
      servReplies := mdns.services.map fun service =>
        if service.isSome then ⟨true, true, true, true⟩ else {}
      destPort := mdnsPort
      destAddr := destination }

/-! ### Questions -/

/-- `struct mdns_packet` of a query: what the responder uses besides. -/
structure MdnsQuery where
  packet : MdnsPacket
  sourceAddr : UInt32
  sourcePort : Nat
  txId : Nat
  questions : Nat
  recvUnicast : Bool
  deriving DecidableEq, Repr

/-- `mdns_init_outpacket`. -/
def mdnsInitOutpacket (query : MdnsQuery) : MdnsOutpacket :=
  let out : MdnsOutpacket :=
    { cacheFlush := true, destAddr := query.sourceAddr, destPort := query.sourcePort }
  let out :=
    if query.sourcePort ≠ mdnsPort then
      let out := { out with unicastReply := true, cacheFlush := false }
      if query.questions = 1 then { out with legacyQuery := true, txId := query.txId } else out
    else out
  if query.recvUnicast then { out with unicastReply := true } else out

/-- `mdns_read_question`, with the flag that asks for a unicast reply. -/
def mdnsReadQuestionFlag (pkt : MdnsPacket) : Option (MdnsRrInfo × Bool) × MdnsPacket :=
  if pkt.pbuf.length < pkt.parseOffset then (none, pkt)
  else if pkt.questionsLeft = 0 then (none, pkt)
  else
    match mdnsReadRrInfo { pkt with questionsLeft := pkt.questionsLeft - 1 } with
    | (none, pkt) => (none, pkt)
    | (some info, pkt) =>
        (some ({ info with klass := info.klass % 0x8000 }, 0x8000 ≤ info.klass), pkt)

/-- The replies to a question are added to those selected. -/
def selectReplies (netif : Netif) (mdns : MdnsHost) (info : MdnsRrInfo) (reply : MdnsOutpacket) :
    MdnsOutpacket :=
  { reply with
    hostReplies := reply.hostReplies.union (checkHost netif mdns info)
    servReplies := mdns.services.zipWith (fun service replies =>
      match service with
      | none => replies
      | some service => replies.union (checkService service info)) reply.servReplies }

/-- Whether some reply is selected for the host or one of its services. -/
def MdnsOutpacket.selected (reply : MdnsOutpacket) : Bool :=
  reply.hostReplies.any || reply.servReplies.any ServReplies.any

/-- The loop of `mdns_handle_question` over the questions; `none` when one cannot be read, or
the question of a legacy query cannot be written. -/
def readQuestions (fresh : Option Bytes) (netif : Netif) (mdns : MdnsHost) :
    Nat → MdnsPacket → MdnsOutpacket → Option (MdnsPacket × MdnsOutpacket)
  | 0, pkt, reply => some (pkt, reply)
  | left + 1, pkt, reply =>
      match mdnsReadQuestionFlag pkt with
      | (none, _) => none
      | (some (info, unicast), pkt) =>
          let reply := { reply with unicastReply := reply.unicastReply || unicast }
          let reply := selectReplies netif mdns info reply
          if reply.selected && reply.legacyQuery then
            match mdnsAddQuestion fresh reply info.domain info.type info.klass false with
            | (_, false) => none
            | (reply, true) => readQuestions fresh netif mdns left pkt reply
          else readQuestions fresh netif mdns left pkt reply

/-- `pbuf_memcmp`: whether the packet has these bytes at an offset. -/
def pbufMemcmp (p : Bytes) (offset : Nat) (data : Bytes) : Bool :=
  offset + data.length ≤ p.length && pbufCopyPartial p data.length offset = data

/-- Whether a name in the packet is a domain that could be built. -/
def pbufNameEq (p : Bytes) (offset : Nat) (mydomain : MdnsDomain × Bool) : Bool :=
  match mdnsReadname p offset with
  | (len, known) => len ≠ mdnsReadnameError && mydomain.2 && mdnsDomainEq known mydomain.1

/-- The replies of the host that a known answer makes needless. -/
def knownHost (netif : Netif) (mdns : MdnsHost) (p : Bytes) (ans : MdnsAnswer)
    (selected : HostReplies) : HostReplies :=
  let check := checkHost netif mdns ans.info
  let matched : HostReplies := ⟨selected.a && check.a, selected.ptrV4 && check.ptrV4⟩
  if matched.any && mdns.dnsTtl / 2 < ans.ttl then
    if ans.info.type = dnsRrtypePtr then
      { ptrV4 := pbufNameEq p ans.rdOffset (mdnsBuildHostDomain mdns) && matched.ptrV4 }
    else if matched.a then
      { a := ans.rdLength = 4 && pbufMemcmp p ans.rdOffset (ip4Octets netif.ip4Addr) }
    else {}
  else {}

/-- The fields of a known SRV record that are compared with those of the service. -/
def sameSrv (p : Bytes) (mdns : MdnsHost) (service : MdnsService) (offset : Nat) : Bool :=
  pbufMemcmp p offset (hton16 0) && pbufMemcmp p (u16 (offset + 2)) (hton16 0) &&
    pbufMemcmp p (u16 (offset + 4)) (hton16 service.port) &&
      match mdnsReadname p (u16 (offset + 6)) with
      | (len, known) => len ≠ mdnsReadnameError && mdnsDomainEq known (mdnsBuildHostDomain mdns).1

/-- The replies of a service that a known answer makes needless. -/
def knownService (mdns : MdnsHost) (p : Bytes) (ans : MdnsAnswer) (service : MdnsService)
    (selected : ServReplies) : ServReplies :=
  let check := checkService service ans.info
  let matched : ServReplies := ⟨selected.typePtr && check.typePtr, selected.namePtr && check.namePtr,
    selected.srv && check.srv, selected.txt && check.txt⟩
  if matched.any && service.dnsTtl / 2 < ans.ttl then
    if ans.info.type = dnsRrtypePtr then
      { typePtr := matched.typePtr && pbufNameEq p ans.rdOffset (mdnsBuildServiceDomain service false)
        namePtr := matched.namePtr &&
          pbufNameEq p ans.rdOffset (mdnsBuildServiceDomain service true) }
    else if matched.srv then { srv := sameSrv p mdns service ans.rdOffset }
    else if matched.txt then
      { txt := (mdnsPrepareTxtdata service).length = ans.rdLength &&
          pbufMemcmp p ans.rdOffset (mdnsPrepareTxtdata service).name }
    else {}
  else {}

/-- A known answer withdraws what it makes needless. -/
def withdrawKnown (netif : Netif) (mdns : MdnsHost) (p : Bytes) (reply : MdnsOutpacket)
    (ans : MdnsAnswer) : MdnsOutpacket :=
  if ans.info.type = dnsRrtypeAny ∨ ans.info.klass = dnsRrclassAny then reply
  else
    { reply with
      hostReplies := reply.hostReplies.without (knownHost netif mdns p ans reply.hostReplies)
      servReplies := mdns.services.zipWith (fun service replies =>
        match service with
        | none => replies
        | some service => replies.without (knownService mdns p ans service replies))
        reply.servReplies }

/-- The loop of `mdns_handle_question` over the known answers; `none` when one cannot be read. -/
def readKnownAnswers (netif : Netif) (mdns : MdnsHost) :
    Nat → MdnsPacket → MdnsOutpacket → Option MdnsOutpacket
  | 0, _, reply => some reply
  | left + 1, pkt, reply =>
      match mdnsReadAnswer pkt with
      | (none, _) => none
      | (some ans, pkt') =>
          readKnownAnswers netif mdns left pkt' (withdrawKnown netif mdns pkt.pbuf reply ans)

/-- `mdns_handle_question`. -/
def mdnsHandleQuestion (fresh : Option Bytes) (netif : Netif) (mdns : MdnsHost)
    (query : MdnsQuery) : Option MdnsSent := do
  let reply := { mdnsInitOutpacket query with servReplies := mdns.services.map fun _ => {} }
  let (pkt, reply) ← readQuestions fresh netif mdns query.packet.questionsLeft query.packet reply
  let reply ← readKnownAnswers netif mdns pkt.answersLeft pkt reply
  mdnsSendOutpacket fresh netif mdns reply

/-! ### Received packets and services -/

/-- The query that `mdns_recv` makes of a datagram. -/
def receivedQuery (p : Bytes) (addr : UInt32) (port : Nat) (recvUnicast : Bool) : MdnsQuery where
  packet := receivedPacket p
  sourceAddr := addr
  sourcePort := port
  txId := ntoh (bufRead p 0 2)
  questions := ntoh (bufRead p 4 2)
  recvUnicast := recvUnicast

/-- `mdns_recv`, for the responder: the packet sent for a datagram, if one is. -/
def mdnsRecvQuery (fresh : Option Bytes) (netif : Netif) (mdns : Option MdnsHost) (p : Bytes)
    (addr : UInt32) (port : Nat) (destination : UInt32) : Option MdnsSent :=
  match mdns with
  | none => none
  | some mdns =>
      if p.length < sizeofDnsHdr then none
      else if p.getD 2 0 >>> 3 &&& 0xf ≠ 0 then none
      else if p.getD 2 0 &&& 0x80 ≠ 0 then none
      else
        mdnsHandleQuestion fresh netif mdns
          (receivedQuery p addr port (destination ≠ mdnsV4Group))

/-- `mdns_resp_netif_settings_changed`. -/
def mdnsRespNetifSettingsChanged (fresh : Option Bytes) (netif : Netif) (mdns : Option MdnsHost) :
    Option MdnsSent :=
  match mdns with
  | none => none
  | some mdns => mdnsAnnounce fresh netif mdns 0

/-- A string as it is copied into the array of a label, when it is short enough. -/
def labelText (text : Bytes) : Option LabelText :=
  if short : (cstr text).length ≤ mdnsLabelMaxlen then
    some ⟨cstr text, short, zero_not_mem_cstr text⟩
  else none

/-- `MDNS_MAX_SERVICES`. -/
def mdnsMaxServices : Nat := 1

/-- `mdns_resp_add_netif`: the host and the announcement; `none` when the name is refused, there is
no memory for the host or the group cannot be joined. -/
def mdnsRespAddNetif (fresh : Option Bytes) (netif : Netif) (hostname : Bytes) (dnsTtl : Nat)
    (allocated joined : Bool) : Option (MdnsHost × Option MdnsSent) := do
  let name ← labelText hostname
  if allocated && joined then
    let mdns : MdnsHost := ⟨name, List.replicate mdnsMaxServices none, dnsTtl⟩
    some (mdns, mdnsRespNetifSettingsChanged fresh netif (some mdns))
  else none

/-- The service goes to the first free slot; `none` when there is none. -/
def storeService (service : MdnsService) :
    List (Option MdnsService) → Option (List (Option MdnsService))
  | [] => none
  | none :: services => some (some service :: services)
  | some other :: services => (storeService service services).map (some other :: ·)

/-- `mdns_resp_add_service`: the host with the service and the announcement; `none` when the
service is refused or there is no memory for it. -/
def mdnsRespAddService (fresh : Option Bytes) (netif : Netif) (mdns : MdnsHost)
    (name service : Bytes) (proto : MdnsSdProto) (port dnsTtl : Nat)
    (txtFn : Option (MdnsDomain → MdnsDomain)) (allocated : Bool) :
    Option (MdnsHost × Option MdnsSent) := do
  let name ← labelText name
  let service ← labelText service
  let services ← storeService ⟨name, service, txtFn, dnsTtl, proto, port⟩ mdns.services
  if allocated then
    let mdns := { mdns with services }
    some (mdns, mdnsAnnounce fresh netif mdns 0)
  else none

end LwipExt.Mdns
