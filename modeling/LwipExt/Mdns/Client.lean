import LwipExt.CString
import LwipExt.Mdns.Packet
import Mathlib.Algebra.Group.Int.Defs

/-!
The multicast DNS client of `extMdnsClient.c`, which looks for the registration and
query services, and the part of `mdns_recv` that hands it a response.

Its parsers pass names in two arrays of the client: `domainName`, a C string that one
of them writes and another compares, and `rdata`, where the bytes after those of the
current record are those of earlier ones. Both are buffers here, read past their
strings as the source reads them; memory behind an array reads as zero.
-/

namespace LwipExt.Mdns

/-- `NMOS_API_TYPE` of the interfaces that the client looks for. -/
inductive NmosApiType where
  | registration
  | query
  deriving DecidableEq, Repr

/-- `NMOS_API_INTERFACE`. -/
structure NmosApiInterface where
  type : NmosApiType
  protoFlags : UInt8 := 0
  versionFlags : UInt8 := 0
  priority : UInt8 := 0
  port : Nat := 0
  ip : UInt32 := 0
  hostname : Bytes := []
  name : Bytes := []
  service : Bytes := []
  deriving DecidableEq, Repr

/-- `MDNS_CLIENT_STATE`, the values that are assigned. -/
inductive MdnsClientState where
  | init
  | parsePtr
  | requestApi
  deriving DecidableEq, Repr

/-- `mdns_client_t`. `pool` holds what the coming calls of `pbuf_alloc` find, memory
once it runs out, and `sent` the packets handed to `udp_sendto`. -/
structure MdnsClient where
  txId : Nat
  domainName : Bytes
  service : Bytes
  qType : Nat
  rdata : Bytes
  state : MdnsClientState
  registrationApi : NmosApiInterface
  queryApi : NmosApiInterface
  pool : List Bool
  sent : List Bytes
  deriving DecidableEq, Repr

/-- The interface a pointer of the source points to. -/
def MdnsClient.apiIf (client : MdnsClient) : NmosApiType → NmosApiInterface
  | .registration => client.registrationApi
  | .query => client.queryApi

/-- A change of that interface. -/
def MdnsClient.updateApi (client : MdnsClient) (type : NmosApiType)
    (change : NmosApiInterface → NmosApiInterface) : MdnsClient :=
  match type with
  | .registration => { client with registrationApi := change client.registrationApi }
  | .query => { client with queryApi := change client.queryApi }

/-- `EXIT_SUCCESS`, `EXIT_FAILURE` and `ERR_VAL`. -/
def exitSuccess : Int := 0
def exitFailure : Int := 1
def errVal : Int := -6

/-- `NMOS_MDNS_TYPE_REGISTRATION`. -/
def nmosMdnsTypeRegistration : Bytes := str "_nmos-registration._tcp.local"

/-- `NMOS_MDNS_TYPE_QUERY`. -/
def nmosMdnsTypeQuery : Bytes := str "_nmos-query._tcp.local"

/-- The service type of an interface. -/
def NmosApiType.service : NmosApiType → Bytes
  | .registration => nmosMdnsTypeRegistration
  | .query => nmosMdnsTypeQuery

/-- `NMOS_API_NAME_PROTOCOL`, `NMOS_API_NAME_VERSION` and `NMOS_API_NAME_PRIORITY`. -/
def nmosApiNameProtocol : Bytes := str "api_proto"
def nmosApiNameVersion : Bytes := str "api_ver"
def nmosApiNamePriority : Bytes := str "pri"

/-- `NMOS_API_PROTOCOL_HTTP`. -/
def nmosApiProtocolHttp : Bytes := str "http"

/-- `NMOS_API_VERSION_10`, `NMOS_API_VERSION_11` and `NMOS_API_VERSION_12`. -/
def nmosApiVersion10 : Bytes := str "v1.0"
def nmosApiVersion11 : Bytes := str "v1.1"
def nmosApiVersion12 : Bytes := str "v1.2"

/-- `LWIP_MAKEU32`. -/
def lwipMakeU32 (a b c d : UInt8) : UInt32 :=
  a.toUInt32 <<< 24 ||| b.toUInt32 <<< 16 ||| c.toUInt32 <<< 8 ||| d.toUInt32

/-- `strtol(text, NULL, 10)`, with a `long` of 32 bits. -/
def strtol (text : Bytes) : Int :=
  let digits (t : Bytes) : Nat :=
    (t.takeWhile fun b => 48 ≤ b ∧ b ≤ 57).foldl (fun n b => n * 10 + (b.toNat - 48)) 0
  match text.dropWhile fun b => b = 32 ∨ 9 ≤ b ∧ b ≤ 13 with
  | 45 :: rest => max (-2 ^ 31) (-(digits rest : Int))
  | 43 :: rest => min (2 ^ 31 - 1) (digits rest)
  | rest => min (2 ^ 31 - 1) (digits rest)

/-- `sprintf` of a string into a buffer. -/
def sprintf (buf text : Bytes) : Bytes := bufWrite buf 0 (text ++ [0])

/-! ### Queries -/

/-- `pbuf_put_at`. -/
def pbufPutAt (p : Bytes) (offset : Nat) (byte : UInt8) : Bytes := p.set offset byte

/-- `pbuf_take_at`. -/
def pbufTakeAt (p data : Bytes) (offset : Nat) : Bytes :=
  if offset < p.length ∧ offset + data.length ≤ p.length then bufWrite p offset data else p

/-- A 16-bit number behind `lwip_htons`. -/
def hton16 (n : Nat) : Bytes := [UInt8.ofNat (n / 256), UInt8.ofNat n]

/-- The labels of a name in the packet: each behind its length. -/
def putLabels : List Bytes → Nat → Bytes → Nat × Bytes
  | [], queryIdx, p => (queryIdx, p)
  | label :: labels, queryIdx, p =>
      let n := UInt8.ofNat label.length
      let p := pbufTakeAt (pbufPutAt p queryIdx n) label (u16 (queryIdx + 1))
      putLabels labels (u16 (queryIdx + (n.toNat + 1))) p

/-- The packet that `mdnsClientSendQuery` sends. -/
def queryPacket (txId qType : Nat) (hostOrServiceName : Bytes) : Bytes :=
  let p := List.replicate (u16 (sizeofDnsHdr + hostOrServiceName.length + 2 + 4)) 0
  let header := hton16 txId ++ [0x01, 0] ++ hton16 1 ++ List.replicate 6 0
  match putLabels (hostOrServiceName.splitOn 46) sizeofDnsHdr (pbufTakeAt p header 0) with
  | (queryIdx, p) =>
      let p := pbufPutAt p queryIdx 0
      pbufTakeAt p (hton16 qType ++ hton16 dnsRrclassIn) (u16 (queryIdx + 1))

/-- `mdnsClientSendQuery`. Its callers compare the result with `!ERR_OK`, which no
`err_t` is, so only its effect is modelled. -/
def mdnsClientSendQuery (client : MdnsClient) (apiType : NmosApiType) : MdnsClient :=
  let qType := if cstr (client.apiIf apiType).hostname = [] then dnsRrtypePtr else dnsRrtypeA
  let allocated := { client with pool := client.pool.tail }
  if client.pool.head? = some false then allocated
  else
    { allocated with
      txId := u16 (client.txId + 1)
      sent := client.sent ++ [queryPacket client.txId qType (cstr client.domainName)] }

/-! ### Records -/

/-- `_mdnsClientGetOneLabel`: the destination, and the offset of the next label. -/
def mdnsClientGetOneLabel (dest label : Bytes) : Bytes × Nat :=
  let labelLen := (label.getD 0 0).toNat
  (sprintf dest (bufRead label 1 labelLen), labelLen + 1)

/-- The labels that `_mdnsClientGetFullDomain` writes, each with its dot. -/
def dottedLabels : Nat → Bytes → Bytes
  | 0, _ => []
  | rounds + 1, src =>
      let labelLen := (src.getD 0 0).toNat
      if labelLen = 0 then []
      else bufRead src 1 labelLen ++ 46 :: dottedLabels rounds (src.drop (labelLen + 1))

/-- `_mdnsClientGetFullDomain` into `domainName`. The last dot gives way to the NUL;
without any label, that byte is the one before the array, the high byte of `txId`. -/
def mdnsClientGetFullDomain (client : MdnsClient) (srcLabel : Bytes) : MdnsClient :=
  let text := dottedLabels (srcLabel.length + 1) srcLabel
  if text = [] then { client with txId := client.txId % 256 }
  else { client with domainName := sprintf client.domainName text.dropLast }

/-- `_mdnsClientDnsParseRRA`. -/
def mdnsClientDnsParseRRA (client : MdnsClient) (answer : MdnsAnswer) : MdnsClient × Int :=
  let apiIf :=
    if isStringEqual client.domainName client.registrationApi.hostname then
      some NmosApiType.registration
    else if isStringEqual client.domainName client.queryApi.hostname then some .query
    else none
  match apiIf with
  | none => (client, exitFailure)
  | some type =>
      let rdata (i : Nat) : UInt8 := client.rdata.getD i 0
      if cstr (client.apiIf type).hostname <+: cstr client.domainName ∧ answer.rdLength = 4 then
        (client.updateApi type fun apiIf =>
          { apiIf with ip := lwipMakeU32 (rdata 3) (rdata 2) (rdata 1) (rdata 0) }, exitSuccess)
      else (client, exitSuccess)

/-- One item of a TXT record, found in `domainName`. -/
def mdnsClientTxtItem (client : MdnsClient) (type : NmosApiType) (ret : Int) : MdnsClient × Int :=
  let item := client.domainName
  let has (token : Bytes) : Bool := (strstr item token).isSome
  let setVersion (version : Bytes) (flag : UInt8) (s : MdnsClient × Int) : MdnsClient × Int :=
    if has version then
      (s.1.updateApi type fun apiIf =>
        { apiIf with versionFlags := apiIf.versionFlags ||| flag }, exitSuccess)
    else s
  if has nmosApiNameProtocol then
    if bufRead item 10 4 = nmosApiProtocolHttp ∧ (cstr item).length ≠ 15 then
      (client.updateApi type fun apiIf => { apiIf with protoFlags := apiIf.protoFlags ||| 1 },
        exitSuccess)
    else (client, ret)
  else if has nmosApiNameVersion then
    setVersion nmosApiVersion12 4
      (setVersion nmosApiVersion11 2 (setVersion nmosApiVersion10 1 (client, ret)))
  else if has nmosApiNamePriority then
    -- the field is unsigned, so the test for a negative priority never holds
    (client.updateApi type fun apiIf =>
      { apiIf with priority := UInt8.ofNat (strtol (item.drop 4) % 256).toNat }, exitSuccess)
  else (client, ret)

/-- The loop over the items of a TXT record of `rdLength` bytes. -/
def mdnsClientTxtItems (type : NmosApiType) (rdLength : Nat) :
    Nat → Nat → MdnsClient → Int → MdnsClient × Int
  | 0, _, client, ret => (client, ret)
  | rounds + 1, offset, client, ret =>
      if rdLength < offset then (client, ret)
      else
        match mdnsClientTxtItem client type ret with
        | (client, ret) =>
            match mdnsClientGetOneLabel client.domainName (client.rdata.drop offset) with
            | (domainName, length) =>
                mdnsClientTxtItems type rdLength rounds (u16 (offset + length))
                  { client with domainName := domainName } ret

/-- `_mdnsClientDnsParseTXT`. -/
def mdnsClientDnsParseTXT (client : MdnsClient) (apiIf : Option NmosApiType)
    (answer : MdnsAnswer) : MdnsClient × Int :=
  match apiIf with
  | none => (client, exitFailure)
  | some type =>
      if isStringEqual client.domainName (client.apiIf type).name then (client, exitFailure)
      else
        match mdnsClientGetOneLabel client.domainName client.rdata with
        | (domainName, offset) =>
            mdnsClientTxtItems type answer.rdLength (answer.rdLength + 1) offset
              { client with domainName := domainName } exitFailure

/-- `_mdnsClientDnsParseSRV`. -/
def mdnsClientDnsParseSRV (p : Bytes) (client : MdnsClient) (apiIf : Option NmosApiType) :
    MdnsClient × Int :=
  match apiIf with
  | none => (client, exitFailure)
  | some type =>
      if isStringEqual client.domainName (client.apiIf type).name then (client, exitFailure)
      else
        let client := { client with state := .requestApi }.updateApi type fun apiIf =>
          { apiIf with port := ntoh (bufRead client.rdata 4 2) }
        let firstLabelLength := client.rdata.getD 6 0
        let client :=
          if firstLabelLength &&& 0xc0 = 0xc0 then
            let jumpaddr := (firstLabelLength &&& 0x3f).toNat * 256 + (client.rdata.getD 7 0).toNat
            let client :=
              { client with rdata := bufWrite client.rdata 0 (pbufCopyPartial p 256 jumpaddr) }
            mdnsClientGetFullDomain client client.rdata
          else mdnsClientGetFullDomain client (client.rdata.drop 6)
        let client := client.updateApi type fun apiIf =>
          { apiIf with hostname := sprintf apiIf.hostname (cstr client.domainName ++ str ".local") }
        let client :=
          { client with
            domainName := sprintf client.domainName (cstr (client.apiIf type).hostname) }
        (mdnsClientSendQuery client type, exitSuccess)

/-- `_mdnsFindApiIfFromAnswer`. -/
def mdnsFindApiIfFromAnswer (client : MdnsClient) : Option NmosApiType :=
  if (strstr client.domainName nmosMdnsTypeRegistration).isSome then some .registration
  else if (strstr client.domainName nmosMdnsTypeQuery).isSome then some .query
  else none

/-- The variables of `mdnsClientParseAnswer`: the client, `apiIf` and `ret`. -/
structure Parse where
  client : MdnsClient
  apiIf : Option NmosApiType
  ret : Int
  deriving DecidableEq, Repr

/-- What the loop of `mdnsClientParseAnswer` does with an answer, and whether it goes
on. -/
def handleAnswer (p : Bytes) (s : Parse) (ans : MdnsAnswer) : Parse × Bool :=
  if 256 < ans.rdLength then (s, false)
  else
    let copied := pbufCopyPartial p ans.rdLength ans.rdOffset
    let s := { s with client := { s.client with rdata := bufWrite s.client.rdata 0 copied } }
    if copied.length ≠ ans.rdLength then ({ s with ret := errVal }, false)
    else if ans.info.klass ≠ dnsRrclassIn then (s, false)
    else if ans.info.type = dnsRrtypeA then
      match mdnsClientDnsParseRRA s.client ans with
      | (client, ret) => ({ s with client := client, ret := ret }, true)
    else if ans.info.type = dnsRrtypePtr then
      match mdnsFindApiIfFromAnswer s.client with
      | none => ({ s with apiIf := none, ret := exitFailure }, false)
      | some type =>
          let client := s.client.updateApi type fun apiIf =>
            { apiIf with name := (mdnsClientGetOneLabel apiIf.name s.client.rdata).1 }
          ({ s with client := { client with state := .parsePtr }, apiIf := some type }, true)
    else if ans.info.type = dnsRrtypeSrv then
      match mdnsClientDnsParseSRV p s.client s.apiIf with
      | (client, ret) => ({ s with client := client, ret := ret }, true)
    else if ans.info.type = dnsRrtypeTxt then
      match mdnsClientDnsParseTXT s.client s.apiIf ans with
      | (client, ret) => ({ s with client := client, ret := ret }, true)
    else (s, true)

/-- The loop of `mdnsClientParseAnswer`, `left` answers before its end. -/
def parseAnswers : Nat → MdnsPacket → Parse → Parse
  | 0, _, s => s
  | left + 1, pkt, s =>
      match mdnsReadAnswer pkt with
      | (none, _) => s
      | (some ans, pkt') =>
          match handleAnswer pkt.pbuf s ans with
          | (s, false) => s
          | (s, true) => parseAnswers left pkt' s

/-- `mdnsClientParseAnswer`. -/
def mdnsClientParseAnswer (client : MdnsClient) (pkt : MdnsPacket) : MdnsClient × Int :=
  let client := { client with domainName := List.replicate mdnsDomainMaxlen 0 }
  let s := parseAnswers pkt.answersLeft pkt ⟨client, none, exitFailure⟩
  (s.client, s.ret)

/-! ### The life of the client -/

/-- `_mdnsClientInitQueryForInterface`. -/
def mdnsClientInitQueryForInterface (client : MdnsClient) (type : NmosApiType) : MdnsClient :=
  let client := client.updateApi type fun _ =>
    { type := type, service := type.service, ip := 0xFFFFFFFF }
  let client := { client with domainName := sprintf client.domainName type.service }
  mdnsClientSendQuery client type

/-- `mdnsClientInit`, where `rand` returned `seed`. -/
def mdnsClientInit (client : MdnsClient) (seed : Nat) : MdnsClient :=
  let client := { client with
    service := sprintf client.service (snprintf 128 nmosMdnsTypeRegistration)
    qType := dnsRrtypePtr
    txId := u16 seed
    state := .init }
  mdnsClientInitQueryForInterface (mdnsClientInitQueryForInterface client .registration) .query

/-- The questions of a response, which `mdns_handle_response` reads first; `none` when
one of them cannot be read. -/
def skipQuestions : Nat → MdnsPacket → Option MdnsPacket
  | 0, pkt => some pkt
  | left + 1, pkt =>
      match mdnsReadQuestion pkt with
      | (none, _) => none
      | (some _, pkt) => skipQuestions left pkt

/-- `mdns_handle_response`. -/
def mdnsHandleResponse (client : MdnsClient) (pkt : MdnsPacket) : MdnsClient :=
  match skipQuestions pkt.questionsLeft pkt with
  | none => client
  | some pkt => (mdnsClientParseAnswer client pkt).1

/-- A datagram on the port of multicast DNS, and whether its interface was set up for
it. -/
structure Datagram where
  configured : Bool
  bytes : Bytes
  deriving DecidableEq, Repr

/-- The packet that `mdns_recv` fills in from the header. -/
def receivedPacket (p : Bytes) : MdnsPacket where
  pbuf := p
  parseOffset := sizeofDnsHdr
  questionsLeft := ntoh (bufRead p 4 2)
  answersLeft := u16 (ntoh (bufRead p 6 2) + ntoh (bufRead p 8 2) + ntoh (bufRead p 10 2))

/-- `mdns_recv`, for the client. Questions are for the responder. -/
def mdnsRecv (client : MdnsClient) (datagram : Datagram) : MdnsClient :=
  let p := datagram.bytes
  let flags1 := p.getD 2 0
  if datagram.configured = false ∨ p.length < sizeofDnsHdr then client
  else if flags1 >>> 3 &&& 0xf ≠ 0 then client
  else if flags1 &&& 0x80 ≠ 0 then mdnsHandleResponse client (receivedPacket p)
  else client

end LwipExt.Mdns
