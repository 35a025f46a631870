import LwipExt.Lib.Run
import LwipExt.Mdns.Client

/-!
What a multicast DNS response says about a service, and what of it the client should
take over.

A service instance is announced by a PTR record, which names the instance, its SRV
and TXT records and the A record of the host in the SRV record. `Carries` says that a
response has these four in this order, `SetFrom` that an interface has their values,
and `Belongs` which records concern a service at all. Names are compared without case.
-/

namespace LwipExt.Mdns

/-! ### The answers of a packet -/

/-- The answers that can be read, of the `left` that the packet announces. -/
def readAnswers : Nat → MdnsPacket → List MdnsAnswer
  | 0, _ => []
  | left + 1, pkt =>
      match mdnsReadAnswer pkt with
      | (none, _) => []
      | (some ans, pkt) => ans :: readAnswers left pkt

/-- The answers of a packet. -/
def MdnsPacket.answers (pkt : MdnsPacket) : List MdnsAnswer := readAnswers pkt.answersLeft pkt

/-- The loop of `mdnsClientParseAnswer` as a step on each answer, until it ends. -/
def handleStep (p : Bytes) (s : Parse × Bool) (ans : MdnsAnswer) : Parse × Bool :=
  if s.2 then handleAnswer p s.1 ans else s

theorem field_pbuf (pkt : MdnsPacket) (len : Nat) : (pkt.field len).2.pbuf = pkt.pbuf := by
  simp only [MdnsPacket.field]
  split <;> rfl

theorem mdnsReadRrInfo_pbuf (pkt : MdnsPacket) : (mdnsReadRrInfo pkt).2.pbuf = pkt.pbuf := by
  simp only [mdnsReadRrInfo]
  split
  · rfl
  split
  next first => exact (congrArg (·.2.pbuf) first).symm.trans (field_pbuf _ 2)
  next first =>
    have same := (congrArg (·.2.pbuf) first).symm.trans (field_pbuf _ 2)
    split
    next second => exact ((congrArg (·.2.pbuf) second).symm.trans (field_pbuf _ 2)).trans same
    next second => exact ((congrArg (·.2.pbuf) second).symm.trans (field_pbuf _ 2)).trans same

/-- Reading an answer moves on in the same packet. -/
theorem mdnsReadAnswer_pbuf (pkt : MdnsPacket) : (mdnsReadAnswer pkt).2.pbuf = pkt.pbuf := by
  simp only [mdnsReadAnswer]
  split
  · rfl
  split
  · rfl
  split
  · rfl
  have info := mdnsReadRrInfo_pbuf { pkt with answersLeft := pkt.answersLeft - 1 }
  split
  next read => exact (congrArg (·.2.pbuf) read).symm.trans info
  next afterInfo read =>
    have same : afterInfo.pbuf = pkt.pbuf := (congrArg (·.2.pbuf) read).symm.trans info
    have ttl := field_pbuf afterInfo 4
    split
    next read => exact ((congrArg (·.2.pbuf) read).symm.trans ttl).trans same
    next afterTtl read =>
      have same : afterTtl.pbuf = pkt.pbuf :=
        ((congrArg (·.2.pbuf) read).symm.trans ttl).trans same
      have length := field_pbuf afterTtl 2
      split
      next read => exact ((congrArg (·.2.pbuf) read).symm.trans length).trans same
      next read => exact ((congrArg (·.2.pbuf) read).symm.trans length).trans same

theorem run_ended (p : Bytes) (s : Parse) (answers : List MdnsAnswer) :
    Lib.run (handleStep p) (s, false) answers = (s, false) := by
  induction answers with
  | nil => rfl
  | cons ans rest ih => exact ih

/-- The loop that reads and handles one answer after the other handles the answers of
the packet. -/
theorem parseAnswers_eq (left : Nat) (pkt : MdnsPacket) (s : Parse) :
    parseAnswers left pkt s =
      (Lib.run (handleStep pkt.pbuf) (s, true) (readAnswers left pkt)).1 := by
  induction left generalizing pkt s with
  | zero => rfl
  | succ left ih =>
      have kept := mdnsReadAnswer_pbuf pkt
      simp only [parseAnswers, readAnswers]
      generalize mdnsReadAnswer pkt = result at kept ⊢
      obtain ⟨answer, rest⟩ := result
      cases answer with
      | none => rfl
      | some ans =>
          have same : rest.pbuf = pkt.pbuf := kept
          simp only [Lib.run_cons, handleStep, if_true]
          split
          next ended => rw [ended, run_ended]
          next more => rw [more, ih, same]

/-! ### Names -/

/-- A name as it stands in a packet. -/
def encodeName (labels : List Bytes) : Bytes :=
  labels.flatMap (fun label => UInt8.ofNat label.length :: label) ++ [0]

/-- A name as text. -/
def dotted (labels : List Bytes) : Bytes := List.intercalate [46] labels

/-- Names that differ in case only. -/
def SameName (name name' : Bytes) : Prop := name.map toLower = name'.map toLower

instance (name name' : Bytes) : Decidable (SameName name name') :=
  inferInstanceAs (Decidable (_ = _))

/-- The name at an offset of a packet. -/
def nameAt (p : Bytes) (offset : Nat) : Option Bytes :=
  match mdnsReadname p offset with
  | (after, domain) => if after = mdnsReadnameError then none else some domain.name

/-- The labels of a service type. -/
def NmosApiType.labels (type : NmosApiType) : List Bytes := type.service.splitOn 46

/-! ### The TXT record -/

/-- The items of a TXT record, each behind its length. -/
def txtItems : Nat → Bytes → List Bytes
  | 0, _ => []
  | _ + 1, [] => []
  | rounds + 1, len :: rest => rest.take len.toNat :: txtItems rounds (rest.drop len.toNat)

/-- The value of a key in the TXT record. -/
def txtValue (rdata key : Bytes) : Option Bytes :=
  ((txtItems rdata.length rdata).find? fun item => (key ++ [61]).isPrefixOf item).map
    fun item => item.drop (key.length + 1)

/-- The flags of the API versions in a list of them. -/
def versionFlagsOf (value : Bytes) : UInt8 :=
  let flag (version : Bytes) (bit : UInt8) : UInt8 :=
    if version ∈ value.splitOn 44 then bit else 0
  flag nmosApiVersion10 1 ||| flag nmosApiVersion11 2 ||| flag nmosApiVersion12 4

/-! ### The records of a service -/

/-- The records of a service instance with what its names say: the label of the
instance, the service type as the response spells it, and the host. -/
structure ServiceRecords where
  ptr : MdnsAnswer
  srv : MdnsAnswer
  txt : MdnsAnswer
  a : MdnsAnswer
  label : Bytes
  service : List Bytes
  host : List Bytes
  deriving DecidableEq, Repr

/-- The response carries the PTR, SRV, TXT and A records of an instance of a service
in this order. -/
structure Carries (pkt : MdnsPacket) (type : NmosApiType) (own : ServiceRecords) : Prop where
  inOrder : [own.ptr, own.srv, own.txt, own.a].Sublist pkt.answers
  classes : ∀ ans ∈ [own.ptr, own.srv, own.txt, own.a], ans.info.klass = dnsRrclassIn
  types : [own.ptr, own.srv, own.txt, own.a].map (·.info.type) =
    [dnsRrtypePtr, dnsRrtypeSrv, dnsRrtypeTxt, dnsRrtypeA]
  ofType : SameName (encodeName own.service) (encodeName type.labels)
  ptrOwner : SameName own.ptr.info.domain.name (encodeName own.service)
  named : own.label ≠ []
  ptrTarget : nameAt pkt.pbuf own.ptr.rdOffset = some (encodeName (own.label :: own.service))
  srvOwner : SameName own.srv.info.domain.name (encodeName (own.label :: own.service))
  srvTarget : nameAt pkt.pbuf (own.srv.rdOffset + 6) = some (encodeName own.host)
  txtOwner : SameName own.txt.info.domain.name (encodeName (own.label :: own.service))
  aOwner : SameName own.a.info.domain.name (encodeName own.host)
  aLength : own.a.rdLength = 4

/-- The address in an A record. -/
def addressOf (p : Bytes) (a : MdnsAnswer) : UInt32 :=
  let rdata (i : Nat) : UInt8 := p.getD (a.rdOffset + i) 0
  lwipMakeU32 (rdata 3) (rdata 2) (rdata 1) (rdata 0)

/-- The interface has what the records of its service say. -/
structure SetFrom (p : Bytes) (apiIf : NmosApiInterface) (own : ServiceRecords) : Prop where
  name : cstr apiIf.name = own.label
  port : apiIf.port = ntoh (bufRead p (own.srv.rdOffset + 4) 2)
  hostname : cstr apiIf.hostname = dotted own.host
  versions : ∀ value,
    txtValue (bufRead p own.txt.rdOffset own.txt.rdLength) nmosApiNameVersion = some value →
      apiIf.versionFlags = versionFlagsOf value
  protocol : ∀ value,
    txtValue (bufRead p own.txt.rdOffset own.txt.rdLength) nmosApiNameProtocol = some value →
      apiIf.protoFlags = if value = nmosApiProtocolHttp then 1 else 0
  priority : ∀ n : UInt8,
    txtValue (bufRead p own.txt.rdOffset own.txt.rdLength) nmosApiNamePriority =
      some (decimal n.toNat) → apiIf.priority = n
  ip : apiIf.ip = addressOf p own.a

/-- The record concerns a service: its PTR record, a record of one of its instances, or
an A record of a host that the interface knows or that an SRV record of the response
names for an instance. -/
def Belongs (pkt : MdnsPacket) (type : NmosApiType) (hostname : Bytes) (ans : MdnsAnswer) :
    Prop :=
  let ofInstance (ans : MdnsAnswer) : Prop :=
    ∃ label, SameName ans.info.domain.name (encodeName (label :: type.labels))
  if ans.info.type = dnsRrtypePtr then SameName ans.info.domain.name (encodeName type.labels)
  else if ans.info.type = dnsRrtypeA then
    (∃ host, host ≠ [] ∧ SameName ans.info.domain.name (encodeName host) ∧
      isStringEqual hostname (dotted host)) ∨
    ∃ srv ∈ pkt.answers, srv.info.type = dnsRrtypeSrv ∧ ofInstance srv ∧
      ∃ host, nameAt pkt.pbuf (srv.rdOffset + 6) = some host ∧ SameName ans.info.domain.name host
  else ofInstance ans

/-- A step of the parsing changes no field of an interface that the record is foreign
to. -/
def KeepsForeign (pkt : MdnsPacket) (s : Parse × Bool) (ans : MdnsAnswer) : Prop :=
  ∀ type, ¬ Belongs pkt type (s.1.client.apiIf type).hostname ans →
    (handleStep pkt.pbuf s ans).1.client.apiIf type = s.1.client.apiIf type

/-- No record of another service changes a field of an interface. -/
def ForeignKept (client : MdnsClient) (pkt : MdnsPacket) : Prop :=
  let start := { client with domainName := List.replicate mdnsDomainMaxlen 0 }
  Lib.Along (handleStep pkt.pbuf) (KeepsForeign pkt) (⟨start, none, exitFailure⟩, true)
    pkt.answers

/-- The client takes from a response what it says: of each service whose records it
carries the values, and nothing from the records of others. -/
structure Understood (client : MdnsClient) (pkt : MdnsPacket) : Prop where
  set : ∀ type own, Carries pkt type own →
    SetFrom pkt.pbuf ((mdnsClientParseAnswer client pkt).1.apiIf type) own
  kept : ForeignKept client pkt

end LwipExt.Mdns
