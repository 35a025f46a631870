import LwipExt.Mdns.Response

/-!
What the client learns from responses.

The parsers look for the owner name of a record in `domainName`, but the call that
puts it there is compiled with the debug output only. So `domainName` stays the empty
string that `mdnsClientParseAnswer` starts with, a PTR record finds no interface and
ends the parsing, and the SRV and TXT records have no interface to go to. The empty
name does equal the empty host name of the registration interface: whatever A record
comes before a PTR record sets its address.
-/

namespace LwipExt.Mdns

/-! ### The client between responses -/

/-- An interface that no record was found for. -/
structure Unnamed (apiIf : NmosApiInterface) : Prop where
  name : cstr apiIf.name = []
  hostname : cstr apiIf.hostname = []

/-- Neither service was found. -/
def Unfound (client : MdnsClient) : Prop := ∀ type, Unnamed (client.apiIf type)

/-- While answers are parsed, no owner name was read and no interface chosen. -/
structure Unheard (s : Parse) : Prop where
  unfound : Unfound s.client
  domainName : cstr s.client.domainName = []
  apiIf : s.apiIf = none

/-- The parsing goes on behind a record: its data could be copied, it is of class IN,
and it is no PTR record. -/
def Passes (p : Bytes) (ans : MdnsAnswer) : Prop :=
  ans.rdLength ≤ 256 ∧ (pbufCopyPartial p ans.rdLength ans.rdOffset).length = ans.rdLength ∧
    ans.info.klass = dnsRrclassIn ∧ ans.info.type ≠ dnsRrtypePtr

/-- The record has an address. -/
def HasAddress (ans : MdnsAnswer) : Prop := ans.info.type = dnsRrtypeA ∧ ans.rdLength = 4

instance (p : Bytes) (ans : MdnsAnswer) : Decidable (Passes p ans) :=
  inferInstanceAs (Decidable (_ ∧ _))

instance (ans : MdnsAnswer) : Decidable (HasAddress ans) := inferInstanceAs (Decidable (_ ∧ _))

/-- Of the records that the parsing reaches, those with an address of a host that is
not of the registration service repeat the address before them, the first of them the
address `ip`. -/
def QuietAddresses (pkt : MdnsPacket) (hostname : Bytes) : UInt32 → List MdnsAnswer → Prop
  | _, [] => True
  | ip, ans :: rest =>
      Passes pkt.pbuf ans →
        if HasAddress ans then
          (¬ Belongs pkt .registration hostname ans → addressOf pkt.pbuf ans = ip) ∧
            QuietAddresses pkt hostname (addressOf pkt.pbuf ans) rest
        else QuietAddresses pkt hostname ip rest

theorem Unfound.of_sameNames {client client' : MdnsClient} (unfound : Unfound client)
    (same : ∀ type, (client'.apiIf type).name = (client.apiIf type).name ∧
      (client'.apiIf type).hostname = (client.apiIf type).hostname) : Unfound client' := by
  intro type
  obtain ⟨name, hostname⟩ := same type
  constructor
  · rw [name]
    exact (unfound type).name
  · rw [hostname]
    exact (unfound type).hostname

/-! ### One answer -/

theorem strstr_empty {buf : Bytes} (token : Bytes) (empty : cstr buf = []) (nonempty : token ≠ []) :
    strstr buf token = none := by
  rw [strstr, if_neg nonempty]
  cases buf with
  | nil => rfl
  | cons b rest =>
      have zero : b = 0 := by simpa [cstr, List.takeWhile_cons] using empty
      rw [Lib.findBefore_cons, if_pos zero]

/-- Without an owner name no interface is found. -/
theorem mdnsFindApiIfFromAnswer_unread {client : MdnsClient}
    (unread : cstr client.domainName = []) : mdnsFindApiIfFromAnswer client = none := by
  have registration := strstr_empty nmosMdnsTypeRegistration unread (by decide)
  have query := strstr_empty nmosMdnsTypeQuery unread (by decide)
  simp [mdnsFindApiIfFromAnswer, registration, query]

/-- The interface an A record finds is that of the registration service. -/
theorem mdnsClientDnsParseRRA_unread {client : MdnsClient} (unfound : Unfound client)
    (unread : cstr client.domainName = []) (answer : MdnsAnswer) :
    mdnsClientDnsParseRRA client answer =
      (if answer.rdLength = 4 then
        { client with registrationApi := { client.registrationApi with
            ip := lwipMakeU32 (client.rdata.getD 3 0) (client.rdata.getD 2 0)
              (client.rdata.getD 1 0) (client.rdata.getD 0 0) } }
       else client, exitSuccess) := by
  have noHost : cstr client.registrationApi.hostname = [] := (unfound .registration).hostname
  have found : isStringEqual client.domainName client.registrationApi.hostname = true := by
    simp [isStringEqual, unread, noHost]
  simp only [mdnsClientDnsParseRRA, found, if_true]
  by_cases whole : answer.rdLength = 4
  · simp [whole, MdnsClient.apiIf, MdnsClient.updateApi, noHost]
  · simp [whole]

/-- The data of a record, where the parsers find it. -/
theorem getD_rdata (rdata p : Bytes) (ans : MdnsAnswer) (i : Nat) (inside : i < ans.rdLength)
    (whole : (pbufCopyPartial p ans.rdLength ans.rdOffset).length = ans.rdLength) :
    (bufWrite rdata 0 (pbufCopyPartial p ans.rdLength ans.rdOffset)).getD i 0 =
      p.getD (ans.rdOffset + i) 0 := by
  rw [getD_bufWrite_eq, if_neg (Nat.not_lt_zero i), Nat.zero_add, if_pos (by omega), Nat.sub_zero]
  simp only [pbufCopyPartial, List.getD_eq_getElem?_getD, List.getElem?_take, List.getElem?_drop,
    if_pos inside]

/-- What one answer leaves of the parsing: it goes on behind an answer that passes, and
no field of an interface changed but the address of the registration interface. -/
structure LittleHeard (p : Bytes) (s : Parse) (ans : MdnsAnswer) (s' : Parse × Bool) : Prop where
  goesOn : s'.2 = decide (Passes p ans)
  domainName : s'.1.client.domainName = s.client.domainName
  apiIf : s'.1.apiIf = none
  queryApi : s'.1.client.queryApi = s.client.queryApi
  registrationApi : s'.1.client.registrationApi =
    if Passes p ans ∧ HasAddress ans then
      { s.client.registrationApi with ip := addressOf p ans }
    else s.client.registrationApi

theorem handleAnswer_unheard {s : Parse} (p : Bytes) (ans : MdnsAnswer) (unheard : Unheard s) :
    LittleHeard p s ans (handleAnswer p s ans) := by
  obtain ⟨unfound, unread, noApi⟩ := unheard
  by_cases long : 256 < ans.rdLength
  · have stops : ¬ Passes p ans := fun passes => by
      have short := passes.1
      omega
    rw [handleAnswer, if_pos long]
    constructor <;> simp [stops, noApi]
  by_cases whole : (pbufCopyPartial p ans.rdLength ans.rdOffset).length = ans.rdLength
  swap
  · have stops : ¬ Passes p ans := fun passes => whole passes.2.1
    simp only [handleAnswer, if_neg long, ne_eq, whole, not_false_eq_true, if_true]
    constructor <;> simp [stops, noApi]
  by_cases internet : ans.info.klass = dnsRrclassIn
  swap
  · have stops : ¬ Passes p ans := fun passes => internet passes.2.2.1
    simp only [handleAnswer, if_neg long, ne_eq, whole, internet, not_true_eq_false,
      not_false_eq_true, if_false, if_true]
    constructor <;> simp [stops, noApi]
  simp only [handleAnswer, if_neg long, ne_eq, whole, internet, not_true_eq_false, if_false]
  have passes : ans.info.type ≠ dnsRrtypePtr → Passes p ans :=
    fun other => ⟨by omega, whole, internet, other⟩
  by_cases isA : ans.info.type = dnsRrtypeA
  · have isNotPtr : ans.info.type ≠ dnsRrtypePtr := by rw [isA]; decide
    simp only [if_pos isA]
    rw [mdnsClientDnsParseRRA_unread (by exact unfound) (by exact unread)]
    by_cases four : ans.rdLength = 4
    · have address := fun i inside => getD_rdata s.client.rdata p ans i inside whole
      rw [if_pos four, address 0 (by omega), address 1 (by omega), address 2 (by omega),
        address 3 (by omega)]
      constructor <;> simp [passes isNotPtr, noApi, HasAddress, isA, four, addressOf]
    · rw [if_neg four]
      constructor <;> simp [passes isNotPtr, noApi, HasAddress, isA, four]
  have noAddress : ¬ HasAddress ans := fun address => isA address.1
  simp only [if_neg isA]
  by_cases isPtr : ans.info.type = dnsRrtypePtr
  · have stops : ¬ Passes p ans := fun passes => passes.2.2.2 isPtr
    rw [if_pos isPtr, mdnsFindApiIfFromAnswer_unread (by exact unread)]
    constructor <;> simp [stops]
  -- without an interface, the SRV and TXT records are not looked at
  simp only [if_neg isPtr, noApi, mdnsClientDnsParseSRV, mdnsClientDnsParseTXT]
  split
  · constructor <;> simp [passes isPtr, noAddress]
  split
  · constructor <;> simp [passes isPtr, noAddress]
  · constructor <;> simp [passes isPtr, noAddress]

/-- The parsing of an answer changes no name. -/
theorem LittleHeard.unheard {p : Bytes} {s : Parse} {ans : MdnsAnswer} {s' : Parse × Bool}
    (little : LittleHeard p s ans s') (unheard : Unheard s) : Unheard s'.1 := by
  constructor
  · apply unheard.unfound.of_sameNames
    intro type
    cases type with
    | registration =>
        simp only [MdnsClient.apiIf, little.registrationApi]
        split <;> exact ⟨rfl, rfl⟩
    | query =>
        simp only [MdnsClient.apiIf, little.queryApi, and_self]
  · rw [little.domainName]
    exact unheard.domainName
  · exact little.apiIf

/-! ### A response -/

theorem handleStep_unheard {s : Parse × Bool} (p : Bytes) (ans : MdnsAnswer)
    (unheard : Unheard s.1) : Unheard (handleStep p s ans).1 := by
  rw [handleStep]
  split
  · exact (handleAnswer_unheard p ans unheard).unheard unheard
  · exact unheard

/-- The parse starts with no owner name and no interface. -/
theorem start_unheard {client : MdnsClient} (unfound : Unfound client) (ret : Int) :
    Unheard ⟨{ client with domainName := List.replicate mdnsDomainMaxlen 0 }, none, ret⟩ := by
  constructor
  · exact unfound.of_sameNames fun type => by cases type <;> exact ⟨rfl, rfl⟩
  · rfl
  · rfl

/-- No response finds a service. -/
theorem mdnsClientParseAnswer_unfound {client : MdnsClient} (unfound : Unfound client)
    (pkt : MdnsPacket) : Unfound (mdnsClientParseAnswer client pkt).1 := by
  rw [mdnsClientParseAnswer, parseAnswers_eq]
  have unheard := Lib.run_invariant_of_step (fun s : Parse × Bool => Unheard s.1)
    (fun s ans unheard => handleStep_unheard pkt.pbuf ans unheard)
    (s := (_, true)) (start_unheard unfound exitFailure) pkt.answers
  exact unheard.unfound

theorem along_ended (pkt : MdnsPacket) (s : Parse) (answers : List MdnsAnswer) :
    Lib.Along (handleStep pkt.pbuf) (KeepsForeign pkt) (s, false) answers := by
  induction answers with
  | nil => trivial
  | cons ans rest ih => exact ⟨fun _ _ => rfl, ih⟩

/-- A record without an address, or one that is not reached, changes no interface. -/
theorem keepsForeign_of_noAddress {pkt : MdnsPacket} {s : Parse} {ans : MdnsAnswer}
    (little : LittleHeard pkt.pbuf s ans (handleStep pkt.pbuf (s, true) ans))
    (nothing : ¬ (Passes pkt.pbuf ans ∧ HasAddress ans)) : KeepsForeign pkt (s, true) ans := by
  intro type _
  cases type with
  | registration => exact little.registrationApi.trans (if_neg nothing)
  | query => exact little.queryApi

/-- An A record keeps the interfaces it is foreign to exactly when it is of the
registration service or its address is no news. -/
theorem keepsForeign_iff_of_address {pkt : MdnsPacket} {s : Parse} {ans : MdnsAnswer}
    (little : LittleHeard pkt.pbuf s ans (handleStep pkt.pbuf (s, true) ans))
    (address : Passes pkt.pbuf ans ∧ HasAddress ans) :
    KeepsForeign pkt (s, true) ans ↔
      (¬ Belongs pkt .registration s.client.registrationApi.hostname ans →
        addressOf pkt.pbuf ans = s.client.registrationApi.ip) := by
  have written := little.registrationApi.trans (if_pos address)
  constructor
  · intro keeps foreign
    have same := written.symm.trans (keeps .registration foreign)
    exact congrArg NmosApiInterface.ip same
  · intro noNews type foreign
    cases type with
    | registration =>
        refine written.trans ?_
        rw [noNews foreign]
        rfl
    | query => exact little.queryApi

/-- Through a response, nothing foreign is taken over exactly when its addresses are
quiet. -/
theorem foreignKept_iff_quiet (pkt : MdnsPacket) (answers : List MdnsAnswer) {s : Parse}
    (unheard : Unheard s) :
    Lib.Along (handleStep pkt.pbuf) (KeepsForeign pkt) (s, true) answers ↔
      QuietAddresses pkt s.client.registrationApi.hostname s.client.registrationApi.ip
        answers := by
  induction answers generalizing s with
  | nil => exact Iff.rfl
  | cons ans rest ih =>
      have little : LittleHeard pkt.pbuf s ans (handleStep pkt.pbuf (s, true) ans) :=
        handleAnswer_unheard pkt.pbuf ans unheard
      have unheard' := little.unheard unheard
      have goesOn := little.goesOn
      have registration := little.registrationApi
      rw [Lib.along_cons, QuietAddresses]
      by_cases passes : Passes pkt.pbuf ans
      swap
      · have keeps := keepsForeign_of_noAddress little fun both => passes both.1
        have ended := along_ended pkt (handleStep pkt.pbuf (s, true) ans).1 rest
        rw [decide_eq_false passes] at goesOn
        rw [← goesOn] at ended
        exact ⟨fun _ reached => absurd reached passes, fun _ => ⟨keeps, ended⟩⟩
      have next : handleStep pkt.pbuf (s, true) ans =
          ((handleStep pkt.pbuf (s, true) ans).1, true) :=
        Prod.ext rfl (goesOn.trans (decide_eq_true passes))
      have rest_iff := ih unheard'
      rw [← next, registration] at rest_iff
      rw [rest_iff]
      by_cases address : HasAddress ans
      · rw [keepsForeign_iff_of_address little ⟨passes, address⟩, if_pos address,
          if_pos ⟨passes, address⟩]
        exact ⟨fun both _ => both, fun both => both passes⟩
      · have nothing : ¬ (Passes pkt.pbuf ans ∧ HasAddress ans) := fun both => address both.2
        have keeps := keepsForeign_of_noAddress little nothing
        rw [if_neg nothing, if_neg address]
        exact ⟨fun both _ => both.2, fun quiet => ⟨keeps, quiet passes⟩⟩

/-! ### Any run -/

theorem mdnsClientSendQuery_apiIf (client : MdnsClient) (apiType type : NmosApiType) :
    (mdnsClientSendQuery client apiType).apiIf type = client.apiIf type := by
  simp only [mdnsClientSendQuery]
  split <;> cases type <;> rfl

/-- The start of a query clears its interface and no other. -/
theorem mdnsClientInitQueryForInterface_apiIf (client : MdnsClient) (type type' : NmosApiType) :
    (mdnsClientInitQueryForInterface client type).apiIf type' =
      if type' = type then { type := type, service := type.service, ip := 0xFFFFFFFF }
      else client.apiIf type' := by
  rw [mdnsClientInitQueryForInterface, mdnsClientSendQuery_apiIf]
  cases type <;> cases type' <;> rfl

/-- The client starts with no service found. -/
theorem mdnsClientInit_unfound (client : MdnsClient) (seed : Nat) :
    Unfound (mdnsClientInit client seed) := by
  intro type
  rw [mdnsClientInit, mdnsClientInitQueryForInterface_apiIf,
    mdnsClientInitQueryForInterface_apiIf]
  cases type <;> exact ⟨rfl, rfl⟩

/-- A datagram finds no service. -/
theorem mdnsRecv_unfound {client : MdnsClient} (datagram : Datagram) (unfound : Unfound client) :
    Unfound (mdnsRecv client datagram) := by
  simp only [mdnsRecv]
  split
  · exact unfound
  split
  · exact unfound
  split
  · rw [mdnsHandleResponse]
    split
    · exact unfound
    · exact mdnsClientParseAnswer_unfound unfound _
  · exact unfound

/-- After any datagrams, the client understands a response exactly when the response
carries the records of neither service and, up to its first PTR record, no new address
of another host. -/
theorem understood_iff (client : MdnsClient) (seed : Nat) (datagrams : List Datagram)
    (pkt : MdnsPacket) :
    Understood (Lib.run mdnsRecv (mdnsClientInit client seed) datagrams) pkt ↔
      (∀ type own, ¬ Carries pkt type own) ∧
      QuietAddresses pkt
        (Lib.run mdnsRecv (mdnsClientInit client seed) datagrams).registrationApi.hostname
        (Lib.run mdnsRecv (mdnsClientInit client seed) datagrams).registrationApi.ip
        pkt.answers := by
  have unfound := Lib.run_invariant_of_step Unfound
    (fun client datagram unfound => mdnsRecv_unfound datagram unfound)
    (mdnsClientInit_unfound client seed) datagrams
  generalize Lib.run mdnsRecv (mdnsClientInit client seed) datagrams = client at unfound ⊢
  have quiet := foreignKept_iff_quiet pkt pkt.answers (start_unheard unfound exitFailure)
  constructor
  · intro understood
    constructor
    · intro type own carried
      have name := (understood.set type own carried).name
      rw [(mdnsClientParseAnswer_unfound unfound pkt type).name] at name
      exact carried.named name.symm
    · exact quiet.mp understood.kept
  · rintro ⟨none, addresses⟩
    constructor
    · intro type own carried
      exact absurd carried (none type own)
    · exact quiet.mpr addresses

/-- A response of a registration service, compressed as responders do it: the instance
`reg`, port 8080 of the host `rds.local` with the address 192.168.1.2. -/
def registrationResponse : Bytes :=
  [0, 0, 0x84, 0, 0, 0, 0, 4, 0, 0, 0, 0] ++
  18 :: str "_nmos-registration" ++ 4 :: str "_tcp" ++ 5 :: str "local" ++ 0 ::
    hton16 dnsRrtypePtr ++ hton16 dnsRrclassIn ++ [0, 0, 0, 120, 0, 6] ++
    3 :: str "reg" ++ [0xc0, 12] ++
  [0xc0, 53] ++ hton16 dnsRrtypeSrv ++ hton16 dnsRrclassIn ++ [0, 0, 0, 120, 0, 12] ++
    [0, 0, 0, 0, 0x1f, 0x90] ++ 3 :: str "rds" ++ [0xc0, 36] ++
  [0xc0, 53] ++ hton16 dnsRrtypeTxt ++ hton16 dnsRrclassIn ++ [0, 0, 0, 120, 0, 40] ++
    14 :: str "api_proto=http" ++ 17 :: str "api_ver=v1.0,v1.1" ++ 6 :: str "pri=10" ++
  [0xc0, 77] ++ hton16 dnsRrtypeA ++ hton16 dnsRrclassIn ++ [0, 0, 0, 120, 0, 4] ++
    [192, 168, 1, 2]

/-- What that response says of the service. -/
def registrationRecords : ServiceRecords :=
  let instanceName := 3 :: str "reg" ++ encodeName (NmosApiType.labels .registration)
  let ofType (type : Nat) (name : Bytes) : MdnsRrInfo := ⟨⟨name⟩, type, dnsRrclassIn⟩
  { ptr := ⟨ofType dnsRrtypePtr (encodeName (NmosApiType.labels .registration)), false, 120, 6, 53⟩
    srv := ⟨ofType dnsRrtypeSrv instanceName, false, 120, 12, 71⟩
    txt := ⟨ofType dnsRrtypeTxt instanceName, false, 120, 40, 95⟩
    a := ⟨ofType dnsRrtypeA (encodeName [str "rds", str "local"]), false, 120, 4, 147⟩
    label := str "reg"
    service := NmosApiType.labels .registration
    host := [str "rds", str "local"] }

/-- The client as the linker leaves it. -/
def mdnsClientStatic : MdnsClient where
  txId := 0
  domainName := []
  service := []
  qType := 0
  rdata := []
  state := .init
  registrationApi := { type := .registration }
  queryApi := { type := .registration }
  pool := []
  sent := []

/-- The client takes nothing from that response. -/
theorem registrationResponse_not_understood :
    ¬ ∀ pkt, Understood (mdnsClientInit mdnsClientStatic 7) pkt := by
  intro understood
  have carried : Carries (receivedPacket registrationResponse) .registration
      registrationRecords := by
    constructor
    · have answers : (receivedPacket registrationResponse).answers =
          [registrationRecords.ptr, registrationRecords.srv, registrationRecords.txt,
            registrationRecords.a] := by decide +kernel
      rw [answers]
    all_goals decide +kernel
  have name := ((understood (receivedPacket registrationResponse)).set _ _ carried).name
  revert name
  decide +kernel

end LwipExt.Mdns
