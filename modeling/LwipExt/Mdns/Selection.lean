import LwipExt.Mdns.DomainEq
import LwipExt.Mdns.Sent
import Mathlib.Data.Bool.Basic

/-!
Which records the multicast DNS responder selects for a query.

A question asks for a record of the same name and type, or any; a known answer supplies one that
the querier already has. The two loops of `mdns_handle_question` set and clear bits; what they
leave is the records that some question asks for and no known answer supplies, in whatever order
these stand (`mdnsHandleQuestion_answers`).
-/

namespace LwipExt.Mdns

/-! ### Questions and known answers about records -/

/-- A question asks for a record. -/
def Asks (rr : MdnsRrInfo) (r : MdnsRecord) : Prop :=
  SameName rr.domain.name (encodeName r.labels) ∧ (rr.type = r.type ∨ rr.type = dnsRrtypeAny) ∧
    (rr.klass = r.klass ∨ rr.klass = dnsRrclassAny)

instance (rr : MdnsRrInfo) (r : MdnsRecord) : Decidable (Asks rr r) :=
  inferInstanceAs (Decidable (_ ∧ _))

/-- The name at an offset is that of these labels. -/
def NamesAt (p : Bytes) (offset : Nat) (labels : List Bytes) : Prop :=
  (mdnsReadname p offset).1 ≠ mdnsReadnameError ∧
    SameName (mdnsReadname p offset).2.name (encodeName labels)

instance (p : Bytes) (offset : Nat) (labels : List Bytes) : Decidable (NamesAt p offset labels) :=
  inferInstanceAs (Decidable (_ ∧ _))

/-- A known answer ends as a record does. -/
def EndsAs (p : Bytes) (ans : MdnsAnswer) (r : MdnsRecord) : Option (List Bytes) → Prop
  | none => ans.rdLength = r.data.length
  | some labels => NamesAt p (ans.rdOffset + r.data.length) labels

instance (p : Bytes) (ans : MdnsAnswer) (r : MdnsRecord) (target : Option (List Bytes)) :
    Decidable (EndsAs p ans r target) :=
  match target with
  | none => inferInstanceAs (Decidable (_ = _))
  | some labels => inferInstanceAs (Decidable (NamesAt p _ labels))

/-- A known answer supplies a record, with at least half of its time left. -/
def Supplies (p : Bytes) (ans : MdnsAnswer) (r : MdnsRecord) : Prop :=
  SameName ans.info.domain.name (encodeName r.labels) ∧ ans.info.type = r.type ∧
    ans.info.klass = r.klass ∧ r.ttl / 2 < ans.ttl ∧ pbufMemcmp p ans.rdOffset r.data = true ∧
      EndsAs p ans r r.target

instance (p : Bytes) (ans : MdnsAnswer) (r : MdnsRecord) : Decidable (Supplies p ans r) :=
  inferInstanceAs (Decidable (_ ∧ _))

/-! ### Names in another case -/

/-- A character in another case is as printable. -/
theorem printable_of_sameCase {b c : UInt8} (same : toLower b = toLower c)
    (printable : labelLimit ≤ c.toNat) : labelLimit ≤ b.toNat := by
  have limit : labelLimit = 32 := rfl
  by_contra low
  rw [toLower_of_lt (by omega)] at same
  have above : labelLimit ≤ (toLower c).toNat := by
    rw [toLower]
    split
    next upper =>
      have upto := UInt8.le_iff_toNat_le.mp upper.2
      simp only [UInt8.reduceToNat] at upto
      have width : (32 : UInt8).toNat = 32 := rfl
      rw [UInt8.toNat_add, width]
      omega
    · exact printable
  rw [← same] at above
  omega

/-- A name in another case is made of labels of the same kind. -/
theorem encodeName_of_sameName {labels : List Bytes} {x : Bytes}
    (each : ∀ label ∈ labels, (label ≠ [] ∧ label.length ≤ mdnsLabelMaxlen) ∧
      label.length < labelLimit ∧ ∀ b ∈ label, labelLimit ≤ b.toNat)
    (same : SameName x (encodeName labels)) :
    ∃ labels', x = encodeName labels' ∧
      ∀ label ∈ labels', (label ≠ [] ∧ label.length ≤ mdnsLabelMaxlen) ∧
        label.length < labelLimit ∧ ∀ b ∈ label, labelLimit ≤ b.toNat := by
  induction labels generalizing x with
  | nil =>
      have nil : encodeName ([] : List Bytes) = [0] := rfl
      rw [nil, SameName, List.map_singleton, List.map_eq_singleton_iff] at same
      obtain ⟨c, rfl, zero⟩ := same
      refine ⟨[], ?_, fun _ mem => (by cases mem)⟩
      rw [(toLower_eq_zero_iff c).mp (zero.trans rfl)]
      rfl
  | cons label labels ih =>
      obtain ⟨⟨nonempty, short⟩, few, printable⟩ := each label (.head _)
      have limit : labelLimit = 32 := rfl
      rw [encodeName_cons, SameName, List.map_cons, List.map_append] at same
      obtain ⟨c, rest, rfl, first, others⟩ := List.map_eq_cons_iff.mp same
      obtain ⟨label', x', rfl, here, later⟩ := List.map_eq_append_iff.mp others
      obtain ⟨labels', rfl, each'⟩ := ih (fun next mem => each next (.tail _ mem)) later
      have length : label'.length = label.length := by
        have lengths := congrArg List.length here
        rwa [List.length_map, List.length_map] at lengths
      refine ⟨label' :: labels', ?_, ?_⟩
      · rw [encodeName_cons, length,
          (toLower_eq_low (by rw [UInt8.toNat_ofNat']; omega)).mp first]
      · intro next mem
        rcases List.mem_cons.mp mem with rfl | mem
        · refine ⟨⟨?_, by omega⟩, by omega, fun b inside => ?_⟩
          · rintro rfl
            exact nonempty (List.length_eq_zero_iff.mp (by rw [← length]; rfl))
          · have image : toLower b ∈ label.map toLower := here ▸ List.mem_map_of_mem inside
            obtain ⟨c, mem, same⟩ := List.mem_map.mp image
            exact printable_of_sameCase same.symm (printable c mem)
        · exact each' next mem

theorem plain_of_sameName {labels : List Bytes} (plain : Plain labelLimit labels) {x : Bytes}
    (same : SameName x (encodeName labels)) :
    ∃ labels', x = encodeName labels' ∧ Plain labelLimit labels' := by
  obtain ⟨labels', rfl, each⟩ := encodeName_of_sameName
    (fun label mem => ⟨plain.each label mem, plain.apart label mem⟩) same
  have lengths := congrArg List.length same
  rw [List.length_map, List.length_map, length_encodeName, length_encodeName] at lengths
  have fits := plain.fits
  exact ⟨labels', rfl, fun label mem => (each label mem).1, fun label mem => (each label mem).2,
    by omega⟩

/-! ### Masks -/

/-- The bits of the records of the host that pass a test. -/
def hostMask (netif : Netif) (mdns : MdnsHost) (flush : Bool) (test : MdnsRecord → Bool) :
    HostReplies where
  a := netif.ip4Addr ≠ 0 && test (aRecord netif mdns flush)
  ptrV4 := netif.ip4Addr ≠ 0 && test (hostv4PtrRecord netif mdns flush)

/-- The bits of the records of a service that pass a test. -/
def serviceMask (mdns : MdnsHost) (flush : Bool) (test : MdnsRecord → Bool)
    (service : MdnsService) : ServReplies where
  typePtr := test (servicetypePtrRecord service)
  namePtr := test (servicenamePtrRecord service)
  srv := test (srvRecord mdns service flush)
  txt := test (txtRecord service flush)

section Masks

variable {netif : Netif} {mdns : MdnsHost}

theorem ownLabel_of_plain {labels : List Bytes} (plain : Plain labelLimit labels) :
    ∀ label ∈ labels, OwnLabel label := by
  intro label mem
  refine ⟨(plain.each label mem).1, (plain.each label mem).2, fun zero => ?_⟩
  have printable := (plain.apart label mem).2 0 zero
  exact absurd printable (by decide)

theorem mdnsDomainEq_of_plain {labels : List Bytes} (plain : Plain labelLimit labels)
    (a : MdnsDomain) :
    mdnsDomainEq a ⟨encodeName labels⟩ = decide (SameName a.name (encodeName labels)) := by
  rw [Bool.eq_iff_iff, decide_eq_true_iff]
  exact mdnsDomainEq_iff a (ownLabel_of_plain plain)

theorem isFor_of_plain {labels : List Bytes} (plain : Plain labelLimit labels) (rr : MdnsRrInfo) :
    rr.isFor (⟨encodeName labels⟩, true) = decide (SameName rr.domain.name (encodeName labels)) := by
  rw [MdnsRrInfo.isFor, Bool.true_and, mdnsDomainEq_of_plain plain]

/-- A question about another class asks for nothing, one about the class `IN` or any for what the
name and the type say. -/
theorem asks_in (rr : MdnsRrInfo) {labels : List Bytes} {type ttl : Nat} {flush : Bool}
    {data : Bytes} {target : Option (List Bytes)} :
    decide (Asks rr ⟨labels, type, dnsRrclassIn, flush, ttl, data, target⟩) =
      (decide (SameName rr.domain.name (encodeName labels)) && rr.isType type &&
        decide (rr.klass = dnsRrclassIn ∨ rr.klass = dnsRrclassAny)) := by
  rw [MdnsRrInfo.isType, ← Bool.decide_and, ← Bool.decide_and]
  exact decide_eq_decide.mpr and_assoc.symm

theorem checkHost_eq (named : mdns.Named) (flush : Bool) (rr : MdnsRrInfo) :
    checkHost netif mdns rr = hostMask netif mdns flush fun r => decide (Asks rr r) := by
  rw [checkHost, mdnsBuildReverseV4Domain_eq, mdnsBuildHostDomain_eq named,
    isFor_of_plain (plain_hostLabels named), isFor_of_plain (plain_reverseV4Labels _), hostMask,
    aRecord, hostv4PtrRecord, asks_in, asks_in]
  by_cases klass : rr.klass = dnsRrclassIn ∨ rr.klass = dnsRrclassAny
  · rw [if_neg (fun other => not_or.mpr other klass), decide_eq_true klass, Bool.and_true, Bool.and_true]
    congr 1
    · cases decide (SameName rr.domain.name (encodeName (hostLabels mdns))) <;> simp
    · rw [Bool.and_comm (rr.isType dnsRrtypePtr), Bool.and_assoc,
        Bool.and_comm (rr.isType dnsRrtypePtr)]
  · rw [if_pos (not_or.mp klass), decide_eq_false klass]
    simp only [Bool.and_false]

theorem checkService_eq {service : MdnsService} (named : service.Named) (flush : Bool)
    (rr : MdnsRrInfo) :
    checkService service rr = serviceMask mdns flush (fun r => decide (Asks rr r)) service := by
  rw [checkService, mdnsBuildDnssdDomain_eq, mdnsBuildServiceDomain_type named,
    mdnsBuildServiceDomain_name named, isFor_of_plain plain_dnssdLabels,
    isFor_of_plain (plain_serviceTypeLabels named), isFor_of_plain (plain_serviceLabels named),
    serviceMask, servicetypePtrRecord, servicenamePtrRecord, srvRecord, txtRecord, asks_in, asks_in,
    asks_in, asks_in]
  by_cases klass : rr.klass = dnsRrclassIn ∨ rr.klass = dnsRrclassAny
  · rw [if_neg (fun other => not_or.mpr other klass), decide_eq_true klass]
    simp only [Bool.and_true]
  · rw [if_pos (not_or.mp klass), decide_eq_false klass]
    simp only [Bool.and_false]

/-! ### What a known answer makes needless -/

theorem type_of_asks {rr : MdnsRrInfo} {r : MdnsRecord}
    (any : ¬ (rr.type = dnsRrtypeAny ∨ rr.klass = dnsRrclassAny)) (asks : Asks rr r) :
    rr.type = r.type := asks.2.1.resolve_right fun other => any (.inl other)

/-- A known answer that is not about any type or class supplies a record that it would ask for, if
it is given with enough time left and the same data. -/
theorem supplies_iff {p : Bytes} {ans : MdnsAnswer} (r : MdnsRecord)
    (any : ¬ (ans.info.type = dnsRrtypeAny ∨ ans.info.klass = dnsRrclassAny)) :
    Supplies p ans r ↔ Asks ans.info r ∧ r.ttl / 2 < ans.ttl ∧
      pbufMemcmp p ans.rdOffset r.data = true ∧ EndsAs p ans r r.target := by
  obtain ⟨type, klass⟩ := not_or.mp any
  rw [Supplies, Asks]
  simp only [type, klass, or_false, and_assoc]

theorem pbufMemcmp_nil {p : Bytes} {o : Nat} (inside : o ≤ p.length) :
    pbufMemcmp p o [] = true := by
  rw [pbufMemcmp, List.length_nil, Nat.add_zero, decide_eq_true inside]
  rfl

theorem pbufNameEq_of_plain {labels : List Bytes} (plain : Plain labelLimit labels) (p : Bytes)
    (o : Nat) : pbufNameEq p o (⟨encodeName labels⟩, true) = decide (NamesAt p o labels) := by
  rw [Bool.eq_iff_iff, decide_eq_true_iff]
  simp [pbufNameEq, NamesAt, mdnsDomainEq_of_plain plain]

theorem knownHost_eq (named : mdns.Named) (flush : Bool) (p : Bytes) (ans : MdnsAnswer)
    (any : ¬ (ans.info.type = dnsRrtypeAny ∨ ans.info.klass = dnsRrclassAny))
    (inside : ans.rdOffset ≤ p.length) (selected : HostReplies) :
    selected.without (knownHost netif mdns p ans selected) =
      selected.without (hostMask netif mdns flush fun r => decide (Supplies p ans r)) := by
  rw [knownHost, checkHost_eq named flush, mdnsBuildHostDomain_eq named,
    pbufNameEq_of_plain (plain_hostLabels named)]
  have a := supplies_iff (p := p) (aRecord netif mdns flush) any
  have ptr := supplies_iff (p := p) (hostv4PtrRecord netif mdns flush) any
  have typeA := type_of_asks (r := aRecord netif mdns flush) any
  have typePtr := type_of_asks (r := hostv4PtrRecord netif mdns flush) any
  have apart : (aRecord netif mdns flush).type ≠ (hostv4PtrRecord netif mdns flush).type := by
    show dnsRrtypeA ≠ dnsRrtypePtr
    decide
  have ptrType : (hostv4PtrRecord netif mdns flush).type = dnsRrtypePtr := rfl
  have ptrData : pbufMemcmp p ans.rdOffset (hostv4PtrRecord netif mdns flush).data = true :=
    pbufMemcmp_nil inside
  have aData : (aRecord netif mdns flush).data = ip4Octets netif.ip4Addr := rfl
  have aEnds : EndsAs p ans (aRecord netif mdns flush) (aRecord netif mdns flush).target ↔
    ans.rdLength = 4 := Iff.rfl
  have ptrEnds : EndsAs p ans (hostv4PtrRecord netif mdns flush)
    (hostv4PtrRecord netif mdns flush).target ↔ NamesAt p ans.rdOffset (hostLabels mdns) := Iff.rfl
  have aTtl : (aRecord netif mdns flush).ttl = mdns.dnsTtl := rfl
  have ptrTtl : (hostv4PtrRecord netif mdns flush).ttl = mdns.dnsTtl := rfl
  rw [aEnds, aData, aTtl] at a
  rw [ptrEnds, ptrData, ptrTtl] at ptr
  rw [ptrType] at typePtr apart
  simp only [hostMask, HostReplies.without, HostReplies.any, HostReplies.mk.injEq]
  by_cases asksA : Asks ans.info (aRecord netif mdns flush)
  · have none_ : ¬ Asks ans.info (hostv4PtrRecord netif mdns flush) := fun other =>
      apart ((typeA asksA).symm.trans (typePtr other))
    have other : ans.info.type ≠ dnsRrtypePtr := fun same => apart ((typeA asksA).symm.trans same)
    simp only [asksA, none_, a, ptr, other, decide_true, decide_false, Bool.and_true,
      Bool.and_false, Bool.or_false, if_false, true_and, false_and]
    grind
  · simp only [asksA, a, ptr, decide_false, Bool.and_false, Bool.false_or, false_and]
    grind

theorem pbufMemcmp_iff (p : Bytes) (o : Nat) (data : Bytes) : pbufMemcmp p o data = true ↔
    o + data.length ≤ p.length ∧ pbufCopyPartial p data.length o = data := by
  rw [pbufMemcmp, Bool.and_eq_true, decide_eq_true_iff, decide_eq_true_iff]

theorem pbufMemcmp_append (p : Bytes) (o : Nat) (x y : Bytes) :
    pbufMemcmp p o (x ++ y) = (pbufMemcmp p o x && pbufMemcmp p (o + x.length) y) := by
  rw [Bool.eq_iff_iff]
  simp only [Bool.and_eq_true, pbufMemcmp_iff, pbufCopyPartial, List.length_append]
  by_cases whole : o + (x.length + y.length) ≤ p.length
  · have front : ((p.drop o).take x.length).length = x.length := by
      rw [List.length_take, List.length_drop]
      omega
    rw [List.take_add, List.drop_drop]
    constructor
    · rintro ⟨_, same⟩
      obtain ⟨first, second⟩ := List.append_inj same front
      exact ⟨⟨by omega, first⟩, by omega, second⟩
    · rintro ⟨⟨_, first⟩, _, second⟩
      exact ⟨whole, by rw [first, second]⟩
  · constructor
    · exact fun both => absurd both.1 whole
    · exact fun both => absurd both.2.1 (by omega)

theorem inside_of_pbufMemcmp {p : Bytes} {o : Nat} {data : Bytes}
    (same : pbufMemcmp p o data = true) : o + data.length ≤ p.length :=
  ((pbufMemcmp_iff p o data).mp same).1

theorem sameSrv_eq (named : mdns.Named) (service : MdnsService) (flush : Bool) {p : Bytes}
    (small : p.length < 65536) (o : Nat) :
    sameSrv p mdns service o = (pbufMemcmp p o (srvRecord mdns service flush).data &&
      decide (NamesAt p (o + (srvRecord mdns service flush).data.length) (hostLabels mdns))) := by
  have data : (srvRecord mdns service flush).data =
    hton16 0 ++ hton16 0 ++ hton16 service.port := rfl
  have name (o' : Nat) : (decide ((mdnsReadname p o').1 ≠ mdnsReadnameError) &&
      mdnsDomainEq (mdnsReadname p o').2 (mdnsBuildHostDomain mdns).1) =
      decide (NamesAt p o' (hostLabels mdns)) := by
    rw [mdnsBuildHostDomain_eq named, Bool.eq_iff_iff, decide_eq_true_iff]
    simp [NamesAt, mdnsDomainEq_of_plain (plain_hostLabels named)]
  rw [data, pbufMemcmp_append, pbufMemcmp_append]
  change (_ && _ && _ && (decide ((mdnsReadname p (u16 (o + 6))).1 ≠ mdnsReadnameError) &&
    mdnsDomainEq (mdnsReadname p (u16 (o + 6))).2 (mdnsBuildHostDomain mdns).1)) = _
  rw [name]
  simp only [List.length_append, length_hton16]
  cases first : pbufMemcmp p o (hton16 0) with
  | false => simp only [Bool.false_and]
  | true =>
      have bound := inside_of_pbufMemcmp first
      rw [length_hton16] at bound
      rw [u16_of_lt (by omega)]
      cases second : pbufMemcmp p (o + 2) (hton16 0) with
      | false => simp only [Bool.false_and, Bool.and_false]
      | true =>
          have bound := inside_of_pbufMemcmp second
          rw [length_hton16] at bound
          rw [u16_of_lt (by omega)]
          cases third : pbufMemcmp p (o + 4) (hton16 service.port) with
          | false => simp only [Bool.false_and, Bool.and_false]
          | true =>
              have bound := inside_of_pbufMemcmp third
              rw [length_hton16] at bound
              rw [u16_of_lt (by omega)]

theorem knownService_eq (host : mdns.Named) {service : MdnsService} (named : service.Named)
    (flush : Bool) {p : Bytes} (small : p.length < 65536) (ans : MdnsAnswer)
    (any : ¬ (ans.info.type = dnsRrtypeAny ∨ ans.info.klass = dnsRrclassAny))
    (inside : ans.rdOffset ≤ p.length) (selected : ServReplies) :
    selected.without (knownService mdns p ans service selected) = selected.without
      (serviceMask mdns flush (fun r => decide (Supplies p ans r)) service) := by
  have asked : checkService service ans.info =
      serviceMask mdns flush (fun r => decide (Asks ans.info r)) service :=
    checkService_eq named flush ans.info
  rw [knownService, asked,
    mdnsBuildServiceDomain_type named, mdnsBuildServiceDomain_name named,
    pbufNameEq_of_plain (plain_serviceTypeLabels named),
    pbufNameEq_of_plain (plain_serviceLabels named), sameSrv_eq host service flush small]
  have type := supplies_iff (p := p) (servicetypePtrRecord service) any
  have name := supplies_iff (p := p) (servicenamePtrRecord service) any
  have srv := supplies_iff (p := p) (srvRecord mdns service flush) any
  have txt := supplies_iff (p := p) (txtRecord service flush) any
  have typeType : Asks ans.info (servicetypePtrRecord service) → ans.info.type = dnsRrtypePtr :=
    type_of_asks any
  have nameType : Asks ans.info (servicenamePtrRecord service) → ans.info.type = dnsRrtypePtr :=
    type_of_asks any
  have srvType : Asks ans.info (srvRecord mdns service flush) → ans.info.type = dnsRrtypeSrv :=
    type_of_asks any
  have txtType : Asks ans.info (txtRecord service flush) → ans.info.type = dnsRrtypeTxt :=
    type_of_asks any
  have srvPtr : dnsRrtypeSrv ≠ dnsRrtypePtr := by decide
  have txtPtr : dnsRrtypeTxt ≠ dnsRrtypePtr := by decide
  have srvTxt : dnsRrtypeSrv ≠ dnsRrtypeTxt := by decide
  have typeRest : (servicetypePtrRecord service).ttl / 2 < ans.ttl ∧
      pbufMemcmp p ans.rdOffset (servicetypePtrRecord service).data = true ∧
      EndsAs p ans (servicetypePtrRecord service) (servicetypePtrRecord service).target ↔
      service.dnsTtl / 2 < ans.ttl ∧ NamesAt p ans.rdOffset (serviceTypeLabels service) :=
    and_congr_right fun _ => and_iff_right (pbufMemcmp_nil inside)
  have nameRest : (servicenamePtrRecord service).ttl / 2 < ans.ttl ∧
      pbufMemcmp p ans.rdOffset (servicenamePtrRecord service).data = true ∧
      EndsAs p ans (servicenamePtrRecord service) (servicenamePtrRecord service).target ↔
      service.dnsTtl / 2 < ans.ttl ∧ NamesAt p ans.rdOffset (serviceLabels service) :=
    and_congr_right fun _ => and_iff_right (pbufMemcmp_nil inside)
  have srvRest : (srvRecord mdns service flush).ttl / 2 < ans.ttl ∧
      pbufMemcmp p ans.rdOffset (srvRecord mdns service flush).data = true ∧
      EndsAs p ans (srvRecord mdns service flush) (srvRecord mdns service flush).target ↔
      service.dnsTtl / 2 < ans.ttl ∧
        (pbufMemcmp p ans.rdOffset (srvRecord mdns service flush).data = true ∧
          NamesAt p (ans.rdOffset + (srvRecord mdns service flush).data.length)
            (hostLabels mdns)) := Iff.rfl
  have txtRest : (txtRecord service flush).ttl / 2 < ans.ttl ∧
      pbufMemcmp p ans.rdOffset (txtRecord service flush).data = true ∧
      EndsAs p ans (txtRecord service flush) (txtRecord service flush).target ↔
      service.dnsTtl / 2 < ans.ttl ∧ pbufMemcmp p ans.rdOffset (mdnsPrepareTxtdata service).name ∧
        ans.rdLength = (mdnsPrepareTxtdata service).length := Iff.rfl
  rw [typeRest] at type
  rw [nameRest] at name
  rw [srvRest] at srv
  rw [txtRest] at txt
  simp only [serviceMask, ServReplies.without, ServReplies.any, ServReplies.mk.injEq]
  by_cases ptr : ans.info.type = dnsRrtypePtr
  · have noSrv : ¬ Asks ans.info (srvRecord mdns service flush) := fun asks =>
      srvPtr ((srvType asks).symm.trans ptr)
    have noTxt : ¬ Asks ans.info (txtRecord service flush) := fun asks =>
      txtPtr ((txtType asks).symm.trans ptr)
    simp only [noSrv, noTxt, type, name, srv, txt, ptr, if_true, decide_false, Bool.and_false,
      Bool.or_false, false_and]
    grind
  · have noType : ¬ Asks ans.info (servicetypePtrRecord service) := fun asks => ptr (typeType asks)
    have noName : ¬ Asks ans.info (servicenamePtrRecord service) := fun asks => ptr (nameType asks)
    simp only [noType, noName, type, name, srv, txt, ptr, if_false, decide_false, Bool.and_false,
      Bool.false_or, false_and]
    grind

/-! ### The bits of a reply -/

/-- The bits of a slot for the records that pass a test. -/
def slotMask (mdns : MdnsHost) (flush : Bool) (test : MdnsRecord → Bool) :
    Option MdnsService → ServReplies
  | none => {}
  | some service => serviceMask mdns flush test service

/-- The bits of a reply are those of the records that pass a test. -/
structure Selects (netif : Netif) (mdns : MdnsHost) (flush : Bool) (test : MdnsRecord → Bool)
    (reply : MdnsOutpacket) : Prop where
  host : reply.hostReplies = hostMask netif mdns flush test
  services : reply.servReplies = mdns.services.map (slotMask mdns flush test)

theorem zipWith_map_slots {f : Option MdnsService → ServReplies → ServReplies}
    {g : Option MdnsService → ServReplies} (services : List (Option MdnsService)) :
    services.zipWith f (services.map g) = services.map fun slot => f slot (g slot) := by
  rw [List.zipWith_map_right, List.zipWith_self]

variable {flush : Bool} {test : MdnsRecord → Bool} {reply : MdnsOutpacket}

/-- A question selects the records that it asks for. -/
theorem Selects.question (named : mdns.Named) (selects : Selects netif mdns flush test reply)
    (info : MdnsRrInfo) :
    Selects netif mdns flush (fun r => test r || decide (Asks info r))
      (selectReplies netif mdns info reply) where
  host := by
    change reply.hostReplies.union (checkHost netif mdns info) = _
    rw [selects.host, checkHost_eq named flush]
    simp only [hostMask, HostReplies.union, Bool.and_or_distrib_left]
  services := by
    simp only [selectReplies]
    rw [selects.services, zipWith_map_slots]
    apply List.map_congr_left
    intro slot mem
    cases slot with
    | none => rfl
    | some service =>
        simp only [slotMask]
        exact congrArg _ (checkService_eq (named.services service mem) flush _)

/-- A known answer takes back the records that it supplies. -/
theorem Selects.known (named : mdns.Named) (selects : Selects netif mdns flush test reply)
    {p : Bytes} (small : p.length < 65536) (ans : MdnsAnswer) (inside : ans.rdOffset ≤ p.length) :
    Selects netif mdns flush (fun r => test r && !decide (Supplies p ans r))
      (withdrawKnown netif mdns p reply ans) := by
  rw [withdrawKnown]
  by_cases any : ans.info.type = dnsRrtypeAny ∨ ans.info.klass = dnsRrclassAny
  · rw [if_pos any]
    have none_ {r : MdnsRecord} (type : r.type ≠ dnsRrtypeAny) (klass : r.klass = dnsRrclassIn) :
        (test r && !decide (Supplies p ans r)) = test r := by
      rw [decide_eq_false, Bool.not_false, Bool.and_true]
      rintro ⟨_, sameType, sameKlass, _⟩
      rcases any with other | other
      · exact type (sameType.symm.trans other)
      · have apart : dnsRrclassIn ≠ dnsRrclassAny := by decide
        exact apart (klass.symm.trans (sameKlass.symm.trans other))
    refine ⟨?_, ?_⟩
    · rw [selects.host, hostMask, hostMask, none_ (show dnsRrtypeA ≠ dnsRrtypeAny by decide) rfl,
        none_ (show dnsRrtypePtr ≠ dnsRrtypeAny by decide) rfl]
    · rw [selects.services]
      apply List.map_congr_left
      intro slot _
      cases slot with
      | none => rfl
      | some service =>
          simp only [slotMask, serviceMask]
          rw [none_ (show dnsRrtypePtr ≠ dnsRrtypeAny by decide) rfl,
            none_ (show dnsRrtypePtr ≠ dnsRrtypeAny by decide) rfl,
            none_ (show dnsRrtypeSrv ≠ dnsRrtypeAny by decide) rfl,
            none_ (show dnsRrtypeTxt ≠ dnsRrtypeAny by decide) rfl]
  · rw [if_neg any]
    refine ⟨?_, ?_⟩
    · change reply.hostReplies.without (knownHost netif mdns p ans reply.hostReplies) = _
      rw [knownHost_eq named flush p ans any inside, selects.host]
      simp only [hostMask, HostReplies.without]
      cases decide (netif.ip4Addr ≠ 0) <;> rfl
    · simp only
      rw [selects.services, zipWith_map_slots]
      apply List.map_congr_left
      intro slot mem
      cases slot with
      | none => rfl
      | some service =>
          simp only [slotMask]
          rw [knownService_eq named (named.services service mem) flush small ans any inside]
          rfl

/-! ### The records that are selected -/

/-- The records of a service, and those of the responder; without an address, it has none of the
host. -/
def slotRecords (mdns : MdnsHost) (flush : Bool) : Option MdnsService → List MdnsRecord
  | none => []
  | some service => [servicetypePtrRecord service, servicenamePtrRecord service,
      srvRecord mdns service flush, txtRecord service flush]

def ownRecords (netif : Netif) (mdns : MdnsHost) (flush : Bool) : List MdnsRecord :=
  (if netif.ip4Addr ≠ 0 then [aRecord netif mdns flush, hostv4PtrRecord netif mdns flush] else []) ++
    mdns.services.flatMap (slotRecords mdns flush)

/-- The additional records for a service: its SRV and TXT records when its name is answered
without them, and the address of the host with its name or its SRV record. -/
def slotExtras (netif : Netif) (mdns : MdnsHost) (flush : Bool) (test : MdnsRecord → Bool) :
    Option MdnsService → List MdnsRecord
  | none => []
  | some service =>
      let name := test (servicenamePtrRecord service)
      let srv := srvRecord mdns service flush
      let txt := txtRecord service flush
      let a := aRecord netif mdns flush
      recordWhen (name && !test srv) srv ++ (recordWhen (name && !test txt) txt ++
        recordWhen ((name || test srv) && !(netif.ip4Addr ≠ 0 && test a)) a)

theorem recordsOf_map {records : MdnsService → ServReplies → List MdnsRecord}
    {g : Option MdnsService → ServReplies} {h : Option MdnsService → List MdnsRecord}
    (none_ : h none = []) (some_ : ∀ service, records service (g (some service)) = h (some service))
    (services : List (Option MdnsService)) :
    recordsOf records services (services.map g) = services.flatMap h := by
  induction services with
  | nil => rfl
  | cons slot services ih =>
      cases slot with
      | none => rw [List.map_cons, recordsOf, List.tail_cons, ih, List.flatMap_cons, none_,
          List.nil_append]
      | some service => rw [List.map_cons, recordsOf, List.tail_cons, ih, List.flatMap_cons,
          List.headD_cons, some_]

theorem recordWhen_test (test : MdnsRecord → Bool) (r : MdnsRecord) :
    recordWhen (test r) r = [r].filter test := by
  cases passes : test r <;> simp [recordWhen, passes]

/-- The answers are the records that are selected. -/
theorem Selects.answerRecords (selects : Selects netif mdns flush test reply)
    (same : reply.cacheFlush = flush) :
    answerRecords netif mdns reply = (ownRecords netif mdns flush).filter test := by
  rw [Mdns.answerRecords, selects.host, selects.services, same, ownRecords, List.filter_append,
    recordsOf_map (h := fun slot => (slotRecords mdns flush slot).filter test) rfl]
  · congr 1
    · rw [hostRecords, hostMask]
      by_cases address : netif.ip4Addr ≠ 0
      · rw [if_pos address, decide_eq_true address, Bool.true_and, Bool.true_and, recordWhen_test,
          recordWhen_test, ← List.filter_append]
        rfl
      · rw [if_neg address, decide_eq_false address]
        rfl
    · exact List.filter_flatMap.symm
  · intro service
    simp only [slotMask, serviceMask, serviceRecords, recordWhen_test, ← List.filter_append]
    rfl

/-- The additional records are those of the services. -/
theorem Selects.extraRecords (selects : Selects netif mdns flush test reply)
    (same : reply.cacheFlush = flush) :
    extraRecords netif mdns reply =
      mdns.services.flatMap (slotExtras netif mdns flush test) := by
  rw [Mdns.extraRecords, selects.host, selects.services, same]
  apply recordsOf_map rfl
  intro service
  have once (x y : Bool) : ((x || y) && !y) = (x && !y) := by cases x <;> cases y <;> rfl
  simp only [slotMask, serviceMask, additionalRecords, slotExtras, hostMask, once]

end Masks

end LwipExt.Mdns
