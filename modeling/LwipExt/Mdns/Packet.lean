import LwipExt.Bytes

/-!
Reading a received multicast DNS packet: `mdns_readname`, `mdns_read_question` and
`mdns_read_answer` of `extMdns.c`.

The packet is the list of the bytes of its pbuf chain. Offsets are `u16_t`, so they
wrap, and `MDNS_READNAME_ERROR` is an offset like any other. The loop over the labels
of a name has no bound in the source: every label makes the name longer and a name
ends at 256 bytes, so the rounds given here are never used up
(`mdnsReadLabels_rounds`).
-/

namespace LwipExt.Mdns

/-- `MDNS_DOMAIN_MAXLEN`. -/
def mdnsDomainMaxlen : Nat := 256

/-- `MDNS_LABEL_MAXLEN`. -/
def mdnsLabelMaxlen : Nat := 63

/-- `MDNS_READNAME_ERROR`. -/
def mdnsReadnameError : Nat := 0xFFFF

/-- `SIZEOF_DNS_HDR`. -/
def sizeofDnsHdr : Nat := 12

/-- `DNS_RRTYPE_*`. -/
def dnsRrtypeA : Nat := 1
def dnsRrtypePtr : Nat := 12
def dnsRrtypeTxt : Nat := 16
def dnsRrtypeSrv : Nat := 33

/-- `DNS_RRCLASS_IN`. -/
def dnsRrclassIn : Nat := 1

/-- `pbuf_copy_partial`: the bytes that it copies. -/
def pbufCopyPartial (p : Bytes) (len offset : Nat) : Bytes := (p.drop offset).take len

/-- `pbuf_get_at`. -/
def pbufGetAt (p : Bytes) (offset : Nat) : UInt8 := p.getD offset 0

/-- A number in network byte order behind `lwip_ntohs` or `lwip_ntohl`. -/
def ntoh (field : Bytes) : Nat := field.foldl (fun n b => n * 256 + b.toNat) 0

/-- `struct mdns_domain`: the encoded name, `length` bytes of it. -/
structure MdnsDomain where
  name : Bytes := []
  deriving DecidableEq, Repr

/-- `length`. -/
def MdnsDomain.length (domain : MdnsDomain) : Nat := domain.name.length

/-- `mdns_domain_add_label`; `none` is `ERR_VAL`. -/
def mdnsDomainAddLabel (domain : MdnsDomain) (label : Bytes) : Option MdnsDomain :=
  let len := label.length
  if mdnsLabelMaxlen < len then none
  else if 0 < len ∧ mdnsDomainMaxlen ≤ 1 + len + domain.length then none
  else if len = 0 ∧ mdnsDomainMaxlen < 1 + domain.length then none
  else some ⟨domain.name ++ UInt8.ofNat len :: label⟩

/-- The loop of `mdns_readname_loop` at one depth; `jump` reads on at the offset that a
compressed label names. -/
def mdnsReadLabels (p : Bytes) (jump : Nat → MdnsDomain → Nat × MdnsDomain) :
    Nat → Nat → MdnsDomain → Nat × MdnsDomain
  | 0, _, domain => (mdnsReadnameError, domain)
  | rounds + 1, offset, domain =>
      let c := pbufGetAt p offset
      let offset := u16 (offset + 1)
      if c &&& 0xc0 = 0xc0 then
        if p.length ≤ offset then (mdnsReadnameError, domain)
        else
          let jumpaddr := (c &&& 0x3f).toNat * 256 + (pbufGetAt p offset).toNat
          let offset := u16 (offset + 1)
          if sizeofDnsHdr ≤ jumpaddr ∧ jumpaddr < p.length then
            match jump jumpaddr domain with
            | (res, domain) => if res = mdnsReadnameError then (res, domain) else (offset, domain)
          else (mdnsReadnameError, domain)
      else if c.toNat ≤ mdnsLabelMaxlen then
        if mdnsDomainMaxlen ≤ c.toNat + domain.length then (mdnsReadnameError, domain)
        else
          let label := pbufCopyPartial p c.toNat offset
          if label.length ≠ c.toNat then (mdnsReadnameError, domain)
          else
            match mdnsDomainAddLabel domain label with
            | none => (mdnsReadnameError, domain)
            | some domain =>
                let offset := u16 (offset + c.toNat)
                if c = 0 then (offset, domain) else mdnsReadLabels p jump rounds offset domain
      else (mdnsReadnameError, domain)

/-- `mdns_readname_loop` with `levels` depths left. -/
def mdnsReadnameLoop (p : Bytes) : Nat → Nat → MdnsDomain → Nat × MdnsDomain
  | 0, _, domain => (mdnsReadnameError, domain)
  | levels + 1, offset, domain =>
      mdnsReadLabels p (mdnsReadnameLoop p levels) (mdnsDomainMaxlen + 1) offset domain

/-- `mdns_readname`: the offset after the name, and the name. -/
def mdnsReadname (p : Bytes) (offset : Nat) : Nat × MdnsDomain := mdnsReadnameLoop p 6 offset {}

/-- A label that is added makes the name longer. -/
theorem mdnsDomainAddLabel_length {domain domain' : MdnsDomain} {label : Bytes}
    (added : mdnsDomainAddLabel domain label = some domain') :
    domain'.length = domain.length + 1 + label.length := by
  simp only [mdnsDomainAddLabel] at added
  split at added
  · cases added
  split at added
  · cases added
  split at added
  · cases added
  cases added
  simp [MdnsDomain.length]
  omega

/-- The rounds of the label loop do not matter once they are more than the bytes a name
may still grow by. -/
theorem mdnsReadLabels_rounds (p : Bytes) (jump : Nat → MdnsDomain → Nat × MdnsDomain)
    (rounds rounds' offset : Nat) (domain : MdnsDomain)
    (fits : domain.length ≤ mdnsDomainMaxlen)
    (enough : mdnsDomainMaxlen < rounds + domain.length)
    (enough' : mdnsDomainMaxlen < rounds' + domain.length) :
    mdnsReadLabels p jump rounds offset domain = mdnsReadLabels p jump rounds' offset domain := by
  induction rounds generalizing rounds' offset domain with
  | zero => omega
  | succ rounds ih =>
      cases rounds' with
      | zero => omega
      | succ rounds' =>
          simp only [mdnsReadLabels]
          split
          · rfl
          split
          · split
            · rfl
            next room =>
              split
              · rfl
              next whole =>
                split
                · rfl
                next longer added =>
                  -- only here does the loop go on, with a longer name
                  have grown := mdnsDomainAddLabel_length added
                  split
                  · rfl
                  · apply ih
                    all_goals omega
          · rfl

/-- `struct mdns_packet`: what the reading of a received packet uses. -/
structure MdnsPacket where
  pbuf : Bytes
  parseOffset : Nat
  questionsLeft : Nat
  answersLeft : Nat
  deriving DecidableEq, Repr

/-- `struct mdns_rr_info`. -/
structure MdnsRrInfo where
  domain : MdnsDomain
  type : Nat
  klass : Nat
  deriving DecidableEq, Repr

/-- `struct mdns_answer`. -/
structure MdnsAnswer where
  info : MdnsRrInfo
  cacheFlush : Bool
  ttl : Nat
  rdLength : Nat
  rdOffset : Nat
  deriving DecidableEq, Repr

/-- A field of `len` bytes at the parse offset, which moves behind it. -/
def MdnsPacket.field (pkt : MdnsPacket) (len : Nat) : Option Nat × MdnsPacket :=
  let copied := pbufCopyPartial pkt.pbuf len pkt.parseOffset
  if copied.length ≠ len then (none, pkt)
  else (some (ntoh copied), { pkt with parseOffset := u16 (pkt.parseOffset + len) })

/-- `mdns_read_rr_info`; `none` is `ERR_VAL`. -/
def mdnsReadRrInfo (pkt : MdnsPacket) : Option MdnsRrInfo × MdnsPacket :=
  match mdnsReadname pkt.pbuf pkt.parseOffset with
  | (offset, domain) =>
      let pkt := { pkt with parseOffset := offset }
      if offset = mdnsReadnameError then (none, pkt)
      else
        match pkt.field 2 with
        | (none, pkt) => (none, pkt)
        | (some type, pkt) =>
            match pkt.field 2 with
            | (none, pkt) => (none, pkt)
            | (some klass, pkt) => (some ⟨domain, type, klass⟩, pkt)

/-- `mdns_read_question`: what a response is skipped over. -/
def mdnsReadQuestion (pkt : MdnsPacket) : Option MdnsRrInfo × MdnsPacket :=
  if pkt.pbuf.length < pkt.parseOffset then (none, pkt)
  else if pkt.questionsLeft = 0 then (none, pkt)
  else
    match mdnsReadRrInfo { pkt with questionsLeft := pkt.questionsLeft - 1 } with
    | (none, pkt) => (none, pkt)
    | (some info, pkt) => (some { info with klass := info.klass % 0x8000 }, pkt)

/-- `mdns_read_answer`. -/
def mdnsReadAnswer (pkt : MdnsPacket) : Option MdnsAnswer × MdnsPacket :=
  if pkt.questionsLeft ≠ 0 then (none, pkt)
  else if pkt.pbuf.length < pkt.parseOffset then (none, pkt)
  else if pkt.answersLeft = 0 then (none, pkt)
  else
    match mdnsReadRrInfo { pkt with answersLeft := pkt.answersLeft - 1 } with
    | (none, pkt) => (none, pkt)
    | (some info, pkt) =>
        match pkt.field 4 with
        | (none, pkt) => (none, pkt)
        | (some ttl, pkt) =>
            match pkt.field 2 with
            | (none, pkt) => (none, pkt)
            | (some rdLength, pkt) =>
                (some { info := { info with klass := info.klass % 0x8000 }
                        cacheFlush := 0x8000 ≤ info.klass, ttl, rdLength
                        rdOffset := pkt.parseOffset },
                  { pkt with parseOffset := u16 (pkt.parseOffset + rdLength) })

end LwipExt.Mdns
