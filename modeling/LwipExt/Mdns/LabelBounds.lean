import LwipExt.Mdns.Discovery
import LwipExt.Mdns.Query

/-!
What the label decoders of the multicast DNS client touch.

The decoders are run here on the bytes that they may read and stop at the first access outside of
them or of the destination (`none`). Where they do not stop, they do what those of the client do
(`mdnsClientGetOneLabel_of_within`, `mdnsClientGetFullDomain_of_within`). They stay inside exactly
on the RDATA that is `WellFormed` (`decodedWithin_iff`), which no TXT record is: its loop reads
another label behind the last.
-/

namespace LwipExt.Mdns

/-- The records whose data the label decoders read. -/
inductive LabelRecord where
  | ptr
  | srv
  | txt
  deriving DecidableEq, Repr

/-- `sizeof` of `name` in an interface and of `domainName` in the client. -/
def nameSize : Nat := 128
def domainNameSize : Nat := 256

/-- `sizeof(DNS_RR_SRV)`. -/
def sizeofDnsRrSrv : Nat := 6

/-! ### The decoders inside their bounds -/

/-- The loop that copies `n` bytes of `src` behind those in a destination of `size` bytes. -/
def copyWithin (size : Nat) : Nat → Bytes → Bytes → Option (Bytes × Bytes)
  | 0, src, dest => some (src, dest)
  | _ + 1, [], _ => none
  | n + 1, b :: src, dest =>
      if dest.length < size then copyWithin size n src (dest ++ [b]) else none

/-- `_mdnsClientGetOneLabel`: the label, and what is left of the source. -/
def getOneLabelWithin (size : Nat) : Bytes → Option (Bytes × Bytes)
  | [] => none
  | labelLen :: src =>
      match copyWithin size labelLen.toNat src [] with
      | none => none
      | some (src, dest) => if dest.length < size then some (dest, src) else none

/-- `_mdnsClientGetFullDomain`: the name that is left in the destination. Without any label, the
NUL goes to the byte before it. -/
def getFullDomainWithin (size : Nat) : Nat → Bytes → Bytes → Option Bytes
  | 0, _, _ => none
  | _ + 1, [], _ => none
  | rounds + 1, labelLen :: src, dest =>
      if labelLen = 0 then if dest = [] then none else some dest.dropLast
      else
        match copyWithin size labelLen.toNat src dest with
        | none => none
        | some (src, dest) =>
            if dest.length < size then getFullDomainWithin size rounds src (dest ++ [46]) else none

/-- The loop over the items of a TXT record. -/
def txtItemsWithin (rdata : Bytes) : Nat → Nat → Option Unit
  | 0, _ => none
  | rounds + 1, offset =>
      if rdata.length < offset then some ()
      else
        match getOneLabelWithin domainNameSize (rdata.drop offset) with
        | none => none
        | some (label, _) => txtItemsWithin rdata rounds (u16 (offset + (label.length + 1)))

/-- `_mdnsClientDnsParseTXT`, its labels. -/
def parseTxtWithin (rounds : Nat) (rdata : Bytes) : Option Unit :=
  match getOneLabelWithin domainNameSize rdata with
  | none => none
  | some (label, _) => txtItemsWithin rdata rounds (label.length + 1)

/-- The bytes from which `_mdnsClientDnsParseSRV` reads the target: those of the packet that a
compressed label points to, copied over the RDATA, or those behind the fixed fields. -/
def srvTarget (p rdata : Bytes) : Option Bytes :=
  match rdata.drop sizeofDnsRrSrv with
  | [] => none
  | firstLabelLength :: behind =>
      if firstLabelLength &&& 0xc0 = 0xc0 then
        match behind with
        | [] => none
        | low :: _ =>
            let jumpaddr := (firstLabelLength &&& 0x3f).toNat * 256 + low.toNat
            some (bufWrite rdata 0 (pbufCopyPartial p 256 jumpaddr))
      else some (rdata.drop sizeofDnsRrSrv)

/-- The label decoders on the RDATA of a record of the packet `p`, with `rounds` rounds for their
loops: whether they end without an access outside. -/
def decodedWithin (rounds : Nat) (p rdata : Bytes) : LabelRecord → Bool
  | .ptr => (getOneLabelWithin nameSize rdata).isSome
  | .srv =>
      match srvTarget p rdata with
      | none => false
      | some target => (getFullDomainWithin domainNameSize rounds target []).isSome
  | .txt => (parseTxtWithin rounds rdata).isSome

/-- The decoders end, and read and write inside their bounds. -/
def Within (p rdata : Bytes) (record : LabelRecord) : Prop :=
  ∃ rounds, decodedWithin rounds p rdata record = true

/-- RDATA on which the decoders stay inside: of a PTR record, one whole label that fits into the
name of an interface; of a SRV record, a target of at least one label, with a terminator, that
fits into `domainName`. -/
def WellFormed (p rdata : Bytes) : LabelRecord → Prop
  | .ptr => ∃ label, label.length < nameSize ∧ UInt8.ofNat label.length :: label <+: rdata
  | .srv => ∃ target labels, srvTarget p rdata = some target ∧ labels ≠ [] ∧
      (∀ label ∈ labels, label ≠ [] ∧ label.length < 256) ∧
      (encodeLabels labels).length ≤ domainNameSize ∧ encodeName labels <+: target
  | .txt => False

/-! ### One label -/

/-- The copy stays inside exactly if the source has the bytes and the destination the room. -/
theorem copyWithin_eq {size : Nat} (n : Nat) (src : Bytes) {dest : Bytes}
    (fits : dest.length ≤ size) :
    copyWithin size n src dest =
      if n ≤ src.length ∧ dest.length + n ≤ size then some (src.drop n, dest ++ src.take n)
      else none := by
  induction n generalizing src dest with
  | zero => simp [copyWithin, fits]
  | succ n ih =>
      cases src with
      | nil => simp [copyWithin]
      | cons b src =>
          rw [copyWithin]
          split
          next room =>
            have grown : (dest ++ [b]).length = dest.length + 1 := by simp
            rw [ih src (by omega)]
            simp only [grown, List.length_cons, Nat.add_le_add_iff_right, Nat.add_assoc,
              Nat.add_comm 1 n, List.drop_succ_cons, List.take_succ_cons, List.append_assoc,
              List.singleton_append]
          next full =>
            rw [if_neg]
            rintro ⟨_, room⟩
            omega

/-- A label is taken exactly if it is whole and fits with the NUL. -/
theorem getOneLabelWithin_eq_some_iff {size : Nat} {src label rest : Bytes} :
    getOneLabelWithin size src = some (label, rest) ↔
      label.length < 256 ∧ label.length < size ∧
        src = UInt8.ofNat label.length :: (label ++ rest) := by
  cases src with
  | nil => simp [getOneLabelWithin]
  | cons labelLen src =>
      rw [getOneLabelWithin, copyWithin_eq _ src (Nat.zero_le size)]
      simp only [List.length_nil, Nat.zero_add, List.nil_append]
      have byte := labelLen.toNat_lt
      constructor
      · intro taken
        by_cases inside : labelLen.toNat ≤ src.length ∧ labelLen.toNat ≤ size
        · rw [if_pos inside] at taken
          have length : (src.take labelLen.toNat).length = labelLen.toNat :=
            List.length_take_of_le inside.1
          simp only [length] at taken
          split at taken
          next room =>
            obtain ⟨rfl, rfl⟩ := Prod.mk.inj (Option.some.inj taken)
            rw [length, UInt8.ofNat_toNat, List.take_append_drop]
            exact ⟨byte, room, rfl⟩
          next => cases taken
        · rw [if_neg inside] at taken
          cases taken
      · rintro ⟨short, fits, same⟩
        obtain ⟨rfl, rfl⟩ := List.cons.inj same
        have count : (UInt8.ofNat label.length).toNat = label.length :=
          UInt8.toNat_ofNat_of_lt' short
        rw [count, if_pos ⟨by simp, Nat.le_of_lt fits⟩, List.take_left, List.drop_left]
        simp only
        rw [if_pos fits]

/-- A label that is taken is the one that the client takes. -/
theorem mdnsClientGetOneLabel_of_within {size : Nat} {src label rest : Bytes}
    (taken : getOneLabelWithin size src = some (label, rest)) (dest behind : Bytes) :
    mdnsClientGetOneLabel dest (src ++ behind) = (sprintf dest label, label.length + 1) := by
  obtain ⟨short, _, rfl⟩ := getOneLabelWithin_eq_some_iff.mp taken
  have count : (UInt8.ofNat label.length).toNat = label.length :=
    UInt8.toNat_ofNat_of_lt' short
  have first : (UInt8.ofNat label.length :: (label ++ rest) ++ behind).getD 0 0 =
      UInt8.ofNat label.length := rfl
  have read : bufRead (UInt8.ofNat label.length :: (label ++ rest) ++ behind) 1 label.length =
      label := by
    rw [bufRead]
    simp
  simp only [mdnsClientGetOneLabel, first, count, read]

/-! ### A name -/

/-- Labels with a dot behind each. -/
def withDots (labels : List Bytes) : Bytes := labels.flatMap fun label => label ++ [46]

/-- The labels can be taken into a destination of `size` bytes that holds `dest`. -/
structure Takes (size : Nat) (dest : Bytes) (labels : List Bytes) : Prop where
  some_ : labels = [] → dest ≠ []
  each : ∀ label ∈ labels, label ≠ [] ∧ label.length < 256
  room : dest.length + (encodeLabels labels).length ≤ size

/-- A name that is taken consists of labels up to a terminator. -/
theorem labels_of_within {size rounds : Nat} {src dest text : Bytes} (fits : dest.length ≤ size)
    (taken : getFullDomainWithin size rounds src dest = some text) :
    ∃ labels, Takes size dest labels ∧ encodeName labels <+: src ∧
      text = (dest ++ withDots labels).dropLast := by
  induction rounds generalizing src dest with
  | zero => cases taken
  | succ rounds ih =>
      cases src with
      | nil => cases taken
      | cons labelLen src =>
          have byte := labelLen.toNat_lt
          rw [getFullDomainWithin] at taken
          split at taken
          next zero =>
            split at taken
            · cases taken
            next some_ =>
              obtain rfl := Option.some.inj taken
              refine ⟨[], ⟨fun _ => some_, fun _ mem => absurd mem List.not_mem_nil, fits⟩, ?_, ?_⟩
              · rw [zero]
                exact ⟨src, rfl⟩
              · rw [withDots, List.flatMap_nil, List.append_nil]
          next nonzero =>
            rw [copyWithin_eq _ src fits] at taken
            by_cases inside : labelLen.toNat ≤ src.length ∧ dest.length + labelLen.toNat ≤ size
            · rw [if_pos inside] at taken
              have length : (src.take labelLen.toNat).length = labelLen.toNat :=
                List.length_take_of_le inside.1
              have copied : (dest ++ src.take labelLen.toNat).length =
                  dest.length + labelLen.toNat := by
                rw [List.length_append, length]
              simp only [copied] at taken
              split at taken
              next room =>
                have grown : (dest ++ src.take labelLen.toNat ++ [46]).length =
                    dest.length + labelLen.toNat + 1 := by
                  rw [List.length_append, copied]
                  rfl
                obtain ⟨labels, takes, isPrefix, rfl⟩ := ih (by omega) taken
                have room' := takes.room
                rw [grown] at room'
                refine ⟨src.take labelLen.toNat :: labels, ⟨?_, ?_, ?_⟩, ?_, ?_⟩
                · exact fun none => absurd none (List.cons_ne_nil _ _)
                · intro label mem
                  rcases List.mem_cons.mp mem with rfl | later
                  · refine ⟨?_, by omega⟩
                    intro none
                    rw [none] at length
                    exact nonzero (UInt8.ext_iff.mpr length.symm)
                  · exact takes.each label later
                · rw [encodeLabels_cons, List.length_cons, List.length_append, length]
                  omega
                · obtain ⟨rest, same⟩ := isPrefix
                  refine ⟨rest, ?_⟩
                  rw [encodeName_eq] at same ⊢
                  rw [encodeLabels_cons, length, UInt8.ofNat_toNat, List.cons_append,
                    List.append_assoc, List.cons_append, List.append_assoc, same,
                    List.take_append_drop]
                · simp [withDots]
              next => cases taken
            · rw [if_neg inside] at taken
              cases taken

/-- Labels up to a terminator are taken. -/
theorem within_of_labels {size rounds : Nat} {src dest : Bytes} {labels : List Bytes}
    (takes : Takes size dest labels) (isPrefix : encodeName labels <+: src)
    (enough : labels.length < rounds) :
    getFullDomainWithin size rounds src dest = some (dest ++ withDots labels).dropLast := by
  obtain ⟨rest, rfl⟩ := isPrefix
  induction labels generalizing rounds dest with
  | nil =>
      obtain ⟨rounds, rfl⟩ : ∃ left, rounds = left + 1 := ⟨rounds - 1, by simp at enough; omega⟩
      have zero : encodeName [] ++ rest = 0 :: rest := rfl
      rw [zero, getFullDomainWithin, if_pos rfl, if_neg (takes.some_ rfl), withDots,
        List.flatMap_nil, List.append_nil]
  | cons label labels ih =>
      obtain ⟨rounds, rfl⟩ : ∃ left, rounds = left + 1 := ⟨rounds - 1, by omega⟩
      obtain ⟨nonempty, short⟩ := takes.each label (.head _)
      have room := takes.room
      rw [encodeLabels_cons, List.length_cons, List.length_append] at room
      have count : (UInt8.ofNat label.length).toNat = label.length :=
        UInt8.toNat_ofNat_of_lt' short
      have nonzero : UInt8.ofNat label.length ≠ 0 := by
        intro zero
        rw [zero] at count
        exact nonempty (List.length_eq_zero_iff.mp count.symm)
      have bytes : encodeName (label :: labels) ++ rest =
          UInt8.ofNat label.length :: (label ++ (encodeName labels ++ rest)) := by
        simp [encodeName]
      have copied : (dest ++ label).length = dest.length + label.length := List.length_append
      have next : Takes size (dest ++ label ++ [46]) labels := by
        constructor
        · exact fun _ none => absurd none (List.append_ne_nil_of_right_ne_nil _ (by simp))
        · exact fun next mem => takes.each next (.tail _ mem)
        · rw [List.length_append, copied, List.length_singleton]
          omega
      rw [bytes, getFullDomainWithin, if_neg nonzero, copyWithin_eq _ _ (by omega), count,
        if_pos ⟨by simp, by omega⟩, List.take_left, List.drop_left]
      simp only [copied]
      rw [if_pos (by omega), ih next (by simpa using enough)]
      simp [withDots]

theorem dottedLabels_eq {labels : List Bytes}
    (each : ∀ label ∈ labels, label ≠ [] ∧ label.length < 256) (behind : Bytes) {rounds : Nat}
    (enough : labels.length < rounds) :
    dottedLabels rounds (encodeName labels ++ behind) = withDots labels := by
  induction labels generalizing rounds with
  | nil =>
      obtain ⟨rounds, rfl⟩ : ∃ left, rounds = left + 1 := ⟨rounds - 1, by simp at enough; omega⟩
      rfl
  | cons label labels ih =>
      obtain ⟨rounds, rfl⟩ : ∃ left, rounds = left + 1 := ⟨rounds - 1, by omega⟩
      obtain ⟨nonempty, short⟩ := each label (.head _)
      have count : (UInt8.ofNat label.length).toNat = label.length :=
        UInt8.toNat_ofNat_of_lt' short
      have bytes : encodeName (label :: labels) ++ behind =
          UInt8.ofNat label.length :: (label ++ (encodeName labels ++ behind)) := by
        simp [encodeName]
      have first : (UInt8.ofNat label.length :: (label ++ (encodeName labels ++ behind))).getD 0 0 =
          UInt8.ofNat label.length := rfl
      have read : bufRead (UInt8.ofNat label.length :: (label ++ (encodeName labels ++ behind))) 1
          label.length = label := by
        rw [bufRead]
        simp
      rw [bytes]
      simp only [dottedLabels, first, count, read]
      rw [if_neg fun none => nonempty (List.length_eq_zero_iff.mp none), List.drop_succ_cons,
        List.drop_left, ih (fun next mem => each next (.tail _ mem)) (by simpa using enough)]
      simp [withDots]

/-- A name that is taken is the one that the client takes. -/
theorem mdnsClientGetFullDomain_of_within {rounds : Nat} {src text : Bytes}
    (taken : getFullDomainWithin domainNameSize rounds src [] = some text) (client : MdnsClient)
    (behind : Bytes) :
    mdnsClientGetFullDomain client (src ++ behind) =
      { client with domainName := sprintf client.domainName text } := by
  obtain ⟨labels, takes, ⟨rest, rfl⟩, rfl⟩ := labels_of_within (Nat.zero_le _) taken
  have count := length_le_encodeLabels labels
  have enough : labels.length < (encodeName labels ++ rest ++ behind).length + 1 := by
    rw [encodeName_eq]
    simp only [List.length_append]
    omega
  simp only [mdnsClientGetFullDomain]
  rw [List.append_assoc] at enough ⊢
  rw [dottedLabels_eq takes.each _ enough, if_neg, List.nil_append]
  intro none
  cases labels with
  | nil => exact takes.some_ rfl rfl
  | cons label labels => simp [withDots] at none

/-! ### Records -/

theorem bufWrite_append (buf behind src : Bytes) :
    bufWrite (buf ++ behind) 0 src =
      bufWrite buf 0 src ++ behind.drop (src.length - buf.length) := by
  simp only [bufWrite, bufRead, List.take_zero, List.nil_append, List.length_nil, Nat.sub_self,
    List.replicate_zero, Nat.zero_add, List.append_assoc, List.drop_append]

/-- The target of a SRV record is read into `domainName`. -/
def srvDomain (p : Bytes) (client : MdnsClient) : MdnsClient :=
  let firstLabelLength := client.rdata.getD 6 0
  if firstLabelLength &&& 0xc0 = 0xc0 then
    let jumpaddr := (firstLabelLength &&& 0x3f).toNat * 256 + (client.rdata.getD 7 0).toNat
    let client := { client with rdata := bufWrite client.rdata 0 (pbufCopyPartial p 256 jumpaddr) }
    mdnsClientGetFullDomain client client.rdata
  else mdnsClientGetFullDomain client (client.rdata.drop 6)

theorem mdnsClientGetFullDomain_domainName (client : MdnsClient) (srcLabel : Bytes) :
    (mdnsClientGetFullDomain client srcLabel).domainName =
      if dottedLabels (srcLabel.length + 1) srcLabel = [] then client.domainName
      else sprintf client.domainName (dottedLabels (srcLabel.length + 1) srcLabel).dropLast := by
  simp only [mdnsClientGetFullDomain]
  split <;> rfl

theorem srvDomain_congr (p : Bytes) {client client' : MdnsClient}
    (rdata : client'.rdata = client.rdata) (domainName : client'.domainName = client.domainName) :
    (srvDomain p client').domainName = (srvDomain p client).domainName := by
  simp only [srvDomain, rdata]
  split <;> simp only [mdnsClientGetFullDomain_domainName, domainName]

theorem updateApi_apiIf (client : MdnsClient) (type : NmosApiType)
    (change : NmosApiInterface → NmosApiInterface) :
    (client.updateApi type change).apiIf type = change (client.apiIf type) := by
  cases type <;> rfl

theorem srvDomain_apiIf (p : Bytes) (client : MdnsClient) (type : NmosApiType) :
    (srvDomain p client).apiIf type = client.apiIf type := by
  simp only [srvDomain, mdnsClientGetFullDomain]
  split <;> split <;> cases type <;> rfl

/-- The host of a SRV record is its target. -/
theorem mdnsClientDnsParseSRV_hostname (p : Bytes) {client : MdnsClient} {type : NmosApiType}
    (other : isStringEqual client.domainName (client.apiIf type).name = false) :
    ((mdnsClientDnsParseSRV p client (some type)).1.apiIf type).hostname =
      sprintf (client.apiIf type).hostname
        (cstr (srvDomain p client).domainName ++ str ".local") := by
  let asked := { client with state := .requestApi }.updateApi type fun apiIf =>
    { apiIf with port := ntoh (bufRead client.rdata 4 2) }
  have sameApi : (asked.apiIf type).hostname = (client.apiIf type).hostname := by
    cases type <;> rfl
  have sameTarget : (srvDomain p asked).domainName = (srvDomain p client).domainName := by
    apply srvDomain_congr <;> cases type <;> rfl
  rw [← sameTarget, ← sameApi, ← srvDomain_apiIf p asked type]
  simp only [mdnsClientDnsParseSRV, other, Bool.false_eq_true, if_false, mdnsClientSendQuery_apiIf]
  cases type <;> rfl

/-- The target that is taken is the one that the client reads, whatever stands in `rdata` behind
the record. -/
theorem srvDomain_of_within {p rdata target text : Bytes} {rounds : Nat}
    (found : srvTarget p rdata = some target)
    (taken : getFullDomainWithin domainNameSize rounds target [] = some text) (client : MdnsClient)
    (behind : Bytes) (held : client.rdata = rdata ++ behind) :
    (srvDomain p client).domainName = sprintf client.domainName text := by
  have read := mdnsClientGetFullDomain_of_within taken
  rw [srvTarget] at found
  cases fields : rdata.drop sizeofDnsRrSrv with
  | nil =>
      rw [fields] at found
      cases found
  | cons firstLabelLength rest =>
      have long : sizeofDnsRrSrv < rdata.length := by
        have length := congrArg List.length fields
        rw [List.length_drop, List.length_cons] at length
        omega
      have whole : rdata = rdata.take 6 ++ firstLabelLength :: rest := by
        rw [← fields]
        exact (List.take_append_drop 6 rdata).symm
      have before : (rdata.take 6).length = 6 := List.length_take_of_le (Nat.le_of_lt long)
      have first : client.rdata.getD 6 0 = firstLabelLength := by
        rw [held, whole, List.append_assoc, List.getD_append_right _ _ _ _ (by omega), before]
        rfl
      rw [fields] at found
      simp only at found
      simp only [srvDomain, first]
      split at found
      next compressed =>
        rw [if_pos compressed]
        cases rest with
        | nil => cases found
        | cons low rest =>
            have second : client.rdata.getD 7 0 = low := by
              rw [held, whole, List.append_assoc, List.getD_append_right _ _ _ _ (by omega), before]
              rfl
            obtain rfl := Option.some.inj found
            rw [second, held, bufWrite_append, read]
      next plain =>
        rw [if_neg plain]
        have same := Option.some.inj found
        have behindFields : client.rdata.drop 6 = target ++ behind := by
          calc client.rdata.drop 6
              = rdata.drop sizeofDnsRrSrv ++ behind := by
                rw [held]
                exact List.drop_append_of_le_length (Nat.le_of_lt long)
            _ = target ++ behind := by rw [fields, same]
        rw [behindFields, read]

/-- The loop over the items always reads one label more than there are. -/
theorem txtItemsWithin_eq_none (rdata : Bytes) (rounds : Nat) {offset : Nat}
    (inside : offset ≤ rdata.length) : txtItemsWithin rdata rounds offset = none := by
  induction rounds generalizing offset with
  | zero => rfl
  | succ rounds ih =>
      rw [txtItemsWithin, if_neg (Nat.not_lt_of_le inside)]
      cases taken : getOneLabelWithin domainNameSize (rdata.drop offset) with
      | none => rfl
      | some found =>
          obtain ⟨label, rest⟩ := found
          obtain ⟨_, _, same⟩ := getOneLabelWithin_eq_some_iff.mp taken
          have length := congrArg List.length same
          rw [List.length_drop, List.length_cons, List.length_append] at length
          -- behind the label there may be nothing left, and yet the loop goes on
          have next : offset + (label.length + 1) ≤ rdata.length := by omega
          exact ih (Nat.le_trans (Nat.mod_le _ _) next)

end LwipExt.Mdns
