import LwipExt.Mdns.Query

/-!
Names in a packet that is being written: `mdns_compress_domain` of `extMdns.c`, and when
`mdns_readname` reads a compressed name back.

What is written of a packet is a partial view of it (`NameIn`), so that a name which stands in a
part of the packet still stands there when more is written (`NameIn.mono`). A name is read back
when it is behind at most five jumps (`mdnsReadname_of_nameIn`). A suffix that the compression
finds begins at a label of the earlier name (`aligned`) when no byte of a label is the length of
one, which is what `Plain` asks; without it a jump may lead into the middle of a label.
-/

namespace LwipExt.Mdns

/-- Conversion to `u8_t`. -/
def u8 (n : Nat) : Nat := n % 256

theorem u8_of_lt {n : Nat} (small : n < 256) : u8 n = n := Nat.mod_eq_of_lt small

/-- `DOMAIN_JUMP_SIZE`. -/
def domainJumpSize : Nat := 2

/-! ### The search for a suffix -/

/-- The loop of `mdns_compress_domain`: the bytes to write before a jump, and where in the target
it leads; `none` when nothing is found. `ptr` moves with `writelen`, which is a `u8_t`. -/
def mdnsCompressLoop (domain target : MdnsDomain) (targetLen : Nat) :
    Nat → Nat → Nat → Option (Nat × Nat)
  | 0, _, _ => none
  | rounds + 1, writelen, ptr =>
      if domain.length ≤ writelen then none
      else
        let domainlen := u8 (domain.length - writelen)
        let labellen := (domain.name.getD ptr 0).toNat
        let next := mdnsCompressLoop domain target targetLen rounds
          (u8 (writelen + (1 + labellen))) (ptr + (1 + labellen))
        if domainlen ≤ target.length ∧ domainJumpSize < domainlen then
          let targetpos := u8 (target.length - domainlen)
          -- at or beyond a jump in the original
          if targetLen ≤ targetpos + domainJumpSize then none
          else if bufRead domain.name writelen domainlen = bufRead target.name targetpos domainlen then
            some (writelen, targetpos)
          else next
        else next

/-- `mdns_compress_domain`: the bytes to write before a jump, and the offset behind it. A name of
256 bytes, which no name of the responder has, would lead `ptr` out of the name. -/
def mdnsCompressDomain (p : Bytes) (offset : Nat) (domain : MdnsDomain) : Nat × Nat :=
  match mdnsReadname p offset with
  | (targetEnd, target) =>
      if targetEnd = mdnsReadnameError then (domain.length, offset)
      else
        match mdnsCompressLoop domain target (u8 (sub16 targetEnd offset)) mdnsDomainMaxlen 0 0 with
        | none => (domain.length, offset)
        | some (writelen, targetpos) => (writelen, u16 (offset + targetpos))

/-! ### Names in what is written -/

/-- A name stands at an offset of what is written of a packet: its labels, the jumps on the way
through them, and the offset behind its bytes. A jump leads to a label. -/
inductive NameIn (v : Nat → Option UInt8) : Nat → Nat → List Bytes → Nat → Prop
  | root {o : Nat} (zero : v o = some 0) : NameIn v 0 o [] (o + 1)
  | label {jumps o stop : Nat} {label : Bytes} {labels : List Bytes} (nonempty : label ≠ [])
      (short : label.length ≤ mdnsLabelMaxlen) (length : v o = some (UInt8.ofNat label.length))
      (bytes : ∀ i < label.length, v (o + 1 + i) = label[i]?)
      (rest : NameIn v jumps (o + 1 + label.length) labels stop) :
      NameIn v jumps o (label :: labels) stop
  | jump {jumps o addr stop : Nat} {hi lo : UInt8} {labels : List Bytes} (high : v o = some hi)
      (low : v (o + 1) = some lo) (compressed : hi &&& 0xc0 = 0xc0)
      (leads : (hi &&& 0x3f).toNat * 256 + lo.toNat = addr) (body : sizeofDnsHdr ≤ addr)
      (target : NameIn v jumps addr labels stop) (literal : addr + 2 < stop) :
      NameIn v (jumps + 1) o labels (o + 2)

/-- What is written later leaves the names. -/
theorem NameIn.mono {v v' : Nat → Option UInt8} (kept : ∀ i b, v i = some b → v' i = some b)
    {jumps o stop : Nat} {labels : List Bytes} (named : NameIn v jumps o labels stop) :
    NameIn v' jumps o labels stop := by
  induction named with
  | root zero => exact .root (kept _ _ zero)
  | label nonempty short length bytes _ ih =>
      refine .label nonempty short (kept _ _ length) (fun i lt => ?_) ih
      rw [List.getElem?_eq_getElem lt]
      apply kept
      rw [bytes i lt, List.getElem?_eq_getElem lt]
  | jump high low compressed leads body _ literal ih =>
      exact .jump (kept _ _ high) (kept _ _ low) compressed leads body ih literal

/-- Every jump is followed by a label. -/
theorem NameIn.jumps_le {v : Nat → Option UInt8} {jumps o stop : Nat} {labels : List Bytes}
    (named : NameIn v jumps o labels stop) :
    jumps ≤ labels.length ∧ (o + 2 < stop → jumps < labels.length) := by
  induction named with
  | root => exact ⟨Nat.le_refl _, fun lt => by omega⟩
  | label _ _ _ _ _ ih =>
      rw [List.length_cons]
      exact ⟨by omega, fun _ => by omega⟩
  | jump _ _ _ _ _ _ literal ih => exact ⟨ih.2 literal, fun lt => by omega⟩

theorem NameIn.each {v : Nat → Option UInt8} {jumps o stop : Nat} {labels : List Bytes}
    (named : NameIn v jumps o labels stop) :
    ∀ label ∈ labels, label ≠ [] ∧ label.length ≤ mdnsLabelMaxlen := by
  induction named with
  | root => exact fun _ mem => by cases mem
  | label nonempty short _ _ _ ih =>
      intro label mem
      rcases List.mem_cons.mp mem with rfl | later
      · exact ⟨nonempty, short⟩
      · exact ih label later
  | jump _ _ _ _ _ _ _ ih => exact ih

/-- The end of a name is behind a written byte. -/
theorem NameIn.stop_written {v : Nat → Option UInt8} {jumps o stop : Nat} {labels : List Bytes}
    (named : NameIn v jumps o labels stop) : ∃ b, v (stop - 1) = some b ∧ o < stop := by
  induction named with
  | root zero => exact ⟨0, zero, by omega⟩
  | label _ _ _ _ _ ih =>
      obtain ⟨b, last, lt⟩ := ih
      exact ⟨b, last, by omega⟩
  | jump _ low _ _ _ _ _ _ => exact ⟨_, low, by omega⟩

/-- Before its jump a name has its own labels, and a name stands at each of them. -/
theorem NameIn.suffix {v : Nat → Option UInt8} {pre suf : List Bytes} {jumps o stop : Nat}
    (named : NameIn v jumps o (pre ++ suf) stop)
    (literal : o + (encodeLabels pre).length + 2 < stop) :
    NameIn v jumps (o + (encodeLabels pre).length) suf stop := by
  induction pre generalizing o with
  | nil => exact named
  | cons label pre ih =>
      rw [encodeLabels_cons, List.length_cons, List.length_append] at literal ⊢
      rw [List.cons_append] at named
      cases named with
      | label _ _ _ _ rest =>
          have at_ : o + (label.length + (encodeLabels pre).length + 1) =
              o + 1 + label.length + (encodeLabels pre).length := by omega
          rw [at_]
          exact ih rest (by omega)
      | jump => omega

/-! ### Reading back -/

/-- What is written of a packet is in the packet. -/
def Below (v : Nat → Option UInt8) (p : Bytes) : Prop := ∀ i b, v i = some b → p[i]? = some b

theorem Below.lt {v : Nat → Option UInt8} {p : Bytes} (below : Below v p) {i : Nat} {b : UInt8}
    (at_ : v i = some b) : i < p.length :=
  (List.getElem?_eq_some_iff.mp (below i b at_)).1

theorem Below.get {v : Nat → Option UInt8} {p : Bytes} (below : Below v p) {i : Nat} {b : UInt8}
    (at_ : v i = some b) : pbufGetAt p i = b := by
  rw [pbufGetAt, List.getD_eq_getElem?_getD, below i b at_, Option.getD_some]

/-- A label in the written part, with what is before and behind it. -/
theorem Below.split {v : Nat → Option UInt8} {p label : Bytes} (below : Below v p) {o : Nat}
    (length : v o = some (UInt8.ofNat label.length))
    (bytes : ∀ i < label.length, v (o + 1 + i) = label[i]?) :
    p = p.take o ++ UInt8.ofNat label.length :: (label ++ p.drop (o + 1 + label.length)) := by
  have inside := below.lt length
  have copied : (p.drop (o + 1)).take label.length = label := by
    apply List.ext_getElem?
    intro i
    by_cases lt : i < label.length
    · rw [List.getElem?_take_of_lt lt, List.getElem?_drop, List.getElem?_eq_getElem lt]
      apply below
      rw [bytes i lt, List.getElem?_eq_getElem lt]
    · rw [List.getElem?_eq_none (by simp; omega), List.getElem?_eq_none (by omega)]
  have first : p[o] = UInt8.ofNat label.length :=
    Option.some_inj.mp ((List.getElem?_eq_getElem inside).symm.trans (below _ _ length))
  conv_lhs => rw [← List.take_append_drop o p, List.drop_eq_getElem_cons inside, first,
    ← List.take_append_drop label.length (p.drop (o + 1)), copied, List.drop_drop]

theorem mdnsReadLabels_of_nameIn {v : Nat → Option UInt8} {p : Bytes} (below : Below v p)
    (small : p.length < mdnsReadnameError) {jumps o stop : Nat} {labels : List Bytes}
    (named : NameIn v jumps o labels stop) {levels rounds : Nat} (deep : jumps ≤ levels)
    (enough : labels.length < rounds) {domain : MdnsDomain}
    (fits : domain.length + (encodeLabels labels).length < mdnsDomainMaxlen) :
    mdnsReadLabels p (mdnsReadnameLoop p levels) rounds o domain =
      (stop, ⟨domain.name ++ encodeName labels⟩) := by
  have limit : mdnsReadnameError = 65535 := rfl
  induction named generalizing levels rounds domain with
  | @root o zero =>
      obtain ⟨rounds, rfl⟩ : ∃ left, rounds = left + 1 := ⟨rounds - 1, by simp at enough; omega⟩
      have inside := below.lt zero
      have length : (p.take o).length = o := List.length_take_of_le (by omega)
      have empty : ([] : Bytes).length ≤ mdnsLabelMaxlen := by decide
      have len : v o = some (UInt8.ofNat ([] : Bytes).length) := zero
      have whole := below.split len (fun i lt => by simp at lt)
      have read := mdnsReadLabels_label empty (mdnsReadnameLoop p levels) rounds fits
        (absurd rfl) (p.take o) (p.drop (o + 1)) (by simp; omega)
      rw [if_pos rfl, length] at read
      rw [List.length_nil, Nat.add_zero] at whole
      rw [List.length_nil, ← whole] at read
      exact read
  | @label jumps o stop label labels nonempty short len bytes rest ih =>
      obtain ⟨rounds, rfl⟩ : ∃ left, rounds = left + 1 := ⟨rounds - 1, by omega⟩
      have inside := below.lt len
      obtain ⟨last, written, -⟩ := rest.stop_written
      have lastInside := below.lt written
      have behind := rest.stop_written.choose_spec.2
      have length : (p.take o).length = o := List.length_take_of_le (by omega)
      have whole := below.split len bytes
      rw [encodeLabels_cons, List.length_cons, List.length_append] at fits
      have room : domain.length + label.length + 1 ≤ mdnsDomainMaxlen := by omega
      have read := mdnsReadLabels_label short (mdnsReadnameLoop p levels) rounds room
        (fun _ => by omega) (p.take o)
        (p.drop (o + 1 + label.length)) (by rw [length]; omega)
      rw [if_neg nonempty, length, ← whole] at read
      rw [read, ih deep (by simpa using enough)]
      · simp [encodeName]
      · simp only [MdnsDomain.length, List.length_append, List.length_cons] at fits ⊢
        omega
  | @jump jumps o addr stop hi lo labels high low compressed leads body target literal ih =>
      obtain ⟨rounds, rfl⟩ : ∃ left, rounds = left + 1 := ⟨rounds - 1, by omega⟩
      obtain ⟨levels, rfl⟩ : ∃ left, levels = left + 1 := ⟨levels - 1, by omega⟩
      have next := below.lt low
      obtain ⟨last, written, behind⟩ := target.stop_written
      have lastInside := below.lt written
      have count := length_le_encodeLabels labels
      have shallower : jumps ≤ levels := by omega
      have rounds' : labels.length < mdnsDomainMaxlen + 1 := by omega
      have followed := ih shallower rounds' fits
      have started : addr < p.length := by omega
      simp only [mdnsReadLabels, below.get high]
      rw [if_pos compressed, u16_of_lt (by omega), if_neg (by omega), below.get low, leads,
        if_pos ⟨body, started⟩, mdnsReadnameLoop, followed]
      simp only
      rw [if_neg (by omega), u16_of_lt (by omega)]

/-- A name that stands in a packet behind at most five jumps is read. -/
theorem mdnsReadname_of_nameIn {v : Nat → Option UInt8} {p : Bytes} (below : Below v p)
    (small : p.length < mdnsReadnameError) {jumps o stop : Nat} {labels : List Bytes}
    (named : NameIn v jumps o labels stop) (deep : jumps ≤ 5)
    (fits : (encodeLabels labels).length < mdnsDomainMaxlen) :
    mdnsReadname p o = (stop, ⟨encodeName labels⟩) := by
  have count := length_le_encodeLabels labels
  rw [mdnsReadname, mdnsReadnameLoop]
  exact mdnsReadLabels_of_nameIn below small named deep (by omega) (by simpa [MdnsDomain.length])

/-! ### What the search finds -/

/-- A name whose bytes cannot be taken for lengths: its labels are shorter than `limit` and have
no byte below it. -/
structure Plain (limit : Nat) (labels : List Bytes) : Prop where
  each : ∀ label ∈ labels, label ≠ [] ∧ label.length ≤ mdnsLabelMaxlen
  apart : ∀ label ∈ labels, label.length < limit ∧ ∀ b ∈ label, limit ≤ b.toNat
  fits : (encodeLabels labels).length + 1 < mdnsDomainMaxlen

theorem encodeName_cons (label : Bytes) (labels : List Bytes) :
    encodeName (label :: labels) = UInt8.ofNat label.length :: (label ++ encodeName labels) := by
  simp [encodeName]

theorem length_encodeName (labels : List Bytes) :
    (encodeName labels).length = (encodeLabels labels).length + 1 := by
  rw [encodeName_eq, List.length_append, List.length_singleton]

theorem encodeName_append (pre suf : List Bytes) :
    encodeName (pre ++ suf) = encodeLabels pre ++ encodeName suf := by
  simp [encodeName, encodeLabels]

theorem encodeName_injective {labels labels' : List Bytes}
    (each : ∀ label ∈ labels, label ≠ [] ∧ label.length ≤ mdnsLabelMaxlen)
    (each' : ∀ label ∈ labels', label ≠ [] ∧ label.length ≤ mdnsLabelMaxlen)
    (same : encodeName labels = encodeName labels') : labels = labels' := by
  have enough : labels.length < labels.length + labels'.length + 1 := by omega
  have enough' : labels'.length < labels.length + labels'.length + 1 := by omega
  have first := labelsOf_encodeName each enough
  have second := labelsOf_encodeName each' enough'
  rw [← first, same, second]

/-- The end of a name that is a name itself begins at one of the labels. -/
theorem aligned {limit : Nat} {target suf : List Bytes} (plain : Plain limit target)
    (plain' : Plain limit suf) (nonempty : suf ≠ []) {pos : Nat}
    (same : (encodeName target).drop pos = encodeName suf) :
    ∃ pre, target = pre ++ suf ∧ pos = (encodeLabels pre).length := by
  obtain ⟨s, others, rfl⟩ := List.exists_cons_of_ne_nil nonempty
  induction target generalizing pos with
  | nil =>
      -- only the root is left
      have shorter := congrArg List.length same
      rw [List.length_drop, length_encodeName, length_encodeName, encodeLabels_cons,
        List.length_cons, List.length_append] at shorter
      simp [encodeLabels] at shorter
      omega
  | cons t target ih =>
      have rest : Plain limit target :=
        ⟨fun label mem => plain.each label (.tail _ mem),
          fun label mem => plain.apart label (.tail _ mem), by
            have := plain.fits
            rw [encodeLabels_cons, List.length_cons, List.length_append] at this
            omega⟩
      rcases Nat.eq_zero_or_pos pos with rfl | later
      · refine ⟨[], encodeName_injective plain.each plain'.each same, rfl⟩
      · obtain ⟨pos, rfl⟩ : ∃ before, pos = before + 1 := ⟨pos - 1, by omega⟩
        rw [encodeName_cons, List.drop_succ_cons] at same
        by_cases within : pos < t.length
        · -- a byte of the label would be the length of another
          have first := congrArg List.head? same
          rw [List.head?_drop, List.getElem?_append_left within, List.getElem?_eq_getElem within,
            encodeName_cons, List.head?_cons, Option.some_inj] at first
          have byte := (plain.apart t (.head _)).2 t[pos] (List.getElem_mem within)
          have short := (plain'.apart s (.head _)).1
          rw [first, toNat_length (plain'.each s (.head _)).2] at byte
          omega
        · rw [List.drop_append, List.drop_of_length_le (by omega), List.nil_append] at same
          obtain ⟨pre, rfl, at_⟩ := ih rest same
          refine ⟨t :: pre, rfl, ?_⟩
          rw [encodeLabels_cons, List.length_cons, List.length_append, ← at_]
          omega

/-- What is found: the labels to write, and the label of the target that the rest begins at. -/
structure Found (target labels : List Bytes) (targetLen writelen targetpos : Nat) : Prop where
  split : ∃ pre suf, labels = pre ++ suf ∧ suf ≠ [] ∧ writelen = (encodeLabels pre).length ∧
    (encodeName target).drop targetpos = encodeName suf
  literal : targetpos + 2 < targetLen

theorem bufRead_drop_of_length {buf : Bytes} {off n : Nat} (fits : buf.length = off + n) :
    bufRead buf off n = buf.drop off := by
  have length : (buf.drop off).length = n := by rw [List.length_drop]; omega
  rw [bufRead, ← length, List.take_length, Nat.sub_self, List.replicate_zero, List.append_nil]

theorem mdnsCompressLoop_found {target labels : List Bytes}
    (each : ∀ label ∈ labels, label ≠ [] ∧ label.length ≤ mdnsLabelMaxlen)
    (fits : (encodeLabels labels).length + 1 < mdnsDomainMaxlen)
    (targetFits : (encodeLabels target).length + 1 ≤ mdnsDomainMaxlen) {targetLen : Nat}
    {rounds writelen targetpos : Nat} {pre suf : List Bytes} (whole : labels = pre ++ suf)
    (found : mdnsCompressLoop ⟨encodeName labels⟩ ⟨encodeName target⟩ targetLen rounds
      (encodeLabels pre).length (encodeLabels pre).length = some (writelen, targetpos)) :
    Found target labels targetLen writelen targetpos := by
  have limit : mdnsDomainMaxlen = 256 := rfl
  have bytes : encodeName labels = encodeLabels pre ++ encodeName suf := by
    rw [whole, encodeName_append]
  have size : (encodeLabels labels).length =
      (encodeLabels pre).length + (encodeLabels suf).length := by
    have := congrArg List.length bytes
    rw [List.length_append, length_encodeName, length_encodeName] at this
    omega
  induction rounds generalizing pre suf with
  | zero => cases found
  | succ rounds ih =>
      rw [mdnsCompressLoop] at found
      simp only [MdnsDomain.length, length_encodeName] at found
      rw [if_neg (by omega), u8_of_lt (n := _ - _) (by omega)] at found
      have left : (encodeLabels labels).length + 1 - (encodeLabels pre).length =
          (encodeLabels suf).length + 1 := by omega
      have mine : bufRead (encodeName labels) (encodeLabels pre).length
          ((encodeLabels suf).length + 1) = encodeName suf := by
        rw [bufRead_drop_of_length (by rw [length_encodeName]; omega), bytes, List.drop_left]
      -- what the loop goes on with, at the next label
      have goesOn : mdnsCompressLoop ⟨encodeName labels⟩ ⟨encodeName target⟩ targetLen rounds
          (u8 ((encodeLabels pre).length +
            (1 + ((encodeName labels).getD (encodeLabels pre).length 0).toNat)))
          ((encodeLabels pre).length +
            (1 + ((encodeName labels).getD (encodeLabels pre).length 0).toNat)) =
          some (writelen, targetpos) → Found target labels targetLen writelen targetpos := by
        intro next
        cases suf with
        | nil =>
            -- behind the root
            have root : (encodeName labels).getD (encodeLabels pre).length 0 = 0 := by
              rw [bytes, List.getD_append_right _ _ _ _ (Nat.le_refl _), Nat.sub_self]
              rfl
            have empty : (encodeLabels ([] : List Bytes)).length = 0 := rfl
            rw [root, u8_of_lt (by simp; omega)] at next
            cases rounds with
            | zero => cases next
            | succ rounds =>
                rw [mdnsCompressLoop, if_pos] at next
                · cases next
                · simp only [MdnsDomain.length, length_encodeName]
                  simp
                  omega
        | cons s suf =>
            obtain ⟨some_, short⟩ := each s (by rw [whole]; simp)
            have len : (encodeName labels).getD (encodeLabels pre).length 0 =
                UInt8.ofNat s.length := by
              rw [bytes, List.getD_append_right _ _ _ _ (Nat.le_refl _), Nat.sub_self,
                encodeName_cons]
              rfl
            have longer : (encodeLabels (pre ++ [s])).length =
                (encodeLabels pre).length + (1 + s.length) := by
              simp [encodeLabels]
              omega
            rw [encodeLabels_cons, List.length_cons, List.length_append] at size
            rw [len, toNat_length short, ← longer, u8_of_lt (by omega)] at next
            have whole' : labels = (pre ++ [s]) ++ suf := by rw [whole]; simp
            refine ih whole' next ?_ ?_
            · rw [whole, ← encodeName_append]
              simp
            · omega
      rw [left] at found
      split at found
      next room =>
        rw [u8_of_lt (n := _ - _) (by omega)] at found
        split at found
        · cases found
        next before =>
          split at found
          next same =>
            cases found
            rw [mine, bufRead_drop_of_length (by rw [length_encodeName]; omega)] at same
            have jump : domainJumpSize = 2 := rfl
            refine ⟨⟨pre, suf, whole, ?_, rfl, same.symm⟩, by omega⟩
            rintro rfl
            have empty : (encodeLabels ([] : List Bytes)).length = 0 := rfl
            omega
          next => exact goesOn found
      next => exact goesOn found

/-- Against an earlier name of the packet: nothing is found, or the bytes to write are labels of
the name and the offset is that of a label behind which the others stand. -/
theorem mdnsCompressDomain_of_nameIn {v : Nat → Option UInt8} {p : Bytes} (below : Below v p)
    (small : p.length < mdnsReadnameError) {limit jumps o stop : Nat} {target labels : List Bytes}
    (named : NameIn v jumps o target stop) (deep : jumps ≤ 5) (plainTarget : Plain limit target)
    (plain : Plain limit labels) {writelen addr : Nat}
    (compressed : mdnsCompressDomain p o ⟨encodeName labels⟩ = (writelen, addr)) :
    writelen = (encodeName labels).length ∨
      ∃ pre suf, labels = pre ++ suf ∧ suf ≠ [] ∧ writelen = (encodeLabels pre).length ∧
        NameIn v jumps addr suf stop ∧ addr + 2 < stop := by
  have error : mdnsReadnameError = 65535 := rfl
  obtain ⟨last, written, behind⟩ := named.stop_written
  have inside := below.lt written
  have targetFits := plainTarget.fits
  rw [mdnsCompressDomain, mdnsReadname_of_nameIn below small named deep (by omega)] at compressed
  simp only at compressed
  rw [if_neg (by omega), sub16_of_le (by omega) (by omega)] at compressed
  cases search : mdnsCompressLoop ⟨encodeName labels⟩ ⟨encodeName target⟩ (u8 (stop - o))
      mdnsDomainMaxlen 0 0 with
  | none =>
      rw [search] at compressed
      cases compressed
      exact .inl rfl
  | some result =>
      obtain ⟨written, targetpos⟩ := result
      rw [search] at compressed
      cases compressed
      have whole : labels = [] ++ labels := rfl
      have found := mdnsCompressLoop_found plain.each plain.fits (by omega) whole search
      obtain ⟨pre, suf, rfl, nonempty, length, same⟩ := found.split
      have plainSuf : Plain limit suf := by
        refine ⟨fun label mem => plain.each label (List.mem_append_right _ mem),
          fun label mem => plain.apart label (List.mem_append_right _ mem), ?_⟩
        have fits := plain.fits
        simp only [encodeLabels, List.flatMap_append, List.length_append] at fits ⊢
        omega
      obtain ⟨front, rfl, at_⟩ := aligned plainTarget plainSuf nonempty same
      have literal := found.literal
      have shorter : u8 (stop - o) ≤ stop - o := Nat.mod_le _ _
      rw [at_] at literal ⊢
      rw [u16_of_lt (by omega)]
      exact .inr ⟨pre, suf, rfl, nonempty, length, named.suffix (by omega), by omega⟩

end LwipExt.Mdns
