import LwipExt.UdpCmd.History
import LwipExt.UdpCmd.Members

/-!
What an authenticated `set_param` makes of the members of its request.

Every field has a range, and `askedCfg` is the configuration that the members ask for. A
value is lost on its way where it stands for a missing one: zero for a number,
`IPADDR_NONE` for an address, the empty name, an address the code takes for null; and the
connect flag is toggled, not set. The main result is `set_params_right_iff`.
-/

namespace LwipExt.UdpCmd

/-! ### The fields of a request -/

/-- A value that is asked for, in another form. -/
def Asked.map {α β : Type} (f : α → β) : Asked α → Asked β
  | .value v => .value (f v)
  | .absent => .absent
  | .outside => .outside

/-- A number of 16 bits. -/
def Json.asked16 (j : Json) (key : Bytes) : Asked UInt16 :=
  (j.askedNumber key fun n => n < 65536).map UInt16.ofNat

/-- A number of 8 bits. -/
def Json.asked8 (j : Json) (key : Bytes) : Asked UInt8 :=
  (j.askedNumber key fun n => n < 256).map UInt8.ofNat

/-- A number that is one of a few. -/
def Json.askedOf (j : Json) (key : Bytes) (admitted : List Nat) : Asked Nat :=
  j.askedNumber key fun n => n ∈ admitted

/-- A flag. -/
def Json.askedFlag (j : Json) (key : Bytes) : Asked UInt8 :=
  (j.askedNumber key fun n => n < 2).map UInt8.ofNat

/-- A name. -/
def Json.askedText (j : Json) (key : Bytes) : Asked Bytes :=
  j.asked key fun tok => (j.words cfgNameSize tok).bind some

/-- The address of the media. With multicast asked for, it is a group or the null address. -/
def Json.askedGroup (j : Json) : Asked UInt32 :=
  match j.askedAddress (str "MCASTip") with
  | .value ip =>
      if j.askedFlag (str "isMCAST") = .value 1 ∧ ¬ ipAddrIsMulticast ip ∧ ip ≠ 0 then .outside
      else .value ip
  | .absent => .absent
  | .outside => .outside

/-- The configuration that the members of a request ask for. -/
def askedCfg (j : Json) (c : RuntimeCfg) : RuntimeCfg :=
  { c with
    isMCast := (j.askedFlag (str "isMCAST")).getD c.isMCast
    isDipOn := (j.askedFlag (str "isDipOn")).getD c.isDipOn
    netMode := ((j.askedFlag (str "isDhcp")).map fun v => extCfgSetDhcp c.netMode (v ≠ 0)).getD
      c.netMode
    localCfg := { c.localCfg with
      mac := (j.askedMac (str "mac")).getD c.localCfg.mac
      ip := (j.askedAddress (str "ip")).getD c.localCfg.ip }
    ipMask := (j.askedAddress (str "mask")).getD c.ipMask
    ipGateway := (j.askedAddress (str "gateway")).getD c.ipGateway
    dest := { c.dest with
      ip := j.askedGroup.getD c.dest.ip
      vport := (j.asked16 (str "vidPort")).getD c.dest.vport
      aport := (j.asked16 (str "audPort")).getD c.dest.aport
      dport := (j.asked16 (str "datPort")).getD c.dest.dport
      sport := (j.asked16 (str "strPort")).getD c.dest.sport }
    name := (j.askedText (str "cName")).getD c.name
    rs232Cfg :=
      { baudRate := ((j.askedOf (str "RS232Baudrate") [9600, 19200, 38400, 57600, 115200]).map
          UInt32.ofNat).getD c.rs232Cfg.baudRate
        charLength := ((j.askedOf (str "RS232Databits") [5, 6, 7, 8]).map UInt8.ofNat).getD
          c.rs232Cfg.charLength
        stopbits := ((j.askedOf (str "RS232Stopbits") [1, 2]).map UInt8.ofNat).getD
          c.rs232Cfg.stopbits
        parityType := ((j.askedName (str "RS232Parity") ipcmdStringRsParities).map
          UInt16.toUInt8).getD c.rs232Cfg.parityType }
    runtime :=
      { vWidth := (j.asked16 (str "vidW")).getD c.runtime.vWidth
        vHeight := (j.asked16 (str "vidH")).getD c.runtime.vHeight
        vFrameRate := (j.asked8 (str "vidFps")).getD c.runtime.vFrameRate
        vDepth := (j.asked8 (str "vidDepth")).getD c.runtime.vDepth
        vIsInterlaced := (j.askedFlag (str "vidIsIntlc")).getD c.runtime.vIsInterlaced
        vIsSegmented := (j.askedFlag (str "vidIsSgmt")).getD c.runtime.vIsSegmented
        vColorSpace := ((j.askedName (str "vidClrSpace") videoColorSpaces).map
          UInt16.toUInt8).getD c.runtime.vColorSpace
        aSampleRate := ((j.askedOf (str "audFrq") [44100, 48000]).map UInt16.ofNat).getD
          c.runtime.aSampleRate
        aDepth := ((j.askedOf (str "audBit") [16, 24]).map UInt8.ofNat).getD c.runtime.aDepth
        aChannels := ((j.askedOf (str "audChan") [1, 2]).map UInt8.ofNat).getD c.runtime.aChannels
        isConnect := (j.askedFlag (str "IsConnect")).getD c.runtime.isConnect } }

/-- The values of all fields are absent or in their ranges. -/
@[mk_iff]
structure InRange (j : Json) : Prop where
  cName : (j.askedText (str "cName")).isOutside = false
  mac : (j.askedMac (str "mac")).isOutside = false
  address : ∀ key ∈ [str "ip", str "mask", str "gateway"], (j.askedAddress key).isOutside = false
  group : j.askedGroup.isOutside = false
  flag : ∀ key ∈ [str "isDhcp", str "isDipOn", str "isMCAST", str "vidIsIntlc", str "vidIsSgmt",
    str "IsConnect"], (j.askedFlag key).isOutside = false
  short : ∀ key ∈ [str "vidPort", str "audPort", str "datPort", str "strPort", str "vidW",
    str "vidH"], (j.asked16 key).isOutside = false
  char : ∀ key ∈ [str "vidFps", str "vidDepth"], (j.asked8 key).isOutside = false
  listed : ∀ field ∈ [(str "RS232Baudrate", [9600, 19200, 38400, 57600, 115200]),
    (str "RS232Databits", [5, 6, 7, 8]), (str "RS232Stopbits", [1, 2]),
    (str "audFrq", [44100, 48000]), (str "audBit", [16, 24]), (str "audChan", [1, 2])],
    (j.askedOf field.1 field.2).isOutside = false
  named : ∀ field ∈ [(str "RS232Parity", ipcmdStringRsParities),
    (str "vidClrSpace", videoColorSpaces)], (j.askedName field.1 field.2).isOutside = false

instance (j : Json) : Decidable (InRange j) := decidable_of_iff _ (inRange_iff j).symm

/-- A request that stays in range is done, all of it and nothing else; one with a value that is
out of range is refused and changes nothing. -/
structure SetParamsRight (parser : ExtJsonParser) : Prop where
  done : InRange parser.json → (extUdpCmdSetupParams parser).2 = true ∧
    (extUdpCmdSetupParams parser).1.runCfg = askedCfg parser.json parser.runCfg
  refused : ¬ InRange parser.json → (extUdpCmdSetupParams parser).2 = false ∧
    (extUdpCmdSetupParams parser).1.runCfg = parser.runCfg

/-- No value is lost: none that stands for a missing one is asked for, unless it is the current
one, and the connect flag is asked to change. -/
@[mk_iff]
structure Survives (j : Json) (c : RuntimeCfg) : Prop where
  cName : ∀ name, j.askedText (str "cName") = .value name →
    name = c.name ∨ name ≠ [] ∧ isStringEqual c.name name = false
  mac : ∀ mac, j.askedMac (str "mac") = .value mac → mac = c.localCfg.mac ∨ macAddrIsNull mac = false
  address : ∀ field ∈ [(str "ip", c.localCfg.ip), (str "mask", c.ipMask),
    (str "gateway", c.ipGateway), (str "MCASTip", c.dest.ip)],
    j.askedAddress field.1 = .value ipaddrNone → field.2 = ipaddrNone
  short : ∀ field ∈ [(str "vidPort", c.dest.vport), (str "audPort", c.dest.aport),
    (str "datPort", c.dest.dport), (str "strPort", c.dest.sport), (str "vidW", c.runtime.vWidth),
    (str "vidH", c.runtime.vHeight)], j.asked16 field.1 = .value 0 → field.2 = 0
  char : ∀ field ∈ [(str "vidFps", c.runtime.vFrameRate), (str "vidDepth", c.runtime.vDepth)],
    j.asked8 field.1 = .value 0 → field.2 = 0
  connect : ∀ v, j.askedFlag (str "IsConnect") = .value v →
    v = 1 ∧ c.runtime.isConnect = 0 ∨ v = 0 ∧ c.runtime.isConnect ≠ 0 ∧ c.runtime.isConnect ≠ 1

instance (priority := 2000) {α : Type} {asked : Asked α} {P : α → Prop} [DecidablePred P] :
    Decidable (∀ v, asked = .value v → P v) :=
  match asked with
  | .value v => decidable_of_iff (P v)
      ⟨fun holds _ same => Asked.value.inj same ▸ holds, fun all => all v rfl⟩
  | .absent => .isTrue fun _ same => (by cases same)
  | .outside => .isTrue fun _ same => (by cases same)

instance (j : Json) (c : RuntimeCfg) : Decidable (Survives j c) :=
  decidable_of_iff _ (survives_iff j c).symm

/-! ### One field -/

section Asked

variable {α β : Type}

@[simp] theorem Asked.isOutside_map (f : α → β) (asked : Asked α) :
    (asked.map f).isOutside = asked.isOutside := by
  cases asked <;> rfl

@[simp] theorem Asked.map_eq_value {f : α → β} {asked : Asked α} {v : β} :
    asked.map f = .value v ↔ ∃ u, asked = .value u ∧ f u = v := by
  cases asked <;> simp [Asked.map]

/-- A field that is absent or in its range. -/
theorem Asked.inside {asked : Asked α} (inRange : asked.isOutside = false) :
    asked = .absent ∨ ∃ v, asked = .value v := by
  cases asked with
  | absent => exact .inl rfl
  | value v => exact .inr ⟨v, rfl⟩
  | outside => cases inRange

end Asked

section Stored

theorem checkField_getD {α : Type} [DecidableEq α] [Zero α] (dest src : α) :
    (checkField dest src).getD dest = if src = 0 then dest else src := by
  unfold checkField
  by_cases zero : src = 0
  · simp [zero]
  · by_cases same : src = dest <;> simp [zero, same]

theorem checkBool_getD (dest src : UInt8) :
    (checkBool dest src).getD dest = if src = 0 then dest else src - 1 := by
  unfold checkBool
  by_cases zero : src = 0
  · simp [zero]
  · by_cases same : dest = src - 1
    · simp [zero, ← same]
    · simp [zero, same]

theorem checkAddress_getD (dest src : UInt32) :
    (checkAddress src).getD dest = if src = ipaddrNone then dest else src := by
  unfold checkAddress
  by_cases none_ : src = ipaddrNone <;> simp [none_]

theorem checkMac_getD (dest src : Mac) :
    (checkMac dest src).getD dest = if macAddrIsNull src then dest else src := by
  unfold checkMac
  by_cases null : macAddrIsNull src = true
  · simp [null]
  · by_cases same : dest = src <;> simp [null, same]

theorem checkName_getD (dest src : Bytes) (short : src.length < cfgNameSize)
    (whole : cstr src = src) :
    (checkName dest src).getD dest =
      if src = [] ∨ isStringEqual dest src = true then dest else src := by
  have fits : snprintf cfgNameSize src = src := List.take_of_length_le (by omega)
  unfold checkName
  rw [whole, fits]
  by_cases empty : src = []
  · simp [empty]
  · by_cases same : isStringEqual dest src = true <;> simp [empty, same]

end Stored

section Fields

variable {j : Json} {key : Bytes} (readable : j.Readable key)

include readable

/-- The number of a member. -/
theorem integerAt_asked {admitted : Nat → Bool} (small : ∀ n, admitted n = true → n ≤ 4294967295)
    (inRange : (j.askedNumber key admitted).isOutside = false) :
    j.askedNumber key admitted = .absent ∧ j.integerAt key = none ∨
      ∃ n, j.askedNumber key admitted = .value n ∧ admitted n = true ∧
        j.integerAt key = some (UInt32.ofNat n) := by
  rcases Asked.inside inRange with absent | ⟨n, value⟩
  · exact .inl ⟨absent, readable.integerAt_absent absent⟩
  · obtain ⟨admits, read⟩ := readable.integerAt_value value
    exact .inr ⟨n, value, admits, read (small n admits)⟩

/-- A number that may be anything is stored unless it is a zero that is new. -/
theorem short_survives (inRange : (j.asked16 key).isOutside = false) (dest : UInt16) :
    (checkField dest (j.shortAt key)).getD dest = (j.asked16 key).getD dest ↔
      (j.asked16 key = .value 0 → dest = 0) := by
  unfold Json.asked16 Json.shortAt at *
  rw [Asked.isOutside_map] at inRange
  rw [checkField_getD]
  rcases integerAt_asked readable (fun n lt => by simp at lt; omega) inRange with
    ⟨absent, read⟩ | ⟨n, value, -, read⟩
  · rw [read, absent]
    simp [Asked.getD, Asked.map]
  · rw [read, value]
    simp only [Option.map_some, Option.getD_some, UInt32.toUInt16_ofNat', Asked.map, Asked.getD,
      Asked.value.injEq]
    generalize UInt16.ofNat n = v
    by_cases zero : v = 0
    · simp [zero]
    · simp [zero]

theorem char_survives (inRange : (j.asked8 key).isOutside = false) (dest : UInt8) :
    (checkField dest (j.charAt key)).getD dest = (j.asked8 key).getD dest ↔
      (j.asked8 key = .value 0 → dest = 0) := by
  unfold Json.asked8 Json.charAt at *
  rw [Asked.isOutside_map] at inRange
  rw [checkField_getD]
  rcases integerAt_asked readable (fun n lt => by simp at lt; omega) inRange with
    ⟨absent, read⟩ | ⟨n, value, -, read⟩
  · rw [read, absent]
    simp [Asked.getD, Asked.map]
  · rw [read, value]
    simp only [Option.map_some, Option.getD_some, UInt32.toUInt8_ofNat', Asked.map, Asked.getD,
      Asked.value.injEq]
    generalize UInt8.ofNat n = v
    by_cases zero : v = 0
    · simp [zero]
    · simp [zero]

/-- A number of a list is stored, and none of the list is refused. -/
theorem listed_survives {α : Type} [DecidableEq α] [Zero α] {admitted : List Nat}
    {narrow : UInt32 → α} {wide : α → UInt32} {listed : List UInt32}
    (fine : ∀ n ∈ admitted, n ≤ 4294967295 ∧ narrow (UInt32.ofNat n) ≠ 0 ∧
      wide (narrow (UInt32.ofNat n)) ∈ listed) (zero : wide 0 = 0)
    (inRange : (j.askedOf key admitted).isOutside = false) (dest : α) :
    (checkField dest (((j.integerAt key).map narrow).getD 0)).getD dest =
        ((j.askedOf key admitted).map fun n => narrow (UInt32.ofNat n)).getD dest ∧
      unlisted (wide (((j.integerAt key).map narrow).getD 0)) listed = false := by
  unfold Json.askedOf at *
  rw [checkField_getD]
  rcases integerAt_asked readable (fun n mem => (fine n (by simpa using mem)).1) inRange with
    ⟨absent, read⟩ | ⟨n, value, mem, read⟩
  · rw [read, absent]
    simp [Asked.getD, Asked.map, unlisted, zero]
  · obtain ⟨-, nonzero, member⟩ := fine n (by simpa using mem)
    rw [read, value]
    simp [Asked.getD, Asked.map, unlisted, nonzero, member]

theorem listedChar_survives {admitted : List Nat} {listed : List UInt32}
    (fine : ∀ n ∈ admitted, n ≤ 4294967295 ∧ UInt8.ofNat n ≠ 0 ∧ (UInt8.ofNat n).toUInt32 ∈ listed)
    (inRange : (j.askedOf key admitted).isOutside = false) (dest : UInt8) :
    (checkField dest (j.charAt key)).getD dest =
        ((j.askedOf key admitted).map UInt8.ofNat).getD dest ∧
      unlisted (j.charAt key).toUInt32 listed = false := by
  simp only [← UInt32.toUInt8_ofNat'] at fine
  have survives := listed_survives readable fine rfl inRange dest
  simp only [UInt32.toUInt8_ofNat'] at survives
  exact survives

/-- A flag is read plus one. -/
theorem flagAt_asked (inRange : (j.askedFlag key).isOutside = false) :
    j.askedFlag key = .absent ∧ j.flagAt key = none ∨
      ∃ v, j.askedFlag key = .value v ∧ (v = 0 ∨ v = 1) ∧ j.flagAt key = some (v + 1) := by
  unfold Json.askedFlag Json.flagAt at *
  rw [Asked.isOutside_map] at inRange
  rcases integerAt_asked readable (fun n lt => by simp at lt; omega) inRange with
    ⟨absent, read⟩ | ⟨n, value, lt, read⟩
  · exact .inl ⟨by rw [absent]; rfl, by rw [read]; rfl⟩
  · refine .inr ⟨UInt8.ofNat n, by rw [value]; rfl, ?_, ?_⟩
    · have small : n < 2 := by simpa using lt
      rcases Nat.le_one_iff_eq_zero_or_eq_one.mp (Nat.lt_succ_iff.mp small) with rfl | rfl
      · exact .inl rfl
      · exact .inr rfl
    · rw [read, Option.map_some, UInt32.toUInt8_add, UInt32.toUInt8_ofNat']
      rfl

theorem flag_survives (inRange : (j.askedFlag key).isOutside = false) (dest : UInt8) :
    (checkBool dest ((j.flagAt key).getD 0)).getD dest = (j.askedFlag key).getD dest := by
  rw [checkBool_getD]
  rcases flagAt_asked readable inRange with ⟨absent, read⟩ | ⟨v, value, rfl | rfl, read⟩
  · simp [read, absent, Asked.getD]
  · rw [read, value]
    rfl
  · rw [read, value]
    rfl

/-- DHCP is switched on and off by its bit. -/
theorem dhcp_survives (inRange : (j.askedFlag key).isOutside = false) (dest : UInt8) :
    (checkDhcp dest ((j.flagAt key).getD 0)).getD dest =
      ((j.askedFlag key).map fun v => extCfgSetDhcp dest (v ≠ 0)).getD dest := by
  unfold checkDhcp
  rcases flagAt_asked readable inRange with ⟨absent, read⟩ | ⟨v, value, isFlag, read⟩
  · simp [read, absent, Asked.getD, Asked.map]
  · have known : (v + 1 ≠ 0 ∧ v + 1 - 1 = v) ∧ extCfgSetDhcp v (v ≠ 0) = v := by
      rcases isFlag with rfl | rfl <;> decide
    obtain ⟨⟨nonzero, back⟩, kept⟩ := known
    rw [read, value]
    simp only [Option.getD_some, back, Asked.map, Asked.getD]
    by_cases same : dest = v
    · rw [if_neg fun other => other.2 same, same]
      exact kept.symm
    · rw [if_pos ⟨nonzero, same⟩]
      rfl

theorem address_survives (inRange : (j.askedAddress key).isOutside = false) (dest : UInt32) :
    (checkAddress (j.addressAt key)).getD dest = (j.askedAddress key).getD dest ↔
      (j.askedAddress key = .value ipaddrNone → dest = ipaddrNone) := by
  rw [checkAddress_getD]
  rcases Asked.inside inRange with absent | ⟨ip, value⟩
  · rw [readable.addressAt_absent absent, absent]
    simp [Asked.getD]
  · rw [readable.addressAt_value value, value]
    by_cases none_ : ip = ipaddrNone <;> simp [none_, Asked.getD]

theorem mac_survives (inRange : (j.askedMac key).isOutside = false) (dest : Mac) :
    (checkMac dest (j.macAt key)).getD dest = (j.askedMac key).getD dest ↔
      ∀ mac, j.askedMac key = .value mac → mac = dest ∨ macAddrIsNull mac = false := by
  rw [checkMac_getD]
  rcases Asked.inside inRange with absent | ⟨mac, value⟩
  · rw [readable.macAt_absent absent, absent]
    have null : macAddrIsNull (Vector.replicate 6 0) = true := by decide
    simp [Asked.getD, null]
  · rw [readable.macAt_value value, value]
    simp only [Asked.getD, Asked.value.injEq, forall_eq']
    cases macAddrIsNull mac with
    | false => simp
    | true => simpa using eq_comm

theorem name_survives (inRange : (j.askedText key).isOutside = false) (dest : Bytes) :
    (checkName dest ((j.stringAt key cfgNameSize).getD [])).getD dest =
        (j.askedText key).getD dest ↔
      ∀ name, j.askedText key = .value name →
        name = dest ∨ name ≠ [] ∧ isStringEqual dest name = false := by
  rcases Asked.inside inRange with absent | ⟨name, value⟩
  · rw [readable.stringAt_absent absent, absent]
    rw [checkName_getD _ _ (by decide) (by decide)]
    simp [Asked.getD]
  · obtain ⟨text, same, read, short, whole⟩ := readable.stringAt_value value
    obtain rfl := Option.some.inj same
    rw [read, value, Option.getD_some, checkName_getD _ _ short whole]
    simp only [Asked.getD, Asked.value.injEq, forall_eq']
    by_cases lost : text = [] ∨ isStringEqual dest text = true
    · rw [if_pos lost]
      constructor
      · intro same
        exact .inl same.symm
      · rintro (same | ⟨nonempty, other⟩)
        · exact same.symm
        · rcases lost with empty | same
          · exact absurd empty nonempty
          · rw [other] at same
            cases same
    · rw [if_neg lost]
      simp only [not_or, Bool.not_eq_true] at lost
      simp [lost]

/-- A name of a table is stored by its number, and none of the table is refused. -/
theorem named_survives {table : List (UInt16 × Bytes)} (named : extCmnTypeFind table [] = none)
    (small : ∀ entry ∈ table, (entry.1 + 1).toUInt8 ≠ 0)
    (inRange : (j.askedName key table).isOutside = false) (dest : UInt8) :
    (checkBool dest ((j.nameAt key table).getD 0)).getD dest =
        ((j.askedName key table).map UInt16.toUInt8).getD dest ∧
      j.unknownAt key table = false := by
  rw [checkBool_getD]
  rcases Asked.inside inRange with absent | ⟨type, value⟩
  · obtain ⟨read, known⟩ := readable.nameAt_absent absent
    refine ⟨?_, known⟩
    rw [read, absent]
    simp [Asked.getD, Asked.map]
  · obtain ⟨read, known⟩ := readable.nameAt_value named value
    refine ⟨?_, known⟩
    have nonzero : (type + 1).toUInt8 ≠ 0 := by
      obtain ⟨text, isName, -⟩ := readable.stringAt_value value
      unfold extCmnTypeFind at isName
      obtain ⟨entry, found, rfl⟩ := Option.map_eq_some_iff.mp isName
      exact small entry (List.mem_of_find?_eq_some found)
    have back : (type + 1).toUInt8 - 1 = type.toUInt8 := by
      rw [UInt16.toUInt8_add]
      exact add_sub_cancel_right _ _
    rw [read, value, Option.getD_some, if_neg nonzero, back]
    rfl

end Fields

/-! ### The address of the media -/

section Group

variable {j : Json} (flagged : j.Readable (str "isMCAST")) (addressed : j.Readable (str "MCASTip"))
  (flag : (j.askedFlag (str "isMCAST")).isOutside = false) (group : j.askedGroup.isOutside = false)

include group

theorem askedGroup_inside : (j.askedAddress (str "MCASTip")).isOutside = false := by
  unfold Json.askedGroup at group
  cases address : j.askedAddress (str "MCASTip") with
  | absent => rfl
  | value ip => rfl
  | outside =>
      rw [address] at group
      cases group

include addressed

theorem group_survives (dest : UInt32) :
    (checkAddress (j.addressAt (str "MCASTip"))).getD dest = j.askedGroup.getD dest ↔
      (j.askedAddress (str "MCASTip") = .value ipaddrNone → dest = ipaddrNone) := by
  have inRange := askedGroup_inside group
  have same : j.askedGroup = j.askedAddress (str "MCASTip") := by
    unfold Json.askedGroup at group ⊢
    split
    · rename_i ip address
      rw [address] at group
      split
      · rename_i wrong
        simp only [if_pos wrong] at group
        cases group
      · exact address.symm
    · rename_i address
      exact address.symm
    · rename_i address
      exact address.symm
  rw [same]
  exact address_survives addressed inRange dest

include flagged flag

/-- Multicast is refused where the request has no address. -/
theorem mcastRefused_iff :
    mcastRefused ((j.flagAt (str "isMCAST")).getD 0) (j.addressAt (str "MCASTip")) = true ↔
      j.askedFlag (str "isMCAST") = .value 1 ∧ j.askedAddress (str "MCASTip") = .absent := by
  unfold mcastRefused
  rw [decide_eq_true_eq]
  rcases flagAt_asked flagged flag with ⟨absent, read⟩ | ⟨v, value, rfl | rfl, read⟩
  · rw [read, absent]
    simp
  · rw [read, value]
    simp
  · rw [read, value]
    have asks : (1 + 1 : UInt8) > 1 := by decide
    simp only [Option.getD_some, asks, true_and]
    rcases Asked.inside (askedGroup_inside group) with absent | ⟨ip, address⟩
    · have none_ : ¬ ipAddrIsMulticast ipaddrNone = true ∧ ipaddrNone ≠ 0 := by decide
      rw [addressed.addressAt_absent absent, absent]
      simp [none_]
    · rw [addressed.addressAt_value address, address]
      unfold Json.askedGroup at group
      rw [address, value] at group
      simp only [true_and] at group
      split at group
      · cases group
      · rename_i fine
        simpa using fine

end Group

/-! ### The request as a whole -/

/-- The connect flag after a request. -/
def connectAfter (current asked : UInt8) : UInt8 :=
  if asked ≠ 0 ∧ current ≠ asked then if current = 0 then 1 else 0 else current

theorem setupCfg_eq (c rx : RuntimeCfg) :
    setupCfg c rx = { (compareCfg c rx).runCfg with
      runtime := { (compareCfg c rx).runCfg.runtime with
        isConnect := connectAfter c.runtime.isConnect rx.runtime.isConnect } } := by
  have kept : (compareCfg c rx).runCfg.runtime.isConnect = c.runtime.isConnect := rfl
  unfold setupCfg connectAfter extUdpCmdConnect
  simp only [kept]
  split
  · by_cases off : c.runtime.isConnect = 0 <;> simp [off]
  · rw [← kept]

theorem connect_survives {j : Json} {key : Bytes} (readable : j.Readable key)
    (inRange : (j.askedFlag key).isOutside = false) (current : UInt8) :
    connectAfter current ((j.flagAt key).getD 0) = (j.askedFlag key).getD current ↔
      ∀ v, j.askedFlag key = .value v → v = 1 ∧ current = 0 ∨ v = 0 ∧ current ≠ 0 ∧ current ≠ 1 := by
  unfold connectAfter
  rcases flagAt_asked readable inRange with ⟨absent, read⟩ | ⟨v, value, rfl | rfl, read⟩
  · simp [read, absent, Asked.getD]
  · rw [read, value]
    simp only [Option.getD_some, Asked.getD, Asked.value.injEq, forall_eq']
    by_cases one : current = 1
    · simp [one]
    · by_cases off : current = 0 <;> simp [one, off]
  · rw [read, value]
    simp only [Option.getD_some, Asked.getD, Asked.value.injEq, forall_eq']
    by_cases off : current = 0
    · simp [off]
    · simp only [off, if_false]
      split
      · simp
      · rename_i kept
        have kept : current = 1 + 1 := by simpa using kept
        simp [kept]

/-- The keys of the parameters. -/
def paramKeys : List Bytes := paramSteps.map ParamStep.key

section Request

variable {j : Json} (readable : ∀ key ∈ paramKeys, j.Readable key) (inRange : InRange j)

include readable inRange

theorem baudRate_survives (dest : UInt32) :
    (checkField dest ((j.integerAt (str "RS232Baudrate")).getD 0)).getD dest =
        ((j.askedOf (str "RS232Baudrate") [9600, 19200, 38400, 57600, 115200]).map
          UInt32.ofNat).getD dest ∧
      unlisted ((j.integerAt (str "RS232Baudrate")).getD 0) [9600, 19200, 38400, 57600, 115200] =
        false := by
  have listed := @listed_survives j _ (readable (str "RS232Baudrate") (by decide)) UInt32 _ _
    [9600, 19200, 38400, 57600, 115200] (fun v => v) (fun v => v)
    [9600, 19200, 38400, 57600, 115200] (by decide) rfl
    (inRange.listed (str "RS232Baudrate", [9600, 19200, 38400, 57600, 115200]) (by simp)) dest
  rwa [Option.map_id'] at listed

theorem dataBits_survives (dest : UInt8) :
    (checkField dest (j.charAt (str "RS232Databits"))).getD dest =
        ((j.askedOf (str "RS232Databits") [5, 6, 7, 8]).map UInt8.ofNat).getD dest ∧
      unlisted (j.charAt (str "RS232Databits")).toUInt32 [5, 6, 7, 8] = false :=
  listedChar_survives (readable (str "RS232Databits") (by decide)) (by decide)
    (inRange.listed (str "RS232Databits", [5, 6, 7, 8]) (by simp)) dest

theorem stopBits_survives (dest : UInt8) :
    (checkField dest (j.charAt (str "RS232Stopbits"))).getD dest =
        ((j.askedOf (str "RS232Stopbits") [1, 2]).map UInt8.ofNat).getD dest ∧
      unlisted (j.charAt (str "RS232Stopbits")).toUInt32 [1, 2] = false :=
  listedChar_survives (readable (str "RS232Stopbits") (by decide)) (by decide)
    (inRange.listed (str "RS232Stopbits", [1, 2]) (by simp)) dest

theorem sampleRate_survives (dest : UInt16) :
    (checkField dest (j.shortAt (str "audFrq"))).getD dest =
        ((j.askedOf (str "audFrq") [44100, 48000]).map UInt16.ofNat).getD dest ∧
      unlisted (j.shortAt (str "audFrq")).toUInt32 [44100, 48000] = false := by
  have listed := @listed_survives j _ (readable (str "audFrq") (by decide)) UInt16 _ _
    [44100, 48000] UInt32.toUInt16 UInt16.toUInt32 [44100, 48000] (by decide) rfl
    (inRange.listed (str "audFrq", [44100, 48000]) (by simp)) dest
  simp only [UInt32.toUInt16_ofNat'] at listed
  exact listed

theorem audioDepth_survives (dest : UInt8) :
    (checkField dest (j.charAt (str "audBit"))).getD dest =
        ((j.askedOf (str "audBit") [16, 24]).map UInt8.ofNat).getD dest ∧
      unlisted (j.charAt (str "audBit")).toUInt32 [16, 24] = false :=
  listedChar_survives (readable (str "audBit") (by decide)) (by decide)
    (inRange.listed (str "audBit", [16, 24]) (by simp)) dest

theorem channels_survives (dest : UInt8) :
    (checkField dest (j.charAt (str "audChan"))).getD dest =
        ((j.askedOf (str "audChan") [1, 2]).map UInt8.ofNat).getD dest ∧
      unlisted (j.charAt (str "audChan")).toUInt32 [1, 2] = false :=
  listedChar_survives (readable (str "audChan") (by decide)) (by decide)
    (inRange.listed (str "audChan", [1, 2]) (by simp)) dest

theorem parity_survives (dest : UInt8) :
    (checkBool dest ((j.nameAt (str "RS232Parity") ipcmdStringRsParities).getD 0)).getD dest =
        ((j.askedName (str "RS232Parity") ipcmdStringRsParities).map UInt16.toUInt8).getD dest ∧
      j.unknownAt (str "RS232Parity") ipcmdStringRsParities = false :=
  named_survives (readable _ (by decide)) (by decide) (by decide)
    (inRange.named (str "RS232Parity", ipcmdStringRsParities) (by simp)) dest

theorem colorSpace_survives (dest : UInt8) :
    (checkBool dest ((j.nameAt (str "vidClrSpace") videoColorSpaces).getD 0)).getD dest =
        ((j.askedName (str "vidClrSpace") videoColorSpaces).map UInt16.toUInt8).getD dest ∧
      j.unknownAt (str "vidClrSpace") videoColorSpaces = false :=
  named_survives (readable _ (by decide)) (by decide) (by decide)
    (inRange.named (str "vidClrSpace", videoColorSpaces) (by simp)) dest

/-- A request in range is refused for the multicast flag only. -/
theorem requestRefused_iff : requestRefused j = true ↔
    j.askedFlag (str "isMCAST") = .value 1 ∧ j.askedAddress (str "MCASTip") = .absent := by
  unfold requestRefused
  rw [(baudRate_survives readable inRange 0).2, (dataBits_survives readable inRange 0).2,
    (stopBits_survives readable inRange 0).2, (parity_survives readable inRange 0).2,
    (colorSpace_survives readable inRange 0).2, (sampleRate_survives readable inRange 0).2,
    (audioDepth_survives readable inRange 0).2, (channels_survives readable inRange 0).2]
  simp only [Bool.or_false, Bool.false_or]
  exact mcastRefused_iff (readable _ (by decide)) (readable _ (by decide))
    (inRange.flag _ (by simp)) inRange.group

/-- A request in range is stored as it is exactly if no value of it is lost. -/
theorem setupCfg_asked_iff (c : RuntimeCfg) :
    setupCfg c (requestCfg j) = askedCfg j c ↔ Survives j c := by
  have flag (key : Bytes) (known : key ∈ paramKeys) (mem) (dest : UInt8) :=
    flag_survives (readable key known) (inRange.flag key mem) dest
  have short (key : Bytes) (known : key ∈ paramKeys) (mem) (dest : UInt16) :=
    short_survives (readable key known) (inRange.short key mem) dest
  have char (key : Bytes) (known : key ∈ paramKeys) (mem) (dest : UInt8) :=
    char_survives (readable key known) (inRange.char key mem) dest
  have address (key : Bytes) (known : key ∈ paramKeys) (mem) (dest : UInt32) :=
    address_survives (readable key known) (inRange.address key mem) dest
  rw [setupCfg_eq]
  unfold askedCfg compareCfg compareMediaCfg compareProtocolConfig compareRs232Config
    compareSystemCfg requestCfg
  simp only [RuntimeCfg.mk.injEq, VideoConfig.mk.injEq, MuxRs232Cfg.mk.injEq,
    MuxRunTimeParam.mk.injEq, true_and, and_true]
  rw [flag (str "isMCAST") (by decide) (by simp), flag (str "isDipOn") (by decide) (by simp),
    dhcp_survives (readable (str "isDhcp") (by decide)) (inRange.flag _ (by simp)),
    mac_survives (readable (str "mac") (by decide)) inRange.mac,
    address (str "ip") (by decide) (by simp), address (str "mask") (by decide) (by simp),
    address (str "gateway") (by decide) (by simp),
    group_survives (readable (str "MCASTip") (by decide)) inRange.group,
    short (str "vidPort") (by decide) (by simp), short (str "audPort") (by decide) (by simp),
    short (str "datPort") (by decide) (by simp), short (str "strPort") (by decide) (by simp),
    name_survives (readable (str "cName") (by decide)) inRange.cName,
    (baudRate_survives readable inRange _).1, (dataBits_survives readable inRange _).1,
    (parity_survives readable inRange _).1, (stopBits_survives readable inRange _).1,
    short (str "vidW") (by decide) (by simp), short (str "vidH") (by decide) (by simp),
    char (str "vidFps") (by decide) (by simp), (colorSpace_survives readable inRange _).1,
    char (str "vidDepth") (by decide) (by simp), flag (str "vidIsIntlc") (by decide) (by simp),
    flag (str "vidIsSgmt") (by decide) (by simp), (sampleRate_survives readable inRange _).1,
    (channels_survives readable inRange _).1, (audioDepth_survives readable inRange _).1,
    connect_survives (readable (str "IsConnect") (by decide)) (inRange.flag _ (by simp))]
  simp only [survives_iff, List.forall_mem_cons, List.not_mem_nil, false_implies, implies_true,
    and_true, true_and]
  -- the same facts, grouped by field there and by kind here
  constructor
  · rintro ⟨⟨mac, ip⟩, mask, gateway, ⟨media, vport, aport, dport, sport⟩, name, width, height, fps,
      depth, connect⟩
    exact ⟨name, mac, ⟨ip, mask, gateway, media⟩, ⟨vport, aport, dport, sport, width, height⟩,
      ⟨fps, depth⟩, connect⟩
  · rintro ⟨name, mac, ⟨ip, mask, gateway, media⟩, ⟨vport, aport, dport, sport, width, height⟩,
      ⟨fps, depth⟩, connect⟩
    exact ⟨⟨mac, ip⟩, mask, gateway, ⟨media, vport, aport, dport, sport⟩, name, width, height, fps,
      depth, connect⟩

end Request

/-! ### The command -/

/-- What `set_param` answers and stores for an authenticated request. -/
theorem extUdpCmdSetupParams_authentic {parser : ExtJsonParser}
    (authentic : (extUdpCmdIsLocal parser.runCfg parser.toRequest).2 = true) :
    (extUdpCmdSetupParams parser).2 = !requestRefused parser.json ∧
      (extUdpCmdSetupParams parser).1.runCfg =
        if requestRefused parser.json then parser.runCfg
        else setupCfg parser.runCfg (requestCfg parser.json) := by
  have stored := extUdpCmdSetupParams_runCfg parser
  have parsed : (∃ rq, requestRefused parser.json = true ∧
        setupRequest parser.runCfg parser.toRequest = (rq, none)) ∨
      ∃ rq, requestRefused parser.json = false ∧
        setupRequest parser.runCfg parser.toRequest = (rq, some (requestCfg parser.json)) := by
    obtain ⟨r, checked, -⟩ := extUdpCmdIsLocal_report parser.runCfg parser.toRequest
    unfold setupRequest
    generalize extUdpCmdIsLocal parser.runCfg parser.toRequest = result at authentic checked
    obtain ⟨rq, ok⟩ := result
    obtain rfl : ok = true := authentic
    obtain rfl : rq = _ := checked
    have outcome := extJsonRequestParse_outcome parser.json r
    simp only
    cases refused : requestRefused parser.json with
    | true =>
        obtain ⟨p, stops⟩ := outcome.stops refused
        exact .inl ⟨_, rfl, by rw [stops]⟩
    | false =>
        obtain ⟨r', leaves⟩ := outcome.leaves refused
        exact .inr ⟨_, rfl, by rw [leaves]⟩
  unfold acceptedRequest at stored
  rcases parsed with ⟨rq, refused, parsed⟩ | ⟨rq, refused, parsed⟩
  · rw [parsed] at stored
    refine ⟨?_, ?_⟩
    · unfold extUdpCmdSetupParams
      rw [parsed, refused]
      rfl
    · rw [stored, refused]
      rfl
  · rw [parsed] at stored
    refine ⟨?_, ?_⟩
    · unfold extUdpCmdSetupParams
      rw [parsed, refused]
      rfl
    · rw [stored, refused]
      rfl

/-- For a request whose keys are looked up rightly: it is done as it says exactly if its values
are in range and survive, and multicast is not asked for without an address; and it is refused
as it should be exactly if one of the checks of the parse finds a value that is out of range. -/
theorem set_params_right_iff (parser : ExtJsonParser)
    (authentic : (extUdpCmdIsLocal parser.runCfg parser.toRequest).2 = true)
    (readable : ∀ key ∈ paramKeys, parser.json.Readable key) :
    SetParamsRight parser ↔
      (InRange parser.json → Survives parser.json parser.runCfg ∧
        (parser.json.askedFlag (str "isMCAST") = .value 1 →
          parser.json.askedAddress (str "MCASTip") ≠ .absent)) ∧
      (¬ InRange parser.json → requestRefused parser.json = true) := by
  obtain ⟨answer, stored⟩ := extUdpCmdSetupParams_authentic authentic
  constructor
  · intro right
    constructor
    · intro inRange
      obtain ⟨ok, exact_⟩ := right.done inRange
      have goes : requestRefused parser.json = false := by
        rw [answer] at ok
        simpa using ok
      rw [stored, goes] at exact_
      refine ⟨(setupCfg_asked_iff readable inRange _).mp exact_, ?_⟩
      intro asks absent
      rw [(requestRefused_iff readable inRange).mpr ⟨asks, absent⟩] at goes
      cases goes
    · intro outside
      obtain ⟨notOk, -⟩ := right.refused outside
      rw [answer] at notOk
      simpa using notOk
  · rintro ⟨inside, outside⟩
    constructor
    · intro inRange
      obtain ⟨survives, grouped⟩ := inside inRange
      have goes : requestRefused parser.json = false := by
        refine Bool.eq_false_iff.mpr fun refused => ?_
        obtain ⟨asks, absent⟩ := (requestRefused_iff readable inRange).mp refused
        exact grouped asks absent
      rw [answer, stored, goes]
      exact ⟨rfl, (setupCfg_asked_iff readable inRange _).mpr survives⟩
    · intro notInRange
      rw [answer, stored, outside notInRange]
      exact ⟨rfl, rfl⟩

/-- The text of a `set_param` with these members. -/
def setText (members : Bytes) : Bytes :=
  str "\x7b\"targ\":\"00:04:25:1c:a0:01\",\"cmd\":\"set_param\",\"login-ack\":\"admin\"," ++
    str "\"pwd-msg\":\"admin\",\"data\":[\x7b" ++ members ++ str "\x7d]\x7d"

/-- An agent with factory settings that has parsed such a command. -/
def setAgent (members : Bytes) : ExtJsonParser :=
  { toRequest := (extJsonRequestParseCommand {} (setText members) (setText members).length).1
    runCfg := extCfgFromFactory .extt {} }

/-- All strings that read as a key are keys of members, and no token is left behind them. -/
theorem Json.Readable.of_all {j : Json} {key : Bytes}
    (members : (∀ k < j.toknext, 0 < k → jsoneq j.text (j.token k) key = true → j.IsMember key k) ∧
      jsoneq j.text (j.token j.toknext) key = false) : j.Readable key :=
  ⟨fun k first => members.1 k first.own first.pos first.reads, fun _ _ => members.2⟩

/-- A new port and a new length of characters. -/
def plainSet : ExtJsonParser := setAgent (str "\"vidPort\":50000,\"RS232Databits\":7")

theorem set_params_plain : SetParamsRight plainSet := by
  have readable : ∀ key ∈ paramKeys,
      (∀ k < plainSet.json.toknext, 0 < k →
        jsoneq plainSet.json.text (plainSet.json.token k) key = true → plainSet.json.IsMember key k) ∧
      jsoneq plainSet.json.text (plainSet.json.token plainSet.json.toknext) key = false := by
    decide +kernel
  have fine : InRange plainSet.json ∧ Survives plainSet.json plainSet.runCfg ∧
      plainSet.json.askedFlag (str "isMCAST") ≠ .value 1 := by
    decide +kernel
  obtain ⟨inRange, survives, noGroup⟩ := fine
  refine (set_params_right_iff plainSet (by decide +kernel) ?_).mpr ⟨?_, ?_⟩
  · exact fun key mem => .of_all (readable key mem)
  · exact fun _ => ⟨survives, fun group => absurd group noGroup⟩
  · exact fun outside => absurd inRange outside

/-- Eight bits of 264 are a length that is admitted. -/
theorem truncated_value_accepted :
    ¬ SetParamsRight (setAgent (str "\"RS232Databits\":264")) := by
  intro right
  have outside : ¬ InRange (setAgent (str "\"RS232Databits\":264")).json := by
    intro inRange
    have inside := inRange.listed (str "RS232Databits", [5, 6, 7, 8]) (by simp)
    exact absurd inside (by decide +kernel)
  exact absurd (right.refused outside).1 (by decide +kernel)

end LwipExt.UdpCmd
