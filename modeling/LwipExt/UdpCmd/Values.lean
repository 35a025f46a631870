import LwipExt.UdpCmd.Steps

/-!
The values of a `set_param` request.

What a step stores depends on the text and not on the report. So the parse has a closed
form (`extJsonRequestParse_outcome`): a request is refused for one of nine fields, or it
asks for the values of `requestCfg`.
-/

namespace LwipExt.UdpCmd

/-! ### What the keys read -/

/-- The token of a key, if it has the type. -/
def Json.valueAt (j : Json) (key : Bytes) (type : JsmnType) : Option Jsmntok :=
  (extJsonFindKeyToken j key).filter fun tok => tok.type = type

/-- The string of a key, as it is stored in an array of `size` bytes. -/
def Json.stringAt (j : Json) (key : Bytes) (size : Nat) : Option Bytes :=
  (j.valueAt key .string).map fun tok => snprintf size (j.tokenText tok)

/-- The number of a key. -/
def Json.integerAt (j : Json) (key : Bytes) : Option UInt32 :=
  (j.valueAt key .primitive).bind fun tok => scanUnsigned (cstr (j.text.drop tok.start))

/-- The IP address of a key; `IPADDR_NONE` without one. -/
def Json.addressAt (j : Json) (key : Bytes) : UInt32 :=
  ((j.stringAt key extJsonMessageSize).map ipaddrAddr).getD ipaddrNone

/-- The Ethernet address of a key, written over one of zeros. -/
def Json.macAt (j : Json) (key : Bytes) : Mac :=
  ((j.stringAt key extJsonMessageSize).map fun text =>
    (extMacAddressParse (Vector.replicate 6 0) text).1).getD (Vector.replicate 6 0)

/-- The value of a flag plus one. -/
def Json.flagAt (j : Json) (key : Bytes) : Option UInt8 :=
  (j.integerAt key).map fun value => (value + 1).toUInt8

/-- The number of a name in a table plus one. -/
def Json.nameAt (j : Json) (key : Bytes) (table : List (UInt16 × Bytes)) : Option UInt8 :=
  (j.stringAt key cfgModelSize).bind fun model =>
    if model = [] then none else (extCmnTypeFind table model).map fun type => (type + 1).toUInt8

/-- A name that is not in its table. -/
def Json.unknownAt (j : Json) (key : Bytes) (table : List (UInt16 × Bytes)) : Bool :=
  (j.stringAt key cfgModelSize).any fun model => model ≠ [] ∧ extCmnTypeFind table model = none

/-- A number that is not in its list; zero stands for a missing one. -/
def unlisted (value : UInt32) (admitted : List UInt32) : Bool := value ∉ admitted ∧ value ≠ 0

section Reports

variable (j : Json) (key : Bytes)

theorem extJsonGetValueObject_valueAt (type : JsmnType) (kind : Bytes) (r : Report) :
    (extJsonGetValueObject type kind j key r).2 = j.valueAt key type := by
  unfold extJsonGetValueObject Json.valueAt
  cases extJsonFindKeyToken j key with
  | none => rfl
  | some tok => by_cases other : tok.type = type <;> simp [other, Option.filter]

theorem extJsonParseString_eq (size : Nat) (r : Report) :
    ∃ r', extJsonParseString j key size r = (r', j.stringAt key size) := by
  unfold Json.stringAt extJsonParseString
  rw [← extJsonGetValueObject_valueAt j key .string (str "string") r]
  exact ⟨_, rfl⟩

theorem extJsonParseUnsignedInteger_eq (r : Report) :
    ∃ r', extJsonParseUnsignedInteger j key r = (r', j.integerAt key) := by
  unfold Json.integerAt extJsonParseUnsignedInteger extJsonGetPrimitiveValueObject
  rw [← extJsonGetValueObject_valueAt j key .primitive (str "integer") r]
  exact ⟨_, rfl⟩

/-- A string read into the message, and whether there is one. -/
theorem extJsonParseMsg_eq (r : Report) :
    ∃ r', extJsonParseMsg j key r = (r', (j.stringAt key extJsonMessageSize).isSome) ∧
      ∀ value, j.stringAt key extJsonMessageSize = some value → r'.msg = value := by
  obtain ⟨r', read⟩ := extJsonParseString_eq j key extJsonMessageSize r
  unfold extJsonParseMsg
  rw [read]
  cases j.stringAt key extJsonMessageSize with
  | none => exact ⟨r', rfl, fun value found => (by cases found)⟩
  | some value => exact ⟨_, rfl, fun value found => Option.some.inj found⟩

theorem extJsonParseIpAddress_eq (r : Report) :
    ∃ r', extJsonParseIpAddress j key r = (r', j.addressAt key) := by
  obtain ⟨r', read, msg⟩ := extJsonParseMsg_eq j key r
  unfold extJsonParseIpAddress Json.addressAt
  rw [read]
  cases string : j.stringAt key extJsonMessageSize with
  | none => exact ⟨r', rfl⟩
  | some value =>
      refine ⟨r', ?_⟩
      simp [msg value string]

theorem extJsonParseMacAddress_eq (r : Report) :
    ∃ r' ok, extJsonParseMacAddress j key (Vector.replicate 6 0) r = (r', j.macAt key, ok) := by
  obtain ⟨r', read, msg⟩ := extJsonParseMsg_eq j key r
  unfold extJsonParseMacAddress Json.macAt
  rw [read]
  cases string : j.stringAt key extJsonMessageSize with
  | none => exact ⟨r', false, rfl⟩
  | some value =>
      refine ⟨r', (extMacAddressParse (Vector.replicate 6 0) value).2, ?_⟩
      simp [msg value string]

end Reports

/-! ### The outcome of the steps -/

/-- A parse that stops, if `refused`, and leaves the values `cfg` otherwise. -/
structure Outcome (result : Except Parsed Parsed) (refused : Bool) (cfg : RuntimeCfg) : Prop where
  stops : refused = true → ∃ p, result = .error p
  leaves : refused = false → ∃ r, result = .ok ⟨r, cfg⟩

theorem Outcome.ok (r : Report) (cfg : RuntimeCfg) : Outcome (.ok ⟨r, cfg⟩) false cfg :=
  ⟨fun refused => (by cases refused), fun _ => ⟨r, rfl⟩⟩

/-- What comes behind a parse that went on. -/
theorem Outcome.bind {result : Except Parsed Parsed} {refused refused' : Bool}
    {cfg cfg' : RuntimeCfg} {next : Parsed → Except Parsed Parsed}
    (first : Outcome result refused cfg) (second : ∀ r, Outcome (next ⟨r, cfg⟩) refused' cfg') :
    Outcome (result >>= next) (refused || refused') cfg' := by
  cases refused with
  | true =>
      obtain ⟨p, stopped⟩ := first.stops rfl
      exact ⟨fun _ => ⟨p, by rw [stopped]; rfl⟩, fun goes => (by cases goes)⟩
  | false =>
      obtain ⟨r, left⟩ := first.leaves rfl
      rw [left]
      exact second r

/-- A step, and the steps behind it. -/
theorem Outcome.cons {j : Json} {s : ParamStep} {steps : List ParamStep} {r : Report}
    {refused refused' : Bool} {cfg cfg' cfg'' : RuntimeCfg}
    (first : Outcome (s.run j ⟨r, cfg⟩) refused cfg')
    (second : ∀ r, Outcome (runSteps j steps ⟨r, cfg'⟩) refused' cfg'') :
    Outcome (runSteps j (s :: steps) ⟨r, cfg⟩) (refused || refused') cfg'' :=
  first.bind second

/-- A step that never refuses. -/
theorem Outcome.then {j : Json} {s : ParamStep} {steps : List ParamStep} {r : Report}
    {refused : Bool} {cfg cfg' cfg'' : RuntimeCfg} (first : Outcome (s.run j ⟨r, cfg⟩) false cfg')
    (second : ∀ r, Outcome (runSteps j steps ⟨r, cfg'⟩) refused cfg'') :
    Outcome (runSteps j (s :: steps) ⟨r, cfg⟩) refused cfg'' :=
  first.cons second

theorem Outcome.append {j : Json} {steps steps' : List ParamStep} {r : Report}
    {refused refused' : Bool} {cfg cfg' cfg'' : RuntimeCfg}
    (first : Outcome (runSteps j steps ⟨r, cfg⟩) refused cfg')
    (second : ∀ r, Outcome (runSteps j steps' ⟨r, cfg'⟩) refused' cfg'') :
    Outcome (runSteps j (steps ++ steps') ⟨r, cfg⟩) (refused || refused') cfg'' := by
  rw [runSteps_append]
  exact first.bind second

section Steps

variable (j : Json) (key : Bytes) (r : Report) (cfg : RuntimeCfg)

theorem Outcome.string (size : Nat) (store : RuntimeCfg → Bytes → RuntimeCfg)
    {g : RuntimeCfg → Bytes} (same : store cfg (g cfg) = cfg) :
    Outcome ((ParamStep.string key size store).run j ⟨r, cfg⟩) false
      (store cfg ((j.stringAt key size).getD (g cfg))) := by
  obtain ⟨r', read⟩ := extJsonParseString_eq j key size r
  simp only [ParamStep.string, Parsed.string, read]
  cases j.stringAt key size with
  | none =>
      simp only [Option.getD_none, same]
      exact .ok r' cfg
  | some value => exact .ok r' _

theorem Outcome.mac (zero : cfg.localCfg.mac = Vector.replicate 6 0) :
    Outcome ((ParamStep.mac key).run j ⟨r, cfg⟩) false
      { cfg with localCfg := { cfg.localCfg with mac := j.macAt key } } := by
  obtain ⟨r', ok, read⟩ := extJsonParseMacAddress_eq j key r
  simp only [ParamStep.mac, zero, read]
  exact .ok r' _

theorem Outcome.ipAddress (store : RuntimeCfg → UInt32 → RuntimeCfg) :
    Outcome ((ParamStep.ipAddress key store).run j ⟨r, cfg⟩) false
      (store cfg (j.addressAt key)) := by
  obtain ⟨r', read⟩ := extJsonParseIpAddress_eq j key r
  simp only [ParamStep.ipAddress, Parsed.ipAddress, read]
  exact .ok r' _

/-- A number that is stored. -/
theorem Parsed.integer_eq (store : RuntimeCfg → UInt32 → RuntimeCfg) :
    ∃ r', Parsed.integer ⟨r, cfg⟩ j key store =
      ⟨r', ((j.integerAt key).map (store cfg)).getD cfg⟩ := by
  obtain ⟨r', read⟩ := extJsonParseUnsignedInteger_eq j key r
  unfold Parsed.integer
  rw [read]
  cases j.integerAt key with
  | none => exact ⟨r', rfl⟩
  | some value => exact ⟨r', rfl⟩

theorem Parsed.short_eq (store : RuntimeCfg → UInt16 → RuntimeCfg) :
    ∃ r', Parsed.short ⟨r, cfg⟩ j key store =
      ⟨r', ((j.integerAt key).map fun value => store cfg value.toUInt16).getD cfg⟩ := by
  obtain ⟨r', read⟩ := extJsonParseUnsignedInteger_eq j key r
  unfold Parsed.short extJsonParseUnsignedShort
  rw [read]
  cases j.integerAt key with
  | none => exact ⟨r', rfl⟩
  | some value => exact ⟨r', rfl⟩

theorem Parsed.char_eq (store : RuntimeCfg → UInt8 → RuntimeCfg) :
    ∃ r', Parsed.char ⟨r, cfg⟩ j key store =
      ⟨r', ((j.integerAt key).map fun value => store cfg value.toUInt8).getD cfg⟩ := by
  obtain ⟨r', read⟩ := extJsonParseUnsignedInteger_eq j key r
  unfold Parsed.char extJsonParseUnsignedChar
  rw [read]
  cases j.integerAt key with
  | none => exact ⟨r', rfl⟩
  | some value => exact ⟨r', rfl⟩

/-- A field that is stored if its key reads a number. -/
theorem getD_store {α : Type} {store : RuntimeCfg → α → RuntimeCfg} {g : RuntimeCfg → α}
    (same : store cfg (g cfg) = cfg) (value : Option UInt32) (f : UInt32 → α) :
    (value.map fun value => store cfg (f value)).getD cfg =
      store cfg ((value.map f).getD (g cfg)) := by
  cases value with
  | none => exact same.symm
  | some value => rfl

theorem Outcome.oneOf {p : Parsed} (value : RuntimeCfg → UInt32) (admitted : List UInt32) :
    Outcome (p.oneOf key value admitted) (unlisted (value p.tmpCfg) admitted) p.tmpCfg := by
  unfold Parsed.oneOf unlisted
  split
  · rename_i listed
    refine ⟨fun refused => ?_, fun _ => ⟨p.report, rfl⟩⟩
    simp only [decide_eq_true_eq] at refused
    tauto
  · rename_i other
    refine ⟨fun _ => ⟨_, rfl⟩, fun listed => ?_⟩
    simp only [decide_eq_false_iff_not] at listed
    tauto

variable {j key r cfg}

theorem Outcome.flag {store : RuntimeCfg → UInt8 → RuntimeCfg} (g : RuntimeCfg → UInt8)
    (same : store cfg (g cfg) = cfg) :
    Outcome ((ParamStep.flag key store).run j ⟨r, cfg⟩) false
      (store cfg ((j.flagAt key).getD (g cfg))) := by
  obtain ⟨r', read⟩ := Parsed.integer_eq j key r cfg fun cfg value => store cfg (value + 1).toUInt8
  simp only [ParamStep.flag, Parsed.flag, read]
  rw [getD_store cfg same]
  exact .ok r' _

theorem Outcome.short {store : RuntimeCfg → UInt16 → RuntimeCfg} (g : RuntimeCfg → UInt16)
    (same : store cfg (g cfg) = cfg) :
    Outcome ((ParamStep.short key store).run j ⟨r, cfg⟩) false
      (store cfg (((j.integerAt key).map UInt32.toUInt16).getD (g cfg))) := by
  obtain ⟨r', read⟩ := Parsed.short_eq j key r cfg store
  simp only [ParamStep.short, read]
  rw [getD_store cfg same]
  exact .ok r' _

theorem Outcome.char {store : RuntimeCfg → UInt8 → RuntimeCfg} (g : RuntimeCfg → UInt8)
    (same : store cfg (g cfg) = cfg) :
    Outcome ((ParamStep.char key store).run j ⟨r, cfg⟩) false
      (store cfg (((j.integerAt key).map UInt32.toUInt8).getD (g cfg))) := by
  obtain ⟨r', read⟩ := Parsed.char_eq j key r cfg store
  simp only [ParamStep.char, read]
  rw [getD_store cfg same]
  exact .ok r' _

theorem Outcome.integerOf {store : RuntimeCfg → UInt32 → RuntimeCfg} {value : RuntimeCfg → UInt32}
    {admitted : List UInt32} (g : RuntimeCfg → UInt32) (same : store cfg (g cfg) = cfg) :
    Outcome ((ParamStep.integerOf key store value admitted).run j ⟨r, cfg⟩)
      (unlisted (value (store cfg ((j.integerAt key).getD (g cfg)))) admitted)
      (store cfg ((j.integerAt key).getD (g cfg))) := by
  obtain ⟨r', read⟩ := Parsed.integer_eq j key r cfg store
  have stored := getD_store cfg same (j.integerAt key) fun value => value
  rw [Option.map_id'] at stored
  rw [stored] at read
  simp only [ParamStep.integerOf, read]
  exact Outcome.oneOf _ _ _

theorem Outcome.shortOf {store : RuntimeCfg → UInt16 → RuntimeCfg} {value : RuntimeCfg → UInt32}
    {admitted : List UInt32} (g : RuntimeCfg → UInt16) (same : store cfg (g cfg) = cfg) :
    Outcome ((ParamStep.shortOf key store value admitted).run j ⟨r, cfg⟩)
      (unlisted (value (store cfg (((j.integerAt key).map UInt32.toUInt16).getD (g cfg)))) admitted)
      (store cfg (((j.integerAt key).map UInt32.toUInt16).getD (g cfg))) := by
  obtain ⟨r', read⟩ := Parsed.short_eq j key r cfg store
  rw [getD_store cfg same] at read
  simp only [ParamStep.shortOf, read]
  exact Outcome.oneOf _ _ _

theorem Outcome.charOf {store : RuntimeCfg → UInt8 → RuntimeCfg} {value : RuntimeCfg → UInt32}
    {admitted : List UInt32} (g : RuntimeCfg → UInt8) (same : store cfg (g cfg) = cfg) :
    Outcome ((ParamStep.charOf key store value admitted).run j ⟨r, cfg⟩)
      (unlisted (value (store cfg (((j.integerAt key).map UInt32.toUInt8).getD (g cfg)))) admitted)
      (store cfg (((j.integerAt key).map UInt32.toUInt8).getD (g cfg))) := by
  obtain ⟨r', read⟩ := Parsed.char_eq j key r cfg store
  rw [getD_store cfg same] at read
  simp only [ParamStep.charOf, read]
  exact Outcome.oneOf _ _ _

theorem Outcome.named {table : List (UInt16 × Bytes)} {store : RuntimeCfg → UInt8 → RuntimeCfg}
    (g : RuntimeCfg → UInt8) (same : store cfg (g cfg) = cfg) :
    Outcome ((ParamStep.named key table store).run j ⟨r, cfg⟩) (j.unknownAt key table)
      (store cfg ((j.nameAt key table).getD (g cfg))) := by
  obtain ⟨r', read⟩ := extJsonParseString_eq j key cfgModelSize r
  simp only [ParamStep.named, Parsed.named, read, Json.unknownAt, Json.nameAt]
  cases j.stringAt key cfgModelSize with
  | none =>
      simp only [Option.any_none, Option.bind_none, Option.getD_none, same]
      exact .ok r' cfg
  | some model =>
      simp only [Option.any_some, Option.bind_some]
      by_cases empty : model = []
      · simp only [empty, if_true, ne_eq, not_true_eq_false, false_and, decide_false,
          Option.getD_none, same]
        exact .ok r' cfg
      · simp only [empty, if_false]
        cases extCmnTypeFind table model with
        | none => exact ⟨fun _ => ⟨_, rfl⟩, fun goes => absurd empty (by simpa using goes)⟩
        | some type =>
            simp only [reduceCtorEq, and_false, decide_false, Option.map_some, Option.getD_some]
            exact .ok r' _

/-- Multicast is asked for with an address that is none. -/
def mcastRefused (isMCast : UInt8) (ip : UInt32) : Bool :=
  isMCast > 1 ∧ ¬ ipAddrIsMulticast ip ∧ ip ≠ 0

theorem Outcome.mcastIp :
    Outcome ((ParamStep.mcastIp key).run j ⟨r, cfg⟩)
      (mcastRefused cfg.isMCast (j.addressAt key))
      { cfg with dest := { cfg.dest with ip := j.addressAt key } } := by
  obtain ⟨r', read⟩ := extJsonParseIpAddress_eq j key r
  simp only [ParamStep.mcastIp, Parsed.ipAddress, read, mcastRefused]
  split
  · rename_i refused
    exact ⟨fun _ => ⟨_, rfl⟩, fun goes => by simp [refused] at goes⟩
  · rename_i goes
    exact ⟨fun refused => absurd (by simpa using refused) goes, fun _ => ⟨r', rfl⟩⟩

end Steps

/-! ### The request as a whole -/

/-- The number of a 16-bit field. -/
def Json.shortAt (j : Json) (key : Bytes) : UInt16 := ((j.integerAt key).map UInt32.toUInt16).getD 0

/-- The number of an 8-bit field. -/
def Json.charAt (j : Json) (key : Bytes) : UInt8 := ((j.integerAt key).map UInt32.toUInt8).getD 0

/-- The values a request asks for; zero, `IPADDR_NONE` or the empty name where it does not. -/
def requestCfg (j : Json) : RuntimeCfg where
  isMCast := (j.flagAt (str "isMCAST")).getD 0
  isDipOn := (j.flagAt (str "isDipOn")).getD 0
  netMode := (j.flagAt (str "isDhcp")).getD 0
  localCfg := { mac := j.macAt (str "mac"), ip := j.addressAt (str "ip") }
  ipMask := j.addressAt (str "mask")
  ipGateway := j.addressAt (str "gateway")
  dest :=
    { ip := j.addressAt (str "MCASTip")
      vport := j.shortAt (str "vidPort")
      aport := j.shortAt (str "audPort")
      dport := j.shortAt (str "datPort")
      sport := j.shortAt (str "strPort") }
  name := (j.stringAt (str "cName") cfgNameSize).getD []
  rs232Cfg :=
    { baudRate := (j.integerAt (str "RS232Baudrate")).getD 0
      charLength := j.charAt (str "RS232Databits")
      parityType := (j.nameAt (str "RS232Parity") ipcmdStringRsParities).getD 0
      stopbits := j.charAt (str "RS232Stopbits") }
  runtime :=
    { vWidth := j.shortAt (str "vidW")
      vHeight := j.shortAt (str "vidH")
      vFrameRate := j.charAt (str "vidFps")
      vColorSpace := (j.nameAt (str "vidClrSpace") videoColorSpaces).getD 0
      vDepth := j.charAt (str "vidDepth")
      vIsInterlaced := (j.flagAt (str "vidIsIntlc")).getD 0
      vIsSegmented := (j.flagAt (str "vidIsSgmt")).getD 0
      aSampleRate := j.shortAt (str "audFrq")
      aChannels := j.charAt (str "audChan")
      aDepth := j.charAt (str "audBit")
      isConnect := (j.flagAt (str "IsConnect")).getD 0 }

/-- A field makes the parse stop. -/
def requestRefused (j : Json) : Bool :=
  (unlisted ((j.integerAt (str "RS232Baudrate")).getD 0) [9600, 19200, 38400, 57600, 115200] ||
    unlisted (j.charAt (str "RS232Databits")).toUInt32 [5, 6, 7, 8] ||
    unlisted (j.charAt (str "RS232Stopbits")).toUInt32 [1, 2] ||
    j.unknownAt (str "RS232Parity") ipcmdStringRsParities) ||
  mcastRefused ((j.flagAt (str "isMCAST")).getD 0) (j.addressAt (str "MCASTip")) ||
  (j.unknownAt (str "vidClrSpace") videoColorSpaces ||
    unlisted (j.shortAt (str "audFrq")).toUInt32 [44100, 48000] ||
    unlisted (j.charAt (str "audBit")).toUInt32 [16, 24] ||
    unlisted (j.charAt (str "audChan")).toUInt32 [1, 2])

theorem systemSteps_outcome (j : Json) (r : Report) :
    Outcome (runSteps j systemSteps ⟨r, {}⟩) false
      { name := (requestCfg j).name
        localCfg := (requestCfg j).localCfg
        ipMask := (requestCfg j).ipMask
        ipGateway := (requestCfg j).ipGateway
        netMode := (requestCfg j).netMode
        isDipOn := (requestCfg j).isDipOn } := by
  refine .then (.string j _ r {} _ _ (g := fun cfg => cfg.name) rfl) fun r => ?_
  refine .then (.mac j _ r _ rfl) fun r => ?_
  refine .then (.ipAddress j _ r _ _) fun r => ?_
  refine .then (.ipAddress j _ r _ _) fun r => ?_
  refine .then (.ipAddress j _ r _ _) fun r => ?_
  refine .then (.flag (fun cfg => cfg.netMode) rfl) fun r => ?_
  refine .then (.flag (fun cfg => cfg.isDipOn) rfl) fun r => ?_
  exact .ok r _

theorem rs232Steps_outcome (j : Json) (r : Report) {cfg : RuntimeCfg} (zero : cfg.rs232Cfg = {}) :
    Outcome (runSteps j rs232Steps ⟨r, cfg⟩)
      (unlisted ((j.integerAt (str "RS232Baudrate")).getD 0) [9600, 19200, 38400, 57600, 115200] ||
        (unlisted (j.charAt (str "RS232Databits")).toUInt32 [5, 6, 7, 8] ||
          (unlisted (j.charAt (str "RS232Stopbits")).toUInt32 [1, 2] ||
            j.unknownAt (str "RS232Parity") ipcmdStringRsParities)))
      { cfg with rs232Cfg := (requestCfg j).rs232Cfg } := by
  obtain ⟨isTx, isMCast, isDipOn, netMode, localCfg, ipMask, ipGateway, dest, name, version, user,
    password, rs232, runtime⟩ := cfg
  cases zero
  refine .cons (.integerOf (fun cfg => cfg.rs232Cfg.baudRate) rfl) fun r => ?_
  refine .cons (.charOf (fun cfg => cfg.rs232Cfg.charLength) rfl) fun r => ?_
  refine .cons (.charOf (fun cfg => cfg.rs232Cfg.stopbits) rfl) fun r => ?_
  rw [← Bool.or_false (j.unknownAt _ _)]
  refine .cons (.named (fun cfg => cfg.rs232Cfg.parityType) rfl) fun r => ?_
  exact .ok r _

theorem protocolSteps_outcome (j : Json) (r : Report) {cfg : RuntimeCfg} (zero : cfg.dest = {})
    (noFlag : cfg.isMCast = 0) :
    Outcome (runSteps j protocolSteps ⟨r, cfg⟩)
      (mcastRefused ((j.flagAt (str "isMCAST")).getD 0) (j.addressAt (str "MCASTip")))
      { cfg with isMCast := (requestCfg j).isMCast, dest := (requestCfg j).dest } := by
  obtain ⟨isTx, isMCast, isDipOn, netMode, localCfg, ipMask, ipGateway, dest, name, version, user,
    password, rs232, runtime⟩ := cfg
  cases zero
  cases noFlag
  refine .then (.flag (fun cfg => cfg.isMCast) rfl) fun r => ?_
  rw [← Bool.or_false (mcastRefused _ _)]
  refine .cons .mcastIp fun r => ?_
  refine .then (.short (fun cfg => cfg.dest.vport) rfl) fun r => ?_
  refine .then (.short (fun cfg => cfg.dest.aport) rfl) fun r => ?_
  refine .then (.short (fun cfg => cfg.dest.dport) rfl) fun r => ?_
  refine .then (.short (fun cfg => cfg.dest.sport) rfl) fun r => ?_
  exact .ok r _

theorem mediaSteps_outcome (j : Json) (r : Report) {cfg : RuntimeCfg} (zero : cfg.runtime = {}) :
    Outcome (runSteps j mediaSteps ⟨r, cfg⟩)
      (j.unknownAt (str "vidClrSpace") videoColorSpaces ||
        (unlisted (j.shortAt (str "audFrq")).toUInt32 [44100, 48000] ||
          (unlisted (j.charAt (str "audBit")).toUInt32 [16, 24] ||
            unlisted (j.charAt (str "audChan")).toUInt32 [1, 2])))
      { cfg with runtime := (requestCfg j).runtime } := by
  obtain ⟨isTx, isMCast, isDipOn, netMode, localCfg, ipMask, ipGateway, dest, name, version, user,
    password, rs232, runtime⟩ := cfg
  cases zero
  refine .then (.short (fun cfg => cfg.runtime.vWidth) rfl) fun r => ?_
  refine .then (.short (fun cfg => cfg.runtime.vHeight) rfl) fun r => ?_
  refine .then (.char (fun cfg => cfg.runtime.vFrameRate) rfl) fun r => ?_
  refine .then (.char (fun cfg => cfg.runtime.vDepth) rfl) fun r => ?_
  refine .then (.flag (fun cfg => cfg.runtime.vIsInterlaced) rfl) fun r => ?_
  refine .then (.flag (fun cfg => cfg.runtime.vIsSegmented) rfl) fun r => ?_
  refine .cons (.named (fun cfg => cfg.runtime.vColorSpace) rfl) fun r => ?_
  refine .cons (.shortOf (fun cfg => cfg.runtime.aSampleRate) rfl) fun r => ?_
  refine .cons (.charOf (fun cfg => cfg.runtime.aDepth) rfl) fun r => ?_
  rw [← Bool.or_false (unlisted (j.charAt (str "audChan")).toUInt32 [1, 2])]
  refine .cons (.charOf (fun cfg => cfg.runtime.aChannels) rfl) fun r => ?_
  refine .then (.flag (fun cfg => cfg.runtime.isConnect) rfl) fun r => ?_
  exact .ok r _

/-- A request is refused for one of its fields, or asks for its values. -/
theorem extJsonRequestParse_outcome (j : Json) (r : Report) :
    Outcome (extJsonRequestParse j r) (requestRefused j) (requestCfg j) := by
  have parse := (systemSteps_outcome j r).append fun r =>
    (rs232Steps_outcome j r rfl).append fun r =>
      (protocolSteps_outcome j r rfl rfl).append fun r => mediaSteps_outcome j r rfl
  have parse : Outcome (runSteps j paramSteps ⟨r, {}⟩) _ (requestCfg j) := parse
  rw [extJsonRequestParse_eq]
  simpa only [requestRefused, Bool.false_or, Bool.or_assoc] using parse

end LwipExt.UdpCmd
