import LwipExt.UdpCmd.Main

/-!
What a `set_param` request leads to.

The four groups of fields are compared one after the other; each comparison stores what
it found and flags its group. Afterwards `SETUP_CHECK_TYPE` keeps only the flag it tests,
so the first test, for the system group, drops the flags of the other three. The main
result, `setup_effects_iff`, says which requests still get what their changes ask for:
those that change a system field if they give one, and no field of the other groups.
-/

namespace LwipExt.UdpCmd

/-! ### The groups of fields -/

/-- The fields `_compareSystemCfg` looks at. -/
def systemFields (c : RuntimeCfg) :=
  (c.netMode, c.localCfg.ip, c.ipMask, c.ipGateway, c.localCfg.mac, c.name, c.isDipOn)

/-- The fields `_compareRs232Config` looks at. -/
def rs232Fields (c : RuntimeCfg) : MuxRs232Cfg := c.rs232Cfg

/-- The fields `_compareProtocolConfig` looks at. -/
def protocolFields (c : RuntimeCfg) :=
  (c.isMCast, c.dest.ip, c.dest.vport, c.dest.aport, c.dest.dport, c.dest.sport)

/-- The fields `_compareMediaCfg` looks at: all of `runtime` but the connect flag. -/
def mediaFields (c : RuntimeCfg) : MuxRunTimeParam := { c.runtime with isConnect := 0 }

/-- A comparison found a value other than the current one. -/
def differs {α : Type} [DecidableEq α] (found : Option α) (dest : α) : Bool :=
  found.any (· ≠ dest)

theorem getD_eq_iff {α : Type} [DecidableEq α] (found : Option α) (dest : α) :
    found.getD dest = dest ↔ differs found dest = false := by
  cases found <;> simp [differs]

/-- The requested values `rx` ask for a system value, be it the current one. -/
def asksSystem (c rx : RuntimeCfg) : Bool :=
  (checkDhcp c.netMode rx.netMode).isSome || (checkAddress rx.localCfg.ip).isSome ||
    (checkAddress rx.ipMask).isSome || (checkAddress rx.ipGateway).isSome ||
    (checkMac c.localCfg.mac rx.localCfg.mac).isSome || (checkName c.name rx.name).isSome ||
    (checkBool c.isDipOn rx.isDipOn).isSome

/-- The requested values `rx` change a system field. -/
def changesSystem (c rx : RuntimeCfg) : Bool :=
  differs (checkDhcp c.netMode rx.netMode) c.netMode ||
    differs (checkAddress rx.localCfg.ip) c.localCfg.ip ||
    differs (checkAddress rx.ipMask) c.ipMask || differs (checkAddress rx.ipGateway) c.ipGateway ||
    differs (checkMac c.localCfg.mac rx.localCfg.mac) c.localCfg.mac ||
    differs (checkName c.name rx.name) c.name || differs (checkBool c.isDipOn rx.isDipOn) c.isDipOn

/-- The requested values `rx` change an RS232 field. -/
def changesRs232 (c rx : RuntimeCfg) : Bool :=
  differs (checkField c.rs232Cfg.baudRate rx.rs232Cfg.baudRate) c.rs232Cfg.baudRate ||
    differs (checkField c.rs232Cfg.charLength rx.rs232Cfg.charLength) c.rs232Cfg.charLength ||
    differs (checkField c.rs232Cfg.stopbits rx.rs232Cfg.stopbits) c.rs232Cfg.stopbits ||
    differs (checkBool c.rs232Cfg.parityType rx.rs232Cfg.parityType) c.rs232Cfg.parityType

/-- The requested values `rx` change a protocol field. -/
def changesProtocol (c rx : RuntimeCfg) : Bool :=
  differs (checkBool c.isMCast rx.isMCast) c.isMCast ||
    differs (checkAddress rx.dest.ip) c.dest.ip ||
    differs (checkField c.dest.vport rx.dest.vport) c.dest.vport ||
    differs (checkField c.dest.aport rx.dest.aport) c.dest.aport ||
    differs (checkField c.dest.dport rx.dest.dport) c.dest.dport ||
    differs (checkField c.dest.sport rx.dest.sport) c.dest.sport

/-- The requested values `rx` change a media field. -/
def changesMedia (c rx : RuntimeCfg) : Bool :=
  let rt := c.runtime
  differs (checkField rt.vWidth rx.runtime.vWidth) rt.vWidth ||
    differs (checkField rt.vHeight rx.runtime.vHeight) rt.vHeight ||
    differs (checkField rt.vFrameRate rx.runtime.vFrameRate) rt.vFrameRate ||
    differs (checkField rt.vDepth rx.runtime.vDepth) rt.vDepth ||
    differs (checkBool rt.vColorSpace rx.runtime.vColorSpace) rt.vColorSpace ||
    differs (checkBool rt.vIsInterlaced rx.runtime.vIsInterlaced) rt.vIsInterlaced ||
    differs (checkBool rt.vIsSegmented rx.runtime.vIsSegmented) rt.vIsSegmented ||
    differs (checkField rt.aSampleRate rx.runtime.aSampleRate) rt.aSampleRate ||
    differs (checkField rt.aChannels rx.runtime.aChannels) rt.aChannels ||
    differs (checkField rt.aDepth rx.runtime.aDepth) rt.aDepth

/-! ### What the comparisons store -/

theorem compareCfg_system (c rx : RuntimeCfg) :
    systemFields (compareCfg c rx).runCfg ≠ systemFields c ↔ changesSystem c rx = true := by
  rw [← not_iff_not, not_not, Bool.not_eq_true]
  simp only [systemFields, changesSystem, compareCfg, compareMediaCfg, compareProtocolConfig,
    compareRs232Config, compareSystemCfg, Prod.mk.injEq, getD_eq_iff, Bool.or_eq_false_iff,
    and_assoc]

theorem compareCfg_rs232 (c rx : RuntimeCfg) :
    rs232Fields (compareCfg c rx).runCfg ≠ rs232Fields c ↔ changesRs232 c rx = true := by
  rw [← not_iff_not, not_not, Bool.not_eq_true, MuxRs232Cfg.ext_iff]
  simp only [rs232Fields, changesRs232, compareCfg, compareMediaCfg, compareProtocolConfig,
    compareRs232Config, compareSystemCfg, getD_eq_iff, Bool.or_eq_false_iff, and_assoc]
  tauto

theorem compareCfg_protocol (c rx : RuntimeCfg) :
    protocolFields (compareCfg c rx).runCfg ≠ protocolFields c ↔ changesProtocol c rx = true := by
  rw [← not_iff_not, not_not, Bool.not_eq_true]
  simp only [protocolFields, changesProtocol, compareCfg, compareMediaCfg, compareProtocolConfig,
    compareRs232Config, compareSystemCfg, Prod.mk.injEq, getD_eq_iff, Bool.or_eq_false_iff,
    and_assoc]

theorem compareCfg_media (c rx : RuntimeCfg) :
    mediaFields (compareCfg c rx).runCfg ≠ mediaFields c ↔ changesMedia c rx = true := by
  rw [← not_iff_not, not_not, Bool.not_eq_true, MuxRunTimeParam.ext_iff]
  simp only [mediaFields, changesMedia, compareCfg, compareMediaCfg, compareProtocolConfig,
    compareRs232Config, compareSystemCfg, getD_eq_iff, Bool.or_eq_false_iff, and_assoc]
  tauto

/-! ### What the tests make of the flags -/

/-- The flags the comparisons leave. -/
def setupFlags (system rs232 protocol media : Bool) : UInt16 :=
  let flag (type : SetupType) (found : Bool) (flags : UInt16) :=
    if found then flags ||| type.bit else flags
  flag .media media (flag .protocol protocol (flag .rs232 rs232 (flag .system system 0)))

theorem compareCfg_setupType (c rx : RuntimeCfg) :
    ∃ rs232 protocol media,
      (compareCfg c rx).setupType = setupFlags (asksSystem c rx) rs232 protocol media := by
  have system : asksSystem c rx =
      [(checkDhcp c.netMode rx.netMode).isSome, (checkAddress rx.localCfg.ip).isSome,
        (checkAddress rx.ipMask).isSome, (checkAddress rx.ipGateway).isSome,
        (checkMac c.localCfg.mac rx.localCfg.mac).isSome, (checkName c.name rx.name).isSome,
        (checkBool c.isDipOn rx.isDipOn).isSome].any id := by
    simp [asksSystem, Bool.or_assoc]
  rw [system]
  exact ⟨_, _, _, rfl⟩

/-- The test for the system group drops the flags of the other groups. -/
theorem setupCheckType_system (system rs232 protocol media : Bool) :
    setupCheckType (setupFlags system rs232 protocol media) .system =
      (if system then 1 else 0, system) := by
  cases system <;> cases rs232 <;> cases protocol <;> cases media <;> decide

@[simp] theorem setupCheckType_zero (type : SetupType) :
    setupCheckType 0 type = (0, false) := by
  cases type <;> decide

/-- With no flag but that of the system group every other test fails. -/
theorem setupCheckType_rs232 (system : Bool) :
    setupCheckType (if system then 1 else 0) .rs232 = (0, false) := by
  cases system <;> decide

/-- So only a system flag has a consequence. -/
theorem setupActions_setupFlags (system rs232 protocol media : Bool) (cfg : RuntimeCfg) :
    setupActions (setupFlags system rs232 protocol media) cfg =
      if system then [.cfgSave cfg, .reboot] else [] := by
  unfold setupActions
  rw [setupCheckType_system]
  simp only [setupCheckType_rs232, setupCheckType_zero, Bool.false_eq_true, if_false,
    List.append_nil]

/-! ### The request as a whole -/

/-- A configuration was saved. -/
def saves (ops : List HwOp) : Prop := ∃ cfg, .cfgSave cfg ∈ ops

/-- What a change of configuration asks of the hardware calls `ops`. -/
structure EffectsMatch (old new : RuntimeCfg) (ops : List HwOp) : Prop where
  system : saves ops ∧ .reboot ∈ ops ↔ systemFields new ≠ systemFields old
  rs232 : (saves ops ∧ ∃ cfg, .rs232Config cfg ∈ ops) ↔ rs232Fields new ≠ rs232Fields old
  protocol : protocolFields new ≠ protocolFields old → saves ops
  fpga : (∃ cfg, .fpgaConfig cfg ∈ ops) ↔
    protocolFields new ≠ protocolFields old ∨ mediaFields new ≠ mediaFields old

/-- The hardware calls a request leads to. -/
def setupOps (parser : ExtJsonParser) : List HwOp :=
  (extUdpCmdSetupParams parser).1.ops.drop parser.ops.length

/-- A request gets what its changes ask for: if it gives a system value it changes one,
and it changes nothing else. -/
def Served (c rx : RuntimeCfg) : Prop :=
  (asksSystem c rx = true → changesSystem c rx = true) ∧ changesRs232 c rx = false ∧
    changesProtocol c rx = false ∧ changesMedia c rx = false

theorem setup_refused {parser : ExtJsonParser}
    (refused : acceptedRequest parser.runCfg parser.toRequest = none) :
    (extUdpCmdSetupParams parser).1.runCfg = parser.runCfg ∧ setupOps parser = [] := by
  unfold acceptedRequest at refused
  unfold setupOps extUdpCmdSetupParams
  generalize setupRequest parser.runCfg parser.toRequest = request at refused ⊢
  obtain ⟨rq, _ | rx⟩ := request
  · exact ⟨rfl, List.drop_length⟩
  · cases refused

/-- The calls of `extUdpCmdConnect`. -/
def isConnectOp : HwOp → Bool
  | .fpgaEnable _ | .groupMgr _ _ => true
  | _ => false

/-- `extUdpCmdConnect` changes the connect flag only. -/
theorem extUdpCmdConnect_eq (c : RuntimeCfg) :
    ∃ isConnect ops, extUdpCmdConnect c =
        ({ c with runtime := { c.runtime with isConnect := isConnect } }, ops) ∧
      ∀ op ∈ ops, isConnectOp op = true := by
  refine ⟨_, _, rfl, ?_⟩
  intro op mem
  split at mem
  · rw [List.mem_singleton.mp mem]
    rfl
  · split at mem
    · rw [List.mem_singleton.mp mem]
      rfl
    · exact absurd mem List.not_mem_nil

/-- An accepted request is compared and stored; then the tests and the connect flag
decide on the calls. -/
theorem setup_accepted {parser : ExtJsonParser} {rx : RuntimeCfg}
    (accepted : acceptedRequest parser.runCfg parser.toRequest = some rx) :
    ∃ isConnect connectOps new, new = (compareCfg parser.runCfg rx).runCfg ∧
      (extUdpCmdSetupParams parser).1.runCfg =
        { new with runtime := { new.runtime with isConnect := isConnect } } ∧
      setupOps parser =
        (if asksSystem parser.runCfg rx then [.cfgSave new, .reboot] else []) ++ connectOps ∧
      ∀ op ∈ connectOps, isConnectOp op = true := by
  unfold acceptedRequest at accepted
  unfold setupOps extUdpCmdSetupParams
  generalize setupRequest parser.runCfg parser.toRequest = request at accepted ⊢
  obtain ⟨rq, asked⟩ := request
  cases accepted
  obtain ⟨rs232, protocol, media, flags⟩ := compareCfg_setupType parser.runCfg rx
  simp only [setupApply]
  generalize compareCfg parser.runCfg rx = s at flags
  obtain ⟨out, index, -, sent⟩ := extUdpCmdSendMediaData_eq
    { parser with toRequest := rq, runCfg := s.runCfg }
  obtain ⟨⟨out', index', printed⟩, -⟩ := extJsonResponsePrintConfig_responded
    (extUdpCmdSendMediaData { parser with toRequest := rq, runCfg := s.runCfg })
  rw [sent] at printed
  simp only [sent, printed, flags, setupActions_setupFlags]
  split
  · obtain ⟨isConnect, ops, connect, connectOps⟩ := extUdpCmdConnect_eq s.runCfg
    refine ⟨isConnect, ops, s.runCfg, rfl, ?_, ?_, connectOps⟩
    · simp [connect]
    · simp [connect]
  · refine ⟨s.runCfg.runtime.isConnect, [], s.runCfg, rfl, rfl, ?_, ?_⟩
    · simp
    · simp

theorem isSome_of_differs {α : Type} [DecidableEq α] {found : Option α} {dest : α}
    (other : differs found dest = true) : found.isSome = true := by
  cases found with
  | none => simp [differs] at other
  | some value => rfl

/-- A request that changes a system field gives a system value. -/
theorem asksSystem_of_changesSystem {c rx : RuntimeCfg} (changes : changesSystem c rx = true) :
    asksSystem c rx = true := by
  simp only [changesSystem, Bool.or_eq_true] at changes
  simp only [asksSystem, Bool.or_eq_true]
  rcases changes with (((((found | found) | found) | found) | found) | found) | found <;>
    simp [isSome_of_differs found]

/-- The calls of an accepted request, sorted by kind. -/
theorem setup_calls {asks : Bool} {new : RuntimeCfg} {connectOps ops : List HwOp}
    (calls : ops = (if asks then [.cfgSave new, .reboot] else []) ++ connectOps)
    (connect : ∀ op ∈ connectOps, isConnectOp op = true) :
    (saves ops ↔ asks = true) ∧ (.reboot ∈ ops ↔ asks = true) ∧
      (¬ ∃ cfg, .rs232Config cfg ∈ ops) ∧ ¬ ∃ cfg, .fpgaConfig cfg ∈ ops := by
  have other {op : HwOp} (no : isConnectOp op = false) : op ∉ connectOps := by
    intro mem
    rw [connect op mem] at no
    cases no
  subst calls
  unfold saves
  cases asks with
  | false =>
      simp only [Bool.false_eq_true, if_false, List.nil_append, iff_false, not_exists]
      exact ⟨fun _ => other rfl, other rfl, fun _ => other rfl, fun _ => other rfl⟩
  | true =>
      simp only [if_true, List.mem_append, List.mem_cons, List.not_mem_nil, or_false,
        HwOp.cfgSave.injEq, reduceCtorEq, false_or, or_true, true_or, iff_true, true_and, not_exists]
      exact ⟨⟨new, .inl rfl⟩, fun _ => other rfl, fun _ => other rfl⟩

/-- A `set_param` request gets what its changes ask for exactly if it is refused, or if it
changes a system field when it gives a system value and changes no field of the other three
groups. -/
theorem setup_effects_iff (parser : ExtJsonParser) :
    EffectsMatch parser.runCfg (extUdpCmdSetupParams parser).1.runCfg (setupOps parser) ↔
      ∀ rx, acceptedRequest parser.runCfg parser.toRequest = some rx → Served parser.runCfg rx := by
  cases accepted : acceptedRequest parser.runCfg parser.toRequest with
  | none =>
      obtain ⟨kept, none_⟩ := setup_refused accepted
      rw [kept, none_]
      simp only [reduceCtorEq, false_implies, implies_true, iff_true]
      constructor <;> simp [saves]
  | some rx =>
      obtain ⟨isConnect, connectOps, new, compared, stored, calls, connect⟩ :=
        setup_accepted accepted
      obtain ⟨saved, rebooted, noRs232, noFpga⟩ := setup_calls calls connect
      have system : systemFields (extUdpCmdSetupParams parser).1.runCfg ≠
          systemFields parser.runCfg ↔ changesSystem parser.runCfg rx = true := by
        rw [← compareCfg_system, stored, compared]
        rfl
      have rs232 : rs232Fields (extUdpCmdSetupParams parser).1.runCfg ≠
          rs232Fields parser.runCfg ↔ changesRs232 parser.runCfg rx = true := by
        rw [← compareCfg_rs232, stored, compared]
        rfl
      have protocol : protocolFields (extUdpCmdSetupParams parser).1.runCfg ≠
          protocolFields parser.runCfg ↔ changesProtocol parser.runCfg rx = true := by
        rw [← compareCfg_protocol, stored, compared]
        rfl
      have media : mediaFields (extUdpCmdSetupParams parser).1.runCfg ≠
          mediaFields parser.runCfg ↔ changesMedia parser.runCfg rx = true := by
        rw [← compareCfg_media, stored, compared]
        rfl
      simp only [Option.some.injEq, forall_eq']
      constructor
      · intro effects
        have noRs : ¬ changesRs232 parser.runCfg rx = true := fun changes =>
          noRs232 (effects.rs232.mpr (rs232.mpr changes)).2
        have noMedia : ¬ (changesProtocol parser.runCfg rx = true ∨
            changesMedia parser.runCfg rx = true) := fun changes =>
          noFpga (effects.fpga.mpr (changes.imp protocol.mpr media.mpr))
        refine ⟨fun asks => ?_, by simpa using noRs, ?_, ?_⟩
        · exact system.mp (effects.system.mp ⟨saved.mpr asks, rebooted.mpr asks⟩)
        · simpa using fun changes => noMedia (.inl changes)
        · simpa using fun changes => noMedia (.inr changes)
      · rintro ⟨honest, noRs, noProtocol, noMedia⟩
        refine ⟨?_, ?_, ?_, ?_⟩
        · rw [saved, rebooted, system, and_self]
          exact ⟨honest, asksSystem_of_changesSystem⟩
        · rw [rs232, noRs]
          exact ⟨fun h => absurd h.2 noRs232, fun h => by cases h⟩
        · rw [protocol, noProtocol]
          intro h
          cases h
        · rw [protocol, media, noProtocol, noMedia]
          exact ⟨fun h => absurd h noFpga, fun h => by rcases h with h | h <;> cases h⟩

/-! ### A request the device drops -/

/-- The factory settings of a receiver, as far as they matter here. -/
def receiverCfg : RuntimeCfg :=
  { isMCast := 1
    isDipOn := 1
    localCfg := { mac := #v[0x00, 0x04, 0x25, 0x1c, 0xa0, 0x02], ip := ipaddrAddr (str "192.168.168.130") }
    dest := { mac := #v[0x00, 0x04, 0x25, 0x1c, 0xa0, 0x02], ip := ipaddrAddr (str "239.100.1.1") }
    user := str "admin"
    password := str "admin"
    rs232Cfg := { baudRate := 57600, charLength := 8, parityType := 0, stopbits := 1 } }

/-- A request for another baud rate. -/
def baudRateRequest : Bytes :=
  str "\x7b\"targ\":\"00:04:25:1c:a0:02\",\"cmd\":\"set_param\"," ++
    str "\"login-ack\":\"admin\",\"pwd-msg\":\"admin\",\"data\":[\x7b\"RS232Baudrate\":9600\x7d]\x7d"

/-- The agent of the receiver with that request in hand. -/
def baudRateAgent : ExtJsonParser :=
  { runCfg := receiverCfg
    toRequest := (extJsonRequestParseCommand {} baudRateRequest baudRateRequest.length).1 }

/-- The new baud rate is stored, but nothing is saved and the port is not set up. -/
theorem baud_rate_not_saved : ¬ EffectsMatch baudRateAgent.runCfg
    (extUdpCmdSetupParams baudRateAgent).1.runCfg (setupOps baudRateAgent) := by
  intro effects
  have changed : rs232Fields (extUdpCmdSetupParams baudRateAgent).1.runCfg ≠
      rs232Fields baudRateAgent.runCfg := by decide +kernel
  have noCall : setupOps baudRateAgent = [] := by decide +kernel
  obtain ⟨⟨cfg, saved⟩, -⟩ := effects.rs232.mpr changed
  rw [noCall] at saved
  exact absurd saved List.not_mem_nil

end LwipExt.UdpCmd
