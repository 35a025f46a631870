import Mathlib.Data.UInt
import LwipExt.UdpCmd.Response

/-!
`set_param`: the requested configuration is compared with the current one, group by
group, and what changed decides what is done (`udpCmd/extUdpCmdSetup.c`, ARM build).

The comparisons of a group look at different fields, so they are written side by side:
each gives the value to store, if it found one, and the group is flagged if any did.
-/

namespace LwipExt.UdpCmd

/-- `_SETUP_TYPE`. -/
inductive SetupType where
  | system
  | name
  | rs232
  | protocol
  | media
  | connect
  deriving DecidableEq, Repr

/-- `1<<(_type)`. -/
def SetupType.bit : SetupType → UInt16
  | .system => 1
  | .name => 2
  | .rs232 => 4
  | .protocol => 8
  | .media => 16
  | .connect => 32

/-- `runCfg` and `_setupType` during the comparison. -/
structure Setup where
  runCfg : RuntimeCfg
  setupType : UInt16 := 0
  deriving DecidableEq

/-- `SETUP_CHECK_TYPE`: the test keeps only the bit it tests. -/
def setupCheckType (setupType : UInt16) (type : SetupType) : UInt16 × Bool :=
  (setupType &&& type.bit, setupType &&& type.bit ≠ 0)

/-- `_checkIntegerField`, `_checkShortField` and `_checkBoolField` without `isBool`: the value
to store, if there is one. -/
def checkField {α : Type} [DecidableEq α] [Zero α] (dest src : α) : Option α :=
  if src ≠ 0 ∧ src ≠ dest then some src else none

/-- `_checkBoolField` with `isBool`: the field holds the value plus one. -/
def checkBool (dest src : UInt8) : Option UInt8 :=
  if src ≠ 0 ∧ dest ≠ src - 1 then some (src - 1) else none

/-- An address is stored whenever the request has one, be it the current one. -/
def checkAddress (src : UInt32) : Option UInt32 :=
  if src ≠ ipaddrNone then some src else none

/-- The address of the interface is stored unless it is null or the current one. -/
def checkMac (dest src : Mac) : Option Mac :=
  if ¬ macAddrIsNull src ∧ dest ≠ src then some src else none

/-- The name, cut to its array. -/
def checkName (dest src : Bytes) : Option Bytes :=
  if cstr src ≠ [] ∧ ¬ isStringEqual dest src then some (snprintf cfgNameSize (cstr src)) else none

/-- `netMode` is compared as a whole, but only its DHCP bit is stored. -/
def checkDhcp (dest src : UInt8) : Option UInt8 :=
  if src ≠ 0 ∧ dest ≠ src - 1 then some (extCfgSetDhcp dest (src - 1 ≠ 0)) else none

/-- `SETUP_SET_TYPE` for a group, if one of its comparisons found a value to store. -/
def setupSetType (type : SetupType) (found : List Bool) (setupType : UInt16) : UInt16 :=
  if found.any id then setupType ||| type.bit else setupType

/-- `_compareSystemCfg`. -/
def compareSystemCfg (s : Setup) (rx : RuntimeCfg) : Setup :=
  let cfg := s.runCfg
  let netMode := checkDhcp cfg.netMode rx.netMode
  let ip := checkAddress rx.localCfg.ip
  let ipMask := checkAddress rx.ipMask
  let ipGateway := checkAddress rx.ipGateway
  let mac := checkMac cfg.localCfg.mac rx.localCfg.mac
  let name := checkName cfg.name rx.name
  let isDipOn := checkBool cfg.isDipOn rx.isDipOn
  { runCfg := { cfg with
      netMode := netMode.getD cfg.netMode
      localCfg := { cfg.localCfg with
        ip := ip.getD cfg.localCfg.ip, mac := mac.getD cfg.localCfg.mac }
      ipMask := ipMask.getD cfg.ipMask
      ipGateway := ipGateway.getD cfg.ipGateway
      name := name.getD cfg.name
      isDipOn := isDipOn.getD cfg.isDipOn }
    setupType := setupSetType .system
      [netMode.isSome, ip.isSome, ipMask.isSome, ipGateway.isSome, mac.isSome, name.isSome,
        isDipOn.isSome] s.setupType }

/-- `_compareRs232Config`. -/
def compareRs232Config (s : Setup) (rx : RuntimeCfg) : Setup :=
  let rs := s.runCfg.rs232Cfg
  let baudRate := checkField rs.baudRate rx.rs232Cfg.baudRate
  let charLength := checkField rs.charLength rx.rs232Cfg.charLength
  let stopbits := checkField rs.stopbits rx.rs232Cfg.stopbits
  let parityType := checkBool rs.parityType rx.rs232Cfg.parityType
  { runCfg := { s.runCfg with
      rs232Cfg :=
        { baudRate := baudRate.getD rs.baudRate
          charLength := charLength.getD rs.charLength
          parityType := parityType.getD rs.parityType
          stopbits := stopbits.getD rs.stopbits } }
    setupType := setupSetType .rs232
      [baudRate.isSome, charLength.isSome, stopbits.isSome, parityType.isSome] s.setupType }

/-- `_compareProtocolConfig`. -/
def compareProtocolConfig (s : Setup) (rx : RuntimeCfg) : Setup :=
  let dest := s.runCfg.dest
  let isMCast := checkBool s.runCfg.isMCast rx.isMCast
  let ip := checkAddress rx.dest.ip
  let vport := checkField dest.vport rx.dest.vport
  let aport := checkField dest.aport rx.dest.aport
  let dport := checkField dest.dport rx.dest.dport
  let sport := checkField dest.sport rx.dest.sport
  { runCfg := { s.runCfg with
      isMCast := isMCast.getD s.runCfg.isMCast
      dest := { dest with
        ip := ip.getD dest.ip
        vport := vport.getD dest.vport
        aport := aport.getD dest.aport
        dport := dport.getD dest.dport
        sport := sport.getD dest.sport } }
    setupType := setupSetType .protocol
      [isMCast.isSome, ip.isSome, vport.isSome, aport.isSome, dport.isSome, sport.isSome]
      s.setupType }

/-- `_compareMediaCfg`. -/
def compareMediaCfg (s : Setup) (rx : RuntimeCfg) : Setup :=
  let rt := s.runCfg.runtime
  let vWidth := checkField rt.vWidth rx.runtime.vWidth
  let vHeight := checkField rt.vHeight rx.runtime.vHeight
  let vFrameRate := checkField rt.vFrameRate rx.runtime.vFrameRate
  let vDepth := checkField rt.vDepth rx.runtime.vDepth
  let vColorSpace := checkBool rt.vColorSpace rx.runtime.vColorSpace
  let vIsInterlaced := checkBool rt.vIsInterlaced rx.runtime.vIsInterlaced
  let vIsSegmented := checkBool rt.vIsSegmented rx.runtime.vIsSegmented
  let aSampleRate := checkField rt.aSampleRate rx.runtime.aSampleRate
  let aChannels := checkField rt.aChannels rx.runtime.aChannels
  let aDepth := checkField rt.aDepth rx.runtime.aDepth
  { runCfg := { s.runCfg with
      runtime := { rt with
        vWidth := vWidth.getD rt.vWidth
        vHeight := vHeight.getD rt.vHeight
        vFrameRate := vFrameRate.getD rt.vFrameRate
        vDepth := vDepth.getD rt.vDepth
        vColorSpace := vColorSpace.getD rt.vColorSpace
        vIsInterlaced := vIsInterlaced.getD rt.vIsInterlaced
        vIsSegmented := vIsSegmented.getD rt.vIsSegmented
        aSampleRate := aSampleRate.getD rt.aSampleRate
        aChannels := aChannels.getD rt.aChannels
        aDepth := aDepth.getD rt.aDepth } }
    setupType := setupSetType .media
      [vWidth.isSome, vHeight.isSome, vFrameRate.isSome, vDepth.isSome, vColorSpace.isSome,
        vIsInterlaced.isSome, vIsSegmented.isSome, aSampleRate.isSome, aChannels.isSome,
        aDepth.isSome] s.setupType }

/-- The tests of `extUdpCmdSetupParams` on the groups that changed, and what they lead to. -/
def setupActions (setupType : UInt16) (runCfg : RuntimeCfg) : List HwOp :=
  let (setupType, system) := setupCheckType setupType .system
  let systemOps := if system then [.cfgSave runCfg, .reboot] else []
  -- `||` makes the second test only when the first fails; so do the tests inside.
  let (setupType, rs232) := setupCheckType setupType .rs232
  let (setupType, save) := if rs232 then (setupType, true) else setupCheckType setupType .name
  let (setupType, rs232Ops) :=
    if save then
      let (setupType, rs232) := setupCheckType setupType .rs232
      (setupType, .cfgSave runCfg :: if rs232 then [.rs232Config runCfg] else [])
    else (setupType, [])
  let (setupType, protocol) := setupCheckType setupType .protocol
  let (setupType, fpga) :=
    if protocol then (setupType, true) else setupCheckType setupType .media
  let fpgaOps :=
    if fpga then
      let (_, protocol) := setupCheckType setupType .protocol
      (if protocol then [.cfgSave runCfg] else []) ++ [.fpgaConfig runCfg]
    else []
  systemOps ++ rs232Ops ++ fpgaOps

/-- `extUdpCmdConnect`: the connection is toggled, whatever the request asked for. -/
def extUdpCmdConnect (runCfg : RuntimeCfg) : RuntimeCfg × List HwOp :=
  let newStatus : Bool := runCfg.runtime.isConnect = 0
  let ops :=
    if extIsTx runCfg then [.fpgaEnable newStatus]
    else if ipAddrIsMulticast runCfg.dest.ip then [.groupMgr runCfg.dest.ip newStatus]
    else []
  ({ runCfg with
      runtime := { runCfg.runtime with isConnect := if newStatus then 1 else 0 } }, ops)

/-- The four comparisons. -/
def compareCfg (runCfg rx : RuntimeCfg) : Setup :=
  compareMediaCfg (compareProtocolConfig (compareRs232Config
    (compareSystemCfg ⟨runCfg, 0⟩ rx) rx) rx) rx

/-- What `extUdpCmdSetupParams` does once the request is parsed. -/
def setupApply (parser : ExtJsonParser) (rx : RuntimeCfg) : ExtJsonParser :=
  let s := compareCfg parser.runCfg rx
  let parser := extUdpCmdSendMediaData { parser with runCfg := s.runCfg }
  let parser := extJsonResponsePrintConfig parser
  let parser := { parser with ops := parser.ops ++ setupActions s.setupType parser.runCfg }
  -- The connect flag is compared with the value plus one.
  if rx.runtime.isConnect ≠ 0 ∧ parser.runCfg.runtime.isConnect ≠ rx.runtime.isConnect then
    let (runCfg, ops) := extUdpCmdConnect parser.runCfg
    { parser with runCfg := runCfg, ops := parser.ops ++ ops }
  else parser

/-- The check and the parse of `extUdpCmdSetupParams`: the request afterwards, and the values
it asks for if it is accepted. -/
def setupRequest (runCfg : RuntimeCfg) (rq : Request) : Request × Option RuntimeCfg :=
  match extUdpCmdIsLocal runCfg rq with
  | (rq, false) => (rq, none)
  | (rq, true) =>
      match extJsonRequestParse rq.json rq.report with
      | .error p => (Request.withStatus { rq with report := p.report } .parseParamError, none)
      | .ok p => ({ rq with report := p.report }, some p.tmpCfg)

/-- `extUdpCmdSetupParams`. -/
def extUdpCmdSetupParams (parser : ExtJsonParser) : ExtJsonParser × Bool :=
  match setupRequest parser.runCfg parser.toRequest with
  | (rq, none) => ({ parser with toRequest := rq }, false)
  | (rq, some rx) => (setupApply { parser with toRequest := rq } rx, true)

/-- The values an accepted request asks for. -/
def acceptedRequest (runCfg : RuntimeCfg) (rq : Request) : Option RuntimeCfg :=
  (setupRequest runCfg rq).2

end LwipExt.UdpCmd
