import LwipExt.UdpCmd.Json

/-!
The parameters of a `set_param` request: `extJsonRequestParse` of
`udpCmd/extUdpCmdRequest.c`.

A flag is stored as its value plus one, so that a zero field is one the request did
not have.
-/

namespace LwipExt.UdpCmd

/-- The state of the parameter parse: the report so far and `tmpCfg`. -/
structure Parsed where
  report : Report
  tmpCfg : RuntimeCfg := {}
  deriving DecidableEq

/-- The bytes of `%d` for a 32-bit argument. -/
def decimalSigned (n : UInt32) : Bytes :=
  if n < 0x80000000 then decimal n.toNat else str "-" ++ decimal (0 - n).toNat

/-- A string parameter, stored if it is there. -/
def Parsed.string (p : Parsed) (j : Json) (key : Bytes) (size : Nat)
    (store : RuntimeCfg → Bytes → RuntimeCfg) : Parsed :=
  match extJsonParseString j key size p.report with
  | (r, some value) => ⟨r, store p.tmpCfg value⟩
  | (r, none) => ⟨r, p.tmpCfg⟩

/-- An address parameter; one that is not there is stored as `IPADDR_NONE`. -/
def Parsed.ipAddress (p : Parsed) (j : Json) (key : Bytes)
    (store : RuntimeCfg → UInt32 → RuntimeCfg) : Parsed :=
  let (r, value) := extJsonParseIpAddress j key p.report
  ⟨r, store p.tmpCfg value⟩

/-- An integer parameter, stored if it is there. -/
def Parsed.integer (p : Parsed) (j : Json) (key : Bytes)
    (store : RuntimeCfg → UInt32 → RuntimeCfg) : Parsed :=
  match extJsonParseUnsignedInteger j key p.report with
  | (r, some value) => ⟨r, store p.tmpCfg value⟩
  | (r, none) => ⟨r, p.tmpCfg⟩

/-- A 16-bit parameter, stored if it is there. -/
def Parsed.short (p : Parsed) (j : Json) (key : Bytes)
    (store : RuntimeCfg → UInt16 → RuntimeCfg) : Parsed :=
  match extJsonParseUnsignedShort j key p.report with
  | (r, some value) => ⟨r, store p.tmpCfg value⟩
  | (r, none) => ⟨r, p.tmpCfg⟩

/-- An 8-bit parameter, stored if it is there. -/
def Parsed.char (p : Parsed) (j : Json) (key : Bytes)
    (store : RuntimeCfg → UInt8 → RuntimeCfg) : Parsed :=
  match extJsonParseUnsignedChar j key p.report with
  | (r, some value) => ⟨r, store p.tmpCfg value⟩
  | (r, none) => ⟨r, p.tmpCfg⟩

/-- A flag, stored as its value plus one. -/
def Parsed.flag (p : Parsed) (j : Json) (key : Bytes)
    (store : RuntimeCfg → UInt8 → RuntimeCfg) : Parsed :=
  p.integer j key fun cfg value => store cfg (value + 1).toUInt8

/-- The parse stops with a message. -/
def Parsed.refuse (p : Parsed) (text : Bytes) : Parsed := { p with report := p.report.refuse text }

/-- A number must be one of a few values; zero stands for a missing parameter. -/
def Parsed.oneOf (p : Parsed) (key : Bytes) (value : RuntimeCfg → UInt32)
    (admitted : List UInt32) : Except Parsed Parsed :=
  if value p.tmpCfg ∈ admitted ∨ value p.tmpCfg = 0 then .ok p
  else .error (p.refuse (str "ERROR invalidate value " ++ quoted (decimalSigned (value p.tmpCfg)) ++
    str " for " ++ quoted key ++ str " object"))

/-- A parameter given by its name in a table, stored as its number plus one. -/
def Parsed.named (p : Parsed) (j : Json) (key : Bytes) (table : List (UInt16 × Bytes))
    (store : RuntimeCfg → UInt8 → RuntimeCfg) : Except Parsed Parsed :=
  match extJsonParseString j key cfgModelSize p.report with
  | (r, none) => .ok ⟨r, p.tmpCfg⟩
  | (r, some model) =>
      if model = [] then .ok ⟨r, p.tmpCfg⟩
      else
        match extCmnTypeFind table model with
        | some type => .ok ⟨r, store p.tmpCfg (type + 1).toUInt8⟩
        | none =>
            .error (Parsed.refuse ⟨r, p.tmpCfg⟩ (str "ERROR invalidate value " ++ quoted model ++
              str " for " ++ quoted key ++ str " object"))

/-- The name, the addresses and the flags that need a reboot. -/
def Parsed.system (j : Json) (p : Parsed) : Parsed :=
  let p := p.string j (str "cName") cfgNameSize fun cfg v => { cfg with name := v }
  let (r, mac, _) := extJsonParseMacAddress j (str "mac") p.tmpCfg.localCfg.mac p.report
  let p : Parsed :=
    ⟨r, { p.tmpCfg with localCfg := { p.tmpCfg.localCfg with mac := mac } }⟩
  let p := p.ipAddress j (str "ip") fun cfg v =>
    { cfg with localCfg := { cfg.localCfg with ip := v } }
  let p := p.ipAddress j (str "mask") fun cfg v => { cfg with ipMask := v }
  let p := p.ipAddress j (str "gateway") fun cfg v => { cfg with ipGateway := v }
  let p := p.flag j (str "isDhcp") fun cfg v => { cfg with netMode := v }
  p.flag j (str "isDipOn") fun cfg v => { cfg with isDipOn := v }

/-- The parameters of the serial port. -/
def Parsed.rs232 (j : Json) (p : Parsed) : Except Parsed Parsed := do
  let p := p.integer j (str "RS232Baudrate") fun cfg v =>
    { cfg with rs232Cfg := { cfg.rs232Cfg with baudRate := v } }
  let p ← p.oneOf (str "RS232Baudrate") (·.rs232Cfg.baudRate) [9600, 19200, 38400, 57600, 115200]
  let p := p.char j (str "RS232Databits") fun cfg v =>
    { cfg with rs232Cfg := { cfg.rs232Cfg with charLength := v } }
  let p ← p.oneOf (str "RS232Databits") (·.rs232Cfg.charLength.toUInt32) [5, 6, 7, 8]
  let p := p.char j (str "RS232Stopbits") fun cfg v =>
    { cfg with rs232Cfg := { cfg.rs232Cfg with stopbits := v } }
  let p ← p.oneOf (str "RS232Stopbits") (·.rs232Cfg.stopbits.toUInt32) [1, 2]
  p.named j (str "RS232Parity") ipcmdStringRsParities fun cfg v =>
    { cfg with rs232Cfg := { cfg.rs232Cfg with parityType := v } }

/-- Where the media go: multicast flag, address and ports. -/
def Parsed.protocol (j : Json) (p : Parsed) : Except Parsed Parsed := do
  let p := p.flag j (str "isMCAST") fun cfg v => { cfg with isMCast := v }
  let p := p.ipAddress j (str "MCASTip") fun cfg v => { cfg with dest := { cfg.dest with ip := v } }
  let ip := p.tmpCfg.dest.ip
  -- An address that is not there is `IPADDR_NONE`, which is refused here as well.
  let p ← if p.tmpCfg.isMCast > 1 ∧ ¬ ipAddrIsMulticast ip ∧ ip ≠ 0 then
      .error (p.refuse (str "ERROR: '" ++ quoted (inetNtoa ip) ++ str " of " ++
        quoted (str "MCASTip") ++ str " object is not multicast address"))
    else .ok p
  let p := p.short j (str "vidPort") fun cfg v => { cfg with dest := { cfg.dest with vport := v } }
  let p := p.short j (str "audPort") fun cfg v => { cfg with dest := { cfg.dest with aport := v } }
  let p := p.short j (str "datPort") fun cfg v => { cfg with dest := { cfg.dest with dport := v } }
  return p.short j (str "strPort") fun cfg v => { cfg with dest := { cfg.dest with sport := v } }

/-- A store into the runtime parameters. -/
def onRuntime {α : Type} (set : MuxRunTimeParam → α → MuxRunTimeParam) (cfg : RuntimeCfg)
    (value : α) : RuntimeCfg :=
  { cfg with runtime := set cfg.runtime value }

/-- The video and audio parameters and the connect flag. -/
def Parsed.media (j : Json) (p : Parsed) : Except Parsed Parsed := do
  let p := p.short j (str "vidW") (onRuntime fun rt v => { rt with vWidth := v })
  let p := p.short j (str "vidH") (onRuntime fun rt v => { rt with vHeight := v })
  let p := p.char j (str "vidFps") (onRuntime fun rt v => { rt with vFrameRate := v })
  let p := p.char j (str "vidDepth") (onRuntime fun rt v => { rt with vDepth := v })
  let p := p.flag j (str "vidIsIntlc") (onRuntime fun rt v => { rt with vIsInterlaced := v })
  let p := p.flag j (str "vidIsSgmt") (onRuntime fun rt v => { rt with vIsSegmented := v })
  let p ← p.named j (str "vidClrSpace") videoColorSpaces
    (onRuntime fun rt v => { rt with vColorSpace := v })
  let p := p.short j (str "audFrq") (onRuntime fun rt v => { rt with aSampleRate := v })
  let p ← p.oneOf (str "audFrq") (·.runtime.aSampleRate.toUInt32) [44100, 48000]
  let p := p.char j (str "audBit") (onRuntime fun rt v => { rt with aDepth := v })
  let p ← p.oneOf (str "audBit") (·.runtime.aDepth.toUInt32) [16, 24]
  let p := p.char j (str "audChan") (onRuntime fun rt v => { rt with aChannels := v })
  let p ← p.oneOf (str "audChan") (·.runtime.aChannels.toUInt32) [1, 2]
  return p.flag j (str "IsConnect") (onRuntime fun rt v => { rt with isConnect := v })

/-- `extJsonRequestParse` into a cleared configuration. The error is the state at the
parameter that was refused. -/
def extJsonRequestParse (j : Json) (r : Report) : Except Parsed Parsed := do
  let p ← Parsed.rs232 j (Parsed.system j ⟨r, {}⟩)
  let p ← Parsed.protocol j p
  Parsed.media j p

/-- The report an outcome of the parse leaves. -/
def Parsed.outcome : Except Parsed Parsed → Parsed
  | .ok p => p
  | .error p => p

end LwipExt.UdpCmd
