import LwipExt.Cmn.SysParams

/-!
The factory settings of `cmn/extCmnSysConfig.c` and the Ethernet address of a group of
`cmn/extLwipUtils.c`, ARM build.
-/

namespace LwipExt

/-- The boards, told apart by `EXTT_BOARD`. -/
inductive Board where
  | extt
  | other
  deriving DecidableEq, Repr

/-- `CFG_MAKEU32`. -/
def cfgMakeU32 (a b c d : UInt8) : UInt32 :=
  a.toUInt32 <<< 24 ||| b.toUInt32 <<< 16 ||| c.toUInt32 <<< 8 ||| d.toUInt32

/-- The Ethernet address of a group: `01:00:5e` and the low 23 bits. -/
def multicastMac (ip : UInt32) : Mac :=
  #v[0x01, 0x00, 0x5e, (ip >>> 8).toUInt8 &&& 0x7f, (ip >>> 16).toUInt8, (ip >>> 24).toUInt8]

/-- `extTxMulticastIP2Mac`. -/
def extTxMulticastIP2Mac (runCfg : RuntimeCfg) : RuntimeCfg :=
  if ipAddrIsMulticast runCfg.dest.ip then
    { runCfg with dest := { runCfg.dest with mac := multicastMac runCfg.dest.ip } }
  else runCfg

/-- `ETHERNET_CONF_ETHADDR5`. -/
def Board.ethAddr5 : Board → UInt8
  | .extt => 0x01
  | .other => 0x02

/-- `ETHERNET_CONF_IPADDR2_TX`, and the same octet of the receiver and of the gateways. -/
def Board.ipAddr2 : Board → UInt8
  | .extt => 168
  | .other => 169

/-- `ETHERNET_CONF_IPADDR3_TX`. -/
def Board.ipAddr3Tx : Board → UInt8
  | .extt => 120
  | .other => 121

/-- `extCfgFromFactory`. What it does not set stays. -/
def extCfgFromFactory (board : Board) (cfg : RuntimeCfg) : RuntimeCfg :=
  let cfg := { cfg with
    name := ext767ProductName
    version := ⟨0, 1, 1⟩
    user := str "admin"
    password := str "admin"
    isMCast := 1
    isDipOn := 1 }
  let mac (ethAddr4 : UInt8) : Mac := #v[0x00, 0x04, 0x25, 0x1c, ethAddr4, board.ethAddr5]
  let group := cfgMakeU32 1 1 100 239
  let cfg :=
    if extIsTx cfg then
      { cfg with
        localCfg :=
          { mac := mac 0x10, ip := cfgMakeU32 board.ipAddr3Tx board.ipAddr2 168 192
            vport := 40000, aport := 40010, dport := 40020, sport := 40030 }
        dest := { cfg.dest with
          mac := mac 0xa0
          ip := if cfg.isMCast = 0 then cfgMakeU32 130 board.ipAddr2 168 192 else group } }
    else
      { cfg with
        localCfg :=
          { mac := mac 0xa0, ip := cfgMakeU32 130 board.ipAddr2 168 192
            vport := 48000, aport := 48010, dport := 48020, sport := 48030 }
        dest := { cfg.dest with
          mac := mac 0xa0
          ip := if cfg.isMCast = 0 then cfgMakeU32 130 board.ipAddr2 168 192 else group } }
  let cfg := { cfg with ipGateway := cfgMakeU32 1 board.ipAddr2 168 192 }
  let cfg := if ipAddrIsMulticast cfg.dest.ip then extTxMulticastIP2Mac cfg else cfg
  { cfg with
    dest := { cfg.dest with vport := 48000, aport := 48010, dport := 48020, sport := 48030 }
    ipMask := cfgMakeU32 0 255 255 255
    rs232Cfg := { baudRate := 57600, charLength := 8, parityType := 0, stopbits := 1 }
    netMode := 0 }

/-- A group address comes with its Ethernet address. -/
def Mapped (cfg : RuntimeCfg) : Prop :=
  ipAddrIsMulticast cfg.dest.ip = true → cfg.dest.mac = multicastMac cfg.dest.ip

/-- The mapping does what it is for. -/
theorem extTxMulticastIP2Mac_mapped (runCfg : RuntimeCfg) :
    Mapped (extTxMulticastIP2Mac runCfg) := by
  unfold Mapped extTxMulticastIP2Mac
  split
  · intro _
    rfl
  · intro multicast
    contradiction

/-- The factory settings are mapped, to the default group. -/
theorem extCfgFromFactory_mapped (board : Board) (cfg : RuntimeCfg) :
    Mapped (extCfgFromFactory board cfg) := by
  have group : ipAddrIsMulticast (cfgMakeU32 1 1 100 239) = true := by decide
  unfold extCfgFromFactory
  simp only
  intro _
  split <;> simp [extTxMulticastIP2Mac, group]

end LwipExt
