import LwipExt.Cmn.Address

/-!
The runtime configuration of `include/extSysParams.h`, as far as the IP command agent
reads and writes it, and the string tables of `cmn/extCmnUtils.c`.

Character arrays are the C strings they hold. `localCfg` is the source's `local`.
-/

namespace LwipExt

/-- `EXT_VIDEO_CONFIG`. -/
structure VideoConfig where
  mac : Mac := Vector.replicate 6 0
  ip : UInt32 := 0
  vport : UInt16 := 0
  aport : UInt16 := 0
  dport : UInt16 := 0
  sport : UInt16 := 0
  deriving DecidableEq

/-- `MuxRs232Cfg`. -/
@[ext]
structure MuxRs232Cfg where
  baudRate : UInt32 := 0
  charLength : UInt8 := 0
  parityType : UInt8 := 0
  stopbits : UInt8 := 0
  deriving DecidableEq

/-- `MuxRunTimeParam`. -/
@[ext]
structure MuxRunTimeParam where
  vWidth : UInt16 := 0
  vHeight : UInt16 := 0
  vFrameRate : UInt8 := 0
  vColorSpace : UInt8 := 0
  vDepth : UInt8 := 0
  vIsInterlaced : UInt8 := 0
  vIsSegmented : UInt8 := 0
  aSampleRate : UInt16 := 0
  aChannels : UInt8 := 0
  aDepth : UInt8 := 0
  isConnect : UInt8 := 0
  deriving DecidableEq

/-- `EXT_FM_VERSION`. -/
structure FmVersion where
  major : UInt8 := 0
  minor : UInt8 := 0
  revision : UInt8 := 0
  deriving DecidableEq

/-- `EXT_RUNTIME_CFG`; the defaults are those of `memset`. -/
structure RuntimeCfg where
  isTx : UInt8 := 0
  isMCast : UInt8 := 0
  isDipOn : UInt8 := 0
  netMode : UInt8 := 0
  localCfg : VideoConfig := {}
  ipMask : UInt32 := 0
  ipGateway : UInt32 := 0
  dest : VideoConfig := {}
  name : Bytes := []
  version : FmVersion := {}
  user : Bytes := []
  password : Bytes := []
  rs232Cfg : MuxRs232Cfg := {}
  runtime : MuxRunTimeParam := {}
  deriving DecidableEq

/-- `EXT_RW_BUFFER_SIZE`, the value of `bufLength`. -/
def extRwBufferSize : Nat := 1024

/-- `EXT_USER_SIZE`. -/
def extUserSize : Nat := 16

/-- Size of the `name` array. -/
def cfgNameSize : Nat := 32

/-- Size of the `model` array, which a request uses as scratch space. -/
def cfgModelSize : Nat := 32

/-- `EXT_767_PRODUCT_NAME`. -/
def ext767ProductName : Bytes := str "SdiOverIP-767"

/-- `EXT_767_MODEL`. -/
def ext767Model : Bytes := str "500767"

/-- `EXT_IS_TX`. -/
def extIsTx (runCfg : RuntimeCfg) : Bool := runCfg.isTx ≠ 0

/-- `EXT_DHCP_IS_ENABLE`: `EXT_IP_CFG_DHCP_ENABLE` is bit 0 of `netMode`. -/
def extDhcpIsEnable (runCfg : RuntimeCfg) : Bool := runCfg.netMode &&& 1 ≠ 0

/-- `EXT_CFG_SET_DHCP`. -/
def extCfgSetDhcp (netMode : UInt8) (enable : Bool) : UInt8 :=
  if enable then netMode ||| 1 else netMode &&& ~~~1

/-! ### String tables -/

/-- `_ipcmdStringRsParities`. -/
def ipcmdStringRsParities : List (UInt16 × Bytes) :=
  [(0, str "none"), (1, str "odd"), (2, str "even")]

/-- `_videoColorSpaces`. -/
def videoColorSpaces : List (UInt16 × Bytes) :=
  [(0, str "YCbCr-422"), (1, str "YCbCr-444"), (2, str "RGB"), (3, str "YCbCr-420"),
    (4, str "XYZ"), (5, str "KEY"), (8, str "CLYCbCr-422"), (9, str "CLYCbCr-444"),
    (11, str "CLYCbCr-420")]

/-- `extCmnStringFind` in a table. -/
def extCmnStringFind (table : List (UInt16 × Bytes)) (type : UInt16) : Bytes :=
  (table.lookup type).getD (str "Unknown String")

/-- `extCmnTypeFind` in a table; `none` is -1. -/
def extCmnTypeFind (table : List (UInt16 × Bytes)) (name : Bytes) : Option UInt16 :=
  (table.find? fun entry => isStringEqual entry.2 name).map Prod.fst

end LwipExt
