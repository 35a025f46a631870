import LwipExt.Bytes

/-!
The firmware store of `exts/cmn/extUploadFile.c` (ARM build), shared by the HTTP
upload and the TFTP server: `_firmwareUpdateInit`, `_firmwareUpdateEnd` and the
flash calls below them.

The board support (`bspSpiFlashInit`, `bspSpiFlashWrite`, `bspSpiFlashFlush`,
`bspCfgSave`) is not part of the repository. Its calls are recorded in `ops`, and
whether the flash takes the coming writes is the list `flashOk`.
-/

namespace LwipExt

/-- `EXT_FM_T`. -/
inductive FmType where
  | none
  | rtos
  | fpga
  | unknown
  deriving DecidableEq, Repr

/-- A call into the board support. -/
inductive FlashOp where
  | init (fmT : FmType)
  | write (data : Bytes)
  | flush
  | cfgSave
  deriving DecidableEq, Repr

/-- `runCfg->firmUpdateInfo` and the flash behind it. -/
structure Firmware where
  type : FmType := .none
  isWrite : Bool := false
  size : Nat := 0
  flashOk : List Bool := []
  ops : List FlashOp := []
  deriving DecidableEq, Repr

/-- `bspSpiFlashWrite`: whether all of `data` was taken. The flash takes the data
when `flashOk` has run out. -/
def bspSpiFlashWrite (fw : Firmware) (data : Bytes) : Firmware × Bool :=
  ({ fw with flashOk := fw.flashOk.tail, ops := fw.ops ++ [.write data] },
    fw.flashOk.headD true)

/-- `_firmwareUpdateInit`. -/
def firmwareUpdateInit (fw : Firmware) (fmT : FmType) : Firmware :=
  { fw with type := fmT, isWrite := true, size := 0, ops := fw.ops ++ [.init fmT] }

/-- `_firmwareUpdateEnd`: flush the last page, then record the update. -/
def firmwareUpdateEnd (fw : Firmware) : Firmware :=
  let fw := { fw with ops := fw.ops ++ [.flush] }
  if fw.type = .rtos ∨ fw.type = .fpga then { fw with ops := fw.ops ++ [.cfgSave] } else fw

end LwipExt
