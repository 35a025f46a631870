import LwipExt.Nmos.Node

/-!
The resources of a node as `extNmosNodeInit` leaves them: `nnmos/extNmosInit.c`.

A sending node has a source, a flow and a sender for each of video, audio and data, a receiving one
three receivers. The constraints of a sender are a copy of the ports of the configuration at
start-up. What `extNmosIdGenerate` gives, in the order of its calls, is an argument.
-/

namespace LwipExt.Nmos

/-- `EXT_MEDIA_PORT_RANGE`. -/
def extMediaPortRange : UInt16 := 10

/-- `NMOS_NAME_LENGTH`. -/
def nmosNameLength : Nat := 32

/-- `_interfaceName`. -/
def interfaceName : Bytes := str "MuxEthernet"

/-- A resource with its UUID, label and description. -/
def initResource (nmosId : Stored) (label description : Bytes) : ExtNmosResource where
  nmosId
  seconds := 0
  nanoSeconds := 0
  label := snprintf nmosNameLength label
  description := snprintf nmosNameLength description
  tags := none

/-! ### Senders, flows and sources -/

/-- The sender of some kind of media, with the ports it has in the configuration. -/
def initSender (nmosId : Stored) (kind : Bytes) (port : VideoConfig → UInt16)
    (runCfg : RuntimeCfg) (flow : ExtNmosFlow) : ExtNmosSender where
  resourceId := initResource nmosId
    (str "MuxLab " ++ kind ++ str " sender from " ++ cstr runCfg.name)
    (str "MuxLab NMOS " ++ kind ++ str " sender")
  transport := .ucast
  interface_binding := interfaceName
  constraints :=
    { sourcePortMini := port runCfg.localCfg
      destPortMini := port runCfg.dest
      portRange := extMediaPortRange }
  flow
  enabled := 1

/-- `__extVideoSenderInit`. -/
def extVideoSenderInit (nmosId : Stored) : RuntimeCfg → ExtNmosFlow → ExtNmosSender :=
  initSender nmosId (str "video") (·.vport)

/-- `__extAudioSenderInit`. -/
def extAudioSenderInit (nmosId : Stored) : RuntimeCfg → ExtNmosFlow → ExtNmosSender :=
  initSender nmosId (str "audio") (·.aport)

/-- `__extDataSenderInit`. -/
def extDataSenderInit (nmosId : Stored) : RuntimeCfg → ExtNmosFlow → ExtNmosSender :=
  initSender nmosId (str "data") (·.dport)

/-- `__extVideoFlowInit`, with `_yComponent` and those behind it. -/
def extVideoFlowInit (nmosId : Stored) (runCfg : RuntimeCfg) (source : ExtNmosSource) :
    ExtNmosFlow where
  resourceId := initResource nmosId (str "MuxLab raw video from " ++ cstr runCfg.name)
    (str "MuxLab raw video supports NMOS")
  format := .video
  mediaType := snprintf nmosNameLength (str "video/raw")
  colorspace := .bt2100
  frameWidth := 1080
  frameHeight := 720
  interlaceMode := .progressive
  transferCharacter := .sdr
  components :=
    [{ name := .y, width := 1920, height := 1080, bitDepth := 10 },
      { name := .cb, width := 960, height := 1080, bitDepth := 10 },
      { name := .cr, width := 960, height := 1080, bitDepth := 10 }]
  source

/-- `__extAudioFlowInit`. -/
def extAudioFlowInit (nmosId : Stored) (runCfg : RuntimeCfg) (source : ExtNmosSource) :
    ExtNmosFlow where
  resourceId := initResource nmosId (str "MuxLab audio from " ++ cstr runCfg.name)
    (str "MuxLab audio supports NMOS")
  format := .audio
  mediaType := snprintf nmosNameLength (str "audio/L16")
  sampleRate := { denominator := 1, numberator := 48000 }
  bitDepth := 16
  source

/-- `__extDataFlowInit`. -/
def extDataFlowInit (nmosId : Stored) (runCfg : RuntimeCfg) (source : ExtNmosSource) :
    ExtNmosFlow where
  resourceId := initResource nmosId (str "MuxLab data from " ++ cstr runCfg.name)
    (str "MuxLab data supports NMOS")
  format := .data
  mediaType := snprintf nmosNameLength (str "video/smpte291")
  source

/-- `__extVideoSourceInit`. -/
def extVideoSourceInit (nmosId : Stored) (runCfg : RuntimeCfg) : ExtNmosSource where
  resourceId := initResource nmosId (str "MuxLab raw video from " ++ cstr runCfg.name)
    (str "MuxLab raw video supports NMOS")
  clockIndex := 0
  format := .video
  gRate := { denominator := 1, numberator := 60 }

/-- `__extAudioSourceInit`, with `_extNmosAudioChannelInit`. -/
def extAudioSourceInit (nmosId : Stored) (runCfg : RuntimeCfg) : ExtNmosSource where
  resourceId := initResource nmosId (str "MuxLab audio stream from " ++ cstr runCfg.name)
    (str "MuxLab audio stream supports NMOS")
  clockIndex := 0
  format := .audio
  gRate := { denominator := 1, numberator := 60 }
  audioChannels :=
    [{ label := snprintf nmosNameLength (str "Left Channel"), symbol := .l },
      { label := snprintf nmosNameLength (str "Right Channel"), symbol := .r }]

/-- `__extDataSourceInit`. -/
def extDataSourceInit (nmosId : Stored) (runCfg : RuntimeCfg) : ExtNmosSource where
  resourceId := initResource nmosId (str "MuxLab data stream from " ++ cstr runCfg.name)
    (str "MuxLab data stream supports NMOS")
  clockIndex := 0
  format := .data

/-- `_extNmosSourceInit`. `ADD_ELEMENT` puts an element before the others. -/
def extNmosSourceInit (ids : Nat → Stored) (runCfg : RuntimeCfg) (dev : ExtNmosDevice) :
    ExtNmosDevice :=
  let video := extVideoSourceInit (ids 2) runCfg
  let videoFlow := extVideoFlowInit (ids 3) runCfg video
  let audio := extAudioSourceInit (ids 5) runCfg
  let audioFlow := extAudioFlowInit (ids 6) runCfg audio
  let data := extDataSourceInit (ids 8) runCfg
  let dataFlow := extDataFlowInit (ids 9) runCfg data
  { dev with
    senders := [extDataSenderInit (ids 10) runCfg dataFlow,
      extAudioSenderInit (ids 7) runCfg audioFlow, extVideoSenderInit (ids 4) runCfg videoFlow]
    flows := [dataFlow, audioFlow, videoFlow]
    sources := [data, audio, video] }

/-! ### Receivers -/

/-- A receiver of some kind of media. -/
def initReceiver (nmosId : Stored) (kind : Bytes) (format : NmosSourceFormat) (caps : Bytes)
    (runCfg : RuntimeCfg) : ExtNmosReceiver where
  resourceId := initResource nmosId
    (str "MuxLab " ++ kind ++ str " receiver from " ++ cstr runCfg.name)
    (str "MuxLab NMOS " ++ kind ++ str " receiver")
  interface_binding := interfaceName
  format
  caps

/-- `_extNmosReceiversInit`. -/
def extNmosReceiversInit (ids : Nat → Stored) (runCfg : RuntimeCfg) (dev : ExtNmosDevice) :
    ExtNmosDevice :=
  { dev with
    receivers := [initReceiver (ids 4) (str "data") .data (str "video/smpte291") runCfg,
      initReceiver (ids 3) (str "audio") .audio (str "audio/L16") runCfg,
      initReceiver (ids 2) (str "video") .video (str "video/raw") runCfg] }

/-! ### The node -/

/-- `extNmosNodeInit`. -/
def extNmosNodeInit (ids : Nat → Stored) (httpPort : UInt16) (runCfg : RuntimeCfg) :
    ExtNmosNode where
  resourceId := initResource (ids 0) (str "Label of MuxLab NMOS node")
    (str "Description of MuxLab NMOS node")
  device :=
    let dev : ExtNmosDevice :=
      { resourceId := initResource (ids 1) (str "Label of MuxLab NMOS device")
          (str "Description of MuxLab NMOS device") }
    if extIsTx runCfg then extNmosSourceInit ids runCfg dev
    else extNmosReceiversInit ids runCfg dev
  runCfg
  httpPort

end LwipExt.Nmos
