import LwipExt.Lib.Json
import LwipExt.Lib.Printing
import LwipExt.Nmos.AccessPoint
import LwipExt.Nmos.Uuid

/-!
The resources of an NMOS node (`include/extNmos.h`), and how the node API shows them:
`nnmos/extNmosNode.c`, with the string tables of `nnmos/extNmosUtils.c`.

Every resource belongs to the one device of the node, as `extNmosNodeInit` leaves them. A handler
is given what it reads of the connection, and answers with what it prints into `mhc->data`, or
with an error.
-/

namespace LwipExt.Nmos

open Http Lib Lib.Json

/-! ### Enumerations and their strings -/

/-- `NMOS_SOURCE_FORMAT`. -/
inductive NmosSourceFormat where
  | video
  | audio
  | data
  | mux
  deriving DecidableEq, Repr

/-- `_nmosStringSourceFormats`. -/
def NmosSourceFormat.name : NmosSourceFormat → Bytes
  | .video => str "urn:x-nmos:format:video"
  | .audio => str "urn:x-nmos:format:audio"
  | .data => str "urn:x-nmos:format:data"
  | .mux => str "urn:x-nmos:format:mux"

/-- `NMOS_TRANSPORT_TYPE`. -/
inductive NmosTransportType where
  | rtp
  | ucast
  | mcast
  | dash
  deriving DecidableEq, Repr

/-- `_nmosStringTransports`. -/
def NmosTransportType.name : NmosTransportType → Bytes
  | .rtp => str "urn:x-nmos:transport:rtp"
  | .ucast => str "urn:x-nmos:transport:rtp:ucast"
  | .mcast => str "urn:x-nmos:transport:rtp:mcast"
  | .dash => str "urn:x-nmos:transport:dash"

/-- `NMOS_VIDEO_ILM_T`. -/
inductive NmosVideoIlm where
  | progressive
  | tff
  | bff
  | psf
  deriving DecidableEq, Repr

/-- `_nmosStringInterlaceModes`. -/
def NmosVideoIlm.name : NmosVideoIlm → Bytes
  | .progressive => str "progressive"
  | .tff => str "interlaced_tff"
  | .bff => str "interlaced_bff"
  | .psf => str "interlaced_psf"

/-- `NMOS_VIDEO_CS_T`. -/
inductive NmosVideoCs where
  | bt601
  | bt709
  | bt2022
  | bt2100
  deriving DecidableEq, Repr

/-- `_nmosStringColorSpaces`. -/
def NmosVideoCs.name : NmosVideoCs → Bytes
  | .bt601 => str "BT601"
  | .bt709 => str "BT709"
  | .bt2022 => str "BT2020"
  | .bt2100 => str "BT2100"

/-- `NMOS_VIDEO_TC_T`. -/
inductive NmosVideoTc where
  | sdr
  | hlg
  | pq
  deriving DecidableEq, Repr

/-- `_nmosStringTransferCharacters`. -/
def NmosVideoTc.name : NmosVideoTc → Bytes
  | .sdr => str "SDR"
  | .hlg => str "HLG"
  | .pq => str "PQ"

/-- `NMOS_VIDEO_CMP_TYPE_T`. -/
inductive NmosVideoCmpType where
  | y
  | cb
  | cr
  | i
  | ct
  | cp
  | a
  | r
  | g
  | b
  | depthMap
  deriving DecidableEq, Repr

/-- `_nmosStringVideoComponents`. -/
def NmosVideoCmpType.name : NmosVideoCmpType → Bytes
  | .y => str "Y"
  | .cb => str "Cb"
  | .cr => str "Cr"
  | .i => str "I"
  | .ct => str "Ct"
  | .cp => str "Cp"
  | .a => str "A"
  | .r => str "R"
  | .g => str "G"
  | .b => str "B"
  | .depthMap => str "DepthMap"

/-- `NMOS_AUDIO_CHAN_T`. -/
inductive NmosAudioChan where
  | l
  | r
  | c
  | lfe
  | ls
  | rs
  | lss
  | rss
  | lrs
  | rrs
  | lc
  | rc
  | cs
  | hi
  | vin
  | m1
  | m2
  | lt
  | rt
  | lst
  | rst
  | s
  | nsc
  | undefine
  deriving DecidableEq, Repr

/-- `_nmosStringAudioChannelSymbols`. -/
def NmosAudioChan.name : NmosAudioChan → Bytes
  | .l => str "L"
  | .r => str "R"
  | .c => str "C"
  | .lfe => str "LFE"
  | .ls => str "Ls"
  | .rs => str "Rs"
  | .lss => str "Lss"
  | .rss => str "Rss"
  | .lrs => str "Lrs"
  | .rrs => str "Rrs"
  | .lc => str "Lc"
  | .rc => str "Rc"
  | .cs => str "Cs"
  | .hi => str "HI"
  | .vin => str "VIN"
  | .m1 => str "M1"
  | .m2 => str "M2"
  | .lt => str "Lt"
  | .rt => str "Rt"
  | .lst => str "Lst"
  | .rst => str "Rst"
  | .s => str "S"
  | .nsc => str "NSC"
  | .undefine => str "U"

/-! ### Resources -/

/-- `ExtNmosResource`: its UUID with the memory behind it, its version and its strings. -/
structure ExtNmosResource where
  nmosId : Stored
  seconds : UInt32
  nanoSeconds : UInt32
  label : Bytes
  description : Bytes
  tags : Option Bytes

/-- `ExtNmosConstraints`. -/
structure ExtNmosConstraints where
  sourcePortMini : UInt16 := 0
  destPortMini : UInt16 := 0
  portRange : UInt16 := 0
  rtpEnabled : UInt8 := 0
  rtcpEnabled : UInt8 := 0
  fecEnabled : UInt8 := 0

/-- `grain_rate`. -/
structure GrainRate where
  denominator : UInt8 := 0
  numberator : UInt16 := 0

/-- `NmosAudioChannel`. -/
structure NmosAudioChannel where
  label : Bytes
  symbol : NmosAudioChan

/-- `ExtNmosSource`. -/
structure ExtNmosSource where
  resourceId : ExtNmosResource
  clockIndex : UInt8
  format : NmosSourceFormat
  gRate : GrainRate := {}
  audioChannels : List NmosAudioChannel := []

/-- `NmosVideoComponent`. -/
structure NmosVideoComponent where
  name : NmosVideoCmpType
  width : UInt16
  height : UInt16
  bitDepth : UInt8

/-- `ExtNmosFlow`, with the source that it points to. -/
structure ExtNmosFlow where
  resourceId : ExtNmosResource
  format : NmosSourceFormat
  mediaType : Bytes
  colorspace : NmosVideoCs := .bt601
  frameWidth : UInt16 := 0
  frameHeight : UInt16 := 0
  interlaceMode : NmosVideoIlm := .progressive
  transferCharacter : NmosVideoTc := .sdr
  components : List NmosVideoComponent := []
  sampleRate : GrainRate := {}
  bitDepth : UInt16 := 0
  source : ExtNmosSource

/-- `ExtNmosSender`, with the flow that it points to, and the UUID of its subscriber unless the
pointer is NULL. -/
structure ExtNmosSender where
  resourceId : ExtNmosResource
  transport : NmosTransportType
  interface_binding : Bytes
  constraints : ExtNmosConstraints := {}
  flow : ExtNmosFlow
  subscriber : Option Uuid := none
  enabled : UInt8 := 0

/-- `ExtNmosReceiver`, with the type of its first media and the UUID of its subscriber. -/
structure ExtNmosReceiver where
  resourceId : ExtNmosResource
  transport : NmosTransportType := .rtp
  interface_binding : Bytes
  format : NmosSourceFormat
  caps : Bytes
  constraints : ExtNmosConstraints := {}
  subscriber : Option Uuid := none
  enabled : UInt8 := 0

/-- `ExtNmosDevice`, with its lists from their heads on. -/
structure ExtNmosDevice where
  resourceId : ExtNmosResource
  senders : List ExtNmosSender := []
  receivers : List ExtNmosReceiver := []
  flows : List ExtNmosFlow := []
  sources : List ExtNmosSource := []

/-- `ExtNmosNode`, and the `httpPort` of its `runCfg`. -/
structure ExtNmosNode where
  resourceId : ExtNmosResource
  device : ExtNmosDevice
  runCfg : RuntimeCfg
  httpPort : UInt16

/-- What the handlers read of a connection, and the values that `sys_now` has for them. -/
structure NmosRequest where
  method : Method
  uri : Bytes
  uuid : Stored
  now : Nat → UInt32

/-- What a handler does: print a body, or call `extHttpRestError`. -/
inductive NmosReply where
  | body (printing : Printing UInt8)
  | restError (code : Nat) (debug : Bytes)

/-! ### Printing -/

/-- A text with a comma behind it. -/
def comma (text : Bytes) : Bytes := text ++ str ","

/-- `"key":"value",`, the format of most calls. -/
def stringMember (key value : Bytes) : Bytes := comma (member key (quoted value))

/-- `"key":%d`. -/
def numberMember (key : Bytes) (value : Nat) : Bytes := member key (decimal value)

/-- A loop that prints elements with a comma before each but the first, and passes the callee the
whole size. -/
def printElements {α : Type} (oneHander : α → Printing UInt8) (index : Printing UInt8) :
    (srcIndex : Nat) → List α → Printing UInt8
  | _, [] => index
  | srcIndex, resource :: resources =>
      let index := if srcIndex ≠ 0 then index.print (str ",") else index
      printElements oneHander (index.callWhole (oneHander resource)) (srcIndex + 1) resources

/-- A loop that prints UUIDs in quotes, with a comma before each but the first. -/
def printIds {α : Type} (resourceId : α → ExtNmosResource) (index : Printing UInt8) :
    (i : Nat) → List α → Printing UInt8
  | _, [] => index
  | i, resource :: resources =>
      let text := quoted (extUuidToString (resourceId resource).nmosId.uuid)
      printIds resourceId (index.print ((if i = 0 then [] else str ",") ++ text)) (i + 1) resources

/-- `__nmosPrintResource`. -/
def nmosPrintResource (resourceId : ExtNmosResource) : Printing UInt8 :=
  Printing.start
    |>.print (stringMember (str "id") (extUuidToString resourceId.nmosId.uuid))
    |>.print (stringMember (str "version")
      (decimal resourceId.seconds.toNat ++ str ":" ++ decimal resourceId.nanoSeconds.toNat))
    |>.print (stringMember (str "label") (cstr resourceId.label))
    |>.print (stringMember (str "description") (cstr resourceId.description))
    |>.print (comma (member (str "tags")
      (str "\x7b" ++ (resourceId.tags.elim [] cstr) ++ str "\x7d")))

/-- The subscription of a sender or a receiver, and the end of its text. -/
def printSubscription (index : Printing UInt8) (subscriber : Option Uuid) (enabled : UInt8) :
    Printing UInt8 :=
  index
    |>.print (str "\"subscription\":\x7b\"receiver_id\":")
    |>.print (subscriber.elim (str "null") fun uuid => quoted (extUuidToString uuid))
    |>.print (str "," ++ member (str "active") (if enabled ≠ 0 then str "true" else str "false") ++
      str "\x7d")
    |>.print (str "\x7d")

/-! ### Receivers, senders, flows and sources -/

/-- `_nmosReceiverOneHander`. -/
def nmosReceiverOneHander (node : ExtNmosNode) (rcv : ExtNmosReceiver) : Printing UInt8 :=
  let index := Printing.start
    |>.print (str "\x7b")
    |>.call (nmosPrintResource rcv.resourceId)
    |>.print (stringMember (str "device_id")
      (extUuidToString node.device.resourceId.nmosId.uuid))
    |>.print (stringMember (str "transport") rcv.transport.name)
    |>.print (comma (member (str "interface_bindings")
      (array [quoted (cstr rcv.interface_binding)])))
    |>.print (stringMember (str "format") rcv.format.name)
    |>.print (comma (member (str "caps")
      (object [member (str "media_types") (array [quoted (cstr rcv.caps)])])))
  printSubscription index rcv.subscriber rcv.enabled

/-- `_nmosSenderOneHander`. -/
def nmosSenderOneHander (node : ExtNmosNode) (snd : ExtNmosSender) : Printing UInt8 :=
  let index := Printing.start
    |>.print (str "\x7b")
    |>.call (nmosPrintResource snd.resourceId)
    |>.print (stringMember (str "device_id")
      (extUuidToString node.device.resourceId.nmosId.uuid))
    |>.print (stringMember (str "flow_id") (extUuidToString snd.flow.resourceId.nmosId.uuid))
    |>.print (stringMember (str "transport") snd.transport.name)
    |>.print (stringMember (str "manifest_href")
      (str "http://" ++ inetNtoa node.runCfg.localCfg.ip ++ str ":" ++
        decimal node.httpPort.toNat ++ str "/x-nmos/connection/v1.0/single/senders/" ++
        extUuidToString snd.resourceId.nmosId.uuid ++ str "/transportfile"))
    |>.print (comma (member (str "interface_bindings")
      (array [quoted (cstr snd.interface_binding)])))
  printSubscription index snd.subscriber snd.enabled

/-- A component of a raw video, printed by the loop of `_nmosFlowOneHander`. -/
def printComponents (index : Printing UInt8) :
    (i : Nat) → List NmosVideoComponent → Printing UInt8
  | _, [] => index
  | i, cmp :: cmps =>
      let index := index
        |>.print ((if i = 0 then [] else str ",") ++
          str "\x7b" ++ stringMember (str "name") cmp.name.name)
        |>.print (comma (numberMember (str "width") cmp.width.toNat))
        |>.print (comma (numberMember (str "height") cmp.height.toNat))
        |>.print (numberMember (str "bit_depth") cmp.bitDepth.toNat ++ str "\x7d")
      printComponents index (i + 1) cmps

/-- What `_nmosFlowOneHander` prints of a video. -/
def printVideo (index : Printing UInt8) (flow : ExtNmosFlow) : Printing UInt8 :=
  let index := index
    |>.print (str "," ++ comma (numberMember (str "frame_height") flow.frameHeight.toNat))
    |>.print (comma (numberMember (str "frame_width") flow.frameWidth.toNat))
    |>.print (stringMember (str "interlace_mode") flow.interlaceMode.name)
    |>.print (stringMember (str "colorspace") flow.colorspace.name)
    |>.print (member (str "transfer_characteristic") (quoted flow.transferCharacter.name))
  if flow.components = [] then index
  else
    (printComponents (index.print (str ",\"components\":[")) 0 flow.components).print (str "]")

/-- `_nmosFlowOneHander`. -/
def nmosFlowOneHander (node : ExtNmosNode) (flow : ExtNmosFlow) : Printing UInt8 :=
  let index := Printing.start
    |>.print (str "\x7b")
    |>.call (nmosPrintResource flow.resourceId)
    |>.print (stringMember (str "device_id")
      (extUuidToString node.device.resourceId.nmosId.uuid))
    |>.print (stringMember (str "source_id")
      (extUuidToString flow.source.resourceId.nmosId.uuid))
    |>.print (stringMember (str "format") flow.format.name)
    |>.print (stringMember (str "media_type") (cstr flow.mediaType))
    |>.print (member (str "parents") (str "[]"))
  let index := match flow.format with
    | .video => printVideo index flow
    | .audio => index
        |>.print (str "," ++ numberMember (str "bit_depth") flow.bitDepth.toNat)
        |>.print (str "," ++ member (str "sample_rate")
          (object [numberMember (str "numerator") flow.sampleRate.numberator.toNat]))
    | .data | .mux => index
  index.print (str "\x7d")

/-- The channels of an audio source, printed by the loop of `_nmosSourceOneHander`. -/
def printChannels (index : Printing UInt8) : (i : Nat) → List NmosAudioChannel → Printing UInt8
  | _, [] => index
  | i, audio :: channels =>
      let index := index
        |>.print ((if i = 0 then [] else str ",") ++
          str "\x7b" ++ stringMember (str "label") (cstr audio.label))
        |>.print (member (str "symbol") (quoted audio.symbol.name) ++ str "\x7d")
      printChannels index (i + 1) channels

/-- `_nmosSourceOneHander`. -/
def nmosSourceOneHander (node : ExtNmosNode) (src : ExtNmosSource) : Printing UInt8 :=
  let index := Printing.start
    |>.print (str "\x7b")
    |>.call (nmosPrintResource src.resourceId)
    |>.print (stringMember (str "device_id")
      (extUuidToString node.device.resourceId.nmosId.uuid))
    |>.print (stringMember (str "format") src.format.name)
    |>.print (stringMember (str "clocks") (str "clk" ++ decimal src.clockIndex.toNat))
    |>.print (member (str "parents") (str "[]"))
  let index := match src.format with
    | .video => index.print (str "," ++ member (str "grain_rate")
        (object [numberMember (str "denominator") src.gRate.denominator.toNat,
          numberMember (str "numerator") src.gRate.numberator.toNat]))
    | .audio =>
        (printChannels (index.print (str ",\"channels\":[")) 0 src.audioChannels).print (str "]")
    | .data | .mux => index
  index.print (str "\x7d")

/-- `_nmosReceiversHander` and the handlers of the other lists: `[]` where the node does not show
the list, the one resource with the UUID of the request, or all. -/
def listReply {α : Type} (nmosId : α → Stored) (oneHander : α → Printing UInt8) (list : NmosList)
    (notFound : Bytes) (node : ExtNmosNode) (req : NmosRequest) (resources : List α) : NmosReply :=
  match nmosHander nmosId list node.runCfg req.uuid resources with
  | .empty => .body (Printing.start.print (str "[]"))
  | .one resource => .body (Printing.start.callWhole (oneHander resource))
  | .notFound => .restError webResNotFound notFound
  | .all => .body
      ((printElements oneHander (Printing.start.print (str "[")) 0 resources).print (str "]"))

/-- `_nmosReceiversHander`. -/
def nmosReceiversHander (node : ExtNmosNode) (req : NmosRequest) : NmosReply :=
  listReply (·.resourceId.nmosId) (nmosReceiverOneHander node) .receivers
    (str "ID not found for receiver") node req node.device.receivers

/-- `_nmosSendersHander`. -/
def nmosSendersHander (node : ExtNmosNode) (req : NmosRequest) : NmosReply :=
  listReply (·.resourceId.nmosId) (nmosSenderOneHander node) .senders
    (str "ID not found for sender") node req node.device.senders

/-- `_nmosFlowsHander`. -/
def nmosFlowsHander (node : ExtNmosNode) (req : NmosRequest) : NmosReply :=
  listReply (·.resourceId.nmosId) (nmosFlowOneHander node) .flows
    (str "ID not found for flow") node req node.device.flows

/-- `_nmosSourcesHander`. -/
def nmosSourcesHander (node : ExtNmosNode) (req : NmosRequest) : NmosReply :=
  listReply (·.resourceId.nmosId) (nmosSourceOneHander node) .sources
    (str "ID not found for source") node req node.device.sources

/-! ### The device and the node -/

/-- A list of UUIDs of a device, empty or printed by a loop. -/
def printIdList {α : Type} (resourceId : α → ExtNmosResource) (index : Printing UInt8)
    (key behind : Bytes) (resources : List α) : Printing UInt8 :=
  if resources = [] then index.print (member key (str "[]") ++ behind)
  else
    (printIds resourceId (index.print (quoted key ++ str ":[")) 0 resources).print
      (str "]" ++ behind)

/-- What `_nmosDeviceHander` prints, in brackets if the request has no UUID. -/
def printDevice (node : ExtNmosNode) (isArray : Bool) : Printing UInt8 :=
  let dev := node.device
  let index := Printing.start
    |>.print ((if isArray then str "[" else []) ++ str "\x7b")
    |>.call (nmosPrintResource dev.resourceId)
    |>.print (stringMember (str "node_id") (extUuidToString node.resourceId.nmosId.uuid))
    |>.print (stringMember (str "type") (str "urn:x-nmos:device:generic"))
    |>.print (str "\"controls\":[")
    |>.print (str "\x7b" ++ stringMember (str "href")
      (str "http://" ++ inetNtoa node.runCfg.localCfg.ip ++ str ":" ++
        decimal node.httpPort.toNat ++ str "/x-nmos/connection/v1.0"))
    |>.print (member (str "type") (quoted (str "urn:x-nmos:control:sr-ctrl/v1.0")) ++ str "\x7d")
    |>.print (str "],")
  let index := printIdList (·.resourceId) index (str "receivers") (str ",") dev.receivers
  let index := printIdList (·.resourceId) index (str "senders") [] dev.senders
  index.print (str "\x7d" ++ if isArray then str "]" else [])

/-- `_nmosDeviceHander`. -/
def nmosDeviceHander (node : ExtNmosNode) (req : NmosRequest) : NmosReply :=
  if ¬ uuidIsNull req.uuid.uuid ∧ ¬ extUuidEqual req.uuid node.device.resourceId.nmosId then
    .restError webResNotFound (str "ID not found for device")
  else .body (printDevice node (uuidIsNull req.uuid.uuid))

/-- `_nmosSelfHander`. -/
def nmosSelfHander (node : ExtNmosNode) : NmosReply :=
  let address := inetNtoa node.runCfg.localCfg.ip
  let port := decimal node.httpPort.toNat
  .body <| Printing.start
    |>.print (str "\x7b")
    |>.call (nmosPrintResource node.resourceId)
    |>.print (str "\"api\":\x7b")
    |>.print (str "\"endpoints\":[\x7b\"host\":\"" ++ address ++ str "\", \"port\":" ++ port ++
      str ", \"protocol\":\"http\"\x7d],")
    |>.print (str "\"versions\":[\"v1.0\", \"v1.1\", \"v1.2\"]")
    |>.print (str "\x7d,")
    |>.print (comma (member (str "caps") (str "\x7b\x7d")))
    |>.print (str "\"clocks\":[\x7b\"name\":\"clk0\",\"ref_type\":\"internal\"\x7d],")
    |>.print (stringMember (str "hostname") (cstr node.runCfg.name ++ str ".local"))
    |>.print (stringMember (str "href") (str "http://" ++ address ++ str ":" ++ port))
    |>.print (str "\"interfaces\":[],")
    |>.print (str "\"services\":[]")
    |>.print (str "\x7d")

end LwipExt.Nmos
