import LwipExt.Nmos.Node
import LwipExt.UdpCmd.Request

/-!
The handlers of the connection API, and the SDP file of a sender: `nnmos/extNmosConn.c` and
`nnmos/extNmosSdp.c`, with `extNmosRootApHander` and `extNmosNodeDumpHander` of
`nnmos/extNmosHttp.c`.

A handler has no result where it follows a NULL pointer to a sender, a receiver or a subscriber.
-/

namespace LwipExt.Nmos

open Http Lib Lib.Json
open UdpCmd (decimalSigned)

/-- `WEB_RES_METHOD_NA`. -/
def webResMethodNa : Nat := 405

/-! ### Root and unimplemented access points -/

/-- The access points from one on, along `next`. -/
def siblingNames {κ : Type} : ApiAccessPointer κ → List Bytes
  | .null => []
  | .node ap _ next => ap.name :: siblingNames next

/-- The loop of `extNmosRootApHander`. -/
def printNames (index : Printing UInt8) : (i : Nat) → List Bytes → Printing UInt8
  | _, [] => index
  | i, name :: names =>
      let index := if i ≠ 0 then index.print (str ",") else index
      printNames (index.print (quoted (name ++ str "/"))) (i + 1) names

/-- `extNmosRootApHander`, of the access points below its own. -/
def extNmosRootApHander {κ : Type} (child : ApiAccessPointer κ) : NmosReply :=
  .body ((printNames (Printing.start.print (str "[")) 0 (siblingNames child)).print (str "]"))

/-- What `extNmosNodeDumpHander` leaves in `mhc->uri`. -/
def dumpUri (name uri : Bytes) : Bytes :=
  cstr uri ++ snprintf (uriBufSize - (cstr uri).length)
    (str "(" ++ name ++ str ")" ++ str " will be implemented in future")

/-- `extNmosNodeDumpHander`. -/
def extNmosNodeDumpHander (name : Bytes) (req : NmosRequest) : NmosReply :=
  .restError webResNotImp (dumpUri name req.uri)

/-- `_connBulkSendersHander` and `_connBulkReceiversHander`. -/
def connBulkHander (name : Bytes) (req : NmosRequest) : NmosReply :=
  if req.method = .get then .restError webResMethodNa (str "GET is not allowed")
  else extNmosNodeDumpHander name req

/-! ### The resource of a request -/

/-- Which resource a handler is about: one that it found or that is first in its list, none
because the list is empty, or none because no resource has the UUID. -/
inductive Selected (α : Type) where
  | resource (r : α)
  | null
  | notFound

/-- The choice of the handlers for a single resource. -/
def select {α : Type} (nmosId : α → Stored) (uuid : Stored) (resources : List α) : Selected α :=
  if ¬ uuidIsNull uuid.uuid then
    match resources.find? fun resource => extUuidEqual uuid (nmosId resource) with
    | some r => .resource r
    | none => .notFound
  else
    match resources with
    | [] => .null
    | r :: _ => .resource r

/-- The answer of such a handler: an error if no resource has the UUID. -/
def Selected.answer {α : Type} (notFound : Bytes) (null : Option NmosReply)
    (found : α → Option NmosReply) : Selected α → Option NmosReply
  | .resource r => found r
  | .null => null
  | .notFound => some (.restError webResNotFound notFound)

/-- What holds of the error, and of the answers for the resources that there are. -/
theorem Selected.forall_mem_answer {α : Type} {P : NmosReply → Prop} {notFound : Bytes}
    {null : Option NmosReply} {found : α → Option NmosReply} (selected : Selected α)
    (error : P (.restError webResNotFound notFound)) (nulls : ∀ r ∈ null, P r)
    (founds : ∀ a, ∀ r ∈ found a, P r) : ∀ r ∈ selected.answer notFound null found, P r := by
  cases selected with
  | resource a => exact founds a
  | null => exact nulls
  | notFound =>
      rintro r ⟨⟩
      exact error

/-! ### Ports -/

/-- The ports that the active and staged parameters show: those of a video for all formats but
audio. -/
def transportPorts (runCfg : RuntimeCfg) (format : NmosSourceFormat) : UInt16 × UInt16 :=
  match format with
  | .audio => (runCfg.localCfg.aport, runCfg.dest.aport)
  | .video => (runCfg.localCfg.vport, runCfg.dest.vport)
  | .data | .mux => (runCfg.localCfg.vport, runCfg.dest.vport)

/-- The port in the media line of an SDP file. -/
def sdpPort (runCfg : RuntimeCfg) (format : NmosSourceFormat) : UInt16 :=
  match format with
  | .audio => runCfg.localCfg.aport
  | .video => runCfg.localCfg.vport
  | .data | .mux => runCfg.localCfg.dport

/-- The address in the connection line of an SDP file. -/
def sdpAddress (runCfg : RuntimeCfg) : UInt32 :=
  if ipAddrIsMulticast runCfg.dest.ip then runCfg.dest.ip else runCfg.localCfg.ip

/-! ### Constraints -/

/-- `EXT_JSON_BOOL_STR`. -/
def extJsonBoolStr (bool : UInt8) : Bytes := if bool = 0 then str "false" else str "true"

/-- `"key":{"enum":["address"]}`. -/
def enumMember (key : Bytes) (ip : UInt32) : Bytes :=
  member key (object [member (str "enum") (array [quoted (inetNtoa ip)])])

/-- The range of a port, `"key":{"minimum":%d,"maximum":%d}`. -/
def rangeMember (key : Bytes) (mini range : UInt16) : Bytes :=
  member key (object [numberMember (str "minimum") mini.toNat,
    numberMember (str "maximum") (mini.toNat + range.toNat)])

/-- `_nmosConstraintsHander`. -/
def nmosConstraintsHander (runCfg : RuntimeCfg) (cstrts : ExtNmosConstraints) (isSender : Bool) :
    Printing UInt8 :=
  let index := Printing.start
    |>.print (str "\x7b")
    |>.print (comma (enumMember (str "source_ip") runCfg.localCfg.ip))
  let index :=
    if isSender then index
      |>.print (comma (enumMember (str "destination_ip") runCfg.dest.ip))
      |>.print (comma (rangeMember (str "source_port") cstrts.sourcePortMini cstrts.portRange))
    else index
      |>.print (comma (enumMember (str "multicast_ip") runCfg.dest.ip))
      |>.print (comma (enumMember (str "interface_ip") runCfg.localCfg.ip))
  index
    |>.print (comma (rangeMember (str "destination_port") cstrts.destPortMini cstrts.portRange))
    |>.print (comma (member (str "fec_enabled") (extJsonBoolStr cstrts.fecEnabled)))
    |>.print (comma (member (str "rtcp_enabled") (extJsonBoolStr cstrts.rtcpEnabled)))
    |>.print (member (str "rtp_enabled") (extJsonBoolStr cstrts.rtpEnabled))
    |>.print (str "\x7d")

/-- The body of a constraints handler. -/
def constraintsBody (constraints : Option (Printing UInt8)) : NmosReply :=
  let index := Printing.start.print (str "[")
  .body ((constraints.elim index index.callWhole).print (str "]"))

/-- `_connSingleReceiveConstraintsHander`. -/
def connSingleReceiveConstraintsHander (node : ExtNmosNode) (req : NmosRequest) :
    Option NmosReply :=
  (select (·.resourceId.nmosId) req.uuid node.device.receivers).answer
    (str "ID not found for receiver") (some (constraintsBody none)) fun rcv =>
      some (constraintsBody (some (nmosConstraintsHander node.runCfg rcv.constraints false)))

/-- `_connSingleSenderConstraintsHander`. -/
def connSingleSenderConstraintsHander (node : ExtNmosNode) (req : NmosRequest) :
    Option NmosReply :=
  (select (·.resourceId.nmosId) req.uuid node.device.senders).answer
    (str "ID not found for sender") (some (constraintsBody none)) fun snd =>
      some (constraintsBody (some (nmosConstraintsHander node.runCfg snd.constraints true)))

/-! ### Active and staged parameters -/

/-- The time that `"%ld:%d"` shows. -/
def activationTime (now : UInt32) : Bytes := decimalSigned now ++ str ":" ++ decimal 0

/-- The activation of the active parameters. -/
def printActivation (index : Printing UInt8) (req : NmosRequest) : Printing UInt8 :=
  index
    |>.print (str "\"activation\":\x7b")
    |>.print (stringMember (str "mode") (str "activate_immediate"))
    |>.print (stringMember (str "requested_time") (activationTime (req.now 0)))
    |>.print (member (str "activation_time") (quoted (activationTime (req.now 1))) ++ str "\x7d,")

/-- The transport parameters and the end of the text. These calls pass the whole size. -/
def printTransportParams (index : Printing UInt8) (runCfg : RuntimeCfg)
    (format : NmosSourceFormat) : Printing UInt8 :=
  let (srcPort, destPort) := transportPorts runCfg format
  index
    |>.print (str "\"transport_params\":[\x7b")
    |>.printWhole (comma (enumMember (str "source_ip") runCfg.localCfg.ip))
    |>.printWhole (comma (enumMember (str "destination_ip") runCfg.dest.ip))
    |>.printWhole (comma (numberMember (str "source_port") srcPort.toNat))
    |>.printWhole (comma (numberMember (str "destination_port") destPort.toNat))
    |>.printWhole (comma (member (str "fec_enabled") (str "false")))
    |>.printWhole (comma (member (str "rtcp_enabled") (str "false")))
    |>.printWhole (member (str "rtp_enabled") (str "true"))
    |>.print (str "\x7d]")
    |>.print (str "\x7d")

/-- The first members of the parameters of a receiver. -/
def printSenderId (subscriber : Uuid) : Printing UInt8 :=
  Printing.start
    |>.print (str "\x7b")
    |>.print (stringMember (str "sender_id") (extUuidToString subscriber))
    |>.print (comma (member (str "master_enable") (str "true")))

/-- `_connSingleReceiverActiveHander`. -/
def connSingleReceiverActiveHander (node : ExtNmosNode) (req : NmosRequest) : Option NmosReply :=
  (select (·.resourceId.nmosId) req.uuid node.device.receivers).answer
    (str "ID not found for sender") none fun rcv => rcv.subscriber.map fun subscriber =>
      .body (printTransportParams (printActivation (printSenderId subscriber) req) node.runCfg
        rcv.format)

/-- The first members of the parameters of a sender. -/
def printReceiverId (subscriber : Option Uuid) : Printing UInt8 :=
  Printing.start
    |>.print (str "\x7b")
    |>.print (subscriber.elim (str "\"receiver_id\":null,") fun uuid =>
      stringMember (str "receiver_id") (extUuidToString uuid))
    |>.print (comma (member (str "master_enable") (str "true")))

/-- `_connSingleSenderActiveHander`. -/
def connSingleSenderActiveHander (node : ExtNmosNode) (req : NmosRequest) : Option NmosReply :=
  (select (·.resourceId.nmosId) req.uuid node.device.senders).answer
    (str "ID not found for sender") none fun snd =>
      some (.body (printTransportParams (printActivation (printReceiverId snd.subscriber) req)
        node.runCfg snd.flow.format))

/-- The activation of the staged parameters. -/
def printStaged (index : Printing UInt8) : Printing UInt8 :=
  index.print (comma (member (str "activation") (object [member (str "mode") (str "true"),
    member (str "requested_time") (str "null"), member (str "activation_time") (str "null")])))

/-- `_connSingleSenderStageHander`. -/
def connSingleSenderStageHander (node : ExtNmosNode) (req : NmosRequest) : Option NmosReply :=
  (select (·.resourceId.nmosId) req.uuid node.device.senders).answer
    (str "ID not found for sender") none fun snd =>
      some (.body (printTransportParams (printStaged (printReceiverId snd.subscriber))
        node.runCfg snd.flow.format))

/-! ### The SDP file -/

/-- `%x` of a byte. -/
def hex (n : UInt8) : Bytes := Nat.toDigits 16 n.toNat |>.map fun c => UInt8.ofNat c.toNat

/-- `_nmosSdpSessionTimeHander`. -/
def nmosSdpSessionTimeHander (runCfg : RuntimeCfg) (snd : ExtNmosSender) (now : Nat → UInt32) :
    Printing UInt8 :=
  let kind := if snd.flow.format = .audio then str "audio" else str "video"
  Printing.start
    |>.print (str "v=0\n")
    |>.print (str "o=" ++ cstr runCfg.user ++ str " " ++ decimalSigned (now 0) ++ str " " ++
      decimalSigned (now 1) ++ str " IN IP4 " ++ inetNtoa runCfg.localCfg.ip ++ str "\n")
    |>.print (str "s=NMOS " ++ kind ++ str " stream\n")
    |>.print (str "c=IN IP4 " ++ inetNtoa (sdpAddress runCfg) ++ str "/" ++ decimal 1 ++ str "\n")
    |>.print (str "t=0 0\n")

/-- The `m=` line of an SDP file. -/
def mediaLine (media : Bytes) (port : UInt16) (format : Nat) : Bytes :=
  str "m=" ++ media ++ str " " ++ decimal port.toNat ++ str " RTP/AVP " ++ decimal format ++
    str "\n"

/-- `_nmosSdpMediaHander`. -/
def nmosSdpMediaHander (runCfg : RuntimeCfg) (snd : ExtNmosSender) (now : Nat → UInt32) :
    Printing UInt8 :=
  let flow := snd.flow
  let port := sdpPort runCfg flow.format
  match flow.format with
  | .audio =>
      let uuid := snd.resourceId.nmosId.uuid
      let clock := clockOctets.map fun i => hex (uuid.get i)
      Printing.start
        |>.print (mediaLine (str "audio") port 96)
        |>.print (str "a=rtpmap:96 L16/" ++ decimal flow.sampleRate.numberator.toNat ++
          str "/2\n")
        |>.print (str "a=readonly\n")
        |>.print (str "a=ptime:1\n")
        |>.print (str "a=mediaclk:direct=" ++ decimalSigned (now 2) ++ str "\n")
        |>.print (str "a=ts-refclk:ptp=IEEE1588-2008:" ++ List.intercalate (str "-") clock ++
          str ":domain-nmbr=0\n")
  | .video =>
      Printing.start
        |>.print (mediaLine (str "video") port 96)
        |>.print (str "a=rtpmap:96 raw/90000\n")
        |>.print (str "a=fmtp:96 sample=YCbCr-4:2:2;width:" ++ decimal flow.frameWidth.toNat ++
          str ";height:" ++ decimal flow.frameHeight.toNat ++ str ";exactframearte=" ++
          decimal flow.source.gRate.numberator.toNat ++ str "/" ++
          decimal flow.source.gRate.numberator.toNat ++ str ";depth=" ++
          decimal flow.bitDepth.toNat ++ str ";TCS=" ++ flow.transferCharacter.name ++
          str ";colorimetry=" ++ flow.colorspace.name ++
          str ";PM=2119GPM;SSN=\"ST2110-20:2017\"\n")
  | .data | .mux =>
      Printing.start
        |>.print (str "a=group:FID V1 M1\n")
        |>.print (mediaLine (str "video") port 106)
        |>.print (str "a=rtpmap:106 ampte291/90000\n")
        |>.print (str "a=fmtp:106 DID_SDID=\x7b0x61,0x2\x7d;DID_SDID=\x7b0x41,0x5\x7d\n")
        |>.print (str "a=mid:M1\n")

/-- `extNmosSdpMediaHander`. -/
def extNmosSdpMediaHander (runCfg : RuntimeCfg) (snd : ExtNmosSender) (now : Nat → UInt32) :
    Printing UInt8 :=
  Printing.start
    |>.call (nmosSdpSessionTimeHander runCfg snd now)
    |>.call (nmosSdpMediaHander runCfg snd now)

/-- `_connSingleSenderTransportFileHander`. -/
def connSingleSenderTransportFileHander (node : ExtNmosNode) (req : NmosRequest) :
    Option NmosReply :=
  (select (·.resourceId.nmosId) req.uuid node.device.senders).answer
    (str "ID not found for sender") none fun snd =>
      some (.body (Printing.start.call (extNmosSdpMediaHander node.runCfg snd req.now)))

/-! ### Lists -/

/-- `_connSingleSendersHander` and `_connSingleReceiversHander`: with a UUID that is found the
access points below, without one all UUIDs. The former prints a bracket before it looks, which
its answers overwrite. -/
def connSingleHander {α κ : Type} (resourceId : α → ExtNmosResource) (notFound : Bytes)
    (child : ApiAccessPointer κ) (req : NmosRequest) (resources : List α) : NmosReply :=
  if ¬ uuidIsNull req.uuid.uuid then
    match resources.find? fun resource => extUuidEqual req.uuid (resourceId resource).nmosId with
    | some _ => extNmosRootApHander child
    | none => .restError webResNotFound notFound
  else .body ((printIds resourceId (Printing.start.print (str "[")) 0 resources).print (str "]"))

/-! ### Answers -/

/-- The callback of an access point, with what is below it. -/
def callHander (node : ExtNmosNode) (req : NmosRequest) (ap : ApiAccessPoint ApiCallback)
    (child : ApiAccessPointer ApiCallback) : Option NmosReply :=
  match ap.callback with
  | .extNmosRootApHander => some (extNmosRootApHander child)
  | .extNmosNodeDumpHander => some (extNmosNodeDumpHander ap.name req)
  | .nmosSelfHander => some (nmosSelfHander node)
  | .nmosDeviceHander => some (nmosDeviceHander node req)
  | .nmosSourcesHander => some (nmosSourcesHander node req)
  | .nmosFlowsHander => some (nmosFlowsHander node req)
  | .nmosSendersHander => some (nmosSendersHander node req)
  | .nmosReceiversHander => some (nmosReceiversHander node req)
  | .connBulkSendersHander | .connBulkReceiversHander => some (connBulkHander ap.name req)
  | .connSingleSendersHander => some (connSingleHander (·.resourceId)
      (str "ID not found for sender") child req node.device.senders)
  | .connSingleSenderConstraintsHander => connSingleSenderConstraintsHander node req
  | .connSingleSenderStageHander => connSingleSenderStageHander node req
  | .connSingleSenderActiveHander => connSingleSenderActiveHander node req
  | .connSingleSenderTransportFileHander => connSingleSenderTransportFileHander node req
  | .connSingleReceiversHander => some (connSingleHander (·.resourceId)
      (str "ID not found for receiver") child req node.device.receivers)
  | .connSingleReceiveConstraintsHander => connSingleReceiveConstraintsHander node req
  | .connSingleReceiverActiveHander => connSingleReceiverActiveHander node req

/-- What `_extRestApiHandle` does, up to its answer. -/
def restApiReply (node : ExtNmosNode) (req : NmosRequest) :
    ApiAnswer ApiCallback → Option NmosReply
  | .callback (.node ap child _) => callHander node req ap child
  | .callback .null => none
  | .restError code debug => some (.restError code debug)

/-- The calls of `extHttpRestError`. -/
def restErrorPrinting (code : Nat) (debug : Bytes) : Printing UInt8 :=
  Printing.start
    |>.print (str "\x7b" ++ comma (numberMember (str "code") code))
    |>.print (stringMember (str "error") ((statusText code).drop 4))
    |>.print (member (str "debug") (quoted debug) ++ str "\x7d")

/-- What an answer prints into `mhc->data`. -/
def NmosReply.printing : NmosReply → Printing UInt8
  | .body printing => printing
  | .restError code debug => restErrorPrinting code debug

/-- The calls of `snprintf` of an answer that store something. -/
def NmosReply.writes (reply : NmosReply) : List (Write UInt8) :=
  reply.printing.writes 0 (some maxReqLength)

/-- The connection behind an answer. -/
def NmosReply.apply (mhc : ExtHttpConn) (reply : NmosReply) : ExtHttpConn :=
  match reply with
  | .body printing => { mhc with
      data := reply.writes.foldl (fun data w => bufWrite data w.offset (w.text ++ [0])) mhc.data
      contentLength := u16 printing.index
      dataSendIndex := 0
      httpStatusCode := webResRequestOk }
  | .restError code debug => extHttpRestError mhc code debug

theorem text_restErrorPrinting (code : Nat) (debug : Bytes) :
    (restErrorPrinting code debug).text = restErrorBody code debug := by
  unfold restErrorPrinting restErrorBody stringMember numberMember comma member quoted
  simp only [Printing.text, List.append_assoc, List.cons_append, List.nil_append]
  rfl

/-- The length that is sent is what the calls have counted. -/
theorem contentLength_apply (mhc : ExtHttpConn) (reply : NmosReply) :
    (reply.apply mhc).contentLength = u16 reply.printing.text.length := by
  cases reply with
  | body printing =>
      exact congrArg u16 printing.index_eq
  | restError code debug =>
      unfold NmosReply.apply NmosReply.printing
      rw [text_restErrorPrinting]
      rfl

end LwipExt.Nmos
