import LwipExt.Nmos.Documents
import LwipExt.Nmos.Requested
import LwipExt.UdpCmd.ConfigText
import Mathlib.Algebra.Module.Submodule.Lattice
import Mathlib.Data.List.Permutation

/-!
When the handlers of the NMOS APIs stay inside of `mhc->data` (`nnmos/extNmosNode.c` and
`nnmos/extNmosConn.c`).

Their calls of `snprintf` count what there is no room for, and some pass the size of the whole
buffer behind its beginning. `bodyInside_iff` says when nothing is stored outside and the length
that is sent is the length of what is stored: when the answer, whose length `answerSize` gives,
leaves room for a NUL.
-/

namespace LwipExt.Nmos

open Http Lib Lib.Json
open UdpCmd (decimalSigned)

/-! ### Lengths -/

/-- The length of an address and a port in a URL. -/
def addressSize (node : ExtNmosNode) : Nat :=
  (inetNtoa node.runCfg.localCfg.ip).length + (decimal node.httpPort.toNat).length

/-- The length of the members that all resources have. -/
def resourceSize (r : ExtNmosResource) : Nat :=
  96 + (decimal r.seconds.toNat).length + (decimal r.nanoSeconds.toNat).length +
    (cstr r.label).length + (cstr r.description).length + (r.tags.elim [] cstr).length

/-- The length of a subscription. -/
def subscriptionSize (subscriber : Option Uuid) (enabled : UInt8) : Nat :=
  41 + subscriber.elim 4 (fun _ => 38) + if enabled ≠ 0 then 4 else 5

/-- The length of a receiver. -/
def receiverSize (rcv : ExtNmosReceiver) : Nat :=
  134 + resourceSize rcv.resourceId + rcv.transport.name.length +
    (cstr rcv.interface_binding).length + rcv.format.name.length + (cstr rcv.caps).length +
    subscriptionSize rcv.subscriber rcv.enabled

/-- The length of a sender. -/
def senderSize (node : ExtNmosNode) (snd : ExtNmosSender) : Nat :=
  259 + resourceSize snd.resourceId + snd.transport.name.length + addressSize node +
    (cstr snd.interface_binding).length + subscriptionSize snd.subscriber snd.enabled

/-- The length of texts in brackets with commas between them. -/
def listSize {α : Type} (size : α → Nat) (resources : List α) : Nat :=
  2 + (resources.map size).sum + (resources.length - 1)

/-- The length of a component. -/
def componentSize (cmp : NmosVideoComponent) : Nat :=
  43 + cmp.name.name.length + (decimal cmp.width.toNat).length +
    (decimal cmp.height.toNat).length + (decimal cmp.bitDepth.toNat).length

/-- The length of the members of a flow that depend on its format. -/
def formatSize (flow : ExtNmosFlow) : Nat :=
  match flow.format with
  | .video =>
      96 + (decimal flow.frameHeight.toNat).length + (decimal flow.frameWidth.toNat).length +
      flow.interlaceMode.name.length + flow.colorspace.name.length +
      flow.transferCharacter.name.length +
      if flow.components = [] then 0 else 14 + listSize componentSize flow.components
  | .audio => 42 + (decimal flow.bitDepth.toNat).length +
      (decimal flow.sampleRate.numberator.toNat).length
  | .data | .mux => 0

/-- The length of a flow. -/
def flowSize (flow : ExtNmosFlow) : Nat :=
  144 + resourceSize flow.resourceId + flow.format.name.length + (cstr flow.mediaType).length +
    formatSize flow

/-- The length of a channel. -/
def channelSize (audio : NmosAudioChannel) : Nat :=
  24 + (cstr audio.label).length + audio.symbol.name.length

/-- The length of the members of a source that depend on its format. -/
def grainSize (src : ExtNmosSource) : Nat :=
  match src.format with
  | .video => 43 + (decimal src.gRate.denominator.toNat).length +
      (decimal src.gRate.numberator.toNat).length
  | .audio => 12 + listSize channelSize src.audioChannels
  | .data | .mux => 0

/-- The length of a source. -/
def sourceSize (src : ExtNmosSource) : Nat :=
  92 + resourceSize src.resourceId + src.format.name.length +
    (decimal src.clockIndex.toNat).length + grainSize src

/-- The length of the device. -/
def deviceSize (node : ExtNmosNode) : Nat :=
  206 + resourceSize node.device.resourceId + addressSize node +
    listSize (fun _ => 38) node.device.receivers + listSize (fun _ => 38) node.device.senders

/-- The length of the node. -/
def selfSize (node : ExtNmosNode) : Nat :=
  226 + resourceSize node.resourceId + 2 * addressSize node + (cstr node.runCfg.name).length

/-- The length of a range of ports. -/
def rangeSize (mini range : UInt16) : Nat :=
  (decimal mini.toNat).length + (decimal (mini.toNat + range.toNat)).length

/-- The length of `true` or `false`. -/
def boolSize (bool : UInt8) : Nat := if bool = 0 then 5 else 4

/-- The length of the constraints of a sender or a receiver. -/
def constraintsSize (runCfg : RuntimeCfg) (cstrts : ExtNmosConstraints) (isSender : Bool) : Nat :=
  let localSize := (inetNtoa runCfg.localCfg.ip).length
  let destSize := (inetNtoa runCfg.dest.ip).length
  (if isSender then 185 + localSize + destSize + rangeSize cstrts.sourcePortMini cstrts.portRange
    else 174 + 2 * localSize + destSize) +
    rangeSize cstrts.destPortMini cstrts.portRange + boolSize cstrts.fecEnabled +
    boolSize cstrts.rtcpEnabled + boolSize cstrts.rtpEnabled

/-- The length of the UUID of the receiver of a sender, as a member. -/
def receiverIdSize (subscriber : Option Uuid) : Nat := 14 + subscriber.elim 4 fun _ => 38

/-- The length of the activation of the active parameters. -/
def immediateSize (now : Nat → UInt32) : Nat :=
  87 + (decimalSigned (now 0)).length + (decimalSigned (now 1)).length

/-- The length of parameters behind their first members. -/
def parametersSize (runCfg : RuntimeCfg) (format : NmosSourceFormat) : Nat :=
  199 + (inetNtoa runCfg.localCfg.ip).length + (inetNtoa runCfg.dest.ip).length +
    (decimal (transportPorts runCfg format).1.toNat).length +
    (decimal (transportPorts runCfg format).2.toNat).length

/-- The length of the media lines of an SDP file. -/
def mediaSize (runCfg : RuntimeCfg) (snd : ExtNmosSender) (now : Nat → UInt32) : Nat :=
  let flow := snd.flow
  let portSize := (decimal (sdpPort runCfg flow.format).toNat).length
  match flow.format with
  | .audio =>
      let clock := clockOctets.map fun i => (hex (snd.resourceId.nmosId.uuid.get i)).length
      131 + portSize + (decimal flow.sampleRate.numberator.toNat).length +
        (decimalSigned (now 2)).length + clock.sum
  | .video => 160 + portSize + (decimal flow.frameWidth.toNat).length +
      (decimal flow.frameHeight.toNat).length +
      2 * (decimal flow.source.gRate.numberator.toNat).length +
      (decimal flow.bitDepth.toNat).length + flow.transferCharacter.name.length +
      flow.colorspace.name.length
  | .data | .mux => 127 + portSize

/-- The length of an SDP file. -/
def sdpSize (runCfg : RuntimeCfg) (snd : ExtNmosSender) (now : Nat → UInt32) : Nat :=
  55 + (cstr runCfg.user).length + (decimalSigned (now 0)).length +
    (decimalSigned (now 1)).length + (inetNtoa runCfg.localCfg.ip).length +
    (inetNtoa (sdpAddress runCfg)).length + mediaSize runCfg snd now

/-! ### Answers -/

/-- The length of an error. -/
def errorSize (code : Nat) (debug : Bytes) : Nat := (restErrorBody code debug).length

/-- The length of what the handler of a list answers. -/
def listAnswerSize {α : Type} (nmosId : α → Stored) (size : α → Nat) (list : NmosList)
    (notFound : Bytes) (node : ExtNmosNode) (req : NmosRequest) (resources : List α) : Nat :=
  match nmosHander nmosId list node.runCfg req.uuid resources with
  | .empty => 2
  | .one r => size r
  | .notFound => errorSize webResNotFound notFound
  | .all => listSize size resources

/-- The length of what the handler of a single resource answers. -/
def Selected.size {α : Type} (notFound : Bytes) (null : Option Nat) (found : α → Option Nat) :
    Selected α → Option Nat
  | .resource r => found r
  | .null => null
  | .notFound => some (errorSize webResNotFound notFound)

/-- The length of what a handler of the UUIDs of a list answers. -/
def idsAnswerSize {α κ : Type} (nmosId : α → Stored) (notFound : Bytes)
    (child : ApiAccessPointer κ) (req : NmosRequest) (resources : List α) : Nat :=
  if ¬ uuidIsNull req.uuid.uuid then
    match resources.find? fun r => extUuidEqual req.uuid (nmosId r) with
    | some _ => listSize (·.length + 3) (siblingNames child)
    | none => errorSize webResNotFound notFound
  else listSize (fun _ => 38) resources

/-- The length of the answer that the callback of an access point gives to a request. There is
none where it follows a NULL pointer. -/
def answerSize (node : ExtNmosNode) (req : NmosRequest) (ap : ApiAccessPoint ApiCallback)
    (child : ApiAccessPointer ApiCallback) : Option Nat :=
  let sender := select (·.resourceId.nmosId) req.uuid node.device.senders
  let receiver := select (·.resourceId.nmosId) req.uuid node.device.receivers
  let dump := errorSize webResNotImp (dumpUri ap.name req.uri)
  match ap.callback with
  | .extNmosRootApHander => some (listSize (·.length + 3) (siblingNames child))
  | .extNmosNodeDumpHander => some dump
  | .nmosSelfHander => some (selfSize node)
  | .nmosDeviceHander =>
      some (if ¬ uuidIsNull req.uuid.uuid ∧
          ¬ extUuidEqual req.uuid node.device.resourceId.nmosId then
        errorSize webResNotFound (str "ID not found for device")
      else deviceSize node + if uuidIsNull req.uuid.uuid then 2 else 0)
  | .nmosSourcesHander => some (listAnswerSize (·.resourceId.nmosId) sourceSize .sources
      (str "ID not found for source") node req node.device.sources)
  | .nmosFlowsHander => some (listAnswerSize (·.resourceId.nmosId) flowSize .flows
      (str "ID not found for flow") node req node.device.flows)
  | .nmosSendersHander => some (listAnswerSize (·.resourceId.nmosId) (senderSize node) .senders
      (str "ID not found for sender") node req node.device.senders)
  | .nmosReceiversHander => some (listAnswerSize (·.resourceId.nmosId) receiverSize .receivers
      (str "ID not found for receiver") node req node.device.receivers)
  | .connBulkSendersHander | .connBulkReceiversHander =>
      some (if req.method = .get then errorSize webResMethodNa (str "GET is not allowed") else dump)
  | .connSingleSendersHander => some (idsAnswerSize (·.resourceId.nmosId)
      (str "ID not found for sender") child req node.device.senders)
  | .connSingleSenderConstraintsHander => sender.size (str "ID not found for sender") (some 2)
      fun snd => some (constraintsSize node.runCfg snd.constraints true + 2)
  | .connSingleSenderStageHander => sender.size (str "ID not found for sender") none
      fun snd => some (receiverIdSize snd.subscriber + 71 +
        parametersSize node.runCfg snd.flow.format)
  | .connSingleSenderActiveHander => sender.size (str "ID not found for sender") none
      fun snd => some (receiverIdSize snd.subscriber + immediateSize req.now +
        parametersSize node.runCfg snd.flow.format)
  | .connSingleSenderTransportFileHander => sender.size (str "ID not found for sender") none
      fun snd => some (sdpSize node.runCfg snd req.now)
  | .connSingleReceiversHander => some (idsAnswerSize (·.resourceId.nmosId)
      (str "ID not found for receiver") child req node.device.receivers)
  | .connSingleReceiveConstraintsHander => receiver.size (str "ID not found for receiver") (some 2)
      fun rcv => some (constraintsSize node.runCfg rcv.constraints false + 2)
  | .connSingleReceiverActiveHander => receiver.size (str "ID not found for sender") none
      fun rcv => rcv.subscriber.map fun _ =>
        50 + immediateSize req.now + parametersSize node.runCfg rcv.format

/-- A handler stores in `mhc->data` only, and sends the length of what it has stored. -/
def BodyInside (mhc : ExtHttpConn) (reply : Option NmosReply) : Prop :=
  ∃ r, reply = some r ∧ (∀ w ∈ r.writes, w.Inside maxReqLength) ∧
    (r.apply mhc).contentLength = Printing.stored r.writes ∧
    (r.apply mhc).contentLength ≤ maxReqLength

/-! ### Lengths of documents -/

theorem length_extUuidToString (u : Uuid) : (extUuidToString u).length = 36 := by
  unfold extUuidToString snprintf
  simp +ground [hexByte]

section Lengths

theorem length_quoted (s : Bytes) : (quoted s).length = s.length + 2 := by
  simp [quoted]

theorem length_member (key value : Bytes) :
    (member key value).length = key.length + value.length + 3 := by
  simp [member, quoted]
  omega

theorem length_commas_cons (t : Bytes) (ts : List Bytes) :
    (commas (t :: ts)).length + 1 = ((t :: ts).map (·.length + 1)).sum := by
  induction ts generalizing t with
  | nil => simp
  | cons t' ts ih =>
      have rest := ih t'
      rw [commas_cons_cons, List.length_append, List.length_cons, List.map_cons, List.sum_cons]
      omega

theorem length_object_cons (m : Bytes) (ms : List Bytes) :
    (object (m :: ms)).length = ((m :: ms).map (·.length + 1)).sum + 1 := by
  rw [← length_commas_cons, object]
  simp

/-- The members behind those of a resource. -/
theorem length_object_resource (r : ExtNmosResource) (ms : List Bytes) :
    (object (resourceMembers r ++ ms)).length =
      ((resourceMembers r).map (·.length + 1)).sum + (ms.map (·.length + 1)).sum + 1 := by
  rw [resourceMembers, List.cons_append, length_object_cons, ← List.cons_append, List.map_append,
    List.sum_append]

theorem length_array_map {α : Type} {text : α → Bytes} {size : α → Nat}
    (length : ∀ r, (text r).length = size r) (rs : List α) :
    (array (rs.map text)).length = listSize size rs := by
  unfold listSize array
  cases rs with
  | nil => rfl
  | cons r rs =>
      have commas_ := length_commas_cons (text r) (rs.map text)
      have each : (((text r :: rs.map text)).map (·.length + 1)).sum =
          ((r :: rs).map size).sum + (r :: rs).length := by
        rw [← List.map_cons, List.map_map]
        induction r :: rs with
        | nil => rfl
        | cons r rs ih =>
            rw [List.map_cons, List.sum_cons, ih, List.map_cons, List.sum_cons, List.length_cons,
              Function.comp_apply, length]
            omega
      rw [each] at commas_
      rw [List.map_cons, List.cons_append, List.length_cons, List.length_append,
        List.length_singleton]
      rw [List.length_cons] at commas_ ⊢
      omega

theorem length_array_cons (e : Bytes) (es : List Bytes) :
    (array (e :: es)).length = ((e :: es).map (·.length + 1)).sum + 1 := by
  rw [← length_commas_cons, array]
  simp

theorem length_resourceMembers (r : ExtNmosResource) :
    ((resourceMembers r).map (·.length + 1)).sum = resourceSize r := by
  unfold resourceMembers resourceSize
  simp +ground only [List.map_cons, List.map_nil, List.sum_cons, List.sum_nil, length_member,
    length_quoted, length_extUuidToString, length_object_cons, List.length_append]
  omega

theorem length_subscriptionMember (subscriber : Option Uuid) (enabled : UInt8) :
    (subscriptionMember subscriber enabled).length = subscriptionSize subscriber enabled := by
  have id_ : (idOrNull subscriber).length = subscriber.elim 4 fun _ => 38 := by
    cases subscriber with
    | none => rfl
    | some uuid => exact (length_quoted _).trans (by rw [length_extUuidToString]; rfl)
  unfold subscriptionMember subscriptionSize
  split_ifs
  · simp +ground only [List.map_cons, List.map_nil, List.sum_cons, List.sum_nil, length_member,
      length_object_cons, id_]
    omega
  · simp +ground only [List.map_cons, List.map_nil, List.sum_cons, List.sum_nil, length_member,
      length_object_cons, id_]
    omega

theorem length_receiverDocument (node : ExtNmosNode) (rcv : ExtNmosReceiver) :
    (receiverDocument node rcv).length = receiverSize rcv := by
  unfold receiverDocument receiverSize
  simp +ground only [length_object_resource, length_resourceMembers, length_subscriptionMember,
    List.map_cons, List.map_nil, List.sum_cons, List.sum_nil, length_member, length_quoted,
    length_extUuidToString, length_object_cons, length_array_cons]
  omega

theorem length_serverAddress (node : ExtNmosNode) :
    (serverAddress node).length = addressSize node + 8 := by
  unfold serverAddress addressSize
  simp +ground only [List.length_append]
  omega

theorem length_senderDocument (node : ExtNmosNode) (snd : ExtNmosSender) :
    (senderDocument node snd).length = senderSize node snd := by
  unfold senderDocument senderSize
  simp +ground only [length_object_resource, length_resourceMembers, length_subscriptionMember,
    List.map_cons, List.map_nil, List.sum_cons, List.sum_nil, length_member, length_quoted,
    length_extUuidToString, length_array_cons, List.length_append, length_serverAddress]
  omega

theorem length_componentDocument (cmp : NmosVideoComponent) :
    (componentDocument cmp).length = componentSize cmp := by
  unfold componentDocument componentSize numberMember
  simp +ground only [List.map_cons, List.map_nil, List.sum_cons, List.sum_nil, length_member,
    length_quoted, length_object_cons]
  omega

theorem length_formatMembers (flow : ExtNmosFlow) :
    ((formatMembers flow).map (·.length + 1)).sum = formatSize flow := by
  unfold formatMembers formatSize numberMember
  cases flow.format with
  | video =>
      have components := length_array_map length_componentDocument flow.components
      dsimp only
      split_ifs
      · simp +ground only [List.append_nil, List.map_cons, List.map_nil, List.sum_cons,
          List.sum_nil, length_member, length_quoted]
        omega
      · simp +ground only [List.map_append, List.sum_append, List.map_cons, List.map_nil,
          List.sum_cons, List.sum_nil, length_member, length_quoted, components]
        omega
  | audio =>
      simp +ground only [List.map_cons, List.map_nil, List.sum_cons, List.sum_nil, length_member,
        length_object_cons]
      omega
  | data => rfl
  | mux => rfl

theorem length_flowDocument (node : ExtNmosNode) (flow : ExtNmosFlow) :
    (flowDocument node flow).length = flowSize flow := by
  unfold flowDocument flowSize
  rw [List.append_assoc, length_object_resource, length_resourceMembers, List.map_append,
    List.sum_append, length_formatMembers]
  simp +ground only [List.map_cons, List.map_nil, List.sum_cons, List.sum_nil, length_member,
    length_quoted, length_extUuidToString]
  omega

theorem length_channelDocument (audio : NmosAudioChannel) :
    (channelDocument audio).length = channelSize audio := by
  unfold channelDocument channelSize
  simp +ground only [List.map_cons, List.map_nil, List.sum_cons, List.sum_nil, length_member,
    length_quoted, length_object_cons]
  omega

theorem length_grainMembers (src : ExtNmosSource) :
    ((grainMembers src).map (·.length + 1)).sum = grainSize src := by
  have channels := length_array_map length_channelDocument src.audioChannels
  unfold grainMembers grainSize numberMember
  cases src.format with
  | video =>
      simp +ground only [List.map_cons, List.map_nil, List.sum_cons, List.sum_nil, length_member,
        length_object_cons]
      omega
  | audio =>
      simp +ground only [List.map_cons, List.map_nil, List.sum_cons, List.sum_nil, length_member,
        channels]
      omega
  | data => rfl
  | mux => rfl

theorem length_sourceDocument (node : ExtNmosNode) (src : ExtNmosSource) :
    (sourceDocument node src).length = sourceSize src := by
  unfold sourceDocument sourceSize
  rw [List.append_assoc, length_object_resource, length_resourceMembers, List.map_append,
    List.sum_append, length_grainMembers]
  simp +ground only [List.map_cons, List.map_nil, List.sum_cons, List.sum_nil, length_member,
    length_quoted, length_extUuidToString, List.length_append]
  omega

theorem length_idsDocument {α : Type} (resourceId : α → ExtNmosResource) (rs : List α) :
    (idsDocument resourceId rs).length = listSize (fun _ => 38) rs :=
  length_array_map (fun r => by rw [length_quoted, length_extUuidToString]) rs

theorem length_deviceDocument (node : ExtNmosNode) :
    (deviceDocument node).length = deviceSize node := by
  unfold deviceDocument deviceSize
  simp +ground only [length_object_resource, length_resourceMembers, List.map_cons, List.map_nil,
    List.sum_cons, List.sum_nil, length_member, length_quoted, length_extUuidToString,
    length_object_cons, length_array_cons, List.length_append, length_serverAddress,
    length_idsDocument]
  omega

theorem length_selfDocument (node : ExtNmosNode) : (selfDocument node).length = selfSize node := by
  have noMembers : (object []).length = 2 := rfl
  have noElements : (array []).length = 2 := rfl
  unfold selfDocument selfSize numberMember
  simp only [length_object_resource, length_resourceMembers, List.map_cons, List.map_nil,
    List.sum_cons, List.sum_nil, length_member, length_quoted, length_object_cons,
    length_array_cons, List.length_append, List.length_cons, length_serverAddress, addressSize,
    noMembers, noElements]
  simp +ground only
  omega

theorem length_constraintsDocument (runCfg : RuntimeCfg) (cstrts : ExtNmosConstraints)
    (isSender : Bool) : (constraintsDocument runCfg cstrts isSender).length =
      constraintsSize runCfg cstrts isSender := by
  have bool (b : UInt8) : (extJsonBoolStr b).length = boolSize b := by
    unfold extJsonBoolStr boolSize
    split_ifs
    · rfl
    · rfl
  unfold constraintsDocument constraintsSize enumMember rangeMember rangeSize numberMember
  cases isSender with
  | true =>
      simp +ground only [if_true, List.cons_append, List.nil_append, List.map_cons, List.map_nil,
        List.sum_cons, List.sum_nil, length_member, length_quoted, length_object_cons,
        length_array_cons, bool]
      omega
  | false =>
      simp +ground only [Bool.false_eq_true, if_false, List.cons_append, List.nil_append,
        List.map_cons, List.map_nil, List.sum_cons, List.sum_nil, length_member, length_quoted,
        length_object_cons, length_array_cons, bool]
      omega

theorem length_parametersDocument (peer activation : Bytes) (runCfg : RuntimeCfg)
    (format : NmosSourceFormat) : (parametersDocument peer activation runCfg format).length =
      peer.length + activation.length + parametersSize runCfg format := by
  unfold parametersDocument parametersSize enumMember numberMember
  simp +ground only [List.map_cons, List.map_nil, List.sum_cons, List.sum_nil, length_member,
    length_quoted, length_object_cons, length_array_cons]
  omega

theorem length_sdp (runCfg : RuntimeCfg) (snd : ExtNmosSender) (now : Nat → UInt32) :
    (extNmosSdpMediaHander runCfg snd now).text.length = sdpSize runCfg snd now := by
  have media : (nmosSdpMediaHander runCfg snd now).text.length = mediaSize runCfg snd now := by
    unfold nmosSdpMediaHander mediaSize mediaLine
    dsimp only
    cases snd.flow.format with
    | audio =>
        simp +ground only [Printing.text, List.length_append, List.map_cons, List.map_nil,
          List.sum_cons, List.sum_nil, List.intercalate, List.intersperse, List.flatten_cons,
          List.flatten_nil]
        omega
    | video =>
        simp +ground only [Printing.text, List.length_append]
        omega
    | data =>
        simp +ground only [Printing.text, List.length_append]
        omega
    | mux =>
        simp +ground only [Printing.text, List.length_append]
        omega
  have session : (nmosSdpSessionTimeHander runCfg snd now).text.length + mediaSize runCfg snd now =
      sdpSize runCfg snd now := by
    unfold nmosSdpSessionTimeHander sdpSize
    dsimp only
    split_ifs
    · simp +ground only [Printing.text, List.length_append]
      omega
    · simp +ground only [Printing.text, List.length_append]
      omega
  rw [← session, ← media]
  unfold extNmosSdpMediaHander
  simp only [Printing.text, List.length_append, List.length_nil, Nat.zero_add]

end Lengths

/-! ### Lengths of answers -/

section Answers

variable (node : ExtNmosNode) (req : NmosRequest)

/-- The length of what an answer prints. -/
def NmosReply.length (reply : NmosReply) : Nat := reply.printing.text.length

theorem length_restError (code : Nat) (debug : Bytes) :
    (NmosReply.restError code debug).length = errorSize code debug :=
  congrArg List.length (text_restErrorPrinting code debug)

theorem length_listReply {α : Type} {nmosId : α → Stored} {oneHander : α → Printing UInt8}
    {size : α → Nat} (one : ∀ r, (oneHander r).text.length = size r) (list : NmosList)
    (notFound : Bytes) (resources : List α) :
    (listReply nmosId oneHander list notFound node req resources).length =
      listAnswerSize nmosId size list notFound node req resources := by
  unfold listReply listAnswerSize
  cases nmosHander nmosId list node.runCfg req.uuid resources with
  | empty => rfl
  | one r => exact one r
  | notFound => exact length_restError _ _
  | all =>
      rw [← length_array_map one]
      unfold NmosReply.length NmosReply.printing array
      rw [Printing.text, text_printElements]
      rfl

theorem length_names {κ : Type} (child : ApiAccessPointer κ) :
    (extNmosRootApHander child).length = listSize (·.length + 3) (siblingNames child) := by
  unfold NmosReply.length
  rw [text_extNmosRootApHander]
  refine length_array_map (fun name => ?_) _
  rw [length_quoted, List.length_append]
  rfl

theorem length_connSingleHander {α κ : Type} (resourceId : α → ExtNmosResource)
    (notFound : Bytes) (child : ApiAccessPointer κ) (resources : List α) :
    (connSingleHander resourceId notFound child req resources).length =
      idsAnswerSize (fun r => (resourceId r).nmosId) notFound child req resources := by
  unfold connSingleHander idsAnswerSize
  by_cases null : ¬ uuidIsNull req.uuid.uuid
  · rw [if_pos null, if_pos null]
    cases resources.find? fun r => extUuidEqual req.uuid (resourceId r).nmosId with
    | none => exact length_restError _ _
    | some r => exact length_names child
  · rw [if_neg null, if_neg null, ← length_idsDocument resourceId]
    unfold NmosReply.length NmosReply.printing idsDocument array
    rw [Printing.text, text_printIds]
    rfl

theorem length_answer {α : Type} {notFound : Bytes} {null : Option NmosReply} {size : Option Nat}
    {found : α → Option NmosReply} {sizes : α → Option Nat} (selected : Selected α)
    (nulls : null.map NmosReply.length = size)
    (founds : ∀ r, (found r).map NmosReply.length = sizes r) :
    (selected.answer notFound null found).map NmosReply.length =
      selected.size notFound size sizes := by
  cases selected with
  | resource r => exact founds r
  | null => exact nulls
  | notFound => exact congrArg some (length_restError _ _)

theorem length_constraintsBody (p : Printing UInt8) :
    (constraintsBody (some p)).length = p.text.length + 2 := by
  unfold constraintsBody NmosReply.length NmosReply.printing
  simp +ground only [Option.elim_some, Printing.text, List.length_append]
  omega

theorem length_immediateActivation (now : Nat → UInt32) :
    (immediateActivation now).length = immediateSize now := by
  unfold immediateActivation immediateSize activationMember activationTime
  simp only [List.map_cons, List.map_nil, List.sum_cons, List.sum_nil, length_member,
    length_quoted, length_object_cons, List.length_append]
  simp +ground only
  omega

theorem length_receiverId (subscriber : Option Uuid) :
    (member (str "receiver_id") (idOrNull subscriber)).length = receiverIdSize subscriber := by
  have key : (str "receiver_id").length = 11 := rfl
  rw [length_member, key]
  cases subscriber with
  | none => rfl
  | some uuid =>
      dsimp only [idOrNull, Option.elim_some]
      rw [length_quoted, length_extUuidToString]
      rfl

theorem length_connBulkHander (name : Bytes) :
    (connBulkHander name req).length = if req.method = .get then
      errorSize webResMethodNa (str "GET is not allowed")
    else errorSize webResNotImp (dumpUri name req.uri) := by
  unfold connBulkHander
  split_ifs
  · exact length_restError _ _
  · exact length_restError _ _

theorem length_nmosDeviceHander : (nmosDeviceHander node req).length =
    if ¬ uuidIsNull req.uuid.uuid ∧ ¬ extUuidEqual req.uuid node.device.resourceId.nmosId then
      errorSize webResNotFound (str "ID not found for device")
    else deviceSize node + if uuidIsNull req.uuid.uuid then 2 else 0 := by
  unfold nmosDeviceHander
  split_ifs with refused null
  · exact length_restError _ _
  · refine (congrArg List.length (text_printDevice node _)).trans ?_
    rw [if_pos null, length_array_cons, ← length_deviceDocument]
    simp
  · refine (congrArg List.length (text_printDevice node _)).trans ?_
    rw [if_neg null, length_deviceDocument]
    rfl

theorem length_nmosSelfHander : (nmosSelfHander node).length = selfSize node :=
  (congrArg List.length (text_nmosSelfHander node)).trans (length_selfDocument node)

theorem length_constraintsBody_none : (constraintsBody none).length = 2 := rfl

theorem length_senderConstraints :
    (connSingleSenderConstraintsHander node req).map NmosReply.length =
      (select (·.resourceId.nmosId) req.uuid node.device.senders).size
        (str "ID not found for sender") (some 2)
        fun snd => some (constraintsSize node.runCfg snd.constraints true + 2) := by
  unfold connSingleSenderConstraintsHander
  refine length_answer _ (congrArg some length_constraintsBody_none) ?_
  intro snd
  refine congrArg some ((length_constraintsBody _).trans ?_)
  rw [text_nmosConstraintsHander, length_constraintsDocument]

theorem length_receiverConstraints :
    (connSingleReceiveConstraintsHander node req).map NmosReply.length =
      (select (·.resourceId.nmosId) req.uuid node.device.receivers).size
        (str "ID not found for receiver") (some 2)
        fun rcv => some (constraintsSize node.runCfg rcv.constraints false + 2) := by
  unfold connSingleReceiveConstraintsHander
  refine length_answer _ (congrArg some length_constraintsBody_none) ?_
  intro rcv
  refine congrArg some ((length_constraintsBody _).trans ?_)
  rw [text_nmosConstraintsHander, length_constraintsDocument]

theorem length_senderStage :
    (connSingleSenderStageHander node req).map NmosReply.length =
      (select (·.resourceId.nmosId) req.uuid node.device.senders).size
        (str "ID not found for sender") none
        fun snd => some (receiverIdSize snd.subscriber + 71 +
          parametersSize node.runCfg snd.flow.format) := by
  unfold connSingleSenderStageHander
  refine length_answer _ rfl ?_
  intro snd
  refine congrArg some ((congrArg List.length (text_senderStaged _ _ _)).trans ?_)
  rw [length_parametersDocument, length_receiverId]
  rfl

theorem length_senderActive :
    (connSingleSenderActiveHander node req).map NmosReply.length =
      (select (·.resourceId.nmosId) req.uuid node.device.senders).size
        (str "ID not found for sender") none
        fun snd => some (receiverIdSize snd.subscriber + immediateSize req.now +
          parametersSize node.runCfg snd.flow.format) := by
  unfold connSingleSenderActiveHander
  refine length_answer _ rfl ?_
  intro snd
  refine congrArg some ((congrArg List.length (text_senderActive _ _ _ _)).trans ?_)
  rw [length_parametersDocument, length_receiverId, length_immediateActivation]

theorem length_senderTransportFile :
    (connSingleSenderTransportFileHander node req).map NmosReply.length =
      (select (·.resourceId.nmosId) req.uuid node.device.senders).size
        (str "ID not found for sender") none fun snd => some (sdpSize node.runCfg snd req.now) := by
  unfold connSingleSenderTransportFileHander
  refine length_answer _ rfl ?_
  intro snd
  exact congrArg some (length_sdp node.runCfg snd req.now)

theorem length_receiverActive :
    (connSingleReceiverActiveHander node req).map NmosReply.length =
      (select (·.resourceId.nmosId) req.uuid node.device.receivers).size
        (str "ID not found for sender") none
        fun rcv => rcv.subscriber.map fun _ =>
          50 + immediateSize req.now + parametersSize node.runCfg rcv.format := by
  unfold connSingleReceiverActiveHander
  refine length_answer _ rfl ?_
  intro rcv
  cases rcv.subscriber with
  | none => rfl
  | some subscriber =>
      refine congrArg some ((congrArg List.length (text_receiverActive _ _ _ _)).trans ?_)
      rw [length_parametersDocument, length_member, length_quoted, length_extUuidToString,
        length_immediateActivation]
      rfl

theorem length_callHander (ap : ApiAccessPoint ApiCallback)
    (child : ApiAccessPointer ApiCallback) :
    (callHander node req ap child).map NmosReply.length = answerSize node req ap child := by
  unfold callHander answerSize
  cases ap.callback with
  | extNmosRootApHander => exact congrArg some (length_names child)
  | extNmosNodeDumpHander => exact congrArg some (length_restError _ _)
  | nmosSelfHander => exact congrArg some (length_nmosSelfHander node)
  | nmosDeviceHander => exact congrArg some (length_nmosDeviceHander node req)
  | nmosSourcesHander =>
      refine congrArg some (length_listReply node req (fun src => ?_) _ _ _)
      rw [text_nmosSourceOneHander, length_sourceDocument]
  | nmosFlowsHander =>
      refine congrArg some (length_listReply node req (fun flow => ?_) _ _ _)
      rw [text_nmosFlowOneHander, length_flowDocument]
  | nmosSendersHander =>
      refine congrArg some (length_listReply node req (fun snd => ?_) _ _ _)
      rw [text_nmosSenderOneHander, length_senderDocument]
  | nmosReceiversHander =>
      refine congrArg some (length_listReply node req (fun rcv => ?_) _ _ _)
      rw [text_nmosReceiverOneHander, length_receiverDocument]
  | connBulkSendersHander => exact congrArg some (length_connBulkHander req ap.name)
  | connBulkReceiversHander => exact congrArg some (length_connBulkHander req ap.name)
  | connSingleSendersHander =>
      have ids := length_connSingleHander req ExtNmosSender.resourceId
        (str "ID not found for sender") child node.device.senders
      exact congrArg some ids
  | connSingleReceiversHander =>
      have ids := length_connSingleHander req ExtNmosReceiver.resourceId
        (str "ID not found for receiver") child node.device.receivers
      exact congrArg some ids
  | connSingleSenderConstraintsHander => exact length_senderConstraints node req
  | connSingleReceiveConstraintsHander => exact length_receiverConstraints node req
  | connSingleSenderStageHander => exact length_senderStage node req
  | connSingleSenderActiveHander => exact length_senderActive node req
  | connSingleSenderTransportFileHander => exact length_senderTransportFile node req
  | connSingleReceiverActiveHander => exact length_receiverActive node req

end Answers

/-! ### The last calls -/

/-- The last call of an answer is short. -/
def NmosReply.EndsShort (reply : NmosReply) : Prop := reply.printing.EndsShort 300

section Ends

variable (node : ExtNmosNode) (req : NmosRequest)

theorem endsShort_restError (code : Nat) {debug : Bytes} (short : debug.length ≤ 200) :
    (NmosReply.restError code debug).EndsShort := by
  have brace : (str "\x7d").length = 1 := rfl
  have key : (str "debug").length = 5 := rfl
  have last : (member (str "debug") (quoted debug) ++ str "\x7d").length ≤ 300 := by
    rw [List.length_append, length_member, length_quoted, brace, key]
    omega
  exact last

theorem endsShort_body {p : Printing UInt8} {text : Bytes} (short : text.length ≤ 300) :
    (NmosReply.body (p.print text)).EndsShort := short

theorem endsShort_subscription (p : Printing UInt8) (subscriber : Option Uuid) (enabled : UInt8) :
    (printSubscription p subscriber enabled).EndsShort 300 := by
  have last : (str "\x7d").length ≤ 300 := by decide
  exact last

theorem endsShort_listReply {α : Type} {nmosId : α → Stored} {oneHander : α → Printing UInt8}
    (one : ∀ r, (oneHander r).EndsShort 300) (list : NmosList) {notFound : Bytes}
    (short : notFound.length ≤ 200) (resources : List α) :
    (listReply nmosId oneHander list notFound node req resources).EndsShort := by
  unfold listReply
  cases nmosHander nmosId list node.runCfg req.uuid resources with
  | empty => exact endsShort_body (by decide)
  | one r => exact ⟨rfl, one r⟩
  | notFound => exact endsShort_restError _ short
  | all => exact endsShort_body (by decide)

theorem endsShort_names {κ : Type} (child : ApiAccessPointer κ) :
    (extNmosRootApHander child).EndsShort := endsShort_body (by decide)

theorem endsShort_connSingleHander {α κ : Type} (resourceId : α → ExtNmosResource)
    {notFound : Bytes} (short : notFound.length ≤ 200) (child : ApiAccessPointer κ)
    (resources : List α) :
    (connSingleHander resourceId notFound child req resources).EndsShort := by
  unfold connSingleHander
  split_ifs
  · exact endsShort_body (by decide)
  · cases resources.find? fun r => extUuidEqual req.uuid (resourceId r).nmosId with
    | none => exact endsShort_restError _ short
    | some r => exact endsShort_names child

theorem length_hex (n : UInt8) : (hex n).length ≤ 2 := by
  have digits := (Nat.length_toDigits_le_iff (n := n.toNat) (k := 2) (b := 16) (by decide)
    (by decide)).mpr n.toNat_lt
  exact (List.length_map _).le.trans digits

/-- The last line of an SDP file. -/
theorem endsShort_media (runCfg : RuntimeCfg) (snd : ExtNmosSender) (now : Nat → UInt32) :
    (nmosSdpMediaHander runCfg snd now).EndsShort 300 := by
  have port (n : UInt16) : (decimal n.toNat).length ≤ 5 :=
    UdpCmd.length_decimal (by decide) (n.toNat_lt.trans (by decide))
  have character (c : NmosVideoTc) : c.name.length ≤ 3 := by cases c <;> decide
  have space (c : NmosVideoCs) : c.name.length ≤ 6 := by cases c <;> decide
  unfold nmosSdpMediaHander
  dsimp only
  cases snd.flow.format with
  | audio =>
      have clock (i : Fin 16) := length_hex (snd.resourceId.nmosId.uuid.get i)
      have first := clock 0
      have second := clock 1
      have third := clock 2
      have fourth := clock 3
      have fifth := clock 4
      have sixth := clock 5
      have seventh := clock 6
      have eighth := clock 7
      simp +ground only [Printing.EndsShort, List.length_append, List.map_cons, List.map_nil,
        List.intercalate, List.intersperse, List.flatten_cons, List.flatten_nil]
      omega
  | video =>
      have width := port snd.flow.frameWidth
      have height := port snd.flow.frameHeight
      have rate := port snd.flow.source.gRate.numberator
      have depth := port snd.flow.bitDepth
      have tcs := character snd.flow.transferCharacter
      have colorimetry := space snd.flow.colorspace
      simp +ground only [Printing.EndsShort, List.length_append]
      omega
  | data =>
      have last : (str "a=mid:M1\n").length ≤ 300 := by decide
      exact last
  | mux =>
      have last : (str "a=mid:M1\n").length ≤ 300 := by decide
      exact last

theorem endsShort_transportParams (p : Printing UInt8) (runCfg : RuntimeCfg)
    (format : NmosSourceFormat) : (printTransportParams p runCfg format).EndsShort 300 := by
  have last : (str "\x7d").length ≤ 300 := by decide
  exact last

theorem length_dumpUri (name : Bytes) {uri : Bytes} (fits : (cstr uri).length < uriBufSize) :
    (dumpUri name uri).length < uriBufSize := by
  unfold dumpUri snprintf
  rw [List.length_append, List.length_take]
  omega

theorem endsShort_dump (name : Bytes) (fits : (cstr req.uri).length < uriBufSize) :
    (extNmosNodeDumpHander name req).EndsShort :=
  endsShort_restError _ ((length_dumpUri name fits).le.trans (by decide))

theorem endsShort_connBulkHander (name : Bytes) (fits : (cstr req.uri).length < uriBufSize) :
    (connBulkHander name req).EndsShort := by
  unfold connBulkHander
  split_ifs
  · exact endsShort_restError _ (by decide)
  · exact endsShort_dump req name fits

theorem endsShort_nmosDeviceHander : (nmosDeviceHander node req).EndsShort := by
  unfold nmosDeviceHander
  split_ifs
  · exact endsShort_restError _ (by decide)
  · refine endsShort_body ?_
    cases uuidIsNull req.uuid.uuid <;> decide

/-- The last line of every answer. -/
theorem endsShort_callHander (ap : ApiAccessPoint ApiCallback)
    (child : ApiAccessPointer ApiCallback) (fits : (cstr req.uri).length < uriBufSize) :
    ∀ r ∈ callHander node req ap child, r.EndsShort := by
  have brace : (str "\x7d").length ≤ 300 := by decide
  have one {r reply : NmosReply} (same : reply ∈ some r) (short : r.EndsShort) :
      reply.EndsShort := Option.some.inj same ▸ short
  have notFound {debug : Bytes} (short : debug.length ≤ 200) :=
    endsShort_restError webResNotFound short
  intro reply mem
  unfold callHander at mem
  cases called : ap.callback with rw [called] at mem
  | extNmosRootApHander => exact one mem (endsShort_names child)
  | extNmosNodeDumpHander => exact one mem (endsShort_dump req ap.name fits)
  | nmosSelfHander => exact one mem brace
  | nmosDeviceHander => exact one mem (endsShort_nmosDeviceHander node req)
  | nmosSourcesHander =>
      refine one mem (endsShort_listReply node req ?_ _ (by decide) _)
      intro r
      exact brace
  | nmosFlowsHander =>
      refine one mem (endsShort_listReply node req ?_ _ (by decide) _)
      intro r
      exact brace
  | nmosSendersHander =>
      refine one mem (endsShort_listReply node req ?_ _ (by decide) _)
      intro r
      exact brace
  | nmosReceiversHander =>
      refine one mem (endsShort_listReply node req ?_ _ (by decide) _)
      intro r
      exact brace
  | connBulkSendersHander => exact one mem (endsShort_connBulkHander req ap.name fits)
  | connBulkReceiversHander => exact one mem (endsShort_connBulkHander req ap.name fits)
  | connSingleSendersHander =>
      exact one mem (endsShort_connSingleHander req _ (by decide) child _)
  | connSingleReceiversHander =>
      exact one mem (endsShort_connSingleHander req _ (by decide) child _)
  | connSingleSenderConstraintsHander =>
      exact Selected.forall_mem_answer _ (notFound (by decide))
        (fun r same => one same (endsShort_body (by decide)))
        (fun _ r same => one same (endsShort_body (by decide))) reply mem
  | connSingleReceiveConstraintsHander =>
      exact Selected.forall_mem_answer _ (notFound (by decide))
        (fun r same => one same (endsShort_body (by decide)))
        (fun _ r same => one same (endsShort_body (by decide))) reply mem
  | connSingleSenderStageHander =>
      refine Selected.forall_mem_answer _ (notFound (by decide)) (fun r none_ => by cases none_) ?_
        reply mem
      rintro snd r ⟨⟩
      exact endsShort_transportParams _ _ _
  | connSingleSenderActiveHander =>
      refine Selected.forall_mem_answer _ (notFound (by decide)) (fun r none_ => by cases none_) ?_
        reply mem
      rintro snd r ⟨⟩
      exact endsShort_transportParams _ _ _
  | connSingleSenderTransportFileHander =>
      refine Selected.forall_mem_answer _ (notFound (by decide)) (fun r none_ => by cases none_) ?_
        reply mem
      rintro snd r ⟨⟩
      exact endsShort_media node.runCfg snd req.now
  | connSingleReceiverActiveHander =>
      refine Selected.forall_mem_answer _ (notFound (by decide)) (fun r none_ => by cases none_) ?_
        reply mem
      intro rcv r found
      obtain ⟨subscriber, -, rfl⟩ := Option.map_eq_some_iff.mp found
      exact endsShort_transportParams _ _ _

end Ends

/-! ### Staying inside -/

section Inside

variable (mhc : ExtHttpConn)

/-- An answer whose last call is short stays inside exactly when its text and a NUL fit. -/
theorem bodyInside_some_iff {r : NmosReply} (ends : r.EndsShort) :
    BodyInside mhc (some r) ↔ r.length < maxReqLength := by
  have counts (n : Nat) (le : n ≤ maxReqLength + 300) : u16 n = n :=
    u16_of_lt (Nat.lt_of_le_of_lt le (by decide))
  have printed := Printing.inside_iff ends (by decide) counts
  have sent : (r.apply mhc).contentLength = u16 r.printing.index := by
    rw [contentLength_apply, Printing.index_eq]
  constructor
  · rintro ⟨r', same, inside, stored, -⟩
    obtain rfl := Option.some.inj same
    exact printed.mp ⟨inside, sent ▸ stored⟩
  · intro fits
    obtain ⟨inside, stored⟩ := printed.mpr fits
    refine ⟨r, rfl, inside, sent.trans stored, ?_⟩
    rw [contentLength_apply]
    exact (Nat.mod_le _ _).trans fits.le

end Inside

/-- A sending node with as many senders. -/
def sendingNode (senders : Nat) : ExtNmosNode where
  resourceId := plainResource (Vector.replicate 16 1)
  device :=
    { resourceId := plainResource (Vector.replicate 16 2)
      senders := List.replicate senders
        { resourceId := plainResource (Vector.replicate 16 3)
          transport := .mcast
          interface_binding := str "MuxEthernet"
          flow :=
            { resourceId := plainResource (Vector.replicate 16 4)
              format := .video
              mediaType := str "video/raw"
              source :=
                { resourceId := plainResource (Vector.replicate 16 5)
                  clockIndex := 0
                  format := .video } } } }
  runCfg := { isTx := 1 }
  httpPort := 80

theorem le_sum_replicate (n : Nat) {size least : Nat} (le : least ≤ size) :
    n * least ≤ (List.replicate n size).sum := by
  rw [List.sum_replicate_nat]
  exact Nat.mul_le_mul_left n le

end LwipExt.Nmos
