import LwipExt.Nmos.Connection

/-!
What the handlers of the NMOS APIs say: the documents that their answers spell out.

A document is put together from its members and elements, without the offsets and sizes of
`nnmos/extNmosNode.c` and `nnmos/extNmosConn.c`. For each function that prints, a lemma says that
its text is the document.
-/

namespace LwipExt.Nmos

open Http Lib Lib.Json
open UdpCmd (decimalSigned)

/-! ### Documents -/

/-- The members that all resources have. -/
def resourceMembers (resourceId : ExtNmosResource) : List Bytes :=
  [member (str "id") (quoted (extUuidToString resourceId.nmosId.uuid)),
    member (str "version") (quoted (decimal resourceId.seconds.toNat ++ str ":" ++
      decimal resourceId.nanoSeconds.toNat)),
    member (str "label") (quoted (cstr resourceId.label)),
    member (str "description") (quoted (cstr resourceId.description)),
    member (str "tags") (object [resourceId.tags.elim [] cstr])]

/-- The UUID of a resource, or `null`. -/
def idOrNull (uuid : Option Uuid) : Bytes :=
  uuid.elim (str "null") fun uuid => quoted (extUuidToString uuid)

/-- The subscription of a sender or a receiver. -/
def subscriptionMember (subscriber : Option Uuid) (enabled : UInt8) : Bytes :=
  member (str "subscription") (object [member (str "receiver_id") (idOrNull subscriber),
    member (str "active") (if enabled ≠ 0 then str "true" else str "false")])

/-- The address of the HTTP server. -/
def serverAddress (node : ExtNmosNode) : Bytes :=
  str "http://" ++ inetNtoa node.runCfg.localCfg.ip ++ str ":" ++ decimal node.httpPort.toNat

/-- A receiver. -/
def receiverDocument (node : ExtNmosNode) (rcv : ExtNmosReceiver) : Bytes :=
  object (resourceMembers rcv.resourceId ++
    [member (str "device_id") (quoted (extUuidToString node.device.resourceId.nmosId.uuid)),
      member (str "transport") (quoted rcv.transport.name),
      member (str "interface_bindings") (array [quoted (cstr rcv.interface_binding)]),
      member (str "format") (quoted rcv.format.name),
      member (str "caps") (object [member (str "media_types") (array [quoted (cstr rcv.caps)])]),
      subscriptionMember rcv.subscriber rcv.enabled])

/-- A sender. -/
def senderDocument (node : ExtNmosNode) (snd : ExtNmosSender) : Bytes :=
  object (resourceMembers snd.resourceId ++
    [member (str "device_id") (quoted (extUuidToString node.device.resourceId.nmosId.uuid)),
      member (str "flow_id") (quoted (extUuidToString snd.flow.resourceId.nmosId.uuid)),
      member (str "transport") (quoted snd.transport.name),
      member (str "manifest_href") (quoted (serverAddress node ++
        str "/x-nmos/connection/v1.0/single/senders/" ++
        extUuidToString snd.resourceId.nmosId.uuid ++ str "/transportfile")),
      member (str "interface_bindings") (array [quoted (cstr snd.interface_binding)]),
      subscriptionMember snd.subscriber snd.enabled])

/-- A component of a raw video. -/
def componentDocument (cmp : NmosVideoComponent) : Bytes :=
  object [member (str "name") (quoted cmp.name.name),
    numberMember (str "width") cmp.width.toNat, numberMember (str "height") cmp.height.toNat,
    numberMember (str "bit_depth") cmp.bitDepth.toNat]

/-- The members of a flow that depend on its format. -/
def formatMembers (flow : ExtNmosFlow) : List Bytes :=
  match flow.format with
  | .video =>
      [numberMember (str "frame_height") flow.frameHeight.toNat,
        numberMember (str "frame_width") flow.frameWidth.toNat,
        member (str "interlace_mode") (quoted flow.interlaceMode.name),
        member (str "colorspace") (quoted flow.colorspace.name),
        member (str "transfer_characteristic") (quoted flow.transferCharacter.name)] ++
        if flow.components = [] then []
        else [member (str "components") (array (flow.components.map componentDocument))]
  | .audio =>
      [numberMember (str "bit_depth") flow.bitDepth.toNat,
        member (str "sample_rate")
          (object [numberMember (str "numerator") flow.sampleRate.numberator.toNat])]
  | .data | .mux => []

/-- A flow. -/
def flowDocument (node : ExtNmosNode) (flow : ExtNmosFlow) : Bytes :=
  object (resourceMembers flow.resourceId ++
    [member (str "device_id") (quoted (extUuidToString node.device.resourceId.nmosId.uuid)),
      member (str "source_id") (quoted (extUuidToString flow.source.resourceId.nmosId.uuid)),
      member (str "format") (quoted flow.format.name),
      member (str "media_type") (quoted (cstr flow.mediaType)),
      member (str "parents") (array [])] ++ formatMembers flow)

/-- A channel of an audio source. -/
def channelDocument (audio : NmosAudioChannel) : Bytes :=
  object [member (str "label") (quoted (cstr audio.label)),
    member (str "symbol") (quoted audio.symbol.name)]

/-- The members of a source that depend on its format. -/
def grainMembers (src : ExtNmosSource) : List Bytes :=
  match src.format with
  | .video =>
      [member (str "grain_rate")
        (object [numberMember (str "denominator") src.gRate.denominator.toNat,
          numberMember (str "numerator") src.gRate.numberator.toNat])]
  | .audio => [member (str "channels") (array (src.audioChannels.map channelDocument))]
  | .data | .mux => []

/-- A source. -/
def sourceDocument (node : ExtNmosNode) (src : ExtNmosSource) : Bytes :=
  object (resourceMembers src.resourceId ++
    [member (str "device_id") (quoted (extUuidToString node.device.resourceId.nmosId.uuid)),
      member (str "format") (quoted src.format.name),
      member (str "clocks") (quoted (str "clk" ++ decimal src.clockIndex.toNat)),
      member (str "parents") (array [])] ++ grainMembers src)

/-- The UUIDs of a list of resources. -/
def idsDocument {α : Type} (resourceId : α → ExtNmosResource) (resources : List α) : Bytes :=
  array (resources.map fun r => quoted (extUuidToString (resourceId r).nmosId.uuid))

/-- The device. -/
def deviceDocument (node : ExtNmosNode) : Bytes :=
  let dev := node.device
  object (resourceMembers dev.resourceId ++
    [member (str "node_id") (quoted (extUuidToString node.resourceId.nmosId.uuid)),
      member (str "type") (quoted (str "urn:x-nmos:device:generic")),
      member (str "controls") (array [object
        [member (str "href") (quoted (serverAddress node ++ str "/x-nmos/connection/v1.0")),
          member (str "type") (quoted (str "urn:x-nmos:control:sr-ctrl/v1.0"))]]),
      member (str "receivers") (idsDocument (·.resourceId) dev.receivers),
      member (str "senders") (idsDocument (·.resourceId) dev.senders)])

/-- The node, with blanks where the source has them. -/
def selfDocument (node : ExtNmosNode) : Bytes :=
  object (resourceMembers node.resourceId ++
    [member (str "api") (object
        [member (str "endpoints") (array [object
            [member (str "host") (quoted (inetNtoa node.runCfg.localCfg.ip)),
              32 :: numberMember (str "port") node.httpPort.toNat,
              32 :: member (str "protocol") (quoted (str "http"))]]),
          member (str "versions") (array [quoted (str "v1.0"), 32 :: quoted (str "v1.1"),
            32 :: quoted (str "v1.2")])]),
      member (str "caps") (object []),
      member (str "clocks") (array [object [member (str "name") (quoted (str "clk0")),
        member (str "ref_type") (quoted (str "internal"))]]),
      member (str "hostname") (quoted (cstr node.runCfg.name ++ str ".local")),
      member (str "href") (quoted (serverAddress node)),
      member (str "interfaces") (array []),
      member (str "services") (array [])])

/-- The access points below one. -/
def namesDocument {κ : Type} (child : ApiAccessPointer κ) : Bytes :=
  array ((siblingNames child).map fun name => quoted (name ++ str "/"))

/-- The constraints of a sender or a receiver. -/
def constraintsDocument (runCfg : RuntimeCfg) (cstrts : ExtNmosConstraints) (isSender : Bool) :
    Bytes :=
  object (enumMember (str "source_ip") runCfg.localCfg.ip ::
    (if isSender then
      [enumMember (str "destination_ip") runCfg.dest.ip,
        rangeMember (str "source_port") cstrts.sourcePortMini cstrts.portRange]
    else
      [enumMember (str "multicast_ip") runCfg.dest.ip,
        enumMember (str "interface_ip") runCfg.localCfg.ip]) ++
    [rangeMember (str "destination_port") cstrts.destPortMini cstrts.portRange,
      member (str "fec_enabled") (extJsonBoolStr cstrts.fecEnabled),
      member (str "rtcp_enabled") (extJsonBoolStr cstrts.rtcpEnabled),
      member (str "rtp_enabled") (extJsonBoolStr cstrts.rtpEnabled)])

/-- An activation. -/
def activationMember (mode requested activation : Bytes) : Bytes :=
  member (str "activation") (object [member (str "mode") mode,
    member (str "requested_time") requested, member (str "activation_time") activation])

/-- The activation of the active parameters. -/
def immediateActivation (now : Nat → UInt32) : Bytes :=
  activationMember (quoted (str "activate_immediate")) (quoted (activationTime (now 0)))
    (quoted (activationTime (now 1)))

/-- The activation of the staged parameters. -/
def stagedActivation : Bytes := activationMember (str "true") (str "null") (str "null")

/-- The active or staged parameters of a sender or a receiver. -/
def parametersDocument (peer activation : Bytes) (runCfg : RuntimeCfg)
    (format : NmosSourceFormat) : Bytes :=
  object [peer, member (str "master_enable") (str "true"), activation,
    member (str "transport_params") (array [object
      [enumMember (str "source_ip") runCfg.localCfg.ip,
        enumMember (str "destination_ip") runCfg.dest.ip,
        numberMember (str "source_port") (transportPorts runCfg format).1.toNat,
        numberMember (str "destination_port") (transportPorts runCfg format).2.toNat,
        member (str "fec_enabled") (str "false"), member (str "rtcp_enabled") (str "false"),
        member (str "rtp_enabled") (str "true")]])]

/-! ### Loops -/

section Loops

variable {α : Type}

/-- The texts with a comma before each. -/
theorem commas_cons (t : Bytes) (ts : List Bytes) :
    commas (t :: ts) = t ++ ts.flatMap fun t' => 44 :: t' := by
  induction ts generalizing t with
  | nil => rw [commas_singleton, List.flatMap_nil, List.append_nil]
  | cons t' ts ih => rw [commas_cons_cons, ih, List.flatMap_cons, List.cons_append]

/-- A loop that prints a text for each element, and a comma before all but the first. -/
theorem text_loop (loop : Printing UInt8 → Nat → List α → Printing UInt8) (one : α → Bytes)
    (nil : ∀ p i, loop p i [] = p)
    (cons : ∀ p i r rs, ∃ p', loop p i (r :: rs) = loop p' (i + 1) rs ∧
      p'.text = p.text ++ ((if i = 0 then [] else str ",") ++ one r))
    (p : Printing UInt8) (rs : List α) :
    (loop p 0 rs).text = p.text ++ commas (rs.map one) := by
  -- behind the first element
  have rest (rs : List α) : ∀ p i, (loop p (i + 1) rs).text =
      p.text ++ rs.flatMap fun r => 44 :: one r := by
    induction rs with
    | nil =>
        intro p i
        rw [nil, List.flatMap_nil, List.append_nil]
    | cons r rs ih =>
        intro p i
        obtain ⟨p', step, text⟩ := cons p (i + 1) r rs
        rw [step, ih, text, if_neg (Nat.succ_ne_zero i), List.flatMap_cons, List.append_assoc]
        rfl
  cases rs with
  | nil => rw [nil, List.map_nil, commas_nil, List.append_nil]
  | cons r rs =>
      obtain ⟨p', step, text⟩ := cons p 0 r rs
      rw [step, rest, text, if_pos rfl, List.map_cons, commas_cons, List.flatMap_map,
        List.nil_append, List.append_assoc]

@[simp]
theorem text_printElements (oneHander : α → Printing UInt8) (p : Printing UInt8)
    (rs : List α) : (printElements oneHander p 0 rs).text =
      p.text ++ commas (rs.map fun r => (oneHander r).text) := by
  refine text_loop (printElements oneHander) _ (fun _ _ => rfl) (fun p i r rs => ⟨_, rfl, ?_⟩) p rs
  by_cases first : i = 0
  · rw [if_neg (not_not.mpr first), if_pos first]
    rfl
  · rw [if_pos first, if_neg first]
    exact List.append_assoc _ _ _

@[simp]
theorem text_printIds (resourceId : α → ExtNmosResource) (p : Printing UInt8) (rs : List α) :
    (printIds resourceId p 0 rs).text =
      p.text ++ commas (rs.map fun r =>
        quoted (extUuidToString (resourceId r).nmosId.uuid)) :=
  text_loop (printIds resourceId) _ (fun _ _ => rfl) (fun _ _ _ _ => ⟨_, rfl, rfl⟩) p rs

@[simp]
theorem text_printNames (p : Printing UInt8) (names : List Bytes) :
    (printNames p 0 names).text =
      p.text ++ commas (names.map fun name => quoted (name ++ str "/")) := by
  refine text_loop printNames _ (fun _ _ => rfl) (fun p i r rs => ⟨_, rfl, ?_⟩) p names
  by_cases first : i = 0
  · rw [if_neg (not_not.mpr first), if_pos first]
    rfl
  · rw [if_pos first, if_neg first]
    exact List.append_assoc _ _ _

@[simp]
theorem text_printComponents (p : Printing UInt8) (cmps : List NmosVideoComponent) :
    (printComponents p 0 cmps).text = p.text ++ commas (cmps.map componentDocument) := by
  refine text_loop printComponents _ (fun _ _ => rfl) (fun p i cmp rs => ⟨_, rfl, ?_⟩) p cmps
  unfold componentDocument object stringMember
  simp only [Printing.text, comma, commas_cons_cons, commas_singleton, List.append_assoc,
    List.cons_append]
  rfl

@[simp]
theorem text_printChannels (p : Printing UInt8) (channels : List NmosAudioChannel) :
    (printChannels p 0 channels).text = p.text ++ commas (channels.map channelDocument) := by
  refine text_loop printChannels _ (fun _ _ => rfl) (fun p i audio rs => ⟨_, rfl, ?_⟩) p channels
  unfold channelDocument object stringMember
  simp only [Printing.text, comma, commas_cons_cons, commas_singleton, List.append_assoc,
    List.cons_append]
  rfl

end Loops

/-! ### Resources -/

/-- The members of a text that goes on behind a comma. -/
theorem text_nmosPrintResource (resourceId : ExtNmosResource) (more : Bytes) (ms : List Bytes) :
    (nmosPrintResource resourceId).text ++ commas (more :: ms) =
      commas (resourceMembers resourceId ++ more :: ms) := by
  unfold nmosPrintResource resourceMembers stringMember object
  simp only [Printing.text, comma, commas_cons_cons, commas_singleton, List.append_assoc,
    List.cons_append, List.nil_append]
  rfl

theorem text_nmosReceiverOneHander (node : ExtNmosNode) (rcv : ExtNmosReceiver) :
    (nmosReceiverOneHander node rcv).text = receiverDocument node rcv := by
  unfold receiverDocument object
  rw [← text_nmosPrintResource]
  unfold nmosReceiverOneHander printSubscription subscriptionMember stringMember idOrNull object
  simp only [Printing.text, comma, member, commas_cons_cons, commas_singleton, List.append_assoc,
    List.cons_append, List.nil_append]
  rfl

theorem text_nmosSenderOneHander (node : ExtNmosNode) (snd : ExtNmosSender) :
    (nmosSenderOneHander node snd).text = senderDocument node snd := by
  unfold senderDocument object serverAddress
  rw [← text_nmosPrintResource]
  unfold nmosSenderOneHander printSubscription subscriptionMember stringMember idOrNull object
  simp only [Printing.text, comma, member, commas_cons_cons, commas_singleton, List.append_assoc,
    List.cons_append, List.nil_append]
  rfl

theorem text_nmosFlowOneHander (node : ExtNmosNode) (flow : ExtNmosFlow) :
    (nmosFlowOneHander node flow).text = flowDocument node flow := by
  unfold nmosFlowOneHander flowDocument formatMembers printVideo stringMember object
  cases flow.format with
  | video =>
      by_cases none_ : flow.components = []
      · simp only [none_, if_true, Printing.text, ← text_nmosPrintResource, comma, member,
          commas_cons_cons, commas_singleton, List.append_assoc, List.cons_append, List.nil_append]
        rfl
      · simp only [none_, if_false, Printing.text, text_printComponents, ← text_nmosPrintResource,
          comma, member, array, commas_cons_cons, commas_singleton, List.append_assoc,
          List.cons_append, List.nil_append]
        rfl
  | audio =>
      simp only [Printing.text, ← text_nmosPrintResource, comma, member, commas_cons_cons,
        commas_singleton, List.append_assoc, List.cons_append, List.nil_append]
      rfl
  | data =>
      simp only [Printing.text, ← text_nmosPrintResource, comma, member, commas_cons_cons,
        commas_singleton, List.append_assoc, List.cons_append, List.nil_append]
      rfl
  | mux =>
      simp only [Printing.text, ← text_nmosPrintResource, comma, member, commas_cons_cons,
        commas_singleton, List.append_assoc, List.cons_append, List.nil_append]
      rfl

theorem text_nmosSourceOneHander (node : ExtNmosNode) (src : ExtNmosSource) :
    (nmosSourceOneHander node src).text = sourceDocument node src := by
  unfold nmosSourceOneHander sourceDocument grainMembers stringMember object
  cases src.format with
  | video =>
      simp only [Printing.text, ← text_nmosPrintResource, comma, member, commas_cons_cons,
        commas_singleton, List.append_assoc, List.cons_append, List.nil_append]
      rfl
  | audio =>
      simp only [Printing.text, text_printChannels, ← text_nmosPrintResource, comma, member, array,
        commas_cons_cons, commas_singleton, List.append_assoc, List.cons_append, List.nil_append]
      rfl
  | data =>
      simp only [Printing.text, ← text_nmosPrintResource, comma, member, commas_cons_cons,
        commas_singleton, List.append_assoc, List.cons_append, List.nil_append]
      rfl
  | mux =>
      simp only [Printing.text, ← text_nmosPrintResource, comma, member, commas_cons_cons,
        commas_singleton, List.append_assoc, List.cons_append, List.nil_append]
      rfl

/-! ### The device and the node -/

theorem text_printIdList {α : Type} (resourceId : α → ExtNmosResource) (p : Printing UInt8)
    (key behind : Bytes) (resources : List α) :
    (printIdList resourceId p key behind resources).text =
      p.text ++ (member key (idsDocument resourceId resources) ++ behind) := by
  unfold printIdList idsDocument array
  by_cases none_ : resources = []
  · rw [if_pos none_, none_]
    rfl
  · rw [if_neg none_]
    simp only [Printing.text, text_printIds, member, List.append_assoc, List.cons_append]
    rfl

theorem text_printDevice (node : ExtNmosNode) (isArray : Bool) :
    (printDevice node isArray).text =
      if isArray then array [deviceDocument node] else deviceDocument node := by
  unfold printDevice deviceDocument serverAddress stringMember object array
  cases isArray with
  | true =>
      simp only [if_true, Printing.text, text_printIdList, ← text_nmosPrintResource, comma, member,
        commas_cons_cons, commas_singleton, List.append_assoc, List.cons_append, List.nil_append]
      rfl
  | false =>
      simp only [Bool.false_eq_true, if_false, Printing.text, text_printIdList,
        ← text_nmosPrintResource, comma, member, commas_cons_cons, commas_singleton,
        List.append_assoc, List.cons_append, List.nil_append]
      rfl

set_option maxRecDepth 2000 in
theorem text_nmosSelfHander (node : ExtNmosNode) :
    (nmosSelfHander node).printing.text = selfDocument node := by
  unfold nmosSelfHander selfDocument serverAddress stringMember numberMember object array
    NmosReply.printing
  simp only [Printing.text, ← text_nmosPrintResource, comma, member, quoted, commas_cons_cons,
    commas_singleton, List.append_assoc, List.cons_append, List.nil_append]
  rfl

/-! ### Connections -/

theorem text_extNmosRootApHander {κ : Type} (child : ApiAccessPointer κ) :
    (extNmosRootApHander child).printing.text = namesDocument child := by
  unfold extNmosRootApHander namesDocument array NmosReply.printing
  rw [Printing.text, text_printNames]
  rfl

theorem text_nmosConstraintsHander (runCfg : RuntimeCfg) (cstrts : ExtNmosConstraints)
    (isSender : Bool) : (nmosConstraintsHander runCfg cstrts isSender).text =
      constraintsDocument runCfg cstrts isSender := by
  unfold nmosConstraintsHander constraintsDocument object
  cases isSender with
  | true =>
      simp only [if_true, Printing.text, comma, member, commas_cons_cons, commas_singleton,
        List.append_assoc, List.cons_append, List.nil_append]
      rfl
  | false =>
      simp only [Bool.false_eq_true, if_false, Printing.text, comma, member, commas_cons_cons,
        commas_singleton, List.append_assoc, List.cons_append, List.nil_append]
      rfl

/-- The parameters behind their first members. -/
theorem text_parameters {p : Printing UInt8} {peer activation : Bytes} {runCfg : RuntimeCfg}
    (format : NmosSourceFormat)
    (text : p.text = 123 :: (peer ++ 44 :: (member (str "master_enable") (str "true") ++
      44 :: (activation ++ [44])))) :
    (printTransportParams p runCfg format).text =
      parametersDocument peer activation runCfg format := by
  unfold printTransportParams parametersDocument object array
  simp only [Printing.text, text, comma, member, commas_cons_cons, commas_singleton,
    List.append_assoc, List.cons_append, List.nil_append]
  rfl

theorem text_printActivation {p : Printing UInt8} (req : NmosRequest) :
    (printActivation p req).text = p.text ++ (immediateActivation req.now ++ [44]) := by
  unfold printActivation immediateActivation activationMember stringMember object
  simp only [Printing.text, comma, member, commas_cons_cons, commas_singleton, List.append_assoc,
    List.cons_append]
  rfl

theorem text_printStaged {p : Printing UInt8} :
    (printStaged p).text = p.text ++ (stagedActivation ++ [44]) := rfl

theorem text_printSenderId (subscriber : Uuid) : (printSenderId subscriber).text =
    123 :: (member (str "sender_id") (quoted (extUuidToString subscriber)) ++
      44 :: (member (str "master_enable") (str "true") ++ [44])) := by
  unfold printSenderId stringMember
  simp only [Printing.text, comma, List.append_assoc, List.nil_append]
  rfl

theorem text_printReceiverId (subscriber : Option Uuid) : (printReceiverId subscriber).text =
    123 :: (member (str "receiver_id") (idOrNull subscriber) ++
      44 :: (member (str "master_enable") (str "true") ++ [44])) := by
  unfold printReceiverId stringMember
  simp only [Printing.text, comma, List.append_assoc, List.nil_append]
  cases subscriber with
  | none => rfl
  | some uuid =>
      dsimp only [Option.elim_some, idOrNull]
      rw [List.append_assoc]
      rfl

theorem text_receiverActive (req : NmosRequest) (runCfg : RuntimeCfg) (subscriber : Uuid)
    (format : NmosSourceFormat) :
    (printTransportParams (printActivation (printSenderId subscriber) req) runCfg format).text =
      parametersDocument (member (str "sender_id") (quoted (extUuidToString subscriber)))
        (immediateActivation req.now) runCfg format := by
  refine text_parameters format ?_
  rw [text_printActivation, text_printSenderId]
  simp only [List.append_assoc, List.cons_append, List.nil_append]

theorem text_senderActive (req : NmosRequest) (runCfg : RuntimeCfg) (subscriber : Option Uuid)
    (format : NmosSourceFormat) :
    (printTransportParams (printActivation (printReceiverId subscriber) req) runCfg format).text =
      parametersDocument (member (str "receiver_id") (idOrNull subscriber))
        (immediateActivation req.now) runCfg format := by
  refine text_parameters format ?_
  rw [text_printActivation, text_printReceiverId]
  simp only [List.append_assoc, List.cons_append, List.nil_append]

theorem text_senderStaged (runCfg : RuntimeCfg) (subscriber : Option Uuid)
    (format : NmosSourceFormat) :
    (printTransportParams (printStaged (printReceiverId subscriber)) runCfg format).text =
      parametersDocument (member (str "receiver_id") (idOrNull subscriber)) stagedActivation
        runCfg format := by
  refine text_parameters format ?_
  rw [text_printStaged, text_printReceiverId]
  simp only [List.append_assoc, List.cons_append, List.nil_append]

end LwipExt.Nmos
