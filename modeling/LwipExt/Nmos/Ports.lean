import LwipExt.Cmn.Decimal
import LwipExt.Http.ContentLength
import LwipExt.Http.RestResponse
import LwipExt.Lib.Run
import LwipExt.Nmos.Connection
import LwipExt.Nmos.NodeInit
import LwipExt.UdpCmd.Setup
import Mathlib.Data.List.Permutation

/-!
Whether the handlers of the connection API agree about the ports of a sender or a receiver
(`nnmos/extNmosConn.c`, `nnmos/extNmosSdp.c` and `nnmos/extNmosInit.c`).

The constraints have a copy of the ports of the configuration at start-up, and the active and
staged parameters and the SDP file its ports now. `consistent_iff` says when they agree, behind any
sequence of `set_param` requests.
-/

namespace LwipExt.Nmos

open Http Lib Lib.Json
open UdpCmd (ExtJsonParser extUdpCmdSetupParams)

/-! ### What is reported -/

/-- What a call of `snprintf` prints behind a text that it begins with. -/
def behind (key : Bytes) (p : Printing UInt8) : Option Bytes :=
  p.calls.findSome? fun text =>
    if key.isPrefixOf text then some (text.drop key.length) else none

/-- The port under a key. -/
def portAt (key : Bytes) (p : Printing UInt8) : Option Nat :=
  (behind (quoted key ++ str ":") p).map leadingNat

/-- The minimum and the maximum under a key. -/
def rangeAt (key : Bytes) (p : Printing UInt8) : Option (Nat × Nat) :=
  (behind (quoted key ++ str ":\x7b\"minimum\":") p).map fun text =>
    let maximum := (text.dropWhile Http.isDigit).drop (str ",\"maximum\":").length
    (leadingNat text, leadingNat maximum)

/-- The address that the parameters show as `destination_ip`. -/
def destinationAt (p : Printing UInt8) : Option Bytes :=
  (behind (str "\"destination_ip\":\x7b\"enum\":[\"") p).map (·.takeWhile (· ≠ 34))

/-- The address of the connection line of an SDP file. -/
def sdpAddressAt (p : Printing UInt8) : Option Bytes :=
  (behind (str "c=IN IP4 ") p).map (·.takeWhile (· ≠ 47))

/-- The port of the media line of an SDP file. -/
def sdpPortAt (p : Printing UInt8) : Option Nat :=
  (behind (str "m=") p).map fun text => leadingNat ((text.dropWhile (· ≠ 32)).drop 1)

/-! ### What the handlers print -/

/-- What `_connSingleSenderActiveHander` prints of a sender. -/
def senderActive (node : ExtNmosNode) (req : NmosRequest) (snd : ExtNmosSender) :
    Printing UInt8 :=
  printTransportParams (printActivation (printReceiverId snd.subscriber) req) node.runCfg
    snd.flow.format

/-- What `_connSingleSenderStageHander` prints of a sender. -/
def senderStaged (node : ExtNmosNode) (snd : ExtNmosSender) : Printing UInt8 :=
  printTransportParams (printStaged (printReceiverId snd.subscriber)) node.runCfg snd.flow.format

/-- What `_connSingleReceiverActiveHander` prints of a receiver with a subscriber. -/
def receiverActive (node : ExtNmosNode) (req : NmosRequest) (rcv : ExtNmosReceiver)
    (subscriber : Uuid) : Printing UInt8 :=
  printTransportParams (printActivation (printSenderId subscriber) req) node.runCfg rcv.format

/-- The answers for a sender. -/
theorem sender_answers {node : ExtNmosNode} {req : NmosRequest} {snd : ExtNmosSender}
    (selected : select (·.resourceId.nmosId) req.uuid node.device.senders = .resource snd) :
    connSingleSenderActiveHander node req = some (.body (senderActive node req snd)) ∧
      connSingleSenderStageHander node req = some (.body (senderStaged node snd)) ∧
      connSingleSenderConstraintsHander node req = some (constraintsBody
        (some (nmosConstraintsHander node.runCfg snd.constraints true))) ∧
      connSingleSenderTransportFileHander node req = some (.body
        (Printing.start.call (extNmosSdpMediaHander node.runCfg snd req.now))) := by
  unfold connSingleSenderActiveHander connSingleSenderStageHander connSingleSenderConstraintsHander
    connSingleSenderTransportFileHander
  rw [selected]
  exact ⟨rfl, rfl, rfl, rfl⟩

/-- The answers for a receiver. -/
theorem receiver_answers {node : ExtNmosNode} {req : NmosRequest} {rcv : ExtNmosReceiver}
    (selected : select (·.resourceId.nmosId) req.uuid node.device.receivers = .resource rcv) :
    connSingleReceiverActiveHander node req =
        rcv.subscriber.map (fun subscriber => .body (receiverActive node req rcv subscriber)) ∧
      connSingleReceiveConstraintsHander node req = some (constraintsBody
        (some (nmosConstraintsHander node.runCfg rcv.constraints false))) := by
  unfold connSingleReceiverActiveHander connSingleReceiveConstraintsHander
  rw [selected]
  exact ⟨rfl, rfl⟩

/-! ### Agreement -/

/-- A port that the parameters show under a key is in the range that the constraints show. -/
def Within (key : Bytes) (constraints parameters : Printing UInt8) : Prop :=
  ∀ port ∈ portAt key parameters, ∀ range ∈ rangeAt key constraints,
    range.1 ≤ port ∧ port ≤ range.2

/-- Both ports are in their ranges. -/
def PortsWithin (constraints parameters : Printing UInt8) : Prop :=
  Within (str "source_port") constraints parameters ∧
    Within (str "destination_port") constraints parameters

/-- The handlers agree about a sender. -/
def SenderConsistent (node : ExtNmosNode) (req : NmosRequest) (snd : ExtNmosSender) : Prop :=
  let constraints := nmosConstraintsHander node.runCfg snd.constraints true
  let active := senderActive node req snd
  let sdp := extNmosSdpMediaHander node.runCfg snd req.now
  PortsWithin constraints active ∧ PortsWithin constraints (senderStaged node snd) ∧
    (ipAddrIsMulticast node.runCfg.dest.ip → sdpAddressAt sdp = destinationAt active ∧
      sdpPortAt sdp = portAt (str "destination_port") active)

/-- The handlers agree about a receiver, whatever it is subscribed to. -/
def ReceiverConsistent (node : ExtNmosNode) (req : NmosRequest) (rcv : ExtNmosReceiver) : Prop :=
  ∀ subscriber, PortsWithin (nmosConstraintsHander node.runCfg rcv.constraints false)
    (receiverActive node req rcv subscriber)

/-- The handlers agree about all senders and receivers of a node. -/
def Consistent (node : ExtNmosNode) : Prop :=
  ∀ req, (∀ snd ∈ node.device.senders, SenderConsistent node req snd) ∧
    ∀ rcv ∈ node.device.receivers, ReceiverConsistent node req rcv

/-! ### Numbers in a text -/

section Numbers

theorem takeWhile_decimal (n : Nat) {b : UInt8} {rest : Bytes} (stop : Http.isDigit b = false) :
    (decimal n ++ b :: rest).takeWhile Http.isDigit = decimal n ∧
      (decimal n ++ b :: rest).dropWhile Http.isDigit = b :: rest := by
  have digits : ∀ c ∈ decimal n, Http.isDigit c = true := fun c mem => decide_eq_true (decimal_digit mem)
  rw [List.takeWhile_append_of_pos digits, List.dropWhile_append_of_pos digits,
    List.takeWhile_cons_of_neg (by rw [stop]; exact Bool.false_ne_true),
    List.dropWhile_cons_of_neg (by rw [stop]; exact Bool.false_ne_true), List.append_nil]
  exact ⟨rfl, rfl⟩

/-- A number is read up to what is no digit. -/
theorem leadingNat_decimal (n : Nat) {b : UInt8} {rest : Bytes} (stop : Http.isDigit b = false) :
    leadingNat (decimal n ++ b :: rest) = n := by
  have digits : (decimal n ++ b :: rest).takeWhile Http.isDigit = decimal n :=
    (takeWhile_decimal n stop).1
  unfold leadingNat
  exact (congrArg (List.foldl _ 0) digits).trans (foldl_decimal n)

/-- A port behind its key. -/
theorem portAt_eq {key : Bytes} {p : Printing UInt8} {n : Nat} {b : UInt8} {rest : Bytes}
    (text : behind (quoted key ++ str ":") p = some (decimal n ++ b :: rest))
    (stop : Http.isDigit b = false) : portAt key p = some n := by
  unfold portAt
  rw [text, Option.map_some, leadingNat_decimal n stop]

end Numbers

/-! ### Behind a key -/

section Behind

variable {key : Bytes} {p p' q : Printing UInt8}

/-- Calls behind others. -/
theorem behind_append (calls : q.calls = p.calls ++ p'.calls) (none_ : behind key p = none) :
    behind key q = behind key p' := by
  unfold behind at none_ ⊢
  rw [calls, List.findSome?_append, none_]
  rfl

/-- No call begins with a text that the key begins with. -/
theorem behind_eq_none {start : Bytes} (isStart : start.isPrefixOf key)
    (others : ∀ text ∈ p.calls, start.isPrefixOf text = false) : behind key p = none := by
  unfold behind
  rw [List.findSome?_eq_none_iff]
  intro text mem
  have differs : ¬ key.isPrefixOf text := by
    intro isPrefix
    rw [List.isPrefixOf_iff_prefix] at isStart isPrefix
    have found := List.isPrefixOf_iff_prefix.mpr (isStart.trans isPrefix)
    rw [others text mem] at found
    exact Bool.false_ne_true found
  rw [if_neg differs]

theorem calls_printTransportParams (p : Printing UInt8) (runCfg : RuntimeCfg)
    (format : NmosSourceFormat) : (printTransportParams p runCfg format).calls =
      p.calls ++ (printTransportParams .start runCfg format).calls := by
  unfold printTransportParams
  simp only [Printing.calls, List.append_assoc, List.nil_append]

/-- What the transport parameters show. -/
theorem behind_printTransportParams (runCfg : RuntimeCfg) (format : NmosSourceFormat) :
    let params := printTransportParams .start runCfg format
    behind (quoted (str "source_port") ++ str ":") params =
        some (decimal (transportPorts runCfg format).1.toNat ++ str ",") ∧
      behind (quoted (str "destination_port") ++ str ":") params =
        some (decimal (transportPorts runCfg format).2.toNat ++ str ",") ∧
      behind (str "\"destination_ip\":\x7b\"enum\":[\"") params =
        some (inetNtoa runCfg.dest.ip ++ str "\"]\x7d,") := by
  intro params
  unfold behind params printTransportParams
  refine ⟨?_, ?_, ?_⟩
  · simp +ground only [Printing.calls, List.nil_append, List.cons_append, List.findSome?_cons,
      comma, enumMember, member, numberMember, quoted, object, array, commas_singleton,
      List.append_assoc]
    rfl
  · simp +ground only [Printing.calls, List.nil_append, List.cons_append, List.findSome?_cons,
      comma, enumMember, member, numberMember, quoted, object, array, commas_singleton,
      List.append_assoc]
    rfl
  · simp +ground only [Printing.calls, List.nil_append, List.cons_append, List.findSome?_cons,
      comma, enumMember, member, numberMember, quoted, object, array, commas_singleton,
      List.append_assoc]
    rfl

/-- What the constraints show of a port. -/
theorem behind_nmosConstraintsHander (runCfg : RuntimeCfg) (cstrts : ExtNmosConstraints) :
    let sender := nmosConstraintsHander runCfg cstrts true
    let receiver := nmosConstraintsHander runCfg cstrts false
    let range (mini : UInt16) := decimal mini.toNat ++ (str ",\"maximum\":" ++
      (decimal (mini.toNat + cstrts.portRange.toNat) ++ str "\x7d,"))
    behind (quoted (str "source_port") ++ str ":\x7b\"minimum\":") sender =
        some (range cstrts.sourcePortMini) ∧
      behind (quoted (str "destination_port") ++ str ":\x7b\"minimum\":") sender =
        some (range cstrts.destPortMini) ∧
      behind (quoted (str "source_port") ++ str ":\x7b\"minimum\":") receiver = none ∧
      behind (quoted (str "destination_port") ++ str ":\x7b\"minimum\":") receiver =
        some (range cstrts.destPortMini) := by
  intro sender receiver range
  unfold behind sender receiver range nmosConstraintsHander
  refine ⟨?_, ?_, ?_, ?_⟩
  · simp +ground only [Printing.calls, List.nil_append, List.cons_append, List.findSome?_cons,
      comma, enumMember, rangeMember, member, numberMember, quoted, object, array,
      commas_singleton, commas_cons_cons, List.append_assoc, if_true]
    rfl
  · simp +ground only [Printing.calls, List.nil_append, List.cons_append, List.findSome?_cons,
      comma, enumMember, rangeMember, member, numberMember, quoted, object, array,
      commas_singleton, commas_cons_cons, List.append_assoc, if_true]
    rfl
  · simp +ground only [Printing.calls, List.nil_append, List.cons_append, List.findSome?_cons,
      comma, enumMember, rangeMember, member, numberMember, quoted, object, array,
      commas_singleton, commas_cons_cons, List.append_assoc, Bool.false_eq_true, if_false]
    rfl
  · simp +ground only [Printing.calls, List.nil_append, List.cons_append, List.findSome?_cons,
      comma, enumMember, rangeMember, member, numberMember, quoted, object, array,
      commas_singleton, commas_cons_cons, List.append_assoc, Bool.false_eq_true, if_false]
    rfl

/-- The connection line of an SDP file. -/
theorem behind_connection (runCfg : RuntimeCfg) (snd : ExtNmosSender) (now : Nat → UInt32) :
    behind (str "c=IN IP4 ") (extNmosSdpMediaHander runCfg snd now) =
      some (inetNtoa (sdpAddress runCfg) ++ 47 :: (decimal 1 ++ str "\n")) := by
  unfold behind extNmosSdpMediaHander nmosSdpSessionTimeHander
  simp +ground only [Printing.calls, List.nil_append, List.cons_append, List.findSome?_cons,
    List.append_assoc]
  rfl

theorem not_media_session (runCfg : RuntimeCfg) (snd : ExtNmosSender) (now : Nat → UInt32) :
    ∀ text ∈ (nmosSdpSessionTimeHander runCfg snd now).calls,
      (str "m").isPrefixOf text = false := by
  unfold nmosSdpSessionTimeHander
  simp +ground only [Printing.calls, List.nil_append, List.cons_append, List.append_assoc,
    List.forall_mem_cons]
  exact ⟨trivial, rfl, rfl, rfl, trivial, List.forall_mem_nil _⟩

/-- The media line of an SDP file. -/
theorem behind_media (runCfg : RuntimeCfg) (snd : ExtNmosSender) (now : Nat → UInt32) :
    ∃ media rest, behind (str "m=") (extNmosSdpMediaHander runCfg snd now) =
      some (media ++ 32 :: (decimal (sdpPort runCfg snd.flow.format).toNat ++ 32 :: rest)) ∧
        32 ∉ media := by
  have audio : 32 ∉ str "audio" := by decide +kernel
  have video : 32 ∉ str "video" := by decide +kernel
  have calls : (extNmosSdpMediaHander runCfg snd now).calls =
      (nmosSdpSessionTimeHander runCfg snd now).calls ++
        (nmosSdpMediaHander runCfg snd now).calls := rfl
  have session : behind (str "m=") (nmosSdpSessionTimeHander runCfg snd now) = none :=
    behind_eq_none (by decide +kernel) (not_media_session runCfg snd now)
  rw [behind_append calls session]
  unfold behind nmosSdpMediaHander mediaLine
  dsimp only
  cases snd.flow.format with
  | audio =>
      refine ⟨str "audio", str "RTP/AVP 96\n", ?_, audio⟩
      simp +ground only [Printing.calls, List.nil_append, List.cons_append, List.findSome?_cons,
        List.append_assoc]
      rfl
  | video =>
      refine ⟨str "video", str "RTP/AVP 96\n", ?_, video⟩
      simp +ground only [Printing.calls, List.nil_append, List.cons_append, List.findSome?_cons,
        List.append_assoc]
      rfl
  | data =>
      refine ⟨str "video", str "RTP/AVP 106\n", ?_, video⟩
      simp +ground only [Printing.calls, List.nil_append, List.cons_append, List.findSome?_cons,
        List.append_assoc]
      rfl
  | mux =>
      refine ⟨str "video", str "RTP/AVP 106\n", ?_, video⟩
      simp +ground only [Printing.calls, List.nil_append, List.cons_append, List.findSome?_cons,
        List.append_assoc]
      rfl

end Behind

/-! ### What is shown -/

section Shown

theorem not_mem_inetNtoa (ip : UInt32) : 34 ∉ inetNtoa ip ∧ 47 ∉ inetNtoa ip := by
  have digits (n : Nat) : 34 ∉ decimal n ∧ 47 ∉ decimal n :=
    ⟨fun mem => absurd (decimal_digit mem).1 (by decide),
      fun mem => absurd (decimal_digit mem).1 (by decide)⟩
  have dot : (34 : UInt8) ∉ [(46 : UInt8)] ∧ (47 : UInt8) ∉ [(46 : UInt8)] := by decide +kernel
  unfold inetNtoa
  simp only [List.mem_append, dot, digits, or_self, not_false_iff, and_self]

/-- What a text begins with, up to a mark. -/
theorem takeWhile_mark {s : Bytes} {mark : UInt8} (notIn : mark ∉ s) (rest : Bytes) :
    (s ++ mark :: rest).takeWhile (· ≠ mark) = s ∧
      (s ++ mark :: rest).dropWhile (· ≠ mark) = mark :: rest := by
  have before : ∀ b ∈ s, decide (b ≠ mark) = true := fun b mem =>
    decide_eq_true fun same => notIn (same ▸ mem)
  rw [List.takeWhile_append_of_pos before, List.dropWhile_append_of_pos before]
  simp

variable (node : ExtNmosNode) (req : NmosRequest)

/-- The ports of parameters, and their destination. -/
structure ShowsPorts (p : Printing UInt8) (runCfg : RuntimeCfg) (format : NmosSourceFormat) :
    Prop where
  source : portAt (str "source_port") p = some (transportPorts runCfg format).1.toNat
  dest : portAt (str "destination_port") p = some (transportPorts runCfg format).2.toNat
  destination : destinationAt p = some (inetNtoa runCfg.dest.ip)

/-- Behind calls that begin otherwise. -/
theorem showsPorts_printTransportParams {p : Printing UInt8} (runCfg : RuntimeCfg)
    (format : NmosSourceFormat)
    (others : p.calls.all fun text =>
      !(str "\"so").isPrefixOf text && !(str "\"de").isPrefixOf text) :
    ShowsPorts (printTransportParams p runCfg format) runCfg format := by
  have apart (text : Bytes) (mem : text ∈ p.calls) : (str "\"so").isPrefixOf text = false ∧
      (str "\"de").isPrefixOf text = false := by
    have here := List.all_eq_true.mp others text mem
    rwa [Bool.and_eq_true, Bool.not_eq_true', Bool.not_eq_true'] at here
  have noSource {key : Bytes} (isStart : (str "\"so").isPrefixOf key) : behind key p = none :=
    behind_eq_none isStart fun text mem => (apart text mem).1
  have noDest {key : Bytes} (isStart : (str "\"de").isPrefixOf key) : behind key p = none :=
    behind_eq_none isStart fun text mem => (apart text mem).2
  have calls := calls_printTransportParams p runCfg format
  have comma_ : Http.isDigit 44 = false := by decide
  obtain ⟨source, dest, destination⟩ := behind_printTransportParams runCfg format
  constructor
  · exact portAt_eq ((behind_append calls (noSource (by decide +kernel))).trans source) comma_
  · exact portAt_eq ((behind_append calls (noDest (by decide +kernel))).trans dest) comma_
  · unfold destinationAt
    rw [behind_append calls (noDest (by decide +kernel)), destination]
    exact congrArg some (takeWhile_mark (not_mem_inetNtoa _).1 _).1

theorem showsPorts_senderActive (snd : ExtNmosSender) :
    ShowsPorts (senderActive node req snd) node.runCfg snd.flow.format := by
  refine showsPorts_printTransportParams _ _ ?_
  cases snd.subscriber with
  | none => rfl
  | some uuid => rfl

theorem showsPorts_senderStaged (snd : ExtNmosSender) :
    ShowsPorts (senderStaged node snd) node.runCfg snd.flow.format := by
  refine showsPorts_printTransportParams _ _ ?_
  cases snd.subscriber with
  | none => rfl
  | some uuid => rfl

theorem showsPorts_receiverActive (rcv : ExtNmosReceiver) (subscriber : Uuid) :
    ShowsPorts (receiverActive node req rcv subscriber) node.runCfg rcv.format :=
  showsPorts_printTransportParams _ _ rfl

/-- A range behind its key. -/
theorem rangeAt_eq {key : Bytes} {p : Printing UInt8} {mini range : UInt16}
    (text : behind (quoted key ++ str ":\x7b\"minimum\":") p = some (decimal mini.toNat ++
      (str ",\"maximum\":" ++ (decimal (mini.toNat + range.toNat) ++ str "\x7d,")))) :
    rangeAt key p = some (mini.toNat, mini.toNat + range.toNat) := by
  have comma_ : Http.isDigit 44 = false := by decide
  have brace : Http.isDigit 125 = false := by decide
  unfold rangeAt
  rw [text]
  refine congrArg some (Prod.ext (leadingNat_decimal _ comma_) ?_)
  have rest : (decimal mini.toNat ++ (str ",\"maximum\":" ++
      (decimal (mini.toNat + range.toNat) ++ str "\x7d,"))).dropWhile Http.isDigit =
        str ",\"maximum\":" ++ (decimal (mini.toNat + range.toNat) ++ str "\x7d,") :=
    (takeWhile_decimal _ comma_).2
  dsimp only
  rw [rest, List.drop_left]
  exact leadingNat_decimal _ brace

variable (runCfg : RuntimeCfg) (cstrts : ExtNmosConstraints)

theorem rangeAt_sender :
    let constraints := nmosConstraintsHander runCfg cstrts true
    rangeAt (str "source_port") constraints = some (cstrts.sourcePortMini.toNat,
        cstrts.sourcePortMini.toNat + cstrts.portRange.toNat) ∧
      rangeAt (str "destination_port") constraints = some (cstrts.destPortMini.toNat,
        cstrts.destPortMini.toNat + cstrts.portRange.toNat) := by
  intro constraints
  obtain ⟨source, dest, -, -⟩ := behind_nmosConstraintsHander runCfg cstrts
  exact ⟨rangeAt_eq source, rangeAt_eq dest⟩

theorem rangeAt_receiver :
    let constraints := nmosConstraintsHander runCfg cstrts false
    rangeAt (str "source_port") constraints = none ∧
      rangeAt (str "destination_port") constraints = some (cstrts.destPortMini.toNat,
        cstrts.destPortMini.toNat + cstrts.portRange.toNat) := by
  intro constraints
  obtain ⟨-, -, source, dest⟩ := behind_nmosConstraintsHander runCfg cstrts
  refine ⟨?_, rangeAt_eq dest⟩
  unfold rangeAt
  rw [source, Option.map_none]

theorem sdp_shows (snd : ExtNmosSender) (now : Nat → UInt32) :
    let sdp := extNmosSdpMediaHander runCfg snd now
    sdpAddressAt sdp = some (inetNtoa (sdpAddress runCfg)) ∧
      sdpPortAt sdp = some (sdpPort runCfg snd.flow.format).toNat := by
  have blank : Http.isDigit 32 = false := by decide
  intro sdp
  obtain ⟨media, rest, line, noBlank⟩ := behind_media runCfg snd now
  unfold sdpAddressAt sdpPortAt
  rw [behind_connection, line, Option.map_some, Option.map_some,
    (takeWhile_mark (not_mem_inetNtoa _).2 _).1, (takeWhile_mark noBlank _).2]
  exact ⟨rfl, congrArg some (leadingNat_decimal _ blank)⟩

end Shown

/-! ### When they agree -/

/-- The port is in the range that begins at another. -/
def InRange (mini range port : UInt16) : Prop :=
  mini.toNat ≤ port.toNat ∧ port.toNat ≤ mini.toNat + range.toNat

/-- The ports that the configuration has now are in the ranges of a sender, and the SDP file has
the port that a multicast is sent to. -/
def SenderAgrees (runCfg : RuntimeCfg) (snd : ExtNmosSender) : Prop :=
  let ports := transportPorts runCfg snd.flow.format
  let cstrts := snd.constraints
  InRange cstrts.sourcePortMini cstrts.portRange ports.1 ∧
    InRange cstrts.destPortMini cstrts.portRange ports.2 ∧
    (ipAddrIsMulticast runCfg.dest.ip → sdpPort runCfg snd.flow.format = ports.2)

/-- The destination port is in the range of a receiver. -/
def ReceiverAgrees (runCfg : RuntimeCfg) (rcv : ExtNmosReceiver) : Prop :=
  InRange rcv.constraints.destPortMini rcv.constraints.portRange
    (transportPorts runCfg rcv.format).2

section Agree

variable (node : ExtNmosNode) (req : NmosRequest)

theorem within_iff {key : Bytes} {constraints parameters : Printing UInt8} {port : Nat}
    {range : Nat × Nat} (shown : portAt key parameters = some port)
    (bounds : rangeAt key constraints = some range) :
    Within key constraints parameters ↔ range.1 ≤ port ∧ port ≤ range.2 := by
  unfold Within
  rw [shown, bounds]
  constructor
  · intro all
    exact all port rfl range rfl
  · rintro here port ⟨⟩ range ⟨⟩
    exact here

theorem senderConsistent_iff (snd : ExtNmosSender) :
    SenderConsistent node req snd ↔ SenderAgrees node.runCfg snd := by
  have active := showsPorts_senderActive node req snd
  have staged := showsPorts_senderStaged node snd
  obtain ⟨source, dest⟩ := rangeAt_sender node.runCfg snd.constraints
  obtain ⟨address, port⟩ := sdp_shows node.runCfg snd req.now
  unfold SenderConsistent SenderAgrees PortsWithin
  dsimp only
  rw [within_iff active.source source, within_iff active.dest dest,
    within_iff staged.source source, within_iff staged.dest dest, address, port, active.dest,
    active.destination]
  have sameAddress (multicast : ipAddrIsMulticast node.runCfg.dest.ip) :
      some (inetNtoa (sdpAddress node.runCfg)) = some (inetNtoa node.runCfg.dest.ip) := by
    unfold sdpAddress
    rw [if_pos multicast]
  constructor
  · rintro ⟨⟨inSource, inDest⟩, -, sdp⟩
    exact ⟨inSource, inDest, fun multicast =>
      UInt16.toNat_inj.mp (Option.some.inj (sdp multicast).2)⟩
  · rintro ⟨inSource, inDest, sdp⟩
    exact ⟨⟨inSource, inDest⟩, ⟨inSource, inDest⟩, fun multicast =>
      ⟨sameAddress multicast, congrArg (fun n => some n.toNat) (sdp multicast)⟩⟩

theorem receiverConsistent_iff (rcv : ExtNmosReceiver) :
    ReceiverConsistent node req rcv ↔ ReceiverAgrees node.runCfg rcv := by
  obtain ⟨source, dest⟩ := rangeAt_receiver node.runCfg rcv.constraints
  have one (subscriber : Uuid) :
      PortsWithin (nmosConstraintsHander node.runCfg rcv.constraints false)
        (receiverActive node req rcv subscriber) ↔ ReceiverAgrees node.runCfg rcv := by
    have active := showsPorts_receiverActive node req rcv subscriber
    have free : Within (str "source_port")
        (nmosConstraintsHander node.runCfg rcv.constraints false)
        (receiverActive node req rcv subscriber) := by
      intro port _ range mem
      rw [source] at mem
      cases mem
    unfold PortsWithin
    rw [within_iff active.dest dest]
    exact and_iff_right free
  constructor
  · intro consistent
    exact (one nullUuid).mp (consistent nullUuid)
  · intro agrees subscriber
    exact (one subscriber).mpr agrees

/-- A `set_param` request. -/
def setParams (node : ExtNmosNode) (parser : ExtJsonParser) : ExtNmosNode :=
  { node with runCfg := (extUdpCmdSetupParams { parser with runCfg := node.runCfg }).1.runCfg }

/-- No request changes the resources. -/
theorem device_run (requests : List ExtJsonParser) :
    (run setParams node requests).device = node.device := by
  refine run_invariant_of_step (fun later : ExtNmosNode => later.device = node.device) ?_ rfl
    requests
  intro later parser same
  exact same

/-- The ports of a sending node: of video and audio each in the range from the port at start-up
on, and those of video also in the ranges of data. -/
def PortsAgree (start now : RuntimeCfg) : Prop :=
  let range := extMediaPortRange
  if extIsTx start then
    (InRange start.localCfg.vport range now.localCfg.vport ∧
        InRange start.dest.vport range now.dest.vport) ∧
      (InRange start.localCfg.aport range now.localCfg.aport ∧
        InRange start.dest.aport range now.dest.aport) ∧
      (InRange start.localCfg.dport range now.localCfg.vport ∧
        InRange start.dest.dport range now.dest.vport) ∧
      (ipAddrIsMulticast now.dest.ip → now.localCfg.vport = now.dest.vport ∧
        now.localCfg.aport = now.dest.aport ∧ now.localCfg.dport = now.dest.vport)
  else now.dest.vport = 0 ∧ now.dest.aport = 0

theorem inRange_zero_iff (port : UInt16) : InRange 0 0 port ↔ port = 0 := by
  unfold InRange
  rw [← UInt16.toNat_inj]
  have zero : (0 : UInt16).toNat = 0 := rfl
  omega

/-- **The connection API.** Whatever the configuration at start-up, and behind any `set_param`
requests, the handlers agree about all senders and receivers exactly when the ports do. -/
theorem consistent_iff (ids : Nat → Stored) (httpPort : UInt16) (start : RuntimeCfg)
    (requests : List ExtJsonParser) :
    let node := run setParams (extNmosNodeInit ids httpPort start) requests
    Consistent node ↔ PortsAgree start node.runCfg := by
  intro node
  have device : node.device = (extNmosNodeInit ids httpPort start).device := device_run _ requests
  have agrees : Consistent node ↔ (∀ snd ∈ node.device.senders, SenderAgrees node.runCfg snd) ∧
      ∀ rcv ∈ node.device.receivers, ReceiverAgrees node.runCfg rcv := by
    unfold Consistent
    simp only [senderConsistent_iff, receiverConsistent_iff]
    exact ⟨fun all => all ⟨.get, [], ⟨nullUuid, []⟩, fun _ => 0⟩, fun here _ => here⟩
  rw [agrees, device]
  unfold extNmosNodeInit PortsAgree
  dsimp only
  by_cases isTx : extIsTx start
  · rw [if_pos isTx, if_pos isTx]
    unfold extNmosSourceInit
    simp only [List.forall_mem_cons]
    constructor
    · rintro ⟨⟨⟨dataSource, dataDest, dataSdp⟩, ⟨audioSource, audioDest, audioSdp⟩,
        ⟨videoSource, videoDest, videoSdp⟩, -⟩, -⟩
      exact ⟨⟨videoSource, videoDest⟩, ⟨audioSource, audioDest⟩, ⟨dataSource, dataDest⟩,
        fun multicast => ⟨videoSdp multicast, audioSdp multicast, dataSdp multicast⟩⟩
    · rintro ⟨⟨videoSource, videoDest⟩, ⟨audioSource, audioDest⟩, ⟨dataSource, dataDest⟩, sdp⟩
      exact ⟨⟨⟨dataSource, dataDest, fun multicast => (sdp multicast).2.2⟩,
        ⟨audioSource, audioDest, fun multicast => (sdp multicast).2.1⟩,
        ⟨videoSource, videoDest, fun multicast => (sdp multicast).1⟩, List.forall_mem_nil _⟩,
        List.forall_mem_nil _⟩
  · rw [if_neg isTx, if_neg isTx]
    unfold extNmosReceiversInit
    simp only [List.forall_mem_cons]
    constructor
    · rintro ⟨-, data, audio, -, -⟩
      exact ⟨(inRange_zero_iff _).mp data, (inRange_zero_iff _).mp audio⟩
    · rintro ⟨video, audio⟩
      have zeroVideo := (inRange_zero_iff node.runCfg.dest.vport).mpr video
      have zeroAudio := (inRange_zero_iff node.runCfg.dest.aport).mpr audio
      exact ⟨List.forall_mem_nil _, zeroVideo, zeroAudio, zeroVideo, List.forall_mem_nil _⟩

end Agree

/-- A node that sends with its default ports. -/
theorem not_consistent :
    ¬ ∀ (ids : Nat → Stored) (httpPort : UInt16) (start : RuntimeCfg)
      (requests : List ExtJsonParser),
      Consistent (run setParams (extNmosNodeInit ids httpPort start) requests) := by
  intro all
  let start : RuntimeCfg :=
    { isTx := 1
      localCfg := { vport := 40000, aport := 40010, dport := 40020 }
      dest := { vport := 48000, aport := 48010, dport := 48020 } }
  have consistent := all (fun _ => ⟨nullUuid, []⟩) 80 start []
  let node := extNmosNodeInit (fun _ => ⟨nullUuid, []⟩) 80 start
  have data : extDataSenderInit ⟨nullUuid, []⟩ start (extDataFlowInit ⟨nullUuid, []⟩ start
      (extDataSourceInit ⟨nullUuid, []⟩ start)) ∈ node.device.senders := List.mem_cons_self
  have agrees := (senderConsistent_iff node ⟨.get, [], ⟨nullUuid, []⟩, fun _ => 0⟩ _).mp
    ((consistent ⟨.get, [], ⟨nullUuid, []⟩, fun _ => 0⟩).1 _ data)
  -- the video port is shown for data, below the range of the data port
  have low : (40020 : UInt16).toNat ≤ (40000 : UInt16).toNat := agrees.1.1
  exact absurd low (by decide)

end LwipExt.Nmos
