import LwipExt.Cmn.SysConfig
import LwipExt.UdpCmd.Exchange

/-!
What a datagram makes of the configuration.

Only an accepted `set_param` writes it (`rawUdpEchoRecv_runCfg`). It writes the address
the media go to but not the Ethernet address that belongs to it, so the two part as soon
as a request sets another group (`mapped_run_iff`).
-/

namespace LwipExt.UdpCmd

/-- The values an accepted `set_param` asks for. -/
def setParamsAsked (parser : ExtJsonParser) (p : Bytes) : Option RuntimeCfg :=
  let (rq, ok) := checkDatagram (receivedBuffer parser.bufRead p) parser.toRequest (receivedSize p)
  if ok ∧ ipCommandOf rq.cmd = some .setParams then acceptedRequest parser.runCfg rq else none

/-- The configuration `set_param` leaves. -/
def setupCfg (runCfg rx : RuntimeCfg) : RuntimeCfg :=
  let runCfg := (compareCfg runCfg rx).runCfg
  if rx.runtime.isConnect ≠ 0 ∧ runCfg.runtime.isConnect ≠ rx.runtime.isConnect then
    (extUdpCmdConnect runCfg).1
  else runCfg

theorem Framed.runCfg {parser parser' : ExtJsonParser} (framed : Framed parser parser') :
    parser'.runCfg = parser.runCfg := by
  obtain ⟨out, index, rfl⟩ := framed
  rfl

theorem extUdpCmdSendMediaData_runCfg (parser : ExtJsonParser) :
    (extUdpCmdSendMediaData parser).runCfg = parser.runCfg := by
  obtain ⟨out, index, -, result⟩ := extUdpCmdSendMediaData_eq parser
  rw [result]

theorem extUdpCmdSetupParams_runCfg (parser : ExtJsonParser) :
    (extUdpCmdSetupParams parser).1.runCfg =
      ((acceptedRequest parser.runCfg parser.toRequest).map
        (setupCfg parser.runCfg)).getD parser.runCfg := by
  unfold extUdpCmdSetupParams acceptedRequest
  rcases setupRequest parser.runCfg parser.toRequest with ⟨rq, _ | rx⟩
  · rfl
  · have sent (parser : ExtJsonParser) :
        (extJsonResponsePrintConfig (extUdpCmdSendMediaData parser)).runCfg = parser.runCfg := by
      rw [(extJsonResponsePrintConfig_responded _).1.runCfg, extUdpCmdSendMediaData_runCfg]
    simp only [setupApply, sent, Option.map_some, Option.getD_some, setupCfg]
    split <;> simp [sent]

theorem extUdpCmdSendRsData_runCfg (parser : ExtJsonParser) :
    (extUdpCmdSendRsData parser).1.runCfg = parser.runCfg := by
  unfold extUdpCmdSendRsData
  simp only
  split
  · rfl
  split
  · rfl
  split
  · rfl
  split
  · rfl
  split
  · rfl
  split
  · rfl
  · exact (extUdpCmdResponseReply_responded _).1.runCfg

theorem securitySubCommand_runCfg (parser : ExtJsonParser) (key : Bytes) :
    (securitySubCommand parser key).1.runCfg = parser.runCfg := by
  unfold securitySubCommand
  split <;> rfl

theorem securityCommand_runCfg (parser : ExtJsonParser) :
    (securityCommand parser).1.runCfg = parser.runCfg := by
  have reply (p : ExtJsonParser) :
      (extUdpCmdResponseReply { p with toRequest := p.withStatus .ok }).runCfg = p.runCfg :=
    (extUdpCmdResponseReply_responded _).1.runCfg
  have checkId (p : ExtJsonParser) : (securityCheckId p).runCfg = p.runCfg := by
    unfold securityCheckId
    exact (((extUdpCmdResponseHeaderPrint_framed _).trans (printBody_framed _ _)).responded
      (extUdpCmdResponseTailCalculate_responded _)).1.runCfg
  unfold securityCommand
  simp only
  split
  · rfl
  generalize reported : ({ parser with
    report := (extJsonParseDataArray parser.json parser.report).1 } : ExtJsonParser) = parser₁
  have same : parser₁.runCfg = parser.runCfg := by
    subst reported
    rfl
  have setKey := securitySubCommand_runCfg parser₁ (str "set_key")
  generalize securitySubCommand parser₁ (str "set_key") = looked at setKey ⊢
  obtain ⟨parser₂, found⟩ := looked
  have kept₂ : parser₂.runCfg = parser.runCfg := setKey.trans same
  cases found with
  | true => exact (reply parser₂).trans kept₂
  | false =>
      have getStatus := securitySubCommand_runCfg parser₂ (str "get_status")
      simp only
      generalize securitySubCommand parser₂ (str "get_status") = looked at getStatus ⊢
      obtain ⟨parser₃, found⟩ := looked
      have kept₃ : parser₃.runCfg = parser.runCfg := getStatus.trans kept₂
      cases found with
      | true => exact (reply parser₃).trans kept₃
      | false =>
          have getId := securitySubCommand_runCfg parser₃ (str "get_id")
          simp only
          generalize securitySubCommand parser₃ (str "get_id") = looked at getId ⊢
          obtain ⟨parser₄, found⟩ := looked
          have kept₄ : parser₄.runCfg = parser.runCfg := getId.trans kept₃
          cases found with
          | true => exact (checkId parser₄).trans kept₄
          | false => exact kept₄

/-- Only `set_param` writes the configuration. -/
theorem handler_runCfg (entry : IpCommand) (parser : ExtJsonParser) :
    (entry.handler parser).1.runCfg =
      if entry = .setParams then
        ((acceptedRequest parser.runCfg parser.toRequest).map
          (setupCfg parser.runCfg)).getD parser.runCfg
      else parser.runCfg := by
  cases entry with
  | getParams =>
      simp only [IpCommand.handler, extUdpCmdGetParams]
      split
      · rfl
      split
      · rfl
      · exact (extJsonResponsePrintConfig_responded _).1.runCfg
  | setParams => exact extUdpCmdSetupParams_runCfg parser
  | sendRs232 => exact extUdpCmdSendRsData_runCfg parser
  | securityCheck =>
      simp only [IpCommand.handler, extUdpCmdSecurityCheck]
      split
      · exact extUdpCmdSendMediaData_runCfg parser
      · exact (securityCommand_runCfg _).trans (extUdpCmdSendMediaData_runCfg parser)

/-- Only an accepted `set_param` writes the configuration. -/
theorem rawUdpEchoRecv_runCfg (parser : ExtJsonParser) (p : Bytes) (addr : UInt32) (port : UInt16) :
    (rawUdpEchoRecv parser p addr port).runCfg =
      ((setParamsAsked parser p).map (setupCfg parser.runCfg)).getD parser.runCfg := by
  have sendout (parser : ExtJsonParser) :
      (extUdpCmdSendout parser addr port).runCfg = parser.runCfg := by
    rw [extUdpCmdSendout_eq]
  have reply (parser : ExtJsonParser) :
      (extUdpCmdResponseReply parser).runCfg = parser.runCfg :=
    (extUdpCmdResponseReply_responded parser).1.runCfg
  simp only [rawUdpEchoRecv, sendout, extUdpCmdPaserHandler, setParamsAsked]
  rcases checkDatagram (receivedBuffer parser.bufRead p) parser.toRequest (receivedSize p) with
    ⟨rq, _ | _⟩
  · simp [reply]
  · simp only [not_true_eq_false, if_false, true_and, extJsonHandle]
    cases ipCommandOf rq.cmd with
    | none => simp [parseFailed, reply]
    | some entry =>
        have handled := handler_runCfg entry
          { parser with
            toRequest := rq, bufRead := swapLength (receivedBuffer parser.bufRead p), outIndex := 0 }
        simp only at handled ⊢
        generalize entry.handler _ = result at handled ⊢
        obtain ⟨parser', ok⟩ := result
        have kept : parser'.runCfg =
            ((if entry = .setParams then acceptedRequest parser.runCfg rq else none).map
              (setupCfg parser.runCfg)).getD parser.runCfg := by
          rw [handled]
          split <;> rfl
        simp only [Option.some.injEq]
        cases ok with
        | true => exact kept
        | false =>
            simp only [Bool.false_eq_true, if_false, reply]
            exact kept

/-! ### The group the media go to -/

/-- The address an accepted `set_param` asks for, if the datagram is one. -/
def groupAsked (parser : ExtJsonParser) (p : Bytes) : Option UInt32 :=
  (setParamsAsked parser p).map fun rx => rx.dest.ip

theorem setupCfg_dest (runCfg rx : RuntimeCfg) :
    (setupCfg runCfg rx).dest.mac = runCfg.dest.mac ∧
      (setupCfg runCfg rx).dest.ip = (checkAddress rx.dest.ip).getD runCfg.dest.ip := by
  have compared : (compareCfg runCfg rx).runCfg.dest.mac = runCfg.dest.mac ∧
      (compareCfg runCfg rx).runCfg.dest.ip = (checkAddress rx.dest.ip).getD runCfg.dest.ip :=
    ⟨rfl, rfl⟩
  unfold setupCfg
  simp only
  split
  · exact compared
  · exact compared

/-- One datagram at a device. -/
def serve (parser : ExtJsonParser) (d : Datagram) : ExtJsonParser :=
  rawUdpEchoRecv parser d.payload d.src d.srcPort

/-- The group a datagram sets, if it does, has the Ethernet address that the destination
has. -/
def SameMac (parser : ExtJsonParser) (d : Datagram) : Prop :=
  ∀ ip, groupAsked parser d.payload = some ip → ipAddrIsMulticast ip = true →
    multicastMac ip = parser.runCfg.dest.mac

/-- A datagram leaves a mapped configuration mapped exactly if the group it sets, if any, has
the Ethernet address of the group before. -/
theorem serve_mapped_iff (parser : ExtJsonParser) (d : Datagram) (mapped : Mapped parser.runCfg) :
    Mapped (serve parser d).runCfg ↔ SameMac parser d := by
  unfold serve SameMac groupAsked
  rw [rawUdpEchoRecv_runCfg]
  cases setParamsAsked parser d.payload with
  | none => simpa using mapped
  | some rx =>
      obtain ⟨mac, ip⟩ := setupCfg_dest parser.runCfg rx
      simp only [Option.map_some, Option.getD_some, Option.some.injEq, forall_eq']
      unfold Mapped
      rw [mac, ip]
      unfold checkAddress
      by_cases given : rx.dest.ip = ipaddrNone
      · have notGroup : ipAddrIsMulticast ipaddrNone = false := by decide
        simp only [given, ne_eq, not_true_eq_false, if_false, Option.getD_none, notGroup,
          Bool.false_eq_true, false_implies, iff_true]
        exact mapped
      · rw [if_pos given, Option.getD_some]
        exact imp_congr_right fun _ => eq_comm

/-- In every state of a run a group address comes with its Ethernet address. -/
def AlwaysMapped (parser : ExtJsonParser) (ds : List Datagram) : Prop :=
  ∀ n, Mapped (Lib.run serve parser (ds.take n)).runCfg

/-- From the factory settings on, the group addresses come with their Ethernet addresses in
every state of a run exactly if no datagram sets a group that has another one. -/
theorem mapped_run_iff (board : Board) (cfg : RuntimeCfg) (parser : ExtJsonParser)
    (ds : List Datagram) :
    AlwaysMapped { parser with runCfg := extCfgFromFactory board cfg } ds ↔
      Lib.Along serve SameMac { parser with runCfg := extCfgFromFactory board cfg } ds := by
  have mapped := extCfgFromFactory_mapped board cfg
  generalize start : ({ parser with runCfg := extCfgFromFactory board cfg } : ExtJsonParser) = s
  have mapped : Mapped s.runCfg := by
    rw [← start]
    exact mapped
  clear start
  unfold AlwaysMapped
  induction ds generalizing s with
  | nil => simpa using mapped
  | cons d ds ih =>
      rw [Lib.along_cons, ← serve_mapped_iff s d mapped]
      constructor
      · intro always
        have first : Mapped (serve s d).runCfg := by simpa using always 1
        exact ⟨first, (ih _ first).mp fun n => by simpa using always (n + 1)⟩
      · rintro ⟨first, rest⟩ n
        cases n with
        | zero => simpa using mapped
        | succ n => simpa using (ih _ first).mpr rest n

/-- A request for another group at a receiver with factory settings. -/
def groupRequest : Datagram :=
  ⟨ipaddrAddr (str "192.168.168.1"), 50000, requestFrame
    (str "\x7b\"targ\":\"00:04:25:1c:a0:01\",\"cmd\":\"set_param\",\"login-ack\":\"admin\"," ++
      str "\"pwd-msg\":\"admin\",\"data\":[\x7b\"isMCAST\":1,\"MCASTip\":\"239.1.2.3\"\x7d]\x7d")⟩

/-- The group changes, its Ethernet address does not. -/
theorem group_without_mac :
    ¬ AlwaysMapped { runCfg := extCfgFromFactory .extt {} } [groupRequest] := by
  intro always
  have served : ipAddrIsMulticast
      (serve { runCfg := extCfgFromFactory .extt {} } groupRequest).runCfg.dest.ip = true := by
    decide +kernel
  have mapped := always 1
  simp only [List.take_succ_cons, List.take_zero, Lib.run_cons, Lib.run_nil] at mapped
  exact absurd (mapped served) (by decide +kernel)

end LwipExt.UdpCmd
