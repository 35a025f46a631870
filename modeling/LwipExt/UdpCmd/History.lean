import LwipExt.UdpCmd.Independence

/-!
What earlier datagrams have to do with a later one.

The agent keeps its request, its token array and its receive buffer from one datagram to
the next. `independent_of_history` says which datagrams nothing of this reaches: those that
pass all checks and whose keys are all settled.
-/

namespace LwipExt.UdpCmd

/-! ### What stays as it is -/

/-- The tokens and the address of the interface are left alone. -/
structure Keeps (parser parser' : ExtJsonParser) : Prop where
  json : parser'.json = parser.json
  netIp : parser'.netIp = parser.netIp

theorem Keeps.refl (parser : ExtJsonParser) : Keeps parser parser := ⟨rfl, rfl⟩

theorem Keeps.trans {parser parser' parser'' : ExtJsonParser} (first : Keeps parser parser')
    (second : Keeps parser' parser'') : Keeps parser parser'' :=
  ⟨second.json.trans first.json, second.netIp.trans first.netIp⟩

theorem Framed.keeps {parser parser' : ExtJsonParser} (framed : Framed parser parser') :
    Keeps parser parser' := by
  obtain ⟨out, index, rfl⟩ := framed
  exact ⟨rfl, rfl⟩

theorem extUdpCmdSendMediaData_keeps (parser : ExtJsonParser) :
    Keeps parser (extUdpCmdSendMediaData parser) := by
  obtain ⟨out, index, -, sent⟩ := extUdpCmdSendMediaData_eq parser
  rw [sent]
  exact ⟨rfl, rfl⟩

theorem extUdpCmdSendout_keeps (parser : ExtJsonParser) (ip : UInt32) (port : UInt16) :
    Keeps parser (extUdpCmdSendout parser ip port) := by
  rw [extUdpCmdSendout_eq]
  exact ⟨rfl, rfl⟩

theorem setupApply_keeps (parser : ExtJsonParser) (rx : RuntimeCfg) :
    Keeps parser (setupApply parser rx) := by
  have sent := extUdpCmdSendMediaData_keeps
    { parser with runCfg := (compareCfg parser.runCfg rx).runCfg }
  unfold setupApply
  simp only
  generalize extUdpCmdSendMediaData _ = next at sent ⊢
  have printed := sent.trans (extJsonResponsePrintConfig_responded next).1.keeps
  generalize extJsonResponsePrintConfig next = last at printed ⊢
  split
  · exact ⟨printed.json, printed.netIp⟩
  · exact ⟨printed.json, printed.netIp⟩

theorem extUdpCmdSetupParams_keeps (parser : ExtJsonParser) :
    Keeps parser (extUdpCmdSetupParams parser).1 := by
  obtain ⟨r, checked, -⟩ := extUdpCmdIsLocal_report parser.runCfg parser.toRequest
  unfold extUdpCmdSetupParams setupRequest
  generalize extUdpCmdIsLocal parser.runCfg parser.toRequest = result at checked
  obtain ⟨rq, ok⟩ := result
  obtain rfl : rq = _ := checked
  cases ok with
  | false => exact ⟨rfl, rfl⟩
  | true =>
      simp only
      cases extJsonRequestParse parser.json r with
      | error p => exact ⟨rfl, rfl⟩
      | ok p =>
          obtain ⟨json, netIp⟩ := setupApply_keeps
            { parser with toRequest := { parser.toRequest with report := p.report } } p.tmpCfg
          exact ⟨json, netIp⟩

theorem securitySubCommand_keeps (parser : ExtJsonParser) (key : Bytes) :
    Keeps parser (securitySubCommand parser key).1 := by
  unfold securitySubCommand
  split
  · exact ⟨rfl, rfl⟩
  · exact ⟨rfl, rfl⟩

theorem securityCommand_keeps (parser : ExtJsonParser) :
    Keeps parser (securityCommand parser).1 := by
  have reply (p : ExtJsonParser) :
      Keeps p (extUdpCmdResponseReply { p with toRequest := p.withStatus .ok }) := by
    obtain ⟨json, netIp⟩ := (extUdpCmdResponseReply_responded
      { p with toRequest := p.withStatus .ok }).1.keeps
    exact ⟨json, netIp⟩
  have checkId (p : ExtJsonParser) : Keeps p (securityCheckId p) := by
    obtain ⟨json, netIp⟩ := (securityCheckId_framed p).keeps
    exact ⟨json, netIp⟩
  unfold securityCommand
  simp only
  split
  · exact ⟨rfl, rfl⟩
  generalize reported : ({ parser with
    report := (extJsonParseDataArray parser.json parser.report).1 } : ExtJsonParser) = parser₁
  have kept : Keeps parser parser₁ := by
    subst reported
    exact ⟨rfl, rfl⟩
  have kept := kept.trans (securitySubCommand_keeps parser₁ (str "set_key"))
  generalize securitySubCommand parser₁ (str "set_key") = looked at kept ⊢
  obtain ⟨parser₂, found⟩ := looked
  cases found with
  | true => exact kept.trans (reply parser₂)
  | false =>
      have kept := kept.trans (securitySubCommand_keeps parser₂ (str "get_status"))
      simp only
      generalize securitySubCommand parser₂ (str "get_status") = looked at kept ⊢
      obtain ⟨parser₃, found⟩ := looked
      cases found with
      | true => exact kept.trans (reply parser₃)
      | false =>
          have kept := kept.trans (securitySubCommand_keeps parser₃ (str "get_id"))
          simp only
          generalize securitySubCommand parser₃ (str "get_id") = looked at kept ⊢
          obtain ⟨parser₄, found⟩ := looked
          cases found with
          | true => exact kept.trans (checkId parser₄)
          | false => exact ⟨kept.json, kept.netIp⟩

theorem handler_keeps (entry : IpCommand) (parser : ExtJsonParser) :
    Keeps parser (entry.handler parser).1 := by
  cases entry with
  | getParams =>
      obtain ⟨r, checked, -⟩ := extJsonUserValidate_report parser.runCfg parser.toRequest
      simp only [IpCommand.handler, extUdpCmdGetParams, checked]
      split
      · exact ⟨rfl, rfl⟩
      split
      · exact ⟨rfl, rfl⟩
      · obtain ⟨json, netIp⟩ := (extJsonResponsePrintConfig_responded
          { parser with toRequest := { parser.toRequest with report := r } }).1.keeps
        exact ⟨json, netIp⟩
  | setParams => exact extUdpCmdSetupParams_keeps parser
  | sendRs232 =>
      obtain ⟨r, checked, -⟩ := extUdpCmdIsLocal_report parser.runCfg parser.toRequest
      simp only [IpCommand.handler, extUdpCmdSendRsData, checked]
      split
      · exact ⟨rfl, rfl⟩
      split
      · exact ⟨rfl, rfl⟩
      split
      · exact ⟨rfl, rfl⟩
      split
      · exact ⟨rfl, rfl⟩
      split
      · exact ⟨rfl, rfl⟩
      split
      · exact ⟨rfl, rfl⟩
      · have replied (p : ExtJsonParser) := (extUdpCmdResponseReply_responded p).1.keeps
        exact ⟨(replied _).json, (replied _).netIp⟩
  | securityCheck =>
      have sent := extUdpCmdSendMediaData_keeps parser
      simp only [IpCommand.handler, extUdpCmdSecurityCheck]
      generalize extUdpCmdSendMediaData parser = next at sent ⊢
      obtain ⟨r, checked, -⟩ := extUdpCmdIsLocal_report next.runCfg next.toRequest
      simp only [checked]
      split
      · exact ⟨sent.json, sent.netIp⟩
      · obtain ⟨json, netIp⟩ := securityCommand_keeps
          { next with toRequest := { next.toRequest with report := r } }
        exact ⟨json.trans sent.json, netIp.trans sent.netIp⟩

/-! ### The states of a run -/

/-- An agent with a whole token array, a configuration whose strings fit, and an address. -/
structure Ready (netIp : UInt32) (parser : ExtJsonParser) : Prop where
  tokens : parser.json.tokens.length = extJsonTokenSize
  address : parser.netIp = netIp
  stored : Stored parser.runCfg

theorem checkDatagram_tokens {data : Bytes} {rq : Request} {size : Nat}
    (full : rq.json.tokens.length = extJsonTokenSize) :
    (checkDatagram data rq size).1.json.tokens.length = extJsonTokenSize := by
  unfold checkDatagram
  split
  · exact full
  split
  · exact full
  · rw [extJsonRequestParseCommand_json]
    exact (jsmnParse_array _ _ full).2.full

/-- A datagram is handled: what is in the out buffer then goes to its sender. -/
theorem serve_eq (parser : ExtJsonParser) (d : Datagram) :
    serve parser d = extUdpCmdSendout
      (if ¬ (received parser d.payload).2 then extUdpCmdResponseReply (received parser d.payload).1
      else if (extJsonHandle (received parser d.payload).1).2 then
        (extJsonHandle (received parser d.payload).1).1
      else extUdpCmdResponseReply (extJsonHandle (received parser d.payload).1).1)
      d.src d.srcPort :=
  rfl

theorem extJsonHandle_keeps (parser : ExtJsonParser) : Keeps parser (extJsonHandle parser).1 := by
  unfold extJsonHandle
  split
  · rename_i entry _
    have handled := handler_keeps entry parser
    generalize entry.handler parser = result at handled ⊢
    obtain ⟨next, ok⟩ := result
    cases ok with
    | true => exact handled
    | false => exact ⟨handled.json, handled.netIp⟩
  · exact ⟨rfl, rfl⟩

theorem serve_keeps (parser : ExtJsonParser) (d : Datagram) :
    Keeps (received parser d.payload).1 (serve parser d) := by
  have handled := extJsonHandle_keeps (received parser d.payload).1
  have replied (p : ExtJsonParser) := (extUdpCmdResponseReply_responded p).1.keeps
  rw [serve_eq]
  split
  · exact (replied _).trans (extUdpCmdSendout_keeps _ _ _)
  split
  · exact handled.trans (extUdpCmdSendout_keeps _ _ _)
  · exact (handled.trans (replied _)).trans (extUdpCmdSendout_keeps _ _ _)

theorem setupCfg_stored {cfg : RuntimeCfg} (stored : Stored cfg) (rx : RuntimeCfg) :
    Stored (setupCfg cfg rx) := by
  have compared := stored.compared rx
  unfold setupCfg
  simp only
  split
  · exact ⟨compared.name, compared.user, compared.password⟩
  · exact compared

theorem serve_ready {netIp : UInt32} {parser : ExtJsonParser} (ready : Ready netIp parser)
    (d : Datagram) : Ready netIp (serve parser d) := by
  obtain ⟨json, address⟩ := serve_keeps parser d
  refine ⟨?_, address.trans ready.address, ?_⟩
  · rw [json]
    exact checkDatagram_tokens ready.tokens
  · unfold serve
    rw [rawUdpEchoRecv_runCfg]
    cases setParamsAsked parser d.payload with
    | none => exact ready.stored
    | some rx => exact setupCfg_stored ready.stored rx

/-! ### What a datagram leads to -/

/-- A datagram that passes, and whose command finds its keys settled. -/
structure SelfContained (cfg : RuntimeCfg) (p : Bytes) : Prop where
  passes : Passes { runCfg := cfg } p
  keys : ∀ key ∈ requestKeys cfg (received { runCfg := cfg } p).1.toRequest,
    ∃ k, (received { runCfg := cfg } p).1.json.Settled (textEnd p) key k

/-- What an agent does about a datagram: the frames it sends, the calls it makes and the
configuration it has then. -/
def reaction (parser : ExtJsonParser) (d : Datagram) : List Sent × List HwOp × RuntimeCfg :=
  ((serve parser d).sent.drop parser.sent.length, (serve parser d).ops.drop parser.ops.length,
    (serve parser d).runCfg)

/-- The frame that answers a datagram, and what was done before, are those of a fresh agent. -/
theorem serve_fresh {netIp : UInt32} {parser : ExtJsonParser} (ready : Ready netIp parser)
    {d : Datagram} (contained : SelfContained parser.runCfg d.payload) :
    Twins (freshAgent parser) parser (serve (freshAgent parser) d) (serve parser d) := by
  obtain ⟨⟨covered, ok, settled⟩, keys⟩ := contained
  have passes : Passes parser d.payload := ⟨covered, ok, settled⟩
  obtain ⟨ok', request, tokens⟩ := received_settled passes ready.tokens
  have twins : Twins (freshAgent parser) parser (received (freshAgent parser) d.payload).1
      (received parser d.payload).1 :=
    ⟨rfl, rfl, rfl, request, ⟨[], (List.append_nil _).symm, (List.append_nil _).symm⟩,
      ⟨[], (List.append_nil _).symm, (List.append_nil _).symm⟩⟩
  have inOrder := received_inOrder passes.ok
  obtain ⟨same, twins, text, fails, replies⟩ := extJsonHandle_congr twins inOrder ready.stored
    fun key mem => by
      obtain ⟨k, settled⟩ := keys key mem
      exact tokens.reading settled
  rw [serve_eq, serve_eq, if_neg (not_not.mpr passes.ok), if_neg (not_not.mpr ok'), ← same]
  generalize extJsonHandle (received (freshAgent parser) d.payload).1 = result at *
  generalize extJsonHandle (received parser d.payload).1 = result' at *
  by_cases done : result.2 = true
  · rw [if_pos done, if_pos done]
    exact twins.sends (replies done) _ _
  · rw [if_neg done, if_neg done]
    have answerable : Answerable result.1.toRequest :=
      ⟨text, .inr (fails (Bool.eq_false_iff.mpr done))⟩
    obtain ⟨twins, frame⟩ := twins.answer answerable
    exact twins.sends frame _ _

/-- An agent does about a self-contained datagram what a fresh one does. -/
theorem reaction_fresh {netIp : UInt32} {parser : ExtJsonParser} (ready : Ready netIp parser)
    {d : Datagram} (contained : SelfContained parser.runCfg d.payload) :
    reaction parser d = reaction (freshAgent parser) d := by
  have twins := serve_fresh ready contained
  obtain ⟨frames, sent, sent'⟩ := twins.sent
  obtain ⟨calls, ops, ops'⟩ := twins.ops
  unfold reaction
  rw [sent, sent', ops, ops', twins.runCfg]
  simp only [List.drop_left]

/-! ### Two histories -/

/-- A device that has just started. -/
def startedAgent (cfg : RuntimeCfg) (netIp : UInt32) (allocs : List Bool) : ExtJsonParser :=
  { runCfg := cfg, netIp := netIp, pbufAllocs := allocs }

/-- Whatever two devices of the same address have received, as long as both have the
configuration `cfg` now and find the same memory for their pbufs, they do the same about a
datagram. -/
def Independent (cfg : RuntimeCfg) (d : Datagram) : Prop :=
  ∀ (netIp : UInt32) (start start' : RuntimeCfg) (allocs allocs' : List Bool)
    (earlier earlier' : List Datagram), Stored start → Stored start' →
    (Lib.run serve (startedAgent start netIp allocs) earlier).runCfg = cfg →
    (Lib.run serve (startedAgent start' netIp allocs') earlier').runCfg = cfg →
    (Lib.run serve (startedAgent start netIp allocs) earlier).pbufAllocs =
      (Lib.run serve (startedAgent start' netIp allocs') earlier').pbufAllocs →
    reaction (Lib.run serve (startedAgent start netIp allocs) earlier) d =
      reaction (Lib.run serve (startedAgent start' netIp allocs') earlier') d

theorem run_ready {cfg : RuntimeCfg} (stored : Stored cfg) (netIp : UInt32) (allocs : List Bool)
    (ds : List Datagram) : Ready netIp (Lib.run serve (startedAgent cfg netIp allocs) ds) :=
  Lib.run_invariant_of_step (Ready netIp) (fun _ d ready => serve_ready ready d)
    ⟨List.length_replicate, rfl, stored⟩ ds

/-- For a self-contained datagram all histories that leave the same configuration are one. -/
theorem independent_of_history {cfg : RuntimeCfg} {d : Datagram}
    (contained : SelfContained cfg d.payload) : Independent cfg d := by
  intro netIp start start' allocs allocs' earlier earlier' stored stored' here here' memory
  have ready := run_ready stored netIp allocs earlier
  have ready' := run_ready stored' netIp allocs' earlier'
  generalize Lib.run serve (startedAgent start netIp allocs) earlier = parser at *
  generalize Lib.run serve (startedAgent start' netIp allocs') earlier' = parser' at *
  subst here
  rw [reaction_fresh ready contained, reaction_fresh ready' (here' ▸ contained)]
  congr 1
  unfold freshAgent
  rw [here', ready.address, ready'.address, memory]

/-- A request for the configuration of a device with factory settings. -/
def plainRequest : Datagram :=
  ⟨ipaddrAddr (str "192.168.168.1"), 50000, requestFrame
    (str "\x7b\"targ\":\"ff:ff:ff:ff:ff:ff\",\"cmd\":\"get_param\",\"login-ack\":\"admin\"," ++
      str "\"pwd-msg\":\"admin\"\x7d")⟩

/-- A key with a value that is no number. -/
theorem Json.Settled.of_text {j : Json} {m k : Nat} {key : Bytes}
    (found : 0 < k ∧ k + 1 < j.toknext ∧ jsoneq j.text (j.token k) key = true ∧
      (∀ i < k, 0 < i → jsoneq j.text (j.token i) key = false) ∧
      (j.token (k + 1)).type ≠ .primitive) : j.Settled m key k := by
  obtain ⟨pos, value, reads, first, noNumber⟩ := found
  refine ⟨⟨pos, by omega, reads, fun i iPos lt => first i lt iPos⟩, value, ?_⟩
  intro number
  exact absurd number noNumber

/-- The keys of the request stand at every other token. -/
theorem independent_plain : Independent (extCfgFromFactory .extt {}) plainRequest := by
  have keys : requestKeys (extCfgFromFactory .extt {})
      (received { runCfg := extCfgFromFactory .extt {} } plainRequest.payload).1.toRequest =
        [str "login-ack", str "pwd-msg"] := by decide +kernel
  refine independent_of_history ⟨⟨by decide +kernel, by decide +kernel, ?_⟩, ?_⟩
  · simp only [List.forall_mem_cons]
    exact ⟨⟨1, .of_text (by decide +kernel)⟩, ⟨3, .of_text (by decide +kernel)⟩, by simp⟩
  · rw [keys]
    simp only [List.forall_mem_cons]
    exact ⟨⟨5, .of_text (by decide +kernel)⟩, ⟨7, .of_text (by decide +kernel)⟩, by simp⟩

/-- A datagram with the tag of no request. -/
def strayDatagram : Datagram := ⟨ipaddrAddr (str "192.168.168.1"), 50000, [0, 0, 0, 0]⟩

/-- The answer to a datagram that is no request names the command of the one before. -/
theorem command_of_another : ¬ Independent (extCfgFromFactory .extt {}) strayDatagram := by
  intro independent
  have same := independent 0 (extCfgFromFactory .extt {}) (extCfgFromFactory .extt {}) [] [] []
    [plainRequest] ⟨by decide +kernel, by decide +kernel, by decide +kernel⟩
    ⟨by decide +kernel, by decide +kernel, by decide +kernel⟩ (by decide +kernel)
    (by decide +kernel) (by decide +kernel)
  exact absurd same (by decide +kernel)

end LwipExt.UdpCmd
