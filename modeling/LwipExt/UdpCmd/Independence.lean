import LwipExt.UdpCmd.ConfigText
import LwipExt.UdpCmd.Configuration
import LwipExt.UdpCmd.Settled

/-!
What the agent does about a datagram, and what earlier datagrams have to do with it.

The agent keeps a parser object and a receive buffer from one datagram to the next.
`handler_congr` and `extJsonHandle_congr` are the main results: a command, and the handling of a
text, do the same to two agents that differ in nothing but what earlier datagrams left.
-/

namespace LwipExt.UdpCmd

/-! ### Two agents with different pasts -/

/-- Two agents that have added the same to what they had sent and done before, with the same
configuration and the same request up to its text. -/
structure Twins (before before' parser parser' : ExtJsonParser) : Prop where
  runCfg : parser.runCfg = parser'.runCfg
  netIp : parser.netIp = parser'.netIp
  allocs : parser.pbufAllocs = parser'.pbufAllocs
  request : SameRequest parser.toRequest parser'.toRequest
  sent : ∃ added, parser.sent = before.sent ++ added ∧ parser'.sent = before'.sent ++ added
  ops : ∃ added, parser.ops = before.ops ++ added ∧ parser'.ops = before'.ops ++ added

/-- The results of a handler on two such agents: both fail with a message that fits, or both
have prepared the same frame. -/
structure SameOutcome (before before' : ExtJsonParser) (result result' : ExtJsonParser × Bool) :
    Prop where
  ok : result.2 = result'.2
  twins : Twins before before' result.1 result'.1
  text : result.1.cmd.length < cmdSize
  fails : result.2 = false → result.1.report.msg.length < extJsonMessageSize
  replies : result.2 = true → frameOf result.1 = frameOf result'.1

section Twins

variable {before before' parser parser' : ExtJsonParser}

/-- The same report on both sides. -/
theorem Twins.reported (twins : Twins before before' parser parser') (r : Report) :
    Twins before before' { parser with toRequest := { parser.toRequest with report := r } }
      { parser' with toRequest := { parser'.toRequest with report := r } } :=
  ⟨twins.runCfg, twins.netIp, twins.allocs, ⟨rfl, twins.request.target, twins.request.cmd⟩,
    twins.sent, twins.ops⟩

/-- What is printed on both sides. -/
theorem Twins.framed (twins : Twins before before' parser parser') {next next' : ExtJsonParser}
    (framed : Framed parser next) (framed' : Framed parser' next') :
    Twins before before' next next' := by
  obtain ⟨out, index, rfl⟩ := framed
  obtain ⟨out', index', rfl⟩ := framed'
  exact ⟨twins.runCfg, twins.netIp, twins.allocs, twins.request, twins.sent, twins.ops⟩

/-- Whatever is noted of the request. -/
theorem Twins.notes (twins : Twins before before' parser parser') (data data' : MuxSetupData) :
    Twins before before' { parser with setupData := data } { parser' with setupData := data' } :=
  ⟨twins.runCfg, twins.netIp, twins.allocs, twins.request, twins.sent, twins.ops⟩

/-- The same hardware calls on both sides. -/
theorem Twins.does (twins : Twins before before' parser parser') (ops : List HwOp) :
    Twins before before' { parser with ops := parser.ops ++ ops }
      { parser' with ops := parser'.ops ++ ops } := by
  obtain ⟨added, done, done'⟩ := twins.ops
  refine ⟨twins.runCfg, twins.netIp, twins.allocs, twins.request, twins.sent, added ++ ops, ?_, ?_⟩
  · rw [done, List.append_assoc]
  · rw [done', List.append_assoc]

/-- The same frame is sent on both sides. -/
theorem Twins.sends (twins : Twins before before' parser parser')
    (frame : frameOf parser = frameOf parser') (ip : UInt32) (port : UInt16) :
    Twins before before' (extUdpCmdSendout parser ip port) (extUdpCmdSendout parser' ip port) := by
  obtain ⟨added, sent, sent'⟩ := twins.sent
  rw [extUdpCmdSendout_eq, extUdpCmdSendout_eq, frame, ← twins.allocs, sent, sent',
    List.append_assoc, List.append_assoc]
  exact ⟨twins.runCfg, twins.netIp, congrArg List.tail rfl, twins.request, ⟨_, rfl, rfl⟩, twins.ops⟩

theorem Twins.answerable (twins : Twins before before' parser parser')
    (answerable : Answerable parser.toRequest) : Answerable parser'.toRequest := by
  unfold Answerable Request.parseIsOk at *
  rw [← twins.request.report, ← twins.request.cmd]
  exact answerable

theorem Twins.responseHeader (twins : Twins before before' parser parser') :
    responseHeader parser.runCfg.localCfg.mac parser.toRequest =
      responseHeader parser'.runCfg.localCfg.mac parser'.toRequest := by
  unfold UdpCmd.responseHeader Request.parseIsOk
  rw [twins.runCfg, twins.request.report, twins.request.cmd]

/-- The same answer. -/
theorem Twins.answer (twins : Twins before before' parser parser')
    (answerable : Answerable parser.toRequest) :
    Twins before before' (extUdpCmdResponseReply parser) (extUdpCmdResponseReply parser') ∧
      frameOf (extUdpCmdResponseReply parser) = frameOf (extUdpCmdResponseReply parser') := by
  refine ⟨twins.framed (extUdpCmdResponseReply_responded _).1
    (extUdpCmdResponseReply_responded _).1, ?_⟩
  rw [frameOf_answer answerable, frameOf_answer (twins.answerable answerable), twins.responseHeader]

/-- The same configuration is printed. -/
theorem Twins.config (twins : Twins before before' parser parser')
    (answerable : Answerable parser.toRequest) (stored : Stored parser.runCfg) :
    Twins before before' (extJsonResponsePrintConfig parser) (extJsonResponsePrintConfig parser') ∧
      frameOf (extJsonResponsePrintConfig parser) = frameOf (extJsonResponsePrintConfig parser') := by
  refine ⟨twins.framed (extJsonResponsePrintConfig_responded _).1
    (extJsonResponsePrintConfig_responded _).1, ?_⟩
  rw [frameOf_config answerable stored,
    frameOf_config (twins.answerable answerable) (twins.runCfg ▸ stored), twins.responseHeader,
    twins.runCfg, twins.netIp]

/-- The same media data are sent. -/
theorem Twins.media (twins : Twins before before' parser parser') (stored : Stored parser.runCfg) :
    Twins before before' (extUdpCmdSendMediaData parser) (extUdpCmdSendMediaData parser') := by
  have framed (parser : ExtJsonParser) := (mediaDataText_framed parser).trans
    (extUdpCmdResponseTailCalculate_responded _).1
  have prepared : Twins before before'
      { parser with
        toRequest := parser.withStatus .ok
        setupData := { parser.setupData with scID := scIdText } }
      { parser' with
        toRequest := parser'.withStatus .ok
        setupData := { parser'.setupData with scID := scIdText } } := by
    refine ⟨twins.runCfg, twins.netIp, twins.allocs, ⟨?_, twins.request.target, twins.request.cmd⟩,
      twins.sent, twins.ops⟩
    simp only [Request.withStatus, twins.request.report]
  unfold extUdpCmdSendMediaData
  rw [← twins.runCfg]
  refine (prepared.framed (framed parser) (framed parser')).sends ?_ _ _
  rw [frameOf_media stored, frameOf_media (twins.runCfg ▸ stored), twins.runCfg]

end Twins

/-! ### The keys a command looks up -/

/-- The keys of the check of user and password. -/
def credentialKeys (cfg : RuntimeCfg) (rq : Request) : List Bytes :=
  str "login-ack" ::
    if (extJsonParseString rq.json (str "login-ack") extUserSize rq.report).2.any
        fun name => startsWith name cfg.user then
      [str "pwd-msg"]
    else []

/-- The keys `send_data_rs232` looks up behind the check. -/
def rsKeys (rq : Request) : List Bytes :=
  str "data" ::
    if (extJsonParseDataArray rq.json rq.report).2 then
      str "hexdata" ::
        if (extJsonParseString rq.json (str "hexdata") 128 rq.report).2.isSome then
          str "waitTime" ::
            if (extJsonParseUnsignedShort rq.json (str "waitTime") rq.report).2.isSome then
              [str "isFeedback"]
            else []
        else []
    else []

/-- The keys `security_check` looks up behind the check. -/
def securityKeys (rq : Request) : List Bytes :=
  str "data" ::
    if (extJsonParseDataArray rq.json rq.report).2 then
      str "set_key" ::
        if (extJsonParseString rq.json (str "set_key") 32 rq.report).2.isSome then []
        else
          str "get_status" ::
            if (extJsonParseString rq.json (str "get_status") 32 rq.report).2.isSome then []
            else [str "get_id"]
    else []

/-- The media data leave a request in order as it was, whatever is sent. -/
theorem extUdpCmdSendMediaData_kept (parser : ExtJsonParser) :
    (extUdpCmdSendMediaData parser).toRequest = parser.withStatus .ok ∧
      (extUdpCmdSendMediaData parser).runCfg = parser.runCfg := by
  obtain ⟨out, index, -, sent⟩ := extUdpCmdSendMediaData_eq parser
  rw [sent]
  exact ⟨rfl, rfl⟩

theorem Request.InOrder.withStatus {rq : Request} (inOrder : rq.InOrder) :
    rq.withStatus .ok = rq := by
  rw [Request.withStatus, ← inOrder.1]

/-- The keys a command looks up, until it fails. -/
def IpCommand.keys (cfg : RuntimeCfg) (rq : Request) (entry : IpCommand) : List Bytes :=
  credentialKeys cfg rq ++
    if (extUdpCmdIsLocal cfg rq).2 then
      match entry with
      | .getParams => []
      | .setParams => keysReached rq.json paramSteps ⟨rq.report, {}⟩
      | .sendRs232 => rsKeys rq
      | .securityCheck => securityKeys rq
    else []

/-! ### The accessors -/

/-- What a function of the request gives on both sides: a report, which stays as it was if the
function succeeds and fits otherwise. -/
def SameCheck (rq rq' : Request) (result result' : Request × Bool) : Prop :=
  ∃ r ok, result = ({ rq with report := r }, ok) ∧ result' = ({ rq' with report := r }, ok) ∧
    (ok = true → r = rq.report) ∧ (ok = false → r.msg.length < extJsonMessageSize)

theorem length_say (r : Report) (text : Bytes) :
    (r.say text).msg.length < extJsonMessageSize := by
  simp only [Report.say, snprintf, List.length_take, extJsonMessageSize]
  omega

/-- A message on both sides. -/
theorem SameCheck.says {rq rq' : Request} (r : Report) (text : Bytes) :
    SameCheck rq rq' (Request.say { rq with report := r } text, false)
      (Request.say { rq' with report := r } text, false) :=
  ⟨r.say text, false, rfl, rfl, fun ok => (by cases ok), fun _ => length_say r text⟩

theorem SameReading.dataArray {j j' : Json} (same : SameReading (str "data") j j') (r : Report) :
    extJsonParseDataArray j r = extJsonParseDataArray j' r := by
  unfold extJsonParseDataArray
  rw [same.array]

theorem extJsonParseDataArray_true {j : Json} {r r' : Report}
    (found : extJsonParseDataArray j r = (r', true)) : r' = r := by
  unfold extJsonParseDataArray extJsonGetArrayObject at found
  rcases object : extJsonGetValueObject .array (str "integer") j (str "data") r with ⟨r₁, _ | tok⟩
  · rw [object] at found
    cases found
  · rw [object] at found
    cases found
    exact extJsonGetValueObject_some object

theorem extJsonParseUnsignedShort_some {j : Json} {key : Bytes} {r r' : Report} {value : UInt16}
    (found : extJsonParseUnsignedShort j key r = (r', some value)) : r' = r := by
  unfold extJsonParseUnsignedShort extJsonParseUnsignedInteger extJsonGetPrimitiveValueObject at found
  rcases object : extJsonGetValueObject .primitive (str "integer") j key r with ⟨r₁, _ | tok⟩
  · rw [object] at found
    cases found
  · rw [object] at found
    simp only [Prod.mk.injEq] at found
    rw [← found.1]
    exact extJsonGetValueObject_some object

/-- An 8-bit number is read as the 32-bit one. -/
theorem extJsonParseUnsignedChar_some {j : Json} {key : Bytes} {r r' : Report} {value : UInt8}
    (found : extJsonParseUnsignedChar j key r = (r', some value)) : r' = r := by
  unfold extJsonParseUnsignedChar extJsonParseUnsignedInteger extJsonGetPrimitiveValueObject at found
  rcases object : extJsonGetValueObject .primitive (str "integer") j key r with ⟨r₁, _ | tok⟩
  · rw [object] at found
    cases found
  · rw [object] at found
    simp only [Prod.mk.injEq] at found
    rw [← found.1]
    exact extJsonGetValueObject_some object

section Checks

variable {rq rq' : Request} (same : SameRequest rq rq') {cfg : RuntimeCfg}

include same

theorem extJsonUserValidate_congr
    (reads : ∀ key ∈ credentialKeys cfg rq, SameReading key rq.json rq'.json) :
    SameCheck rq rq' (extJsonUserValidate cfg rq) (extJsonUserValidate cfg rq') := by
  have user := reads (str "login-ack") List.mem_cons_self
  unfold credentialKeys at reads
  unfold extJsonUserValidate
  rw [← same.report, ← user.string]
  rcases login : extJsonParseString rq.json (str "login-ack") extUserSize rq.report with
    ⟨r, _ | name⟩
  · exact SameCheck.says _ _
  obtain ⟨rfl, -⟩ := extJsonParseString_some login (by decide)
  rw [login] at reads
  simp only
  by_cases known : startsWith name cfg.user
  swap
  · rw [if_pos known, if_pos known]
    exact SameCheck.says _ _
  rw [if_neg (not_not.mpr known), if_neg (not_not.mpr known)]
  have password := reads (str "pwd-msg") (by simp [known])
  rw [← password.string]
  rcases pwd : extJsonParseString rq.json (str "pwd-msg") extUserSize rq.report with
    ⟨r, _ | name⟩
  · exact SameCheck.says _ _
  obtain ⟨rfl, -⟩ := extJsonParseString_some pwd (by decide)
  simp only
  by_cases right : startsWith name cfg.password
  · rw [if_neg (not_not.mpr right), if_neg (not_not.mpr right)]
    exact ⟨_, true, rfl, rfl, fun _ => rfl, fun ok => (by cases ok)⟩
  · rw [if_pos right, if_pos right]
    exact SameCheck.says _ _

theorem extUdpCmdIsLocal_congr
    (reads : ∀ key ∈ credentialKeys cfg rq, SameReading key rq.json rq'.json) :
    SameCheck rq rq' (extUdpCmdIsLocal cfg rq) (extUdpCmdIsLocal cfg rq') := by
  obtain ⟨r, ok, eq, eq', kept, short⟩ := extJsonUserValidate_congr same reads
  unfold extUdpCmdIsLocal
  rw [eq, eq']
  cases ok with
  | false => exact ⟨r, false, rfl, rfl, kept, short⟩
  | true =>
      have target := same.target
      simp only
      by_cases other : rq.target ≠ cfg.localCfg.mac
      · rw [if_pos other, if_pos (target ▸ other)]
        exact SameCheck.says _ _
      · rw [if_neg other, if_neg (target ▸ other)]
        exact ⟨r, true, rfl, rfl, kept, short⟩

end Checks

/-! ### The commands -/

/-- A request in order can be answered. -/
theorem Request.InOrder.answerable {rq : Request} (inOrder : rq.InOrder) : Answerable rq :=
  ⟨inOrder.2, .inl (by simpa [Request.parseIsOk] using inOrder.1)⟩

/-- The data of the id of the security check. -/
def checkIdBody : Bytes :=
  (dataBody [jsonString (str "get_id") ((bufRead scIdText 0 8).flatMap (hexByte 65))]).flatten

theorem securityCheckId_framed (parser : ExtJsonParser) :
    Framed { parser with
        toRequest := parser.withStatus .ok
        setupData := { parser.setupData with scID := scIdText } } (securityCheckId parser) := by
  unfold securityCheckId
  exact ((extUdpCmdResponseHeaderPrint_framed _).trans (printBody_framed _ _)).trans
    (extUdpCmdResponseTailCalculate_responded _).1

theorem frameOf_checkId {parser : ExtJsonParser} (cmd : parser.cmd.length < cmdSize) :
    frameOf (securityCheckId parser) = frameBytes cmdTagResponse
      ((responseHeader parser.runCfg.localCfg.mac (parser.withStatus .ok)).flatten ++ checkIdBody ++
        str "\x7d") := by
  have answerable : Answerable (parser.withStatus .ok) := ⟨cmd, .inl rfl⟩
  refine @frameOf_data { parser with
    toRequest := parser.withStatus .ok
    setupData := { parser.setupData with scID := scIdText } } answerable
      [jsonString (str "get_id") ((bufRead scIdText 0 8).flatMap (hexByte 65))] ?_
  decide +kernel

section Outcomes

variable {before before' parser parser' : ExtJsonParser}
  (twins : Twins before before' parser parser')

include twins

/-- The status of both sides is OK from here on. -/
theorem Twins.accepts (data data' : MuxSetupData) :
    Twins before before'
      { parser with toRequest := parser.withStatus .ok, setupData := data }
      { parser' with toRequest := parser'.withStatus .ok, setupData := data' } := by
  have reported := twins.reported { parser.report with status := .ok }
  rw [Request.withStatus, Request.withStatus, ← twins.request.report]
  exact reported.notes data data'

variable (cmd : parser.cmd.length < cmdSize)

include cmd

/-- A command that fails with a message on both sides. -/
theorem SameOutcome.failed {r : Report} {data data' : MuxSetupData}
    (short : r.msg.length < extJsonMessageSize) :
    SameOutcome before before'
      ({ parser with
        toRequest := { parser.toRequest with report := r }, setupData := data }, false)
      ({ parser' with
        toRequest := { parser'.toRequest with report := r }, setupData := data' }, false) :=
  ⟨rfl, (twins.reported r).notes data data', cmd, fun _ => short, fun ok => (by cases ok)⟩

theorem SameOutcome.parseFailed (r : Report) (data data' : MuxSetupData) (text : Bytes) :
    SameOutcome before before'
      (UdpCmd.parseFailed { parser with
        toRequest := { parser.toRequest with report := r }, setupData := data } text)
      (UdpCmd.parseFailed { parser' with
        toRequest := { parser'.toRequest with report := r }, setupData := data' } text) :=
  SameOutcome.failed twins cmd (length_say r text)

theorem SameOutcome.refused (text : Bytes) :
    SameOutcome before before' (UdpCmd.parseFailed parser text) (UdpCmd.parseFailed parser' text) := by
  have refused := SameOutcome.parseFailed twins cmd parser.report parser.setupData
    parser'.setupData text
  rwa [twins.request.report] at refused

/-- Both sides prepare a frame that is the same. -/
theorem SameOutcome.framed {next next' : ExtJsonParser} (framed : Framed parser next)
    (framed' : Framed parser' next') (frame : frameOf next = frameOf next') :
    SameOutcome before before' (next, true) (next', true) := by
  refine ⟨rfl, twins.framed framed framed', ?_, fun ok => (by cases ok), fun _ => frame⟩
  obtain ⟨out, index, rfl⟩ := framed
  exact cmd

/-- A command that is answered with OK on both sides. -/
theorem SameOutcome.answered (data data' : MuxSetupData) :
    SameOutcome before before'
      (extUdpCmdResponseReply
        { parser with toRequest := parser.withStatus .ok, setupData := data }, true)
      (extUdpCmdResponseReply
        { parser' with toRequest := parser'.withStatus .ok, setupData := data' }, true) := by
  have accepts := twins.accepts data data'
  refine SameOutcome.framed accepts cmd (extUdpCmdResponseReply_responded _).1
    (extUdpCmdResponseReply_responded _).1 ?_
  exact (accepts.answer ⟨cmd, .inl rfl⟩).2

/-- The id of the security check. -/
theorem SameOutcome.checkId :
    SameOutcome before before' (securityCheckId parser, true) (securityCheckId parser', true) := by
  have accepts := twins.accepts { parser.setupData with scID := scIdText }
    { parser'.setupData with scID := scIdText }
  have header : responseHeader parser.runCfg.localCfg.mac (parser.withStatus .ok) =
      responseHeader parser'.runCfg.localCfg.mac (parser'.withStatus .ok) := accepts.responseHeader
  refine SameOutcome.framed accepts cmd (securityCheckId_framed parser)
    (securityCheckId_framed parser') ?_
  rw [frameOf_checkId cmd, frameOf_checkId (twins.request.cmd ▸ cmd), header]

end Outcomes

section Commands

variable {before before' parser parser' : ExtJsonParser}
  (twins : Twins before before' parser parser')

include twins

omit twins in
/-- The report so far has nothing to do with a value. -/
theorem extJsonParseString_value (j : Json) (key : Bytes) (size : Nat) (r r' : Report) :
    (extJsonParseString j key size r).2 = (extJsonParseString j key size r').2 := by
  unfold extJsonParseString extJsonGetValueObject
  cases extJsonFindKeyToken j key with
  | none => rfl
  | some tok => by_cases other : tok.type ≠ .string <;> simp [other]

/-- A sub-command is found on both sides, or on none. -/
theorem securitySubCommand_congr {key : Bytes} (same : SameReading key parser.json parser'.json) :
    ∃ next next' found, securitySubCommand parser key = (next, found) ∧
      securitySubCommand parser' key = (next', found) ∧ Twins before before' next next' ∧
      next.json = parser.json ∧ next'.json = parser'.json ∧ next.cmd = parser.cmd ∧
      found = (extJsonParseString parser.json key 32 parser.report).2.isSome := by
  unfold securitySubCommand
  rw [← twins.request.report, ← same.string]
  rcases extJsonParseString parser.json key 32 parser.report with ⟨r, _ | value⟩
  · exact ⟨_, _, false, rfl, rfl, twins.reported r, rfl, rfl, rfl, rfl⟩
  · exact ⟨_, _, true, rfl, rfl, (twins.reported r).notes _ _, rfl, rfl, rfl, rfl⟩

variable (inOrder : parser.toRequest.InOrder) (stored : Stored parser.runCfg)

include inOrder

/-- `send_data_rs232`, once user and password are right. -/
theorem extUdpCmdSendRsData_congr
    (reads : ∀ key ∈ IpCommand.sendRs232.keys parser.runCfg parser.toRequest,
      SameReading key parser.json parser'.json) :
    SameOutcome before before' (extUdpCmdSendRsData parser) (extUdpCmdSendRsData parser') := by
  obtain ⟨r, ok, eq, eq', kept, short⟩ := extUdpCmdIsLocal_congr twins.request
    fun key mem => reads key (List.mem_append_left _ mem)
  have rest : ok = true → ∀ key ∈ rsKeys parser.toRequest,
      SameReading key parser.json parser'.json := by
    intro isOk key mem
    refine reads key (List.mem_append_right _ ?_)
    rw [eq, isOk]
    exact mem
  rw [twins.runCfg] at eq'
  unfold extUdpCmdSendRsData
  rw [eq, eq']
  cases ok with
  | false => exact SameOutcome.failed twins inOrder.2 (short rfl)
  | true =>
      obtain rfl := kept rfl
      have rest := rest rfl
      have data := (rest (str "data") List.mem_cons_self).dataArray parser.report
      unfold rsKeys at rest
      simp only [not_true_eq_false, if_false]
      rcases array : extJsonParseDataArray parser.json parser.report with ⟨r, _ | _⟩
      · rw [← data, array]
        exact SameOutcome.parseFailed twins inOrder.2 _ _ _ _
      obtain rfl := extJsonParseDataArray_true array
      rw [array] at rest
      rw [← data, array]
      simp only [not_true_eq_false, if_false]
      have hexdata := (rest (str "hexdata") (by simp)).string 128 parser.report
      rcases read : extJsonParseString parser.json (str "hexdata") 128 parser.report with
        ⟨r, _ | hex⟩
      · rw [← hexdata, read]
        exact SameOutcome.parseFailed twins inOrder.2 _ _ _ _
      obtain ⟨rfl, -⟩ := extJsonParseString_some read (by decide)
      rw [read] at rest
      rw [← hexdata, read]
      have waitTime := (rest (str "waitTime") (by simp)).short parser.report
      simp only
      rcases wait : extJsonParseUnsignedShort parser.json (str "waitTime") parser.report with
        ⟨r, _ | wait⟩
      · rw [← waitTime, wait]
        exact SameOutcome.parseFailed twins inOrder.2 _ _ _ _
      obtain rfl := extJsonParseUnsignedShort_some wait
      rw [wait] at rest
      rw [← waitTime, wait]
      have isFeedback := (rest (str "isFeedback") (by simp)).char parser.report
      simp only
      rcases feedback : extJsonParseUnsignedChar parser.json (str "isFeedback") parser.report with
        ⟨r, _ | feedback⟩
      · rw [← isFeedback, feedback]
        exact SameOutcome.parseFailed twins inOrder.2 _ _ _ _
      obtain rfl := extJsonParseUnsignedChar_some feedback
      rw [← isFeedback, feedback]
      simp only
      by_cases written : (rs232SendHexStr hex).2 = true
      · rw [if_neg (not_not.mpr written), if_neg (not_not.mpr written)]
        exact SameOutcome.answered ((twins.reported parser.report).does _) inOrder.2 _ _
      · rw [if_pos written, if_pos written]
        exact SameOutcome.parseFailed (twins.does _) inOrder.2 _ _ _ _

/-- The sub-command of `security_check`. -/
theorem securityCommand_congr
    (reads : ∀ key ∈ securityKeys parser.toRequest, SameReading key parser.json parser'.json) :
    SameOutcome before before' (securityCommand parser) (securityCommand parser') := by
  have data := (reads (str "data") List.mem_cons_self).dataArray parser.report
  unfold securityKeys at reads
  unfold securityCommand
  rw [← twins.request.report, ← data]
  rcases array : extJsonParseDataArray parser.json parser.report with ⟨r, _ | _⟩
  · exact SameOutcome.parseFailed twins inOrder.2 _ _ _ _
  obtain rfl := extJsonParseDataArray_true array
  rw [array] at reads
  have twins := twins.reported parser.report
  simp only [not_true_eq_false, if_false]
  obtain ⟨next, next', found, eq, eq', twins, json, json', cmd, isFound⟩ :=
    securitySubCommand_congr twins (reads (str "set_key") (by simp))
  have short : next.cmd.length < cmdSize := cmd ▸ inOrder.2
  rw [eq, eq']
  cases found with
  | true => exact SameOutcome.answered twins short _ _
  | false =>
      rw [← isFound] at reads
      have same := reads (str "get_status") (by simp)
      rw [← json, ← json'] at same
      obtain ⟨next₂, next₂', found, eq, eq', twins, json₂, json₂', cmd, isFound⟩ :=
        securitySubCommand_congr twins same
      have short : next₂.cmd.length < cmdSize := cmd ▸ short
      simp only
      rw [eq, eq']
      cases found with
      | true => exact SameOutcome.answered twins short _ _
      | false =>
          rw [extJsonParseString_value _ _ _ _ parser.report, json] at isFound
          simp only [← isFound] at reads
          have same := reads (str "get_id") (by simp)
          rw [← json, ← json', ← json₂, ← json₂'] at same
          obtain ⟨next₃, next₃', found, eq, eq', twins, -, -, cmd, -⟩ :=
            securitySubCommand_congr twins same
          have short : next₃.cmd.length < cmdSize := cmd ▸ short
          simp only
          rw [eq, eq']
          cases found with
          | true => exact SameOutcome.checkId twins short
          | false =>
              exact SameOutcome.refused twins short _

include stored

theorem extUdpCmdSecurityCheck_congr
    (reads : ∀ key ∈ IpCommand.securityCheck.keys parser.runCfg parser.toRequest,
      SameReading key parser.json parser'.json) :
    SameOutcome before before' (extUdpCmdSecurityCheck parser) (extUdpCmdSecurityCheck parser') := by
  have inOrder' : parser'.toRequest.InOrder := by
    unfold Request.InOrder
    rw [← twins.request.report, ← twins.request.cmd]
    exact inOrder
  have twins := twins.media stored
  obtain ⟨kept, cfg⟩ := extUdpCmdSendMediaData_kept parser
  obtain ⟨kept', -⟩ := extUdpCmdSendMediaData_kept parser'
  rw [inOrder.withStatus] at kept
  rw [inOrder'.withStatus] at kept'
  unfold extUdpCmdSecurityCheck
  generalize extUdpCmdSendMediaData parser = next at *
  generalize extUdpCmdSendMediaData parser' = next' at *
  rw [← kept] at inOrder reads
  rw [← kept'] at reads
  rw [← cfg] at reads
  obtain ⟨r, ok, eq, eq', same, short⟩ := extUdpCmdIsLocal_congr twins.request
    fun key mem => reads key (List.mem_append_left _ mem)
  rw [twins.runCfg] at eq'
  simp only
  rw [eq, eq']
  cases ok with
  | false => exact SameOutcome.failed twins inOrder.2 (short rfl)
  | true =>
      obtain rfl := same rfl
      refine securityCommand_congr (twins.reported next.report) inOrder fun key mem => ?_
      refine reads key (List.mem_append_right _ ?_)
      rw [eq]
      exact mem

theorem extUdpCmdGetParams_congr
    (reads : ∀ key ∈ credentialKeys parser.runCfg parser.toRequest,
      SameReading key parser.json parser'.json) :
    SameOutcome before before' (extUdpCmdGetParams parser) (extUdpCmdGetParams parser') := by
  obtain ⟨r, ok, eq, eq', kept, short⟩ := extJsonUserValidate_congr twins.request reads
  rw [twins.runCfg] at eq'
  unfold extUdpCmdGetParams
  rw [eq, eq']
  cases ok with
  | false => exact SameOutcome.failed twins inOrder.2 (short rfl)
  | true =>
      obtain rfl := kept rfl
      simp only [not_true_eq_false, if_false]
      by_cases other : parser.target ≠ parser.runCfg.localCfg.mac ∧
          ¬ macAddrIsBoardcast parser.target ∧ parser.target ≠ parser.runCfg.dest.mac
      · have other' := other
        rw [twins.runCfg, twins.request.target] at other'
        rw [if_pos other, if_pos other']
        exact SameOutcome.failed twins inOrder.2 (length_say _ _)
      · have other' := other
        rw [twins.runCfg, twins.request.target] at other'
        rw [if_neg other, if_neg other']
        obtain ⟨same, frame⟩ := (twins.reported parser.report).config inOrder.answerable stored
        obtain ⟨⟨out, index, printed⟩, -⟩ := extJsonResponsePrintConfig_responded parser
        refine ⟨rfl, same, ?_, fun ok => (by cases ok), fun _ => frame⟩
        rw [printed]
        exact inOrder.2

end Commands

/-! ### `set_param` -/

/-- Where a parse stops there is a message. -/
theorem runSteps_error {j : Json} {steps : List ParamStep} {p p' : Parsed}
    (refuses : ∀ s ∈ steps, ∀ p p', s.run j p = .error p' →
      p'.report.msg.length < extJsonMessageSize)
    (refused : runSteps j steps p = .error p') : p'.report.msg.length < extJsonMessageSize := by
  induction steps generalizing p with
  | nil => cases refused
  | cons s steps ih =>
      rw [runSteps] at refused
      cases step : s.run j p with
      | error q =>
          rw [step] at refused
          cases refused
          exact refuses s List.mem_cons_self p _ step
      | ok q =>
          rw [step] at refused
          exact ih (fun s mem => refuses s (List.mem_cons_of_mem _ mem)) refused

theorem length_refuse (p : Parsed) (text : Bytes) :
    (p.refuse text).report.msg.length < extJsonMessageSize :=
  length_say p.report text

theorem oneOf_error {p p' : Parsed} {key : Bytes} {value : RuntimeCfg → UInt32}
    {admitted : List UInt32} (refused : p.oneOf key value admitted = .error p') :
    p'.report.msg.length < extJsonMessageSize := by
  unfold Parsed.oneOf at refused
  split at refused
  · cases refused
  · cases refused
    exact length_refuse _ _

theorem named_error {j : Json} {p p' : Parsed} {key : Bytes} {table : List (UInt16 × Bytes)}
    {store : RuntimeCfg → UInt8 → RuntimeCfg} (refused : p.named j key table store = .error p') :
    p'.report.msg.length < extJsonMessageSize := by
  unfold Parsed.named at refused
  split at refused
  · cases refused
  split at refused
  · cases refused
  split at refused
  · cases refused
  · cases refused
    exact length_refuse _ _

theorem extJsonRequestParse_error {j : Json} {r : Report} {p : Parsed}
    (refused : extJsonRequestParse j r = .error p) : p.report.msg.length < extJsonMessageSize := by
  have mcastIp (key : Bytes) (j : Json) (p p' : Parsed)
      (refused : (ParamStep.mcastIp key).run j p = .error p') :
      p'.report.msg.length < extJsonMessageSize := by
    unfold ParamStep.mcastIp at refused
    simp only at refused
    split at refused
    · cases refused
      exact length_refuse _ _
    · cases refused
  rw [extJsonRequestParse_eq] at refused
  refine runSteps_error ?_ refused
  simp only [paramSteps, systemSteps, rs232Steps, protocolSteps, mediaSteps, List.cons_append,
    List.nil_append, List.forall_mem_cons, ParamStep.string, ParamStep.mac, ParamStep.ipAddress,
    ParamStep.flag, ParamStep.integerOf, ParamStep.short, ParamStep.shortOf, ParamStep.char,
    ParamStep.charOf, ParamStep.named, reduceCtorEq, false_implies, implies_true, true_and]
  refine ⟨fun _ _ => oneOf_error, fun _ _ => oneOf_error, fun _ _ => oneOf_error,
    fun _ _ => named_error, mcastIp _ j, fun _ _ => named_error, fun _ _ => oneOf_error,
    fun _ _ => oneOf_error, fun _ _ => oneOf_error, ?_⟩
  simp

/-- The configuration a request leaves has strings that fit. -/
theorem Stored.compared {cfg : RuntimeCfg} (stored : Stored cfg) (rx : RuntimeCfg) :
    Stored (compareCfg cfg rx).runCfg := by
  refine ⟨?_, stored.user, stored.password⟩
  have name : (compareCfg cfg rx).runCfg.name = (checkName cfg.name rx.name).getD cfg.name := rfl
  rw [name]
  unfold checkName
  split
  · simp only [Option.getD_some, snprintf, List.length_take, cfgNameSize]
    omega
  · exact stored.name

section Setup

variable {before before' parser parser' : ExtJsonParser}
  (twins : Twins before before' parser parser')

include twins

/-- The same configuration on both sides. -/
theorem Twins.configured (cfg : RuntimeCfg) :
    Twins before before' { parser with runCfg := cfg } { parser' with runCfg := cfg } :=
  ⟨rfl, twins.netIp, twins.allocs, twins.request, twins.sent, twins.ops⟩

/-- What `set_param` does with the values it is asked for. -/
theorem setupApply_congr (cmd : parser.cmd.length < cmdSize) (stored : Stored parser.runCfg)
    (rx : RuntimeCfg) :
    SameOutcome before before' (setupApply parser rx, true) (setupApply parser' rx, true) := by
  unfold setupApply
  rw [← twins.runCfg]
  have stored := stored.compared rx
  have twins := twins.configured (compareCfg parser.runCfg rx).runCfg
  generalize compareCfg parser.runCfg rx = s at *
  have twins := twins.media stored
  obtain ⟨request, cfg⟩ := extUdpCmdSendMediaData_kept { parser with runCfg := s.runCfg }
  simp only
  generalize extUdpCmdSendMediaData { parser with runCfg := s.runCfg } = next at *
  generalize extUdpCmdSendMediaData { parser' with runCfg := s.runCfg } = next' at *
  have answerable : Answerable next.toRequest := by
    rw [request]
    exact ⟨cmd, .inl rfl⟩
  obtain ⟨twins, frame⟩ := twins.config answerable (by rw [cfg]; exact stored)
  have framed := (extJsonResponsePrintConfig_responded next).1
  have short : (extJsonResponsePrintConfig next).cmd.length < cmdSize := by
    obtain ⟨out, index, printed⟩ := framed
    rw [printed]
    exact answerable.1
  generalize extJsonResponsePrintConfig next = last at *
  generalize extJsonResponsePrintConfig next' = last' at *
  rw [← twins.runCfg]
  have twins := (twins.configured last.runCfg).does (setupActions s.setupType last.runCfg)
  split
  · have twins := (twins.configured (extUdpCmdConnect last.runCfg).1).does
      (extUdpCmdConnect last.runCfg).2
    exact ⟨rfl, twins, short, fun ok => (by cases ok), fun _ => frame⟩
  · exact ⟨rfl, twins, short, fun ok => (by cases ok), fun _ => frame⟩

/-- `set_param`, once user and password are right. -/
theorem extUdpCmdSetupParams_congr (inOrder : parser.toRequest.InOrder)
    (stored : Stored parser.runCfg)
    (reads : ∀ key ∈ IpCommand.setParams.keys parser.runCfg parser.toRequest,
      SameReading key parser.json parser'.json) :
    SameOutcome before before' (extUdpCmdSetupParams parser) (extUdpCmdSetupParams parser') := by
  obtain ⟨r, ok, eq, eq', kept, short⟩ := extUdpCmdIsLocal_congr twins.request
    fun key mem => reads key (List.mem_append_left _ mem)
  have rest : ok = true → ∀ key ∈ keysReached parser.json paramSteps ⟨parser.report, {}⟩,
      SameReading key parser.json parser'.json := by
    intro isOk key mem
    refine reads key (List.mem_append_right _ ?_)
    rw [eq, isOk]
    exact mem
  rw [twins.runCfg] at eq'
  unfold extUdpCmdSetupParams setupRequest
  rw [eq, eq']
  cases ok with
  | false => exact SameOutcome.failed twins inOrder.2 (short rfl)
  | true =>
      obtain rfl := kept rfl
      have same := extJsonRequestParse_congr (rest rfl)
      simp only
      rw [← same]
      cases parse : extJsonRequestParse parser.json parser.report with
      | error p => exact SameOutcome.failed twins inOrder.2 (extJsonRequestParse_error parse)
      | ok p => exact setupApply_congr (twins.reported p.report) inOrder.2 stored p.tmpCfg

/-- The same command on two agents that read its keys alike. -/
theorem handler_congr (entry : IpCommand) (inOrder : parser.toRequest.InOrder)
    (stored : Stored parser.runCfg)
    (reads : ∀ key ∈ entry.keys parser.runCfg parser.toRequest,
      SameReading key parser.json parser'.json) :
    SameOutcome before before' (entry.handler parser) (entry.handler parser') := by
  cases entry with
  | getParams =>
      exact extUdpCmdGetParams_congr twins inOrder stored
        fun key mem => reads key (List.mem_append_left _ mem)
  | setParams => exact extUdpCmdSetupParams_congr twins inOrder stored reads
  | sendRs232 => exact extUdpCmdSendRsData_congr twins inOrder reads
  | securityCheck => exact extUdpCmdSecurityCheck_congr twins inOrder stored reads

end Setup

/-! ### A datagram -/

/-- The keys a request looks up; a request without a command of the table looks up none. -/
def requestKeys (cfg : RuntimeCfg) (rq : Request) : List Bytes :=
  match ipCommandOf rq.cmd with
  | some entry => entry.keys cfg rq
  | none => []

section Datagram

variable {before before' parser parser' : ExtJsonParser}
  (twins : Twins before before' parser parser')

include twins

/-- What is prepared for sending on both sides once the request is handled. -/
theorem extJsonHandle_congr (inOrder : parser.toRequest.InOrder) (stored : Stored parser.runCfg)
    (reads : ∀ key ∈ requestKeys parser.runCfg parser.toRequest,
      SameReading key parser.json parser'.json) :
    SameOutcome before before' (extJsonHandle parser) (extJsonHandle parser') := by
  unfold requestKeys at reads
  unfold extJsonHandle
  rw [← twins.request.cmd]
  cases table : ipCommandOf parser.cmd with
  | none => exact SameOutcome.refused twins inOrder.2 _
  | some entry =>
      rw [table] at reads
      obtain ⟨ok, twins, text, fails, replies⟩ := handler_congr twins entry inOrder stored reads
      simp only
      generalize entry.handler parser = result at *
      generalize entry.handler parser' = result' at *
      obtain ⟨next, done⟩ := result
      obtain ⟨next', done'⟩ := result'
      cases ok
      cases done with
      | true => exact ⟨rfl, twins, text, fun ok => (by cases ok), replies⟩
      | false =>
          have report : next.report = next'.report := twins.request.report
          have short : next.report.msg.length < extJsonMessageSize := fails rfl
          simp only [Bool.false_eq_true, if_false, Request.withStatus, ← report]
          exact @SameOutcome.failed _ _ _ _ twins text
            { next.report with status := .parseParamError } next.setupData next'.setupData short

end Datagram

end LwipExt.UdpCmd
