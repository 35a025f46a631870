import LwipExt.UdpCmd.Main

/-!
What the IP command agent sends for one datagram.

Every datagram is answered to its sender, and `security_check` and an accepted
`set_param` also send the media data to the configured destination. Both frames have the
tag of a response. `mediaAsked` reads off the request whether and where the media data
go; `rawUdpEchoRecv_sent` says what is sent.
-/

namespace LwipExt.UdpCmd

/-! ### What a request asks for -/

/-- Where the handler of a command sends the media data, if it does. -/
def IpCommand.media (runCfg : RuntimeCfg) (rq : Request) : IpCommand → Option UInt32
  | .setParams => (acceptedRequest runCfg rq).map fun rx =>
      (checkAddress rx.dest.ip).getD runCfg.dest.ip
  | .securityCheck => some runCfg.dest.ip
  | .getParams => none
  | .sendRs232 => none

/-- Where a command that was parsed makes its handler send the media data. -/
def commandMedia (runCfg : RuntimeCfg) (rq : Request) : Option UInt32 :=
  (ipCommandOf rq.cmd).bind fun entry => entry.media runCfg rq

/-- Where a datagram makes the agent send the media data. A datagram that fails a check
asks for none. -/
def mediaAsked (parser : ExtJsonParser) (p : Bytes) : Option UInt32 :=
  let (rq, ok) := checkDatagram (receivedBuffer parser.bufRead p) parser.toRequest (receivedSize p)
  if ok then commandMedia parser.runCfg rq else none

/-! ### What a handler sends -/

/-- The media data that are sent, if there is a pbuf for them. -/
def mediaSent (allocated : Bool) (frame : Bytes) (media : Option UInt32) : List Sent :=
  match media with
  | some ip => if allocated then [⟨ip, extCtrlPort, frame⟩] else []
  | none => []

/-- The reply, if there is a pbuf for it. -/
def replySent (allocated : Bool) (addr : UInt32) (port : UInt16) (frame : Bytes) : List Sent :=
  if allocated then [⟨addr, port, frame⟩] else []

theorem mem_mediaSent {allocated : Bool} {frame : Bytes} {media : Option UInt32} {m : Sent}
    (mem : m ∈ mediaSent allocated frame media) :
    ∃ ip, media = some ip ∧ m = ⟨ip, extCtrlPort, frame⟩ := by
  cases media with
  | none => cases mem
  | some ip =>
      cases allocated with
      | false => cases mem
      | true => exact ⟨ip, rfl, List.mem_singleton.mp mem⟩

theorem mem_replySent {allocated : Bool} {addr : UInt32} {port : UInt16} {frame : Bytes} {m : Sent}
    (mem : m ∈ replySent allocated addr port frame) : m = ⟨addr, port, frame⟩ := by
  cases allocated with
  | false => cases mem
  | true => exact List.mem_singleton.mp mem

/-- From `parser` to `parser'` the media data were sent to `media`, in a frame with the tag
of a response, and nothing else was. -/
def SendsMedia (parser parser' : ExtJsonParser) (media : Option UInt32) : Prop :=
  ∃ frame, tagOf frame = cmdTagResponse ∧
    parser'.sent = parser.sent ++ mediaSent (parser.pbufAllocs.headD true) frame media ∧
    parser'.pbufAllocs = if media.isSome then parser.pbufAllocs.tail else parser.pbufAllocs

/-- What is common to the handlers: they send the media data or nothing, and if they succeed
the reply is in the out buffer. -/
structure HandlerSpec (parser : ExtJsonParser) (result : ExtJsonParser × Bool)
    (media : Option UInt32) : Prop where
  sends : SendsMedia parser result.1 media
  replied : result.2 = true → tagOf (frameOf result.1) = cmdTagResponse

theorem SendsMedia.none {parser parser' : ExtJsonParser} (sent : parser'.sent = parser.sent)
    (allocs : parser'.pbufAllocs = parser.pbufAllocs) : SendsMedia parser parser' none :=
  ⟨short16 cmdTagResponse, by decide, by simp [sent, mediaSent], by simpa using allocs⟩

/-- A handler that fails before it sends anything. -/
theorem HandlerSpec.fails {parser parser' : ExtJsonParser} (sent : parser'.sent = parser.sent)
    (allocs : parser'.pbufAllocs = parser.pbufAllocs) :
    HandlerSpec parser (parser', false) Option.none :=
  ⟨.none sent allocs, fun h => by cases h⟩

/-- A handler that only replies. -/
theorem HandlerSpec.replies {parser before parser' : ExtJsonParser}
    (responded : Responded before parser') (sent : before.sent = parser.sent)
    (allocs : before.pbufAllocs = parser.pbufAllocs) :
    HandlerSpec parser (parser', true) Option.none := by
  obtain ⟨⟨out, index, rfl⟩, tagged⟩ := responded
  exact ⟨.none sent allocs, fun _ => tagged⟩

/-- What comes after the media data leaves them as the only thing sent. -/
theorem SendsMedia.then {parser parser' parser'' : ExtJsonParser} {media : Option UInt32}
    (sends : SendsMedia parser parser' media) (sent : parser''.sent = parser'.sent)
    (allocs : parser''.pbufAllocs = parser'.pbufAllocs) : SendsMedia parser parser'' media := by
  obtain ⟨frame, tagged, sentMedia, rest⟩ := sends
  exact ⟨frame, tagged, sent.trans sentMedia, allocs.trans rest⟩

/-- The same for a handler that goes on after the media data. -/
theorem HandlerSpec.after {parser parser' : ExtJsonParser} {result : ExtJsonParser × Bool}
    {media : Option UInt32} (spec : HandlerSpec parser' result Option.none)
    (sends : SendsMedia parser parser' media) : HandlerSpec parser result media := by
  obtain ⟨⟨frame, -, sent, allocs⟩, replied⟩ := spec
  refine ⟨sends.then ?_ ?_, replied⟩
  · simpa [mediaSent] using sent
  · simpa using allocs

/-- The same for what comes behind a step that sends nothing. -/
theorem HandlerSpec.behind {parser parser' : ExtJsonParser} {result : ExtJsonParser × Bool}
    {media : Option UInt32} (spec : HandlerSpec parser' result media)
    (quiet : SendsMedia parser parser' Option.none) : HandlerSpec parser result media := by
  obtain ⟨_, -, sent, allocs⟩ := quiet
  simp only [mediaSent, List.append_nil, Option.isSome_none, Bool.false_eq_true, if_false]
    at sent allocs
  obtain ⟨⟨frame, tagged, sentMedia, rest⟩, replied⟩ := spec
  rw [sent, allocs] at sentMedia
  rw [allocs] at rest
  exact ⟨⟨frame, tagged, sentMedia, rest⟩, replied⟩

theorem extUdpCmdResponseReply_spec (parser : ExtJsonParser) :
    HandlerSpec parser (extUdpCmdResponseReply parser, true) none :=
  .replies (extUdpCmdResponseReply_responded _) rfl rfl

theorem extUdpCmdGetParams_spec (parser : ExtJsonParser) :
    HandlerSpec parser (extUdpCmdGetParams parser) none := by
  unfold extUdpCmdGetParams
  simp only
  split
  · exact .fails rfl rfl
  split
  · exact .fails rfl rfl
  · exact .replies (extJsonResponsePrintConfig_responded _) rfl rfl

theorem extUdpCmdSendRsData_spec (parser : ExtJsonParser) :
    HandlerSpec parser (extUdpCmdSendRsData parser) none := by
  unfold extUdpCmdSendRsData
  simp only
  -- One case for each thing that may be missing or wrong.
  split
  · exact .fails rfl rfl
  split
  · exact .fails rfl rfl
  split
  · exact .fails rfl rfl
  split
  · exact .fails rfl rfl
  split
  · exact .fails rfl rfl
  split
  · exact .fails rfl rfl
  · exact .replies (extUdpCmdResponseReply_responded _) rfl rfl

/-- Sending the media data is what it is called. -/
theorem extUdpCmdSendMediaData_sends (parser : ExtJsonParser) :
    SendsMedia parser (extUdpCmdSendMediaData parser) (some parser.runCfg.dest.ip) := by
  obtain ⟨out, index, tagged, result⟩ := extUdpCmdSendMediaData_eq parser
  rw [result]
  exact ⟨bufRead out 0 index, tagged, rfl, rfl⟩

/-- Looking for a sub-command sends nothing. -/
theorem securitySubCommand_sends (parser : ExtJsonParser) (key : Bytes) :
    SendsMedia parser (securitySubCommand parser key).1 none := by
  unfold securitySubCommand
  split
  · exact .none rfl rfl
  · exact .none rfl rfl

theorem securityCheckId_spec (parser : ExtJsonParser) :
    HandlerSpec parser (securityCheckId parser, true) none := by
  unfold securityCheckId
  exact .replies (((extUdpCmdResponseHeaderPrint_framed _).trans (printBody_framed _ _)).responded
    (extUdpCmdResponseTailCalculate_responded _)) rfl rfl

theorem securityCommand_spec (parser : ExtJsonParser) :
    HandlerSpec parser (securityCommand parser) none := by
  have reply (p : ExtJsonParser) :
      HandlerSpec p (extUdpCmdResponseReply { p with toRequest := p.withStatus .ok }, true) none :=
    (extUdpCmdResponseReply_spec _).after (.none rfl rfl)
  unfold securityCommand
  simp only
  split
  · exact .fails rfl rfl
  generalize reported : ({ parser with
    report := (extJsonParseDataArray parser.json parser.report).1 } : ExtJsonParser) = parser₁
  have quiet : SendsMedia parser parser₁ none := by
    subst reported
    exact .none rfl rfl
  refine HandlerSpec.after ?_ quiet
  -- The three keys are tried one after the other.
  have setKey := securitySubCommand_sends parser₁ (str "set_key")
  generalize securitySubCommand parser₁ (str "set_key") = looked at setKey ⊢
  obtain ⟨parser₂, found⟩ := looked
  refine HandlerSpec.after ?_ setKey
  cases found with
  | true => exact reply parser₂
  | false =>
      have getStatus := securitySubCommand_sends parser₂ (str "get_status")
      simp only
      generalize securitySubCommand parser₂ (str "get_status") = looked at getStatus ⊢
      obtain ⟨parser₃, found⟩ := looked
      refine HandlerSpec.after ?_ getStatus
      cases found with
      | true => exact reply parser₃
      | false =>
          have getId := securitySubCommand_sends parser₃ (str "get_id")
          simp only
          generalize securitySubCommand parser₃ (str "get_id") = looked at getId ⊢
          obtain ⟨parser₄, found⟩ := looked
          refine HandlerSpec.after ?_ getId
          cases found with
          | true => exact securityCheckId_spec parser₄
          | false => exact .fails rfl rfl

theorem extUdpCmdSecurityCheck_spec (parser : ExtJsonParser) :
    HandlerSpec parser (extUdpCmdSecurityCheck parser) (some parser.runCfg.dest.ip) := by
  refine HandlerSpec.after ?_ (extUdpCmdSendMediaData_sends parser)
  unfold extUdpCmdSecurityCheck
  simp only
  split
  · exact .fails rfl rfl
  · exact (securityCommand_spec _).after (.none rfl rfl)

/-- Applying an accepted request sends the media data to the destination it leaves. -/
theorem setupApply_spec (parser : ExtJsonParser) (rx : RuntimeCfg) :
    HandlerSpec parser (setupApply parser rx, true)
      (some (compareCfg parser.runCfg rx).runCfg.dest.ip) := by
  have media := extUdpCmdSendMediaData_sends
    { parser with runCfg := (compareCfg parser.runCfg rx).runCfg }
  unfold setupApply
  simp only
  generalize extUdpCmdSendMediaData
    { parser with runCfg := (compareCfg parser.runCfg rx).runCfg } = sent at media ⊢
  obtain ⟨⟨out, index, same⟩, tagged⟩ := extJsonResponsePrintConfig_responded sent
  unfold frameOf at tagged
  rw [same] at tagged ⊢
  refine HandlerSpec.after ?_ media
  split
  · exact ⟨.none rfl rfl, fun _ => tagged⟩
  · exact ⟨.none rfl rfl, fun _ => tagged⟩

theorem extUdpCmdSetupParams_spec (parser : ExtJsonParser) :
    HandlerSpec parser (extUdpCmdSetupParams parser)
      (IpCommand.setParams.media parser.runCfg parser.toRequest) := by
  simp only [IpCommand.media, acceptedRequest, extUdpCmdSetupParams]
  rcases setupRequest parser.runCfg parser.toRequest with ⟨rq, _ | rx⟩
  · exact .fails rfl rfl
  · obtain ⟨sends, replied⟩ := setupApply_spec { parser with toRequest := rq } rx
    exact ⟨sends, replied⟩

/-- Every handler meets its specification. -/
theorem handler_spec (entry : IpCommand) (parser : ExtJsonParser) :
    HandlerSpec parser (entry.handler parser) (entry.media parser.runCfg parser.toRequest) := by
  cases entry with
  | getParams => exact extUdpCmdGetParams_spec parser
  | setParams => exact extUdpCmdSetupParams_spec parser
  | sendRs232 => exact extUdpCmdSendRsData_spec parser
  | securityCheck => exact extUdpCmdSecurityCheck_spec parser

/-! ### What a datagram makes the agent send -/

theorem extJsonHandle_spec (parser : ExtJsonParser) :
    HandlerSpec parser (extJsonHandle parser) (commandMedia parser.runCfg parser.toRequest) := by
  unfold extJsonHandle commandMedia
  cases ipCommandOf parser.cmd with
  | none => exact .fails rfl rfl
  | some entry =>
      have spec := handler_spec entry parser
      simp only [Option.bind_some]
      generalize entry.handler parser = result at spec ⊢
      obtain ⟨parser', ok⟩ := result
      cases ok with
      | true => exact spec
      | false => exact ⟨spec.sends.then rfl rfl, fun h => by cases h⟩

/-- The handler of a datagram sends the media data its command asks for, and leaves a reply
with the tag of a response. -/
theorem extUdpCmdPaserHandler_spec (parser : ExtJsonParser) (size : Nat) :
    HandlerSpec parser (extUdpCmdPaserHandler parser size, true)
      (if (checkDatagram parser.bufRead parser.toRequest size).2 then
        commandMedia parser.runCfg (checkDatagram parser.bufRead parser.toRequest size).1
      else none) := by
  simp only [extUdpCmdPaserHandler]
  rcases checkDatagram parser.bufRead parser.toRequest size with ⟨rq, _ | _⟩
  · exact (extUdpCmdResponseReply_spec _).after (.none rfl rfl)
  · have handled := extJsonHandle_spec
      { parser with toRequest := rq, bufRead := swapLength parser.bufRead, outIndex := 0 }
    simp only [not_true_eq_false, if_false, if_true]
    generalize extJsonHandle { parser with
      toRequest := rq, bufRead := swapLength parser.bufRead, outIndex := 0 } = result at handled ⊢
    obtain ⟨parser', ok⟩ := result
    cases ok with
    | true => exact ⟨handled.sends, handled.replied⟩
    | false =>
        obtain ⟨sends, replied⟩ := (extUdpCmdResponseReply_spec parser').after handled.sends
        exact ⟨sends, replied⟩

/-- A datagram makes the agent send the media data it asks for, then the reply, each if
there is a pbuf for it and each with the tag of a response. -/
theorem rawUdpEchoRecv_sent (parser : ExtJsonParser) (p : Bytes) (addr : UInt32) (port : UInt16) :
    ∃ mediaFrame replyFrame, tagOf mediaFrame = cmdTagResponse ∧
      tagOf replyFrame = cmdTagResponse ∧
      (rawUdpEchoRecv parser p addr port).sent = parser.sent ++
        mediaSent (parser.pbufAllocs.headD true) mediaFrame (mediaAsked parser p) ++
        replySent ((if (mediaAsked parser p).isSome then parser.pbufAllocs.tail
          else parser.pbufAllocs).headD true) addr port replyFrame := by
  obtain ⟨⟨frame, tagged, sent, allocs⟩, replied⟩ := extUdpCmdPaserHandler_spec
    { parser with bufRead := receivedBuffer parser.bufRead p } (receivedSize p)
  refine ⟨frame, _, tagged, replied rfl, ?_⟩
  simp only at sent allocs
  unfold rawUdpEchoRecv
  rw [extUdpCmdSendout_eq]
  simp only [sent, allocs]
  rfl

end LwipExt.UdpCmd
