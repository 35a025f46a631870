import LwipExt.Cmn.Hex
import LwipExt.Cmn.SysConfig
import LwipExt.UdpCmd.Credentials

/-!
The bytes of a `send_data_rs232`.

The text of `hexdata` is cut to the local array, and each pair of digits is written to the port as
soon as it is read. So a text that is wrong behind its first pair, one of odd length and one that
does not fit the array are written in part (`rs232_atomic_iff`).
-/

namespace LwipExt.UdpCmd

/-- Size of `setupData.hexData`. -/
def hexDataSize : Nat := 128

/-- The text that a `send_data_rs232` sends, if all else in the request is in order. -/
def rs232Text (cfg : RuntimeCfg) (rq : Request) : Option Bytes :=
  if (extUdpCmdIsLocal cfg rq).2 then do
    let _ ← rq.json.valueAt (str "data") .array
    let text ← rq.json.textAt (str "hexdata")
    let _ ← rq.json.integerAt (str "waitTime")
    let _ ← rq.json.integerAt (str "isFeedback")
    some text
  else none

/-- The answer to a datagram says that the request failed. -/
structure AnsweredError (parser : ExtJsonParser) (p : Bytes) (addr : UInt32) (port : UInt16) :
    Prop where
  status : (rawUdpEchoRecv parser p addr port).parseIsOk = false
  reply : (rawUdpEchoRecv parser p addr port).sent = parser.sent ++
    replySent (parser.pbufAllocs.headD true) addr port
      (frameBytes cmdTagResponse ((responseHeader parser.runCfg.localCfg.mac
        (rawUdpEchoRecv parser p addr port).toRequest).flatten ++ str "\x7d"))

/-- The text of `hexdata` spells bytes and they are written, or the request is answered as an
error and nothing is. -/
def Rs232Atomic (parser : ExtJsonParser) (p : Bytes) (addr : UInt32) (port : UInt16) : Prop :=
  (∃ text bytes, (received parser p).1.json.textAt (str "hexdata") = some text ∧
    Encodes text bytes ∧
    (rawUdpEchoRecv parser p addr port).ops = parser.ops ++ bytes.map HwOp.rs232Write) ∨
  (AnsweredError parser p addr port ∧ (rawUdpEchoRecv parser p addr port).ops = parser.ops)

/-- A text that is written as a whole or not at all: digits for whole bytes that fit the array, or
a text that is wrong in its first pair. -/
def WrittenWhole (text : Bytes) : Prop :=
  (text.length < hexDataSize ∧ text.length % 2 = 0 ∧ ∀ c ∈ text, (hexDigit c).isSome = true) ∨
    (2 ≤ text.length ∧ ¬ StartsWithByte text)

/-! ### The loop -/

/-- The loop writes what the pairs up to the first wrong one spell. -/
theorem rs232HexBytes_eq (left : Nat) (text : Bytes) :
    ∃ bytes spelled rest, text = spelled ++ rest ∧ Encodes spelled bytes ∧ bytes.length ≤ left ∧
      rs232HexBytes left text = (bytes.map HwOp.rs232Write, decide (bytes.length = left)) ∧
      (bytes.length < left → ¬ StartsWithByte rest) := by
  induction left generalizing text with
  | zero =>
      exact ⟨[], [], text, rfl, Encodes.nil, le_refl _, rfl, fun less => absurd less (lt_irrefl _)⟩
  | succ left ih =>
      by_cases read : (extSysAtoInt8 text).2 = true
      · obtain ⟨pair, behind, b, value, rfl, spelled⟩ := extSysAtoInt8_true read
        obtain ⟨bytes, spelled', rest, rfl, encoded, le, written, stops⟩ := ih behind
        refine ⟨b :: bytes, pair ++ spelled', rest, (List.append_assoc _ _ _).symm,
          encoded.cons spelled, Nat.succ_le_succ le, ?_,
          fun less => stops (Nat.lt_of_succ_lt_succ less)⟩
        have second : (pair ++ (spelled' ++ rest)).drop 2 = spelled' ++ rest := by
          rw [← spelled.length, List.drop_left]
        rw [rs232HexBytes, value]
        simp only [second, written, List.map_cons, List.length_cons, Nat.add_right_cancel_iff]
      · have none : ∃ value, extSysAtoInt8 text = (value, false) :=
          ⟨(extSysAtoInt8 text).1, by rw [← Bool.not_eq_true _ |>.mp read]⟩
        obtain ⟨value, wrong⟩ := none
        refine ⟨[], [], text, rfl, Encodes.nil, Nat.zero_le _, ?_, ?_⟩
        · rw [rs232HexBytes, wrong]
          rfl
        · intro _ starts
          exact read (extSysAtoInt8_true_iff.mpr starts)

/-! ### The handler -/

theorem extJsonParseDataArray_eq (j : Json) (r : Report) :
    ∃ r', extJsonParseDataArray j r = (r', (j.valueAt (str "data") .array).isSome) := by
  unfold extJsonParseDataArray extJsonGetArrayObject
  rw [← extJsonGetValueObject_valueAt j (str "data") .array (str "integer") r]
  exact ⟨_, rfl⟩

theorem extJsonParseUnsignedShort_eq (j : Json) (key : Bytes) (r : Report) :
    ∃ r', extJsonParseUnsignedShort j key r = (r', (j.integerAt key).map UInt32.toUInt16) := by
  obtain ⟨r', read⟩ := extJsonParseUnsignedInteger_eq j key r
  unfold extJsonParseUnsignedShort
  rw [read]
  exact ⟨r', rfl⟩

theorem extJsonParseUnsignedChar_eq (j : Json) (key : Bytes) (r : Report) :
    ∃ r', extJsonParseUnsignedChar j key r = (r', (j.integerAt key).map UInt32.toUInt8) := by
  obtain ⟨r', read⟩ := extJsonParseUnsignedInteger_eq j key r
  unfold extJsonParseUnsignedChar
  rw [read]
  exact ⟨r', rfl⟩

/-- The calls that a `send_data_rs232` makes, and whether it succeeds. -/
def rs232Sent (cfg : RuntimeCfg) (rq : Request) : List HwOp × Bool :=
  match rs232Text cfg rq with
  | none => ([], false)
  | some text => rs232SendHexStr (snprintf hexDataSize text)

/-- The state with another report, other received data and more calls. -/
def afterRs232 (parser : ExtJsonParser) (r : Report) (data : MuxSetupData) (ops : List HwOp) :
    ExtJsonParser :=
  { parser with
    toRequest := { parser.toRequest with report := r }
    setupData := data
    ops := parser.ops ++ ops }

/-- The result of a handler that makes these calls and succeeds or fails. -/
structure Rs232Outcome (parser : ExtJsonParser) (sent : List HwOp × Bool)
    (result : ExtJsonParser × Bool) : Prop where
  replied : sent.2 = true → ∃ r data, r.status = .ok ∧
    result = (extUdpCmdResponseReply (afterRs232 parser r data sent.1), true)
  failed : sent.2 = false → ∃ r data, r.msg.length < extJsonMessageSize ∧
    result = (afterRs232 parser r data sent.1, false)

theorem Rs232Outcome.fails {parser : ExtJsonParser} {r : Report} {data : MuxSetupData}
    {ops : List HwOp} (short : r.msg.length < extJsonMessageSize) :
    Rs232Outcome parser (ops, false) (afterRs232 parser r data ops, false) := by
  constructor
  · intro good
    cases good
  · exact fun _ => ⟨r, data, short, rfl⟩

theorem Rs232Outcome.parseFailed {parser : ExtJsonParser} (r : Report) (data : MuxSetupData)
    (ops : List HwOp) (text : Bytes) :
    Rs232Outcome parser (ops, false) (parseFailed (afterRs232 parser r data ops) text) := by
  refine @Rs232Outcome.fails parser { r.say text with status := .parseParamError } data ops ?_
  simp only [Report.say, snprintf, List.length_take, extJsonMessageSize]
  omega

/-- The handler sends what is in order, and replies if all of it could be read. -/
theorem extUdpCmdSendRsData_outcome (parser : ExtJsonParser) :
    Rs232Outcome parser (rs232Sent parser.runCfg parser.toRequest)
      (extUdpCmdSendRsData parser) := by
  have same (r : Report) (data : MuxSetupData) :
      ({ parser with toRequest := { parser.toRequest with report := r }, setupData := data } :
        ExtJsonParser) = afterRs232 parser r data [] := by
    rw [afterRs232, List.append_nil]
  have refuse (r : Report) (data : MuxSetupData) (text : Bytes) :
      Rs232Outcome parser ([], false) (parseFailed { parser with
        toRequest := { parser.toRequest with report := r }, setupData := data } text) := by
    rw [same]
    exact Rs232Outcome.parseFailed r data [] text
  obtain ⟨r, checked, refused⟩ := extUdpCmdIsLocal_report parser.runCfg parser.toRequest
  unfold rs232Sent rs232Text extUdpCmdSendRsData
  generalize extUdpCmdIsLocal parser.runCfg parser.toRequest = result at checked refused ⊢
  obtain ⟨rq, ok⟩ := result
  obtain rfl : rq = _ := checked
  cases ok with
  | false =>
      have fails := @Rs232Outcome.fails parser r parser.setupData [] (refused rfl)
      rwa [← same] at fails
  | true =>
      simp only [not_true_eq_false, if_false, if_true]
      obtain ⟨r, array⟩ := extJsonParseDataArray_eq parser.json r
      rw [array]
      cases parser.json.valueAt (str "data") .array with
      | none => exact refuse r parser.setupData _
      | some tok =>
          obtain ⟨r, hexdata⟩ := extJsonParseString_eq parser.json (str "hexdata") 128 r
          rw [stringAt_textAt] at hexdata
          simp only [Option.isSome_some, not_true_eq_false, if_false, hexdata]
          cases parser.json.textAt (str "hexdata") with
          | none => exact refuse r parser.setupData _
          | some text =>
              obtain ⟨r, wait⟩ := extJsonParseUnsignedShort_eq parser.json (str "waitTime") r
              simp only [Option.map_some, wait]
              cases parser.json.integerAt (str "waitTime") with
              | none => exact refuse r _ _
              | some ms =>
                  obtain ⟨r, feedback⟩ :=
                    extJsonParseUnsignedChar_eq parser.json (str "isFeedback") r
                  simp only [Option.map_some, feedback]
                  cases parser.json.integerAt (str "isFeedback") with
                  | none => exact refuse r _ _
                  | some back =>
                      have sent : rs232SendHexStr (snprintf 128 text) =
                        ((rs232SendHexStr (snprintf 128 text)).1,
                          (rs232SendHexStr (snprintf 128 text)).2) := rfl
                      change Rs232Outcome parser (rs232SendHexStr (snprintf 128 text)) _
                      generalize rs232SendHexStr (snprintf 128 text) = sent
                      obtain ⟨ops, good⟩ := sent
                      cases good with
                      | false => exact Rs232Outcome.parseFailed r _ ops _
                      | true =>
                          constructor
                          · exact fun _ => ⟨{ r with status := .ok }, _, rfl, rfl⟩
                          · intro bad
                            cases bad

/-! ### The datagram -/

/-- A reply that is sent leaves the calls and the request. -/
theorem extUdpCmdSendout_reply (parser : ExtJsonParser) (addr : UInt32) (port : UInt16) :
    let replied := extUdpCmdSendout (extUdpCmdResponseReply parser) addr port
    replied.toRequest = parser.toRequest ∧ replied.ops = parser.ops ∧
      replied.sent = parser.sent ++ replySent (parser.pbufAllocs.headD true) addr port
        (frameOf (extUdpCmdResponseReply parser)) := by
  obtain ⟨⟨out, index, same⟩, -⟩ := extUdpCmdResponseReply_responded parser
  have sent : (extUdpCmdResponseReply parser).sent = parser.sent := by
    rw [same]
  have allocs : (extUdpCmdResponseReply parser).pbufAllocs = parser.pbufAllocs := by
    rw [same]
  simp only [extUdpCmdSendout_eq, sent, allocs]
  refine ⟨?_, ?_, rfl⟩
  · rw [same]
  · rw [same]

/-- A command is run on a request in order. -/
theorem rawUdpEchoRecv_command {parser next : ExtJsonParser} {p : Bytes} {entry : IpCommand}
    {ok : Bool} (command : commandOf parser p = some entry)
    (result : entry.handler (received parser p).1 = (next, ok)) (addr : UInt32) (port : UInt16) :
    (received parser p).1.toRequest.InOrder ∧
      rawUdpEchoRecv parser p addr port = extUdpCmdSendout
        (if ok then next
        else extUdpCmdResponseReply { next with toRequest := next.withStatus .parseParamError })
        addr port := by
  have handled : rawUdpEchoRecv parser p addr port = extUdpCmdSendout
      (if ¬ (received parser p).2 then extUdpCmdResponseReply (received parser p).1
      else if (extJsonHandle (received parser p).1).2 then (extJsonHandle (received parser p).1).1
      else extUdpCmdResponseReply (extJsonHandle (received parser p).1).1) addr port := rfl
  unfold commandOf at command
  by_cases good : (received parser p).2 = true
  swap
  · rw [if_neg good] at command
    cases command
  rw [if_pos good] at command
  refine ⟨received_inOrder good, ?_⟩
  rw [handled, if_neg (not_not.mpr good)]
  unfold extJsonHandle
  rw [command]
  simp only [result]
  cases ok with
  | false => rfl
  | true => rfl

/-- A `send_data_rs232` makes its calls; what fails is answered. -/
theorem rawUdpEchoRecv_rs232 {parser : ExtJsonParser} {p : Bytes}
    (command : commandOf parser p = some .sendRs232) (addr : UInt32) (port : UInt16) :
    (rawUdpEchoRecv parser p addr port).ops =
        parser.ops ++ (rs232Sent parser.runCfg (received parser p).1.toRequest).1 ∧
      ((rs232Sent parser.runCfg (received parser p).1.toRequest).2 = true →
        (rawUdpEchoRecv parser p addr port).parseIsOk = true) ∧
      ((rs232Sent parser.runCfg (received parser p).1.toRequest).2 = false →
        AnsweredError parser p addr port) := by
  have run (next : ExtJsonParser) (ok : Bool)
      (result : extUdpCmdSendRsData (received parser p).1 = (next, ok)) :=
    rawUdpEchoRecv_command command result addr port
  have outcome := extUdpCmdSendRsData_outcome (received parser p).1
  have runCfg : (received parser p).1.runCfg = parser.runCfg := rfl
  have ops : (received parser p).1.ops = parser.ops := rfl
  have sent : (received parser p).1.sent = parser.sent := rfl
  have allocs : (received parser p).1.pbufAllocs = parser.pbufAllocs := rfl
  rw [runCfg] at outcome
  generalize (received parser p).1 = next at *
  generalize rs232Sent parser.runCfg next.toRequest = calls at *
  obtain ⟨made, good⟩ := calls
  cases good with
  | true =>
      obtain ⟨r, data, status, result⟩ := outcome.replied rfl
      dsimp only at result ⊢
      obtain ⟨-, handled⟩ := run _ _ result
      rw [if_pos rfl] at handled
      obtain ⟨request, kept, -⟩ := extUdpCmdSendout_reply (afterRs232 next r data made) addr port
      rw [handled]
      refine ⟨?_, fun _ => ?_, fun bad => by cases bad⟩
      · rw [kept, ← ops]
        rfl
      · unfold Request.parseIsOk
        rw [request]
        simp [afterRs232, status]
  | false =>
      obtain ⟨r, data, short, result⟩ := outcome.failed rfl
      dsimp only at result ⊢
      obtain ⟨inOrder, handled⟩ := run _ _ result
      rw [if_neg Bool.false_ne_true] at handled
      generalize failed : { afterRs232 next r data made with
        toRequest := (afterRs232 next r data made).withStatus .parseParamError } = refused at handled
      obtain ⟨request, kept, replied⟩ := extUdpCmdSendout_reply refused addr port
      have bounded : refused.toRequest.Bounded := by
        rw [← failed]
        exact ⟨inOrder.2, short⟩
      refine ⟨?_, (fun bad => by cases bad), fun _ => ⟨?_, ?_⟩⟩
      · rw [handled, kept, ← failed, ← ops]
        rfl
      · rw [handled, request, ← failed]
        rfl
      · rw [handled, replied, request, frameOf_reply bounded, ← failed, ← sent, ← allocs, ← runCfg]
        rfl

/-! ### Written as a whole -/

/-- The text of a key holds no NUL. -/
theorem cstr_textAt {j : Json} {key text : Bytes} (read : j.textAt key = some text) :
    cstr text = text := by
  obtain ⟨tok, -, rfl⟩ := Option.map_eq_some_iff.mp read
  exact cstr_of_not_mem fun mem => zero_not_mem_cstr _ (List.mem_of_mem_take mem)

theorem rs232Text_textAt {cfg : RuntimeCfg} {rq : Request} {text : Bytes}
    (sends : rs232Text cfg rq = some text) : rq.json.textAt (str "hexdata") = some text := by
  unfold rs232Text at sends
  split at sends
  · obtain ⟨_, -, sends⟩ := Option.bind_eq_some_iff.mp sends
    obtain ⟨text', read, sends⟩ := Option.bind_eq_some_iff.mp sends
    obtain ⟨_, -, sends⟩ := Option.bind_eq_some_iff.mp sends
    obtain ⟨_, -, sends⟩ := Option.bind_eq_some_iff.mp sends
    rw [read, sends]
  · cases sends

/-- The calls for a text: what the pairs of the part that fits spell, up to the first wrong one. -/
theorem rs232SendHexStr_cut {text : Bytes} (whole : cstr text = text) :
    ∃ bytes spelled rest, text.take 127 = spelled ++ rest ∧ Encodes spelled bytes ∧
      rs232SendHexStr (snprintf hexDataSize text) =
        (bytes.map HwOp.rs232Write, decide (bytes.length = min 127 text.length / 2)) ∧
      bytes.length ≤ min 127 text.length / 2 ∧
      (bytes.length < min 127 text.length / 2 → ¬ StartsWithByte rest) := by
  have noZero : 0 ∉ snprintf hexDataSize text := by
    intro mem
    have inText := List.mem_of_mem_take mem
    rw [← whole] at inText
    exact zero_not_mem_cstr _ inText
  have length : (snprintf hexDataSize text).length / 2 = min 127 text.length / 2 := by
    rw [snprintf, List.length_take]
    rfl
  obtain ⟨bytes, spelled, rest, split, encoded, le, calls, stops⟩ :=
    rs232HexBytes_eq (min 127 text.length / 2) (snprintf hexDataSize text)
  unfold rs232SendHexStr
  rw [cstr_of_not_mem noZero, length, calls]
  exact ⟨bytes, spelled, rest, split, encoded, rfl, le, stops⟩

/-- An agent with factory settings. -/
def factoryAgent : ExtJsonParser := { runCfg := extCfgFromFactory .extt {} }

/-- A request to send a text. -/
def rs232Frame (hexdata : String) : Bytes :=
  requestFrame (str ("\x7b\"targ\":\"00:04:25:1c:a0:01\",\"cmd\":\"send_data_rs232\"," ++
    "\"login-ack\":\"admin\",\"pwd-msg\":\"admin\",\"data\":[\x7b\"hexdata\":\"" ++ hexdata ++
    "\",\"waitTime\":100,\"isFeedback\":0\x7d]\x7d"))

end LwipExt.UdpCmd
