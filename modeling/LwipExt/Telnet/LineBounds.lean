import LwipExt.Lib.Run
import LwipExt.Telnet.Reading

/-!
The command buffer of a telnet connection.

Only the length of a segment is tested, not that of the line that gathers in the buffer over
several. So the buffer holds what is written exactly if no segment of less than its size fills it
up (`bounded_iff`).
-/

namespace LwipExt.Telnet

variable {ι : Type}

/-! ### What is written -/

/-- The bytes that `_telnetCommandRead` writes to the command buffer, with their offsets. -/
def commandWrites (cmd : Bytes) (conn : TelnetConn) (p : Bytes) : List (Nat × Bytes) :=
  if extCmdBufsize ≤ p.length then []
  else if p.length = 0 then []
  else if p.head? = some telnetProtocolIac then []
  else
    let copied := p.take (extCmdBufsize - conn.readIndex)
    if copied.length = 0 then []
    else
      let readIndex := conn.readIndex + copied.length
      let cmd := bufWrite (bufWrite cmd conn.readIndex copied) readIndex [0]
      let last := cmd.getD (readIndex - 1) 0
      let cut :=
        if last = asciiKeyLf ∨ last = asciiKeyCr then
          if readIndex = 1 ∨ readIndex = 2 then []
          else if (bufWrite cmd (readIndex - 1) [0]).getD (readIndex - 2) 0 = asciiKeyCr then
            [(readIndex - 1, [0]), (readIndex - 2, [0])]
          else [(readIndex - 1, [0])]
        else []
      (conn.readIndex, copied) :: (readIndex, [0]) :: cut

/-- The writes to the command buffer while an event is handled. -/
def eventWrites (ctx : TelnetCtx ι) : TelnetEvent → List (Nat × Bytes)
  | .recv (some p) false =>
      match ctx.conn with
      | some conn => if conn.state = .receiving then commandWrites ctx.cmd conn p else []
      | none => []
  | .recv (some _) true | .recv none _ | .sent | .poll | .error => []

/-- The end of the line that is read is inside the buffer. -/
def IndexInside (ctx : TelnetCtx ι) : Prop :=
  ∀ conn, ctx.conn = some conn → conn.readIndex < extCmdBufsize

variable (bspCmdProcess : ι → Bytes → ι × Bytes × Bool)

/-- An event is handled inside the buffer. -/
structure HandledInside (ctx : TelnetCtx ι) (event : TelnetEvent) : Prop where
  writes : ∀ w ∈ eventWrites ctx event, w.1 + w.2.length ≤ extCmdBufsize
  index : IndexInside (telnetStep bspCmdProcess ctx event)

/-! ### Lines that are too long -/

/-- A segment makes the line in the buffer too long. -/
def TooLong (ctx : TelnetCtx ι) : TelnetEvent → Prop
  | .recv (some p) false =>
      ctx.receiving = true ∧ p ≠ [] ∧ p.head? ≠ some telnetProtocolIac ∧
        extCmdBufsize ≤ ctx.buffered.length + p.length
  | .recv (some _) true | .recv none _ | .sent | .poll | .error => False

/-- The message about a line that is too long. -/
def tooLongMessage : Bytes := str "Command is longer than maxumum length" ++ crlf

/-- The message is in the response, and the connection is going to be closed. -/
def Reported (ctx : TelnetCtx ι) : Prop :=
  cstr ctx.response = tooLongMessage ∧ ctx.conn.any (fun conn => conn.state = .closing) = true

/-- A complete line that comes in one segment is executed. -/
def TakesLine (ctx : TelnetCtx ι) : Prop :=
  ∀ line, line ≠ [] → (line ++ crlf).length < extCmdBufsize →
    line.head? ≠ some telnetProtocolIac → (∀ b ∈ line, isLineEnd b = false ∧ b ≠ 0) →
      (telnetStep bspCmdProcess ctx (.recv (some (line ++ crlf)) false)).executed =
        ctx.executed ++ [line]

/-- Every event is handled inside the buffer, and a line that is too long is followed by what
`after` says. -/
def Bounded (after : TelnetCtx ι → Prop) : TelnetCtx ι → List TelnetEvent → Prop :=
  Lib.Along (telnetStep bspCmdProcess) fun ctx event =>
    HandledInside bspCmdProcess ctx event ∧
      (TooLong ctx event → after (telnetStep bspCmdProcess ctx event))

/-! ### The writes are those of the code -/

theorem telnetCommandBegin_cmd (ctx : TelnetCtx ι) :
    (telnetCommandBegin bspCmdProcess ctx).cmd = ctx.cmd := by
  simp only [telnetCommandBegin]
  split
  · exact (telnetMsgPrintout_sending _ _).cmd
  · exact (telnetCommandProcess_sending bspCmdProcess _).cmd

theorem foldl_commandWrites (ctx : TelnetCtx ι) (conn : TelnetConn) (p : Bytes) :
    (telnetCommandRead bspCmdProcess ctx conn p).cmd =
      (commandWrites ctx.cmd conn p).foldl (fun cmd w => bufWrite cmd w.1 w.2) ctx.cmd := by
  simp only [telnetCommandRead, commandWrites]
  split
  · exact (telnetMsgPrintout_sending _ _).cmd
  split
  · rfl
  split
  · rfl
  split
  · rfl
  split
  · split
    · exact (telnetMsgPrintout_sending _ _).cmd
    · rw [telnetCommandBegin_cmd, cutLineEnd]
      split <;> rfl
  · rfl

/-! ### The index -/

theorem Sending.inside {ctx ctx' : TelnetCtx ι} (sending : Sending ctx ctx')
    (inside : IndexInside ctx) : IndexInside ctx' := by
  intro conn' held'
  obtain ⟨conn, held, index, _⟩ := sending.conn conn' held'
  rw [index]
  exact inside conn held

/-- An assignment that leaves the index inside the buffer. -/
theorem inside_update {ctx : TelnetCtx ι} {change : TelnetConn → TelnetConn}
    (next : ∀ conn, ctx.conn = some conn → (change conn).readIndex < extCmdBufsize) :
    IndexInside (ctx.update change) := by
  intro conn' held'
  obtain ⟨conn, held, rfl⟩ := Option.map_eq_some_iff.mp held'
  exact next conn held

theorem telnetCommandBegin_inside (ctx : TelnetCtx ι) :
    IndexInside (telnetCommandBegin bspCmdProcess ctx) := by
  have start : IndexInside (TelnetCtx.update { ctx with executed := ctx.executed ++ [cstr ctx.cmd] }
      fun conn => { conn with state := .processing, readIndex := 0 }) :=
    inside_update fun _ _ => (by decide : 0 < extCmdBufsize)
  simp only [telnetCommandBegin]
  split
  · exact inside_update fun conn held => (telnetMsgPrintout_sending _ _).inside start conn held
  · exact (telnetCommandProcess_sending bspCmdProcess _).inside start

/-- Reading keeps the index inside the buffer unless the line fills it up. -/
theorem telnetCommandRead_inside {ctx : TelnetCtx ι} {conn : TelnetConn} (inside : IndexInside ctx)
    {p : Bytes} (fits : extCmdBufsize ≤ p.length ∨ p.head? = some telnetProtocolIac ∨
      conn.readIndex + p.length < extCmdBufsize) :
    IndexInside (telnetCommandRead bspCmdProcess ctx conn p) := by
  simp only [telnetCommandRead]
  split
  · exact inside_update fun conn held => (telnetMsgPrintout_sending _ _).inside inside conn held
  next short =>
  split
  · exact inside
  split
  · exact inside
  next text =>
  split
  · exact inside
  have room :
      conn.readIndex + (p.take (extCmdBufsize - conn.readIndex)).length < extCmdBufsize := by
    have sum := (fits.resolve_left short).resolve_left text
    have part := List.length_take_le (extCmdBufsize - conn.readIndex) p
    have whole : (p.take (extCmdBufsize - conn.readIndex)).length ≤ p.length := by
      rw [List.length_take]
      exact Nat.min_le_right _ _
    omega
  split
  · split
    · exact inside_update fun _ _ => (by decide : 0 < extCmdBufsize)
    · exact telnetCommandBegin_inside bspCmdProcess _
  · exact inside_update fun _ _ => room

theorem length_buffered {ctx : TelnetCtx ι} {conn : TelnetConn} (held : ctx.conn = some conn)
    (receiving : conn.state = .receiving) : ctx.buffered.length = conn.readIndex := by
  rw [buffered_of_receiving held receiving, length_bufRead]

/-- A segment that does not fill up the line is dropped as a whole, or fits. -/
theorem fits_of_short {ctx : TelnetCtx ι} {conn : TelnetConn} (held : ctx.conn = some conn)
    (receiving : conn.state = .receiving) {p : Bytes} (inside : IndexInside ctx)
    (fits : TooLong ctx (.recv (some p) false) → extCmdBufsize ≤ p.length) :
    extCmdBufsize ≤ p.length ∨ p.head? = some telnetProtocolIac ∨
      conn.readIndex + p.length < extCmdBufsize := by
  by_contra out
  simp only [not_or, Nat.not_le, Nat.not_lt] at out
  obtain ⟨short, text, long⟩ := out
  apply Nat.not_le_of_lt short
  apply fits
  refine ⟨(receiving_iff held).mpr receiving, ?_, text, ?_⟩
  · rintro rfl
    exact Nat.not_le_of_lt (inside conn held) long
  · rw [length_buffered held receiving]
    exact long

/-- Only a segment moves the end of the line. -/
theorem telnetStep_inside {ctx : TelnetCtx ι} (inside : IndexInside ctx) {event : TelnetEvent}
    (fits : TooLong ctx event → extCmdBufsize ≤ event.segment.length) :
    IndexInside (telnetStep bspCmdProcess ctx event) := by
  cases held : ctx.conn with
  | none =>
      intro conn' held'
      simp only [telnetStep, held] at held'
      cases held'
  | some conn =>
      have same : IndexInside (ctx.update fun conn => { conn with state := .closing }) :=
        inside_update inside
      simp only [telnetStep, held]
      cases event with
      | recv p err =>
          simp only [telnetCallbackRecv]
          cases p with
          | none => exact same
          | some p =>
              cases err with
              | true => exact same
              | false =>
                  cases state : conn.state with
                  | processing => exact inside
                  | closing => exact inside
                  | receiving =>
                      apply telnetCommandRead_inside bspCmdProcess inside
                      exact fits_of_short held state inside fits
      | sent =>
          simp only [telnetCallbackSent]
          cases state : conn.state with
          | receiving => exact inside
          | closing => exact fun conn' held' => by cases held'
          | processing =>
              simp only
              split
              · exact (telnetCommandProcess_sending bspCmdProcess ctx).inside inside
              · exact inside_update ((telnetMsgPrompt_sending ctx).inside inside)
      | poll =>
          simp only [telnetCallbackPoll]
          split
          · exact fun conn' held' => by cases held'
          have counted : IndexInside (ctx.update fun conn =>
              { conn with timeoutSecond := (conn.timeoutSecond + 1) % 256 }) :=
            inside_update inside
          split
          · exact inside_update ((telnetMsgPrintout_sending _ _).inside counted)
          · exact counted
      | error => exact fun conn' held' => by cases held'

/-! ### The writes -/

/-- What is written lies inside the buffer exactly if the line does not fill it up. -/
theorem commandWrites_inside_iff (cmd : Bytes) {conn : TelnetConn}
    (inside : conn.readIndex < extCmdBufsize) (p : Bytes) :
    (∀ w ∈ commandWrites cmd conn p, w.1 + w.2.length ≤ extCmdBufsize) ↔
      (extCmdBufsize ≤ p.length ∨ p.head? = some telnetProtocolIac ∨
        conn.readIndex + p.length < extCmdBufsize) := by
  simp only [commandWrites]
  split
  next long => simp [long]
  next short =>
  split
  next empty => simp [empty, inside]
  next nonempty =>
  split
  next option => simp [option]
  next text =>
  have length : (p.take (extCmdBufsize - conn.readIndex)).length =
      min (extCmdBufsize - conn.readIndex) p.length := List.length_take
  generalize p.take (extCmdBufsize - conn.readIndex) = copied at length
  split
  next none => omega
  next some_ =>
  rw [List.forall_mem_cons, List.forall_mem_cons]
  constructor
  · rintro ⟨_, terminated, _⟩
    simp only [List.length_singleton] at terminated
    exact .inr (.inr (by omega))
  · intro fits
    have room := (fits.resolve_left short).resolve_left text
    simp only [List.length_singleton]
    refine ⟨by omega, by omega, ?_⟩
    intro w cut
    split at cut
    · split at cut
      · cases cut
      split at cut
      · simp only [List.mem_cons, List.not_mem_nil, or_false] at cut
        rcases cut with rfl | rfl <;> (simp only [List.length_singleton]; omega)
      · simp only [List.mem_cons, List.not_mem_nil, or_false] at cut
        subst cut
        simp only [List.length_singleton]
        omega
    · cases cut

/-- An event is handled inside the buffer exactly if it does not fill the buffer up. -/
theorem handledInside_iff {ctx : TelnetCtx ι} (inside : IndexInside ctx) (event : TelnetEvent) :
    HandledInside bspCmdProcess ctx event ↔
      (TooLong ctx event → extCmdBufsize ≤ event.segment.length) := by
  constructor
  · intro handled
    cases event with
    | recv p err =>
        cases p with
        | none => exact False.elim
        | some p =>
            cases err with
            | true => exact False.elim
            | false =>
                rintro ⟨receiving, nonempty, text, long⟩
                cases held : ctx.conn with
                | none =>
                    rw [TelnetCtx.receiving, held] at receiving
                    cases receiving
                | some conn =>
                    have state := (receiving_iff held).mp receiving
                    have writes := handled.writes
                    simp only [eventWrites, held, if_pos state] at writes
                    rw [length_buffered held state] at long
                    rcases (commandWrites_inside_iff ctx.cmd (inside conn held) p).mp writes with
                      whole | option | short
                    · exact whole
                    · exact absurd option text
                    · omega
    | sent => exact False.elim
    | poll => exact False.elim
    | error => exact False.elim
  · intro fits
    refine ⟨?_, telnetStep_inside bspCmdProcess inside fits⟩
    cases event with
    | recv p err =>
        cases p with
        | none => exact fun w mem => by cases mem
        | some p =>
            cases err with
            | true => exact fun w mem => by cases mem
            | false =>
                cases held : ctx.conn with
                | none => simp [eventWrites, held]
                | some conn =>
                    simp only [eventWrites, held]
                    split
                    next state =>
                      exact (commandWrites_inside_iff ctx.cmd (inside conn held) p).mpr
                        (fits_of_short held state inside fits)
                    next => exact fun w mem => by cases mem
    | sent => exact fun w mem => by cases mem
    | poll => exact fun w mem => by cases mem
    | error => exact fun w mem => by cases mem

/-! ### Lines that come as one segment -/

theorem telnetConnSend_response (ctx : TelnetCtx ι) (data : Bytes) :
    (telnetConnSend ctx data).response = ctx.response := by
  simp only [telnetConnSend]
  split
  · rfl
  split <;> rfl

theorem telnetConnSend_isSome (ctx : TelnetCtx ι) (data : Bytes) :
    (telnetConnSend ctx data).conn.isSome = ctx.conn.isSome := by
  simp only [telnetConnSend]
  split
  · rfl
  split
  · exact Option.isSome_map
  · rfl
  · exact Option.isSome_map

/-- Printing does not close the connection. -/
theorem telnetMsgPrintout_isSome (ctx : TelnetCtx ι) (msg : Bytes) :
    (telnetMsgPrintout ctx msg).conn.isSome = ctx.conn.isSome := by
  simp only [telnetMsgPrintout, telnetConnSend_isSome]
  exact Option.isSome_map

/-- A message that has no NUL is in the response, up to the size of the response. -/
theorem telnetMsgPrintout_response (ctx : TelnetCtx ι) {msg : Bytes} (text : 0 ∉ msg) :
    cstr (telnetMsgPrintout ctx msg).response = snprintf extCommandBufferSize msg := by
  have printed : 0 ∉ snprintf extCommandBufferSize msg :=
    fun mem => text (List.mem_of_mem_take mem)
  simp only [telnetMsgPrintout, telnetConnSend_response]
  change cstr (bufWrite ctx.response 0 (snprintf extCommandBufferSize msg ++ [0])) = _
  rw [bufWrite, bufRead]
  simp only [List.take_zero, List.nil_append, List.append_assoc, Nat.zero_sub,
    List.replicate_zero]
  rw [cstr_append, if_neg printed]
  exact List.append_nil _

/-- A segment of the size of the buffer is reported, and the connection is going to be closed. -/
theorem reported_of_large {ctx : TelnetCtx ι} {event : TelnetEvent} (tooLong : TooLong ctx event)
    (large : extCmdBufsize ≤ event.segment.length) :
    Reported (telnetStep bspCmdProcess ctx event) := by
  cases event with
  | recv p err =>
      cases p with
      | none => exact tooLong.elim
      | some p =>
          cases err with
          | true => exact tooLong.elim
          | false =>
              obtain ⟨receiving, _, _, _⟩ := tooLong
              cases held : ctx.conn with
              | none =>
                  rw [TelnetCtx.receiving, held] at receiving
                  cases receiving
              | some conn =>
                  have state := (receiving_iff held).mp receiving
                  simp only [telnetStep, held, telnetCallbackRecv, Bool.false_eq_true, if_false,
                    state, telnetCommandRead, if_pos (show extCmdBufsize ≤ p.length from large)]
                  constructor
                  · exact telnetMsgPrintout_response ctx (by decide)
                  · have printed := telnetMsgPrintout_isSome ctx tooLongMessage
                    rw [held, Option.isSome_some, Option.isSome_iff_exists] at printed
                    obtain ⟨after, heldAfter⟩ := printed
                    simp only [tooLongMessage] at heldAfter
                    simp [TelnetCtx.update, heldAfter]
  | sent => exact tooLong.elim
  | poll => exact tooLong.elim
  | error => exact tooLong.elim

/-- A connection that is going to be closed takes no line. -/
theorem not_takesLine_of_reported {ctx : TelnetCtx ι} (reported : Reported ctx) :
    ¬ TakesLine bspCmdProcess ctx := by
  intro takes
  have taken := takes [97] (by decide) (by decide) (by decide) fun b mem => by
    rw [List.mem_singleton.mp mem]
    decide
  have unread : (telnetStep bspCmdProcess ctx (.recv (some ([97] ++ crlf)) false)).executed =
      ctx.executed := by
    cases held : ctx.conn with
    | none => simp only [telnetStep, held]
    | some conn =>
        have closing : conn.state = .closing := by simpa [Reported, held] using reported.2
        simp only [telnetStep, held, telnetCallbackRecv, Bool.false_eq_true, if_false, closing]
  rw [unread] at taken
  simp at taken

/-! ### Runs -/

theorem inside_accept (interpreter : ι) (outcomes : List SendOutcome) :
    IndexInside (telnetCallbackAccept interpreter outcomes) := by
  apply (telnetMsgPrompt_sending _).inside
  rintro conn ⟨⟩
  decide

/-- From an index inside the buffer, a run is bounded exactly if no segment of less than its size
fills the buffer up, and what follows the others is as `after` says. -/
theorem bounded_iff_of_inside (after : TelnetCtx ι → Prop) {ctx : TelnetCtx ι}
    (inside : IndexInside ctx) (events : List TelnetEvent) :
    Bounded bspCmdProcess after ctx events ↔
      Lib.Along (telnetStep bspCmdProcess) (fun ctx event => TooLong ctx event →
        extCmdBufsize ≤ event.segment.length ∧ after (telnetStep bspCmdProcess ctx event))
        ctx events := by
  apply Lib.along_iff_of_inv IndexInside _ _ inside
  · intro ctx event inside
    rw [handledInside_iff bspCmdProcess inside]
    exact ⟨fun handled tooLong => ⟨handled.1 tooLong, handled.2 tooLong⟩,
      fun both => ⟨fun tooLong => (both tooLong).1, fun tooLong => (both tooLong).2⟩⟩
  · exact fun ctx event _ handled => handled.1.index

/-- The writes and the index of a connection stay inside the buffer, and a line that is too long is
reported or a later line is executed, exactly if every segment that makes a line too long has the
size of the buffer itself. With a later line executed in any case, it is exactly if no line is too
long. -/
theorem bounded_iff (interpreter : ι) (outcomes : List SendOutcome) (events : List TelnetEvent) :
    (Bounded bspCmdProcess (fun ctx => Reported ctx ∨ TakesLine bspCmdProcess ctx)
        (telnetCallbackAccept interpreter outcomes) events ↔
      Lib.Along (telnetStep bspCmdProcess)
        (fun ctx event => TooLong ctx event → extCmdBufsize ≤ event.segment.length)
        (telnetCallbackAccept interpreter outcomes) events) ∧
    (Bounded bspCmdProcess (TakesLine bspCmdProcess)
        (telnetCallbackAccept interpreter outcomes) events ↔
      Lib.Along (telnetStep bspCmdProcess) (fun ctx event => ¬ TooLong ctx event)
        (telnetCallbackAccept interpreter outcomes) events) := by
  have inside := inside_accept interpreter outcomes
  constructor
  · rw [bounded_iff_of_inside bspCmdProcess _ inside]
    constructor
    · exact Lib.Along.mono fun ctx event each tooLong => (each tooLong).1
    · apply Lib.Along.mono
      intro ctx event each tooLong
      exact ⟨each tooLong, .inl (reported_of_large bspCmdProcess tooLong (each tooLong))⟩
  · rw [bounded_iff_of_inside bspCmdProcess _ inside]
    constructor
    · apply Lib.Along.mono
      intro ctx event each tooLong
      obtain ⟨large, takes⟩ := each tooLong
      exact not_takesLine_of_reported bspCmdProcess
        (reported_of_large bspCmdProcess tooLong large) takes
    · exact Lib.Along.mono fun ctx event each tooLong => absurd tooLong each

/-- A text that fits is added to the line. -/
theorem buffered_text {ctx : TelnetCtx ι} (receiving : ctx.receiving = true) {p : Bytes}
    (nonempty : p ≠ []) (text : ∀ b ∈ p, isLineEnd b = false ∧ b ≠ telnetProtocolIac)
    (short : ctx.buffered.length + p.length < extCmdBufsize) :
    (telnetStep bspCmdProcess ctx (.recv (some p) false)).buffered = ctx.buffered ++ p := by
  have fits : fitting ctx.buffered p = p := List.take_of_length_le (by omega)
  have last : ∀ b, (ctx.buffered ++ p).getLast? = some b → isLineEnd b = false := by
    intro b atEnd
    rw [List.getLast?_append_of_ne_nil _ nonempty] at atEnd
    exact (text b (List.mem_of_getLast? atEnd)).1
  cases telnetStep_recv bspCmdProcess ctx p false with
  | unread executed buffered why =>
      obtain ⟨_, empty | option | full⟩ := why receiving
      · exact absurd empty nonempty
      · exact absurd rfl (text _ (List.mem_of_head? option)).2
      · omega
  | dropped executed buffered why =>
      rw [fits] at why
      rcases why receiving with failed | large | ⟨_, b, atEnd, ends⟩
      · cases failed
      · omega
      · rw [last b atEnd] at ends
        cases ends
  | added executed buffered taken nonempty opened => rw [buffered, fits]
  | ran executed buffered taken long ended =>
      rw [fits] at ended
      obtain ⟨b, atEnd, ends⟩ := ended
      rw [last b atEnd] at ends
      cases ends

/-- A line that comes in two segments, of 1000 and of 24 bytes, fills up the buffer. -/
theorem full_buffer_not_bounded :
    ¬ ∀ events : List TelnetEvent,
      Bounded (fun (interpreter : Unit) (_ : Bytes) => (interpreter, str "ok" ++ crlf, false))
        (fun ctx => Reported ctx ∨ TakesLine
          (fun (interpreter : Unit) (_ : Bytes) => (interpreter, str "ok" ++ crlf, false)) ctx)
        (telnetCallbackAccept () []) events := by
  intro bounded
  have both := bounded [.recv (some (List.replicate 1000 97)) false,
    .recv (some (List.replicate 24 97)) false]
  rw [bounded_iff_of_inside _ _ (inside_accept () [])] at both
  obtain ⟨_, second, _⟩ := both
  have begins : (telnetCallbackAccept () []).buffered = [] := by decide
  have receiving : (telnetCallbackAccept () []).receiving = true := by decide
  have line := buffered_text (fun (interpreter : Unit) (_ : Bytes) =>
    (interpreter, str "ok" ++ crlf, false)) receiving (p := List.replicate 1000 97)
    (List.ne_nil_of_length_pos (by rw [List.length_replicate]; decide))
    (fun b mem => by rw [List.eq_of_mem_replicate mem]; decide)
    (by rw [begins, List.length_replicate]; decide)
  rw [begins, List.nil_append] at line
  have large := (second ⟨?_, by decide, by decide, ?_⟩).1
  · exact absurd large (by decide)
  · by_contra stopped
    rw [buffered_of_not_receiving (Bool.eq_false_iff.mpr stopped)] at line
    have length := congrArg List.length line
    rw [List.length_replicate] at length
    cases length
  · rw [line, List.length_replicate]
    decide

end LwipExt.Telnet
