import LwipExt.Lib.Lines
import LwipExt.Telnet.Server

/-!
What the telnet server makes of a segment.

Whatever happens, one of four things becomes of the bytes (`Effect`): they are left
unread, they are dropped with what was read of the line before, they are added to the
unfinished line, or they end it and it is executed. Only the last byte of what is in
the buffer is looked at for a line end.
-/

namespace LwipExt.Telnet

/-- The bytes that end a command. -/
def isLineEnd (b : UInt8) : Bool := b = asciiKeyLf ∨ b = asciiKeyCr

/-- The text in a piece of the stream. -/
def textOf (bytes : Bytes) : Bytes := bytes.filter fun b => !isLineEnd b

@[simp] theorem textOf_append (bytes bytes' : Bytes) :
    textOf (bytes ++ bytes') = textOf bytes ++ textOf bytes' := List.filter_append ..

@[simp] theorem textOf_nil : textOf [] = [] := rfl

theorem textOf_eq_self {bytes : Bytes} (text : ∀ b ∈ bytes, isLineEnd b = false) :
    textOf bytes = bytes := List.filter_eq_self.mpr fun b mem => by simp [text b mem]

theorem textOf_eq_nil {bytes : Bytes} (ends : ∀ b ∈ bytes, isLineEnd b = true) :
    textOf bytes = [] := List.filter_eq_nil_iff.mpr fun b mem => by simp [ends b mem]

variable {ι : Type}

/-- The server reads the line of a command. -/
def TelnetCtx.receiving (ctx : TelnetCtx ι) : Bool :=
  ctx.conn.any fun conn => conn.state = .receiving

/-- What was read of the line. -/
def TelnetCtx.buffered (ctx : TelnetCtx ι) : Bytes :=
  match ctx.conn with
  | some conn => if conn.state = .receiving then bufRead ctx.cmd 0 conn.readIndex else []
  | none => []

/-- A command in the buffer without its line end. -/
def commandOf (line : Bytes) : Bytes :=
  if line.dropLast.getLast? = some asciiKeyCr then line.dropLast.dropLast else line.dropLast

/-- The bytes of a segment that fit behind the `held` bytes in the buffer. -/
def fitting (held : Bytes) (p : Bytes) : Bytes := p.take (extCmdBufsize - held.length)

/-- What becomes of the bytes of a segment. -/
inductive Effect (ctx ctx' : TelnetCtx ι) (p : Bytes) (err : Bool) : Prop where
  | unread (executed : ctx'.executed = ctx.executed) (buffered : ctx'.buffered = ctx.buffered)
      (why : ctx.receiving = true → err = false ∧ (p = [] ∨
        p.head? = some telnetProtocolIac ∨ extCmdBufsize ≤ ctx.buffered.length))
  | dropped (executed : ctx'.executed = ctx.executed) (buffered : ctx'.buffered = [])
      (why : ctx.receiving = true → err = true ∨ extCmdBufsize ≤ p.length ∨
        (ctx.buffered ++ fitting ctx.buffered p).length ≤ 2 ∧
          ∃ b, (ctx.buffered ++ fitting ctx.buffered p).getLast? = some b ∧ isLineEnd b = true)
  | added (executed : ctx'.executed = ctx.executed)
      (buffered : ctx'.buffered = ctx.buffered ++ fitting ctx.buffered p)
      (taken : ctx.receiving = true ∧ err = false ∧ p.length < extCmdBufsize)
      (nonempty : fitting ctx.buffered p ≠ [])
      (opened : ∀ b, (ctx.buffered ++ fitting ctx.buffered p).getLast? = some b →
        isLineEnd b = false)
  | ran (executed : ctx'.executed =
        ctx.executed ++ [cstr (commandOf (ctx.buffered ++ fitting ctx.buffered p))])
      (buffered : ctx'.buffered = [])
      (taken : ctx.receiving = true ∧ err = false ∧ p.length < extCmdBufsize)
      (long : 2 < (ctx.buffered ++ fitting ctx.buffered p).length)
      (ended : ∃ b, (ctx.buffered ++ fitting ctx.buffered p).getLast? = some b ∧
        isLineEnd b = true)

/-! ### The buffer -/

/-- Bytes that are written behind what was read are read with it. -/
theorem bufRead_bufWrite (buf src : Bytes) (off : Nat) :
    bufRead (bufWrite buf off src) 0 (off + src.length) = bufRead buf 0 off ++ src := by
  have whole : (bufRead buf 0 off ++ src).length = off + src.length := by simp
  rw [bufWrite, bufRead, List.drop_zero, ← whole, List.take_left]
  simp

theorem bufRead_bufWrite_before (buf src : Bytes) {n off : Nat} (le : n ≤ off) :
    bufRead (bufWrite buf off src) 0 n = bufRead buf 0 n := by
  apply bufRead_congr
  intro i lt
  rw [Nat.zero_add, getD_bufWrite buf src (by omega)]

/-- A NUL behind `n` bytes makes them a C string. -/
theorem cstr_bufWrite_nul (buf : Bytes) (n : Nat) :
    cstr (bufWrite buf n [0]) = cstr (bufRead buf 0 n) := by
  rw [bufWrite, cstr, cstr, List.append_assoc, List.takeWhile_append]
  split
  next whole =>
    have same := (List.takeWhile_prefix fun b : UInt8 => b ≠ 0).eq_of_length whole
    rw [same]
    exact List.append_nil _
  next => rfl

/-- The last of the bytes that were read. -/
theorem getD_last (buf : Bytes) {n : Nat} (nonempty : 0 < n) :
    (bufRead buf 0 n).getLast? = some (buf.getD (n - 1) 0) := by
  have inside : n - 1 < (bufRead buf 0 n).length := by
    rw [length_bufRead]
    omega
  rw [List.getLast?_eq_getElem?, length_bufRead, List.getElem?_eq_getElem inside]
  have value := getD_bufRead buf 0 (i := n - 1) (n := n) (by omega)
  rw [List.getD_eq_getElem?_getD, List.getElem?_eq_getElem inside, Nat.zero_add] at value
  exact congrArg some value

theorem dropLast_bufRead (buf : Bytes) (n : Nat) :
    (bufRead buf 0 n).dropLast = bufRead buf 0 (n - 1) := by
  rw [List.dropLast_eq_take, length_bufRead, take_bufRead buf 0 (by omega)]

/-- The command that is left in the buffer when its line end is cut off. -/
theorem cstr_cutLineEnd (cmd : Bytes) {n : Nat} (long : 2 < n) :
    cstr (cutLineEnd cmd n) = cstr (commandOf (bufRead cmd 0 n)) := by
  have kept : (bufWrite cmd (n - 1) [0]).getD (n - 2) 0 = cmd.getD (n - 2) 0 :=
    getD_bufWrite cmd [0] (by omega)
  have before := getD_last cmd (n := n - 1) (by omega)
  have step : n - 1 - 1 = n - 2 := by omega
  rw [step] at before
  simp only [cutLineEnd]
  rw [kept, commandOf, dropLast_bufRead, before]
  by_cases cr : cmd.getD (n - 2) 0 = asciiKeyCr
  · rw [if_pos cr, if_pos (congrArg some cr), cstr_bufWrite_nul,
      bufRead_bufWrite_before cmd [0] (by omega), dropLast_bufRead, step]
  · rw [if_neg cr, if_neg fun same => cr (Option.some.inj same), cstr_bufWrite_nul]

/-! ### What is sent -/

/-- Sending changes neither the buffer nor the commands, but may find that the
connection must be closed. -/
structure Sending (ctx ctx' : TelnetCtx ι) : Prop where
  cmd : ctx'.cmd = ctx.cmd
  executed : ctx'.executed = ctx.executed
  received : ctx'.received = ctx.received
  conn : ∀ conn', ctx'.conn = some conn' → ∃ conn, ctx.conn = some conn ∧
    conn'.readIndex = conn.readIndex ∧ (conn'.state = conn.state ∨ conn'.state = .closing)

theorem Sending.refl (ctx : TelnetCtx ι) : Sending ctx ctx :=
  ⟨rfl, rfl, rfl, fun conn held => ⟨conn, held, rfl, .inl rfl⟩⟩

theorem Sending.trans {ctx ctx' ctx'' : TelnetCtx ι} (first : Sending ctx ctx')
    (second : Sending ctx' ctx'') : Sending ctx ctx'' := by
  constructor
  · exact second.cmd.trans first.cmd
  · exact second.executed.trans first.executed
  · exact second.received.trans first.received
  · intro conn'' held''
    obtain ⟨conn', held', index', state'⟩ := second.conn conn'' held''
    obtain ⟨conn, held, index, state⟩ := first.conn conn' held'
    refine ⟨conn, held, index'.trans index, ?_⟩
    rcases state' with same | closing
    · rw [same]
      exact state
    · exact .inr closing

/-- An assignment to fields that reading does not look at. -/
theorem Sending.update (ctx : TelnetCtx ι) {change : TelnetConn → TelnetConn}
    (index : ∀ conn, (change conn).readIndex = conn.readIndex)
    (state : ∀ conn, (change conn).state = conn.state ∨ (change conn).state = .closing) :
    Sending ctx (ctx.update change) := by
  refine ⟨rfl, rfl, rfl, fun conn' held' => ?_⟩
  obtain ⟨conn, held, rfl⟩ := Option.map_eq_some_iff.mp held'
  exact ⟨conn, held, index conn, state conn⟩

theorem telnetConnSend_sending (ctx : TelnetCtx ι) (data : Bytes) :
    Sending ctx (telnetConnSend ctx data) := by
  have left : Sending ctx { ctx with outcomes := ctx.outcomes.tail } :=
    ⟨rfl, rfl, rfl, fun conn held => ⟨conn, held, rfl, .inl rfl⟩⟩
  simp only [telnetConnSend]
  split
  · exact .refl ctx
  split
  · have written : Sending ctx
        { ctx with outcomes := ctx.outcomes.tail, output := ctx.output ++ [data] } :=
      ⟨rfl, rfl, rfl, fun conn held => ⟨conn, held, rfl, .inl rfl⟩⟩
    exact written.trans (.update _ (fun _ => rfl) fun _ => .inl rfl)
  · exact left
  · exact left.trans (.update _ (fun _ => rfl) fun _ => .inr rfl)

theorem telnetMsgPrintout_sending (ctx : TelnetCtx ι) (msg : Bytes) :
    Sending ctx (telnetMsgPrintout ctx msg) := by
  have filled (response : Bytes) : Sending ctx { ctx with response := response } :=
    ⟨rfl, rfl, rfl, fun conn held => ⟨conn, held, rfl, .inl rfl⟩⟩
  rw [telnetMsgPrintout]
  refine (filled _).trans (.trans (.update _ ?_ ?_) (telnetConnSend_sending _ _))
  · exact fun _ => rfl
  · exact fun _ => .inl rfl

theorem telnetMsgPrompt_sending (ctx : TelnetCtx ι) : Sending ctx (telnetMsgPrompt ctx) := by
  rw [telnetMsgPrompt]
  refine .trans (.update _ ?_ ?_) (telnetMsgPrintout_sending _ _)
  · exact fun _ => rfl
  · exact fun _ => .inl rfl

variable (bspCmdProcess : ι → Bytes → ι × Bytes × Bool)

theorem telnetCommandProcess_sending (ctx : TelnetCtx ι) :
    Sending ctx (telnetCommandProcess bspCmdProcess ctx) := by
  have answered (interpreter : ι) (response : Bytes) :
      Sending ctx { ctx with interpreter := interpreter, response := response } :=
    ⟨rfl, rfl, rfl, fun conn held => ⟨conn, held, rfl, .inl rfl⟩⟩
  rw [telnetCommandProcess]
  refine (answered _ _).trans (.trans (.update _ ?_ ?_) (telnetConnSend_sending _ _))
  · exact fun _ => rfl
  · exact fun _ => .inl rfl

/-! ### The connection -/

/-- While a command is answered, nothing of the next line is in the buffer. -/
def Idle (ctx : TelnetCtx ι) : Prop :=
  ∀ conn, ctx.conn = some conn → conn.state = .processing → conn.readIndex = 0

theorem buffered_of_start {ctx : TelnetCtx ι}
    (start : ∀ conn, ctx.conn = some conn → conn.state = .receiving → conn.readIndex = 0) :
    ctx.buffered = [] := by
  rw [TelnetCtx.buffered]
  split
  next conn held =>
    split
    next receiving => rw [start conn held receiving]; rfl
    next => rfl
  next => rfl

theorem buffered_of_receiving {ctx : TelnetCtx ι} {conn : TelnetConn}
    (held : ctx.conn = some conn) (receiving : conn.state = .receiving) :
    ctx.buffered = bufRead ctx.cmd 0 conn.readIndex := by
  rw [TelnetCtx.buffered, held]
  exact if_pos receiving

theorem receiving_iff {ctx : TelnetCtx ι} {conn : TelnetConn} (held : ctx.conn = some conn) :
    ctx.receiving = true ↔ conn.state = .receiving := by
  simp [TelnetCtx.receiving, held]

theorem buffered_of_not_receiving {ctx : TelnetCtx ι} (other : ctx.receiving = false) :
    ctx.buffered = [] := by
  apply buffered_of_start
  intro conn held receiving
  rw [(receiving_iff held).mpr receiving] at other
  cases other

/-! ### A segment -/

/-- A command that is begun is recorded, and reading stops. -/
theorem telnetCommandBegin_effect (ctx : TelnetCtx ι) :
    (telnetCommandBegin bspCmdProcess ctx).executed = ctx.executed ++ [cstr ctx.cmd] ∧
      (telnetCommandBegin bspCmdProcess ctx).buffered = [] := by
  simp only [telnetCommandBegin]
  split
  · refine ⟨(telnetMsgPrintout_sending _ _).executed, buffered_of_start ?_⟩
    intro conn' held' state
    obtain ⟨before, _, rfl⟩ := Option.map_eq_some_iff.mp held'
    cases state
  · have sending := telnetCommandProcess_sending bspCmdProcess
      (TelnetCtx.update { ctx with executed := ctx.executed ++ [cstr ctx.cmd] }
        fun conn => { conn with state := .processing, readIndex := 0 })
    refine ⟨sending.executed, buffered_of_start ?_⟩
    intro conn' held' _
    obtain ⟨conn, held, index, _⟩ := sending.conn conn' held'
    obtain ⟨before, _, rfl⟩ := Option.map_eq_some_iff.mp held
    exact index

/-- What becomes of a segment that the server reads. -/
theorem telnetCommandRead_effect {ctx : TelnetCtx ι} {conn : TelnetConn}
    (held : ctx.conn = some conn) (receiving : conn.state = .receiving) (p : Bytes) :
    Effect ctx (telnetCommandRead bspCmdProcess ctx conn p) p false := by
  have buffered := buffered_of_receiving held receiving
  have isReceiving := (receiving_iff held).mpr receiving
  have length : ctx.buffered.length = conn.readIndex := by rw [buffered, length_bufRead]
  have fits : fitting ctx.buffered p = p.take (extCmdBufsize - conn.readIndex) := by
    rw [fitting, length]
  simp only [telnetCommandRead]
  split
  next long =>
    refine .dropped (telnetMsgPrintout_sending _ _).executed (buffered_of_start ?_) fun _ =>
      .inr (.inl long)
    intro conn' held' state
    obtain ⟨before, _, rfl⟩ := Option.map_eq_some_iff.mp held'
    cases state
  next short =>
  split
  next empty => exact .unread rfl rfl fun _ => ⟨rfl, .inl (List.length_eq_zero_iff.mp empty)⟩
  split
  next option => exact .unread rfl rfl fun _ => ⟨rfl, .inr (.inl option)⟩
  split
  next full =>
    refine .unread rfl rfl fun _ => ⟨rfl, .inr (.inr ?_)⟩
    rw [List.length_take] at full
    omega
  next nonempty =>
  -- behind what was read of the line now stand the bytes that fit
  rw [← fits] at nonempty ⊢
  have data : bufRead (bufWrite (bufWrite ctx.cmd conn.readIndex (fitting ctx.buffered p))
      (conn.readIndex + (fitting ctx.buffered p).length) [0]) 0
      (conn.readIndex + (fitting ctx.buffered p).length) =
      ctx.buffered ++ fitting ctx.buffered p := by
    rw [bufRead_bufWrite_before _ _ (Nat.le_refl _), bufRead_bufWrite, buffered]
  generalize bufWrite (bufWrite ctx.cmd conn.readIndex (fitting ctx.buffered p))
    (conn.readIndex + (fitting ctx.buffered p).length) [0] = cmd at data ⊢
  have whole : (ctx.buffered ++ fitting ctx.buffered p).length =
      conn.readIndex + (fitting ctx.buffered p).length := by
    rw [List.length_append, length]
  generalize conn.readIndex + (fitting ctx.buffered p).length = n at data whole ⊢
  have some_ : 0 < n := by
    rw [← whole, List.length_append]
    omega
  have last := getD_last cmd some_
  rw [data] at last
  split
  next ends =>
    split
    next tiny =>
      refine .dropped (telnetMsgPrintout_sending _ _).executed (buffered_of_start ?_) fun _ =>
        .inr (.inr ⟨by omega, _, last, by simpa [isLineEnd] using ends⟩)
      intro conn' held' _
      obtain ⟨before, _, rfl⟩ := Option.map_eq_some_iff.mp held'
      rfl
    next long =>
      obtain ⟨executed, nothing⟩ := telnetCommandBegin_effect bspCmdProcess
        { ctx with cmd := cutLineEnd cmd n }
      rw [cstr_cutLineEnd cmd (by omega), data] at executed
      refine .ran executed nothing ⟨isReceiving, rfl, by omega⟩ (by omega) ⟨_, last, ?_⟩
      simpa [isLineEnd] using ends
  next opened =>
    refine .added rfl ?_ ⟨isReceiving, rfl, by omega⟩ ?_ ?_
    · have held' : (TelnetCtx.update { ctx with cmd := cmd } fun conn =>
          { conn with readIndex := n }).conn = some { conn with readIndex := n } :=
        congrArg (Option.map _) held
      rw [buffered_of_receiving held' receiving]
      exact data
    · exact fun none => nonempty (by rw [none]; rfl)
    · intro b atEnd
      obtain rfl : cmd.getD (n - 1) 0 = b := Option.some.inj (last.symm.trans atEnd)
      simpa [isLineEnd] using opened

/-! ### An event -/

/-- What becomes of a segment, whatever the state of the connection. -/
theorem telnetStep_recv (ctx : TelnetCtx ι) (p : Bytes) (err : Bool) :
    Effect ctx (telnetStep bspCmdProcess ctx (.recv (some p) err)) p err := by
  cases held : ctx.conn with
  | none =>
      have unheld : ctx.receiving ≠ true := by simp [TelnetCtx.receiving, held]
      refine .unread ?_ ?_ fun receiving => absurd receiving unheld
      · simp only [telnetStep, held]
      · simp only [telnetStep, TelnetCtx.buffered, held]
  | some conn =>
      simp only [telnetStep, held, telnetCallbackRecv]
      cases err with
      | true =>
          refine .dropped rfl (buffered_of_start ?_) fun _ => .inl rfl
          intro conn' held' state
          obtain ⟨before, _, rfl⟩ := Option.map_eq_some_iff.mp held'
          cases state
      | false =>
          have other : conn.state ≠ .receiving → ctx.receiving ≠ true :=
            fun differs receiving => differs ((receiving_iff held).mp receiving)
          cases state : conn.state with
          | receiving =>
              obtain effect := telnetCommandRead_effect bspCmdProcess held state p
              cases effect with
              | unread executed buffered why => exact .unread executed buffered why
              | dropped executed buffered why => exact .dropped executed buffered why
              | added executed buffered taken nonempty opened =>
                  exact .added executed buffered taken nonempty opened
              | ran executed buffered taken long ended =>
                  exact .ran executed buffered taken long ended
          | processing =>
              exact .unread rfl rfl fun receiving =>
                absurd receiving (other (by rw [state]; decide))
          | closing =>
              exact .unread rfl rfl fun receiving =>
                absurd receiving (other (by rw [state]; decide))

/-- The event ends the session: the client closes it, it breaks, or no command came for
too long. -/
def Ends (ctx : TelnetCtx ι) : TelnetEvent → Prop
  | .recv none _ | .error => True
  | .poll => ctx.conn.any fun conn => extTelnetTimeout ≤ (conn.timeoutSecond + 1) % 256
  | .recv (some _) _ | .sent => False

instance (ctx : TelnetCtx ι) : ∀ event, Decidable (Ends ctx event)
  | .recv none _ | .error => isTrue trivial
  | .poll => inferInstanceAs (Decidable (_ = true))
  | .recv (some _) _ | .sent => isFalse id

theorem telnetCallbackSent_effect {ctx : TelnetCtx ι} {conn : TelnetConn} (idle : Idle ctx)
    (held : ctx.conn = some conn) :
    (telnetCallbackSent bspCmdProcess ctx conn).executed = ctx.executed ∧
      (telnetCallbackSent bspCmdProcess ctx conn).buffered = ctx.buffered := by
  rw [telnetCallbackSent]
  cases state : conn.state with
  | receiving => exact ⟨rfl, rfl⟩
  | closing =>
      have nothing : ctx.buffered = [] := by simp [TelnetCtx.buffered, held, state]
      exact ⟨rfl, nothing.symm⟩
  | processing =>
      have nothing : ctx.buffered = [] := by simp [TelnetCtx.buffered, held, state]
      have start := idle conn held state
      rw [nothing]
      simp only
      split
      · have sending := telnetCommandProcess_sending bspCmdProcess ctx
        refine ⟨sending.executed, buffered_of_start fun conn' held' _ => ?_⟩
        obtain ⟨before, held'', index, _⟩ := sending.conn conn' held'
        obtain rfl := Option.some.inj (held.symm.trans held'')
        exact index.trans start
      · have sending := telnetMsgPrompt_sending ctx
        refine ⟨sending.executed, buffered_of_start fun conn' held' _ => ?_⟩
        obtain ⟨after, heldAfter, rfl⟩ := Option.map_eq_some_iff.mp held'
        obtain ⟨before, held'', index, _⟩ := sending.conn after heldAfter
        obtain rfl := Option.some.inj (held.symm.trans held'')
        exact index.trans start

theorem telnetCallbackPoll_effect {ctx : TelnetCtx ι} {conn : TelnetConn}
    (held : ctx.conn = some conn) :
    (telnetCallbackPoll ctx conn).executed = ctx.executed ∧
      (telnetCallbackPoll ctx conn).buffered =
        if extTelnetTimeout ≤ (conn.timeoutSecond + 1) % 256 then [] else ctx.buffered := by
  rw [telnetCallbackPoll]
  split
  next closing =>
    have nothing : ctx.buffered = [] := by simp [TelnetCtx.buffered, held, closing]
    refine ⟨rfl, ?_⟩
    rw [nothing, ite_self]
    rfl
  next =>
    simp only
    split
    · refine ⟨(telnetMsgPrintout_sending _ _).executed, buffered_of_start ?_⟩
      intro conn' held' state
      obtain ⟨before, _, rfl⟩ := Option.map_eq_some_iff.mp held'
      cases state
    · refine ⟨rfl, ?_⟩
      simp only [TelnetCtx.buffered, TelnetCtx.update, held, Option.map_some]

/-- Without a segment no command begins, and a line is lost only at the end of the
session. -/
theorem telnetStep_other {ctx : TelnetCtx ι} (idle : Idle ctx) {event : TelnetEvent}
    (other : ∀ p err, event ≠ .recv (some p) err) :
    (telnetStep bspCmdProcess ctx event).executed = ctx.executed ∧
      (telnetStep bspCmdProcess ctx event).buffered =
        if Ends ctx event then [] else ctx.buffered := by
  cases held : ctx.conn with
  | none =>
      have nothing : ctx.buffered = [] := by simp only [TelnetCtx.buffered, held]
      rw [nothing, ite_self]
      simp only [telnetStep, TelnetCtx.buffered, held, and_self]
  | some conn =>
      simp only [telnetStep, held]
      cases event with
      | recv p err =>
          cases p with
          | some p => exact absurd rfl (other p err)
          | none =>
              refine ⟨rfl, buffered_of_start ?_⟩
              intro conn' held' state
              obtain ⟨before, _, rfl⟩ := Option.map_eq_some_iff.mp held'
              cases state
      | sent => exact telnetCallbackSent_effect bspCmdProcess idle held
      | poll =>
          have past : Ends ctx .poll ↔ extTelnetTimeout ≤ (conn.timeoutSecond + 1) % 256 := by
            simp [Ends, held]
          rw [if_congr past rfl rfl]
          exact telnetCallbackPoll_effect held
      | error => exact ⟨rfl, rfl⟩

/-! ### Between commands -/

theorem Sending.idle {ctx ctx' : TelnetCtx ι} (sending : Sending ctx ctx') (idle : Idle ctx) :
    Idle ctx' := by
  intro conn' held' state'
  obtain ⟨conn, held, index, same | closing⟩ := sending.conn conn' held'
  · exact index.trans (idle conn held (same.symm.trans state'))
  · rw [closing] at state'
    cases state'

/-- An assignment that ends the answering of a command. -/
theorem idle_update (ctx : TelnetCtx ι) {change : TelnetConn → TelnetConn}
    (start : ∀ conn, (change conn).state = .processing → (change conn).readIndex = 0) :
    Idle (ctx.update change) := by
  intro conn' held' state'
  obtain ⟨conn, _, rfl⟩ := Option.map_eq_some_iff.mp held'
  exact start conn state'

theorem telnetCommandBegin_idle (ctx : TelnetCtx ι) :
    Idle (telnetCommandBegin bspCmdProcess ctx) := by
  simp only [telnetCommandBegin]
  split
  · exact idle_update _ fun conn state => by cases state
  · apply (telnetCommandProcess_sending bspCmdProcess _).idle
    exact idle_update _ fun conn _ => rfl

theorem telnetCommandRead_idle {ctx : TelnetCtx ι} {conn : TelnetConn} (idle : Idle ctx)
    (held : ctx.conn = some conn) (receiving : conn.state = .receiving) (p : Bytes) :
    Idle (telnetCommandRead bspCmdProcess ctx conn p) := by
  simp only [telnetCommandRead]
  split
  · exact idle_update _ fun conn state => by cases state
  split
  · exact idle
  split
  · exact idle
  split
  · exact idle
  split
  · split
    · exact idle_update _ fun conn _ => rfl
    · exact telnetCommandBegin_idle bspCmdProcess _
  · intro conn' held' state'
    obtain ⟨before, heldBefore, rfl⟩ := Option.map_eq_some_iff.mp held'
    obtain rfl := Option.some.inj (held.symm.trans heldBefore)
    cases receiving.symm.trans state'

/-- No event leaves something of a line in the buffer while a command is answered. -/
theorem telnetStep_idle {ctx : TelnetCtx ι} (idle : Idle ctx) (event : TelnetEvent) :
    Idle (telnetStep bspCmdProcess ctx event) := by
  cases held : ctx.conn with
  | none =>
      intro conn' held' _
      simp only [telnetStep, held] at held'
      cases held'
  | some conn =>
      simp only [telnetStep, held]
      cases event with
      | recv p err =>
          simp only [telnetCallbackRecv]
          cases p with
          | none => exact idle_update ctx fun conn state => by cases state
          | some p =>
              cases err with
              | true => exact idle_update ctx fun conn state => by cases state
              | false =>
                  cases state : conn.state with
                  | receiving => exact telnetCommandRead_idle bspCmdProcess idle held state p
                  | processing => exact idle
                  | closing => exact idle
      | sent =>
          simp only [telnetCallbackSent]
          cases state : conn.state with
          | receiving => exact idle
          | closing => exact fun conn' held' => by cases held'
          | processing =>
              simp only
              split
              · exact (telnetCommandProcess_sending bspCmdProcess ctx).idle idle
              · exact idle_update _ fun conn state => by cases state
      | poll =>
          simp only [telnetCallbackPoll]
          split
          · exact fun conn' held' => by cases held'
          split
          · exact idle_update _ fun conn state => by cases state
          · refine (Sending.update ctx ?_ ?_).idle idle
            · exact fun _ => rfl
            · exact fun _ => .inl rfl
      | error => exact fun conn' held' => by cases held'

end LwipExt.Telnet
