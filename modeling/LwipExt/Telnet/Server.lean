import LwipExt.CString

/-!
The telnet server of `extTelnetd.c`: the callbacks of its one connection.

The interpreter behind `bspCmdProcess` is outside the sources and a parameter here: a
state and what a call makes of it and of the command. `outcomes` tells what becomes of
the coming calls of `tcp_write`. `retries`, which no callback reads, is left out.
-/

namespace LwipExt.Telnet

/-- `EXT_CMD_BUFSIZE`. -/
def extCmdBufsize : Nat := 1024

/-- `EXT_COMMAND_BUFFER_SIZE`. -/
def extCommandBufferSize : Nat := 1024

/-- `EXT_TELNET_TIMEOUT`, in polls. -/
def extTelnetTimeout : Nat := 30

/-- `TELNET_PROTOCOL_IAC`. -/
def telnetProtocolIac : UInt8 := 0xFF

/-- `ASCII_KEY_LF` and `ASCII_KEY_CR`. -/
def asciiKeyLf : UInt8 := 0x0A
def asciiKeyCr : UInt8 := 0x0D

/-- `EXT_TELNET_STATE` of a connection. -/
inductive TelnetState where
  | receiving
  | processing
  | closing
  deriving DecidableEq, Repr

/-- `EXT_TELNET_CONN_T`. -/
structure TelnetConn where
  state : TelnetState := .receiving
  isContinue : Bool := false
  readIndex : Nat := 0
  writeIndex : Nat := 0
  timeoutSecond : Nat := 0
  deriving DecidableEq, Repr

/-- What becomes of data for the client: it is taken, it is more than the free send
buffer, or `tcp_write` fails. -/
inductive SendOutcome where
  | accepted
  | noRoom
  | failed
  deriving DecidableEq, Repr

/-- `MuxTelnetCtx` with the two static buffers. `executed` lists the commands that were
begun, `received` the bytes of all segments that arrived, and `output` what was
written. -/
structure TelnetCtx (ι : Type) where
  conn : Option TelnetConn
  cmd : Bytes
  response : Bytes
  interpreter : ι
  outcomes : List SendOutcome
  output : List Bytes := []
  executed : List Bytes := []
  received : Bytes := []
  deriving DecidableEq, Repr

variable {ι : Type}

/-- An assignment to fields of the connection. -/
def TelnetCtx.update (ctx : TelnetCtx ι) (change : TelnetConn → TelnetConn) : TelnetCtx ι :=
  { ctx with conn := ctx.conn.map change }

/-- `_telnetConnSend`. -/
def telnetConnSend (ctx : TelnetCtx ι) (data : Bytes) : TelnetCtx ι :=
  if data = [] then ctx
  else
    let left := { ctx with outcomes := ctx.outcomes.tail }
    match ctx.outcomes.head?.getD .accepted with
    | .accepted =>
        { left with output := ctx.output ++ [data] }.update fun conn =>
          { conn with writeIndex := 0 }
    | .noRoom => left
    | .failed => left.update fun conn => { conn with state := .closing }

/-- `_telnetMsgPrintout`. -/
def telnetMsgPrintout (ctx : TelnetCtx ι) (msg : Bytes) : TelnetCtx ι :=
  let text := snprintf extCommandBufferSize msg
  let ctx := { ctx with response := bufWrite ctx.response 0 (text ++ [0]) }
  telnetConnSend
    (ctx.update fun conn => { conn with writeIndex := msg.length, isContinue := false }) text

/-- `_telnetMsgPrompt`. -/
def telnetMsgPrompt (ctx : TelnetCtx ι) : TelnetCtx ι :=
  telnetMsgPrintout (ctx.update fun conn => { conn with timeoutSecond := 0 })
    (crlf ++ str "MuxLab telnet shell." ++ crlf ++
      str "For help, try the \"help\" command; \"quit\" exit telnet." ++ crlf ++ str "> ")

variable (bspCmdProcess : ι → Bytes → ι × Bytes × Bool)

/-- `_telnetCommandProcess`. -/
def telnetCommandProcess (ctx : TelnetCtx ι) : TelnetCtx ι :=
  match bspCmdProcess ctx.interpreter (cstr ctx.cmd) with
  | (interpreter, response, isContinue) =>
      let ctx := { ctx with interpreter := interpreter, response := response }
      telnetConnSend
        (ctx.update fun conn =>
          { conn with isContinue := isContinue, writeIndex := u16 (cstr response).length })
        (cstr response)

/-- The line end in front of `readIndex` is cut off: one byte, and a carriage return
before it. -/
def cutLineEnd (cmd : Bytes) (readIndex : Nat) : Bytes :=
  let cmd := bufWrite cmd (readIndex - 1) [0]
  if cmd.getD (readIndex - 2) 0 = asciiKeyCr then bufWrite cmd (readIndex - 2) [0] else cmd

/-- The command in the buffer is begun. The server itself executes `quit`. -/
def telnetCommandBegin (ctx : TelnetCtx ι) : TelnetCtx ι :=
  let ctx := { ctx with executed := ctx.executed ++ [cstr ctx.cmd] }.update
    fun conn => { conn with state := .processing, readIndex := 0 }
  if str "quit" <+: ctx.cmd then
    (telnetMsgPrintout ctx (str "Bye, dear!" ++ crlf)).update fun conn =>
      { conn with isContinue := false, state := .closing }
  else telnetCommandProcess bspCmdProcess ctx

/-- `_telnetCommandRead` of a segment, on the connection `conn`. -/
def telnetCommandRead (ctx : TelnetCtx ι) (conn : TelnetConn) (p : Bytes) : TelnetCtx ι :=
  if extCmdBufsize ≤ p.length then
    (telnetMsgPrintout ctx (str "Command is longer than maxumum length" ++ crlf)).update
      fun conn => { conn with state := .closing }
  else if p.length = 0 then ctx
  else if p.head? = some telnetProtocolIac then ctx
  else
    let copied := p.take (extCmdBufsize - conn.readIndex)
    if copied.length = 0 then ctx
    else
      let readIndex := conn.readIndex + copied.length
      -- the NUL behind 1024 bytes lands behind the array
      let cmd := bufWrite (bufWrite ctx.cmd conn.readIndex copied) readIndex [0]
      let last := cmd.getD (readIndex - 1) 0
      if last = asciiKeyLf ∨ last = asciiKeyCr then
        if readIndex = 1 ∨ readIndex = 2 then
          (telnetMsgPrintout { ctx with cmd := cmd } (str "> ")).update fun conn =>
            { conn with readIndex := 0, timeoutSecond := 0 }
        else telnetCommandBegin bspCmdProcess { ctx with cmd := cutLineEnd cmd readIndex }
      else { ctx with cmd := cmd }.update fun conn => { conn with readIndex := readIndex }

/-- What happens on the connection: a segment arrives, or the end of the stream as the
null pointer, with `err` as the stack gives it; sent data is acknowledged; the poll
timer of the connection expires; the connection breaks. -/
inductive TelnetEvent where
  | recv (p : Option Bytes) (err : Bool)
  | sent
  | poll
  | error
  deriving DecidableEq, Repr

/-- `_telnetCallbackRecv`. -/
def telnetCallbackRecv (ctx : TelnetCtx ι) (conn : TelnetConn) (p : Option Bytes) (err : Bool) :
    TelnetCtx ι :=
  match p with
  | none => ctx.update fun conn => { conn with state := .closing }
  | some p =>
      if err then ctx.update fun conn => { conn with state := .closing }
      else
        match conn.state with
        | .receiving => telnetCommandRead bspCmdProcess ctx conn p
        | .processing => ctx
        | .closing => ctx

/-- `_telnetCallbackSent`. -/
def telnetCallbackSent (ctx : TelnetCtx ι) (conn : TelnetConn) : TelnetCtx ι :=
  match conn.state with
  | .processing =>
      if conn.isContinue then telnetCommandProcess bspCmdProcess ctx
      else (telnetMsgPrompt ctx).update fun conn => { conn with state := .receiving }
  | .closing => { ctx with conn := none }
  | .receiving => ctx

/-- `_telnetCallbackPoll`. -/
def telnetCallbackPoll (ctx : TelnetCtx ι) (conn : TelnetConn) : TelnetCtx ι :=
  if conn.state = .closing then { ctx with conn := none }
  else
    let ctx := ctx.update fun conn => { conn with timeoutSecond := (conn.timeoutSecond + 1) % 256 }
    if extTelnetTimeout ≤ (conn.timeoutSecond + 1) % 256 then
      (telnetMsgPrintout ctx (str "Timeout for MuxLab telnet connection" ++ crlf)).update
        fun conn => { conn with state := .closing }
    else ctx

/-- The bytes of the segment that an event brings. -/
def TelnetEvent.segment : TelnetEvent → Bytes
  | .recv (some p) _ => p
  | _ => []

/-- The callback for an event. The callbacks of a closed connection are taken off. -/
def telnetStep (ctx : TelnetCtx ι) (event : TelnetEvent) : TelnetCtx ι :=
  let after :=
    match ctx.conn with
    | none => ctx
    | some conn =>
        match event with
        | .recv p err => telnetCallbackRecv bspCmdProcess ctx conn p err
        | .sent => telnetCallbackSent bspCmdProcess ctx conn
        | .poll => telnetCallbackPoll ctx conn
        | .error => { ctx with conn := none }
  { after with received := ctx.received ++ event.segment }

/-- `_telnetCallabckAccept` of the first client. -/
def telnetCallbackAccept (interpreter : ι) (outcomes : List SendOutcome) : TelnetCtx ι :=
  telnetMsgPrompt
    { conn := some {}, cmd := List.replicate extCmdBufsize 0
      response := List.replicate extCommandBufferSize 0, interpreter := interpreter
      outcomes := outcomes }

end LwipExt.Telnet
