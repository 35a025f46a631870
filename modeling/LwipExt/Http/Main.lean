import LwipExt.Http.Send

/-!
`exts/http/extHttpMain.c`: the callbacks of the HTTP server, and its runs.

An event is one callback, together with what the stack is going to answer during it:
for each pcb its send side and the result of `tcp_close`, what the allocator has to
offer, and whether the flash takes the coming writes. `Server.step` delivers a
callback only as far as it is registered.
-/

namespace LwipExt.Http

/-- What the surroundings answer during one callback. -/
structure Env where
  tcp : PcbId → Tcp
  closeOk : PcbId → Bool
  flashOk : List Bool

/-- The callbacks. A received segment comes with the memory behind its payload, and a
missing one means that the peer has closed. -/
inductive Callback where
  | accept (p : PcbId) (err : Bool) (first second : Option ConnId)
  | recv (p : PcbId) (segment : Option Pbuf) (err : Bool) (stale : Bytes)
  | sent (p : PcbId)
  | poll (p : PcbId)
  | err (p : PcbId)
  | sendMore (p : PcbId)
  deriving DecidableEq, Repr

structure Event where
  env : Env
  callback : Callback

namespace Server

/-- What the stack has in store at the start of a callback. -/
def arm (s : Server) (env : Env) : Server :=
  { s with
    pcbs := fun p => { s.pcbs p with tcp := env.tcp p, closeOk := env.closeOk p }
    firmware := { s.firmware with flashOk := env.flashOk } }

/-- `_extHttpAccept`. -/
def extHttpAccept (s : Server) (p : PcbId) (err : Bool) (first second : Option ConnId) : Server :=
  if err then s
  else
    match s.extHttpConnAlloc p first second with
    | (s, none) => s
    | (s, some c) =>
        let s := { s with currentHttpConns := s.currentHttpConns + 1 }
        s.setPcb p fun pcb => { pcb with arg := some c, registered := true, poll := true }

/-- `__extHttpErr`: the pcb is gone, its connection is freed. -/
def extHttpErr (s : Server) (p : PcbId) : Server :=
  let arg := (s.pcbs p).arg
  let s := s.resetCallbacks p
  match arg with
  | some c => s.extHttpConnFree c
  | none => s

/-- `__extHttpSent`. -/
def extHttpSent (s : Server) (arg : Option ConnId) : Server :=
  match arg with
  | none => s
  | some c => ((s.assign c fun mhc => { mhc with retries := 0 }).extHttpSend c).1

/-- `extHttpPoll`. -/
def extHttpPoll (s : Server) (arg : Option ConnId) (p : PcbId) : Server :=
  match arg with
  | none => s.extHttpConnClose none p
  | some c =>
      let s := s.assign c fun mhc => { mhc with retries := (mhc.retries + 1) % 256 }
      if (s.mem c).conn.retries = maxRetries then s.extHttpConnClose (some c) p
      else (s.extHttpSend c).1

/-- `extHttpContinue`, of the builds with asynchronous file reads. -/
def extHttpContinue (s : Server) (arg : Option ConnId) : Server :=
  match arg with
  | none => s
  | some c =>
      let s := s.touch c
      if (s.mem c).conn.handle.isSome then
        match s.extHttpSend c with
        -- `tcp_output` of the `pcb` field
        | (s, ret) => if ret ≠ noDataToSend then s.touch c else s
      else s

/-- `__extHttpRecv` with a segment for a connection that expects a request. -/
def recvRequest (site : Site) (s : Server) (c : ConnId) (p : PcbId) (segment : Pbuf)
    (stale : Bytes) : Server :=
  let (s, parsed) := s.onConn c fun ss => extHttpRequestParse site ss segment stale
  let s := if parsed ≠ .inProgress then s.assign c fun mhc => { mhc with req := none } else s
  if parsed = .ok then (s.extHttpSend c).1
  else if parsed = .arg then s.extHttpConnClose (some c) p
  else s

/-- `__extHttpRecv` with a segment for an upgraded connection. `retries` is assigned
behind the close, too. -/
def recvWebSocket (s : Server) (c : ConnId) (p : PcbId) (segment : Pbuf) : Server :=
  let (s, ret) := s.onConn c fun ss =>
    let (mhc, ret) := extHttpWebSocketParseFrame ss.mhc segment
    ({ ss with mhc }, ret)
  let s := if ret = .clsd then s.extHttpConnClose (some c) p else s
  s.assign c fun mhc => { mhc with retries := 0 }

/-- `__extHttpRecv` with a segment of a POST body. -/
def recvPost (s : Server) (c : ConnId) (segment : Pbuf) : Server :=
  let s := s.assign c fun mhc => { mhc with retries := 0 }
  let (s, _) := s.onConn c fun ss => extHttpPostRxDataPbuf ss segment
  (s.extHttpSend c).1

/-- `__extHttpRecv`. -/
def extHttpRecv (site : Site) (s : Server) (arg : Option ConnId) (p : PcbId)
    (segment : Option Pbuf) (err : Bool) (stale : Bytes) : Server :=
  match arg, segment, err with
  | some c, some segment, false =>
      let s := s.touch c
      let mhc := (s.mem c).conn
      if mhc.reqType = .webSocket then s.recvWebSocket c p segment
      else if 0 < mhc.postDataLeft ∨ mhc.method = .post then s.recvPost c segment
      else if mhc.handle.isNone then recvRequest site s c p segment stale
      else s
  | arg, _, _ => s.extHttpConnClose arg p

/-- One callback, if the pcb has it registered. A new connection comes with a pcb that
is not in use. -/
def deliver (site : Site) (s : Server) : Callback → Server
  | .accept p err first second =>
      if (s.pcbs p).registered || (s.pcbs p).poll then s else s.extHttpAccept p err first second
  | .recv p segment err stale =>
      if (s.pcbs p).registered then extHttpRecv site s (s.pcbs p).arg p segment err stale else s
  | .sent p => if (s.pcbs p).registered then s.extHttpSent (s.pcbs p).arg else s
  | .poll p => if (s.pcbs p).poll then s.extHttpPoll (s.pcbs p).arg p else s
  | .err p => if (s.pcbs p).registered then s.extHttpErr p else s
  | .sendMore p => if (s.pcbs p).registered then s.extHttpContinue (s.pcbs p).arg else s

/-- One event. -/
def step (site : Site) (s : Server) (e : Event) : Server := (s.arm e.env).deliver site e.callback

end Server

end LwipExt.Http
