import LwipExt.UdpCmd.Request

/-!
`EXT_JSON_PARSER`, the state of the IP command agent, and what becomes of a request
before a command is run: tokenizing, the target and command fields
(`extUdpCmdRequest.c`), and the check of user, password and target
(`extUdpCmdResponses.c`, `extUdpCmdExecs.c`). These functions read and write the request
part of the state only.
-/

namespace LwipExt.UdpCmd

/-- A call into the hardware or the board support, ARM build. -/
inductive HwOp where
  | cfgSave (runCfg : RuntimeCfg)
  | reboot
  | rs232Config (runCfg : RuntimeCfg)
  | rs232Write (value : UInt8)
  | fpgaConfig (runCfg : RuntimeCfg)
  | fpgaEnable (enable : Bool)
  | groupMgr (ip : UInt32) (join : Bool)
  deriving DecidableEq

/-- A datagram given to `udp_sendto`. -/
structure Sent where
  ip : UInt32
  port : UInt16
  payload : Bytes
  deriving DecidableEq

/-- `MuxSetupData`. -/
structure MuxSetupData where
  hexData : Bytes := []
  isFeedBack : UInt8 := 0
  waitMs : UInt16 := 0
  scKey : Bytes := []
  scID : Bytes := []
  deriving DecidableEq

/-- The request part of `EXT_JSON_PARSER`: what parsing a command reads and writes. -/
structure Request where
  json : Json := ⟨[], List.replicate extJsonTokenSize {}, 0⟩
  report : Report := {}
  target : Mac := Vector.replicate 6 0
  cmd : Bytes := []
  deriving DecidableEq

/-- `EXT_JSON_PARSER` with the configuration it points to, the memory from `bufRead` on,
the address of `guNetIf`, whether the coming `pbuf_alloc` succeed (they do when the list
has run out), and the hardware calls and datagrams so far. -/
structure ExtJsonParser extends Request where
  runCfg : RuntimeCfg
  netIp : UInt32 := 0
  bufRead : Bytes := []
  outBuffer : Bytes := []
  outIndex : Nat := 0
  setupData : MuxSetupData := {}
  pbufAllocs : List Bool := []
  ops : List HwOp := []
  sent : List Sent := []
  deriving DecidableEq

/-- Size of `parser->cmd`. -/
def cmdSize : Nat := 32

/-- `PARSE_IS_OK`. -/
def Request.parseIsOk (rq : Request) : Bool := rq.report.status = .ok

/-- `snprintf` into `parser->msg`. -/
def Request.say (rq : Request) (text : Bytes) : Request :=
  { rq with report := rq.report.say text }

/-- Set `parser->status`. -/
def Request.withStatus (rq : Request) (status : JsonStatus) : Request :=
  { rq with report := { rq.report with status := status } }

/-- `extJsonParse`, with the part of `extJsonInit` that concerns the request. -/
def extJsonParse (rq : Request) (jStr : Bytes) (size : Nat) : Request :=
  let (p, failed) := jsmnParse jStr size rq.json.tokens
  { rq with
    json := ⟨jStr, p.tokens, p.toknext⟩
    report := { rq.report with status := if failed.isSome then .parseError else .ok } }

/-- `extJsonFindCommand`. -/
def extJsonFindCommand (rq : Request) : Request × Bool :=
  match extJsonParseString rq.json (str "cmd") cmdSize rq.report with
  | (r, some cmd) => ({ rq with report := r, cmd := cmd }, true)
  | (r, none) =>
      (Request.say { rq with report := r }
        (str "ERROR can't find " ++ quoted (str "cmd") ++ str " object"), false)

/-- `extJsonRequestParseCommand`. -/
def extJsonRequestParseCommand (rq : Request) (jsonRequest : Bytes) (size : Nat) :
    Request × Bool :=
  let rq := extJsonParse rq jsonRequest size
  if ¬ rq.parseIsOk then
    ((rq.say (str "ERROR: JSON library parsing failed")).withStatus .parseError, false)
  else
    let (r, target, ok) := extJsonParseMacAddress rq.json (str "targ") rq.target rq.report
    let rq := { rq with report := r, target := target }
    if ¬ ok then
      ((rq.say (str "ERROR: can't find or invalidate " ++ quoted (str "targ") ++
        str " object")).withStatus .parseError, false)
    else
      match extJsonFindCommand rq with
      | (rq, true) => (rq, true)
      | (rq, false) => (rq.withStatus .parseError, false)

/-- `strncmp(name, expected, strlen(expected)) == 0`. -/
def startsWith (name expected : Bytes) : Bool := (cstr expected).isPrefixOf name

/-- `extJsonUserValidate`. -/
def extJsonUserValidate (runCfg : RuntimeCfg) (rq : Request) : Request × Bool :=
  match extJsonParseString rq.json (str "login-ack") extUserSize rq.report with
  | (r, none) =>
      (Request.say { rq with report := r }
        (quoted (str "login-ack") ++ str " is provided in JSON data"), false)
  | (r, some name) =>
      let rq := { rq with report := r }
      if ¬ startsWith name runCfg.user then
        (rq.say (quoted name ++ str " is not validate user"), false)
      else
        match extJsonParseString rq.json (str "pwd-msg") extUserSize rq.report with
        | (r, none) =>
            (Request.say { rq with report := r }
              (quoted (str "pwd-msg") ++ str " is provided in JSON data"), false)
        | (r, some name) =>
            let rq := { rq with report := r }
            if ¬ startsWith name runCfg.password then
              (rq.say (quoted name ++ str " authentication failed"), false)
            else (rq, true)

/-- `extUdpCmdIsLocal`. -/
def extUdpCmdIsLocal (runCfg : RuntimeCfg) (rq : Request) : Request × Bool :=
  match extJsonUserValidate runCfg rq with
  | (rq, false) => (rq, false)
  | (rq, true) =>
      if rq.target ≠ runCfg.localCfg.mac then (rq.say (str "'targ' is not my address"), false)
      else (rq, true)

end LwipExt.UdpCmd
