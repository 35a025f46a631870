import LwipExt.Cmn.Jsmn
import LwipExt.Cmn.SysParams

/-!
The tokenized request and the accessors of `cmn/extCmnJsonUtils.c` and
`udpCmd/extUdpCmdRequest.c` that read it.

`EXT_JSON_PARSER` is split along what the accessors do with it: they only read the
text and the tokens (`Json`), and they only write the status and the message
(`Report`). So what an accessor leaves alone shows in its type.
-/

namespace LwipExt.UdpCmd

/-- `JSON_STATUS_T`, as far as the agent uses it; `unset` is the zero before the first
request. -/
inductive JsonStatus where
  | unset
  | ok
  | parseError
  | parseParamError
  | tagError
  | crcError
  deriving DecidableEq, Repr

/-- `EXT_JSON_MESSAGE_SIZE`. -/
def extJsonMessageSize : Nat := 64

/-- What the accessors read: the memory from the text on (`currentJSonString`), the
token array and `parser.toknext`. -/
structure Json where
  text : Bytes
  tokens : List Jsmntok
  toknext : Nat
  deriving DecidableEq

/-- `parser->status` and `parser->msg`. -/
structure Report where
  status : JsonStatus := .unset
  msg : Bytes := []
  deriving DecidableEq

/-- `snprintf` into `parser->msg`. -/
def Report.say (r : Report) (text : Bytes) : Report :=
  { r with msg := snprintf extJsonMessageSize text }

/-- A parameter is refused. -/
def Report.refuse (r : Report) (text : Bytes) : Report :=
  { r.say text with status := .parseParamError }

/-- A text between single quotes. -/
def quoted (text : Bytes) : Bytes := str "'" ++ text ++ str "'"

/-- A token of the array; what lies behind the array is no token type. -/
def Json.token (j : Json) (i : Nat) : Jsmntok := j.tokens.getD i default

/-- `extJsonFindKeyToken`: the token behind the first string equal to the key, from the
second token on to one beyond the last. -/
def extJsonFindKeyToken (j : Json) (key : Bytes) : Option Jsmntok :=
  ((List.range j.toknext).find? fun i => jsoneq j.text (j.token (i + 1)) key).map
    fun i => j.token (i + 2)

/-- What `"%.*s"` prints of a token. -/
def Json.tokenText (j : Json) (tok : Jsmntok) : Bytes :=
  (cstr (j.text.drop tok.start)).take (tok.stop.getD 0 - tok.start)

/-- `extJsonGetValueObject` for the three kinds of value: the token of a key if it has
the type. `kind` is the word of the message. -/
def extJsonGetValueObject (type : JsmnType) (kind : Bytes) (j : Json) (key : Bytes)
    (r : Report) : Report × Option Jsmntok :=
  match extJsonFindKeyToken j key with
  | none => (r.refuse (str "ERROR can't find " ++ quoted key ++ str " object"), none)
  | some tok =>
      if tok.type ≠ type then (r.refuse (quoted key ++ str " was not an " ++ kind), none)
      else (r, some tok)

/-- `_extJsonGetArrayObject`; its message says integer too. -/
def extJsonGetArrayObject : Json → Bytes → Report → Report × Option Jsmntok :=
  extJsonGetValueObject .array (str "integer")

/-- `_extJsonGetPrimitiveValueObject`. -/
def extJsonGetPrimitiveValueObject : Json → Bytes → Report → Report × Option Jsmntok :=
  extJsonGetValueObject .primitive (str "integer")

/-- `extJsonParseUnsignedInteger`. A token `sscanf` cannot read fails without a word. -/
def extJsonParseUnsignedInteger (j : Json) (key : Bytes) (r : Report) :
    Report × Option UInt32 :=
  let (r, tok) := extJsonGetPrimitiveValueObject j key r
  (r, tok.bind fun tok => scanUnsigned (cstr (j.text.drop tok.start)))

/-- `extJsonParseUnsignedShort`; `PRIu16` of the ARM library is `hu`. -/
def extJsonParseUnsignedShort (j : Json) (key : Bytes) (r : Report) : Report × Option UInt16 :=
  let (r, value) := extJsonParseUnsignedInteger j key r
  (r, value.map UInt32.toUInt16)

/-- `extJsonParseUnsignedChar`; `PRIu8` of the ARM library is `hhu`. -/
def extJsonParseUnsignedChar (j : Json) (key : Bytes) (r : Report) : Report × Option UInt8 :=
  let (r, value) := extJsonParseUnsignedInteger j key r
  (r, value.map UInt32.toUInt8)

/-- `extJsonParseString` into a buffer of `size` bytes. -/
def extJsonParseString (j : Json) (key : Bytes) (size : Nat) (r : Report) :
    Report × Option Bytes :=
  let (r, tok) := extJsonGetValueObject .string (str "string") j key r
  (r, tok.map fun tok => snprintf size (j.tokenText tok))

/-- `extJsonParseString` into `parser->msg`, as its three callers here use it. -/
def extJsonParseMsg (j : Json) (key : Bytes) (r : Report) : Report × Bool :=
  match extJsonParseString j key extJsonMessageSize r with
  | (r, some value) => ({ r with msg := value }, true)
  | (r, none) => (r, false)

/-- `extJsonParseIpAddress`. -/
def extJsonParseIpAddress (j : Json) (key : Bytes) (r : Report) : Report × UInt32 :=
  let (r, found) := extJsonParseMsg j key r
  (r, if found then ipaddrAddr r.msg else ipaddrNone)

/-- `extJsonParseMacAddress`: the address, and whether all of it was read. -/
def extJsonParseMacAddress (j : Json) (key : Bytes) (mac : Mac) (r : Report) :
    Report × Mac × Bool :=
  let (r, found) := extJsonParseMsg j key r
  (r, if found then extMacAddressParse mac r.msg else (mac, false))

/-- `extJsonParseDataArray`. -/
def extJsonParseDataArray (j : Json) (r : Report) : Report × Bool :=
  let (r, tok) := extJsonGetArrayObject j (str "data") r
  (r, tok.isSome)

end LwipExt.UdpCmd
