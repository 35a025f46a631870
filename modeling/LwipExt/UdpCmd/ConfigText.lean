import LwipExt.UdpCmd.FrameText
import Mathlib.Data.Nat.Digits.Defs

/-!
The frames with the configuration fit the out buffer: the reply to `get_param` and
`set_param` (`frameOf_config`) and the media data (`frameOf_media`). So they are the texts
that were printed, whatever the buffer held before.
-/

namespace LwipExt.UdpCmd

/-- The strings of a configuration fit their arrays. -/
structure Stored (cfg : RuntimeCfg) : Prop where
  name : cfg.name.length < cfgNameSize
  user : cfg.user.length < extUserSize
  password : cfg.password.length < extUserSize

/-! ### Lengths -/

theorem length_decimal {n e : Nat} (pos : 0 < e) (lt : n < 10 ^ e) : (decimal n).length ≤ e := by
  have digits := Nat.toDigits_length 10 n e pos lt
  have length : (decimal n).length = (Nat.toDigits 10 n).length := by
    rw [decimal, str, List.length_map]
    exact congrArg List.length Nat.toList_repr
  omega

theorem length_decimalSigned (n : UInt32) : (decimalSigned n).length ≤ 11 := by
  have short (n : UInt32) : (decimal n.toNat).length ≤ 10 :=
    length_decimal (by decide) (n.toNat_lt.trans (by decide))
  unfold decimalSigned
  split
  · exact (short n).trans (by decide)
  · have minus : (str "-").length = 1 := by decide
    have := short (0 - n)
    rw [List.length_append, minus]
    omega

theorem length_inetNtoa (addr : UInt32) : (inetNtoa addr).length ≤ 15 := by
  have octet (shift : UInt32) : (decimal ((addr >>> shift) &&& 0xff).toNat).length ≤ 3 := by
    refine length_decimal (by decide) ?_
    have : ((addr >>> shift) &&& 0xff).toNat ≤ 255 := by
      rw [UInt32.toNat_and]
      exact Nat.and_le_right
    omega
  have := octet 0
  have := octet 8
  have := octet 16
  have := octet 24
  simp only [inetNtoa, List.length_append, List.length_singleton]
  omega

theorem length_extCmnStringFind {table : List (UInt16 × Bytes)} (type : UInt16)
    (short : ∀ entry ∈ table, entry.2.length ≤ 14) : (extCmnStringFind table type).length ≤ 14 := by
  unfold extCmnStringFind
  cases found : table.lookup type with
  | none => decide
  | some name =>
      obtain ⟨before, behind, table_eq, -⟩ := List.lookup_eq_some_iff.mp found
      exact short (type, name) (by rw [table_eq]; simp)

theorem length_decimal2 (n : UInt8) : (decimal2 n).length ≤ 4 := by
  have zero : (str "0").length = 1 := by decide
  have := length_decimal (n := n.toNat) (e := 3) (by decide) (n.toNat_lt.trans (by decide))
  unfold decimal2
  split
  · rw [List.length_append, zero]
    omega
  · omega

theorem length_jsonKey (key : Bytes) : (jsonKey key).length = key.length + 3 := by
  have quote : (str "\"").length = 1 ∧ (str "\":").length = 2 := by decide
  simp only [jsonKey, List.length_append, quote]
  omega

theorem length_jsonString (key value : Bytes) :
    (jsonString key value).length = key.length + value.length + 5 := by
  have quote : (str "\"").length = 1 := by decide
  simp only [jsonString, List.length_append, length_jsonKey, quote]
  omega

theorem length_jsonNumber (key : Bytes) (value : UInt32) :
    (jsonNumber key value).length ≤ key.length + 14 := by
  have := length_decimalSigned value
  simp only [jsonNumber, List.length_append, length_jsonKey]
  omega

theorem length_jsonFlag (key : Bytes) (value : UInt8) :
    (jsonFlag key value).length ≤ key.length + 14 :=
  length_jsonNumber key _

theorem length_comma (text : Bytes) : (comma text).length = text.length + 1 := by
  simp only [comma, List.length_append]
  rfl

/-- Texts that are no longer than the numbers of a list together are no longer than their sum. -/
theorem length_flatten_le {texts : List Bytes} {bounds : List Nat}
    (each : List.Forall₂ (fun text bound => text.length ≤ bound) texts bounds) :
    texts.flatten.length ≤ bounds.sum := by
  induction each with
  | nil => simp
  | cons first rest ih =>
      rw [List.flatten_cons, List.length_append, List.sum_cons]
      exact Nat.add_le_add first ih

section Members

variable {n : Nat} (key : Bytes)

theorem string_le {value : Bytes} {k : Nat} (short : value.length ≤ k)
    (le : key.length + k + 6 ≤ n) : (comma (jsonString key value)).length ≤ n := by
  rw [length_comma, length_jsonString]
  omega

theorem lastNumber_le (value : UInt32) (le : key.length + 14 ≤ n) :
    (jsonNumber key value).length ≤ n :=
  (length_jsonNumber key value).trans le

theorem number_le (value : UInt32) (le : key.length + 15 ≤ n) :
    (comma (jsonNumber key value)).length ≤ n := by
  rw [length_comma]
  exact (Nat.succ_le_succ (length_jsonNumber key value)).trans le

theorem flag_le (value : UInt8) (le : key.length + 15 ≤ n) :
    (comma (jsonFlag key value)).length ≤ n :=
  number_le key _ le

end Members

/-! ### The media data -/

theorem length_mediaCfg (cfg : RuntimeCfg) :
    (extUdpCmdPrintMediaCfg cfg).flatten.length ≤ 387 := by
  have color := @length_extCmnStringFind videoColorSpaces cfg.runtime.vColorSpace.toUInt16
    (by decide)
  refine @length_flatten_le _ [22, 28, 22, 22, 22, 21, 20, 19, 21, 23, 25, 24, 31, 21, 21, 22, 23] ?_
  refine .cons (flag_le _ _ (by decide)) <| .cons (string_le _ (length_inetNtoa _) (by decide)) <|
    .cons (number_le _ _ (by decide)) <| .cons (number_le _ _ (by decide)) <|
    .cons (number_le _ _ (by decide)) <| .cons (lastNumber_le _ _ (by decide)) <|
    .cons ?_ <| .cons (number_le _ _ (by decide)) <| .cons (number_le _ _ (by decide)) <|
    .cons (number_le _ _ (by decide)) <| .cons (flag_le _ _ (by decide)) <|
    .cons (flag_le _ _ (by decide)) <| .cons (string_le _ color (by decide)) <|
    .cons (number_le _ _ (by decide)) <| .cons (number_le _ _ (by decide)) <|
    .cons (number_le _ _ (by decide)) <| .cons (lastNumber_le _ _ (by decide)) .nil
  have behind : (str ",").length = 1 := by decide
  have width := number_le (n := 19) (str "vidW") cfg.runtime.vWidth.toUInt32 (by decide)
  rw [List.length_append, behind]
  omega

/-- The header of the media data. -/
def mediaHeader (cfg : RuntimeCfg) : List Bytes :=
  [str "\x7b" ++ jsonKey (str "targ"), macAddressPrint cfg.dest.mac,
    comma (jsonString (str "cmd") (str "set_param")),
    comma (jsonKey (str "login-ack") ++ cstr cfg.user),
    jsonString (str "pwd-msg") (cstr cfg.password)]

/-- What is printed behind a header. -/
def dataBody (texts : List Bytes) : List Bytes :=
  (str "," ++ jsonKey (str "data") ++ str "[\x7b") :: texts ++ [str "\x7d]"]

theorem length_dataBody (texts : List Bytes) :
    (dataBody texts).flatten.length = texts.flatten.length + 12 := by
  have start : (str "," ++ jsonKey (str "data") ++ str "[\x7b").length = 10 := by decide
  have stop : (str "\x7d]").length = 2 := by decide
  simp only [dataBody, List.cons_append, List.flatten_cons, List.flatten_append, List.flatten_nil,
    List.length_append, List.length_nil, start, stop]
  omega

theorem length_mediaHeader {cfg : RuntimeCfg} (stored : Stored cfg) :
    (mediaHeader cfg).flatten.length ≤ 102 := by
  have user := (length_cstr_le cfg.user).trans_lt stored.user
  have password := (length_cstr_le cfg.password).trans_lt stored.password
  simp only [extUserSize] at user password
  refine @length_flatten_le _ [8, 20, 19, 28, 27] ?_
  refine .cons (by decide) <| .cons (length_macAddressPrint _).le <| .cons (by decide) <|
    .cons ?_ <| .cons ?_ .nil
  · rw [length_comma, List.length_append, length_jsonKey]
    have : (str "login-ack").length = 9 := by decide
    omega
  · rw [length_jsonString]
    have : (str "pwd-msg").length = 7 := by decide
    omega

/-- The frame of the media data depends on the configuration only. -/
theorem frameOf_media {parser : ExtJsonParser} (stored : Stored parser.runCfg) :
    frameOf (extUdpCmdResponseTailCalculate (mediaDataText parser)) = frameBytes cmdTagResponse
      ((mediaHeader parser.runCfg).flatten ++
        (dataBody (extUdpCmdPrintMediaCfg parser.runCfg)).flatten ++ str "\x7d") := by
  have header := length_mediaHeader stored
  have body := length_dataBody (extUdpCmdPrintMediaCfg parser.runCfg)
  have media := length_mediaCfg parser.runCfg
  have room : frameRoom = 1020 := rfl
  have printed := @printed_header { parser with
      toRequest := parser.withStatus .ok
      setupData := { parser.setupData with scID := scIdText } } (mediaHeader parser.runCfg) _ _
    (by omega) rfl
  have printed := printed.body (dataBody (extUdpCmdPrintMediaCfg parser.runCfg))
    (by rw [List.length_append]; omega)
  refine printed.frame ?_
  rw [List.length_append]
  omega

/-! ### The reply with the configuration -/

/-- The members of the data object of the reply. -/
def configTexts (cfg : RuntimeCfg) (netIp : UInt32) : List Bytes :=
  [comma (jsonString (str "pName") ext767ProductName),
      comma (jsonString (str "model")
        (ext767Model ++ str "-" ++ if extIsTx cfg then str "TX" else str "RX")),
      comma (jsonString (str "fwVer") (decimal2 cfg.version.major ++ str "." ++
        decimal2 cfg.version.minor ++ str "." ++ decimal2 cfg.version.revision)),
      comma (jsonString (str "cName") (cstr cfg.name)),
      jsonKey (str "mac"), macAddressPrint cfg.localCfg.mac,
      comma (jsonString (str "ip") (inetNtoa netIp)),
      comma (jsonString (str "mask") (inetNtoa cfg.ipMask)),
      comma (jsonString (str "gateway") (inetNtoa cfg.ipGateway)),
      comma (jsonNumber (str "isDhcp") (if extDhcpIsEnable cfg then 1 else 0)),
      comma (jsonFlag (str "isDipOn") cfg.isDipOn),
      comma (jsonNumber (str "RS232Baudrate") cfg.rs232Cfg.baudRate),
      comma (jsonNumber (str "RS232Databits") cfg.rs232Cfg.charLength.toUInt32),
      comma (jsonString (str "RS232Parity")
        (extCmnStringFind ipcmdStringRsParities cfg.rs232Cfg.parityType.toUInt16)),
      comma (jsonNumber (str "RS232Stopbits") cfg.rs232Cfg.stopbits.toUInt32)] ++
    extUdpCmdPrintMediaCfg cfg

theorem length_configTexts {cfg : RuntimeCfg} (stored : Stored cfg) (netIp : UInt32) :
    (configTexts cfg netIp).flatten.length ≤ 758 := by
  have name := Nat.le_of_lt_succ ((length_cstr_le cfg.name).trans_lt stored.name)
  have parity := @length_extCmnStringFind ipcmdStringRsParities cfg.rs232Cfg.parityType.toUInt16
    (by decide)
  have version : (decimal2 cfg.version.major ++ str "." ++ decimal2 cfg.version.minor ++ str "." ++
      decimal2 cfg.version.revision).length ≤ 14 := by
    have dot : (str ".").length = 1 := by decide
    have major := length_decimal2 cfg.version.major
    have minor := length_decimal2 cfg.version.minor
    have revision := length_decimal2 cfg.version.revision
    simp only [List.length_append, dot]
    omega
  have model : (comma (jsonString (str "model")
      (ext767Model ++ str "-" ++ if extIsTx cfg then str "TX" else str "RX"))).length = 20 := by
    cases extIsTx cfg <;> decide
  have dhcp : (comma (jsonNumber (str "isDhcp") (if extDhcpIsEnable cfg then 1 else 0))).length ≤
      21 := number_le _ _ (by decide)
  rw [configTexts, List.flatten_append, List.length_append]
  refine (Nat.add_le_add ?_ (length_mediaCfg cfg)).trans (show 371 + 387 ≤ 758 by decide)
  refine @length_flatten_le _ [24, 20, 25, 42, 6, 20, 23, 25, 28, 21, 22, 28, 28, 31, 28] ?_
  refine .cons (by decide) <| .cons model.le <| .cons (string_le _ version (by decide)) <|
    .cons (string_le _ name (by decide)) <| .cons (by decide) <|
    .cons (length_macAddressPrint _).le <| .cons (string_le _ (length_inetNtoa _) (by decide)) <|
    .cons (string_le _ (length_inetNtoa _) (by decide)) <|
    .cons (string_le _ (length_inetNtoa _) (by decide)) <| .cons dhcp <|
    .cons (flag_le _ _ (by decide)) <| .cons (number_le _ _ (by decide)) <|
    .cons (number_le _ _ (by decide)) <| .cons (string_le _ parity (by decide)) <|
    .cons (number_le _ _ (by decide)) .nil

/-- A request whose answer is no longer than its array. -/
def Answerable (rq : Request) : Prop :=
  rq.cmd.length < cmdSize ∧ (rq.parseIsOk = true ∨ rq.report.msg.length < extJsonMessageSize)

theorem length_answer {rq : Request} (answerable : Answerable rq) (mac : Mac) :
    (responseHeader mac rq).flatten.length ≤ 161 := by
  obtain ⟨cmd, ok | msg⟩ := answerable
  · -- the message is not printed
    have same : responseHeader mac rq =
        responseHeader mac { rq with report := { rq.report with msg := [] } } := by
      have ok' : Request.parseIsOk { rq with report := { rq.report with msg := [] } } = true := ok
      unfold responseHeader
      rw [ok, ok']
      rfl
    rw [same]
    exact @length_responseHeader { rq with report := { rq.report with msg := [] } }
      ⟨cmd, show ([] : Bytes).length < extJsonMessageSize by decide⟩ mac
  · exact length_responseHeader ⟨cmd, msg⟩ mac

/-- The frame of a reply without data depends on the request and the address of the device. -/
theorem frameOf_answer {parser : ExtJsonParser} (answerable : Answerable parser.toRequest) :
    frameOf (extUdpCmdResponseReply parser) = frameBytes cmdTagResponse
      ((responseHeader parser.runCfg.localCfg.mac parser.toRequest).flatten ++ str "\x7d") := by
  have header := length_answer answerable parser.runCfg.localCfg.mac
  have room : frameRoom = 1020 := rfl
  have printed := @printed_header parser
    (responseHeader parser.runCfg.localCfg.mac parser.toRequest) _ _ (by omega) rfl
  exact printed.frame (by omega)

/-- The frame of a reply with data of up to 800 bytes. -/
theorem frameOf_data {parser : ExtJsonParser} (answerable : Answerable parser.toRequest)
    {texts : List Bytes} (short : texts.flatten.length ≤ 800) :
    frameOf (extUdpCmdResponseTailCalculate
        (printBody (extUdpCmdResponseHeaderPrint parser) (dataBody texts))) =
      frameBytes cmdTagResponse
        ((responseHeader parser.runCfg.localCfg.mac parser.toRequest).flatten ++
          (dataBody texts).flatten ++ str "\x7d") := by
  have header := length_answer answerable parser.runCfg.localCfg.mac
  have body := length_dataBody texts
  have room : frameRoom = 1020 := rfl
  have printed := @printed_header parser
    (responseHeader parser.runCfg.localCfg.mac parser.toRequest) _ _ (by omega) rfl
  refine (printed.body (dataBody texts) ?_).frame ?_
  · rw [List.length_append]
    omega
  · rw [List.length_append]
    omega

/-- The frame of the reply with the configuration. -/
theorem frameOf_config {parser : ExtJsonParser} (answerable : Answerable parser.toRequest)
    (stored : Stored parser.runCfg) :
    frameOf (extJsonResponsePrintConfig parser) = frameBytes cmdTagResponse
      ((responseHeader parser.runCfg.localCfg.mac parser.toRequest).flatten ++
        (dataBody (configTexts parser.runCfg parser.netIp)).flatten ++ str "\x7d") := by
  exact frameOf_data answerable ((length_configTexts stored parser.netIp).trans (by decide))

end LwipExt.UdpCmd
