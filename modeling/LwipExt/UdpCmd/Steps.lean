import LwipExt.UdpCmd.Request
import Mathlib.Control.Monad.Basic

/-!
`extJsonRequestParse` as a list of steps, one for each key.

A step looks up its own key and no other. So two requests in which the lookups of the keys
that are reached agree are parsed alike (`extJsonRequestParse_congr`).
-/

namespace LwipExt.UdpCmd

/-! ### What a lookup reads -/

/-- A key reads the same in two tokenized texts. -/
structure SameReading (key : Bytes) (j j' : Json) : Prop where
  found : extJsonFindKeyToken j key = extJsonFindKeyToken j' key
  text : ∀ tok, extJsonFindKeyToken j key = some tok → j.tokenText tok = j'.tokenText tok
  number : ∀ tok, extJsonFindKeyToken j key = some tok → tok.type = .primitive →
    scanUnsigned (cstr (j.text.drop tok.start)) = scanUnsigned (cstr (j'.text.drop tok.start))

section Accessors

variable {key : Bytes} {j j' : Json}

theorem extJsonGetValueObject_found {type : JsmnType} {kind : Bytes} {r r' : Report}
    {tok : Jsmntok} (object : extJsonGetValueObject type kind j key r = (r', some tok)) :
    extJsonFindKeyToken j key = some tok ∧ tok.type = type := by
  unfold extJsonGetValueObject at object
  split at object
  · cases object
  · rename_i found
    split at object
    · cases object
    · rename_i isType
      cases object
      exact ⟨found, not_not.mp isType⟩

variable (same : SameReading key j j')

include same

theorem SameReading.object (type : JsmnType) (kind : Bytes) (r : Report) :
    extJsonGetValueObject type kind j key r = extJsonGetValueObject type kind j' key r := by
  unfold extJsonGetValueObject
  rw [same.found]

theorem SameReading.integer (r : Report) :
    extJsonParseUnsignedInteger j key r = extJsonParseUnsignedInteger j' key r := by
  unfold extJsonParseUnsignedInteger extJsonGetPrimitiveValueObject
  rw [← same.object]
  rcases object : extJsonGetValueObject .primitive (str "integer") j key r with ⟨r', _ | tok⟩
  · rfl
  · obtain ⟨found, isPrimitive⟩ := extJsonGetValueObject_found object
    simp only [Option.bind_some, same.number tok found isPrimitive]

theorem SameReading.short (r : Report) :
    extJsonParseUnsignedShort j key r = extJsonParseUnsignedShort j' key r := by
  unfold extJsonParseUnsignedShort
  rw [same.integer]

theorem SameReading.char (r : Report) :
    extJsonParseUnsignedChar j key r = extJsonParseUnsignedChar j' key r := by
  unfold extJsonParseUnsignedChar
  rw [same.integer]

theorem SameReading.string (size : Nat) (r : Report) :
    extJsonParseString j key size r = extJsonParseString j' key size r := by
  unfold extJsonParseString
  rw [← same.object]
  rcases object : extJsonGetValueObject .string (str "string") j key r with ⟨r', _ | tok⟩
  · rfl
  · obtain ⟨found, -⟩ := extJsonGetValueObject_found object
    simp only [Option.map_some, same.text tok found]

theorem SameReading.msg (r : Report) :
    extJsonParseMsg j key r = extJsonParseMsg j' key r := by
  unfold extJsonParseMsg
  rw [same.string]

theorem SameReading.ipAddress (r : Report) :
    extJsonParseIpAddress j key r = extJsonParseIpAddress j' key r := by
  unfold extJsonParseIpAddress
  rw [same.msg]

theorem SameReading.array (r : Report) :
    extJsonGetArrayObject j key r = extJsonGetArrayObject j' key r :=
  same.object _ _ r

theorem SameReading.macAddress (mac : Mac) (r : Report) :
    extJsonParseMacAddress j key mac r = extJsonParseMacAddress j' key mac r := by
  unfold extJsonParseMacAddress
  rw [same.msg]

end Accessors

/-! ### The steps -/

/-- A parameter: its key and what is done with it. -/
structure ParamStep where
  key : Bytes
  run : Json → Parsed → Except Parsed Parsed

/-- A string parameter. -/
def ParamStep.string (key : Bytes) (size : Nat) (store : RuntimeCfg → Bytes → RuntimeCfg) :
    ParamStep :=
  ⟨key, fun j p => .ok (p.string j key size store)⟩

/-- The address of the interface. -/
def ParamStep.mac (key : Bytes) : ParamStep :=
  ⟨key, fun j p =>
    .ok ⟨(extJsonParseMacAddress j key p.tmpCfg.localCfg.mac p.report).1,
      { p.tmpCfg with localCfg := { p.tmpCfg.localCfg with
        mac := (extJsonParseMacAddress j key p.tmpCfg.localCfg.mac p.report).2.1 } }⟩⟩

/-- An address parameter. -/
def ParamStep.ipAddress (key : Bytes) (store : RuntimeCfg → UInt32 → RuntimeCfg) : ParamStep :=
  ⟨key, fun j p => .ok (p.ipAddress j key store)⟩

/-- A flag. -/
def ParamStep.flag (key : Bytes) (store : RuntimeCfg → UInt8 → RuntimeCfg) : ParamStep :=
  ⟨key, fun j p => .ok (p.flag j key store)⟩

/-- A 32-bit number that is one of a few. -/
def ParamStep.integerOf (key : Bytes) (store : RuntimeCfg → UInt32 → RuntimeCfg)
    (value : RuntimeCfg → UInt32) (admitted : List UInt32) : ParamStep :=
  ⟨key, fun j p => (p.integer j key store).oneOf key value admitted⟩

/-- A 16-bit number. -/
def ParamStep.short (key : Bytes) (store : RuntimeCfg → UInt16 → RuntimeCfg) : ParamStep :=
  ⟨key, fun j p => .ok (p.short j key store)⟩

/-- A 16-bit number that is one of a few. -/
def ParamStep.shortOf (key : Bytes) (store : RuntimeCfg → UInt16 → RuntimeCfg)
    (value : RuntimeCfg → UInt32) (admitted : List UInt32) : ParamStep :=
  ⟨key, fun j p => (p.short j key store).oneOf key value admitted⟩

/-- An 8-bit number. -/
def ParamStep.char (key : Bytes) (store : RuntimeCfg → UInt8 → RuntimeCfg) : ParamStep :=
  ⟨key, fun j p => .ok (p.char j key store)⟩

/-- An 8-bit number that is one of a few. -/
def ParamStep.charOf (key : Bytes) (store : RuntimeCfg → UInt8 → RuntimeCfg)
    (value : RuntimeCfg → UInt32) (admitted : List UInt32) : ParamStep :=
  ⟨key, fun j p => (p.char j key store).oneOf key value admitted⟩

/-- A parameter given by its name. -/
def ParamStep.named (key : Bytes) (table : List (UInt16 × Bytes))
    (store : RuntimeCfg → UInt8 → RuntimeCfg) : ParamStep :=
  ⟨key, fun j p => p.named j key table store⟩

/-- The address of the media must be a multicast address if multicast is asked for. -/
def ParamStep.mcastIp (key : Bytes) : ParamStep :=
  ⟨key, fun j p =>
    let p := p.ipAddress j key fun cfg v => { cfg with dest := { cfg.dest with ip := v } }
    if p.tmpCfg.isMCast > 1 ∧ ¬ ipAddrIsMulticast p.tmpCfg.dest.ip ∧ p.tmpCfg.dest.ip ≠ 0 then
      .error (p.refuse (str "ERROR: '" ++ quoted (inetNtoa p.tmpCfg.dest.ip) ++ str " of " ++
        quoted key ++ str " object is not multicast address"))
    else .ok p⟩

/-- The steps of `Parsed.system`. -/
def systemSteps : List ParamStep :=
  [.string (str "cName") cfgNameSize fun cfg v => { cfg with name := v },
    .mac (str "mac"),
    .ipAddress (str "ip") fun cfg v => { cfg with localCfg := { cfg.localCfg with ip := v } },
    .ipAddress (str "mask") fun cfg v => { cfg with ipMask := v },
    .ipAddress (str "gateway") fun cfg v => { cfg with ipGateway := v },
    .flag (str "isDhcp") fun cfg v => { cfg with netMode := v },
    .flag (str "isDipOn") fun cfg v => { cfg with isDipOn := v }]

/-- The steps of `Parsed.rs232`. -/
def rs232Steps : List ParamStep :=
  [.integerOf (str "RS232Baudrate")
      (fun cfg v => { cfg with rs232Cfg := { cfg.rs232Cfg with baudRate := v } })
      (·.rs232Cfg.baudRate) [9600, 19200, 38400, 57600, 115200],
    .charOf (str "RS232Databits")
      (fun cfg v => { cfg with rs232Cfg := { cfg.rs232Cfg with charLength := v } })
      (·.rs232Cfg.charLength.toUInt32) [5, 6, 7, 8],
    .charOf (str "RS232Stopbits")
      (fun cfg v => { cfg with rs232Cfg := { cfg.rs232Cfg with stopbits := v } })
      (·.rs232Cfg.stopbits.toUInt32) [1, 2],
    .named (str "RS232Parity") ipcmdStringRsParities
      fun cfg v => { cfg with rs232Cfg := { cfg.rs232Cfg with parityType := v } }]

/-- The steps of `Parsed.protocol`. -/
def protocolSteps : List ParamStep :=
  [.flag (str "isMCAST") fun cfg v => { cfg with isMCast := v },
    .mcastIp (str "MCASTip"),
    .short (str "vidPort") fun cfg v => { cfg with dest := { cfg.dest with vport := v } },
    .short (str "audPort") fun cfg v => { cfg with dest := { cfg.dest with aport := v } },
    .short (str "datPort") fun cfg v => { cfg with dest := { cfg.dest with dport := v } },
    .short (str "strPort") fun cfg v => { cfg with dest := { cfg.dest with sport := v } }]

/-- The steps of `Parsed.media`. -/
def mediaSteps : List ParamStep :=
  [.short (str "vidW") (onRuntime fun rt v => { rt with vWidth := v }),
    .short (str "vidH") (onRuntime fun rt v => { rt with vHeight := v }),
    .char (str "vidFps") (onRuntime fun rt v => { rt with vFrameRate := v }),
    .char (str "vidDepth") (onRuntime fun rt v => { rt with vDepth := v }),
    .flag (str "vidIsIntlc") (onRuntime fun rt v => { rt with vIsInterlaced := v }),
    .flag (str "vidIsSgmt") (onRuntime fun rt v => { rt with vIsSegmented := v }),
    .named (str "vidClrSpace") videoColorSpaces (onRuntime fun rt v => { rt with vColorSpace := v }),
    .shortOf (str "audFrq") (onRuntime fun rt v => { rt with aSampleRate := v })
      (·.runtime.aSampleRate.toUInt32) [44100, 48000],
    .charOf (str "audBit") (onRuntime fun rt v => { rt with aDepth := v })
      (·.runtime.aDepth.toUInt32) [16, 24],
    .charOf (str "audChan") (onRuntime fun rt v => { rt with aChannels := v })
      (·.runtime.aChannels.toUInt32) [1, 2],
    .flag (str "IsConnect") (onRuntime fun rt v => { rt with isConnect := v })]

/-- The parameters of a request, in the order they are looked up. -/
def paramSteps : List ParamStep := systemSteps ++ (rs232Steps ++ (protocolSteps ++ mediaSteps))

/-- Run steps until one refuses. -/
def runSteps (j : Json) : List ParamStep → Parsed → Except Parsed Parsed
  | [], p => .ok p
  | s :: steps, p => s.run j p >>= runSteps j steps

theorem ok_bind {α : Type} (p : Parsed) (f : Parsed → Except Parsed α) : .ok p >>= f = f p := rfl

theorem bind_ok (r : Except Parsed Parsed) : (r >>= fun p => .ok p) = r := by
  cases r <;> rfl

theorem runSteps_append (j : Json) (steps steps' : List ParamStep) (p : Parsed) :
    runSteps j (steps ++ steps') p = runSteps j steps p >>= runSteps j steps' := by
  induction steps generalizing p with
  | nil => rfl
  | cons s steps ih =>
      simp only [List.cons_append, runSteps, bind_assoc]
      exact bind_congr ih

theorem runSteps_system (j : Json) (p : Parsed) :
    runSteps j systemSteps p = .ok (Parsed.system j p) := rfl

theorem runSteps_rs232 (j : Json) (p : Parsed) :
    runSteps j rs232Steps p = Parsed.rs232 j p := by
  simp only [rs232Steps, runSteps, ParamStep.integerOf, ParamStep.charOf, ParamStep.named,
    bind_ok]
  rfl

theorem runSteps_protocol (j : Json) (p : Parsed) :
    runSteps j protocolSteps p = Parsed.protocol j p := by
  simp only [protocolSteps, runSteps, ParamStep.flag, ParamStep.mcastIp, ParamStep.short,
    ok_bind]
  unfold Parsed.protocol
  simp only
  split
  · rfl
  · rfl

theorem runSteps_media (j : Json) (p : Parsed) :
    runSteps j mediaSteps p = Parsed.media j p := by
  simp only [mediaSteps, runSteps, ParamStep.flag, ParamStep.short, ParamStep.char,
    ParamStep.named, ParamStep.shortOf, ParamStep.charOf, ok_bind]
  rfl

/-- The parse is the steps one after the other. -/
theorem extJsonRequestParse_eq (j : Json) (r : Report) :
    extJsonRequestParse j r = runSteps j paramSteps ⟨r, {}⟩ := by
  unfold extJsonRequestParse paramSteps
  rw [runSteps_append, runSteps_system, ok_bind, runSteps_append, runSteps_rs232]
  refine bind_congr fun p => ?_
  rw [runSteps_append, runSteps_protocol]
  exact bind_congr fun p => (runSteps_media j p).symm

/-! ### What the steps read -/

/-- A step looks up its own key only. -/
def ParamStep.ReadsKey (s : ParamStep) : Prop :=
  ∀ j j' : Json, SameReading s.key j j' → s.run j = s.run j'

section ReadsKey

variable {key : Bytes} {j j' : Json} (same : SameReading key j j')

include same

theorem SameReading.parsedString (p : Parsed) (size : Nat)
    (store : RuntimeCfg → Bytes → RuntimeCfg) :
    p.string j key size store = p.string j' key size store := by
  unfold Parsed.string
  rw [same.string]

theorem SameReading.parsedIpAddress (p : Parsed) (store : RuntimeCfg → UInt32 → RuntimeCfg) :
    p.ipAddress j key store = p.ipAddress j' key store := by
  unfold Parsed.ipAddress
  rw [same.ipAddress]

theorem SameReading.parsedInteger (p : Parsed) (store : RuntimeCfg → UInt32 → RuntimeCfg) :
    p.integer j key store = p.integer j' key store := by
  unfold Parsed.integer
  rw [same.integer]

theorem SameReading.parsedShort (p : Parsed) (store : RuntimeCfg → UInt16 → RuntimeCfg) :
    p.short j key store = p.short j' key store := by
  unfold Parsed.short
  rw [same.short]

theorem SameReading.parsedChar (p : Parsed) (store : RuntimeCfg → UInt8 → RuntimeCfg) :
    p.char j key store = p.char j' key store := by
  unfold Parsed.char
  rw [same.char]

theorem SameReading.parsedNamed (p : Parsed) (table : List (UInt16 × Bytes))
    (store : RuntimeCfg → UInt8 → RuntimeCfg) :
    p.named j key table store = p.named j' key table store := by
  unfold Parsed.named
  rw [same.string]

end ReadsKey

theorem paramSteps_readKey : ∀ s ∈ paramSteps, s.ReadsKey := by
  have string (key size store) : (ParamStep.string key size store).ReadsKey := by
    intro j j' (same : SameReading key j j')
    funext p
    exact congrArg _ (same.parsedString p size store)
  have mac (key) : (ParamStep.mac key).ReadsKey := by
    intro j j' (same : SameReading key j j')
    funext p
    simp only [ParamStep.mac, same.macAddress]
  have ipAddress (key store) : (ParamStep.ipAddress key store).ReadsKey := by
    intro j j' (same : SameReading key j j')
    funext p
    exact congrArg _ (same.parsedIpAddress p store)
  have flag (key store) : (ParamStep.flag key store).ReadsKey := by
    intro j j' (same : SameReading key j j')
    funext p
    exact congrArg _ (same.parsedInteger p _)
  have integerOf (key store value admitted) :
      (ParamStep.integerOf key store value admitted).ReadsKey := by
    intro j j' (same : SameReading key j j')
    funext p
    simp only [ParamStep.integerOf, same.parsedInteger]
  have short (key store) : (ParamStep.short key store).ReadsKey := by
    intro j j' (same : SameReading key j j')
    funext p
    exact congrArg _ (same.parsedShort p store)
  have shortOf (key store value admitted) :
      (ParamStep.shortOf key store value admitted).ReadsKey := by
    intro j j' (same : SameReading key j j')
    funext p
    simp only [ParamStep.shortOf, same.parsedShort]
  have char (key store) : (ParamStep.char key store).ReadsKey := by
    intro j j' (same : SameReading key j j')
    funext p
    exact congrArg _ (same.parsedChar p store)
  have charOf (key store value admitted) :
      (ParamStep.charOf key store value admitted).ReadsKey := by
    intro j j' (same : SameReading key j j')
    funext p
    simp only [ParamStep.charOf, same.parsedChar]
  have named (key table store) : (ParamStep.named key table store).ReadsKey := by
    intro j j' (same : SameReading key j j')
    funext p
    exact same.parsedNamed p table store
  have mcastIp (key) : (ParamStep.mcastIp key).ReadsKey := by
    intro j j' (same : SameReading key j j')
    funext p
    simp only [ParamStep.mcastIp, same.parsedIpAddress]
  simp only [paramSteps, systemSteps, rs232Steps, protocolSteps, mediaSteps, List.cons_append,
    List.nil_append, List.forall_mem_cons, string, mac, ipAddress, flag, integerOf, short, shortOf,
    char, charOf, named, mcastIp, true_and]
  simp

/-- The keys that are looked up until a step refuses. -/
def keysReached (j : Json) : List ParamStep → Parsed → List Bytes
  | [], _ => []
  | s :: steps, p =>
      s.key ::
        match s.run j p with
        | .ok p => keysReached j steps p
        | .error _ => []

theorem runSteps_congr {j j' : Json} {steps : List ParamStep} (read : ∀ s ∈ steps, s.ReadsKey)
    {p : Parsed} (same : ∀ key ∈ keysReached j steps p, SameReading key j j') :
    runSteps j steps p = runSteps j' steps p := by
  induction steps generalizing p with
  | nil => rfl
  | cons s steps ih =>
      have first := read s List.mem_cons_self j j' (same s.key List.mem_cons_self)
      rw [runSteps, runSteps, ← first]
      rw [keysReached] at same
      cases step : s.run j p with
      | error p' => rfl
      | ok p' =>
          rw [step] at same
          exact ih (fun s mem => read s (List.mem_cons_of_mem _ mem))
            fun key mem => same key (List.mem_cons_of_mem _ mem)

/-- Two texts in which the keys that are reached read the same are parsed alike. -/
theorem extJsonRequestParse_congr {j j' : Json} {r : Report}
    (same : ∀ key ∈ keysReached j paramSteps ⟨r, {}⟩, SameReading key j j') :
    extJsonRequestParse j r = extJsonRequestParse j' r := by
  rw [extJsonRequestParse_eq, extJsonRequestParse_eq, runSteps_congr paramSteps_readKey same]

end LwipExt.UdpCmd
