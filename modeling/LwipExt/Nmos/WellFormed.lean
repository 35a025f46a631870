import LwipExt.Cmn.Decimal
import LwipExt.Http.RestResponse
import LwipExt.Nmos.BodyBounds

/-!
Which answers of the NMOS APIs are well-formed JSON (`nnmos/extNmosNode.c`, `nnmos/extNmosConn.c`
and `extHttpRestError`).

The strings of the configuration and the URI of the request are printed as they are, without
escapes. `wellFormed_of_clean` says that an answer that fits is well-formed, and a list has one
element with the UUID of each resource, when the strings that it shows need no escapes.
-/

namespace LwipExt.Nmos

open Http Lib Lib.Json

/-! ### The body -/

section Body

theorem holds_of_before {data text before : Bytes} {offset offset' : Nat}
    {ws : List (Write UInt8)} (consecutive : Printing.Consecutive offset text ws)
    (holds : Holds data offset' before)
    (le : offset' + before.length ≤ offset) :
    Holds (ws.foldl (fun data w => bufWrite data w.offset (w.text ++ [0])) data) offset'
      before := by
  induction consecutive generalizing data with
  | nil => exact holds
  | cons _ ih => exact ih (holds.kept (.inl le)) (Nat.le_add_right_of_le le)

/-- What is stored piece behind piece stands there as a whole. -/
theorem holds_of_consecutive (data : Bytes) {text : Bytes} {offset : Nat} {ws : List (Write UInt8)}
    (consecutive : Printing.Consecutive offset text ws) :
    Holds (ws.foldl (fun data w => bufWrite data w.offset (w.text ++ [0])) data) offset text := by
  induction consecutive generalizing data with
  | nil => exact Holds.nil _ _
  | @cons offset text rest ws behind ih =>
      have here := Holds.written data offset text [0]
      exact (holds_of_before behind here le_rfl).append (ih _)

/-- The body that is sent. -/
def NmosReply.content (mhc : ExtHttpConn) (reply : NmosReply) : Bytes :=
  bufRead (reply.apply mhc).data 0 (reply.apply mhc).contentLength

/-- An answer that fits is sent as it is. -/
theorem content_eq (mhc : ExtHttpConn) {reply : NmosReply} (fits : reply.length < maxReqLength) :
    reply.content mhc = reply.printing.text := by
  have small : reply.printing.text.length < 65536 := Nat.lt_trans fits (by decide)
  unfold NmosReply.content
  rw [contentLength_apply, u16_of_lt small]
  refine Holds.read ?_
  cases reply with
  | body printing =>
      exact holds_of_consecutive mhc.data (Printing.consecutive_of_lt printing 0 fits)
  | restError code debug =>
      have whole : snprintf maxReqLength (restErrorBody code debug) = restErrorBody code debug := by
        rw [← text_restErrorPrinting]
        exact List.take_of_length_le (Nat.le_pred_of_lt fits)
      have sent : ((NmosReply.restError code debug).apply mhc).data =
          bufWrite mhc.data 0 (restErrorBody code debug ++ [0]) :=
        congrArg (fun text => bufWrite mhc.data 0 (text ++ [0])) whole
      rw [sent]
      unfold NmosReply.printing
      rw [text_restErrorPrinting]
      exact Holds.written _ _ _ _

end Body

/-! ### Values -/

section Plain

theorem value_decimal (n : Nat) : Value (decimal n) := by
  have digits : Digits (decimal n) := ⟨decimal_ne_nil n, fun b mem => decimal_digit mem⟩
  have zero : decimal n = [48] ∨ (decimal n).head? ≠ some 48 := by
    by_cases none_ : n = 0
    · rw [none_]
      exact .inl rfl
    · exact .inr (head_decimal (Nat.pos_of_ne_zero none_))
  have number := Number.mk (.inl rfl) ⟨digits, zero⟩ (.inl rfl) (.inl rfl)
  rw [List.nil_append, List.append_nil, List.append_nil] at number
  exact .number number

theorem plain_decimal (n : Nat) : Plain (decimal n) := by
  have all : ∀ i < 58, 48 ≤ i → 32 ≤ UInt8.ofNat i ∧ UInt8.ofNat i < 0x80 ∧ UInt8.ofNat i ≠ 34 ∧
      UInt8.ofNat i ≠ 92 := by decide
  intro b mem
  obtain ⟨low, high⟩ := decimal_digit mem
  have here := all b.toNat (Nat.lt_succ_of_le (UInt8.le_iff_toNat_le.mp high))
    (UInt8.le_iff_toNat_le.mp low)
  rwa [UInt8.ofNat_toNat] at here

theorem plain_inetNtoa (ip : UInt32) : Plain (inetNtoa ip) := by
  have dot : Plain [46] := by decide
  exact (((((plain_decimal _).append dot).append (plain_decimal _)).append dot).append
    (plain_decimal _)).append dot |>.append (plain_decimal _)

theorem plain_hexByte (b : UInt8) : Plain (hexByte 97 b) := by
  have all : ∀ i < 256, Plain (hexByte 97 (UInt8.ofNat i)) := by decide +kernel
  have here := all b.toNat b.toNat_lt
  rwa [UInt8.ofNat_toNat] at here

theorem plain_snprintf {text : Bytes} (plain : Plain text) (size : Nat) :
    Plain (snprintf size text) := fun b mem => plain b (List.mem_of_mem_take mem)

theorem plain_extUuidToString (uuid : Uuid) : Plain (extUuidToString uuid) := by
  have dash : Plain (str "-") := by decide
  have digits (is : List (Fin 16)) : Plain (is.flatMap fun i => hexByte 97 (uuid.get i)) := by
    intro b mem
    obtain ⟨i, -, digit⟩ := List.mem_flatMap.mp mem
    exact plain_hexByte _ b digit
  unfold extUuidToString
  refine ((plain_snprintf ?_ _).append (plain_snprintf ?_ _)).append (plain_snprintf ?_ _)
  · exact (digits _).append dash
  · exact (((((digits _).append dash).append (digits _)).append dash).append (digits _)).append dash
  · exact digits _

theorem plain_statusText (code : Nat) : Plain ((statusText code).drop 4) := by
  have all : ∀ h ∈ httpHdrs, Plain (h.2.drop 4) := by decide
  unfold statusText
  cases found : httpHdrs.lookup code with
  | none => exact all (404, str "404 Not Found") (by decide)
  | some text =>
      obtain ⟨before, behind, entries, -⟩ := List.lookup_eq_some_iff.mp found
      exact all (code, text) (by rw [entries]; exact List.mem_append_right _ List.mem_cons_self)

theorem plain_serverAddress (node : ExtNmosNode) : Plain (serverAddress node) := by
  have scheme : Plain (str "http://") := by decide
  have colon : Plain (str ":") := by decide
  exact ((scheme.append (plain_inetNtoa _)).append colon).append (plain_decimal _)

theorem value_plain {s : Bytes} (plain : Plain s) : Value (quoted s) := .string plain.chars

theorem member_plain {key value : Bytes} (plain : Plain key) (isValue : Value value) :
    Member (member key value) := member_member plain.chars isValue

theorem member_number {key : Bytes} (plain : Plain key) (n : Nat) :
    Member (numberMember key n) := member_plain plain (value_decimal n)

theorem value_true : Value (str "true") := .true

theorem value_false : Value (str "false") := .false

theorem value_null : Value (str "null") := .null

/-- An array of one value. -/
theorem value_array_singleton {s : Bytes} (value : Value s) : Value (array [s]) :=
  value_array fun _ mem => List.mem_singleton.mp mem ▸ value.element

/-- An object of members in a row. -/
theorem value_object_append {ms ms' : List Bytes} (first : ∀ m ∈ ms, Member m)
    (second : ∀ m ∈ ms', Member m) : Value (object (ms ++ ms')) :=
  value_object (List.forall_mem_append.mpr ⟨first, second⟩)

end Plain

/-! ### Strings that need no escapes -/

/-- The strings of a resource need no escapes, and its tags are members. -/
def ExtNmosResource.Clean (resourceId : ExtNmosResource) : Prop :=
  Chars (cstr resourceId.label) ∧ Chars (cstr resourceId.description) ∧
    Value (object [resourceId.tags.elim [] cstr])

/-- The strings of a receiver need no escapes. -/
def ExtNmosReceiver.Clean (rcv : ExtNmosReceiver) : Prop :=
  rcv.resourceId.Clean ∧ Chars (cstr rcv.interface_binding) ∧ Chars (cstr rcv.caps)

/-- The strings of a sender need no escapes. -/
def ExtNmosSender.Clean (snd : ExtNmosSender) : Prop :=
  snd.resourceId.Clean ∧ Chars (cstr snd.interface_binding)

/-- The strings of a flow need no escapes. -/
def ExtNmosFlow.Clean (flow : ExtNmosFlow) : Prop :=
  flow.resourceId.Clean ∧ Chars (cstr flow.mediaType)

/-- The strings of a source need no escapes. -/
def ExtNmosSource.Clean (src : ExtNmosSource) : Prop :=
  src.resourceId.Clean ∧
    (src.format = .audio → ∀ audio ∈ src.audioChannels, Chars (cstr audio.label))

/-! ### Documents -/

section Documents

theorem member_resourceMembers {resourceId : ExtNmosResource} (clean : resourceId.Clean) :
    ∀ m ∈ resourceMembers resourceId, Member m := by
  obtain ⟨label, description, tags⟩ := clean
  have colon : Plain (str ":") := by decide
  unfold resourceMembers
  simp only [List.forall_mem_cons]
  refine ⟨?_, ?_, ?_, ?_, ?_, List.forall_mem_nil _⟩
  · exact member_plain (by decide) (value_plain (plain_extUuidToString _))
  · exact member_plain (by decide)
      (value_plain (((plain_decimal _).append colon).append (plain_decimal _)))
  · exact member_plain (by decide) (.string label)
  · exact member_plain (by decide) (.string description)
  · exact member_plain (by decide) tags

theorem value_idOrNull (uuid : Option Uuid) : Value (idOrNull uuid) := by
  cases uuid with
  | none => exact value_null
  | some uuid => exact value_plain (plain_extUuidToString uuid)

theorem member_subscriptionMember (subscriber : Option Uuid) (enabled : UInt8) :
    Member (subscriptionMember subscriber enabled) := by
  refine member_plain (by decide) (value_object ?_)
  simp only [List.forall_mem_cons]
  refine ⟨member_plain (by decide) (value_idOrNull subscriber), ?_, List.forall_mem_nil _⟩
  refine member_plain (by decide) ?_
  split_ifs
  · exact value_true
  · exact value_false

/-- An object with the UUID of a resource as its member `id`. -/
def CarriesId (text : Bytes) (resourceId : ExtNmosResource) : Prop :=
  ∃ members, text = object members ∧ (∀ m ∈ members, Member m) ∧
    member (str "id") (quoted (extUuidToString resourceId.nmosId.uuid)) ∈ members

theorem CarriesId.value {text : Bytes} {resourceId : ExtNmosResource}
    (carries : CarriesId text resourceId) : Value text := by
  obtain ⟨members, rfl, areMembers, -⟩ := carries
  exact value_object areMembers

/-- The members of a resource, and others behind them. -/
theorem carriesId_object {resourceId : ExtNmosResource} (clean : resourceId.Clean)
    {more : List Bytes} (members : ∀ m ∈ more, Member m) :
    CarriesId (object (resourceMembers resourceId ++ more)) resourceId :=
  ⟨_, rfl, List.forall_mem_append.mpr ⟨member_resourceMembers clean, members⟩,
    List.mem_append_left _ List.mem_cons_self⟩

theorem carriesId_receiverDocument (node : ExtNmosNode) {rcv : ExtNmosReceiver}
    (clean : rcv.Clean) : CarriesId (receiverDocument node rcv) rcv.resourceId := by
  obtain ⟨resource, binding, caps⟩ := clean
  have name : Plain rcv.transport.name := by cases rcv.transport <;> decide
  have format : Plain rcv.format.name := by cases rcv.format <;> decide
  have media : Member (member (str "media_types") (array [quoted (cstr rcv.caps)])) :=
    member_plain (by decide) (value_array_singleton (.string caps))
  refine carriesId_object resource ?_
  simp only [List.forall_mem_cons]
  refine ⟨?_, ?_, ?_, ?_, ?_, member_subscriptionMember _ _, List.forall_mem_nil _⟩
  · exact member_plain (by decide) (value_plain (plain_extUuidToString _))
  · exact member_plain (by decide) (value_plain name)
  · exact member_plain (by decide) (value_array_singleton (.string binding))
  · exact member_plain (by decide) (value_plain format)
  · exact member_plain (by decide)
      (value_object fun _ mem => List.mem_singleton.mp mem ▸ media)

theorem carriesId_senderDocument (node : ExtNmosNode) {snd : ExtNmosSender} (clean : snd.Clean) :
    CarriesId (senderDocument node snd) snd.resourceId := by
  obtain ⟨resource, binding⟩ := clean
  have name : Plain snd.transport.name := by cases snd.transport <;> decide
  have href : Plain (serverAddress node ++ str "/x-nmos/connection/v1.0/single/senders/" ++
      extUuidToString snd.resourceId.nmosId.uuid ++ str "/transportfile") :=
    (((plain_serverAddress node).append (by decide)).append
      (plain_extUuidToString _)).append (by decide)
  refine carriesId_object resource ?_
  simp only [List.forall_mem_cons]
  refine ⟨?_, ?_, ?_, ?_, ?_, member_subscriptionMember _ _, List.forall_mem_nil _⟩
  · exact member_plain (by decide) (value_plain (plain_extUuidToString _))
  · exact member_plain (by decide) (value_plain (plain_extUuidToString _))
  · exact member_plain (by decide) (value_plain name)
  · exact member_plain (by decide) (value_plain href)
  · exact member_plain (by decide) (value_array_singleton (.string binding))

theorem value_componentDocument (cmp : NmosVideoComponent) : Value (componentDocument cmp) := by
  have name : Plain cmp.name.name := by cases cmp.name <;> decide
  refine value_object ?_
  simp only [List.forall_mem_cons]
  refine ⟨member_plain (by decide) (value_plain name), ?_, ?_, ?_, List.forall_mem_nil _⟩
  · exact member_number (by decide) _
  · exact member_number (by decide) _
  · exact member_number (by decide) _

/-- An array of the documents of some things. -/
theorem value_array_map {α : Type} {document : α → Bytes} {rs : List α}
    (values : ∀ r ∈ rs, Value (document r)) : Value (array (rs.map document)) :=
  value_array (List.forall_mem_map.mpr fun r mem => (values r mem).element)

theorem member_formatMembers (flow : ExtNmosFlow) : ∀ m ∈ formatMembers flow, Member m := by
  have ilm : Plain flow.interlaceMode.name := by cases flow.interlaceMode <;> decide
  have space : Plain flow.colorspace.name := by cases flow.colorspace <;> decide
  have character : Plain flow.transferCharacter.name := by
    cases flow.transferCharacter <;> decide
  have rate : Member (numberMember (str "numerator") flow.sampleRate.numberator.toNat) :=
    member_number (by decide) _
  unfold formatMembers
  cases flow.format with
  | video =>
      refine List.forall_mem_append.mpr ⟨?_, ?_⟩
      · simp only [List.forall_mem_cons]
        refine ⟨?_, ?_, ?_, ?_, ?_, List.forall_mem_nil _⟩
        · exact member_number (by decide) _
        · exact member_number (by decide) _
        · exact member_plain (by decide) (value_plain ilm)
        · exact member_plain (by decide) (value_plain space)
        · exact member_plain (by decide) (value_plain character)
      · split_ifs
        · exact List.forall_mem_nil _
        · intro m mem
          rw [List.mem_singleton.mp mem]
          exact member_plain (by decide)
            (value_array_map fun cmp _ => value_componentDocument cmp)
  | audio =>
      simp only [List.forall_mem_cons]
      refine ⟨member_number (by decide) _, ?_, List.forall_mem_nil _⟩
      exact member_plain (by decide)
        (value_object fun _ mem => List.mem_singleton.mp mem ▸ rate)
  | data => exact List.forall_mem_nil _
  | mux => exact List.forall_mem_nil _

theorem value_array_nil : Value (array []) := value_array (List.forall_mem_nil _)

theorem carriesId_flowDocument (node : ExtNmosNode) {flow : ExtNmosFlow} (clean : flow.Clean) :
    CarriesId (flowDocument node flow) flow.resourceId := by
  obtain ⟨resource, media⟩ := clean
  have format : Plain flow.format.name := by cases flow.format <;> decide
  unfold flowDocument
  rw [List.append_assoc]
  refine carriesId_object resource (List.forall_mem_append.mpr ⟨?_, member_formatMembers flow⟩)
  simp only [List.forall_mem_cons]
  refine ⟨?_, ?_, ?_, ?_, ?_, List.forall_mem_nil _⟩
  · exact member_plain (by decide) (value_plain (plain_extUuidToString _))
  · exact member_plain (by decide) (value_plain (plain_extUuidToString _))
  · exact member_plain (by decide) (value_plain format)
  · exact member_plain (by decide) (.string media)
  · exact member_plain (by decide) value_array_nil

theorem value_channelDocument {audio : NmosAudioChannel} (label : Chars (cstr audio.label)) :
    Value (channelDocument audio) := by
  have symbol : Plain audio.symbol.name := by cases audio.symbol <;> decide
  refine value_object ?_
  simp only [List.forall_mem_cons]
  refine ⟨?_, ?_, List.forall_mem_nil _⟩
  · exact member_plain (by decide) (.string label)
  · exact member_plain (by decide) (value_plain symbol)

theorem member_grainMembers {src : ExtNmosSource}
    (labels : src.format = .audio → ∀ audio ∈ src.audioChannels, Chars (cstr audio.label)) :
    ∀ m ∈ grainMembers src, Member m := by
  unfold grainMembers
  cases format : src.format with
  | video =>
      have rate : Value (object [numberMember (str "denominator") src.gRate.denominator.toNat,
          numberMember (str "numerator") src.gRate.numberator.toNat]) := by
        refine value_object ?_
        simp only [List.forall_mem_cons]
        refine ⟨?_, ?_, List.forall_mem_nil _⟩
        · exact member_number (by decide) _
        · exact member_number (by decide) _
      intro m mem
      rw [List.mem_singleton.mp mem]
      exact member_plain (by decide) rate
  | audio =>
      intro m mem
      rw [List.mem_singleton.mp mem]
      exact member_plain (by decide)
        (value_array_map fun audio here => value_channelDocument (labels format audio here))
  | data => exact List.forall_mem_nil _
  | mux => exact List.forall_mem_nil _

theorem carriesId_sourceDocument (node : ExtNmosNode) {src : ExtNmosSource} (clean : src.Clean) :
    CarriesId (sourceDocument node src) src.resourceId := by
  obtain ⟨resource, labels⟩ := clean
  have format : Plain src.format.name := by cases src.format <;> decide
  have clock : Plain (str "clk" ++ decimal src.clockIndex.toNat) :=
    Plain.append (by decide) (plain_decimal _)
  unfold sourceDocument
  rw [List.append_assoc]
  refine carriesId_object resource
    (List.forall_mem_append.mpr ⟨?_, member_grainMembers labels⟩)
  simp only [List.forall_mem_cons]
  refine ⟨?_, ?_, ?_, ?_, List.forall_mem_nil _⟩
  · exact member_plain (by decide) (value_plain (plain_extUuidToString _))
  · exact member_plain (by decide) (value_plain format)
  · exact member_plain (by decide) (value_plain clock)
  · exact member_plain (by decide) value_array_nil

theorem value_idsDocument {α : Type} (resourceId : α → ExtNmosResource) (rs : List α) :
    Value (idsDocument resourceId rs) :=
  value_array_map fun _ _ => value_plain (plain_extUuidToString _)

theorem carriesId_deviceDocument (node : ExtNmosNode) (clean : node.device.resourceId.Clean) :
    CarriesId (deviceDocument node) node.device.resourceId := by
  have href : Plain (serverAddress node ++ str "/x-nmos/connection/v1.0") :=
    (plain_serverAddress node).append (by decide)
  refine carriesId_object clean ?_
  simp only [List.forall_mem_cons]
  refine ⟨?_, ?_, ?_, ?_, ?_, List.forall_mem_nil _⟩
  · exact member_plain (by decide) (value_plain (plain_extUuidToString _))
  · exact member_plain (by decide) (value_plain (by decide))
  · refine member_plain (by decide) (value_array_singleton (value_object ?_))
    simp only [List.forall_mem_cons]
    refine ⟨member_plain (by decide) (value_plain href), ?_, List.forall_mem_nil _⟩
    exact member_plain (by decide) (value_plain (by decide))
  · exact member_plain (by decide) (value_idsDocument _ _)
  · exact member_plain (by decide) (value_idsDocument _ _)

theorem value_selfDocument (node : ExtNmosNode) (clean : node.resourceId.Clean)
    (name : Chars (cstr node.runCfg.name)) : Value (selfDocument node) := by
  have host : Chars (cstr node.runCfg.name ++ str ".local") :=
    name.append (Plain.chars (by decide))
  have endpoint : Value (object [member (str "host") (quoted (inetNtoa node.runCfg.localCfg.ip)),
      32 :: numberMember (str "port") node.httpPort.toNat,
      32 :: member (str "protocol") (quoted (str "http"))]) := by
    refine value_object ?_
    simp only [List.forall_mem_cons]
    refine ⟨?_, ?_, ?_, List.forall_mem_nil _⟩
    · exact member_plain (by decide) (value_plain (plain_inetNtoa _))
    · exact (member_number (by decide) _).blank
    · exact (member_plain (by decide) (value_plain (by decide))).blank
  have versions : Value (array [quoted (str "v1.0"), 32 :: quoted (str "v1.1"),
      32 :: quoted (str "v1.2")]) := by
    refine value_array ?_
    simp only [List.forall_mem_cons]
    refine ⟨?_, ?_, ?_, List.forall_mem_nil _⟩
    · exact (value_plain (by decide)).element
    · exact (value_plain (by decide)).element_blank
    · exact (value_plain (by decide)).element_blank
  have clock : Value (object [member (str "name") (quoted (str "clk0")),
      member (str "ref_type") (quoted (str "internal"))]) := by
    refine value_object ?_
    simp only [List.forall_mem_cons]
    refine ⟨?_, ?_, List.forall_mem_nil _⟩
    · exact member_plain (by decide) (value_plain (by decide))
    · exact member_plain (by decide) (value_plain (by decide))
  refine value_object_append (member_resourceMembers clean) ?_
  simp only [List.forall_mem_cons]
  refine ⟨?_, ?_, ?_, ?_, ?_, ?_, ?_, List.forall_mem_nil _⟩
  · refine member_plain (by decide) (value_object ?_)
    simp only [List.forall_mem_cons]
    refine ⟨?_, ?_, List.forall_mem_nil _⟩
    · exact member_plain (by decide) (value_array_singleton endpoint)
    · exact member_plain (by decide) versions
  · exact member_plain (by decide) (value_object (List.forall_mem_nil _))
  · exact member_plain (by decide) (value_array_singleton clock)
  · exact member_plain (by decide) (.string host)
  · exact member_plain (by decide) (value_plain (plain_serverAddress node))
  · exact member_plain (by decide) value_array_nil
  · exact member_plain (by decide) value_array_nil

theorem value_namesDocument {κ : Type} {child : ApiAccessPointer κ}
    (names : ∀ name ∈ siblingNames child, Plain name) : Value (namesDocument child) :=
  value_array_map fun name mem => value_plain ((names name mem).append (by decide))

theorem member_enumMember {key : Bytes} (plain : Plain key) (ip : UInt32) :
    Member (enumMember key ip) := by
  have enum : Member (member (str "enum") (array [quoted (inetNtoa ip)])) :=
    member_plain (by decide) (value_array_singleton (value_plain (plain_inetNtoa ip)))
  exact member_plain plain (value_object fun _ mem => List.mem_singleton.mp mem ▸ enum)

theorem member_rangeMember {key : Bytes} (plain : Plain key) (mini range : UInt16) :
    Member (rangeMember key mini range) := by
  refine member_plain plain (value_object ?_)
  simp only [List.forall_mem_cons]
  refine ⟨?_, ?_, List.forall_mem_nil _⟩
  · exact member_number (by decide) _
  · exact member_number (by decide) _

theorem value_extJsonBoolStr (bool : UInt8) : Value (extJsonBoolStr bool) := by
  unfold extJsonBoolStr
  split_ifs
  · exact value_false
  · exact value_true

theorem value_constraintsDocument (runCfg : RuntimeCfg) (cstrts : ExtNmosConstraints)
    (isSender : Bool) : Value (constraintsDocument runCfg cstrts isSender) := by
  unfold constraintsDocument
  refine value_object_append ?_ ?_
  · refine List.forall_mem_cons.mpr ⟨member_enumMember (by decide) _, ?_⟩
    cases isSender with
    | true =>
        simp only [if_true, List.forall_mem_cons]
        refine ⟨?_, ?_, List.forall_mem_nil _⟩
        · exact member_enumMember (by decide) _
        · exact member_rangeMember (by decide) _ _
    | false =>
        simp only [Bool.false_eq_true, if_false, List.forall_mem_cons]
        refine ⟨?_, ?_, List.forall_mem_nil _⟩
        · exact member_enumMember (by decide) _
        · exact member_enumMember (by decide) _
  · simp only [List.forall_mem_cons]
    refine ⟨member_rangeMember (by decide) _ _, ?_, ?_, ?_, List.forall_mem_nil _⟩
    · exact member_plain (by decide) (value_extJsonBoolStr _)
    · exact member_plain (by decide) (value_extJsonBoolStr _)
    · exact member_plain (by decide) (value_extJsonBoolStr _)

theorem member_activationMember {mode requested activation : Bytes} (isMode : Value mode)
    (isRequested : Value requested) (isActivation : Value activation) :
    Member (activationMember mode requested activation) := by
  refine member_plain (by decide) (value_object ?_)
  simp only [List.forall_mem_cons]
  refine ⟨?_, ?_, ?_, List.forall_mem_nil _⟩
  · exact member_plain (by decide) isMode
  · exact member_plain (by decide) isRequested
  · exact member_plain (by decide) isActivation

theorem member_immediateActivation (now : Nat → UInt32) : Member (immediateActivation now) := by
  have minus : Plain (str "-") := by decide
  have colon : Plain (str ":") := by decide
  have time (n : UInt32) : Plain (activationTime n) := by
    unfold activationTime UdpCmd.decimalSigned
    refine (Plain.append ?_ colon).append (plain_decimal 0)
    split_ifs
    · exact plain_decimal _
    · exact minus.append (plain_decimal _)
  exact member_activationMember (value_plain (by decide)) (value_plain (time _))
    (value_plain (time _))

theorem member_stagedActivation : Member stagedActivation :=
  member_activationMember value_true value_null value_null

theorem value_parametersDocument {peer activation : Bytes} (isPeer : Member peer)
    (isActivation : Member activation) (runCfg : RuntimeCfg) (format : NmosSourceFormat) :
    Value (parametersDocument peer activation runCfg format) := by
  refine value_object ?_
  simp only [List.forall_mem_cons]
  refine ⟨isPeer, ?_, isActivation, ?_, List.forall_mem_nil _⟩
  · exact member_plain (by decide) value_true
  · refine member_plain (by decide) (value_array_singleton (value_object ?_))
    simp only [List.forall_mem_cons]
    refine ⟨?_, ?_, ?_, ?_, ?_, ?_, ?_, List.forall_mem_nil _⟩
    · exact member_enumMember (by decide) _
    · exact member_enumMember (by decide) _
    · exact member_number (by decide) _
    · exact member_number (by decide) _
    · exact member_plain (by decide) value_false
    · exact member_plain (by decide) value_false
    · exact member_plain (by decide) value_true

/-- An error whose debug text needs no escapes. -/
theorem value_restErrorBody (code : Nat) {debug : Bytes} (clean : Chars debug) :
    Value (restErrorBody code debug) := by
  have document : restErrorBody code debug = object [numberMember (str "code") code,
      member (str "error") (quoted ((statusText code).drop 4)),
      member (str "debug") (quoted debug)] := by
    rw [← text_restErrorPrinting]
    unfold restErrorPrinting stringMember object
    simp only [Printing.text, comma, commas_cons_cons, commas_singleton, List.append_assoc,
      List.cons_append, List.nil_append]
    rfl
  rw [document]
  refine value_object ?_
  simp only [List.forall_mem_cons]
  refine ⟨member_number (by decide) _, ?_, ?_, List.forall_mem_nil _⟩
  · exact member_plain (by decide) (value_plain (plain_statusText code))
  · exact member_plain (by decide) (.string clean)

end Documents

/-! ### Answers -/

/-- What the answer of a list shows needs no escapes, and no list that has resources is hidden. -/
def ListClean {α : Type} (clean : α → Prop) (uuid : Uuid) (resources : List α) :
    NmosAnswer α → Prop
  | .empty => uuidIsNull uuid → resources = []
  | .one r => clean r
  | .notFound => True
  | .all => ∀ r ∈ resources, clean r

/-- What the answer of a callback shows needs no escapes. -/
def AnswerClean (node : ExtNmosNode) (req : NmosRequest) : ApiCallback → Prop
  | .extNmosNodeDumpHander => Chars (cstr req.uri)
  | .connBulkSendersHander | .connBulkReceiversHander => req.method ≠ .get → Chars (cstr req.uri)
  | .nmosSelfHander => node.resourceId.Clean ∧ Chars (cstr node.runCfg.name)
  | .nmosDeviceHander =>
      uuidIsNull req.uuid.uuid ∨ extUuidEqual req.uuid node.device.resourceId.nmosId →
        node.device.resourceId.Clean
  | .nmosSourcesHander => ListClean ExtNmosSource.Clean req.uuid.uuid node.device.sources
      (nmosHander (·.resourceId.nmosId) .sources node.runCfg req.uuid node.device.sources)
  | .nmosFlowsHander => ListClean ExtNmosFlow.Clean req.uuid.uuid node.device.flows
      (nmosHander (·.resourceId.nmosId) .flows node.runCfg req.uuid node.device.flows)
  | .nmosSendersHander => ListClean ExtNmosSender.Clean req.uuid.uuid node.device.senders
      (nmosHander (·.resourceId.nmosId) .senders node.runCfg req.uuid node.device.senders)
  | .nmosReceiversHander => ListClean ExtNmosReceiver.Clean req.uuid.uuid node.device.receivers
      (nmosHander (·.resourceId.nmosId) .receivers node.runCfg req.uuid node.device.receivers)
  | _ => True

/-- One element for each resource, in the order of the list. -/
def IsCollection {α : Type} (carries : Bytes → α → Prop) (resources : List α) (text : Bytes) :
    Prop :=
  ∃ elements, text = array elements ∧ (∀ e ∈ elements, Element e) ∧
    List.Forall₂ carries elements resources

/-- A list has one element with the UUID of each resource. -/
def ListsAll (node : ExtNmosNode) (text : Bytes) : ApiCallback → Prop
  | .nmosDeviceHander => IsCollection CarriesId [node.device.resourceId] text
  | .nmosSourcesHander =>
      IsCollection (fun e src => CarriesId e src.resourceId) node.device.sources text
  | .nmosFlowsHander =>
      IsCollection (fun e flow => CarriesId e flow.resourceId) node.device.flows text
  | .nmosSendersHander =>
      IsCollection (fun e snd => CarriesId e snd.resourceId) node.device.senders text
  | .nmosReceiversHander =>
      IsCollection (fun e rcv => CarriesId e rcv.resourceId) node.device.receivers text
  | .connSingleSendersHander =>
      IsCollection (fun e snd => e = quoted (extUuidToString snd.resourceId.nmosId.uuid))
        node.device.senders text
  | .connSingleReceiversHander =>
      IsCollection (fun e rcv => e = quoted (extUuidToString rcv.resourceId.nmosId.uuid))
        node.device.receivers text
  | _ => True

section Answers

theorem value_restError (code : Nat) {debug : Bytes} (clean : Chars debug) :
    Value (NmosReply.restError code debug).printing.text := by
  unfold NmosReply.printing
  rw [text_restErrorPrinting]
  exact value_restErrorBody code clean

theorem value_plainError (code : Nat) {debug : Bytes} (plain : Plain debug) :
    Value (NmosReply.restError code debug).printing.text := value_restError code plain.chars

/-- The elements of a list in its order. -/
theorem isCollection_map {α : Type} {carries : Bytes → α → Prop} {document : α → Bytes}
    {rs : List α} (values : ∀ r ∈ rs, Value (document r))
    (each : ∀ r ∈ rs, carries (document r) r) :
    IsCollection carries rs (array (rs.map document)) := by
  refine ⟨rs.map document, rfl, List.forall_mem_map.mpr fun r mem => (values r mem).element, ?_⟩
  rw [List.forall₂_map_left_iff, List.forall₂_same]
  exact each

theorem nmosHander_of_null {α : Type} (nmosId : α → Stored) {uuid : Stored}
    (null : uuidIsNull uuid.uuid) (list : NmosList) (runCfg : RuntimeCfg) (resources : List α) :
    nmosHander nmosId list runCfg uuid resources =
      if ¬ list.isShown runCfg then .empty else .all := by
  unfold nmosHander
  rw [if_neg (not_not.mpr null)]

/-- The answer of a list. -/
theorem wellFormed_listReply {α : Type} {nmosId : α → Stored} {oneHander : α → Printing UInt8}
    {resourceId : α → ExtNmosResource} {document : α → Bytes} {clean : α → Prop} {list : NmosList}
    {notFound : Bytes} {node : ExtNmosNode} {req : NmosRequest} {resources : List α}
    (texts : ∀ r, (oneHander r).text = document r)
    (carries : ∀ r, clean r → CarriesId (document r) (resourceId r)) (plain : Plain notFound)
    (allClean : ListClean clean req.uuid.uuid resources
      (nmosHander nmosId list node.runCfg req.uuid resources)) :
    let text := (listReply nmosId oneHander list notFound node req resources).printing.text
    Value text ∧ (uuidIsNull req.uuid.uuid →
      IsCollection (fun e r => CarriesId e (resourceId r)) resources text) := by
  have ofNull (null : uuidIsNull req.uuid.uuid) := nmosHander_of_null nmosId null list
    node.runCfg resources
  unfold listReply
  cases answer : nmosHander nmosId list node.runCfg req.uuid resources with
  | empty =>
      rw [answer] at allClean
      refine ⟨value_array_nil, fun null => ?_⟩
      rw [allClean null]
      exact ⟨[], rfl, List.forall_mem_nil _, .nil⟩
  | one r =>
      rw [answer] at allClean
      refine ⟨?_, fun null => ?_⟩
      · exact (texts r).symm ▸ (carries r allClean).value
      · rw [ofNull null] at answer
        split_ifs at answer
  | notFound =>
      refine ⟨value_plainError _ plain, fun null => ?_⟩
      rw [ofNull null] at answer
      split_ifs at answer
  | all =>
      rw [answer] at allClean
      have text : (NmosReply.body ((printElements oneHander (Printing.start.print (str "[")) 0
          resources).print (str "]"))).printing.text = array (resources.map document) := by
        unfold NmosReply.printing array
        rw [Printing.text, text_printElements, funext texts]
        rfl
      dsimp only
      rw [text]
      exact ⟨value_array_map fun r mem => (carries r (allClean r mem)).value, fun _ =>
        isCollection_map (fun r mem => (carries r (allClean r mem)).value)
          fun r mem => carries r (allClean r mem)⟩

theorem wellFormed_names {κ : Type} {child : ApiAccessPointer κ}
    (names : ∀ name ∈ siblingNames child, Plain name) :
    Value (extNmosRootApHander child).printing.text := by
  rw [text_extNmosRootApHander]
  exact value_namesDocument names

/-- The answer of a list of UUIDs. -/
theorem wellFormed_connSingleHander {α κ : Type} (resourceId : α → ExtNmosResource)
    {notFound : Bytes} {child : ApiAccessPointer κ} (req : NmosRequest) (resources : List α)
    (names : ∀ name ∈ siblingNames child, Plain name) (plain : Plain notFound) :
    let text := (connSingleHander resourceId notFound child req resources).printing.text
    Value text ∧ (uuidIsNull req.uuid.uuid →
      IsCollection (fun e r => e = quoted (extUuidToString (resourceId r).nmosId.uuid))
        resources text) := by
  unfold connSingleHander
  by_cases null : uuidIsNull req.uuid.uuid
  · have text : (NmosReply.body ((printIds resourceId (Printing.start.print (str "[")) 0
        resources).print (str "]"))).printing.text = idsDocument resourceId resources := by
      unfold NmosReply.printing idsDocument array
      rw [Printing.text, text_printIds]
      rfl
    rw [if_neg (not_not.mpr null)]
    dsimp only
    rw [text]
    exact ⟨value_idsDocument resourceId resources, fun _ =>
      isCollection_map (fun _ _ => value_plain (plain_extUuidToString _)) fun _ _ => rfl⟩
  · rw [if_pos null]
    refine ⟨?_, fun null' => absurd null' null⟩
    cases resources.find? fun r => extUuidEqual req.uuid (resourceId r).nmosId with
    | none => exact value_plainError _ plain
    | some r => exact wellFormed_names names

/-- The answer of the device. -/
theorem wellFormed_nmosDeviceHander {node : ExtNmosNode} {req : NmosRequest}
    (clean : AnswerClean node req .nmosDeviceHander) :
    let text := (nmosDeviceHander node req).printing.text
    Value text ∧ (uuidIsNull req.uuid.uuid →
      IsCollection CarriesId [node.device.resourceId] text) := by
  unfold nmosDeviceHander
  by_cases refused : ¬ uuidIsNull req.uuid.uuid ∧
      ¬ extUuidEqual req.uuid node.device.resourceId.nmosId
  · rw [if_pos refused]
    exact ⟨value_plainError _ (by decide), fun null => absurd null refused.1⟩
  · have carries := carriesId_deviceDocument node (clean (by
      rwa [not_and_or, not_not, not_not] at refused))
    rw [if_neg refused]
    unfold NmosReply.printing
    dsimp only
    rw [text_printDevice]
    by_cases null : uuidIsNull req.uuid.uuid
    · rw [if_pos null]
      refine ⟨value_array_singleton carries.value, fun _ => ⟨_, rfl, ?_, .cons carries .nil⟩⟩
      exact fun e mem => List.mem_singleton.mp mem ▸ carries.value.element
    · rw [if_neg null]
      exact ⟨carries.value, fun null' => absurd null' null⟩

theorem value_constraintsBody_none : Value (constraintsBody none).printing.text := value_array_nil

theorem value_constraintsBody (runCfg : RuntimeCfg) (cstrts : ExtNmosConstraints)
    (isSender : Bool) :
    let constraints := nmosConstraintsHander runCfg cstrts isSender
    Value (constraintsBody (some constraints)).printing.text := by
  intro constraints
  have text : (constraintsBody (some constraints)).printing.text =
      array [constraintsDocument runCfg cstrts isSender] := by
    unfold constraintsBody NmosReply.printing array
    simp only [Option.elim_some, Printing.text, commas_singleton]
    rw [text_nmosConstraintsHander]
    rfl
  rw [text]
  exact value_array_singleton (value_constraintsDocument runCfg cstrts isSender)

theorem value_dump (name : Bytes) {req : NmosRequest} (uri : Chars (cstr req.uri))
    (plain : Plain name) : Value (extNmosNodeDumpHander name req).printing.text := by
  refine value_restError _ (uri.append (plain_snprintf ?_ _).chars)
  exact (((by decide : Plain (str "(")).append plain).append (by decide)).append
    (by decide)

theorem value_connBulkHander (name : Bytes) {req : NmosRequest}
    (uri : req.method ≠ .get → Chars (cstr req.uri)) (plain : Plain name) :
    Value (connBulkHander name req).printing.text := by
  unfold connBulkHander
  split_ifs with get
  · exact value_plainError _ (by decide)
  · exact value_dump name (uri get) plain

theorem value_selected {α : Type} {notFound : Bytes} {null : Option NmosReply}
    {found : α → Option NmosReply} (selected : Selected α) (plain : Plain notFound)
    (nulls : ∀ r ∈ null, Value r.printing.text)
    (founds : ∀ a, ∀ r ∈ found a, Value r.printing.text) :
    ∀ r ∈ selected.answer notFound null found, Value r.printing.text :=
  selected.forall_mem_answer (value_plainError webResNotFound plain) nulls founds

/-- The answer of a callback. -/
theorem wellFormed_callHander {node : ExtNmosNode} {req : NmosRequest}
    {ap : ApiAccessPoint ApiCallback} {child : ApiAccessPointer ApiCallback} {r : NmosReply}
    (called : callHander node req ap child = some r) (name : Plain ap.name)
    (names : ∀ name ∈ siblingNames child, Plain name) (clean : AnswerClean node req ap.callback) :
    (ap.callback = .connSingleSenderTransportFileHander ∧ r.isError = false ∨
        Value r.printing.text) ∧
      (uuidIsNull req.uuid.uuid → ListsAll node r.printing.text ap.callback) := by
  have receiverId (subscriber : Option Uuid) :
      Member (member (str "receiver_id") (idOrNull subscriber)) :=
    member_plain (by decide) (value_idOrNull subscriber)
  have senderId (subscriber : Uuid) :
      Member (member (str "sender_id") (quoted (extUuidToString subscriber))) :=
    member_plain (by decide) (value_plain (plain_extUuidToString subscriber))
  unfold callHander at called
  cases callback : ap.callback with rw [callback] at called clean
  | extNmosRootApHander =>
      cases called
      exact ⟨.inr (wellFormed_names names), fun _ => trivial⟩
  | extNmosNodeDumpHander =>
      cases called
      exact ⟨.inr (value_dump ap.name clean name), fun _ => trivial⟩
  | nmosSelfHander =>
      cases called
      refine ⟨.inr ?_, fun _ => trivial⟩
      rw [text_nmosSelfHander]
      exact value_selfDocument node clean.1 clean.2
  | nmosDeviceHander =>
      cases called
      have answer := wellFormed_nmosDeviceHander clean
      exact ⟨.inr answer.1, answer.2⟩
  | nmosSourcesHander =>
      cases called
      have plain : Plain (str "ID not found for source") := by decide
      have answer := wellFormed_listReply (text_nmosSourceOneHander node)
        (fun _ => carriesId_sourceDocument node) plain clean
      exact ⟨.inr answer.1, answer.2⟩
  | nmosFlowsHander =>
      cases called
      have plain : Plain (str "ID not found for flow") := by decide
      have answer := wellFormed_listReply (text_nmosFlowOneHander node)
        (fun _ => carriesId_flowDocument node) plain clean
      exact ⟨.inr answer.1, answer.2⟩
  | nmosSendersHander =>
      cases called
      have plain : Plain (str "ID not found for sender") := by decide
      have answer := wellFormed_listReply (text_nmosSenderOneHander node)
        (fun _ => carriesId_senderDocument node) plain clean
      exact ⟨.inr answer.1, answer.2⟩
  | nmosReceiversHander =>
      cases called
      have plain : Plain (str "ID not found for receiver") := by decide
      have answer := wellFormed_listReply (text_nmosReceiverOneHander node)
        (fun _ => carriesId_receiverDocument node) plain clean
      exact ⟨.inr answer.1, answer.2⟩
  | connBulkSendersHander =>
      cases called
      exact ⟨.inr (value_connBulkHander ap.name clean name), fun _ => trivial⟩
  | connBulkReceiversHander =>
      cases called
      exact ⟨.inr (value_connBulkHander ap.name clean name), fun _ => trivial⟩
  | connSingleSendersHander =>
      cases called
      have plain : Plain (str "ID not found for sender") := by decide
      have answer := wellFormed_connSingleHander ExtNmosSender.resourceId req node.device.senders
        names plain
      exact ⟨.inr answer.1, answer.2⟩
  | connSingleReceiversHander =>
      cases called
      have plain : Plain (str "ID not found for receiver") := by decide
      have answer := wellFormed_connSingleHander ExtNmosReceiver.resourceId req
        node.device.receivers names plain
      exact ⟨.inr answer.1, answer.2⟩
  | connSingleSenderConstraintsHander =>
      have plain : Plain (str "ID not found for sender") := by decide
      refine ⟨.inr (value_selected _ plain ?_ ?_ r called), fun _ => trivial⟩
      · rintro r ⟨⟩
        exact value_constraintsBody_none
      · rintro snd r ⟨⟩
        exact value_constraintsBody _ _ _
  | connSingleReceiveConstraintsHander =>
      have plain : Plain (str "ID not found for receiver") := by decide
      refine ⟨.inr (value_selected _ plain ?_ ?_ r called), fun _ => trivial⟩
      · rintro r ⟨⟩
        exact value_constraintsBody_none
      · rintro rcv r ⟨⟩
        exact value_constraintsBody _ _ _
  | connSingleSenderStageHander =>
      have plain : Plain (str "ID not found for sender") := by decide
      refine ⟨.inr (value_selected _ plain ?_ ?_ r called), fun _ => trivial⟩
      · rintro r ⟨⟩
      · rintro snd r ⟨⟩
        exact (text_senderStaged _ _ _).symm ▸
          value_parametersDocument (receiverId _) member_stagedActivation _ _
  | connSingleSenderActiveHander =>
      have plain : Plain (str "ID not found for sender") := by decide
      refine ⟨.inr (value_selected _ plain ?_ ?_ r called), fun _ => trivial⟩
      · rintro r ⟨⟩
      · rintro snd r ⟨⟩
        exact (text_senderActive _ _ _ _).symm ▸
          value_parametersDocument (receiverId _) (member_immediateActivation _) _ _
  | connSingleSenderTransportFileHander =>
      have plain : Plain (str "ID not found for sender") := by decide
      refine ⟨Selected.forall_mem_answer
        (P := fun r => _ ∧ r.isError = false ∨ Value r.printing.text)
        _ (.inr (value_plainError _ plain)) ?_ ?_ r called, fun _ => trivial⟩
      · rintro r ⟨⟩
      · rintro snd r ⟨⟩
        exact .inl ⟨rfl, rfl⟩
  | connSingleReceiverActiveHander =>
      have plain : Plain (str "ID not found for sender") := by decide
      refine ⟨.inr (value_selected _ plain ?_ ?_ r called), fun _ => trivial⟩
      · rintro r ⟨⟩
      · intro rcv r found
        obtain ⟨subscriber, -, rfl⟩ := Option.map_eq_some_iff.mp found
        exact (text_receiverActive _ _ _ _).symm ▸
          value_parametersDocument (senderId _) (member_immediateActivation _) _ _

end Answers

/-! ### Requests -/

/-- The table that `extHttpHandleRequest` gives to `_extRestApiHandle`. -/
def NmosApiType.root : NmosApiType → ApiAccessPointer ApiCallback
  | .node => apNodeRoot
  | .connection => apConnRoot

section Requests

variable {κ : Type} {p : ApiAccessPoint κ → Prop}

theorem all_apLoop {apiReq : ExtNmosApiReq} {t found : ApiAccessPointer κ} {index : Nat}
    (all : t.All p) (loop : apLoop apiReq t index = some found) : found.All p := by
  induction t generalizing index with
  | null => cases loop
  | node ap child next down on =>
      have whole := all
      obtain ⟨-, children, others⟩ := all
      unfold apLoop at loop
      dsimp only at loop
      split_ifs at loop
      · exact Option.some.inj loop ▸ whole
      · exact down children loop
      · exact on others loop

/-- What is called is in the table. -/
theorem all_extRestApiHandle {root ap : ApiAccessPointer κ} {parsed : Bool × Parsed}
    (all : root.All p) (answer : extRestApiHandle root parsed = .callback ap) : ap.All p := by
  unfold extRestApiHandle at answer
  dsimp only at answer
  split_ifs at answer
  · exact ApiAnswer.callback.inj answer ▸ all
  · generalize loop : apLoop _ _ _ = found at answer
    cases found with
    | none => cases answer
    | some found =>
        refine ApiAnswer.callback.inj answer ▸ all_apLoop ?_ loop
        cases root with
        | null => exact trivial
        | node ap child next => exact all.2.1

theorem plain_debug {root : ApiAccessPointer κ} {parsed : Bool × Parsed} {code : Nat}
    {debug : Bytes} (answer : extRestApiHandle root parsed = .restError code debug) :
    Plain debug := by
  unfold extRestApiHandle at answer
  dsimp only at answer
  split_ifs at answer
  · obtain ⟨-, rfl⟩ := ApiAnswer.restError.inj answer
    decide
  · generalize apLoop _ _ _ = found at answer
    cases found with
    | none =>
        obtain ⟨-, rfl⟩ := ApiAnswer.restError.inj answer
        decide
    | some found => cases answer

theorem plain_siblingNames {child : ApiAccessPointer κ}
    (plain : child.All fun ap => Plain ap.name) : ∀ name ∈ siblingNames child, Plain name := by
  induction child with
  | null => exact List.forall_mem_nil _
  | node ap _ next _ on => exact List.forall_mem_cons.mpr ⟨plain.1, on plain.2.2⟩

theorem plain_root (type : NmosApiType) : type.root.All fun ap => Plain ap.name := by
  cases type with
  | node => decide
  | connection => decide

end Requests

/-- **Well-formed answers.** Whatever the request, an answer that fits and that shows only strings
which need no escapes is JSON, unless it is an SDP file, and a list has one element for each
resource in its order; so is every error with such a debug text. -/
theorem wellFormed_of_clean (code : Nat) (debug : Bytes) (mhc : ExtHttpConn) (node : ExtNmosNode)
    (req : NmosRequest) (type : NmosApiType) (parsed : Bool × Parsed) (r : NmosReply) :
    (Chars debug → Element (restErrorBody code debug)) ∧
      let answer := extRestApiHandle type.root parsed
      let req := req.parsed parsed.2
      restApiReply node req answer = some r → r.length < maxReqLength →
        (∀ callback, answer.called = some callback → AnswerClean node req callback) →
        (answer.called = some .connSingleSenderTransportFileHander ∧ r.isError = false ∨
            Element (r.content mhc)) ∧
          (uuidIsNull req.uuid.uuid → ∀ callback, answer.called = some callback →
            ListsAll node (r.content mhc) callback) := by
  refine ⟨fun clean => (value_restErrorBody code clean).element, ?_⟩
  clear code debug
  intro answer req reply fits clean
  have inTable (ap : ApiAccessPointer ApiCallback) (same : answer = .callback ap) :=
    all_extRestApiHandle (plain_root type) same
  have isPlain (code : Nat) (debug : Bytes) (same : answer = .restError code debug) :=
    plain_debug same
  rw [content_eq mhc fits]
  clear_value answer req
  cases answer with
  | restError code debug =>
      cases reply
      have value := value_plainError code (isPlain code debug rfl)
      exact ⟨.inr value.element, fun _ callback none_ => by cases none_⟩
  | callback ap =>
      cases ap with
      | null => cases reply
      | node ap child next =>
          obtain ⟨name, children, -⟩ := inTable _ rfl
          have answer := wellFormed_callHander reply name (plain_siblingNames children)
            (clean _ rfl)
          refine ⟨answer.1.imp (fun file => ⟨congrArg some file.1, file.2⟩) Value.element, ?_⟩
          rintro null callback ⟨⟩
          exact answer.2 null

theorem clean_plainResource (uuid : Uuid) : (plainResource uuid).Clean :=
  ⟨.nil, .nil, .emptyObject blank_nil⟩

/-- The list of the one receiver of a node. -/
theorem wellFormed_receivers :
    let debug := str "ID not found for receiver"
    let answer := extRestApiHandle NmosApiType.node.root
      (true, { apiReq := { resources := [str "receivers"] } })
    let req : NmosRequest := ⟨.get, [], ⟨nullUuid, []⟩, fun _ => 0⟩
    let r := nmosReceiversHander receivingNode req
    (Chars debug ∧ Element (restErrorBody webResNotFound debug)) ∧
      restApiReply receivingNode req answer = some r ∧ r.length < maxReqLength ∧
      (∀ callback, answer.called = some callback → AnswerClean receivingNode req callback) ∧
      (answer.called = some .connSingleSenderTransportFileHander ∧ r.isError = false ∨
          Element (r.content {})) ∧
        (uuidIsNull req.uuid.uuid → ∀ callback, answer.called = some callback →
          ListsAll receivingNode (r.content {}) callback) := by
  intro debug answer req r
  have chars : Chars debug := Plain.chars (by decide)
  have fits : r.length < maxReqLength := by
    have length : r.length = listAnswerSize (·.resourceId.nmosId) receiverSize .receivers debug
        receivingNode req receivingNode.device.receivers := by
      refine length_listReply receivingNode req (fun rcv => ?_) _ _ _
      rw [text_nmosReceiverOneHander, length_receiverDocument]
    exact length.trans_lt (by decide)
  have binding : Chars (cstr (str "MuxEthernet")) := Plain.chars (by decide)
  have caps : Chars (cstr (str "video/raw")) := Plain.chars (by decide)
  have clean (callback : ApiCallback) (called : answer.called = some callback) :
      AnswerClean receivingNode req callback := by
    cases called
    intro rcv mem
    rw [List.mem_singleton.mp mem]
    exact ⟨clean_plainResource _, binding, caps⟩
  have answered := wellFormed_of_clean webResNotFound debug {} receivingNode req .node
    (true, { apiReq := { resources := [str "receivers"] } }) r
  exact ⟨⟨chars, answered.1 chars⟩, rfl, fits, clean, answered.2 rfl fits clean⟩

/-- A node with a name. -/
def namedNode (name : Bytes) : ExtNmosNode :=
  { receivingNode with runCfg := { name } }

/-- A node whose name has a control character. -/
theorem not_wellFormed :
    ¬ ∀ (mhc : ExtHttpConn) (node : ExtNmosNode) (req : NmosRequest) (fuel : Nat) (uri : Bytes)
      (type : NmosApiType) (parsed : Bool × Parsed) (r : NmosReply),
      extHttpNmosParseApiRequest fuel uri type = some parsed →
        let answer := extRestApiHandle type.root parsed
        let req := req.parsed parsed.2
        restApiReply node req answer = some r → r.length < maxReqLength →
          answer.called = some .connSingleSenderTransportFileHander ∧ r.isError = false ∨
            Element (r.content mhc) := by
  intro all
  let node := namedNode [97, 1]
  have fits : (nmosSelfHander node).length < maxReqLength := by
    rw [length_nmosSelfHander]
    decide
  rcases all {} node ⟨.get, [], ⟨nullUuid, []⟩, fun _ => 0⟩ 64 (str "/x-nmos/node/v1.0/self") .node
    _ _ rfl rfl fits with ⟨called, -⟩ | element
  · cases called
  · have printable := element.printable
    rw [content_eq {} fits, text_nmosSelfHander] at printable
    revert printable
    decide +kernel

end LwipExt.Nmos
