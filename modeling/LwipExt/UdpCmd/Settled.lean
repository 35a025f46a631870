import LwipExt.UdpCmd.Authentication
import LwipExt.UdpCmd.Framing
import LwipExt.UdpCmd.Lookup
import LwipExt.UdpCmd.Steps

/-!
When what is read of a request does not depend on what was received before.

The agent keeps one token array and one receive buffer. The tokens of a text and the bytes
of a datagram are its own, but a lookup looks one token too far and a number is read up to
the first character that is no digit, wherever that is. A key is settled if neither matters
for it. The main result is `received_settled`.
-/

namespace LwipExt.UdpCmd

/-! ### Texts with the same beginning -/

/-- A scan that stops in the common beginning of two texts is the same in both. -/
theorem takeWhile_congr {p : UInt8 → Bool} {text text' : Bytes} {m : Nat}
    (same : text.take m = text'.take m) {i : Nat} (lt : i < m)
    (stops : ∃ c, text[i]? = some c ∧ p c = false) : text.takeWhile p = text'.takeWhile p := by
  induction m generalizing text text' i with
  | zero => cases lt
  | succ m ih =>
      obtain ⟨c, at_, no⟩ := stops
      cases text with
      | nil => cases at_
      | cons a text =>
          cases text' with
          | nil => cases same
          | cons b text' =>
              simp only [List.take_succ_cons, List.cons.injEq] at same
              obtain ⟨rfl, same⟩ := same
              cases i with
              | zero =>
                  cases at_
                  simp [no]
              | succ i =>
                  rw [List.takeWhile_cons, List.takeWhile_cons,
                    ih same (Nat.lt_of_succ_lt_succ lt) ⟨c, at_, no⟩]

section Beginning

variable {text text' : Bytes} {m : Nat} (same : text.take m = text'.take m)

include same

theorem take_drop_congr {start n : Nat} (le : start + n ≤ m) :
    (text.drop start).take n = (text'.drop start).take n := by
  have cut := congrArg (List.take (n + start)) same
  rw [List.take_take, List.take_take, Nat.min_eq_left (by omega)] at cut
  rw [List.take_drop, List.take_drop, Nat.add_comm start n, cut]

theorem jsAt_congr {i : Nat} (lt : i < m) : jsAt text i = jsAt text' i := by
  have cut := congrArg (fun t => t.getD i 0) same
  simpa [jsAt, List.getD_eq_getElem?_getD, lt] using cut

theorem jsoneq_congr {tok : Jsmntok} (inside : tok.Inside m) (key : Bytes) :
    jsoneq text tok key = jsoneq text' tok key := by
  unfold jsoneq
  by_cases stop : tok.stop = some (tok.start + key.length)
  · rw [take_drop_congr same (inside.2 _ stop).2]
  · simp [stop]

theorem tokenText_congr {tok : Jsmntok} (inside : tok.Inside m) :
    (cstr (text.drop tok.start)).take (tok.stop.getD 0 - tok.start) =
      (cstr (text'.drop tok.start)).take (tok.stop.getD 0 - tok.start) := by
  have le : tok.start + (tok.stop.getD 0 - tok.start) ≤ m := by
    cases stop : tok.stop with
    | none =>
        have := inside.1
        simp only [Option.getD_none]
        omega
    | some stop =>
        have := inside.2 _ stop
        simp only [Option.getD_some]
        omega
  unfold cstr
  rw [List.take_takeWhile, List.take_takeWhile, take_drop_congr same le]

end Beginning

/-- A number that starts at a position is read before position `m` is reached. -/
def NumberStops (text : Bytes) (start m : Nat) : Prop :=
  isSpace (jsAt text start) = false ∧
    ∃ i c, start < i ∧ i < m ∧ text[i]? = some c ∧ isDigit c = false

theorem takeWhile_isDigit_cstr (text : Bytes) :
    (cstr text).takeWhile isDigit = text.takeWhile isDigit := by
  induction text with
  | nil => rfl
  | cons c text ih =>
      unfold cstr at *
      by_cases zero : c = 0
      · subst zero
        rfl
      · rw [List.takeWhile_cons, if_pos (by simpa using zero), List.takeWhile_cons,
          List.takeWhile_cons, ih]

/-- A number is its first character and the digits behind it. -/
theorem scanUnsigned_cons {c : UInt8} {rest rest' : Bytes} (noSpace : isSpace c = false)
    (same : rest.takeWhile isDigit = rest'.takeWhile isDigit) :
    scanUnsigned (c :: rest) = scanUnsigned (c :: rest') := by
  unfold scanUnsigned
  simp only [List.dropWhile_cons, noSpace, Bool.false_eq_true, if_false, List.head?_cons,
    List.tail_cons]
  split
  · rw [same]
  · rw [List.takeWhile_cons, List.takeWhile_cons, same]

theorem scanUnsigned_congr {text text' : Bytes} {start m : Nat}
    (same : text.take m = text'.take m) (stops : NumberStops text start m) :
    scanUnsigned (cstr (text.drop start)) = scanUnsigned (cstr (text'.drop start)) := by
  obtain ⟨noSpace, i, c, behind, lt, at_, noDigit⟩ := stops
  have inText : start < text.length := by
    obtain ⟨inText, -⟩ := List.getElem?_eq_some_iff.mp at_
    omega
  have rest := take_drop_congr same (show start + (m - start) ≤ m by omega)
  have unfolded := List.drop_eq_getElem_cons inText
  have first_eq : jsAt text start = text[start] := by
    simp [jsAt, List.getD_eq_getElem?_getD, inText]
  rw [first_eq] at noSpace
  have rest_eq : (text.drop (start + 1))[i - start - 1]? = some c := by
    rw [List.getElem?_drop, ← at_]
    congr 1
    omega
  generalize text[start] = first at unfolded noSpace
  generalize text.drop (start + 1) = tail at unfolded rest_eq
  rw [unfolded] at rest ⊢
  obtain ⟨k, k_eq⟩ := Nat.exists_eq_add_one_of_ne_zero (Nat.sub_ne_zero_of_lt (behind.trans lt))
  rw [k_eq] at rest
  generalize text'.drop start = dropped at rest ⊢
  cases dropped with
  | nil => cases rest
  | cons first' tail' =>
      simp only [List.take_succ_cons, List.cons.injEq] at rest
      obtain ⟨rfl, rest⟩ := rest
      have digits := takeWhile_congr rest (show i - start - 1 < k by omega) ⟨c, rest_eq, noDigit⟩
      unfold cstr
      rw [List.takeWhile_cons, List.takeWhile_cons]
      split
      · refine scanUnsigned_cons noSpace ?_
        exact (takeWhile_isDigit_cstr tail).trans (digits.trans (takeWhile_isDigit_cstr tail').symm)
      · rfl

/-! ### Settled keys -/

/-- A key is found among the tokens of the text, with a value among them, and a number ends
before position `m`. -/
structure Json.Settled (j : Json) (m : Nat) (key : Bytes) (k : Nat) : Prop where
  first : j.FirstReading key k
  value : k + 1 < j.toknext
  number : (j.token (k + 1)).type = .primitive → NumberStops j.text (j.token (k + 1)).start m

/-- Two texts with the same beginning and the same tokens, which lie in it. -/
structure SameTokens (m : Nat) (j j' : Json) : Prop where
  text : j.text.take m = j'.text.take m
  toknext : j.toknext = j'.toknext
  own : ∀ i < j.toknext, j.token i = j'.token i
  inside : ∀ i < j.toknext, (j.token i).Inside m

/-- A settled key reads the same. -/
theorem SameTokens.reading {m : Nat} {j j' : Json} (same : SameTokens m j j') {key : Bytes} {k : Nat}
    (settled : j.Settled m key k) : SameReading key j j' := by
  obtain ⟨first, value, number⟩ := settled
  have reads (i : Nat) (own : i < j.toknext) :
      jsoneq j'.text (j'.token i) key = jsoneq j.text (j.token i) key := by
    rw [← same.own i own, jsoneq_congr same.text (same.inside i own)]
  have found := extJsonFindKeyToken_first first.pos first.own.le first.reads first.first
  have found' : extJsonFindKeyToken j' key = some (j.token (k + 1)) := by
    rw [same.own _ value]
    refine extJsonFindKeyToken_first first.pos (same.toknext ▸ first.own.le) ?_ ?_
    · rw [reads k first.own]
      exact first.reads
    · intro i pos less
      rw [reads i (less.trans first.own)]
      exact first.first i pos less
  constructor
  · rw [found, found']
  · intro tok eq
    rw [found] at eq
    cases eq
    exact tokenText_congr same.text (same.inside _ value)
  · intro tok eq isPrimitive
    rw [found] at eq
    cases eq
    exact scanUnsigned_congr same.text (number isPrimitive)

/-! ### The check of a datagram -/

/-- All bytes of an address that is read in whole are written. -/
theorem macAddressBytes_congr {left : Nat} {mac mac' : Mac} {tmp : Bytes} (le : left ≤ 6)
    (same : ∀ i, (lt : i < 6) → i < 6 - left → mac[i] = mac'[i])
    (ok : (macAddressBytes left mac tmp).2 = true) :
    macAddressBytes left mac tmp = macAddressBytes left mac' tmp := by
  induction left generalizing mac mac' tmp with
  | zero =>
      have : mac = mac' := Vector.ext fun i lt => same i lt (by omega)
      rw [this]
  | succ left ih =>
      rw [macAddressBytes] at ok
      rw [macAddressBytes, macAddressBytes]
      simp only at ok ⊢
      by_cases none_ : 5 - left ≠ 0 ∧ tmp.dropWhile (· ≠ 58) = []
      · rw [if_pos none_] at ok
        cases ok
      rw [if_neg none_] at ok ⊢
      rw [if_neg none_]
      generalize (if 5 - left = 0 then tmp else (tmp.dropWhile (· ≠ 58)).tail) = rest at ok ⊢
      by_cases digits : (extSysAtoInt8 rest).2 = true
      · rw [if_pos digits] at ok ⊢
        rw [if_pos digits]
        refine ih (by omega) ?_ ok
        intro i lt less
        simp only [Vector.set!_eq_setIfInBounds, Vector.getElem_setIfInBounds]
        by_cases here : 5 - left = i
        · simp [here]
        · simp [here, same i lt (by omega)]
      · rw [if_neg digits] at ok
        cases ok

theorem extMacAddressParse_congr {mac : Mac} {text : Bytes} (mac' : Mac)
    (ok : (extMacAddressParse mac text).2 = true) :
    extMacAddressParse mac text = extMacAddressParse mac' text :=
  macAddressBytes_congr (Nat.le_refl 6) (fun i _ less => absurd less (by omega)) ok

theorem sameTokens_ofText {text text' : Bytes} {len m : Nat} {old old' : List Jsmntok}
    (same : text.take m = text'.take m) (le : len ≤ m) (full : old.length = extJsonTokenSize)
    (full' : old'.length = extJsonTokenSize) :
    SameTokens m (Json.ofText text len old) (Json.ofText text' len old') := by
  have chars : ∀ i < len, jsAt text' i = jsAt text i :=
    fun i lt => (jsAt_congr same (lt.trans_le le)).symm
  obtain ⟨agree, -⟩ := jsmnParse_agree text len full full'
  have parsed := jsmnParse_congr chars old'
  constructor
  · exact same
  · simp only [Json.ofText, parsed]
    exact agree.toknext
  · intro i lt
    have own := agree.own i lt
    simpa only [Json.ofText, Json.token, parsed] using own
  · intro i lt
    exact (jsmnParse_inside text len old i lt).mono le

/-- What a request that passed says, apart from its text. -/
structure SameRequest (rq rq' : Request) : Prop where
  report : rq.report = rq'.report
  target : rq.target = rq'.target
  cmd : rq.cmd = rq'.cmd

theorem extJsonFindCommand_congr {rq rq' : Request} (same : rq.report = rq'.report)
    (target : rq.target = rq'.target) (reading : SameReading (str "cmd") rq.json rq'.json)
    (ok : (extJsonFindCommand rq).2 = true) :
    (extJsonFindCommand rq').2 = true ∧
      SameRequest (extJsonFindCommand rq).1 (extJsonFindCommand rq').1 := by
  unfold extJsonFindCommand at *
  rw [← same, ← reading.string]
  rcases string : extJsonParseString rq.json (str "cmd") cmdSize rq.report with ⟨r, _ | cmd⟩
  · rw [string] at ok
    cases ok
  · exact ⟨rfl, rfl, target, rfl⟩

/-- The request behind a target address that was read. -/
def withTarget (rq : Request) (r : Report) (target : Mac) : Request :=
  { rq with report := r, target := target }

/-- A text passes if it is tokenized, has a target address and has a command. -/
theorem extJsonRequestParseCommand_of {rq : Request} {text : Bytes} {len : Nat} {r : Report}
    {target : Mac} (good : (extJsonParse rq text len).report.status = .ok)
    (mac : extJsonParseMacAddress (extJsonParse rq text len).json (str "targ")
      (extJsonParse rq text len).target (extJsonParse rq text len).report = (r, target, true))
    (found : (extJsonFindCommand (withTarget (extJsonParse rq text len) r target)).2 = true) :
    extJsonRequestParseCommand rq text len =
      extJsonFindCommand (withTarget (extJsonParse rq text len) r target) := by
  unfold extJsonRequestParseCommand withTarget at *
  generalize extJsonParse rq text len = parsed at *
  have passes : ¬ ¬ parsed.parseIsOk = true := by simpa [Request.parseIsOk] using good
  simp only [mac]
  rw [if_neg passes, if_neg (by simp)]
  generalize extJsonFindCommand { parsed with report := r, target := target } = command at *
  obtain ⟨rq', _ | _⟩ := command
  · cases found
  · rfl

/-- And only then. -/
theorem extJsonRequestParseCommand_true {rq : Request} {text : Bytes} {len : Nat}
    (ok : (extJsonRequestParseCommand rq text len).2 = true) :
    (extJsonParse rq text len).report.status = .ok ∧ ∃ r target,
      extJsonParseMacAddress (extJsonParse rq text len).json (str "targ")
        (extJsonParse rq text len).target (extJsonParse rq text len).report = (r, target, true) ∧
      (extJsonFindCommand (withTarget (extJsonParse rq text len) r target)).2 = true := by
  unfold extJsonRequestParseCommand at ok
  unfold withTarget
  generalize extJsonParse rq text len = parsed at *
  simp only at ok
  by_cases good : parsed.parseIsOk = true
  swap
  · rw [if_pos good] at ok
    cases ok
  rw [if_neg (not_not.mpr good)] at ok
  refine ⟨by simpa [Request.parseIsOk] using good, ?_⟩
  rcases mac : extJsonParseMacAddress parsed.json (str "targ") parsed.target parsed.report with
    ⟨r, target, _ | _⟩
  · simp [mac] at ok
  refine ⟨r, target, rfl, ?_⟩
  rw [mac] at ok
  simp only [not_true_eq_false, if_false] at ok
  generalize extJsonFindCommand { parsed with report := r, target := target } = command at *
  obtain ⟨rq', _ | _⟩ := command
  · cases ok
  · rfl

theorem extJsonParseMacAddress_congr {j j' : Json} {key : Bytes} {mac target : Mac} {r r' : Report}
    (same : SameReading key j j') (mac' : Mac)
    (found : extJsonParseMacAddress j key mac r = (r', target, true)) :
    extJsonParseMacAddress j' key mac' r = (r', target, true) := by
  rw [← same.macAddress]
  unfold extJsonParseMacAddress at found ⊢
  generalize extJsonParseMsg j key r = read at found ⊢
  obtain ⟨r₁, _ | _⟩ := read
  · simp at found
  · simp only [if_true, Prod.mk.injEq] at found ⊢
    obtain ⟨rfl, parsed⟩ := found
    exact ⟨rfl, (extMacAddressParse_congr mac' (by rw [parsed])).symm.trans parsed⟩

/-- A text that passes with settled target and command passes whatever was there before. -/
theorem extJsonRequestParseCommand_congr {rq rq' : Request} {text text' : Bytes} {len m : Nat}
    (msg : rq.report.msg = rq'.report.msg) (full : rq.json.tokens.length = extJsonTokenSize)
    (full' : rq'.json.tokens.length = extJsonTokenSize) (same : text.take m = text'.take m)
    (le : len ≤ m) (ok : (extJsonRequestParseCommand rq text len).2 = true)
    (settled : ∀ key ∈ [str "targ", str "cmd"],
      ∃ k, (Json.ofText text len rq.json.tokens).Settled m key k) :
    (extJsonRequestParseCommand rq' text' len).2 = true ∧
      SameRequest (extJsonRequestParseCommand rq text len).1
        (extJsonRequestParseCommand rq' text' len).1 := by
  have tokens := sameTokens_ofText same le full full'
  have reading (key : Bytes) (mem : key ∈ [str "targ", str "cmd"]) :
      SameReading key (extJsonParse rq text len).json (extJsonParse rq' text' len).json := by
    obtain ⟨k, settled⟩ := settled key mem
    exact tokens.reading settled
  have report : (extJsonParse rq text len).report = (extJsonParse rq' text' len).report := by
    have chars : ∀ i < len, jsAt text' i = jsAt text i :=
      fun i lt => (jsAt_congr same (lt.trans_le le)).symm
    obtain ⟨-, failed⟩ := jsmnParse_agree text len full full'
    unfold extJsonParse
    simp only [jsmnParse_congr chars, ← failed, msg]
  obtain ⟨good, r, target, mac, found⟩ := extJsonRequestParseCommand_true ok
  have mac' := extJsonParseMacAddress_congr (reading (str "targ") (by simp))
    (extJsonParse rq' text' len).target mac
  rw [report] at mac'
  obtain ⟨found', alike⟩ := @extJsonFindCommand_congr (withTarget (extJsonParse rq text len) r target)
    (withTarget (extJsonParse rq' text' len) r target) rfl rfl (reading (str "cmd") (by simp)) found
  rw [extJsonRequestParseCommand_of good mac found,
    extJsonRequestParseCommand_of (report ▸ good) mac' found']
  exact ⟨found', alike⟩

/-! ### A datagram -/

/-- `received` behind the byte order of the length field. -/
theorem drop_swapLength (data : Bytes) :
    (swapLength data).drop ipcmdHeaderLength = data.drop ipcmdHeaderLength := by
  have length : (bufRead data 0 2 ++ [data.getD 3 0, data.getD 2 0]).length = ipcmdHeaderLength := by
    rw [List.length_append, length_bufRead]
    rfl
  rw [swapLength, bufWrite, List.drop_left' length]
  rfl

theorem take_receivedBuffer (buf p : Bytes) :
    (receivedBuffer buf p).take (receivedSize p) = p.take (receivedSize p) := by
  have length : (p.take (receivedSize p)).length = receivedSize p := by
    rw [List.length_take]
    exact Nat.min_eq_left (Nat.min_le_left _ _)
  unfold receivedBuffer bufWrite
  have nothing : bufRead buf 0 0 = [] := by simp [bufRead]
  rw [nothing, List.nil_append]
  exact List.take_left' length

/-- The state of an agent that has received nothing yet. -/
def freshAgent (parser : ExtJsonParser) : ExtJsonParser :=
  { runCfg := parser.runCfg, netIp := parser.netIp, pbufAllocs := parser.pbufAllocs }

/-- Where the bytes of a datagram end, counted from its text on. -/
def textEnd (p : Bytes) : Nat := receivedSize p - ipcmdHeaderLength

/-- A datagram whose bytes are all there, that passes on a fresh agent, and whose target and
command are settled. -/
structure Passes (parser : ExtJsonParser) (p : Bytes) : Prop where
  covered : ∀ s ∈ handlerReads (receivedBytes p) (receivedSize p), s.start + s.size ≤ receivedSize p
  ok : (received (freshAgent parser) p).2 = true
  settled : ∀ key ∈ [str "targ", str "cmd"],
    ∃ k, (received (freshAgent parser) p).1.json.Settled (textEnd p) key k

/-- The request of a frame in order is tokenized. -/
theorem checkDatagram_of_frameOk {data : Bytes} (ok : frameOk data) (rq : Request) (size : Nat) :
    checkDatagram data rq size =
      extJsonRequestParseCommand { rq with report := { rq.report with msg := [] } }
        ((swapLength data).drop ipcmdHeaderLength) (sub16 size (ipcmdHeaderLength * 2)) := by
  unfold checkDatagram
  rw [if_neg (not_not.mpr ok.1), if_neg (not_not.mpr ok.2)]

theorem Passes.frameOk {parser : ExtJsonParser} {p : Bytes} (passes : Passes parser p)
    (buf : Bytes) : frameOk (receivedBuffer buf p) := by
  have agrees (buf : Bytes) : ∀ s ∈ handlerReads (receivedBytes p) (receivedSize p),
      AgreeOn (receivedBytes p) (receivedBuffer buf p) s :=
    fun s mem i le lt => (receivedBuffer_agrees buf p (passes.covered s mem) i le lt).symm
  obtain ⟨ok, -⟩ := checkDatagram_ok passes.ok
  exact (frameOk_congr (agrees buf)).mp ((frameOk_congr (agrees [])).mpr ok)

/-- The text of a datagram that passes ends with its bytes. -/
theorem Passes.text_le {parser : ExtJsonParser} {p : Bytes} (passes : Passes parser p) :
    sub16 (receivedSize p) (ipcmdHeaderLength * 2) ≤ textEnd p := by
  have agrees : ∀ s ∈ handlerReads (receivedBytes p) (receivedSize p),
      AgreeOn (receivedBytes p) (receivedBuffer [] p) s :=
    fun s mem i le lt => (receivedBuffer_agrees [] p (passes.covered s mem) i le lt).symm
  obtain ⟨tag, crc⟩ := (frameOk_congr agrees).mpr (passes.frameOk [])
  have mem : textSpan (receivedSize p) ∈ handlerReads (receivedBytes p) (receivedSize p) := by
    unfold handlerReads
    rw [if_neg (not_not.mpr tag), if_neg (not_not.mpr crc)]
    simp
  have inside := passes.covered _ mem
  simp only [textSpan] at inside
  unfold textEnd
  omega

/-- It passes on every agent, and its request is the same there. -/
theorem received_settled {parser : ExtJsonParser} {p : Bytes} (passes : Passes parser p)
    (full : parser.json.tokens.length = extJsonTokenSize) :
    (received parser p).2 = true ∧
      SameRequest (received (freshAgent parser) p).1.toRequest (received parser p).1.toRequest ∧
      SameTokens (textEnd p) (received (freshAgent parser) p).1.json (received parser p).1.json := by
  have fresh : (freshAgent parser).json.tokens.length = extJsonTokenSize := List.length_replicate
  have check (q : ExtJsonParser) := checkDatagram_of_frameOk (passes.frameOk q.bufRead) q.toRequest
    (receivedSize p)
  have text : ((swapLength (receivedBuffer (freshAgent parser).bufRead p)).drop
        ipcmdHeaderLength).take (textEnd p) =
      ((swapLength (receivedBuffer parser.bufRead p)).drop ipcmdHeaderLength).take (textEnd p) := by
    have nonempty : ipcmdHeaderLength ≤ receivedSize p := by
      simpa [headerSpan] using passes.covered headerSpan List.mem_cons_self
    rw [drop_swapLength, drop_swapLength]
    refine take_drop_congr (m := receivedSize p) ?_ ?_
    · rw [take_receivedBuffer, take_receivedBuffer]
    · unfold textEnd
      omega
  have ok : (checkDatagram (receivedBuffer (freshAgent parser).bufRead p)
      (freshAgent parser).toRequest (receivedSize p)).2 = true := passes.ok
  have settled := passes.settled
  obtain ⟨-, json⟩ := checkDatagram_ok ok
  have json_eq : (received (freshAgent parser) p).1.json = _ := json
  rw [json_eq] at settled ⊢
  rw [check] at ok
  obtain ⟨ok', same⟩ := @extJsonRequestParseCommand_congr
    { (freshAgent parser).toRequest with
      report := { (freshAgent parser).report with msg := [] } }
    { parser.toRequest with report := { parser.report with msg := [] } }
    _ _ _ _ rfl fresh full text passes.text_le ok settled
  rw [← check parser] at ok' same
  rw [← check (freshAgent parser)] at same
  refine ⟨ok', same, ?_⟩
  obtain ⟨-, json'⟩ := checkDatagram_ok ok'
  have json_eq' : (received parser p).1.json = _ := json'
  rw [json_eq']
  exact sameTokens_ofText text passes.text_le fresh full

end LwipExt.UdpCmd
