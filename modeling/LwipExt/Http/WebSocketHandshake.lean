import LwipExt.Http.WebSocket
import LwipExt.CString

/-!
The opening handshake of a WebSocket connection.

`extHttpWebSocketParseHeader` searches the memory from the request on as a C string, assigns the
type of the request before it has seen the key, and answers a missing key with a close frame. So
it does what a handshake asks for only under a condition on the received bytes
(`parses_handshake_iff`).
-/

namespace LwipExt.Http

open Lib

/-! ### Handshakes -/

/-- The lines of a complete header block, with their ends: what is before the first empty line. -/
def headerBlock (received : Bytes) : Option Bytes :=
  (findSub crlfcrlf received).map fun i => received.take (i + crlf.length)

/-- A line of a header block, after the request line. -/
def HeaderLine (block line : Bytes) : Prop :=
  (∃ before behind, block = before ++ crlf ++ line ++ crlf ++ behind) ∧ ¬ crlf <:+: line

/-- A key that is not empty and fits the work buffer with the GUID and its NUL. -/
structure Usable (key : Bytes) : Prop where
  nonempty : key ≠ []
  fits : key.length + sizeofGuid < uriBufSize

/-- The bytes are a request with a complete header block that asks for an upgrade with the key. -/
structure Handshake (received key : Bytes) : Prop where
  asked : ∃ block, headerBlock received = some block ∧
    (∃ line, HeaderLine block line ∧ line.map toLower = (str "Upgrade: websocket").map toLower) ∧
    ∃ name, HeaderLine block (name ++ key) ∧ name.map toLower = webSocketKey.map toLower
  usable : Usable key

/-! ### The accept value -/

/-- `WEBSOCKET_GUID`. -/
def webSocketGuid : Bytes := str "258EAFA5-E914-47DA-95CA-C5AB0DC85B11"

/-- `mhc->uri` once the key and the GUID with its NUL were copied there. -/
def keyBuffer (uri key : Bytes) : Bytes :=
  bufWrite (bufWrite uri 0 key) key.length (webSocketGuid ++ [0])

/-- The accept value, from `mhc->uri` and the length that is passed to `sha1`. -/
def acceptComputed (sha1 base64 : Bytes → Bytes) (uri key : Bytes) : Bytes :=
  base64 (sha1 (bufRead (keyBuffer uri key) 0 (key.length + (sizeofGuid - 1))))

/-- The bytes that are hashed are the key and the GUID. -/
theorem acceptComputed_eq (sha1 base64 : Bytes → Bytes) (uri key : Bytes) :
    acceptComputed sha1 base64 uri key = base64 (sha1 (key ++ webSocketGuid)) := by
  have guid : Holds (keyBuffer uri key) key.length webSocketGuid := Holds.written _ _ _ [0]
  have start : Holds (bufWrite uri 0 key) 0 key := by
    have written := Holds.written uri 0 key []
    rwa [List.append_nil] at written
  have both : Holds (keyBuffer uri key) 0 (key ++ webSocketGuid) := by
    refine (start.kept (.inl (Nat.zero_add _).le)).append ?_
    rwa [Nat.zero_add]
  have length : key.length + (sizeofGuid - 1) = (key ++ webSocketGuid).length := by
    rw [List.length_append]
    rfl
  rw [acceptComputed, length, both.read]

/-- A site whose accept values are computed in `mhc->uri`. -/
def Site.withHash (site : Site) (sha1 base64 : Bytes → Bytes) : Site :=
  { site with acceptKey := acceptComputed sha1 base64 [] }

/-- The response of a handshake. -/
def switchingProtocols (sha1 base64 : Bytes → Bytes) (key : Bytes) : Bytes :=
  webSocketResponseHeader ++ base64 (sha1 (key ++ webSocketGuid)) ++ crlfcrlf

/-! ### The search for the key -/

/-- The first name of the key header in a text is followed by the key and a CRLF. -/
def FirstKey (text key : Bytes) : Prop :=
  ∃ before name behind, text = before ++ name ++ key ++ crlf ++ behind ∧
    name.map toLower = webSocketKey.map toLower ∧
    ¬ webSocketKey.map toLower <:+: ((before ++ name).map toLower).dropLast ∧
    ¬ crlf <:+: (key ++ crlf).dropLast

theorem length_webSocketKey : webSocketKey.length = 19 := rfl

theorem webSocketKey_lower : webSocketKey.map toLower ≠ [] ∧ 0 ∉ webSocketKey.map toLower := by
  decide +kernel

/-- Where a name in any case was found, it stands. -/
theorem strcasestr_key {text : Bytes} {start : Nat} :
    strcasestr text webSocketKey = some start ↔
      ∃ before name rest, text = before ++ name ++ rest ∧ before.length = start ∧ 0 ∉ before ∧
        name.map toLower = webSocketKey.map toLower ∧
        ¬ webSocketKey.map toLower <:+: ((before ++ name).map toLower).dropLast := by
  rw [strcasestr, strstr, if_neg webSocketKey_lower.1,
    findBefore_eq_some_iff webSocketKey_lower.1 webSocketKey_lower.2]
  constructor
  · rintro ⟨before', rest', whole, rfl, clean, first⟩
    obtain ⟨front, rest, rfl, front_eq, rfl⟩ := List.map_eq_append_iff.mp whole
    obtain ⟨before, name, rfl, rfl, named⟩ := List.map_eq_append_iff.mp front_eq
    refine ⟨before, name, rest, rfl, (List.length_map toLower).symm, fun mem => ?_, named, ?_⟩
    · exact clean (List.mem_map.mpr ⟨0, mem, rfl⟩)
    · rwa [List.map_append, named]
  · rintro ⟨before, name, rest, rfl, rfl, clean, named, first⟩
    refine ⟨before.map toLower, rest.map toLower, ?_, List.length_map toLower, ?_, ?_⟩
    · rw [List.map_append, List.map_append, named]
    · exact zero_not_mem_map_toLower clean
    · rwa [List.map_append, named] at first

theorem keyOf_cstr (text : Bytes) : keyOf (cstr text) = keyOf text := by
  have noZero : 0 ∉ webSocketKey := by decide +kernel
  have ends : (0 : UInt8) ∉ crlf := by decide
  unfold keyOf
  rw [strcasestr_cstr _ noZero]
  cases named : strcasestr text webSocketKey with
  | none => rfl
  | some start =>
      rw [← strcasestr_cstr _ noZero] at named
      obtain ⟨before, name, rest, whole, rfl, -, same, -⟩ := strcasestr_key.mp named
      have length : name.length = webSocketKey.length := by
        rw [← List.length_map toLower, same, List.length_map]
      have inside : before.length + webSocketKey.length ≤ (cstr text).length := by
        rw [whole, List.length_append, List.length_append]
        omega
      simp only
      rw [← cstr_drop inside]
      generalize text.drop (before.length + webSocketKey.length) = value
      rw [strstr_cstr value ends]
      cases ended : strstr value crlf with
      | none => rfl
      | some n =>
          rw [← strstr_cstr value ends, strstr, if_neg (by decide)] at ended
          have short := findBefore_lt_length ended
          have front : cstr value <+: value := List.takeWhile_prefix _
          obtain ⟨more, split⟩ := front
          conv_rhs => rw [← split, Option.map_some, List.take_append_of_le_length short.le]
          rfl

/-- What the search for the key finds. -/
theorem keyOf_eq_some_iff {text key : Bytes} :
    keyOf text = some key ↔ FirstKey (cstr text) key := by
  rw [← keyOf_cstr]
  have clean := zero_not_mem_cstr text
  generalize cstr text = text at clean
  have value {before name rest : Bytes} (same : name.map toLower = webSocketKey.map toLower) :
      (before ++ name ++ rest).drop (before.length + webSocketKey.length) = rest := by
    have length : name.length = webSocketKey.length := by
      rw [← List.length_map toLower, same, List.length_map]
    rw [← length, ← List.length_append, List.drop_left]
  have ends : (0 : UInt8) ∉ crlf := by decide
  constructor
  · intro found
    unfold keyOf at found
    cases named : strcasestr text webSocketKey with
    | none =>
        rw [named] at found
        cases found
    | some start =>
        rw [named] at found
        obtain ⟨n, ended, rfl⟩ := Option.map_eq_some_iff.mp found
        obtain ⟨before, name, rest, rfl, rfl, -, same, first⟩ := strcasestr_key.mp named
        rw [value same, strstr, if_neg (by decide),
          findBefore_eq_some_iff (by decide) ends] at ended
        obtain ⟨key, behind, rfl, rfl, -, last⟩ := ended
        rw [value same, List.append_assoc key, List.take_left]
        exact ⟨before, name, behind, by simp only [List.append_assoc], same, first, last⟩
  · rintro ⟨before, name, behind, rfl, same, first, last⟩
    have cleanBefore : 0 ∉ before := fun mem => clean (by simp [mem])
    have cleanKey : 0 ∉ key := fun mem => clean (by simp [mem])
    have split : before ++ name ++ key ++ crlf ++ behind =
        before ++ name ++ (key ++ crlf ++ behind) := by
      simp only [List.append_assoc]
    have named := strcasestr_key.mpr ⟨before, name, key ++ crlf ++ behind, split, rfl, cleanBefore,
      same, first⟩
    have ended : strstr (key ++ crlf ++ behind) crlf = some key.length := by
      rw [strstr, if_neg (by decide), findBefore_eq_some_iff (by decide) ends]
      exact ⟨key, behind, rfl, rfl, cleanKey, last⟩
    unfold keyOf
    rw [named]
    simp only
    rw [split, value same, ended, Option.map_some, List.append_assoc key, List.take_left]

theorem FirstKey.append {text key : Bytes} (found : FirstKey text key) (rest : Bytes) :
    FirstKey (text ++ rest) key := by
  obtain ⟨before, name, behind, rfl, same, first, last⟩ := found
  exact ⟨before, name, behind ++ rest, by simp only [List.append_assoc], same, first, last⟩

/-- A key that is found is found whatever lies behind the text. -/
theorem keyOf_append {text key : Bytes} (found : keyOf text = some key) (rest : Bytes) :
    keyOf (text ++ rest) = some key := by
  rw [keyOf_eq_some_iff] at found ⊢
  rw [cstr_append]
  split_ifs with zero
  · exact found
  · rw [cstr_of_not_mem zero] at found
    exact found.append _

/-! ### What the function does -/

/-- The line with its CRLF stands before the first NUL, wherever that is in a line. -/
def AsksUpgrade (received : Bytes) : Prop :=
  webSocketHeader.map toLower <:+: (cstr received).map toLower

theorem asksUpgrade_iff (text : Bytes) :
    (strcasestr text webSocketHeader).isSome ↔ AsksUpgrade text := by
  have nonempty : webSocketHeader ≠ [] := by decide +kernel
  have noZero : 0 ∉ webSocketHeader := by decide +kernel
  exact strcasestr_isSome_iff nonempty noZero text

theorem tcpWriteDirect_accepted (ss : Session) (bytes : Bytes) :
    (tcpWriteDirect ss bytes).1.io.accepted = ss.io.accepted ++
      if tcpWrite ss.io.tcp.sndBuf bytes.length (ss.io.tcp.outcomes.headD .accept) = .ok then bytes
      else [] := by
  simp only [tcpWriteDirect]
  split_ifs
  · rw [List.take_length]
  · rw [List.take_zero]

section Parse

variable {site : Site} {ss : Session} {text : Bytes}

theorem parseHeader_other (other : ¬ AsksUpgrade text) :
    extHttpWebSocketParseHeader site ss text = (ss, false) := by
  rw [extHttpWebSocketParseHeader, if_pos]
  rw [Option.isNone_iff_eq_none, ← Option.not_isSome_iff_eq_none]
  exact fun found => other ((asksUpgrade_iff text).mp found)

/-- The session after the response to a usable key. -/
def switched (site : Site) (ss : Session) (key : Bytes) : Session :=
  let response := webSocketResponseHeader ++ site.acceptKey key ++ crlfcrlf
  (tcpWriteDirect { ss with mhc := { ss.mhc with
    reqType := .webSocket
    uri := site.acceptKey key
    data := bufWrite ss.mhc.data 0 (response ++ [0]) } } response).1

theorem parseHeader_usable {key : Bytes} (asks : AsksUpgrade text) (found : keyOf text = some key)
    (usable : Usable key) :
    extHttpWebSocketParseHeader site ss text = (switched site ss key, true) := by
  have fits : key.length + sizeofGuid < uriBufSize ∧ 0 < key.length :=
    ⟨usable.fits, List.length_pos_of_ne_nil usable.nonempty⟩
  have some := (asksUpgrade_iff text).mpr asks
  rw [extHttpWebSocketParseHeader, if_neg (by simpa [Option.isSome_iff_ne_none] using some)]
  simp only [found]
  rw [if_pos fits]
  rfl

/-- Without a usable key the connection is a WebSocket connection, and a close frame is sent. -/
theorem parseHeader_refused (asks : AsksUpgrade text)
    (refused : ∀ key, keyOf text = some key → ¬ Usable key) :
    extHttpWebSocketParseHeader site ss text =
      ((extHttpWebSocketSendClose (ss.set fun mhc => { mhc with reqType := .webSocket })).1,
        true) := by
  have some := (asksUpgrade_iff text).mpr asks
  rw [extHttpWebSocketParseHeader, if_neg (by simpa [Option.isSome_iff_ne_none] using some)]
  cases found : keyOf text with
  | none => rfl
  | some key =>
      have notFits : ¬ (key.length + sizeofGuid < uriBufSize ∧ 0 < key.length) := fun fits =>
        refused key found ⟨List.ne_nil_of_length_pos fits.2, fits.1⟩
      simp only
      rw [if_neg notFits]

end Parse

/-! ### What it should do -/

section Run

variable (sha1 base64 : Bytes → Bytes) (site : Site) (ss : Session) (received : Bytes)

/-- The run on received bytes, with the memory behind them. -/
def headerRun (behind : Bytes) : Session × Bool :=
  extHttpWebSocketParseHeader (site.withHash sha1 base64) ss (received ++ behind)

/-- The run depends on the received bytes only, makes the connection a WebSocket connection
exactly for a handshake, and sends the response to a handshake and nothing else. -/
structure ParsesHandshake : Prop where
  confined : ∀ behind behind', headerRun sha1 base64 site ss received behind =
    headerRun sha1 base64 site ss received behind'
  becomes : ∀ behind, (headerRun sha1 base64 site ss received behind).1.mhc.reqType = .webSocket ↔
    ∃ key, Handshake received key
  answered : ∀ behind, (∃ key, Handshake received key) → ∃ key, Handshake received key ∧
    (headerRun sha1 base64 site ss received behind).1.io.accepted =
      ss.io.accepted ++ switchingProtocols sha1 base64 key
  silent : ∀ behind, (¬ ∃ key, Handshake received key) →
    (headerRun sha1 base64 site ss received behind).1.io.accepted = ss.io.accepted

/-- A handshake that the search finds: the first name of the key header before the first NUL is
followed by a usable key with the same accept value, and TCP takes the response. -/
structure FoundHandshake (key : Bytes) : Prop where
  handshake : Handshake received key
  asks : AsksUpgrade received
  first : ∃ key', FirstKey (cstr received) key' ∧ Usable key' ∧
    switchingProtocols sha1 base64 key' = switchingProtocols sha1 base64 key
  taken : tcpWrite ss.io.tcp.sndBuf (switchingProtocols sha1 base64 key).length
    (ss.io.tcp.outcomes.headD .accept) = .ok

variable {sha1 base64 site ss received}

theorem switched_withHash (key : Bytes) :
    (switched (site.withHash sha1 base64) ss key).io.accepted = ss.io.accepted ++
      if tcpWrite ss.io.tcp.sndBuf (switchingProtocols sha1 base64 key).length
        (ss.io.tcp.outcomes.headD .accept) = .ok then switchingProtocols sha1 base64 key
      else [] := by
  have value : (site.withHash sha1 base64).acceptKey key = base64 (sha1 (key ++ webSocketGuid)) :=
    acceptComputed_eq sha1 base64 [] key
  rw [switched, tcpWriteDirect_accepted]
  simp only [value]
  rfl

/-- Neither nothing nor a close frame is a response. -/
theorem ne_switchingProtocols (key : Bytes) (sent : Prop) [Decidable sent] :
    (if sent then closeFrame else []) ≠ switchingProtocols sha1 base64 key := by
  have start : (switchingProtocols sha1 base64 key).head? = some 72 := rfl
  intro same
  rw [← same] at start
  split at start
  · revert start
    decide
  · cases start

/-- A run that finds a usable key. -/
theorem headerRun_usable {key : Bytes} (asks : AsksUpgrade received)
    (first : FirstKey (cstr received) key) (usable : Usable key) (behind : Bytes) :
    headerRun sha1 base64 site ss received behind =
      (switched (site.withHash sha1 base64) ss key, true) := by
  refine parseHeader_usable ?_ (keyOf_append (keyOf_eq_some_iff.mpr first) behind) usable
  unfold AsksUpgrade at asks ⊢
  rw [cstr_append]
  split_ifs with zero
  · exact asks
  · rw [cstr_of_not_mem zero] at asks
    rw [List.map_append]
    exact asks.trans (List.prefix_append _ _).isInfix

/-- Whatever key is found, the connection becomes a WebSocket connection. -/
theorem headerRun_asks {behind : Bytes} (asks : AsksUpgrade (received ++ behind)) :
    (headerRun sha1 base64 site ss received behind).1.mhc.reqType = .webSocket ∧
      (headerRun sha1 base64 site ss received behind).2 = true := by
  unfold headerRun
  by_cases usable : ∃ key, keyOf (received ++ behind) = some key ∧ Usable key
  · obtain ⟨key, read, usable⟩ := usable
    rw [parseHeader_usable asks read usable]
    exact ⟨rfl, rfl⟩
  · rw [parseHeader_refused asks fun key read fits => usable ⟨key, read, fits⟩]
    exact ⟨rfl, rfl⟩

/-- If the upgrade is found, a response to a handshake means that the handshake is found. -/
theorem FoundHandshake.of_answer {key : Bytes} (asks : AsksUpgrade received)
    (handshake : Handshake received key)
    (sent : (headerRun sha1 base64 site ss received []).1.io.accepted =
      ss.io.accepted ++ switchingProtocols sha1 base64 key) :
    FoundHandshake sha1 base64 ss received key := by
  by_cases usable : ∃ key, FirstKey (cstr received) key ∧ Usable key
  · obtain ⟨key', first, usable⟩ := usable
    rw [headerRun_usable asks first usable, switched_withHash, List.append_cancel_left_eq] at sent
    split_ifs at sent with taken
    · rw [sent] at taken
      exact ⟨handshake, asks, ⟨key', first, usable, sent⟩, taken⟩
    · cases sent
  · -- A close frame is sent, or nothing, and neither is a response.
    have refused : ∀ key, keyOf (received ++ []) = some key → ¬ Usable key := by
      rw [List.append_nil]
      exact fun key found fits => usable ⟨key, keyOf_eq_some_iff.mp found, fits⟩
    have asks' : AsksUpgrade (received ++ []) := by rwa [List.append_nil]
    rw [headerRun, parseHeader_refused asks' refused, extHttpWebSocketSendClose,
      tcpWriteDirect_accepted] at sent
    exact absurd (List.append_cancel_left sent) (ne_switchingProtocols key _)

/-- Without a NUL, the search for the upgrade goes on behind the received bytes. -/
theorem asksUpgrade_behind (noZero : 0 ∉ received) : AsksUpgrade (received ++ webSocketHeader) := by
  have whole : cstr webSocketHeader = webSocketHeader := by decide +kernel
  rw [AsksUpgrade, cstr_append, if_neg noZero, whole, List.map_append]
  exact (List.suffix_append _ _).isInfix

/-- **The function does what a handshake asks for exactly if it finds a handshake, or if there is
no handshake, a NUL is among the received bytes and the upgrade is not found before it.** -/
theorem parses_handshake_iff (fresh : ss.mhc.reqType ≠ .webSocket) :
    ParsesHandshake sha1 base64 site ss received ↔
      (∃ key, FoundHandshake sha1 base64 ss received key) ∨
        (¬ ∃ key, Handshake received key) ∧ ¬ AsksUpgrade received ∧ 0 ∈ received := by
  constructor
  · intro right
    by_cases asks : AsksUpgrade received
    · left
      have asks' : AsksUpgrade (received ++ []) := by rwa [List.append_nil]
      have some := (right.becomes []).mp (headerRun_asks asks').1
      obtain ⟨key, handshake, sent⟩ := right.answered [] some
      exact ⟨key, .of_answer asks handshake sent⟩
    · right
      have plain : headerRun sha1 base64 site ss received [] = (ss, false) := by
        apply parseHeader_other
        rwa [List.append_nil]
      refine ⟨fun some => ?_, asks, ?_⟩
      · have isWebSocket := (right.becomes []).mpr some
        rw [plain] at isWebSocket
        exact fresh isWebSocket
      · by_contra noZero
        obtain ⟨-, found⟩ := @headerRun_asks sha1 base64 site ss received _
          (asksUpgrade_behind noZero)
        rw [right.confined webSocketHeader [], plain] at found
        cases found
  · rintro (⟨key, handshake, asks, ⟨key', first, usable, same⟩, taken⟩ | ⟨none, other, zero⟩)
    · have run := @headerRun_usable sha1 base64 site ss received key' asks first usable
      have sent : (switched (site.withHash sha1 base64) ss key').io.accepted =
          ss.io.accepted ++ switchingProtocols sha1 base64 key := by
        rw [switched_withHash, same, if_pos taken]
      refine ⟨fun behind behind' => ?_, fun behind => ?_, fun behind _ => ⟨key, handshake, ?_⟩,
        fun _ none => absurd ⟨key, handshake⟩ none⟩
      · rw [run, run]
      · rw [run]
        exact iff_of_true rfl ⟨key, handshake⟩
      · rw [run, sent]
    · have same : ∀ behind, headerRun sha1 base64 site ss received behind = (ss, false) := by
        intro behind
        apply parseHeader_other
        rwa [AsksUpgrade, cstr_append, if_pos zero]
      refine ⟨fun behind behind' => ?_, fun behind => ?_, fun _ some => absurd some none,
        fun behind _ => ?_⟩
      · rw [same, same]
      · rw [same]
        exact iff_of_false fresh none
      · rw [same]

end Run

/-- A site that serves nothing. -/
def bareSite : Site where
  files := []
  page _ := []
  nmos _ _ := (webResRequestOk, [])
  acceptKey key := key

/-- A connection with room for any response. -/
def freshSession : Session where
  io := { tcp := .roomy 2920 1460 }
  mhc := {}

/-- The hash of a sample key with the GUID. -/
def sampleDigest : Bytes :=
  [0xb3, 0x7a, 0x4f, 0x2c, 0xc0, 0x62, 0x4f, 0x16, 0x90, 0xf6, 0x46, 0x06, 0xcf, 0x38, 0x59, 0x45,
    0xb2, 0xbe, 0xc4, 0xea]

theorem parses_handshake_sample :
    ParsesHandshake (fun _ => sampleDigest) (fun _ => str "s3pPLMBiTxaQ9kYGzzhZRbK+xOo=") bareSite
      freshSession (str "GET / HTTP/1.1" ++ crlf ++ str "UPGRADE: WebSocket" ++ crlf ++
        webSocketKey ++ str "dGhlIHNhbXBsZSBub25jZQ==" ++ crlfcrlf) := by
  have usable : Usable (str "dGhlIHNhbXBsZSBub25jZQ==") := ⟨by decide +kernel, by decide +kernel⟩
  refine (parses_handshake_iff (by decide)).mpr (.inl ⟨str "dGhlIHNhbXBsZSBub25jZQ==", ?_⟩)
  refine ⟨⟨⟨str "GET / HTTP/1.1" ++ crlf ++ str "UPGRADE: WebSocket" ++ crlf ++
      webSocketKey ++ str "dGhlIHNhbXBsZSBub25jZQ==" ++ crlf, by decide +kernel, ?_, ?_⟩, usable⟩,
    ?_, ⟨_, ?_, usable, rfl⟩, by decide +kernel⟩
  · exact ⟨str "UPGRADE: WebSocket", ⟨⟨str "GET / HTTP/1.1", webSocketKey ++
      str "dGhlIHNhbXBsZSBub25jZQ==" ++ crlf, by decide +kernel⟩, by decide +kernel⟩,
      by decide +kernel⟩
  · exact ⟨webSocketKey, ⟨⟨str "GET / HTTP/1.1" ++ crlf ++ str "UPGRADE: WebSocket", [],
      by decide +kernel⟩, by decide +kernel⟩, rfl⟩
  · unfold AsksUpgrade
    decide +kernel
  · exact ⟨str "GET / HTTP/1.1" ++ crlf ++ str "UPGRADE: WebSocket" ++ crlf, webSocketKey, crlf,
      by decide +kernel, rfl, by decide +kernel, by decide +kernel⟩

/-- Without a key header the connection becomes a WebSocket connection and a close frame is
sent. -/
theorem not_parses_handshake :
    ¬ ∀ (sha1 base64 : Bytes → Bytes) (site : Site) (ss : Session) (received : Bytes),
      ss.mhc.reqType ≠ .webSocket → ParsesHandshake sha1 base64 site ss received := by
  intro all
  have right := all id id bareSite freshSession
    (str "GET / HTTP/1.1" ++ crlf ++ webSocketHeader ++ crlf) (by decide)
  have sent : (headerRun id id bareSite freshSession
      (str "GET / HTTP/1.1" ++ crlf ++ webSocketHeader ++ crlf) []).1.io.accepted =
      closeFrame := by decide +kernel
  by_cases some : ∃ key, Handshake (str "GET / HTTP/1.1" ++ crlf ++ webSocketHeader ++ crlf) key
  · obtain ⟨key, -, answer⟩ := right.answered [] some
    rw [sent] at answer
    exact ne_switchingProtocols key True answer
  · have nothing := right.silent [] some
    rw [sent] at nothing
    cases nothing

end LwipExt.Http
