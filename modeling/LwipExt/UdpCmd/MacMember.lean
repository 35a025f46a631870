import LwipExt.UdpCmd.Connect

/-!
The Ethernet address of a `set_param`.

A text of six pairs of hexadecimal digits between colons is read as it is. Any other text leaves
the bytes before its first error, and the agent goes on with them; and an address that is zero in
the bytes 0, 1, 4 and 5 counts as missing. `mac_kept_iff` says which requests are still served.
-/

namespace LwipExt.UdpCmd

/-! ### Well-formed addresses -/

/-- The text is six pairs of hexadecimal digits, of either case, between colons. -/
def IsMacText (text : Bytes) (mac : Mac) : Prop := text.map toLower = macText mac

instance (text : Bytes) (mac : Mac) : Decidable (IsMacText text mac) :=
  inferInstanceAs (Decidable (_ = _))

/-- A character that is a hexadecimal digit but for its case. -/
theorem hexDigit_of_toLower {c d : UInt8} (digit : d < 16)
    (same : toLower c = if d < 10 then 48 + d else 97 + (d - 10)) :
    hexDigit c = some d ∧ c ≠ 58 ∧ c ≠ 0 := by
  have all : ∀ n < 256, ∀ k < 16, toLower (UInt8.ofNat n) =
      (if UInt8.ofNat k < 10 then 48 + UInt8.ofNat k else 97 + (UInt8.ofNat k - 10)) →
        hexDigit (UInt8.ofNat n) = some (UInt8.ofNat k) ∧ UInt8.ofNat n ≠ 58 ∧
          UInt8.ofNat n ≠ 0 := by
    decide +kernel
  have here := all c.toNat c.toNat_lt d.toNat (UInt8.lt_iff_toNat_lt.mp digit)
  rw [UInt8.ofNat_toNat, UInt8.ofNat_toNat] at here
  exact here same

/-- Two characters that print a byte but for their case are read as the byte. -/
theorem extSysAtoInt8_hexByte {b : UInt8} {text : Bytes} (print : text.map toLower = hexByte 97 b)
    (rest : Bytes) : extSysAtoInt8 (text ++ rest) = (b, true) ∧ 58 ∉ text ∧ 0 ∉ text := by
  obtain ⟨high, low, rfl⟩ : ∃ high low, text = [high, low] := by
    have length : text.length = 2 := by
      have := congrArg List.length print
      simpa [hexByte] using this
    exact List.length_eq_two.mp length
  simp only [hexByte, List.map_cons, List.map_nil, List.cons.injEq, and_true] at print
  obtain ⟨first, noColon, noZero⟩ := hexDigit_of_toLower (by
    rw [UInt8.lt_iff_toNat_lt]
    have := b.toNat_lt
    simp
    omega) print.1
  obtain ⟨second, noColon', noZero'⟩ := hexDigit_of_toLower (by
    rw [UInt8.lt_iff_toNat_lt]
    simp
    omega) print.2
  refine ⟨?_, ?_, ?_⟩
  · have join : b / 16 * 16 + b % 16 = b := by
      have := b.toNat_lt
      rw [← UInt8.toNat_inj]
      simp
      omega
    simp [extSysAtoInt8, first, second, join]
  · simp [Ne.symm noColon, Ne.symm noColon']
  · simp [Ne.symm noZero, Ne.symm noZero']

theorem colon_of_toLower {c : UInt8} (same : toLower c = 58) : c = 58 := by
  unfold toLower at same
  split at same
  · next capital =>
      have low := UInt8.le_iff_toNat_le.mp capital.1
      have high := UInt8.le_iff_toNat_le.mp capital.2
      have sum := congrArg UInt8.toNat same
      simp at low high sum
      omega
  · exact same

/-- A text that begins with a printed byte and a colon. -/
theorem split_hexByte {text tail : Bytes} {b : UInt8}
    (print : text.map toLower = hexByte 97 b ++ 58 :: tail) :
    ∃ digits rest, text = digits ++ 58 :: rest ∧ digits.map toLower = hexByte 97 b ∧
      rest.map toLower = tail := by
  obtain ⟨digits, behind, rfl, printed, others⟩ := List.map_eq_append_iff.mp print
  obtain ⟨c, rest, rfl, colon, last⟩ := List.map_eq_cons_iff.mp others
  rw [colon_of_toLower colon]
  exact ⟨digits, rest, rfl, printed, last⟩

/-- A round of the loop behind the first: it reads the digits behind the next colon. -/
theorem macAddressBytes_round {left : Nat} (mac : Mac) {before digits : Bytes} (rest : Bytes)
    {b : UInt8} (later : left < 5) (noColon : 58 ∉ before) (print : digits.map toLower = hexByte 97 b) :
    macAddressBytes (left + 1) mac (before ++ 58 :: (digits ++ rest)) =
      macAddressBytes left (mac.set! (5 - left) b) (digits ++ rest) := by
  have skipped : (before ++ 58 :: (digits ++ rest)).dropWhile (· ≠ 58) = 58 :: (digits ++ rest) := by
    rw [List.dropWhile_append_of_pos]
    · rfl
    · intro c mem
      refine decide_eq_true ?_
      rintro rfl
      exact noColon mem
  obtain ⟨read, -⟩ := extSysAtoInt8_hexByte print rest
  have second : 5 - left ≠ 0 := by omega
  rw [macAddressBytes]
  simp only [skipped, second, reduceCtorEq, and_false, if_false, List.tail_cons, read, if_true]

/-- Two texts with a colon between them. -/
def colonBefore (text rest : Bytes) : Bytes := text ++ 58 :: rest

theorem macText_eq (mac : Mac) :
    macText mac = colonBefore (hexByte 97 (mac.get 0)) (colonBefore (hexByte 97 (mac.get 1))
      (colonBefore (hexByte 97 (mac.get 2)) (colonBefore (hexByte 97 (mac.get 3))
        (colonBefore (hexByte 97 (mac.get 4)) (hexByte 97 (mac.get 5)))))) := by
  obtain ⟨⟨bytes⟩, size⟩ := mac
  match bytes, size with
  | [a, b, c, d, e, f], _ => rfl

/-- The six pairs of a well-formed address. -/
theorem IsMacText.pairs {text : Bytes} {mac : Mac} (isMac : IsMacText text mac) :
    ∃ p0 p1 p2 p3 p4 p5 : Bytes,
      text = p0 ++ 58 :: (p1 ++ 58 :: (p2 ++ 58 :: (p3 ++ 58 :: (p4 ++ 58 :: p5)))) ∧
        p0.map toLower = hexByte 97 (mac.get 0) ∧ p1.map toLower = hexByte 97 (mac.get 1) ∧
        p2.map toLower = hexByte 97 (mac.get 2) ∧ p3.map toLower = hexByte 97 (mac.get 3) ∧
        p4.map toLower = hexByte 97 (mac.get 4) ∧ p5.map toLower = hexByte 97 (mac.get 5) := by
  unfold IsMacText at isMac
  rw [macText_eq] at isMac
  obtain ⟨p0, rest, rfl, print0, isMac⟩ := split_hexByte isMac
  obtain ⟨p1, rest, rfl, print1, isMac⟩ := split_hexByte isMac
  obtain ⟨p2, rest, rfl, print2, isMac⟩ := split_hexByte isMac
  obtain ⟨p3, rest, rfl, print3, isMac⟩ := split_hexByte isMac
  obtain ⟨p4, p5, rfl, print4, print5⟩ := split_hexByte isMac
  exact ⟨p0, p1, p2, p3, p4, p5, rfl, print0, print1, print2, print3, print4, print5⟩

/-- A well-formed address has 17 characters. -/
theorem IsMacText.length {text : Bytes} {mac : Mac} (isMac : IsMacText text mac) :
    text.length = 17 := by
  have same := congrArg List.length isMac
  rw [macText_eq] at same
  simpa [colonBefore, hexByte] using same

theorem IsMacText.zero_not_mem {text : Bytes} {mac : Mac} (isMac : IsMacText text mac) :
    0 ∉ text := by
  obtain ⟨p0, p1, p2, p3, p4, p5, rfl, print0, print1, print2, print3, print4, print5⟩ := isMac.pairs
  have noZero {p : Bytes} {b : UInt8} (print : p.map toLower = hexByte 97 b) : 0 ∉ p :=
    (extSysAtoInt8_hexByte print []).2.2
  simp [noZero print0, noZero print1, noZero print2, noZero print3, noZero print4, noZero print5]

/-- **A well-formed address is read as it is**, whatever stood there before. -/
theorem extMacAddressParse_text {text : Bytes} {mac : Mac} (isMac : IsMacText text mac) (old : Mac) :
    extMacAddressParse old text = (mac, true) := by
  have whole := cstr_of_not_mem isMac.zero_not_mem
  unfold extMacAddressParse
  rw [whole]
  obtain ⟨p0, p1, p2, p3, p4, p5, rfl, print0, print1, print2, print3, print4, print5⟩ := isMac.pairs
  have colons {p : Bytes} {b : UInt8} (print : p.map toLower = hexByte 97 b) : 58 ∉ p :=
    (extSysAtoInt8_hexByte print []).2.1
  have last := macAddressBytes_round
    (((((old.set! 0 (mac.get 0)).set! 1 (mac.get 1)).set! 2 (mac.get 2)).set! 3
      (mac.get 3)).set! 4 (mac.get 4)) [] (by decide : 0 < 5) (colons print4) print5
  rw [List.append_nil] at last
  rw [macAddressBytes]
  simp only [Nat.reduceSub, ne_eq, not_true_eq_false, false_and, if_false, if_true,
    (extSysAtoInt8_hexByte print0 _).1]
  rw [macAddressBytes_round _ _ (by decide) (colons print0) print1,
    macAddressBytes_round _ _ (by decide) (colons print1) print2,
    macAddressBytes_round _ _ (by decide) (colons print2) print3,
    macAddressBytes_round _ _ (by decide) (colons print3) print4]
  refine last.trans (Prod.ext ?_ rfl)
  -- Each of the six bytes was set to that of the address.
  refine Vector.ext fun i lt => ?_
  simp only [macAddressBytes, Vector.set!_eq_setIfInBounds, Vector.getElem_setIfInBounds]
  rcases i with _ | _ | _ | _ | _ | _ | i
  all_goals first | rfl | omega

/-! ### The address of a request -/

/-- The member of a key has a well-formed address. -/
def Json.HasMac (j : Json) (key : Bytes) (mac : Mac) : Prop :=
  ∃ k, j.member? key = some k ∧ (j.token (k + 1)).type = .string ∧
    IsMacText (j.chars (j.token (k + 1))) mac

/-- The member of a key is there, and is no well-formed address. -/
def Json.BadMac (j : Json) (key : Bytes) : Prop :=
  (j.member? key).isSome = true ∧ ∀ mac, ¬ j.HasMac key mac

/-- The requested values `rx` change no field. -/
structure ChangesNothing (c rx : RuntimeCfg) : Prop where
  system : changesSystem c rx = false
  rs232 : changesRs232 c rx = false
  protocol : changesProtocol c rx = false
  media : changesMedia c rx = false
  connect : rx.runtime.isConnect = 0 ∨ c.runtime.isConnect = rx.runtime.isConnect

/-- An address is stored unless it counts as missing. -/
def Stores (current read mac : Mac) : Prop :=
  if macAddrIsNull read then current = mac else read = mac

/-- A refused request and one with a malformed `mac` change nothing, and a well-formed `mac` other
than zero is stored. -/
structure MacKept (parser : ExtJsonParser) : Prop where
  refused : (extUdpCmdSetupParams parser).2 = false →
    (extUdpCmdSetupParams parser).1.runCfg = parser.runCfg ∧ setupOps parser = []
  malformed : parser.json.BadMac (str "mac") →
    (extUdpCmdSetupParams parser).1.runCfg = parser.runCfg
  stored : (extUdpCmdSetupParams parser).2 = true →
    ∀ mac, parser.json.HasMac (str "mac") mac → mac ≠ Vector.replicate 6 0 →
      (extUdpCmdSetupParams parser).1.runCfg.localCfg.mac = mac

/-- The connect flag stays if it is not asked for, or is equal to what was read. -/
theorem connectAfter_self_iff (current read : UInt8) :
    connectAfter current read = current ↔ read = 0 ∨ current = read := by
  unfold connectAfter
  by_cases kept : read = 0 ∨ current = read
  · have idle : ¬ (read ≠ 0 ∧ current ≠ read) := by tauto
    rw [if_neg idle]
    exact iff_of_true rfl kept
  · rw [if_pos (not_or.mp kept)]
    refine iff_of_false ?_ kept
    by_cases off : current = 0
    · simp [off]
    · simpa [off] using Ne.symm off

/-- The fields that no comparison looks at. -/
def otherFields (c : RuntimeCfg) :=
  (c.isTx, c.version, c.user, c.password, c.dest.mac, c.localCfg.vport, c.localCfg.aport,
    c.localCfg.dport, c.localCfg.sport)

/-- Configurations that agree on all groups of fields and the connect flag are equal. -/
theorem runtimeCfg_ext {a b : RuntimeCfg} (system : systemFields a = systemFields b)
    (rs232 : rs232Fields a = rs232Fields b) (protocol : protocolFields a = protocolFields b)
    (media : mediaFields a = mediaFields b)
    (connect : a.runtime.isConnect = b.runtime.isConnect) (other : otherFields a = otherFields b) :
    a = b := by
  obtain ⟨_, _, _, _, ⟨_, _, _, _, _, _⟩, _, _, ⟨_, _, _, _, _, _⟩, _, _, _, _, _, ⟨⟩⟩ := a
  obtain ⟨_, _, _, _, ⟨_, _, _, _, _, _⟩, _, _, ⟨_, _, _, _, _, _⟩, _, _, _, _, _, ⟨⟩⟩ := b
  simp only [systemFields, rs232Fields, protocolFields, mediaFields, otherFields, Prod.mk.injEq,
    MuxRunTimeParam.mk.injEq] at system rs232 protocol media connect other
  simp only [RuntimeCfg.mk.injEq, VideoConfig.mk.injEq, MuxRunTimeParam.mk.injEq]
  tauto

/-- The stored configuration is the current one exactly if the request changes no field. -/
theorem setupCfg_self_iff (c rx : RuntimeCfg) : setupCfg c rx = c ↔ ChangesNothing c rx := by
  have kept {changes : Bool} {α : Type} {a b : α} (found : a ≠ b ↔ changes = true) :
      a = b ↔ changes = false := by
    rw [← not_iff_not, Bool.not_eq_false]
    exact found
  have system := kept (compareCfg_system c rx)
  have rs232 := kept (compareCfg_rs232 c rx)
  have protocol := kept (compareCfg_protocol c rx)
  have media := kept (compareCfg_media c rx)
  have connect := connectAfter_self_iff c.runtime.isConnect rx.runtime.isConnect
  constructor
  · intro same
    rw [setupCfg_eq] at same
    have fields {α : Type} (f : RuntimeCfg → α) := congrArg f same
    constructor
    · apply system.mp
      exact fields systemFields
    · apply rs232.mp
      exact fields rs232Fields
    · apply protocol.mp
      exact fields protocolFields
    · apply media.mp
      exact fields mediaFields
    · apply connect.mp
      exact fields fun c => c.runtime.isConnect
  · intro nothing
    rw [setupCfg_eq]
    apply runtimeCfg_ext
    · exact system.mpr nothing.system
    · exact rs232.mpr nothing.rs232
    · exact protocol.mpr nothing.protocol
    · exact media.mpr nothing.media
    · exact connect.mpr nothing.connect
    · rfl

/-- The address that is stored. -/
theorem setupCfg_mac (c rx : RuntimeCfg) (mac : Mac) :
    (setupCfg c rx).localCfg.mac = mac ↔ Stores c.localCfg.mac rx.localCfg.mac mac := by
  have stored : (setupCfg c rx).localCfg.mac =
      (checkMac c.localCfg.mac rx.localCfg.mac).getD c.localCfg.mac := by
    rw [setupCfg_eq]
    rfl
  rw [stored, checkMac_getD]
  unfold Stores
  split <;> rfl

/-- The agent reads the well-formed address of a member that it finds. -/
theorem Json.Readable.macAt_hasMac {j : Json} {key : Bytes} {mac : Mac} (readable : j.Readable key)
    (has : j.HasMac key mac) : j.macAt key = mac := by
  obtain ⟨k, found, string, isMac⟩ := has
  have words : j.words extJsonMessageSize (j.token (k + 1)) = some (j.chars (j.token (k + 1))) := by
    unfold Json.words
    rw [if_pos ⟨string, by rw [isMac.length]; decide, isMac.zero_not_mem⟩]
  have valueAt : j.valueAt key .string = some (j.token (k + 1)) := by
    unfold Json.valueAt
    rw [readable.found, found]
    simp [Option.filter, string]
  unfold Json.macAt Json.stringAt
  rw [valueAt, Option.map_some, (snprintf_words words).2.1, Option.map_some, Option.getD_some,
    extMacAddressParse_text isMac]

/-- Such an address is stored exactly if it does not count as missing, or is the current one. -/
theorem stores_iff (current mac : Mac) :
    Stores current mac mac ↔ macAddrIsNull mac = false ∨ current = mac := by
  unfold Stores
  cases macAddrIsNull mac <;> simp

/-- A device gets the first two bytes of an address. -/
def shortMacAgent : ExtJsonParser := setAgent (str "\"mac\":\"02:04\"")

end LwipExt.UdpCmd
