import LwipExt.UdpCmd.Settled
import LwipExt.UdpCmd.Values
import Mathlib.Data.List.TakeWhile

/-!
What a request asks for, by the members of its objects.

A member has a key and a value; the value is a number, a text, an address or a name and lies
inside the range of its field or outside. Nothing here looks a key up the way the agent
does. Where its lookup is right (`Json.Readable`) the values of `UdpCmd.Values` are those of
the members.
-/

namespace LwipExt.UdpCmd

/-! ### Members -/

instance (j : Json) (key : Bytes) (k : Nat) : Decidable (j.IsMember key k) :=
  decidable_of_iff
    (jsoneq j.text (j.token k) key = true ∧ k + 1 < j.toknext ∧
      (j.container k).any (fun i => (j.token i).type = .object) = true ∧
      ([123, 44] : List UInt8).any (fun c =>
        ((j.text.take (first (j.token k))).filter fun c => ¬ isBlank c).getLast? = some c) = true ∧
      ((j.text.take (first (j.token (k + 1)))).drop ((j.token k).start + key.length + 1)).filter
        (fun c => ¬ isBlank c) = [58])
    (by
      simp only [Option.any_eq_true, List.any_eq_true, decide_eq_true_eq]
      exact ⟨fun ⟨reads, value, object, starts, colon⟩ => ⟨reads, value, object, starts, colon⟩,
        fun ⟨reads, value, object, starts, colon⟩ => ⟨reads, value, object, starts, colon⟩⟩)

/-- The first member with a key, by the number of its key token. -/
def Json.member? (j : Json) (key : Bytes) : Option Nat :=
  (List.range j.toknext).find? fun k => j.IsMember key k

/-- The lookup of a key is right: the first string that reads as the key is the key of a member,
and without one the token left behind the last does not read as the key. -/
structure Json.Readable (j : Json) (key : Bytes) : Prop where
  isKey : ∀ k, j.FirstReading key k → j.IsMember key k
  stale : (∀ k, ¬ j.FirstReading key k) → 0 < j.toknext →
    jsoneq j.text (j.token j.toknext) key = false

section Lookups

variable {j : Json} {key : Bytes}

theorem Json.member?_none (absent : j.member? key = none) (k : Nat) : ¬ j.IsMember key k := by
  intro member
  unfold Json.member? at absent
  rw [List.find?_eq_none] at absent
  have value := member.value
  exact absent k (List.mem_range.mpr (by omega)) (by simpa using member)

theorem Json.member?_some {k : Nat} (found : j.member? key = some k) :
    j.IsMember key k ∧ ∀ i < k, ¬ j.IsMember key i := by
  unfold Json.member? at found
  rw [List.find?_range_eq_some] at found
  obtain ⟨member, -, before⟩ := found
  exact ⟨by simpa using member, fun i less => by simpa using before i less⟩

/-- A lookup that is right finds the value of the first member. -/
theorem Json.Readable.found (readable : j.Readable key) :
    extJsonFindKeyToken j key = (j.member? key).map fun k => j.token (k + 1) := by
  by_cases present : ∃ k, j.FirstReading key k
  · obtain ⟨k, first⟩ := present
    have member := readable.isKey k first
    have found : j.member? key = some k := by
      cases search : j.member? key with
      | none => exact absurd member (Json.member?_none search k)
      | some i =>
          obtain ⟨member', before⟩ := Json.member?_some search
          rcases Nat.lt_trichotomy i k with less | same | more
          · have reads := member'.reads
            simp [first.first i member'.pos less] at reads
          · rw [same]
          · exact absurd member (before k more)
    rw [found, extJsonFindKeyToken_first first.pos first.own.le first.reads first.first]
    rfl
  · have absent (k : Nat) : ¬ j.FirstReading key k := fun first => present ⟨k, first⟩
    have silent (k : Nat) (pos : 0 < k) (less : k < j.toknext) :
        jsoneq j.text (j.token k) key = false := by
      refine Bool.eq_false_iff.mpr fun reads => ?_
      obtain ⟨i, first⟩ := Json.exists_first pos less reads
      exact absent i first
    have none_ : j.member? key = none := by
      cases search : j.member? key with
      | none => rfl
      | some i =>
          obtain ⟨member, -⟩ := Json.member?_some search
          have reads := member.reads
          have value := member.value
          simp [silent i member.pos (by omega)] at reads
    rw [none_, Option.map_none, extJsonFindKeyToken_none]
    intro k pos le
    rcases Nat.lt_or_eq_of_le le with less | last
    · exact silent k pos less
    · rw [last]
      exact readable.stale absent (last ▸ pos)

end Lookups

/-! ### Values -/

/-- What a request says about a field. -/
inductive Asked (α : Type) where
  | absent
  | value (v : α)
  | outside
  deriving DecidableEq

/-- The value of a field that is asked for, or the current one. -/
def Asked.getD {α : Type} (asked : Asked α) (current : α) : α :=
  match asked with
  | .value v => v
  | .absent | .outside => current

/-- A value outside the range of its field. -/
def Asked.isOutside {α : Type} : Asked α → Bool
  | .outside => true
  | .absent | .value _ => false

/-- The value of a key, if it can be read. -/
def Json.asked {α : Type} (j : Json) (key : Bytes) (read : Jsmntok → Option α) : Asked α :=
  match j.member? key with
  | none => .absent
  | some k =>
      match read (j.token (k + 1)) with
      | some v => .value v
      | none => .outside

/-- The characters of a token. -/
def Json.chars (j : Json) (tok : Jsmntok) : Bytes :=
  (j.text.drop tok.start).take (tok.stop.getD 0 - tok.start)

/-- The number a text of digits stands for. -/
def digitsValue (digits : Bytes) : Nat := digits.foldl (fun n c => n * 10 + (c.toNat - 48)) 0

/-- A number: digits, and none behind them. -/
def Json.number (j : Json) (tok : Jsmntok) : Option Nat :=
  if tok.type = .primitive ∧ j.chars tok ≠ [] ∧ (j.chars tok).all isDigit ∧
      ¬ isDigit (jsAt j.text (tok.start + (j.chars tok).length)) then
    some (digitsValue (j.chars tok))
  else none

/-- A text of fewer than `size` characters. -/
def Json.words (j : Json) (size : Nat) (tok : Jsmntok) : Option Bytes :=
  if tok.type = .string ∧ (j.chars tok).length < size ∧ 0 ∉ j.chars tok then some (j.chars tok)
  else none

/-- A number of a field that admits the numbers `admitted`. -/
def Json.askedNumber (j : Json) (key : Bytes) (admitted : Nat → Bool) : Asked Nat :=
  j.asked key fun tok => (j.number tok).filter admitted

/-- An IP address, in the form in which the device prints it. -/
def Json.askedAddress (j : Json) (key : Bytes) : Asked UInt32 :=
  j.asked key fun tok => (j.words extJsonMessageSize tok).bind fun text =>
    if inetNtoa (ipaddrAddr text) = text then some (ipaddrAddr text) else none

/-- The text of an Ethernet address. -/
def macText (mac : Mac) : Bytes := List.intercalate [58] (mac.toList.map (hexByte 97))

/-- An Ethernet address, in the form in which the device prints it or with capitals. -/
def Json.askedMac (j : Json) (key : Bytes) : Asked Mac :=
  j.asked key fun tok => (j.words extJsonMessageSize tok).bind fun text =>
    let mac := (extMacAddressParse (Vector.replicate 6 0) text).1
    if macText mac = text.map toLower then some mac else none

/-- A name of a table, by its number. -/
def Json.askedName (j : Json) (key : Bytes) (table : List (UInt16 × Bytes)) : Asked UInt16 :=
  j.asked key fun tok => (j.words cfgModelSize tok).bind (extCmnTypeFind table)

/-! ### The values of the members -/

theorem isSpace_of_isDigit {c : UInt8} (digit : isDigit c = true) : isSpace c = false := by
  simp only [isDigit, Bool.and_eq_true, decide_eq_true_eq, UInt8.le_iff_toNat_le] at digit
  simp only [isSpace, Bool.or_eq_false_iff, decide_eq_false_iff_not, Bool.and_eq_false_iff,
    UInt8.le_iff_toNat_le, ← UInt8.toNat_inj]
  have nine : (48 : UInt8).toNat = 48 ∧ (57 : UInt8).toNat = 57 ∧ (32 : UInt8).toNat = 32 ∧
      (9 : UInt8).toNat = 9 ∧ (13 : UInt8).toNat = 13 := by decide
  omega

/-- The digits of a text that is followed by none. -/
theorem takeWhile_digits {text : Bytes} {n : Nat} (digits : (text.take n).all isDigit = true)
    (behind : isDigit (jsAt text (text.take n).length) = false) :
    text.takeWhile isDigit = text.take n := by
  induction text generalizing n with
  | nil => simp
  | cons c text ih =>
      cases n with
      | zero =>
          have first : isDigit c = false := behind
          simp [List.takeWhile_cons, first]
      | succ n =>
          simp only [List.take_succ_cons, List.all_cons, Bool.and_eq_true] at digits
          rw [List.takeWhile_cons, if_pos digits.1, List.take_succ_cons, ih digits.2]
          simpa [jsAt] using behind

/-- `sscanf` reads a number as it is, up to the largest it can hold. -/
theorem scanUnsigned_number {j : Json} {tok : Jsmntok} {n : Nat} (number : j.number tok = some n)
    (fits : n ≤ 4294967295) :
    tok.type = .primitive ∧ scanUnsigned (cstr (j.text.drop tok.start)) = some n.toUInt32 := by
  unfold Json.number at number
  split at number
  swap
  · cases number
  rename_i isNumber
  obtain ⟨primitive, some_, digits, behind⟩ := isNumber
  cases number
  refine ⟨primitive, ?_⟩
  have behind : isDigit (jsAt (j.text.drop tok.start) (j.chars tok).length) = false := by
    rw [jsAt, List.getD_eq_getElem?_getD, List.getElem?_drop, ← List.getD_eq_getElem?_getD]
    simpa [jsAt] using behind
  have read : (cstr (j.text.drop tok.start)).takeWhile isDigit = j.chars tok :=
    (takeWhile_isDigit_cstr _).trans (takeWhile_digits digits behind)
  generalize j.chars tok = chars at some_ read fits
  generalize cstr (j.text.drop tok.start) = text at read
  cases text with
  | nil => exact absurd read.symm some_
  | cons c text =>
      have digit : isDigit c = true := by
        by_contra other
        rw [List.takeWhile_cons, if_neg other] at read
        exact some_ read.symm
      have noSign : c ≠ 43 ∧ c ≠ 45 := by
        constructor
        · rintro rfl
          cases digit
        · rintro rfl
          cases digit
      unfold scanUnsigned
      simp only [List.dropWhile_cons, isSpace_of_isDigit digit, Bool.false_eq_true, if_false,
        List.head?_cons, Option.some.injEq, noSign, decide_false, Bool.or_self, read, some_]
      exact if_neg (Nat.not_lt.mpr fits)

/-- A text is copied as it is into an array that has room for it. -/
theorem snprintf_words {j : Json} {size : Nat} {tok : Jsmntok} {text : Bytes}
    (words : j.words size tok = some text) :
    tok.type = .string ∧ snprintf size (j.tokenText tok) = text ∧ text.length < size ∧
      cstr text = text := by
  unfold Json.words at words
  split at words
  swap
  · cases words
  rename_i isText
  obtain ⟨string, short, noZero⟩ := isText
  cases words
  have copied : j.tokenText tok = j.chars tok := by
    unfold Json.tokenText cstr
    rw [List.take_takeWhile]
    exact cstr_of_not_mem noZero
  refine ⟨string, ?_, short, cstr_of_not_mem noZero⟩
  rw [snprintf, copied, List.take_of_length_le (by omega)]

section Readable

variable {j : Json} {key : Bytes}

theorem Json.asked_absent {α : Type} {read : Jsmntok → Option α}
    (absent : j.asked key read = .absent) : j.member? key = none := by
  unfold Json.asked at absent
  cases found : j.member? key with
  | none => rfl
  | some k =>
      rw [found] at absent
      simp only at absent
      split at absent <;> cases absent

theorem Json.asked_value {α : Type} {read : Jsmntok → Option α} {v : α}
    (value : j.asked key read = .value v) :
    ∃ k, j.member? key = some k ∧ read (j.token (k + 1)) = some v := by
  unfold Json.asked at value
  cases found : j.member? key with
  | none =>
      rw [found] at value
      cases value
  | some k =>
      rw [found] at value
      refine ⟨k, rfl, ?_⟩
      simp only at value
      split at value
      · rename_i v' read
        cases value
        exact read
      · cases value

variable (readable : j.Readable key)

include readable

theorem Json.Readable.valueAt_absent {α : Type} {read : Jsmntok → Option α}
    (absent : j.asked key read = .absent) (type : JsmnType) : j.valueAt key type = none := by
  unfold Json.valueAt
  rw [readable.found, Json.asked_absent absent]
  rfl

theorem Json.Readable.valueAt_value {α : Type} {read : Jsmntok → Option α} {v : α}
    (value : j.asked key read = .value v) :
    ∃ tok, read tok = some v ∧ ∀ type, tok.type = type → j.valueAt key type = some tok := by
  obtain ⟨k, found, read⟩ := Json.asked_value value
  refine ⟨_, read, fun type same => ?_⟩
  unfold Json.valueAt
  rw [readable.found, found]
  simp [Option.filter, same]

/-- The number of a member is read as it is. -/
theorem Json.Readable.integerAt_value {admitted : Nat → Bool} {n : Nat}
    (value : j.askedNumber key admitted = .value n) :
    admitted n = true ∧ (n ≤ 4294967295 → j.integerAt key = some n.toUInt32) := by
  obtain ⟨tok, read, valueAt⟩ := readable.valueAt_value value
  obtain ⟨number, inRange⟩ := Option.filter_eq_some_iff.mp read
  refine ⟨inRange, fun fits => ?_⟩
  obtain ⟨primitive, scanned⟩ := scanUnsigned_number number fits
  unfold Json.integerAt
  rw [valueAt _ primitive, Option.bind_some, scanned]

theorem Json.Readable.integerAt_absent {admitted : Nat → Bool}
    (absent : j.askedNumber key admitted = .absent) : j.integerAt key = none := by
  unfold Json.integerAt
  rw [readable.valueAt_absent absent]
  rfl

theorem Json.Readable.stringAt_absent {α : Type} {read : Jsmntok → Option α}
    (absent : j.asked key read = .absent) (size : Nat) : j.stringAt key size = none := by
  unfold Json.stringAt
  rw [readable.valueAt_absent absent]
  rfl

/-- The text of a member is read as it is. -/
theorem Json.Readable.stringAt_value {α : Type} {size : Nat} {f : Bytes → Option α} {v : α}
    (value : j.asked key (fun tok => (j.words size tok).bind f) = .value v) :
    ∃ text, f text = some v ∧ j.stringAt key size = some text ∧ text.length < size ∧
      cstr text = text := by
  obtain ⟨tok, read, valueAt⟩ := readable.valueAt_value value
  obtain ⟨text, words, read⟩ := Option.bind_eq_some_iff.mp read
  obtain ⟨string, copied, short, whole⟩ := snprintf_words words
  refine ⟨text, read, ?_, short, whole⟩
  unfold Json.stringAt
  rw [valueAt _ string, Option.map_some, copied]

theorem Json.Readable.addressAt_value {ip : UInt32} (value : j.askedAddress key = .value ip) :
    j.addressAt key = ip := by
  obtain ⟨text, isAddress, read, -⟩ := readable.stringAt_value value
  unfold Json.addressAt
  rw [read]
  split at isAddress
  · exact Option.some.inj isAddress
  · cases isAddress

theorem Json.Readable.addressAt_absent (absent : j.askedAddress key = .absent) :
    j.addressAt key = ipaddrNone := by
  unfold Json.addressAt
  rw [readable.stringAt_absent absent]
  rfl

theorem Json.Readable.macAt_value {mac : Mac} (value : j.askedMac key = .value mac) :
    j.macAt key = mac := by
  obtain ⟨text, isMac, read, -⟩ := readable.stringAt_value value
  unfold Json.macAt
  rw [read]
  simp only at isMac
  split at isMac
  · exact Option.some.inj isMac
  · cases isMac

theorem Json.Readable.macAt_absent (absent : j.askedMac key = .absent) :
    j.macAt key = Vector.replicate 6 0 := by
  unfold Json.macAt
  rw [readable.stringAt_absent absent]
  rfl

theorem Json.Readable.nameAt_value {table : List (UInt16 × Bytes)} {type : UInt16}
    (named : extCmnTypeFind table [] = none) (value : j.askedName key table = .value type) :
    j.nameAt key table = some (type + 1).toUInt8 ∧ j.unknownAt key table = false := by
  obtain ⟨text, isName, read, -⟩ := readable.stringAt_value value
  have nonempty : text ≠ [] := by
    rintro rfl
    rw [named] at isName
    cases isName
  unfold Json.nameAt Json.unknownAt
  simp [read, isName, nonempty]

theorem Json.Readable.nameAt_absent {table : List (UInt16 × Bytes)}
    (absent : j.askedName key table = .absent) :
    j.nameAt key table = none ∧ j.unknownAt key table = false := by
  unfold Json.nameAt Json.unknownAt
  rw [readable.stringAt_absent absent]
  exact ⟨rfl, rfl⟩

end Readable

end LwipExt.UdpCmd
