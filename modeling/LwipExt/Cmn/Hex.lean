import LwipExt.CString
import LwipExt.Cmn.Address

/-!
Bytes written as two hexadecimal digits each, of either case.

`extSysAtoInt8` reads a byte exactly if two digits that spell it come first
(`extSysAtoInt8_iff`); the texts that spell bytes are those of an even number of digits
(`exists_encodes_iff`).
-/

namespace LwipExt

/-- Two digits that spell a byte. -/
def Spells (pair : Bytes) (b : UInt8) : Prop := pair.map toLower = hexByte 97 b

instance (pair : Bytes) (b : UInt8) : Decidable (Spells pair b) :=
  inferInstanceAs (Decidable (_ = _))

/-- A text that spells bytes, one after the other. -/
def Encodes (text bytes : Bytes) : Prop := text.map toLower = bytes.flatMap (hexByte 97)

instance (text bytes : Bytes) : Decidable (Encodes text bytes) :=
  inferInstanceAs (Decidable (_ = _))

/-- The digit of a number below 16. -/
def digitChar (d : UInt8) : UInt8 := if d < 10 then 48 + d else 97 + (d - 10)

theorem hexByte_eq (b : UInt8) : hexByte 97 b = [digitChar (b / 16), digitChar (b % 16)] := rfl

theorem toLower_eq_digitChar_iff {c d : UInt8} (digit : d < 16) :
    toLower c = digitChar d ↔ hexDigit c = some d := by
  have all : ∀ n < 256, ∀ k < 16, toLower (UInt8.ofNat n) = digitChar (UInt8.ofNat k) ↔
      hexDigit (UInt8.ofNat n) = some (UInt8.ofNat k) := by
    decide +kernel
  have here := all c.toNat c.toNat_lt d.toNat (UInt8.lt_iff_toNat_lt.mp digit)
  rwa [UInt8.ofNat_toNat, UInt8.ofNat_toNat] at here

theorem hexDigit_lt {c d : UInt8} (digit : hexDigit c = some d) : d < 16 := by
  have all : ∀ n < 256, ∀ d ∈ hexDigit (UInt8.ofNat n), d < 16 := by
    decide +kernel
  have here := all c.toNat c.toNat_lt
  rw [UInt8.ofNat_toNat] at here
  exact here d digit

theorem div_lt_sixteen (b : UInt8) : b / 16 < 16 := by
  have small := b.toNat_lt
  rw [UInt8.lt_iff_toNat_lt, UInt8.toNat_div]
  change b.toNat / 16 < 16
  omega

theorem mod_lt_sixteen (b : UInt8) : b % 16 < 16 := by
  rw [UInt8.lt_iff_toNat_lt, UInt8.toNat_mod]
  exact Nat.mod_lt _ (by decide)

/-- The digits of two numbers below 16. -/
theorem join_digits {high low : UInt8} (lt : high < 16) (lt' : low < 16) :
    (high * 16 + low) / 16 = high ∧ (high * 16 + low) % 16 = low := by
  rw [UInt8.lt_iff_toNat_lt] at lt lt'
  change high.toNat < 16 at lt
  change low.toNat < 16 at lt'
  have sum : (high * 16 + low).toNat = high.toNat * 16 + low.toNat := by
    rw [UInt8.toNat_add, UInt8.toNat_mul]
    change (high.toNat * 16 % 256 + low.toNat) % 256 = _
    omega
  constructor
  · rw [← UInt8.toNat_inj, UInt8.toNat_div, sum]
    change (high.toNat * 16 + low.toNat) / 16 = _
    omega
  · rw [← UInt8.toNat_inj, UInt8.toNat_mod, sum]
    change (high.toNat * 16 + low.toNat) % 16 = _
    omega

theorem split_digits (b : UInt8) : b / 16 * 16 + b % 16 = b := by
  have small := b.toNat_lt
  rw [← UInt8.toNat_inj, UInt8.toNat_add, UInt8.toNat_mul, UInt8.toNat_div, UInt8.toNat_mod]
  change (b.toNat / 16 * 16 % 256 + b.toNat % 16) % 256 = b.toNat
  omega

/-- The two digits of a byte. -/
theorem spells_iff {pair : Bytes} {b : UInt8} :
    Spells pair b ↔ ∃ c c' high low, pair = [c, c'] ∧ hexDigit c = some high ∧
      hexDigit c' = some low ∧ high * 16 + low = b := by
  constructor
  · intro spelled
    rw [Spells, hexByte_eq] at spelled
    obtain ⟨c, behind, rfl, first, others⟩ := List.map_eq_cons_iff.mp spelled
    obtain ⟨c', rest, rfl, second, none⟩ := List.map_eq_cons_iff.mp others
    obtain rfl := List.map_eq_nil_iff.mp none
    exact ⟨c, c', b / 16, b % 16, rfl, (toLower_eq_digitChar_iff (div_lt_sixteen b)).mp first,
      (toLower_eq_digitChar_iff (mod_lt_sixteen b)).mp second, split_digits b⟩
  · rintro ⟨c, c', high, low, rfl, first, second, rfl⟩
    obtain ⟨left, right⟩ := join_digits (hexDigit_lt first) (hexDigit_lt second)
    rw [Spells, hexByte_eq, left, right, List.map_cons, List.map_cons, List.map_nil,
      (toLower_eq_digitChar_iff (hexDigit_lt first)).mpr first,
      (toLower_eq_digitChar_iff (hexDigit_lt second)).mpr second]

/-- What is printed spells its byte. -/
theorem spells_hexByte (b : UInt8) : Spells (hexByte 97 b) b := by
  have lower {d : UInt8} (digit : d < 16) : toLower (digitChar d) = digitChar d := by
    have all : ∀ k < 16, toLower (digitChar (UInt8.ofNat k)) = digitChar (UInt8.ofNat k) := by
      decide +kernel
    have here := all d.toNat (UInt8.lt_iff_toNat_lt.mp digit)
    rwa [UInt8.ofNat_toNat] at here
  rw [Spells, hexByte_eq, List.map_cons, List.map_cons, List.map_nil, lower (div_lt_sixteen b),
    lower (mod_lt_sixteen b)]

theorem Spells.length {pair : Bytes} {b : UInt8} (spelled : Spells pair b) : pair.length = 2 := by
  obtain ⟨c, c', _, _, rfl, -⟩ := spells_iff.mp spelled
  rfl

/-- A character that is no digit is in no pair. -/
theorem Spells.not_mem {pair : Bytes} {b c : UInt8} (spelled : Spells pair b)
    (other : hexDigit c = none) : c ∉ pair := by
  obtain ⟨d, d', _, _, rfl, first, second, -⟩ := spells_iff.mp spelled
  intro mem
  rcases List.mem_pair.mp mem with rfl | rfl
  · cases other.symm.trans first
  · cases other.symm.trans second

/-- **A byte is read exactly if two digits that spell it come first.** -/
theorem extSysAtoInt8_iff {text : Bytes} {b : UInt8} :
    extSysAtoInt8 text = (b, true) ↔ ∃ pair rest, text = pair ++ rest ∧ Spells pair b := by
  constructor
  · intro read
    cases text with
    | nil => cases read
    | cons c text =>
        cases first : hexDigit c with
        | none => simp [extSysAtoInt8, first] at read
        | some high =>
            cases text with
            | nil => simp [extSysAtoInt8, first] at read
            | cons c' rest =>
                cases second : hexDigit c' with
                | none => simp [extSysAtoInt8, first, second] at read
                | some low =>
                    have value : high * 16 + low = b := by
                      simpa [extSysAtoInt8, first, second] using read
                    exact ⟨[c, c'], rest, rfl,
                      spells_iff.mpr ⟨c, c', high, low, rfl, first, second, value⟩⟩
  · rintro ⟨pair, rest, rfl, spelled⟩
    obtain ⟨c, c', high, low, rfl, first, second, rfl⟩ := spells_iff.mp spelled
    simp [extSysAtoInt8, first, second]

theorem extSysAtoInt8_print (b : UInt8) (rest : Bytes) :
    extSysAtoInt8 (hexByte 97 b ++ rest) = (b, true) :=
  extSysAtoInt8_iff.mpr ⟨_, rest, rfl, spells_hexByte b⟩

theorem extSysAtoInt8_true {text : Bytes} (read : (extSysAtoInt8 text).2 = true) :
    ∃ pair rest b, extSysAtoInt8 text = (b, true) ∧ text = pair ++ rest ∧ Spells pair b := by
  have value : extSysAtoInt8 text = ((extSysAtoInt8 text).1, true) := by
    rw [← read]
  obtain ⟨pair, rest, split, spelled⟩ := extSysAtoInt8_iff.mp value
  exact ⟨pair, rest, _, value, split, spelled⟩

/-- Two digits come first. -/
def StartsWithByte (text : Bytes) : Prop :=
  2 ≤ text.length ∧ ∀ c ∈ text.take 2, (hexDigit c).isSome = true

instance (text : Bytes) : Decidable (StartsWithByte text) := inferInstanceAs (Decidable (_ ∧ _))

theorem extSysAtoInt8_true_iff {text : Bytes} :
    (extSysAtoInt8 text).2 = true ↔ StartsWithByte text := by
  unfold StartsWithByte
  constructor
  · intro read
    obtain ⟨pair, rest, b, -, rfl, spelled⟩ := extSysAtoInt8_true read
    obtain ⟨c, c', high, low, rfl, first, second, -⟩ := spells_iff.mp spelled
    simp [first, second]
  · rintro ⟨long, digits⟩
    obtain ⟨c, c', rest, rfl⟩ : ∃ c c' rest, text = c :: c' :: rest := by
      match text, long with
      | c :: c' :: rest, _ => exact ⟨c, c', rest, rfl⟩
    obtain ⟨high, first⟩ := Option.isSome_iff_exists.mp (digits c (by simp))
    obtain ⟨low, second⟩ := Option.isSome_iff_exists.mp (digits c' (by simp))
    simp [extSysAtoInt8, first, second]

/-! ### Texts of several bytes -/

theorem Encodes.nil : Encodes [] [] := rfl

/-- A pair more. -/
theorem Encodes.cons {pair text bytes : Bytes} {b : UInt8} (spelled : Spells pair b)
    (encoded : Encodes text bytes) : Encodes (pair ++ text) (b :: bytes) := by
  rw [Encodes, List.map_append, List.flatMap_cons, spelled, encoded]

theorem Encodes.length {text bytes : Bytes} (encoded : Encodes text bytes) :
    text.length = 2 * bytes.length := by
  have lengths := congrArg List.length encoded
  simpa [hexByte_eq, List.length_flatMap, Nat.mul_comm] using lengths

/-- What a text spells begins with its first pair. -/
theorem Encodes.cases {text bytes : Bytes} (encoded : Encodes text bytes) :
    (text = [] ∧ bytes = []) ∨ ∃ pair rest b others,
      text = pair ++ rest ∧ bytes = b :: others ∧ Spells pair b ∧ Encodes rest others := by
  cases bytes with
  | nil => exact .inl ⟨List.map_eq_nil_iff.mp encoded, rfl⟩
  | cons b others =>
      rw [Encodes, List.flatMap_cons] at encoded
      obtain ⟨pair, rest, rfl, spelled, remaining⟩ := List.map_eq_append_iff.mp encoded
      exact .inr ⟨pair, rest, b, others, rfl, rfl, spelled, remaining⟩

/-- **Which texts spell bytes:** those of an even number of digits. -/
theorem exists_encodes_iff {text : Bytes} :
    (∃ bytes, Encodes text bytes) ↔
      text.length % 2 = 0 ∧ ∀ c ∈ text, (hexDigit c).isSome = true := by
  constructor
  · rintro ⟨bytes, encoded⟩
    refine ⟨by rw [encoded.length, Nat.mul_mod_right], ?_⟩
    induction bytes generalizing text with
    | nil =>
        obtain ⟨rfl, -⟩ | ⟨_, _, _, _, -, other, -⟩ := encoded.cases
        · intro c mem
          cases mem
        · cases other
    | cons b bytes ih =>
        obtain ⟨-, other⟩ | ⟨pair, rest, _, _, rfl, same, spelled, remaining⟩ := encoded.cases
        · cases other
        cases same
        obtain ⟨c, c', high, low, rfl, first, second, -⟩ := spells_iff.mp spelled
        intro d mem
        rcases List.mem_append.mp mem with mem | mem
        · rcases List.mem_pair.mp mem with rfl | rfl
          · rw [first]
            rfl
          · rw [second]
            rfl
        · exact ih remaining d mem
  · rintro ⟨even, digits⟩
    generalize pairs : text.length / 2 = n
    induction n generalizing text with
    | zero =>
        have none : text = [] := List.eq_nil_of_length_eq_zero (by omega)
        exact ⟨[], none ▸ Encodes.nil⟩
    | succ n ih =>
        obtain ⟨c, c', rest, rfl⟩ : ∃ c c' rest, text = c :: c' :: rest := by
          match text, even, pairs with
          | c :: c' :: rest, _, _ => exact ⟨c, c', rest, rfl⟩
        simp only [List.length_cons] at even pairs
        obtain ⟨high, first⟩ := Option.isSome_iff_exists.mp (digits c (by simp))
        obtain ⟨low, second⟩ := Option.isSome_iff_exists.mp (digits c' (by simp))
        obtain ⟨bytes, encoded⟩ := @ih rest (by omega)
          (fun d mem => digits d (by simp [mem])) (by omega)
        exact ⟨_ :: bytes, Encodes.cons
          (spells_iff.mpr ⟨c, c', high, low, rfl, first, second, rfl⟩) encoded⟩

theorem startsWithByte_take {text : Bytes} {n : Nat} (room : 2 ≤ n) :
    StartsWithByte (text.take n) ↔ StartsWithByte text := by
  unfold StartsWithByte
  rw [List.take_take, min_eq_left room, List.length_take]
  constructor
  · rintro ⟨long, digits⟩
    exact ⟨by omega, digits⟩
  · rintro ⟨long, digits⟩
    exact ⟨by omega, digits⟩

/-- What spells a byte more starts with it. -/
theorem Encodes.startsWithByte {text bytes rest : Bytes} (encoded : Encodes text bytes)
    (some : bytes ≠ []) : StartsWithByte (text ++ rest) := by
  obtain ⟨-, none⟩ | ⟨pair, behind, b, others, rfl, -, spelled, -⟩ := encoded.cases
  · exact absurd none some
  · have read := extSysAtoInt8_iff.mpr ⟨pair, behind ++ rest, rfl, spelled⟩
    rw [List.append_assoc, ← extSysAtoInt8_true_iff, read]

theorem startsWithByte_of_digits {text : Bytes} (long : 2 ≤ text.length)
    (digits : ∀ c ∈ text, (hexDigit c).isSome = true) : StartsWithByte text :=
  ⟨long, fun c mem => digits c (List.mem_of_mem_take mem)⟩

end LwipExt
