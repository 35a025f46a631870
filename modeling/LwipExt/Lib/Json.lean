import Mathlib.Data.List.Basic
import Mathlib.Tactic.SplitIfs

/-!
JSON texts, as lists of bytes.

`quoted`, `member`, `array` and `object` put texts together without blanks. `Json.Value` and
`Json.Element` are the grammar, with all its blanks, escapes and numbers, in UTF-8. The rules
`value_array`, `value_object` and `member_member` say that what is put together from values is a
value, and `Element.printable` that a JSON text has no control characters but blanks.
-/

namespace LwipExt.Lib.Json

/-! ### Texts -/

/-- The text in quotes. -/
def quoted (s : List UInt8) : List UInt8 := 34 :: s ++ [34]

/-- `"key":value`. -/
def member (key value : List UInt8) : List UInt8 := quoted key ++ 58 :: value

/-- The texts with a comma between any two. -/
def commas (texts : List (List UInt8)) : List UInt8 := List.intercalate [44] texts

/-- The texts as the elements of an array. -/
def array (elements : List (List UInt8)) : List UInt8 := 91 :: commas elements ++ [93]

/-- The texts as the members of an object. -/
def object (members : List (List UInt8)) : List UInt8 := 123 :: commas members ++ [125]

@[simp]
theorem commas_nil : commas [] = [] := rfl

@[simp]
theorem commas_singleton (t : List UInt8) : commas [t] = t := List.append_nil t

@[simp]
theorem commas_cons_cons (t t' : List UInt8) (ts : List (List UInt8)) :
    commas (t :: t' :: ts) = t ++ 44 :: commas (t' :: ts) := by
  cases ts with
  | nil => rfl
  | cons _ _ => rfl

/-! ### The grammar -/

/-- Blanks, tabs and line ends. -/
def Blank (s : List UInt8) : Prop := ∀ b ∈ s, b = 32 ∨ b = 9 ∨ b = 10 ∨ b = 13

/-- A byte that continues a character. -/
def IsTail (b : UInt8) : Prop := 0x80 ≤ b ∧ b ≤ 0xbf

/-- A character in UTF-8 that a string may hold as it is. -/
inductive Unescaped : List UInt8 → Prop where
  | ascii {b : UInt8} (low : 32 ≤ b) (high : b < 0x80) (noQuote : b ≠ 34) (noEscape : b ≠ 92) :
      Unescaped [b]
  | two {b c : UInt8} (first : 0xc2 ≤ b ∧ b ≤ 0xdf) (second : IsTail c) : Unescaped [b, c]
  | three {b c d : UInt8} (first : 0xe0 ≤ b ∧ b ≤ 0xef) (second : IsTail c)
      (noOverlong : b = 0xe0 → 0xa0 ≤ c) (noSurrogate : b = 0xed → c ≤ 0x9f) (third : IsTail d) :
      Unescaped [b, c, d]
  | four {b c d e : UInt8} (first : 0xf0 ≤ b ∧ b ≤ 0xf4) (second : IsTail c)
      (noOverlong : b = 0xf0 → 0x90 ≤ c) (inRange : b = 0xf4 → c ≤ 0x8f) (third : IsTail d)
      (fourth : IsTail e) : Unescaped [b, c, d, e]

/-- `0`-`9`. -/
def IsDigit (b : UInt8) : Prop := 48 ≤ b ∧ b ≤ 57

/-- `0`-`9`, `A`-`F` and `a`-`f`. -/
def IsHexDigit (b : UInt8) : Prop := IsDigit b ∨ 65 ≤ b ∧ b ≤ 70 ∨ 97 ≤ b ∧ b ≤ 102

/-- What a string holds between its quotes. -/
inductive Chars : List UInt8 → Prop where
  | nil : Chars []
  | unescaped {c s : List UInt8} (char : Unescaped c) (rest : Chars s) : Chars (c ++ s)
  | escape {b : UInt8} {s : List UInt8} (known : b ∈ [34, 92, 47, 98, 102, 110, 114, 116])
      (rest : Chars s) : Chars (92 :: b :: s)
  | unicode {digits s : List UInt8} (four : digits.length = 4) (hex : ∀ b ∈ digits, IsHexDigit b)
      (rest : Chars s) : Chars (92 :: 117 :: digits ++ s)

/-- One digit or more. -/
def Digits (s : List UInt8) : Prop := s ≠ [] ∧ ∀ b ∈ s, IsDigit b

/-- A number, with its sign, fraction and exponent. -/
inductive Number : List UInt8 → Prop where
  | mk {sign int frac exp : List UInt8} (sign_ : sign = [] ∨ sign = [45])
      (int_ : Digits int ∧ (int = [48] ∨ int.head? ≠ some 48))
      (frac_ : frac = [] ∨ ∃ digits, Digits digits ∧ frac = 46 :: digits)
      (exp_ : exp = [] ∨ ∃ e sign digits, (e = 101 ∨ e = 69) ∧
        (sign = [] ∨ sign = [43] ∨ sign = [45]) ∧ Digits digits ∧ exp = e :: sign ++ digits) :
      Number (sign ++ int ++ frac ++ exp)

mutual

/-- A value. -/
inductive Value : List UInt8 → Prop where
  | null : Value [110, 117, 108, 108]
  | true : Value [116, 114, 117, 101]
  | false : Value [102, 97, 108, 115, 101]
  | number {s : List UInt8} (number : Number s) : Value s
  | string {s : List UInt8} (chars : Chars s) : Value (quoted s)
  | emptyArray {s : List UInt8} (blank : Blank s) : Value (91 :: s ++ [93])
  | array {s : List UInt8} (elements : Elements s) : Value (91 :: s ++ [93])
  | emptyObject {s : List UInt8} (blank : Blank s) : Value (123 :: s ++ [125])
  | object {s : List UInt8} (members : Members s) : Value (123 :: s ++ [125])

/-- A value between blanks, which is what a JSON text is. -/
inductive Element : List UInt8 → Prop where
  | mk {a s b : List UInt8} (before : Blank a) (value : Value s) (behind : Blank b) :
      Element (a ++ s ++ b)

/-- The elements of an array. -/
inductive Elements : List UInt8 → Prop where
  | one {e : List UInt8} (element : Element e) : Elements e
  | more {e s : List UInt8} (element : Element e) (rest : Elements s) : Elements (e ++ 44 :: s)

/-- A member of an object. -/
inductive Member : List UInt8 → Prop where
  | mk {a key b e : List UInt8} (before : Blank a) (chars : Chars key) (behind : Blank b)
      (element : Element e) : Member (a ++ quoted key ++ b ++ 58 :: e)

/-- The members of an object. -/
inductive Members : List UInt8 → Prop where
  | one {m : List UInt8} (member : Member m) : Members m
  | more {m s : List UInt8} (member : Member m) (rest : Members s) : Members (m ++ 44 :: s)

end

/-! ### Putting texts together -/

section Rules

theorem blank_nil : Blank [] := fun b mem => by cases mem

theorem Value.element {s : List UInt8} (value : Value s) : Element s := by
  have whole := Element.mk blank_nil value blank_nil
  rwa [List.nil_append, List.append_nil] at whole

/-- A value behind a blank. -/
theorem Value.element_blank {s : List UInt8} (value : Value s) : Element (32 :: s) := by
  have whole := Element.mk (a := [32]) (by simp [Blank]) value blank_nil
  rwa [List.append_nil] at whole

theorem elements_commas {texts : List (List UInt8)} (some_ : texts ≠ [])
    (elements : ∀ t ∈ texts, Element t) : Elements (commas texts) := by
  induction texts with
  | nil => exact absurd rfl some_
  | cons t texts ih =>
      obtain ⟨first, rest⟩ := List.forall_mem_cons.mp elements
      cases texts with
      | nil =>
          rw [commas_singleton]
          exact .one first
      | cons t' texts =>
          rw [commas_cons_cons]
          exact .more first (ih (List.cons_ne_nil _ _) rest)

theorem members_commas {texts : List (List UInt8)} (some_ : texts ≠ [])
    (members : ∀ t ∈ texts, Member t) : Members (commas texts) := by
  induction texts with
  | nil => exact absurd rfl some_
  | cons t texts ih =>
      obtain ⟨first, rest⟩ := List.forall_mem_cons.mp members
      cases texts with
      | nil =>
          rw [commas_singleton]
          exact .one first
      | cons t' texts =>
          rw [commas_cons_cons]
          exact .more first (ih (List.cons_ne_nil _ _) rest)

theorem value_array {texts : List (List UInt8)} (elements : ∀ t ∈ texts, Element t) :
    Value (array texts) := by
  by_cases none_ : texts = []
  · rw [none_]
    exact .emptyArray blank_nil
  · exact .array (elements_commas none_ elements)

theorem value_object {texts : List (List UInt8)} (members : ∀ t ∈ texts, Member t) :
    Value (object texts) := by
  by_cases none_ : texts = []
  · rw [none_]
    exact .emptyObject blank_nil
  · exact .object (members_commas none_ members)

theorem member_member {key value : List UInt8} (chars : Chars key) (isValue : Value value) :
    Member (member key value) := by
  have whole := Member.mk blank_nil chars blank_nil isValue.element
  rwa [List.nil_append, List.append_nil] at whole

/-- A member behind a blank. -/
theorem Member.blank {m : List UInt8} (isMember : Member m) : Member (32 :: m) := by
  cases isMember with
  | @mk a key b e before chars behind element =>
      have blank : Blank (32 :: a) := List.forall_mem_cons.mpr ⟨.inl rfl, before⟩
      exact Member.mk blank chars behind element

/-- Text of ASCII characters that need no escape. -/
def Plain (s : List UInt8) : Prop := ∀ b ∈ s, 32 ≤ b ∧ b < 0x80 ∧ b ≠ 34 ∧ b ≠ 92

/-- `Plain` as a test. -/
def isPlain (s : List UInt8) : Bool :=
  s.all fun b => Nat.ble 32 b.toNat && Nat.blt b.toNat 0x80 && !Nat.beq b.toNat 34 &&
    !Nat.beq b.toNat 92

theorem isPlain_iff {s : List UInt8} : isPlain s = true ↔ Plain s := by
  have byte (b : UInt8) (n : Nat) (lt : n < 256) : Nat.beq b.toNat n = true ↔ b = UInt8.ofNat n := by
    rw [Nat.beq_eq, ← UInt8.toNat_inj, UInt8.toNat_ofNat', Nat.mod_eq_of_lt lt]
  unfold isPlain Plain
  rw [List.all_eq_true]
  refine forall₂_congr fun b _ => ?_
  simp only [Bool.and_eq_true, Bool.not_eq_true', ← Bool.not_eq_true, byte b 34 (by decide),
    byte b 92 (by decide), Nat.ble_eq, Nat.blt_eq, and_assoc]
  rfl

instance (s : List UInt8) : Decidable (Plain s) := decidable_of_iff _ isPlain_iff

theorem Plain.append {s t : List UInt8} (first : Plain s) (second : Plain t) : Plain (s ++ t) := by
  intro b mem
  rcases List.mem_append.mp mem with before | behind
  · exact first b before
  · exact second b behind

theorem Chars.append {s t : List UInt8} (first : Chars s) (second : Chars t) : Chars (s ++ t) := by
  induction first with
  | nil => exact second
  | unescaped char _ ih =>
      rw [List.append_assoc]
      exact .unescaped char ih
  | escape known _ ih => exact .escape known ih
  | unicode four hex _ ih =>
      rw [List.append_assoc]
      exact .unicode four hex ih

theorem Plain.chars {s : List UInt8} (plain : Plain s) : Chars s := by
  induction s with
  | nil => exact .nil
  | cons b s ih =>
      obtain ⟨⟨low, high, noQuote, noEscape⟩, rest⟩ := List.forall_mem_cons.mp plain
      exact .unescaped (.ascii low high noQuote noEscape) (ih rest)

end Rules

/-! ### Control characters -/

section Printable

/-- No control characters but line ends and tabs. -/
def Printable (s : List UInt8) : Prop := ∀ b ∈ s, 32 ≤ b ∨ b = 9 ∨ b = 10 ∨ b = 13

instance (s : List UInt8) : Decidable (Printable s) := inferInstanceAs (Decidable (∀ _ ∈ s, _))

variable {s t : List UInt8}

theorem Printable.append (first : Printable s) (second : Printable t) : Printable (s ++ t) := by
  intro b mem
  rcases List.mem_append.mp mem with before | behind
  · exact first b before
  · exact second b behind

theorem Printable.cons {b : UInt8} (first : 32 ≤ b) (rest : Printable s) : Printable (b :: s) :=
  List.forall_mem_cons.mpr ⟨.inl first, rest⟩

theorem printable_of_forall (low : ∀ b ∈ s, 32 ≤ b) : Printable s := fun b mem => .inl (low b mem)

theorem Blank.printable (blank : Blank s) : Printable s := by
  intro b mem
  rcases blank b mem with rfl | other
  · exact .inl (by decide)
  · exact .inr other

theorem IsTail.low {b : UInt8} (isTail : IsTail b) : 32 ≤ b :=
  UInt8.le_trans (by decide) isTail.1

theorem Unescaped.printable (char : Unescaped s) : Printable s := by
  have low {b c : UInt8} (high : 32 ≤ c) (le : c ≤ b) : 32 ≤ b := UInt8.le_trans high le
  cases char with
  | ascii low => exact .cons low blank_nil.printable
  | two first second => exact .cons (low (by decide) first.1) (.cons second.low blank_nil.printable)
  | three first second _ _ third =>
      exact .cons (low (by decide) first.1) (.cons second.low (.cons third.low blank_nil.printable))
  | four first second _ _ third fourth =>
      exact .cons (low (by decide) first.1)
        (.cons second.low (.cons third.low (.cons fourth.low blank_nil.printable)))

theorem IsDigit.low {b : UInt8} (digit : IsDigit b) : 32 ≤ b :=
  UInt8.le_trans (by decide) digit.1

theorem IsHexDigit.low {b : UInt8} (digit : IsHexDigit b) : 32 ≤ b := by
  rcases digit with digit | ⟨low, -⟩ | ⟨low, -⟩
  · exact digit.low
  · exact UInt8.le_trans (by decide) low
  · exact UInt8.le_trans (by decide) low

theorem Digits.printable (digits : Digits s) : Printable s :=
  printable_of_forall fun b mem => (digits.2 b mem).low

theorem Chars.printable (chars : Chars s) : Printable s := by
  induction chars with
  | nil => exact blank_nil.printable
  | unescaped char _ ih => exact char.printable.append ih
  | escape known _ ih =>
      have low : ∀ b ∈ ([34, 92, 47, 98, 102, 110, 114, 116] : List UInt8), 32 ≤ b := by
        decide +kernel
      exact .cons (by decide) (.cons (low _ known) ih)
  | unicode four hex _ ih =>
      exact .cons (by decide)
        (.cons (by decide) ((printable_of_forall fun b mem => (hex b mem).low).append ih))

theorem Number.printable (number : Number s) : Printable s := by
  obtain ⟨sign_, int_, frac_, exp_⟩ := number
  refine .append (.append (.append ?_ int_.1.printable) ?_) ?_
  · rcases sign_ with rfl | rfl
    · decide +kernel
    · decide +kernel
  · rcases frac_ with rfl | ⟨digits, isDigits, rfl⟩
    · decide +kernel
    · exact .cons (by decide) isDigits.printable
  · rcases exp_ with rfl | ⟨e, sign, digits, isE, isSign, isDigits, rfl⟩
    · decide +kernel
    · refine .append (.cons ?_ ?_) isDigits.printable
      · rcases isE with rfl | rfl
        · decide +kernel
        · decide +kernel
      · rcases isSign with rfl | rfl | rfl
        · decide +kernel
        · decide +kernel
        · decide +kernel

theorem Printable.quoted (inside : Printable s) : Printable (Json.quoted s) :=
  .cons (by decide) (inside.append (by decide +kernel))

mutual

theorem Value.printable {s : List UInt8} : Value s → Printable s
  | .null => by decide +kernel
  | .true => by decide +kernel
  | .false => by decide +kernel
  | .number number => number.printable
  | .string chars => chars.printable.quoted
  | .emptyArray blank => .cons (by decide) (blank.printable.append (by decide +kernel))
  | .array elements => .cons (by decide) (elements.printable.append (by decide +kernel))
  | .emptyObject blank => .cons (by decide) (blank.printable.append (by decide +kernel))
  | .object members => .cons (by decide) (members.printable.append (by decide +kernel))

theorem Element.printable {s : List UInt8} : Element s → Printable s
  | .mk before value behind =>
      (before.printable.append value.printable).append behind.printable

theorem Elements.printable {s : List UInt8} : Elements s → Printable s
  | .one element => element.printable
  | .more element rest => element.printable.append (.cons (by decide) rest.printable)

theorem Member.printable {s : List UInt8} : Member s → Printable s
  | .mk before chars behind element =>
      ((before.printable.append chars.printable.quoted).append behind.printable).append
        (.cons (by decide) element.printable)

theorem Members.printable {s : List UInt8} : Members s → Printable s
  | .one member => member.printable
  | .more member rest => member.printable.append (.cons (by decide) rest.printable)

end

end Printable

end LwipExt.Lib.Json
