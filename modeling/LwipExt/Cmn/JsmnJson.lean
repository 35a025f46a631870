import LwipExt.Cmn.JsmnNesting
import LwipExt.Lib.Json

/-!
What `jsmn_parse` makes of JSON texts.

`ElementTokens` says which tokens belong to a text of the grammar: one for each value and each key,
in the order in which they begin. `jsmn_parse` accepts every JSON text with no more tokens than
there are, and makes just these (`jsmnParse_json`).
-/

namespace LwipExt

open Lib.Json

/-! ### The tokens of a text -/

/-- A value of one word. -/
def Word (s : Bytes) : Prop :=
  s = [110, 117, 108, 108] ∨ s = [116, 114, 117, 101] ∨ s = [102, 97, 108, 115, 101] ∨ Number s

/-- The token of a text from an offset on. -/
def tokenAt (type : JsmnType) (o : Nat) (s : Bytes) : Jsmntok :=
  { type := type, start := o, stop := some (o + s.length) }

mutual

/-- The tokens of a value at an offset. -/
inductive ValueTokens : Nat → Bytes → List Jsmntok → Prop where
  | word {o : Nat} {s : Bytes} (word : Word s) : ValueTokens o s [tokenAt .primitive o s]
  | string {o : Nat} {s : Bytes} (chars : Chars s) :
      ValueTokens o (quoted s) [tokenAt .string (o + 1) s]
  | emptyArray {o : Nat} {s : Bytes} (blank : Blank s) :
      ValueTokens o (91 :: s ++ [93]) [tokenAt .array o (91 :: s ++ [93])]
  | array {o : Nat} {s : Bytes} {ts : List Jsmntok} (elements : ElementsTokens (o + 1) s ts) :
      ValueTokens o (91 :: s ++ [93]) (tokenAt .array o (91 :: s ++ [93]) :: ts)
  | emptyObject {o : Nat} {s : Bytes} (blank : Blank s) :
      ValueTokens o (123 :: s ++ [125]) [tokenAt .object o (123 :: s ++ [125])]
  | object {o : Nat} {s : Bytes} {ts : List Jsmntok} (members : MembersTokens (o + 1) s ts) :
      ValueTokens o (123 :: s ++ [125]) (tokenAt .object o (123 :: s ++ [125]) :: ts)

/-- The tokens of a value between blanks. -/
inductive ElementTokens : Nat → Bytes → List Jsmntok → Prop where
  | mk {o : Nat} {a s b : Bytes} {ts : List Jsmntok} (before : Blank a)
      (value : ValueTokens (o + a.length) s ts) (behind : Blank b) :
      ElementTokens o (a ++ s ++ b) ts

/-- The tokens of the elements of an array. -/
inductive ElementsTokens : Nat → Bytes → List Jsmntok → Prop where
  | one {o : Nat} {e : Bytes} {ts : List Jsmntok} (element : ElementTokens o e ts) :
      ElementsTokens o e ts
  | more {o : Nat} {e s : Bytes} {ts ts' : List Jsmntok} (element : ElementTokens o e ts)
      (rest : ElementsTokens (o + e.length + 1) s ts') : ElementsTokens o (e ++ 44 :: s) (ts ++ ts')

/-- The tokens of a member of an object: its key, and those of its value. -/
inductive MemberTokens : Nat → Bytes → List Jsmntok → Prop where
  | mk {o : Nat} {a key b e : Bytes} {ts : List Jsmntok} (before : Blank a) (chars : Chars key)
      (behind : Blank b)
      (element : ElementTokens (o + a.length + (quoted key).length + b.length + 1) e ts) :
      MemberTokens o (a ++ quoted key ++ b ++ 58 :: e)
        (tokenAt .string (o + a.length + 1) key :: ts)

/-- The tokens of the members of an object. -/
inductive MembersTokens : Nat → Bytes → List Jsmntok → Prop where
  | one {o : Nat} {m : Bytes} {ts : List Jsmntok} (member : MemberTokens o m ts) :
      MembersTokens o m ts
  | more {o : Nat} {m s : Bytes} {ts ts' : List Jsmntok} (member : MemberTokens o m ts)
      (rest : MembersTokens (o + m.length + 1) s ts') : MembersTokens o (m ++ 44 :: s) (ts ++ ts')

end

mutual

/-- Every text of the grammar has its tokens. -/
theorem exists_valueTokens {s : Bytes} : Value s → ∀ o, ∃ ts, ValueTokens o s ts
  | .null, _ => ⟨_, .word (.inl rfl)⟩
  | .true, _ => ⟨_, .word (.inr (.inl rfl))⟩
  | .false, _ => ⟨_, .word (.inr (.inr (.inl rfl)))⟩
  | .number number, _ => ⟨_, .word (.inr (.inr (.inr number)))⟩
  | .string chars, _ => ⟨_, .string chars⟩
  | .emptyArray blank, _ => ⟨_, .emptyArray blank⟩
  | .array elements, o => (exists_elementsTokens elements (o + 1)).elim fun _ has => ⟨_, .array has⟩
  | .emptyObject blank, _ => ⟨_, .emptyObject blank⟩
  | .object members, o => (exists_membersTokens members (o + 1)).elim fun _ has => ⟨_, .object has⟩

theorem exists_elementTokens {s : Bytes} : Element s → ∀ o, ∃ ts, ElementTokens o s ts
  | .mk before value behind, o =>
      (exists_valueTokens value _).elim fun _ has => ⟨_, .mk before has behind⟩

theorem exists_elementsTokens {s : Bytes} : Elements s → ∀ o, ∃ ts, ElementsTokens o s ts
  | .one element, o => (exists_elementTokens element o).elim fun _ has => ⟨_, .one has⟩
  | .more element rest, o =>
      (exists_elementTokens element o).elim fun _ first =>
        (exists_elementsTokens rest _).elim fun _ others => ⟨_, .more first others⟩

theorem exists_memberTokens {s : Bytes} : Member s → ∀ o, ∃ ts, MemberTokens o s ts
  | .mk before chars behind element, _ =>
      (exists_elementTokens element _).elim fun _ has => ⟨_, .mk before chars behind has⟩

theorem exists_membersTokens {s : Bytes} : Members s → ∀ o, ∃ ts, MembersTokens o s ts
  | .one member, o => (exists_memberTokens member o).elim fun _ has => ⟨_, .one has⟩
  | .more member rest, o =>
      (exists_memberTokens member o).elim fun _ first =>
        (exists_membersTokens rest _).elim fun _ others => ⟨_, .more first others⟩

end

/-! ### Runs of the loop -/

/-- The loop of `jsmn_parse` gets from one state to another. -/
def Runs (js : Bytes) (len : Nat) (p p' : Jsmn) : Prop :=
  ∀ fuel, len - p.pos ≤ fuel →
    ∃ fuel', len - p'.pos ≤ fuel' ∧ jsmnLoop js len fuel p = jsmnLoop js len fuel' p'

theorem Runs.refl (js : Bytes) (len : Nat) (p : Jsmn) : Runs js len p p :=
  fun fuel enough => ⟨fuel, enough, rfl⟩

theorem Runs.trans {js : Bytes} {len : Nat} {p₁ p₂ p₃ : Jsmn} (first : Runs js len p₁ p₂)
    (second : Runs js len p₂ p₃) : Runs js len p₁ p₃ := by
  intro fuel enough
  obtain ⟨fuel', enough', same⟩ := first fuel enough
  obtain ⟨fuel'', enough'', same'⟩ := second fuel' enough'
  exact ⟨fuel'', enough'', same.trans same'⟩

theorem Runs.step {js : Bytes} {len : Nat} {p p' : Jsmn} (here : inText js len p.pos = true)
    (step : jsmnChar js len p = .ok p') (le : p.pos ≤ p'.pos) :
    Runs js len p { p' with pos := p'.pos + 1 } := by
  intro fuel enough
  have lt := lt_of_inText here
  obtain ⟨left, rfl⟩ : ∃ left, fuel = left + 1 := ⟨fuel - 1, by omega⟩
  refine ⟨left, by simp only; omega, ?_⟩
  rw [jsmnLoop, if_pos here, step]

section Texts

variable {js : Bytes} {len : Nat}

/-- A text stands at an offset, before the end. -/
structure Stands (js : Bytes) (len o : Nat) (s : Bytes) : Prop where
  fits : o + s.length ≤ len
  same : ∃ rest, js.drop o = s ++ rest
  nonzero : 0 ∉ s

theorem Stands.left {o : Nat} {s t : Bytes} (stands : Stands js len o (s ++ t)) :
    Stands js len o s := by
  obtain ⟨fits, ⟨rest, same⟩, nonzero⟩ := stands
  rw [List.length_append] at fits
  exact ⟨by omega, ⟨t ++ rest, by rw [same, List.append_assoc]⟩,
    fun zero => nonzero (List.mem_append_left _ zero)⟩

theorem Stands.right {o : Nat} {s t : Bytes} (stands : Stands js len o (s ++ t)) :
    Stands js len (o + s.length) t := by
  obtain ⟨fits, ⟨rest, same⟩, nonzero⟩ := stands
  rw [List.length_append] at fits
  exact ⟨by omega, ⟨rest, by rw [← List.drop_drop, same, List.append_assoc, List.drop_left]⟩,
    fun zero => nonzero (List.mem_append_right _ zero)⟩

theorem Stands.head {o : Nat} {c : UInt8} {s : Bytes} (stands : Stands js len o (c :: s)) :
    inText js len o = true ∧ jsAt js o = c := by
  obtain ⟨fits, ⟨rest, same⟩, nonzero⟩ := stands
  have at_ : jsAt js o = c := by
    have here := congrArg (·.getD 0 0) same
    simp only [List.getD_eq_getElem?_getD, List.getElem?_drop, Nat.add_zero] at here
    rw [jsAt, List.getD_eq_getElem?_getD, here]
    rfl
  rw [List.length_cons] at fits
  refine ⟨?_, at_⟩
  rw [inText, at_, Bool.and_eq_true, decide_eq_true_iff, decide_eq_true_iff]
  exact ⟨by omega, fun zero => nonzero (zero ▸ List.mem_cons_self)⟩

theorem Stands.tail {o : Nat} {c : UInt8} {s : Bytes} (stands : Stands js len o (c :: s)) :
    Stands js len (o + 1) s := by
  have whole : Stands js len o ([c] ++ s) := stands
  exact whole.right

/-! ### The scanners -/

/-- A primitive ends here. -/
def Follows (js : Bytes) (len o : Nat) : Prop :=
  inText js len o = true → [58, 9, 13, 10, 32, 44, 93, 125].contains (jsAt js o) = true

/-- Characters of primitives. -/
def InWord (c : UInt8) : Prop :=
  c ∉ ([58, 9, 13, 10, 32, 44, 93, 125, 123, 91, 34] : Bytes) ∧ 32 ≤ c ∧ c < 127

instance : DecidablePred InWord := fun _ => inferInstanceAs (Decidable (_ ∧ _ ∧ _))

theorem primitiveEnd_of_word {s : Bytes} (word : ∀ c ∈ s, InWord c) {o fuel : Nat}
    (stands : Stands js len o s) (follows : Follows js len (o + s.length))
    (enough : s.length ≤ fuel) : primitiveEnd js len fuel o = .ok (o + s.length) := by
  induction s generalizing o fuel with
  | nil =>
      rw [List.length_nil, Nat.add_zero] at follows ⊢
      cases fuel with
      | zero => rfl
      | succ fuel =>
          rw [primitiveEnd]
          split
          next here => simp only [follows here, if_true]
          · rfl
  | cons c s ih =>
      obtain ⟨fuel, rfl⟩ : ∃ left, fuel = left + 1 :=
        ⟨fuel - 1, by rw [List.length_cons] at enough; omega⟩
      obtain ⟨here, at_⟩ := stands.head
      obtain ⟨outside, low, high⟩ := word c List.mem_cons_self
      have goesOn : ([58, 9, 13, 10, 32, 44, 93, 125] : Bytes).contains c = false := by
        simp_all
      have printable : ¬ (c < 32 ∨ 127 ≤ c) := by
        rw [not_or, UInt8.not_lt, UInt8.not_le]
        exact ⟨low, high⟩
      have end_ : o + (c :: s).length = o + 1 + s.length := by
        rw [List.length_cons]
        omega
      rw [end_] at follows ⊢
      have rest : primitiveEnd js len fuel (o + 1) = .ok (o + 1 + s.length) :=
        ih (fun d mem => word d (List.mem_cons_of_mem c mem)) stands.tail follows
          (Nat.le_of_succ_le_succ enough)
      rw [primitiveEnd, if_pos here]
      simp only [at_, goesOn, Bool.false_eq_true, if_false, printable]
      exact rest

/-- Characters of a string that need no escape. -/
theorem stringEnd_plain {s : Bytes} (plain : ∀ c ∈ s, c ≠ 34 ∧ c ≠ 92) {o : Nat}
    (stands : Stands js len o s) (fuel : Nat) :
    stringEnd js len (fuel + s.length) o = stringEnd js len fuel (o + s.length) := by
  induction s generalizing o with
  | nil => rfl
  | cons c s ih =>
      obtain ⟨here, at_⟩ := stands.head
      obtain ⟨noQuote, noEscape⟩ := plain c List.mem_cons_self
      rw [List.length_cons, ← Nat.add_assoc, stringEnd, if_pos here]
      simp only [at_, noQuote, noEscape, if_false, false_and]
      rw [ih (fun d mem => plain d (List.mem_cons_of_mem c mem)) stands.tail]
      congr 1
      omega

theorem unicodeEnd_of_digits {digits : Bytes} (hex : ∀ c ∈ digits, IsHexDigit c) {o : Nat}
    (stands : Stands js len o digits) :
    unicodeEnd js len digits.length o = .ok (o + digits.length) := by
  induction digits generalizing o with
  | nil => rfl
  | cons c digits ih =>
      obtain ⟨here, at_⟩ := stands.head
      have digit : (48 ≤ c ∧ c ≤ 57) ∨ (65 ≤ c ∧ c ≤ 70) ∨ (97 ≤ c ∧ c ≤ 102) :=
        hex c List.mem_cons_self
      rw [List.length_cons, unicodeEnd, if_pos here]
      simp only [at_, digit, if_true]
      rw [ih (fun d mem => hex d (List.mem_cons_of_mem c mem)) stands.tail]
      congr 1
      omega

theorem unescaped_plain {c : Bytes} (char : Unescaped c) : ∀ b ∈ c, b ≠ 34 ∧ b ≠ 92 := by
  have high {b d : UInt8} (above : 0x80 ≤ b) (le : b ≤ d) : d ≠ 34 ∧ d ≠ 92 := by
    have := UInt8.le_trans above le
    constructor
    · rintro rfl
      exact absurd this (by decide)
    · rintro rfl
      exact absurd this (by decide)
  have tail {b : UInt8} (isTail : IsTail b) : b ≠ 34 ∧ b ≠ 92 :=
    high (UInt8.le_refl _) isTail.1
  cases char with
  | ascii _ _ noQuote noEscape =>
      intro b mem
      rw [List.mem_singleton.mp mem]
      exact ⟨noQuote, noEscape⟩
  | two first second =>
      simp only [List.forall_mem_cons]
      exact ⟨high (by decide) first.1, tail second, fun _ mem => (by cases mem)⟩
  | three first second _ _ third =>
      simp only [List.forall_mem_cons]
      exact ⟨high (by decide) first.1, tail second, tail third, fun _ mem => (by cases mem)⟩
  | four first second _ _ third fourth =>
      simp only [List.forall_mem_cons]
      exact ⟨high (by decide) first.1, tail second, tail third, tail fourth,
        fun _ mem => (by cases mem)⟩

/-- A string ends at its closing quote. -/
theorem stringEnd_of_chars {s : Bytes} (chars : Chars s) {o fuel : Nat}
    (stands : Stands js len o (s ++ [34])) (enough : s.length < fuel) :
    stringEnd js len fuel o = .ok (o + s.length) := by
  induction chars generalizing o fuel with
  | nil =>
      obtain ⟨fuel, rfl⟩ : ∃ left, fuel = left + 1 := ⟨fuel - 1, by omega⟩
      obtain ⟨here, at_⟩ := stands.head
      rw [stringEnd, if_pos here]
      simp only [at_, if_true]
      rfl
  | @unescaped c s char rest ih =>
      rw [List.append_assoc] at stands
      rw [List.length_append] at enough ⊢
      obtain ⟨left, rfl⟩ : ∃ left, fuel = left + c.length := ⟨fuel - c.length, by omega⟩
      rw [stringEnd_plain (unescaped_plain char) stands.left, ih stands.right (by omega),
        Nat.add_assoc]
  | @escape b s known rest ih =>
      obtain ⟨fuel, rfl⟩ : ∃ left, fuel = left + 1 := ⟨fuel - 1, by omega⟩
      obtain ⟨here, at_⟩ := stands.head
      obtain ⟨here', at_'⟩ := stands.tail.head
      have lt := lt_of_inText here'
      have allowed : [34, 47, 92, 98, 102, 114, 110, 116].contains b = true := by
        simp only [List.contains_iff_mem, List.mem_cons, List.not_mem_nil, or_false] at known ⊢
        tauto
      simp only [List.length_cons] at enough ⊢
      rw [stringEnd, if_pos here]
      simp only [at_, at_', lt, and_self, if_true, allowed]
      rw [if_neg (by decide), ih stands.tail.tail (by omega)]
      congr 1
      omega
  | @unicode digits s four hex rest ih =>
      obtain ⟨fuel, rfl⟩ : ∃ left, fuel = left + 1 := ⟨fuel - 1, by omega⟩
      rw [List.append_assoc, List.cons_append, List.cons_append] at stands
      obtain ⟨here, at_⟩ := stands.head
      obtain ⟨here', at_'⟩ := stands.tail.head
      have lt := lt_of_inText here'
      have digitsEnd := unicodeEnd_of_digits hex stands.tail.tail.left
      rw [four] at digitsEnd
      have ends : stringEnd js len fuel (o + 1 + 1 + digits.length) =
          .ok (o + 1 + 1 + digits.length + s.length) :=
        ih stands.tail.tail.right
          (by simp only [List.length_append, List.length_cons] at enough; omega)
      rw [stringEnd, if_pos here]
      simp only [at_, at_', lt, and_self, if_true]
      rw [if_neg (by decide), if_neg (by decide)]
      simp only [digitsEnd]
      rw [four] at ends
      rw [ends]
      congr 1
      simp only [List.length_append, List.length_cons, four]
      omega

/-! ### What the tokenizer reads -/

/-- New tokens, one behind the other. -/
def overwrite (tokens : List Jsmntok) (k : Nat) : List Jsmntok → List Jsmntok
  | [] => tokens
  | t :: ts => overwrite (tokens.set k t) (k + 1) ts

theorem overwrite_append (tokens : List Jsmntok) (k : Nat) (ts ts' : List Jsmntok) :
    overwrite tokens k (ts ++ ts') = overwrite (overwrite tokens k ts) (k + ts.length) ts' := by
  induction ts generalizing tokens k with
  | nil => rfl
  | cons t ts ih =>
      rw [List.cons_append, overwrite, overwrite, ih, List.length_cons, Nat.add_right_comm,
        ← Nat.add_assoc]

@[simp]
theorem overwrite_length (tokens : List Jsmntok) (k : Nat) (ts : List Jsmntok) :
    (overwrite tokens k ts).length = tokens.length := by
  induction ts generalizing tokens k with
  | nil => rfl
  | cons t ts ih => rw [overwrite, ih, List.length_set]

theorem overwrite_set {i k : Nat} (lt : i < k) (tokens : List Jsmntok) (t : Jsmntok)
    (ts : List Jsmntok) :
    (overwrite tokens k ts).set i t = overwrite (tokens.set i t) k ts := by
  induction ts generalizing tokens k with
  | nil => rfl
  | cons t' ts ih =>
      rw [overwrite, overwrite, ih (by omega), List.set_comm _ _ (by omega)]

theorem overwrite_before {i k : Nat} (lt : i < k) (tokens ts : List Jsmntok) :
    (overwrite tokens k ts).getD i default = tokens.getD i default := by
  induction ts generalizing tokens k with
  | nil => rfl
  | cons t ts ih =>
      rw [overwrite, ih (by omega), List.getD_eq_getElem?_getD, List.getD_eq_getElem?_getD,
        List.getElem?_set_ne (by omega)]

/-- What was overwritten is new. -/
theorem overwrite_mem {i k : Nat} {tokens ts : List Jsmntok} (le : k ≤ i)
    (lt : i < k + ts.length) (room : k + ts.length ≤ tokens.length) :
    (overwrite tokens k ts).getD i default ∈ ts := by
  induction ts generalizing tokens k with
  | nil => rw [List.length_nil] at lt; omega
  | cons t ts ih =>
      rw [List.length_cons] at lt room
      rw [overwrite]
      rcases Nat.eq_or_lt_of_le le with rfl | less
      · rw [overwrite_before (by omega), token_set (by omega), if_pos rfl]
        exact List.mem_cons_self
      · exact List.mem_cons_of_mem t (ih less (by omega) (by rw [List.length_set]; omega))

/-- From the start of the array on. -/
theorem overwrite_zero {tokens ts : List Jsmntok} (room : ts.length ≤ tokens.length) :
    overwrite tokens 0 ts = ts ++ tokens.drop ts.length := by
  have general (before : List Jsmntok) : ∀ (tokens ts : List Jsmntok), ts.length ≤ tokens.length →
      overwrite (before ++ tokens) before.length ts = before ++ (ts ++ tokens.drop ts.length) := by
    intro tokens ts
    induction ts generalizing before tokens with
    | nil => intro _; rfl
    | cons t ts ih =>
        intro room
        cases tokens with
        | nil => cases room
        | cons old tokens =>
            have next := ih (before ++ [t]) tokens (Nat.le_of_succ_le_succ room)
            rw [List.length_append, List.length_singleton] at next
            rw [overwrite, List.set_append_right _ _ (Nat.le_refl _), Nat.sub_self, List.set_cons_zero]
            simpa using next
  exact general [] tokens ts room

/-- The loop fails. -/
def Fails (js : Bytes) (len : Nat) (p : Jsmn) : Prop :=
  ∀ fuel, len - p.pos ≤ fuel → (jsmnLoop js len fuel p).2 = some .nomem

/-- The loop reads a text and makes these tokens, unless there is no room for them. -/
structure Reads (js : Bytes) (len o : Nat) (s : Bytes) (ts : List Jsmntok) : Prop where
  runs : ∀ k T, T.length = extJsonTokenSize → k + ts.length ≤ extJsonTokenSize →
    Runs js len { pos := o, toknext := k, tokens := T }
      { pos := o + s.length, toknext := k + ts.length, tokens := overwrite T k ts }
  fails : ∀ k T, T.length = extJsonTokenSize → k ≤ extJsonTokenSize →
    extJsonTokenSize < k + ts.length → Fails js len { pos := o, toknext := k, tokens := T }

theorem Runs.fails {p p' : Jsmn} (runs : Runs js len p p') (fails : Fails js len p') :
    Fails js len p := by
  intro fuel enough
  obtain ⟨fuel', enough', same⟩ := runs fuel enough
  rw [same]
  exact fails fuel' enough'

theorem Fails.step {p : Jsmn} (here : inText js len p.pos = true)
    (step : jsmnChar js len p = .error .nomem) : Fails js len p := by
  intro fuel enough
  have lt := lt_of_inText here
  obtain ⟨left, rfl⟩ : ∃ left, fuel = left + 1 := ⟨fuel - 1, by omega⟩
  rw [jsmnLoop, if_pos here, step]

theorem Reads.append {o : Nat} {s s' : Bytes} {ts ts' : List Jsmntok}
    (first : Reads js len o s ts) (second : Reads js len (o + s.length) s' ts') :
    Reads js len o (s ++ s') (ts ++ ts') := by
  refine ⟨fun k T full room => ?_, fun k T full fits over_ => ?_⟩
  · rw [List.length_append, ← Nat.add_assoc] at room
    have ran := (first.runs k T full (by omega)).trans
      (second.runs (k + ts.length) (overwrite T k ts) (by rw [overwrite_length, full]) room)
    rwa [Nat.add_assoc, Nat.add_assoc, ← List.length_append, ← List.length_append,
      ← overwrite_append] at ran
  · rw [List.length_append, ← Nat.add_assoc] at over_
    rcases Nat.lt_or_ge extJsonTokenSize (k + ts.length) with early | room
    · exact first.fails k T full fits early
    · exact (first.runs k T full room).fails
        (second.fails _ _ (by rw [overwrite_length, full]) room over_)

/-- Blanks, commas and colons make no tokens. -/
theorem reads_skip {s : Bytes} (skips : ∀ c ∈ s, c ∈ ([9, 13, 10, 32, 58, 44] : Bytes)) {o : Nat}
    (stands : Stands js len o s) : Reads js len o s [] := by
  refine ⟨fun k T _ _ => ?_, fun k T _ fits over_ => ?_⟩
  · induction s generalizing o with
    | nil => exact .refl js len _
    | cons c s ih =>
        obtain ⟨here, at_⟩ := stands.head
        have skip := skips c List.mem_cons_self
        have step : jsmnChar js len { pos := o, toknext := k, tokens := T } =
            .ok { pos := o, toknext := k, tokens := T } := by
          rw [jsmnChar, at_]
          simp only [List.mem_cons, List.not_mem_nil, or_false] at skip
          rcases skip with rfl | rfl | rfl | rfl | rfl | rfl <;> rfl
        have ran := (Runs.step here step (Nat.le_refl _)).trans
          (ih (fun d mem => skips d (List.mem_cons_of_mem c mem)) stands.tail)
        rwa [Nat.add_assoc, Nat.add_comm 1, ← List.length_cons] at ran
  · rw [List.length_nil] at over_
    omega

/-- One token. -/
theorem reads_token {o : Nat} {s : Bytes} {t : Jsmntok} (pos : Nat)
    (here : inText js len o = true) (le : o ≤ pos) (end_ : o + s.length = pos + 1)
    (step : ∀ k T, jsmnChar js len { pos := o, toknext := k, tokens := T } =
      (Jsmn.addToken { pos := o, toknext := k, tokens := T } t).map ({ · with pos := pos })) :
    Reads js len o s [t] := by
  refine ⟨fun k T full room => ?_, fun k T full fits over_ => ?_⟩
  · have notFull : ¬ k ≥ extJsonTokenSize := by
      rw [List.length_singleton] at room
      omega
    have step' := step k T
    rw [Jsmn.addToken, if_neg notFull] at step'
    have ran := Runs.step (p := { pos := o, toknext := k, tokens := T }) here step' le
    rwa [← end_] at ran
  · have isFull : k ≥ extJsonTokenSize := by
      rw [List.length_singleton] at over_
      omega
    refine .step here ?_
    rw [step, Jsmn.addToken, if_pos isFull]
    rfl

theorem reads_string {s : Bytes} (chars : Chars s) {o : Nat} (stands : Stands js len o (quoted s)) :
    Reads js len o (quoted s) [tokenAt .string (o + 1) s] := by
  have inside : Stands js len (o + 1) (s ++ [34]) := stands.tail
  have fits := inside.fits
  rw [List.length_append, List.length_singleton] at fits
  obtain ⟨here, at_⟩ := stands.head
  have ends : stringEnd js len (len - o) (o + 1) = .ok (o + 1 + s.length) :=
    stringEnd_of_chars chars inside (by omega)
  refine reads_token (o + 1 + s.length) here (by omega) ?_ fun k T => ?_
  · simp only [quoted, List.cons_append, List.length_cons, List.length_append, List.length_nil]
    omega
  · rw [jsmnChar, at_]
    simp only [jsmnParseString, ends]
    rfl

theorem inWord_of_digit {c : UInt8} (digit : IsDigit c) : InWord c := by
  refine ⟨fun mem => ?_, UInt8.le_trans (by decide) digit.1,
    UInt8.lt_of_le_of_lt digit.2 (by decide)⟩
  have between : 48 ≤ c ∧ c ≤ 57 := digit
  simp only [List.mem_cons, List.not_mem_nil, or_false] at mem
  rcases mem with rfl | rfl | rfl | rfl | rfl | rfl | rfl | rfl | rfl | rfl | rfl <;>
    exact absurd between (by decide)

theorem inWord_of_digits {ds : Bytes} (digits : Digits ds) : ∀ c ∈ ds, InWord c :=
  fun c mem => inWord_of_digit (digits.2 c mem)

theorem inWord_of_all {s : Bytes} (all : s.all (fun c => decide (InWord c)) = true) :
    ∀ c ∈ s, InWord c :=
  fun c mem => of_decide_eq_true (List.all_eq_true.mp all c mem)

theorem inWord_of_number {s : Bytes} (number : Number s) : ∀ c ∈ s, InWord c := by
  obtain ⟨sign_, int_, frac_, exp_⟩ := number
  simp only [List.forall_mem_append]
  refine ⟨⟨⟨?_, inWord_of_digits int_.1⟩, ?_⟩, ?_⟩
  · rcases sign_ with rfl | rfl <;> exact inWord_of_all (by decide)
  · rcases frac_ with rfl | ⟨ds, digits, rfl⟩
    · exact inWord_of_all (by decide)
    · exact List.forall_mem_cons.mpr ⟨by decide, inWord_of_digits digits⟩
  · rcases exp_ with rfl | ⟨e, sign, ds, isExp, isSign, digits, rfl⟩
    · exact inWord_of_all (by decide)
    · rw [List.cons_append, List.forall_mem_cons, List.forall_mem_append]
      refine ⟨?_, ?_, inWord_of_digits digits⟩
      · rcases isExp with rfl | rfl <;> decide
      · rcases isSign with rfl | rfl | rfl <;> exact inWord_of_all (by decide)

theorem Word.inWord {s : Bytes} (word : Word s) : ∀ c ∈ s, InWord c := by
  rcases word with rfl | rfl | rfl | number
  · exact inWord_of_all (by decide)
  · exact inWord_of_all (by decide)
  · exact inWord_of_all (by decide)
  · exact inWord_of_number number

theorem Word.ne_nil {s : Bytes} (word : Word s) : s ≠ [] := by
  rcases word with rfl | rfl | rfl | number
  · exact List.cons_ne_nil _ _
  · exact List.cons_ne_nil _ _
  · exact List.cons_ne_nil _ _
  · obtain ⟨-, int_, -, -⟩ := number
    simp [int_.1.1]

theorem reads_word {s : Bytes} (word : Word s) {o : Nat} (stands : Stands js len o s)
    (follows : Follows js len (o + s.length)) :
    Reads js len o s [tokenAt .primitive o s] := by
  have fits := stands.fits
  have ends : primitiveEnd js len (len - o) o = .ok (o + s.length) :=
    primitiveEnd_of_word word.inWord stands follows (by omega)
  cases s with
  | nil => exact absurd rfl word.ne_nil
  | cons c s =>
      obtain ⟨here, at_⟩ := stands.head
      obtain ⟨outside, -, -⟩ := word.inWord c List.mem_cons_self
      rw [List.length_cons] at ends
      refine reads_token (o + s.length) here (by omega) rfl fun k T => ?_
      simp only [List.mem_cons, List.not_mem_nil, or_false, not_or] at outside
      rw [jsmnChar, at_]
      have goesOn : ([9, 13, 10, 32, 58, 44] : Bytes).contains c = false := by
        simp [outside]
      simp only [outside, if_false, goesOn, Bool.false_eq_true, jsmnParsePrimitive, ends]
      rfl

theorem Jsmn.openToken_of_innermost {p : Jsmn} {i : Nat} (open_ : (p.token i).stop = none)
    (lt : i < p.toknext) (behind : ∀ k, i < k → k < p.toknext → (p.token k).stop ≠ none) :
    p.openToken = some i := by
  cases found : p.openToken with
  | none =>
      have closed := List.find?_eq_none.mp found i (by simpa using lt)
      simp only [decide_eq_true_eq] at closed
      exact absurd open_ closed
  | some k =>
      obtain ⟨isOpen, others⟩ := Jsmn.openToken_innermost found
      rcases Nat.lt_trichotomy i k with less | rfl | more
      · exact absurd isOpen (behind k less (Jsmn.openToken_lt found))
      · rfl
      · exact absurd open_ (others i more lt)

/-- An object or array, around what it holds. -/
theorem Reads.bracket (type : JsmnType) (holds : type.Holds) {o : Nat} {s : Bytes}
    {ts : List Jsmntok} (inside : Reads js len (o + 1) s ts) (closed : ∀ t ∈ ts, t.stop ≠ none)
    (stands : Stands js len o (type.bracket.1 :: s ++ [type.bracket.2])) :
    Reads js len o (type.bracket.1 :: s ++ [type.bracket.2])
      (tokenAt type o (type.bracket.1 :: s ++ [type.bracket.2]) :: ts) := by
  obtain ⟨here, at_⟩ := stands.head
  have opens (k : Nat) (T : List Jsmntok) :
      jsmnChar js len { pos := o, toknext := k, tokens := T } =
        Jsmn.addToken { pos := o, toknext := k, tokens := T }
          { type := type, start := o, stop := none } := by
    rw [jsmnChar, at_]
    rcases holds with rfl | rfl <;> rfl
  have enter {k : Nat} {T : List Jsmntok} (room : k < extJsonTokenSize) :
      Runs js len { pos := o, toknext := k, tokens := T }
        { pos := o + 1, toknext := k + 1
          tokens := T.set k { type := type, start := o, stop := none } } := by
    have step := opens k T
    rw [Jsmn.addToken, if_neg (Nat.not_le.mpr room)] at step
    exact .step here step (Nat.le_refl _)
  refine ⟨fun k T full room => ?_, fun k T full fits over_ => ?_⟩
  · rw [List.length_cons] at room
    refine (enter (by omega)).trans ((inside.runs (k + 1) _ (by rw [List.length_set, full])
      (by omega)).trans ?_)
    have back : Stands js len (o + 1 + s.length) [type.bracket.2] := stands.tail.right
    obtain ⟨here', at_'⟩ := back.head
    let p : Jsmn :=
      { pos := o + 1 + s.length, toknext := k + 1 + ts.length
        tokens := overwrite (T.set k { type := type, start := o, stop := none }) (k + 1) ts }
    have token_k : p.token k = { type := type, start := o, stop := none } := by
      rw [Jsmn.token, overwrite_before (Nat.lt_succ_self k), token_set (by omega), if_pos rfl]
    have innermost : p.openToken = some k := by
      refine Jsmn.openToken_of_innermost (by rw [token_k]) (by simp only [p]; omega) ?_
      intro i less lt
      exact closed _ (overwrite_mem less lt (by rw [List.length_set]; omega))
    have close : jsmnChar js len p = .ok { p with
        tokens := overwrite (T.set k (tokenAt type o (type.bracket.1 :: s ++ [type.bracket.2])))
          (k + 1) ts } := by
      have closes : jsmnChar js len p = p.close type := by
        rw [jsmnChar, show jsAt js p.pos = type.bracket.2 from at_']
        rcases holds with rfl | rfl <;> rfl
      have same : p.tokens.getD k default = _ := token_k
      rw [closes, Jsmn.close, innermost]
      simp only [same, ne_eq, not_true_eq_false, if_false, p]
      rw [overwrite_set (Nat.lt_succ_self k), List.set_set, tokenAt, List.length_append,
        List.length_cons, List.length_singleton]
      simp only [Nat.add_assoc, Nat.add_comm 1]
    have ran := Runs.step here' close (Nat.le_refl _)
    simp only [p] at ran
    rw [overwrite]
    convert ran using 2
    · simp only [List.length_append, List.length_cons, List.length_nil]
      omega
    · rw [List.length_cons]
      omega
  · rcases Nat.lt_or_ge k extJsonTokenSize with room | isFull
    · refine (enter room).fails (inside.fails (k + 1) _ (by rw [List.length_set, full]) room ?_)
      rw [List.length_cons] at over_
      omega
    · refine .step here ?_
      rw [opens, Jsmn.addToken, if_pos isFull]

end Texts

/-! ### The grammar -/

mutual

/-- Nothing stays open. -/
theorem ValueTokens.closed {o : Nat} {s : Bytes} {ts : List Jsmntok} :
    ValueTokens o s ts → ∀ t ∈ ts, t.stop ≠ none
  | .word _ => by simp [tokenAt]
  | .string _ => by simp [tokenAt]
  | .emptyArray _ => by simp [tokenAt]
  | .array elements => List.forall_mem_cons.mpr ⟨Option.some_ne_none _, elements.closed⟩
  | .emptyObject _ => by simp [tokenAt]
  | .object members => List.forall_mem_cons.mpr ⟨Option.some_ne_none _, members.closed⟩

theorem ElementTokens.closed {o : Nat} {s : Bytes} {ts : List Jsmntok} :
    ElementTokens o s ts → ∀ t ∈ ts, t.stop ≠ none
  | .mk _ value _ => value.closed

theorem ElementsTokens.closed {o : Nat} {s : Bytes} {ts : List Jsmntok} :
    ElementsTokens o s ts → ∀ t ∈ ts, t.stop ≠ none
  | .one element => element.closed
  | .more element rest => List.forall_mem_append.mpr ⟨element.closed, rest.closed⟩

theorem MemberTokens.closed {o : Nat} {s : Bytes} {ts : List Jsmntok} :
    MemberTokens o s ts → ∀ t ∈ ts, t.stop ≠ none
  | .mk _ _ _ element => List.forall_mem_cons.mpr ⟨Option.some_ne_none _, element.closed⟩

theorem MembersTokens.closed {o : Nat} {s : Bytes} {ts : List Jsmntok} :
    MembersTokens o s ts → ∀ t ∈ ts, t.stop ≠ none
  | .one member => member.closed
  | .more member rest => List.forall_mem_append.mpr ⟨member.closed, rest.closed⟩

end

section Reading

variable {js : Bytes} {len : Nat}

theorem Follows.of_head {o : Nat} {c : UInt8} {s : Bytes} (stands : Stands js len o (c :: s))
    (ends : c ∈ ([58, 9, 13, 10, 32, 44, 93, 125] : Bytes)) : Follows js len o := by
  intro _
  rw [stands.head.2]
  exact List.contains_iff_mem.mpr ends

theorem Follows.blank {o : Nat} {b : Bytes} (blank : Blank b) (stands : Stands js len o b)
    (follows : Follows js len (o + b.length)) : Follows js len o := by
  cases b with
  | nil => exact follows
  | cons c b =>
      refine .of_head stands ?_
      rcases blank c List.mem_cons_self with rfl | rfl | rfl | rfl <;> decide

theorem reads_blank {b : Bytes} (blank : Blank b) {o : Nat} (stands : Stands js len o b) :
    Reads js len o b [] := by
  refine reads_skip (fun c mem => ?_) stands
  rcases blank c mem with rfl | rfl | rfl | rfl <;> decide

/-- A comma or a colon between two texts. -/
theorem Reads.separated {o : Nat} {c : UInt8} (separator : c = 58 ∨ c = 44) {s s' : Bytes}
    {ts ts' : List Jsmntok} (stands : Stands js len o (s ++ c :: s')) (first : Reads js len o s ts)
    (second : Reads js len (o + s.length + 1) s' ts') :
    Reads js len o (s ++ c :: s') (ts ++ ts') := by
  have between : Stands js len (o + s.length) ([c] ++ s') := stands.right
  have skip : Reads js len (o + s.length) [c] [] := by
    refine reads_skip (fun d mem => ?_) between.left
    rw [List.mem_singleton.mp mem]
    rcases separator with rfl | rfl <;> decide
  exact first.append (skip.append second)

mutual

theorem ValueTokens.reads {o : Nat} {s : Bytes} {ts : List Jsmntok} :
    ValueTokens o s ts → Stands js len o s → Follows js len (o + s.length) → Reads js len o s ts
  | .word word, stands, follows => reads_word word stands follows
  | .string chars, stands, _ => reads_string chars stands
  | .emptyArray blank, stands, _ =>
      Reads.bracket .array (.inr rfl) (reads_blank blank stands.left.tail)
        (List.forall_mem_nil _) stands
  | .array elements, stands, _ =>
      Reads.bracket .array (.inr rfl)
        (elements.reads stands.left.tail (.of_head stands.tail.right (by decide))) elements.closed
        stands
  | .emptyObject blank, stands, _ =>
      Reads.bracket .object (.inl rfl) (reads_blank blank stands.left.tail)
        (List.forall_mem_nil _) stands
  | .object members, stands, _ =>
      Reads.bracket .object (.inl rfl)
        (members.reads stands.left.tail (.of_head stands.tail.right (by decide))) members.closed
        stands

theorem ElementTokens.reads {o : Nat} {s : Bytes} {ts : List Jsmntok} :
    ElementTokens o s ts → Stands js len o s → Follows js len (o + s.length) → Reads js len o s ts
  | .mk before value behind, stands, follows => by
      rw [List.length_append, ← Nat.add_assoc] at follows
      have end_ := follows.blank behind stands.right
      rw [List.length_append, ← Nat.add_assoc] at end_
      have whole := ((reads_blank before stands.left.left).append
        (value.reads stands.left.right end_)).append (reads_blank behind stands.right)
      rwa [List.nil_append, List.append_nil] at whole

theorem ElementsTokens.reads {o : Nat} {s : Bytes} {ts : List Jsmntok} :
    ElementsTokens o s ts → Stands js len o s → Follows js len (o + s.length) → Reads js len o s ts
  | .one element, stands, follows => element.reads stands follows
  | .more element rest, stands, follows => by
      have first := element.reads stands.left (.of_head stands.right (by decide))
      refine .separated (.inr rfl) stands first (rest.reads stands.right.tail ?_)
      rw [List.length_append, List.length_cons] at follows
      convert follows using 1
      omega

theorem MemberTokens.reads {o : Nat} {s : Bytes} {ts : List Jsmntok} :
    MemberTokens o s ts → Stands js len o s → Follows js len (o + s.length) → Reads js len o s ts
  | @MemberTokens.mk _ a key b _ _ before chars behind element, stands, follows => by
      have first := ((reads_blank before stands.left.left.left).append
        (reads_string chars stands.left.left.right)).append
          (reads_blank behind stands.left.right)
      have at_ : o + a.length + (quoted key).length + b.length + 1 =
          o + (a ++ quoted key ++ b).length + 1 := by
        simp only [List.length_append]
        omega
      have value := element.reads (at_ ▸ stands.right.tail) (by
        rw [List.length_append, List.length_cons] at follows
        convert follows using 1
        omega)
      exact .separated (.inl rfl) stands first (at_ ▸ value)

theorem MembersTokens.reads {o : Nat} {s : Bytes} {ts : List Jsmntok} :
    MembersTokens o s ts → Stands js len o s → Follows js len (o + s.length) → Reads js len o s ts
  | .one member, stands, follows => member.reads stands follows
  | .more member rest, stands, follows => by
      have first := member.reads stands.left (.of_head stands.right (by decide))
      refine .separated (.inr rfl) stands first (rest.reads stands.right.tail ?_)
      rw [List.length_append, List.length_cons] at follows
      convert follows using 1
      omega

end

end Reading

theorem jsmnLoop_end {js : Bytes} {len fuel : Nat} {p : Jsmn} (ended : len ≤ p.pos) :
    jsmnLoop js len fuel p = (p, none) := by
  have over_ : ¬ inText js len p.pos = true := fun here => absurd (lt_of_inText here) (by omega)
  cases fuel with
  | zero => rfl
  | succ fuel => rw [jsmnLoop, if_neg over_]

theorem openToken_of_closed {p : Jsmn}
    (closed : ∀ i < p.toknext, (p.token i).stop ≠ none) : p.openToken = none := by
  cases found : p.openToken with
  | none => rfl
  | some i => exact absurd (Jsmn.openToken_innermost found).1 (closed i (Jsmn.openToken_lt found))

/-- A JSON text has tokens of its own, in the order in which its values and keys begin. They are
what `jsmn_parse` makes of it, if there are tokens enough; if not, it fails for that. -/
theorem jsmnParse_json {s : Bytes} (text : Element s) (rest : Bytes) {tokens : List Jsmntok}
    (full : tokens.length = extJsonTokenSize) :
    (∃ ts, ElementTokens 0 s ts) ∧ ∀ ts, ElementTokens 0 s ts →
      (ts.length ≤ extJsonTokenSize → jsmnParse (s ++ rest) s.length tokens =
        ({ pos := s.length, toknext := ts.length, tokens := ts ++ tokens.drop ts.length }, none)) ∧
      (extJsonTokenSize < ts.length →
        (jsmnParse (s ++ rest) s.length tokens).2 = some .nomem) := by
  refine ⟨exists_elementTokens text 0, fun ts has => ?_⟩
  have stands : Stands (s ++ rest) s.length 0 s := by
    refine ⟨by omega, ⟨rest, rfl⟩, fun zero => ?_⟩
    rcases text.printable 0 zero with low | other
    · exact absurd low (by decide)
    · revert other
      decide
  have follows : Follows (s ++ rest) s.length (0 + s.length) := by
    intro here
    exact absurd (lt_of_inText here) (by omega)
  obtain ⟨runs, fails⟩ := has.reads stands follows
  refine ⟨fun room => ?_, fun over_ => ?_⟩
  · obtain ⟨fuel, -, same⟩ := runs 0 tokens full (by omega) s.length (Nat.sub_le _ _)
    rw [overwrite_zero (by omega), Nat.zero_add, Nat.zero_add] at same
    have ended := same.trans (jsmnLoop_end (Nat.le_refl _))
    have closed : Jsmn.openToken
        { pos := s.length, toknext := ts.length, tokens := ts ++ tokens.drop ts.length } = none := by
      refine openToken_of_closed fun i lt => has.closed _ ?_
      simp only at lt
      rw [Jsmn.token, List.getD_append _ _ _ _ lt, List.getD_eq_getElem _ _ lt]
      exact List.getElem_mem lt
    simp only [jsmnParse, ended, closed]
    rfl
  · have failed := fails 0 tokens full (Nat.zero_le _) (by omega) s.length (Nat.sub_le _ _)
    rw [jsmnParse]
    split
    next loop =>
      rw [loop] at failed
      cases failed
    · exact failed

/-- `[1,{}]` makes three tokens. -/
theorem jsmnParse_json_array :
    jsmnParse [91, 49, 44, 123, 125, 93] 6 (List.replicate 100 default) =
      ({ pos := 6, toknext := 3, tokens :=
          [{ type := .array, start := 0, stop := some 6 },
            { type := .primitive, start := 1, stop := some 2 },
            { type := .object, start := 3, stop := some 5 }] ++ List.replicate 97 default },
        none) := by
  have number : Number ([] ++ [49] ++ [] ++ []) :=
    .mk (.inl rfl) ⟨⟨List.cons_ne_nil _ _, List.forall_mem_singleton.mpr ⟨by decide, by decide⟩⟩,
      .inr (by decide)⟩ (.inl rfl) (.inl rfl)
  have one : ElementTokens 1 [49] [{ type := .primitive, start := 1, stop := some 2 }] :=
    .mk (a := []) (b := []) blank_nil (.word (.inr (.inr (.inr number)))) blank_nil
  have object : ElementTokens 3 [123, 125] [{ type := .object, start := 3, stop := some 5 }] :=
    .mk (a := []) (b := []) blank_nil (.emptyObject (s := []) blank_nil) blank_nil
  have elements : ElementsTokens 1 [49, 44, 123, 125]
      [{ type := .primitive, start := 1, stop := some 2 },
        { type := .object, start := 3, stop := some 5 }] :=
    .more (e := [49]) one (.one object)
  have array : ElementTokens 0 [91, 49, 44, 123, 125, 93]
      [{ type := .array, start := 0, stop := some 6 },
        { type := .primitive, start := 1, stop := some 2 },
        { type := .object, start := 3, stop := some 5 }] :=
    .mk (a := []) (b := []) blank_nil (.array elements) blank_nil
  have text : Element [91, 49, 44, 123, 125, 93] :=
    (Value.array (.more (e := [49]) (Value.number number).element
      (.one (Value.emptyObject (s := []) blank_nil).element))).element
  exact ((jsmnParse_json text [] (by decide)).2 _ array).1 (by decide)

end LwipExt
