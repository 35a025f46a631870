import Mathlib.Logic.Function.Iterate

/-!
Cyclic redundancy checks with the low bit first.

`feed` takes one bit into the register; `register` takes a text of bits. An implementation
that adds a whole word to the register and then shifts computes the same
(`rounds_absorb`), and the register is linear in what it takes (`absorb_xor`).
-/

namespace LwipExt.Lib.Crc

variable {w : Nat} (poly : BitVec w)

/-- The register after one more bit of the text. -/
def feed (reg : BitVec w) (bit : Bool) : BitVec w :=
  if reg.getLsbD 0 ^^ bit then reg >>> 1 ^^^ poly else reg >>> 1

/-- The register after a text. -/
def register (reg : BitVec w) (text : List Bool) : BitVec w := text.foldl (feed poly) reg

/-- The register is shifted, no bit is taken. -/
def shift (reg : BitVec w) : BitVec w := feed poly reg false

/-- The low `n` bits of a word, the lowest first. -/
def bits : (n : Nat) → BitVec w → List Bool
  | 0, _ => []
  | n + 1, word => word.getLsbD 0 :: bits n (word >>> 1)

/-- The bits of a word are those at its lowest places. -/
theorem bits_eq_map (n : Nat) (word : BitVec w) : bits n word = (List.range n).map word.getLsbD := by
  induction n generalizing word with
  | zero => rfl
  | succ n ih =>
      rw [bits, ih, List.range_succ_eq_map, List.map_cons, List.map_map]
      congr 1
      apply List.map_congr_left
      intro i _
      rw [BitVec.getLsbD_ushiftRight, Nat.add_comm]
      rfl

/-- A check with its initial value, and what is added to the register in the end. -/
def crc (init final : BitVec w) (text : List Bool) : BitVec w := register poly init text ^^^ final

@[simp] theorem register_nil (reg : BitVec w) : register poly reg [] = reg := rfl

@[simp] theorem register_cons (reg : BitVec w) (bit : Bool) (text : List Bool) :
    register poly reg (bit :: text) = register poly (feed poly reg bit) text := rfl

theorem register_append (reg : BitVec w) (text text' : List Bool) :
    register poly reg (text ++ text') = register poly (register poly reg text) text' := by
  apply List.foldl_append

theorem xor_xor_xor (a b c d : BitVec w) : a ^^^ b ^^^ (c ^^^ d) = a ^^^ c ^^^ (b ^^^ d) := by
  ac_rfl

/-- One step is linear in the register and the bit. -/
theorem feed_xor (a b : BitVec w) (x y : Bool) :
    feed poly (a ^^^ b) (x ^^ y) = feed poly a x ^^^ feed poly b y := by
  have cancel (c d : BitVec w) : c ^^^ poly ^^^ (d ^^^ poly) = c ^^^ d := by
    rw [xor_xor_xor, BitVec.xor_self, BitVec.xor_zero]
  have parity : ((a ^^^ b).getLsbD 0 ^^ (x ^^ y)) = ((a.getLsbD 0 ^^ x) ^^ (b.getLsbD 0 ^^ y)) := by
    rw [BitVec.getLsbD_xor]
    cases a.getLsbD 0 <;> cases b.getLsbD 0 <;> cases x <;> cases y <;> rfl
  unfold feed
  rw [parity, BitVec.ushiftRight_xor_distrib]
  generalize a >>> 1 = a', b >>> 1 = b'
  cases a.getLsbD 0 ^^ x <;> cases b.getLsbD 0 ^^ y
  · rfl
  · exact BitVec.xor_assoc a' b' poly
  · show a' ^^^ b' ^^^ poly = a' ^^^ poly ^^^ b'
    rw [BitVec.xor_assoc, BitVec.xor_comm b', BitVec.xor_assoc]
  · exact (cancel a' b').symm

theorem shift_xor (a b : BitVec w) : shift poly (a ^^^ b) = shift poly a ^^^ shift poly b :=
  feed_xor poly a b false false

theorem shift_zero : shift poly 0#w = 0#w := by
  simp [shift, feed]

theorem rounds_xor (n : Nat) (a b : BitVec w) :
    (shift poly)^[n] (a ^^^ b) = (shift poly)^[n] a ^^^ (shift poly)^[n] b := by
  induction n generalizing a b with
  | zero => rfl
  | succ n ih =>
      rw [Function.iterate_succ_apply, Function.iterate_succ_apply, Function.iterate_succ_apply,
        shift_xor, ih]

theorem rounds_zero (n : Nat) : (shift poly)^[n] 0#w = 0#w := by
  induction n with
  | zero => rfl
  | succ n ih => rw [Function.iterate_succ_apply, shift_zero, ih]

/-- A bit that is in the register already is shifted out of it. -/
theorem shift_absorb (reg word : BitVec w) :
    shift poly (reg ^^^ word) = feed poly reg (word.getLsbD 0) ^^^ word >>> 1 := by
  have out : feed poly word (word.getLsbD 0) = word >>> 1 := by
    rw [feed, Bool.xor_self, if_neg Bool.false_ne_true]
  have both := feed_xor poly reg word (word.getLsbD 0) (word.getLsbD 0)
  rw [Bool.xor_self, out] at both
  exact both

/-- **Adding a word of `n` bits and shifting `n` times takes its bits**, the lowest first. -/
theorem rounds_absorb {n : Nat} {word : BitVec w}
    (short : ∀ i, n ≤ i → word.getLsbD i = false) (reg : BitVec w) :
    (shift poly)^[n] (reg ^^^ word) = register poly reg (bits n word) := by
  induction n generalizing reg word with
  | zero =>
      have zero : word = 0#w := by
        apply BitVec.eq_of_getLsbD_eq
        intro i _
        simpa using short i (Nat.zero_le i)
      rw [zero]
      exact BitVec.xor_zero
  | succ n ih =>
      rw [Function.iterate_succ_apply, shift_absorb, bits, register_cons]
      apply ih
      intro i le
      rw [BitVec.getLsbD_ushiftRight]
      exact short (1 + i) (by omega)

/-- The register after words are added one after the other, each shifted out `n` places. -/
def absorb (n : Nat) (reg : BitVec w) (words : List (BitVec w)) : BitVec w :=
  words.foldl (fun reg word => (shift poly)^[n] (reg ^^^ word)) reg

@[simp] theorem absorb_nil (n : Nat) (reg : BitVec w) : absorb poly n reg [] = reg := rfl

@[simp] theorem absorb_cons (n : Nat) (reg word : BitVec w) (words : List (BitVec w)) :
    absorb poly n reg (word :: words) =
      absorb poly n ((shift poly)^[n] (reg ^^^ word)) words := rfl

theorem absorb_append (n : Nat) (reg : BitVec w) (words words' : List (BitVec w)) :
    absorb poly n reg (words ++ words') = absorb poly n (absorb poly n reg words) words' := by
  apply List.foldl_append

/-- Words of `n` bits are taken bit by bit. -/
theorem absorb_eq_register {n : Nat} {words : List (BitVec w)}
    (short : ∀ word ∈ words, ∀ i, n ≤ i → word.getLsbD i = false) (reg : BitVec w) :
    absorb poly n reg words = register poly reg (words.flatMap (bits n)) := by
  induction words generalizing reg with
  | nil => rfl
  | cons word words ih =>
      rw [absorb_cons, List.flatMap_cons, register_append,
        rounds_absorb poly (short word List.mem_cons_self),
        ih fun other mem => short other (List.mem_cons_of_mem _ mem)]

/-- **What is added to the words is added to the register**, as if it had been taken alone. -/
theorem absorb_xor {α : Type*} (n : Nat) (f g : α → BitVec w) (a b : BitVec w) (items : List α) :
    absorb poly n (a ^^^ b) (items.map fun item => f item ^^^ g item) =
      absorb poly n a (items.map f) ^^^ absorb poly n b (items.map g) := by
  induction items generalizing a b with
  | nil => rfl
  | cons item items ih =>
      rw [List.map_cons, List.map_cons, List.map_cons, absorb_cons, absorb_cons, absorb_cons,
        xor_xor_xor, rounds_xor, ih]

/-- Nothing added, nothing in the register. -/
theorem absorb_zero {n : Nat} {words : List (BitVec w)} (none : ∀ word ∈ words, word = 0#w) :
    absorb poly n 0#w words = 0#w := by
  induction words with
  | nil => rfl
  | cons word words ih =>
      rw [absorb_cons, none word List.mem_cons_self, BitVec.xor_self, rounds_zero]
      exact ih fun other mem => none other (List.mem_cons_of_mem _ mem)

/-! ### A polynomial of full degree loses nothing -/

variable {poly}

/-- The top place is empty after a shift, unless the polynomial was added. -/
theorem shift_eq_zero {reg : BitVec w} (top : poly.getLsbD (w - 1) = true)
    (empty : shift poly reg = 0#w) : reg = 0#w := by
  have pos : 0 < w := by
    rcases Nat.eq_zero_or_pos w with rfl | pos
    · rw [BitVec.getLsbD_of_ge _ _ (Nat.zero_le _)] at top
      cases top
    · exact pos
  rw [shift, feed, Bool.xor_false] at empty
  cases low : reg.getLsbD 0 with
  | true =>
      rw [low, if_pos rfl] at empty
      have at_ := congrArg (BitVec.getLsbD · (w - 1)) (BitVec.xor_eq_zero_iff.mp empty)
      have out : reg.getLsbD (1 + (w - 1)) = false := BitVec.getLsbD_of_ge _ _ (by omega)
      rw [BitVec.getLsbD_ushiftRight, out, top] at at_
      cases at_
  | false =>
      rw [low, if_neg Bool.false_ne_true] at empty
      apply BitVec.eq_of_getLsbD_eq
      intro i _
      rw [BitVec.getLsbD_zero]
      cases i with
      | zero => exact low
      | succ i =>
          have at_ := congrArg (BitVec.getLsbD · i) empty
          rwa [BitVec.getLsbD_ushiftRight, BitVec.getLsbD_zero, Nat.add_comm] at at_

theorem rounds_eq_zero {n : Nat} {reg : BitVec w} (top : poly.getLsbD (w - 1) = true)
    (empty : (shift poly)^[n] reg = 0#w) : reg = 0#w := by
  induction n with
  | zero => exact empty
  | succ n ih =>
      rw [Function.iterate_succ_apply'] at empty
      exact ih (shift_eq_zero top empty)

/-- What is in the register stays in it while nothing is added. -/
theorem eq_zero_of_absorb_zeros {n : Nat} {reg : BitVec w} {words : List (BitVec w)}
    (top : poly.getLsbD (w - 1) = true) (zeros : ∀ word ∈ words, word = 0#w)
    (empty : absorb poly n reg words = 0#w) : reg = 0#w := by
  induction words generalizing reg with
  | nil => exact empty
  | cons word words ih =>
      rw [absorb_cons, zeros word List.mem_cons_self, BitVec.xor_zero] at empty
      exact rounds_eq_zero top (ih (fun other mem => zeros other (List.mem_cons_of_mem _ mem)) empty)

end LwipExt.Lib.Crc
