import Mathlib.Algebra.GroupWithZero.Nat
import Mathlib.Data.List.Basic
import Mathlib.Tactic.Common

/-!
Resumable transmission: a sender offers what is left of a word, a channel takes a
prefix of each offer, and the sender goes on behind what was taken.

`pieces take length o es` is how the channel cuts the offers of such a sender, as
offsets and lengths, and `transmitted` is how far it gets. `resumed_eq` says that a
sender that reads each piece at its offset emits the word in order. A sender that
reads every piece from the start of the word emits the same exactly when each piece
repeats the start (`restarted_eq_iff`).
-/

namespace LwipExt.Lib

universe u v

variable {α : Type u} {ε : Type v}

/-- The pieces taken of a word of `length` from offset `o` on: `take e n` is how many
symbols the channel takes, in situation `e`, of an offer of `n`. The last piece is
the one that reaches the end. -/
def pieces (take : ε → Nat → Nat) (length : Nat) : Nat → List ε → List (Nat × Nat)
  | _, [] => []
  | o, e :: es =>
      let n := take e (length - o)
      if o + n < length then (o, n) :: pieces take length (o + n) es else [(o, n)]

/-- Number of symbols in the pieces. -/
def pieceTotal (ps : List (Nat × Nat)) : Nat := (ps.map (·.2)).sum

/-- How many symbols the channel takes of a word of `length`, offered from its start. -/
def transmitted (take : ε → Nat → Nat) (length : Nat) (es : List ε) : Nat :=
  pieceTotal (pieces take length 0 es)

section Pieces

variable {take : ε → Nat → Nat} {length o : Nat} {es : List ε}

@[simp] theorem pieceTotal_nil : pieceTotal [] = 0 := rfl

@[simp] theorem pieceTotal_cons (p : Nat × Nat) (ps : List (Nat × Nat)) :
    pieceTotal (p :: ps) = p.2 + pieceTotal ps := by
  simp [pieceTotal]

theorem pieceTotal_eq_zero {ps : List (Nat × Nat)} :
    pieceTotal ps = 0 ↔ ∀ p ∈ ps, p.2 = 0 := by
  induction ps with
  | nil => simp
  | cons p ps ih => simp [ih]

/-- A channel that takes no more than it is offered never gets past the end. -/
theorem pieceTotal_le (es : List ε) (bounded : ∀ e n, take e n ≤ n) (le : o ≤ length) :
    o + pieceTotal (pieces take length o es) ≤ length := by
  induction es generalizing o with
  | nil => simpa [pieces] using le
  | cons e es ih =>
      have fits := bounded e (length - o)
      simp only [pieces]
      split_ifs with more
      · have := ih (o := o + take e (length - o)) (by omega)
        simp only [pieceTotal_cons]
        omega
      · simp only [pieceTotal_cons, pieceTotal_nil]
        omega

/-- Reading each piece at its offset emits the word from the first offset on. -/
theorem resumed_eq (word : List α) :
    ((pieces take word.length o es).flatMap fun p => (word.drop p.1).take p.2) =
      (word.drop o).take (pieceTotal (pieces take word.length o es)) := by
  induction es generalizing o with
  | nil => simp [pieces]
  | cons e es ih =>
      simp only [pieces]
      split_ifs with more
      · rw [List.flatMap_cons, ih, pieceTotal_cons, List.take_add, List.drop_drop]
      · simp

/-- Reading each piece from the start of the word emits the same as reading it at its
offset, exactly when each piece repeats the start. -/
theorem restarted_eq_iff (word : List α) (es : List ε) (bounded : ∀ e n, take e n ≤ n)
    (le : o ≤ word.length) :
    ((pieces take word.length o es).flatMap fun p => word.take p.2) =
        (word.drop o).take (pieceTotal (pieces take word.length o es)) ↔
      ∀ p ∈ pieces take word.length o es, word.take p.2 = (word.drop p.1).take p.2 := by
  induction es generalizing o with
  | nil => simp [pieces]
  | cons e es ih =>
      have fits := bounded e (word.length - o)
      simp only [pieces]
      split_ifs with more
      · rw [List.flatMap_cons, pieceTotal_cons, List.take_add, List.drop_drop, List.forall_mem_cons,
          ← ih (by omega)]
        have sameLength : (word.take (take e (word.length - o))).length =
            ((word.drop o).take (take e (word.length - o))).length := by
          simp only [List.length_take, List.length_drop]
          omega
        constructor
        · exact fun same => List.append_inj same sameLength
        · rintro ⟨here, rest⟩
          rw [here, rest]
      · simp

end Pieces

end LwipExt.Lib
