import Mathlib.Data.List.Infix
import Mathlib.Tactic.Common

/-!
Words that do not overlap: no word is a proper prefix of another, and no proper end
of a word is the start of one. Pieces of such words fit together to a sequence of
them in one way only, as the words themselves (`pieces_eq_words`).
-/

namespace LwipExt.Lib

universe u

variable {α : Type u}

/-- The words do not overlap. -/
structure NoOverlap (words : List (List α)) : Prop where
  prefixFree : ∀ w ∈ words, ∀ w' ∈ words, w <+: w' → w = w'
  endFree : ∀ w ∈ words, ∀ u, u ≠ [] → u <:+ w → u ≠ w → ∀ w' ∈ words, ¬ u <+: w'

/-- Every piece is a nonempty start of a word. -/
def PiecesOf (words pieces : List (List α)) : Prop :=
  ∀ p ∈ pieces, p ≠ [] ∧ ∃ w ∈ words, p <+: w

section Words

variable {words : List (List α)}

/-- No pieces fit together from inside a word on: the piece that covers its end would
start with an end of the word. -/
theorem flatten_ne_end (free : NoOverlap words) {w u rest : List α} (mem : w ∈ words)
    (nonempty : u ≠ []) (isEnd : u <:+ w) (proper : u ≠ w) {pieces : List (List α)}
    (fit : PiecesOf words pieces) : pieces.flatten ≠ u ++ rest := by
  induction pieces generalizing u with
  | nil =>
      intro eq
      exact nonempty (List.append_eq_nil_iff.mp eq.symm).1
  | cons q pieces ih =>
      intro eq
      obtain ⟨qNonempty, w', mem', start⟩ := fit q List.mem_cons_self
      rw [List.flatten_cons] at eq
      rcases List.append_eq_append_iff.mp eq with ⟨v, u_eq, rest_eq⟩ | ⟨v, q_eq, _⟩
      · -- `q` lies within `u`; if it does not fill it, the rest of `u` is an end of `w` again
        by_cases filled : v = []
        · have : u <+: w' := by simpa [u_eq, filled] using start
          exact free.endFree w mem u nonempty isEnd proper w' mem' this
        · have isEnd' : v <:+ w := (List.suffix_append q v).trans (u_eq ▸ isEnd)
          have proper' : v ≠ w := by
            intro same
            have longer := (u_eq ▸ isEnd).length_le
            have := List.length_pos_of_ne_nil qNonempty
            rw [same, List.length_append] at longer
            omega
          exact ih filled isEnd' proper' (fun p h => fit p (List.mem_cons_of_mem q h)) rest_eq
      · have : u <+: w' := (q_eq ▸ List.prefix_append u v).trans start
        exact free.endFree w mem u nonempty isEnd proper w' mem' this

/-- Pieces of words that fit together to a sequence of the words are those words. -/
theorem pieces_eq_words (free : NoOverlap words) {pieces target : List (List α)}
    (fit : PiecesOf words pieces) (within : ∀ w ∈ target, w ∈ words)
    (nonempty : ∀ w ∈ target, w ≠ []) (eq : pieces.flatten = target.flatten) :
    pieces = target := by
  induction target generalizing pieces with
  | nil =>
      cases pieces with
      | nil => rfl
      | cons q pieces =>
          have := (fit q List.mem_cons_self).1
          simp_all
  | cons w target ih =>
      have mem := within w List.mem_cons_self
      cases pieces with
      | nil =>
          have := nonempty w List.mem_cons_self
          simp_all
      | cons q pieces =>
          obtain ⟨qNonempty, w', mem', start⟩ := fit q List.mem_cons_self
          have fit' : PiecesOf words pieces := fun p h => fit p (List.mem_cons_of_mem q h)
          rw [List.flatten_cons, List.flatten_cons] at eq
          have whole : q = w := by
            rcases List.append_eq_append_iff.mp eq with ⟨v, w_eq, rest_eq⟩ | ⟨v, q_eq, _⟩
            · by_cases filled : v = []
              · simp [w_eq, filled]
              · have isEnd : v <:+ w := w_eq ▸ List.suffix_append q v
                have proper : v ≠ w := by
                  intro same
                  have := List.length_pos_of_ne_nil qNonempty
                  have := congrArg List.length w_eq
                  rw [same, List.length_append] at this
                  omega
                exact absurd rest_eq (flatten_ne_end free mem filled isEnd proper fit')
            · have : w <+: w' := (q_eq ▸ List.prefix_append w v).trans start
              have same := free.prefixFree w mem w' mem' this
              exact List.IsPrefix.eq_of_length_le (same ▸ start)
                (by simp [q_eq])
          rw [whole] at eq ⊢
          rw [ih fit' (fun v h => within v (List.mem_cons_of_mem w h))
            (fun v h => nonempty v (List.mem_cons_of_mem w h)) (List.append_cancel_left eq)]

end Words

/-- A word is cut into blocks of one length and a shorter last one in one way only. -/
theorem blocks_unique {k : Nat} {xs ys : List (List α)} {x y : List α}
    (full : ∀ w ∈ xs, w.length = k) (full' : ∀ w ∈ ys, w.length = k) (short : x.length < k)
    (short' : y.length < k) (same : (xs ++ [x]).flatten = (ys ++ [y]).flatten) :
    xs = ys ∧ x = y := by
  induction xs generalizing ys with
  | nil =>
      cases ys with
      | nil => exact ⟨rfl, by simpa using same⟩
      | cons w ys =>
          have lengths := congrArg List.length same
          have := full' w List.mem_cons_self
          simp only [List.nil_append, List.cons_append, List.flatten_cons, List.flatten_nil,
            List.length_append, List.length_nil] at lengths
          omega
  | cons w xs ih =>
      have long := full w List.mem_cons_self
      cases ys with
      | nil =>
          have lengths := congrArg List.length same
          simp only [List.nil_append, List.cons_append, List.flatten_cons, List.flatten_nil,
            List.length_append, List.length_nil] at lengths
          omega
      | cons w' ys =>
          have long' := full' w' List.mem_cons_self
          simp only [List.cons_append, List.flatten_cons] at same
          obtain ⟨first, rest⟩ := List.append_inj same (long.trans long'.symm)
          obtain ⟨rest, last⟩ := ih (fun v mem => full v (List.mem_cons_of_mem _ mem))
            (fun v mem => full' v (List.mem_cons_of_mem _ mem)) rest
          exact ⟨by rw [first, rest], last⟩

end LwipExt.Lib
