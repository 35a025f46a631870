import Mathlib.Data.List.Basic
import Mathlib.Tactic.Common

/-!
Cyclic buffers with counters that run on.

The items of such a buffer are in the cells from one counter on, each counter taken modulo the
number of cells. `Held` says which items these are. An item goes behind them (`Held.put`), some are
taken in front (`Held.drop`), and what stands before the end of the buffer can be read in one piece
(`Held.take_drop`).
-/

namespace LwipExt.Lib

universe u

variable {α : Type u}

/-- The items in the cells from a counter on. -/
structure Held (cells : List α) (get : Nat) (items : List α) : Prop where
  fits : items.length ≤ cells.length
  stored : ∀ i < items.length, cells[(get + i) % cells.length]? = items[i]?

theorem held_nil (cells : List α) (get : Nat) : Held cells get [] :=
  ⟨Nat.zero_le _, fun i lt => by cases lt⟩

namespace Held

variable {cells items : List α} {get : Nat}

/-- Distinct items are in distinct cells. -/
theorem mod_ne {n i j : Nat} (lt : i < j) (near : j < n) : (get + i) % n ≠ (get + j) % n := by
  intro same
  have dvd : n ∣ (get + j) - (get + i) :=
    Nat.dvd_of_mod_eq_zero (Nat.sub_mod_eq_zero_of_mod_eq same.symm)
  have pos : 0 < (get + j) - (get + i) := by omega
  have le := Nat.le_of_dvd pos dvd
  omega

theorem put (held : Held cells get items) (room : items.length < cells.length) (item : α) :
    Held (cells.set ((get + items.length) % cells.length) item) get (items ++ [item]) := by
  constructor
  · rw [List.length_append, List.length_set]
    exact room
  · intro i lt
    rw [List.length_append, List.length_singleton] at lt
    rw [List.length_set]
    rcases Nat.lt_succ_iff_lt_or_eq.mp lt with before | rfl
    · rw [List.getElem?_set_ne (mod_ne before room).symm, held.stored i before,
        List.getElem?_append_left before]
    · rw [List.getElem?_set_self (Nat.mod_lt _ (by omega)), List.getElem?_append_right (Nat.le_refl _),
        Nat.sub_self]
      rfl

theorem drop (held : Held cells get items) (k : Nat) : Held cells (get + k) (items.drop k) := by
  constructor
  · rw [List.length_drop]
    exact Nat.le_trans (Nat.sub_le _ _) held.fits
  · intro i lt
    rw [List.length_drop] at lt
    rw [Nat.add_assoc, held.stored (k + i) (by omega), List.getElem?_drop]

/-- The counter counts only modulo the number of cells. -/
theorem congr {get' : Nat} (held : Held cells get items)
    (same : get % cells.length = get' % cells.length) : Held cells get' items := by
  refine ⟨held.fits, fun i lt => ?_⟩
  rw [← held.stored i lt, Nat.add_mod, ← same, ← Nat.add_mod]

/-- What is read up to the end of the buffer. -/
theorem take_drop (held : Held cells get items) {k : Nat} (le : k ≤ items.length)
    (inside : get % cells.length + k ≤ cells.length) :
    (cells.drop (get % cells.length)).take k = items.take k := by
  apply List.ext_getElem?
  intro i
  rcases Nat.lt_or_ge i k with lt | ge
  · rw [List.getElem?_take_of_lt lt, List.getElem?_take_of_lt lt, List.getElem?_drop,
      ← held.stored i (by omega)]
    congr 1
    have here : (get % cells.length + i) % cells.length = get % cells.length + i :=
      Nat.mod_eq_of_lt (by omega)
    rw [← here, Nat.mod_add_mod]
  · rw [List.getElem?_take, List.getElem?_take, if_neg (by omega), if_neg (by omega)]

end Held

end LwipExt.Lib
