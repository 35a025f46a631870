import Mathlib.Data.List.Basic

/-!
The lines of a stream of symbols, some of which end a line.

`Lines.read` scans a stream from left to right and keeps the lines that are complete,
empty ones left out, and the line that is unfinished. How the stream is cut does not
matter (`Lines.read_append`); what is read are the symbols of the stream that end no
line, in order (`Lines.symbols_read`).
-/

namespace LwipExt.Lib

universe u

/-- The complete lines of a stream so far, and the line it is in. -/
structure Lines (α : Type u) where
  complete : List (List α) := []
  unfinished : List α := []
  deriving DecidableEq, Repr

namespace Lines

variable {α : Type u} (isEnd : α → Bool)

/-- The next symbol of the stream. -/
def next (lines : Lines α) (a : α) : Lines α :=
  if isEnd a then
    if lines.unfinished = [] then lines else ⟨lines.complete ++ [lines.unfinished], []⟩
  else ⟨lines.complete, lines.unfinished ++ [a]⟩

/-- The next piece of the stream. -/
def read (lines : Lines α) (as : List α) : Lines α := as.foldl (next isEnd) lines

/-- The symbols of the lines. -/
def symbols (lines : Lines α) : List α := lines.complete.flatten ++ lines.unfinished

variable {isEnd} {lines : Lines α} {as : List α}

@[simp] theorem read_nil : lines.read isEnd [] = lines := rfl

theorem read_append (as bs : List α) :
    lines.read isEnd (as ++ bs) = (lines.read isEnd as).read isEnd bs :=
  List.foldl_append

/-- A piece without a line end goes to the unfinished line. -/
theorem read_text (text : ∀ a ∈ as, isEnd a = false) :
    lines.read isEnd as = ⟨lines.complete, lines.unfinished ++ as⟩ := by
  induction as generalizing lines with
  | nil => simp
  | cons a as ih =>
      have symbol : isEnd a = false := text a (List.mem_cons_self ..)
      have step : lines.next isEnd a = ⟨lines.complete, lines.unfinished ++ [a]⟩ := by
        rw [next, symbol]
        rfl
      rw [read, List.foldl_cons, step, ← read, ih fun b mem => text b (List.mem_cons_of_mem a mem),
        List.append_assoc, List.singleton_append]

/-- Line ends between two lines are of no account. -/
theorem read_ends_of_empty (ends : ∀ a ∈ as, isEnd a = true) (empty : lines.unfinished = []) :
    lines.read isEnd as = lines := by
  induction as with
  | nil => rfl
  | cons a as ih =>
      have step : lines.next isEnd a = lines := by
        rw [next, if_pos (ends a (List.mem_cons_self ..)), if_pos empty]
      rw [read, List.foldl_cons, step]
      exact ih fun b mem => ends b (List.mem_cons_of_mem a mem)

/-- Line ends complete the line before them. -/
theorem read_ends (ends : ∀ a ∈ as, isEnd a = true) (some : as ≠ [])
    (text : lines.unfinished ≠ []) :
    lines.read isEnd as = ⟨lines.complete ++ [lines.unfinished], []⟩ := by
  cases as with
  | nil => exact absurd rfl some
  | cons a as =>
      have step : lines.next isEnd a = ⟨lines.complete ++ [lines.unfinished], []⟩ := by
        rw [next, if_pos (ends a (List.mem_cons_self ..)), if_neg text]
      rw [read, List.foldl_cons, step]
      exact read_ends_of_empty (fun b mem => ends b (List.mem_cons_of_mem a mem)) rfl

/-- The lines hold the symbols of the stream, in order, without its line ends. -/
theorem symbols_read (as : List α) :
    (lines.read isEnd as).symbols = lines.symbols ++ as.filter fun a => !isEnd a := by
  induction as generalizing lines with
  | nil => simp
  | cons a as ih =>
      rw [read, List.foldl_cons, ← read, ih]
      cases symbol : isEnd a with
      | true =>
          have same : (lines.next isEnd a).symbols = lines.symbols := by
            rw [next, if_pos symbol]
            split
            · rfl
            · simp [symbols]
          rw [same, List.filter_cons_of_neg (by simp [symbol])]
      | false =>
          have more : (lines.next isEnd a).symbols = lines.symbols ++ [a] := by
            rw [next, symbol]
            simp [symbols]
          rw [more, List.filter_cons_of_pos (by simp [symbol]), List.append_assoc,
            List.singleton_append]

end Lines

end LwipExt.Lib
