import Mathlib.Algebra.GroupWithZero.Nat
import Mathlib.Order.Basic
import Mathlib.Tactic.SplitIfs

/-!
Functions that print texts one behind the other into a buffer, with `snprintf`.

Such a function has an offset in the buffer and a size, and an `index` that counts what its calls
would have printed with enough room. It passes on either the size that is left or the whole size.
`Printing.inside_iff` says when a function that is given the whole buffer stays inside, and counts
what it stores: when its text and a NUL fit.
-/

namespace LwipExt.Lib

/-- The body of a function that prints, in the order of its calls. -/
inductive Printing (α : Type) where
  /-- `index = 0`. -/
  | start
  /-- `index += snprintf(data + index, size - index, text)`. -/
  | print (before : Printing α) (text : List α)
  /-- `index += snprintf(data + index, size, text)`. -/
  | printWhole (before : Printing α) (text : List α)
  /-- `index += callee(data + index, size - index)`. -/
  | call (before callee : Printing α)
  /-- `index += callee(data + index, size)`. -/
  | callWhole (before callee : Printing α)

/-- What a call of `snprintf` stores from an offset on, without the NUL behind it. -/
structure Write (α : Type) where
  offset : Nat
  text : List α

/-- The text and its NUL are in a buffer. -/
def Write.Inside {α : Type} (limit : Nat) (w : Write α) : Prop := w.offset + w.text.length < limit

namespace Printing

variable {α : Type}

/-- All that is printed, with enough room. -/
def text : Printing α → List α
  | start => []
  | print before text => before.text ++ text
  | printWhole before text => before.text ++ text
  | call before callee => before.text ++ callee.text
  | callWhole before callee => before.text ++ callee.text

/-- The value of `index` at the end: `snprintf` returns the length that it has no room for too. -/
def index : Printing α → Nat
  | start => 0
  | print before text => before.index + text.length
  | printWhole before text => before.index + text.length
  | call before callee => before.index + callee.index
  | callWhole before callee => before.index + callee.index

/-- `size - index`. A negative difference wraps, to more than any text has, which is `none`. -/
def sizeLeft (size : Option Nat) (index : Nat) : Option Nat :=
  size.bind fun n => if index ≤ n then some (n - index) else none

/-- What `snprintf` stores. -/
def snprintfWrites (offset : Nat) (size : Option Nat) (text : List α) : List (Write α) :=
  match size with
  | none => [{ offset, text }]
  | some 0 => []
  | some (n + 1) => [{ offset, text := text.take n }]

/-- What a function stores that is given an offset and a size. -/
def writes : Printing α → (offset : Nat) → (size : Option Nat) → List (Write α)
  | start, _, _ => []
  | print before text, offset, size =>
      before.writes offset size ++
        snprintfWrites (offset + before.index) (sizeLeft size before.index) text
  | printWhole before text, offset, size =>
      before.writes offset size ++ snprintfWrites (offset + before.index) size text
  | call before callee, offset, size =>
      before.writes offset size ++
        callee.writes (offset + before.index) (sizeLeft size before.index)
  | callWhole before callee, offset, size =>
      before.writes offset size ++ callee.writes (offset + before.index) size

/-- The texts of the calls of `snprintf`, in order. -/
def calls : Printing α → List (List α)
  | start => []
  | print before text => before.calls ++ [text]
  | printWhole before text => before.calls ++ [text]
  | call before callee => before.calls ++ callee.calls
  | callWhole before callee => before.calls ++ callee.calls

/-- How much text is stored. -/
def stored (ws : List (Write α)) : Nat := (ws.map (·.text.length)).sum

/-! ### Lengths -/

@[simp]
theorem index_eq (p : Printing α) : p.index = p.text.length := by
  induction p with
  | start => rfl
  | print before text ih => rw [index, Printing.text, List.length_append, ih]
  | printWhole before text ih => rw [index, Printing.text, List.length_append, ih]
  | call before callee ih ih' => rw [index, Printing.text, List.length_append, ih, ih']
  | callWhole before callee ih ih' => rw [index, Printing.text, List.length_append, ih, ih']

theorem flatten_calls (p : Printing α) : p.calls.flatten = p.text := by
  induction p with
  | start => rfl
  | print before text ih =>
      rw [calls, Printing.text, List.flatten_append, ih, List.flatten_singleton]
  | printWhole before text ih =>
      rw [calls, Printing.text, List.flatten_append, ih, List.flatten_singleton]
  | call before callee ih ih' => rw [calls, Printing.text, List.flatten_append, ih, ih']
  | callWhole before callee ih ih' => rw [calls, Printing.text, List.flatten_append, ih, ih']

@[simp]
theorem stored_append (ws ws' : List (Write α)) : stored (ws ++ ws') = stored ws + stored ws' := by
  rw [stored, List.map_append, List.sum_append, stored, stored]

/-! ### With room -/

theorem sizeLeft_of_le {n index : Nat} (le : index ≤ n) :
    sizeLeft (some n) index = some (n - index) := if_pos le

theorem snprintfWrites_of_lt (offset : Nat) {n : Nat} {text : List α} (fits : text.length < n) :
    snprintfWrites offset (some n) text = [{ offset, text }] := by
  cases n with
  | zero => exact absurd fits (Nat.not_lt_zero _)
  | succ n => rw [snprintfWrites, List.take_of_length_le (Nat.le_of_lt_succ fits)]

/-- A text is stored from an offset on, piece behind piece. -/
inductive Consecutive : (offset : Nat) → List α → List (Write α) → Prop where
  | nil {offset : Nat} : Consecutive offset [] []
  | cons {offset : Nat} {text rest : List α} {ws : List (Write α)}
      (behind : Consecutive (offset + text.length) rest ws) :
      Consecutive offset (text ++ rest) ({ offset, text } :: ws)

namespace Consecutive

variable {offset : Nat} {text text' : List α} {ws ws' : List (Write α)}

theorem single (offset : Nat) (text : List α) : Consecutive offset text [{ offset, text }] := by
  have whole : Consecutive offset (text ++ []) [{ offset, text }] := .cons .nil
  rwa [List.append_nil] at whole

theorem append (first : Consecutive offset text ws)
    (second : Consecutive (offset + text.length) text' ws') :
    Consecutive offset (text ++ text') (ws ++ ws') := by
  induction first with
  | nil => exact second
  | cons _ ih =>
      rw [List.length_append, ← Nat.add_assoc] at second
      rw [List.append_assoc]
      exact .cons (ih second)

theorem stored_eq (consecutive : Consecutive offset text ws) : stored ws = text.length := by
  induction consecutive with
  | nil => rfl
  | cons _ ih =>
      rw [List.length_append, ← ih]
      rfl

/-- Nothing is stored behind the NUL of the text. -/
theorem inside (consecutive : Consecutive offset text ws) :
    ∀ w ∈ ws, w.Inside (offset + text.length + 1) := by
  induction consecutive with
  | nil =>
      intro w mem
      cases mem
  | cons _ ih =>
      intro w mem
      rw [List.length_append]
      unfold Write.Inside at ih ⊢
      rcases List.mem_cons.mp mem with rfl | behind
      · dsimp only
        omega
      · have here := ih w behind
        omega

end Consecutive

/-- With room for its text and a NUL, a function stores its text. -/
theorem consecutive_of_lt (p : Printing α) (offset : Nat) {n : Nat} (fits : p.text.length < n) :
    Consecutive offset p.text (p.writes offset (some n)) := by
  induction p generalizing offset n with
  | start => exact .nil
  | print before text ih =>
      rw [Printing.text, List.length_append] at fits
      rw [Printing.text, writes, index_eq, sizeLeft_of_le (by omega),
        snprintfWrites_of_lt _ (by omega)]
      exact (ih offset (by omega)).append (.single _ text)
  | printWhole before text ih =>
      rw [Printing.text, List.length_append] at fits
      rw [Printing.text, writes, index_eq, snprintfWrites_of_lt _ (by omega)]
      exact (ih offset (by omega)).append (.single _ text)
  | call before callee ih ih' =>
      rw [Printing.text, List.length_append] at fits
      rw [Printing.text, writes, index_eq, sizeLeft_of_le (by omega)]
      exact (ih offset (by omega)).append (ih' _ (by omega))
  | callWhole before callee ih ih' =>
      rw [Printing.text, List.length_append] at fits
      rw [Printing.text, writes, index_eq]
      exact (ih offset (by omega)).append (ih' _ (by omega))

/-! ### Without room -/

/-- What stays inside of a buffer leaves room for a NUL. -/
def StoresIn (limit offset length : Nat) (ws : List (Write α)) : Prop :=
  (∀ w ∈ ws, w.Inside limit) →
    min offset (limit - 1) + stored ws ≤ min (offset + length) (limit - 1)

theorem StoresIn.append {limit offset a b : Nat} {ws ws' : List (Write α)}
    (first : StoresIn limit offset a ws) (second : StoresIn limit (offset + a) b ws') :
    StoresIn limit offset (a + b) (ws ++ ws') := by
  intro inside
  have before := first fun w mem => inside w (List.mem_append_left _ mem)
  have here := second fun w mem => inside w (List.mem_append_right _ mem)
  rw [stored_append]
  omega

theorem storesIn_snprintf (limit offset : Nat) (size : Option Nat) (text : List α) :
    StoresIn limit offset text.length (snprintfWrites offset size text) := by
  intro inside
  match size with
  | none =>
      have whole : offset + text.length < limit := inside _ List.mem_cons_self
      have stored_ : stored (snprintfWrites offset none text) = text.length := Nat.add_zero _
      omega
  | some 0 =>
      have stored_ : stored (snprintfWrites offset (some 0) text) = 0 := rfl
      omega
  | some (n + 1) =>
      have part : offset + (text.take n).length < limit := inside _ List.mem_cons_self
      have stored_ : stored (snprintfWrites offset (some (n + 1)) text) =
          (text.take n).length := Nat.add_zero _
      have le := List.length_take_le n text
      rw [List.length_take] at part le stored_
      omega

/-- Whatever the sizes, a function that stays inside of a buffer does not store more than its
text, and not more than the buffer has room for. -/
theorem storesIn_writes (limit : Nat) (p : Printing α) (offset : Nat) (size : Option Nat) :
    StoresIn limit offset p.text.length (p.writes offset size) := by
  induction p generalizing offset size with
  | start =>
      intro _
      exact Nat.le_refl _
  | print before text ih =>
      rw [Printing.text, List.length_append, writes, index_eq]
      exact (ih offset size).append (storesIn_snprintf _ _ _ text)
  | printWhole before text ih =>
      rw [Printing.text, List.length_append, writes, index_eq]
      exact (ih offset size).append (storesIn_snprintf _ _ _ text)
  | call before callee ih ih' =>
      rw [Printing.text, List.length_append, writes, index_eq]
      exact (ih offset size).append (ih' _ _)
  | callWhole before callee ih ih' =>
      rw [Printing.text, List.length_append, writes, index_eq]
      exact (ih offset size).append (ih' _ _)

/-- The last call is given what is left of the size, and prints at most so much. -/
def EndsShort (most : Nat) : Printing α → Prop
  | start => False
  | print _ text => text.length ≤ most
  | printWhole _ _ => False
  | call _ callee => callee.EndsShort most
  | callWhole before callee => before.text = [] ∧ callee.EndsShort most

/-- The size goes up to the end of the buffer; it has wrapped if the offset is behind. -/
def SizeTo (limit offset : Nat) : Option Nat → Prop
  | some n => offset + n = limit
  | none => limit < offset

theorem SizeTo.left {limit offset : Nat} {size : Option Nat} (upTo : SizeTo limit offset size)
    (index : Nat) : SizeTo limit (offset + index) (sizeLeft size index) := by
  cases size with
  | none => exact Nat.lt_of_lt_of_le upTo (Nat.le_add_right _ _)
  | some n =>
      have whole : offset + n = limit := upTo
      by_cases le : index ≤ n
      · rw [sizeLeft_of_le le]
        unfold SizeTo
        omega
      · have wraps : sizeLeft (some n) index = none := if_neg le
        rw [wraps]
        unfold SizeTo
        omega

/-- When all calls stay inside, the last one does not begin behind the buffer. -/
theorem length_le_of_inside {limit most offset : Nat} {size : Option Nat} {p : Printing α}
    (ends : p.EndsShort most) (upTo : SizeTo limit offset size)
    (inside : ∀ w ∈ p.writes offset size, w.Inside limit) :
    offset + p.text.length ≤ limit + most := by
  induction p generalizing offset size with
  | start => exact absurd ends id
  | print before text =>
      have short : text.length ≤ most := ends
      have here := upTo.left before.index
      rw [Printing.text, List.length_append]
      rw [index_eq] at here
      cases left : sizeLeft size before.text.length with
      | some n =>
          rw [left] at here
          unfold SizeTo at here
          omega
      | none =>
          -- a call that begins behind the buffer stores there
          rw [left] at here
          have write := inside ⟨offset + before.index, text⟩ (by
            rw [writes, index_eq, left]
            exact List.mem_append_right _ List.mem_cons_self)
          unfold Write.Inside at write
          unfold SizeTo at here
          rw [index_eq] at write
          dsimp only at write
          omega
  | printWhole before text => exact absurd ends id
  | call before callee _ ih =>
      have here := ih ends (upTo.left before.index) fun w mem =>
        inside w (List.mem_append_right _ mem)
      rw [index_eq] at here
      rw [Printing.text, List.length_append]
      omega
  | callWhole before callee _ ih =>
      obtain ⟨empty, ends⟩ := ends
      have none_ : before.index = 0 := by rw [index_eq, empty, List.length_nil]
      have here := ih ends upTo fun w mem => inside w (by
        rw [writes, none_]
        exact List.mem_append_right _ mem)
      rw [Printing.text, empty, List.nil_append]
      exact here

/-- **Printing into a buffer.** A function that is given the whole buffer, and whose last call is
short, stays inside and stores as much as it counts exactly when its text and a NUL fit. The count
may be wrong about what is far behind the buffer. -/
theorem inside_iff {limit most : Nat} {p : Printing α} (ends : p.EndsShort most)
    (nonempty : 0 < limit) {count : Nat → Nat} (counts : ∀ n ≤ limit + most, count n = n) :
    (∀ w ∈ p.writes 0 (some limit), w.Inside limit) ∧
        count p.index = stored (p.writes 0 (some limit)) ↔
      p.text.length < limit := by
  rw [index_eq]
  constructor
  · rintro ⟨inside, all⟩
    have whole : SizeTo limit 0 (some limit) := Nat.zero_add limit
    have short := length_le_of_inside ends whole inside
    have part := storesIn_writes limit p 0 (some limit) inside
    rw [counts _ (by omega)] at all
    omega
  · intro fits
    have whole := consecutive_of_lt p 0 fits
    refine ⟨fun w mem => ?_, by rw [whole.stored_eq, counts _ (by omega)]⟩
    have inside := whole.inside w mem
    unfold Write.Inside at inside ⊢
    omega

end Printing

end LwipExt.Lib
