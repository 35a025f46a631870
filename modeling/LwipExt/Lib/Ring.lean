import Mathlib.Algebra.GroupWithZero.Nat
import Mathlib.Algebra.Group.Fin.Basic
import Mathlib.Tactic.Common

/-!
Bounded queues and rings that hold them.

`Fifo.step` is a queue of bounded length. A ring keeps its items in the cells after `tail`, up to
`head`; `InRing` says which items these are, and one lemma for each operation says how they
change. What two systems answer is the same if a relation of their states is kept
(`answers_eq`).
-/

namespace LwipExt.Lib

universe u v w

/-! ### Answers of a system -/

/-- What a system answers to the events of a run. -/
def answers {σ : Type u} {ε : Type v} {ρ : Type w} (step : σ → ε → σ × ρ) : σ → List ε → List ρ
  | _, [] => []
  | s, e :: es => (step s e).2 :: answers step (step s e).1 es

/-- The state after a run of a system that answers. -/
def final {σ : Type u} {ε : Type v} {ρ : Type w} (step : σ → ε → σ × ρ) : σ → List ε → σ
  | s, [] => s
  | s, e :: es => final step (step s e).1 es

/-- A relation that every event keeps, with the same answer on both sides. -/
theorem answers_eq {σ τ : Type u} {ε : Type v} {ρ : Type w} {step : σ → ε → σ × ρ}
    {step' : τ → ε → τ × ρ} (R : σ → τ → Prop)
    (kept : ∀ s t e, R s t → R (step s e).1 (step' t e).1 ∧ (step s e).2 = (step' t e).2)
    {s : σ} {t : τ} (related : R s t) (es : List ε) :
    answers step s es = answers step' t es ∧ R (final step s es) (final step' t es) := by
  induction es generalizing s t with
  | nil => exact ⟨rfl, related⟩
  | cons e es ih =>
      obtain ⟨related', same⟩ := kept s t e related
      obtain ⟨rest, ends⟩ := ih related'
      constructor
      · rw [answers, answers, same, rest]
      · exact ends

/-! ### A queue of bounded length -/

/-- An operation on a queue. -/
inductive QueueOp (α : Type u) where
  | put (item : α)
  | get
  | empty
  deriving DecidableEq, Repr

/-- What an operation on a queue answers. -/
inductive QueueAnswer (α : Type u) where
  | accepted (item : α)
  | refused
  | got (item : Option α)
  | released (items : List α)
  deriving DecidableEq, Repr

section Fifo

variable {α : Type u}

/-- A queue that holds at most `capacity` items. -/
def Fifo.step (capacity : Nat) (items : List α) : QueueOp α → List α × QueueAnswer α
  | .put item => if items.length < capacity then (items ++ [item], .accepted item)
      else (items, .refused)
  | .get => (items.tail, .got items.head?)
  | .empty => ([], .released items)

/-- The items that answers say were accepted. -/
def acceptedItems : List (QueueAnswer α) → List α
  | [] => []
  | .accepted item :: rest => item :: acceptedItems rest
  | _ :: rest => acceptedItems rest

/-- The items that answers hand out. -/
def leavingItems : List (QueueAnswer α) → List α
  | [] => []
  | .got item :: rest => item.toList ++ leavingItems rest
  | .released items :: rest => items ++ leavingItems rest
  | _ :: rest => leavingItems rest

/-- What is in a queue leaves it in order, none is lost and none comes twice. -/
theorem Fifo.conserved (capacity : Nat) (items : List α) (ops : List (QueueOp α)) :
    items ++ acceptedItems (answers (Fifo.step capacity) items ops) =
      leavingItems (answers (Fifo.step capacity) items ops) ++
        final (Fifo.step capacity) items ops := by
  induction ops generalizing items with
  | nil => exact List.append_nil items
  | cons op ops ih =>
      cases op with
      | put item =>
          rw [answers, final, step]
          split
          · have := ih (items ++ [item])
            rwa [List.append_assoc] at this
          · exact ih items
      | get =>
          cases items with
          | nil => exact ih []
          | cons first rest => exact congrArg (first :: ·) (ih rest)
      | empty =>
          simp only [answers, final, step, acceptedItems, leavingItems, List.append_assoc]
          exact congrArg (items ++ ·) (ih [])

end Fifo

/-! ### Rings -/

section Ring

variable {α : Type u} {n : Nat} [NeZero n] {cells : Vector α n} {tail head : Fin n}
  {item : α} {items : List α}

/-- The items in the cells after `tail`, up to `head`. -/
structure InRing (cells : Vector α n) (tail head : Fin n) (items : List α) : Prop where
  short : items.length < n
  ends : head = tail + Fin.ofNat n items.length
  stored : ∀ i (lt : i < items.length), cells[tail + Fin.ofNat n (i + 1)] = items[i]

theorem ofNat_succ (i : Nat) : Fin.ofNat n (i + 1) = Fin.ofNat n i + 1 := by
  apply Fin.ext
  simp [Fin.ofNat, Fin.val_add]

theorem ofNat_inj_of_lt {i j : Nat} (lt : i < n) (lt' : j < n)
    (same : Fin.ofNat n i = Fin.ofNat n j) : i = j := by
  have values := congrArg Fin.val same
  rwa [Fin.val_ofNat, Fin.val_ofNat, Nat.mod_eq_of_lt lt, Nat.mod_eq_of_lt lt'] at values

theorem inRing_nil (cells : Vector α n) (i : Fin n) : InRing cells i i [] := by
  constructor
  · exact Nat.pos_of_ne_zero (NeZero.ne n)
  · simp
  · intro i lt
    cases lt

namespace InRing

/-- The ring is empty when its ends meet. -/
theorem eq_nil_iff (inRing : InRing cells tail head items) : tail = head ↔ items = [] := by
  constructor
  · intro meet
    have none : Fin.ofNat n items.length = Fin.ofNat n 0 := by
      have ends := inRing.ends
      rw [← meet] at ends
      simpa using ends
    have pos : 0 < n := Nat.pos_of_ne_zero (NeZero.ne n)
    exact List.length_eq_zero_iff.mp (ofNat_inj_of_lt inRing.short pos none)
  · intro nil
    rw [inRing.ends, nil]
    simp

/-- The ring is full when its head is right behind its tail. -/
theorem full_iff (inRing : InRing cells tail head items) :
    head + 1 = tail ↔ items.length + 1 = n := by
  have ends : head + 1 = tail + Fin.ofNat n (items.length + 1) := by
    rw [inRing.ends, ofNat_succ, add_assoc]
  have short := inRing.short
  rw [ends, add_eq_left]
  constructor
  · intro around
    by_contra room
    have pos : 0 < n := Nat.pos_of_ne_zero (NeZero.ne n)
    have := ofNat_inj_of_lt (i := items.length + 1) (j := 0) (by omega) pos around
    omega
  · intro full
    rw [full]
    exact Fin.ofNat_self

/-- A new item goes behind the head, where no other item is. -/
theorem put (inRing : InRing cells tail head items) (room : head + 1 ≠ tail) (item : α) :
    InRing (cells.set (head + 1 : Fin n).val item (head + 1 : Fin n).isLt) tail (head + 1)
      (items ++ [item]) := by
  have short := inRing.short
  have notFull : items.length + 1 < n := by
    have := mt inRing.full_iff.mpr room
    omega
  have next : head + 1 = tail + Fin.ofNat n (items.length + 1) := by
    rw [inRing.ends, ofNat_succ, add_assoc]
  constructor
  · rw [List.length_append]
    exact notFull
  · rw [List.length_append]
    exact next
  · intro i lt
    rw [List.length_append, List.length_singleton] at lt
    by_cases old : i < items.length
    · have apart : tail + Fin.ofNat n (i + 1) ≠ head + 1 := by
        intro same
        rw [next, add_right_inj] at same
        have := ofNat_inj_of_lt (i := i + 1) (j := items.length + 1) (by omega) notFull same
        omega
      rw [List.getElem_append_left old, ← inRing.stored i old]
      exact Vector.getElem_set_ne _ _ (fun same => apart (Fin.ext same.symm))
    · have last : i = items.length := by omega
      subst last
      rw [List.getElem_append_right (Nat.le_refl _)]
      simp only [← next, Nat.sub_self, List.getElem_singleton]
      exact Vector.getElem_set_self _

/-- The first item is in the cell after the tail. -/
theorem get (inRing : InRing cells tail head (item :: items)) :
    cells[tail + 1] = item ∧ InRing cells (tail + 1) head items := by
  constructor
  · exact inRing.stored 0 (Nat.succ_pos _)
  · have short := inRing.short
    rw [List.length_cons] at short
    constructor
    · omega
    · rw [inRing.ends, List.length_cons, ofNat_succ, add_assoc, add_comm 1]
    · intro i lt
      have stored := inRing.stored (i + 1) (Nat.succ_lt_succ lt)
      rw [ofNat_succ, add_comm (Fin.ofNat n (i + 1)), ← add_assoc] at stored
      exact stored

end InRing

end Ring

end LwipExt.Lib
