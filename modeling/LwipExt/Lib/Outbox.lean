import Mathlib.Data.List.Basic

/-!
An outbox: items are put into it one after another, only the last can still be sent,
and a new item replaces one that was not sent.

`Outbox.InOrder` says that what was sent is some of the items, each whole, in order
and at most once. Putting an item keeps it, and so does sending the last item once
(`InOrder.put`, `InOrder.send`).
-/

namespace LwipExt.Lib

universe u

/-- The items put so far, and whether the last of them was not sent yet. -/
structure Outbox (α : Type u) where
  items : List (List α) := []
  due : Bool := false

namespace Outbox

variable {α : Type u} {box : Outbox α} {out item : List α}

/-- The items that may have been sent. -/
def past (box : Outbox α) : List (List α) := if box.due then box.items.dropLast else box.items

/-- Put an item into the outbox. -/
def put (box : Outbox α) (item : List α) : Outbox α := ⟨box.items ++ [item], true⟩

/-- `out` is some of the past items, whole and in order. -/
def InOrder (box : Outbox α) (out : List α) : Prop :=
  ∃ kept : List (List α), kept.Sublist box.past ∧ out = kept.flatten

theorem past_sublist (box : Outbox α) : box.past.Sublist box.items := by
  unfold past
  split_ifs
  · exact List.dropLast_sublist box.items
  · exact List.Sublist.refl box.items

theorem inOrder_nil : ({} : Outbox α).InOrder [] := ⟨[], List.nil_sublist _, rfl⟩

theorem InOrder.put (ordered : box.InOrder out) (item : List α) : (box.put item).InOrder out := by
  obtain ⟨kept, sub, eq⟩ := ordered
  refine ⟨kept, ?_, eq⟩
  simpa [Outbox.put, past] using sub.trans box.past_sublist

/-- The last item is given up, or not. -/
theorem InOrder.giveUp (ordered : box.InOrder out) (keep : Bool) :
    ({ box with due := box.due && keep } : Outbox α).InOrder out := by
  cases keep with
  | true => simpa using ordered
  | false =>
      obtain ⟨kept, sub, eq⟩ := ordered
      exact ⟨kept, by simpa [past] using sub.trans box.past_sublist, eq⟩

/-- The last item is sent. -/
theorem InOrder.send (ordered : box.InOrder out) (due : box.due)
    (last : box.items.getLast? = some item) :
    ({ box with due := false } : Outbox α).InOrder (out ++ item) := by
  obtain ⟨kept, sub, eq⟩ := ordered
  refine ⟨kept ++ [item], ?_, by simp [eq]⟩
  have split : box.items.dropLast ++ [item] = box.items := List.dropLast_append_getLast? item last
  simp only [past, due, if_true, Bool.false_eq_true, if_false] at sub ⊢
  rw [← split]
  exact sub.append (List.Sublist.refl [item])

end Outbox

end LwipExt.Lib
