import Mathlib.Data.List.Basic

/-!
Writes into a buffer, each behind the one before.

A sequence of writes that begin where the last one ended leaves their data in the buffer, one after
the other, and nothing else changes (`Consecutive.foldl_patch`).
-/

namespace LwipExt.Lib

universe u

variable {α : Type u}

/-- A write: the data with the offset that it goes to. -/
abbrev Patch (α : Type u) : Type u := Nat × List α

/-- The buffer after a write. -/
def patch (buf : List α) (w : Patch α) : List α :=
  buf.take w.1 ++ w.2 ++ buf.drop (w.1 + w.2.length)

/-- The writes follow each other from one offset up to another. -/
def Consecutive : Nat → List (Patch α) → Nat → Prop
  | off, [], stop => off = stop
  | off, w :: ws, stop => w.1 = off ∧ Consecutive (off + w.2.length) ws stop

theorem Consecutive.append {off mid stop : Nat} {ws ws' : List (Patch α)}
    (first : Consecutive off ws mid) (second : Consecutive mid ws' stop) :
    Consecutive off (ws ++ ws') stop := by
  induction ws generalizing off with
  | nil =>
      obtain rfl : off = mid := first
      exact second
  | cons w ws ih => exact ⟨first.1, ih first.2⟩

theorem Consecutive.le {off stop : Nat} {ws : List (Patch α)} (follow : Consecutive off ws stop) :
    off ≤ stop := by
  induction ws generalizing off with
  | nil => exact Nat.le_of_eq follow
  | cons w ws ih => exact Nat.le_trans (Nat.le_add_right _ _) (ih follow.2)

/-- No write goes past the last offset. -/
theorem Consecutive.inside {off stop : Nat} {ws : List (Patch α)}
    (follow : Consecutive off ws stop) : ∀ w ∈ ws, w.1 + w.2.length ≤ stop := by
  induction ws generalizing off with
  | nil => exact fun w mem => by cases mem
  | cons w ws ih =>
      obtain ⟨rfl, rest⟩ := follow
      intro w' mem
      rcases List.mem_cons.mp mem with rfl | later
      · exact rest.le
      · exact ih rest w' later

theorem length_patch (buf : List α) {w : Patch α} (inside : w.1 + w.2.length ≤ buf.length) :
    (patch buf w).length = buf.length := by
  rw [patch, List.length_append, List.length_append, List.length_take, List.length_drop]
  omega

/-- Writes that follow each other leave their data in the buffer. -/
theorem Consecutive.foldl_patch {off stop : Nat} {ws : List (Patch α)}
    (follow : Consecutive off ws stop) {buf : List α} (fits : stop ≤ buf.length) :
    ws.foldl patch buf = buf.take off ++ ws.flatMap Prod.snd ++ buf.drop stop := by
  induction ws generalizing off buf with
  | nil =>
      obtain rfl : off = stop := follow
      simp
  | cons w ws ih =>
      obtain ⟨rfl, rest⟩ := follow
      have reaches := rest.le
      have before : (buf.take w.1).length = w.1 := List.length_take_of_le (by omega)
      have whole : (buf.take w.1 ++ w.2).length = w.1 + w.2.length := by
        rw [List.length_append, before]
      have kept : (patch buf w).take (w.1 + w.2.length) = buf.take w.1 ++ w.2 := by
        rw [patch, ← whole, List.take_left]
      have behind : (patch buf w).drop stop = buf.drop stop := by
        rw [patch, List.drop_append, List.drop_drop, whole,
          List.drop_of_length_le (by rw [whole]; exact reaches), List.nil_append]
        congr 1
        omega
      rw [List.foldl_cons, ih rest (by rw [length_patch buf (by omega)]; exact fits), kept, behind,
        List.flatMap_cons]
      simp only [List.append_assoc]

end LwipExt.Lib
