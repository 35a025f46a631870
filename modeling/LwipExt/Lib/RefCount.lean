import Mathlib.Data.List.Nodup
import Mathlib.Logic.Function.Basic
import Mathlib.Tactic.Common

/-!
Chains of reference-counted cells.

A cell has a count of references and a link to the next cell. Releasing a reference to a cell
whose count falls to zero frees it and releases the next one, and so on down the chain. The heap
records what was allocated, what was freed, and each use of a cell that is not allocated.

`Heap.Holds` says that the heap consists of some chains, each with one reference to its first
cell, and that everything else was freed once. The operations are described as changes of these
chains: `Holds.allocate`, `Holds.link`, `Holds.release`, and `Holds.released_twice` for a chain
with a second reference in its middle.
-/

namespace LwipExt.Lib

universe u

variable {α : Type u} [DecidableEq α]

/-- Cells with their counts and links, and what happened to them. -/
structure Heap (α : Type u) where
  ref : α → Nat := fun _ => 0
  next : α → Option α := fun _ => none
  made : List α := []
  freed : List α := []
  faults : List α := []

namespace Heap

/-- One more reference to a cell. -/
def retain (h : Heap α) (i : α) : Heap α :=
  if h.ref i = 0 then { h with faults := h.faults ++ [i] }
  else { h with ref := Function.update h.ref i (h.ref i + 1) }

/-- Give up a reference; at most `fuel` cells of the chain are visited. -/
def release : (fuel : Nat) → Heap α → Option α → Heap α
  | 0, h, _ => h
  | _, h, none => h
  | fuel + 1, h, some i =>
      if h.ref i = 0 then { h with faults := h.faults ++ [i] }
      else if h.ref i = 1 then
        release fuel
          { h with ref := Function.update h.ref i 0, freed := h.freed ++ [i] } (h.next i)
      else { h with ref := Function.update h.ref i (h.ref i - 1) }

/-- The last cell of a chain, `fuel` cells behind the first at most. -/
def lastCell : (fuel : Nat) → Heap α → α → α
  | 0, _, i => i
  | fuel + 1, h, i =>
      match h.next i with
      | none => i
      | some j => lastCell fuel h j

/-- Put a chain behind another one; its reference becomes that of the link. -/
def link (fuel : Nat) (h : Heap α) (i j : α) : Heap α :=
  { h with next := Function.update h.next (lastCell fuel h i) (some j) }

/-- A new chain, with one reference to each cell. -/
def allocate (h : Heap α) : List α → Heap α
  | [] => h
  | i :: l =>
      let h := allocate h l
      { h with
        ref := Function.update h.ref i 1
        next := Function.update h.next i l.head?
        made := h.made ++ [i] }

/-- The cells are a chain. -/
def Linked (h : Heap α) : List α → Prop
  | [] => True
  | i :: l => h.next i = l.head? ∧ Linked h l

/-- The heap consists of the chains, each with one reference; everything else that was made was
freed once, and no cell was used that is not allocated. -/
structure Holds (h : Heap α) (chains : List (List α)) : Prop where
  linked : ∀ l ∈ chains, h.Linked l
  nodup : chains.flatten.Nodup
  made : ∀ i ∈ chains.flatten, i ∈ h.made
  ref : ∀ i, h.ref i = if i ∈ chains.flatten then 1 else 0
  freed : ∀ i, h.freed.count i = if i ∈ h.made ∧ i ∉ chains.flatten then 1 else 0
  clean : h.faults = []

section Chains

variable {h : Heap α} {l : List α}

omit [DecidableEq α] in
/-- Links of other cells do not matter. -/
theorem Linked.congr {h' : Heap α} (same : ∀ i ∈ l, h'.next i = h.next i) (linked : h.Linked l) :
    h'.Linked l := by
  induction l with
  | nil => trivial
  | cons i l ih =>
      refine ⟨?_, ih (fun j mem => same j (List.mem_cons_of_mem i mem)) linked.2⟩
      rw [same i List.mem_cons_self]
      exact linked.1

omit [DecidableEq α] in
theorem Linked.of_append {l' : List α} (linked : h.Linked (l ++ l')) : h.Linked l' := by
  induction l with
  | nil => exact linked
  | cons i l ih => exact ih linked.2

/-- Releasing the only reference to a chain frees its cells, up to the first one that is still
referenced from elsewhere. -/
theorem release_linked {rest : List α} {fuel : Nat} (enough : l.length ≤ fuel)
    (linked : h.Linked (l ++ rest)) (nodup : (l ++ rest).Nodup) (one : ∀ i ∈ l, h.ref i = 1) :
    release fuel h (l ++ rest).head? =
      release (fuel - l.length)
        { h with
          ref := fun i => if i ∈ l then 0 else h.ref i
          freed := h.freed ++ l } rest.head? := by
  induction l generalizing h fuel with
  | nil => simp
  | cons i l ih =>
      obtain ⟨fuel, rfl⟩ : ∃ n, fuel = n + 1 := ⟨fuel - 1, by simp at enough; omega⟩
      rw [List.cons_append, List.nodup_cons] at nodup
      have first : h.next i = (l ++ rest).head? := linked.1
      have behind : h.Linked (l ++ rest) := linked.2
      have one' : ∀ j ∈ l, Function.update h.ref i 0 j = 1 := by
        intro j mem
        have other : j ≠ i := fun same => nodup.1 (List.mem_append_left _ (same ▸ mem))
        rw [Function.update_of_ne other]
        exact one j (List.mem_cons_of_mem i mem)
      have step := @ih { h with ref := Function.update h.ref i 0, freed := h.freed ++ [i] } fuel
        (by simpa using enough) (@Linked.congr α h (l ++ rest) _ (fun _ _ => rfl) behind) nodup.2 one'
      rw [List.cons_append, List.head?_cons, release, if_neg (by simp [one i]),
        if_pos (one i List.mem_cons_self), first, step]
      congr 1
      · simp
      · simp only [Heap.mk.injEq, and_true, List.append_assoc, List.singleton_append]
        funext j
        by_cases here : j = i
        · simp [here]
        · simp [here]

theorem allocate_made (h : Heap α) (l : List α) : (h.allocate l).made = h.made ++ l.reverse := by
  induction l with
  | nil => simp [allocate]
  | cons i l ih => simp [allocate, ih]

omit [DecidableEq α] in
theorem lastCell_linked {i : α} {fuel : Nat} (enough : l.length ≤ fuel)
    (linked : h.Linked (i :: l)) :
    lastCell fuel h i = (i :: l).getLast (List.cons_ne_nil i l) := by
  induction l generalizing i fuel with
  | nil =>
      have last : h.next i = none := linked.1
      cases fuel with
      | zero => rfl
      | succ fuel => simp only [lastCell, last, List.getLast_singleton]
  | cons j l ih =>
      obtain ⟨fuel, rfl⟩ : ∃ n, fuel = n + 1 := ⟨fuel - 1, by simp at enough; omega⟩
      have first : h.next i = some j := linked.1
      simp only [lastCell, first]
      rw [ih (by simpa using enough) linked.2, List.getLast_cons (List.cons_ne_nil j l)]

/-- A chain whose last cell is linked to another chain. -/
theorem linked_append {l' : List α} {i : α} (linked : h.Linked (i :: l)) (behind : h.Linked l')
    (nodup : (i :: l ++ l').Nodup) :
    ({ h with next := Function.update h.next ((i :: l).getLast (List.cons_ne_nil i l)) l'.head? } :
      Heap α).Linked (i :: l ++ l') := by
  induction l generalizing i with
  | nil =>
      refine ⟨Function.update_self .., @Linked.congr α h l' _ (fun k mem => ?_) behind⟩
      refine Function.update_of_ne ?_ _ _
      rintro rfl
      exact (List.nodup_cons.mp nodup).1 mem
  | cons j l ih =>
      have first : h.next i = some j := linked.1
      obtain ⟨notBehind, others⟩ := List.nodup_cons.mp nodup
      have other : i ≠ (j :: l).getLast (List.cons_ne_nil j l) := by
        intro same
        apply notBehind
        rw [same]
        exact List.mem_append_left _ (List.getLast_mem _)
      simp only [List.getLast_cons (List.cons_ne_nil j l)]
      exact ⟨(Function.update_of_ne other _ _).trans first, ih linked.2 others⟩

theorem release_none (fuel : Nat) (h : Heap α) : release fuel h none = h := by
  cases fuel with
  | zero => rfl
  | succ fuel => rfl

/-- Releasing the only reference to a chain frees all of it. -/
theorem release_whole {fuel : Nat} (enough : l.length ≤ fuel) (linked : h.Linked l)
    (nodup : l.Nodup) (one : ∀ i ∈ l, h.ref i = 1) :
    release fuel h l.head? =
      { h with ref := fun i => if i ∈ l then 0 else h.ref i, freed := h.freed ++ l } := by
  have whole := @release_linked α _ h l [] fuel enough (by rwa [List.append_nil])
    (by rwa [List.append_nil]) one
  rwa [List.append_nil, List.head?_nil, release_none] at whole

/-- With a second reference to a cell of the chain, it takes both to free the chain. -/
theorem release_twice {l' : List α} {j : α} {fuel : Nat} (enough : (l ++ j :: l').length ≤ fuel)
    (linked : h.Linked (l ++ j :: l')) (nodup : (l ++ j :: l').Nodup)
    (one : ∀ i ∈ l ++ j :: l', h.ref i = 1) :
    release fuel (release fuel (h.retain j) (l ++ j :: l').head?) (some j) =
      release fuel h (l ++ j :: l').head? := by
  have apart := List.disjoint_of_nodup_append nodup
  have notBefore : j ∉ l := fun mem => apart mem List.mem_cons_self
  have here : h.ref j = 1 := one j (by simp)
  rw [List.length_append, List.length_cons] at enough
  obtain ⟨n, left⟩ : ∃ n, fuel - l.length = n + 1 := ⟨fuel - l.length - 1, by omega⟩
  set h₁ : Heap α := { h with ref := Function.update h.ref j 2 } with h₁_eq
  have retained : h.retain j = h₁ := by
    rw [retain, if_neg (by simp [here]), here]
  set h₂ : Heap α := { h₁ with
    ref := fun i => if i ∈ l then 0 else h₁.ref i, freed := h₁.freed ++ l } with h₂_eq
  have two : h₂.ref j = 2 := by simp [h₂_eq, h₁_eq, notBefore]
  -- The first release stops at the cell.
  have stops : release fuel h₁ (l ++ j :: l').head? =
      { h₂ with ref := Function.update h₂.ref j 1 } := by
    have one₁ : ∀ i ∈ l, h₁.ref i = 1 := by
      intro i mem
      have other : i ≠ j := fun same => notBefore (same ▸ mem)
      change Function.update h.ref j 2 i = 1
      rw [Function.update_of_ne other]
      exact one i (List.mem_append_left _ mem)
    rw [release_linked (by omega) (@Linked.congr α h _ h₁ (fun _ _ => rfl) linked) nodup one₁,
      ← h₂_eq, left, List.head?_cons, release, if_neg (by simp [two]), if_neg (by simp [two]), two]
  have rest := @release_whole α _ { h₂ with ref := Function.update h₂.ref j 1 } (j :: l') fuel
    (by simp; omega) (@Linked.congr α h _ _ (fun _ _ => rfl) linked.of_append)
    (List.nodup_append.mp nodup).2.1 (by
      intro i mem
      by_cases same : i = j
      · simp [same]
      · have behind : i ∉ l := fun mem' => apart mem' mem
        simp only [Function.update_of_ne same, h₂_eq, if_neg behind, h₁_eq]
        exact one i (List.mem_append_right _ mem))
  rw [List.head?_cons] at rest
  rw [retained, stops, rest, release_whole (by simp; omega) linked nodup one]
  simp only [Heap.mk.injEq, h₂_eq, h₁_eq, List.append_assoc, and_self, and_true]
  funext i
  by_cases same : i = j
  · simp [same]
  · by_cases before : i ∈ l
    · simp [same, before]
    · simp [same, before]

end Chains

/-! ### What the heap holds -/

section Rules

variable {h : Heap α} {l : List α} {chains : List (List α)} {fuel : Nat}

theorem holds_empty : ({} : Heap α).Holds [] where
  linked _ mem := absurd mem List.not_mem_nil
  nodup := List.nodup_nil
  made _ mem := absurd mem List.not_mem_nil
  ref _ := rfl
  freed _ := rfl
  clean := rfl

namespace Holds

/-- The order of the chains does not matter. -/
theorem perm {chains' : List (List α)} (holds : h.Holds chains) (order : chains.Perm chains') :
    h.Holds chains' where
  linked l mem := holds.linked l (order.mem_iff.mpr mem)
  nodup := (order.flatten.nodup_iff).mp holds.nodup
  made i mem := holds.made i (order.flatten.mem_iff.mpr mem)
  ref i := by rw [holds.ref, if_congr order.flatten.mem_iff rfl rfl]
  freed i := by
    rw [holds.freed, if_congr (and_congr_right fun _ => not_congr order.flatten.mem_iff) rfl rfl]
  clean := holds.clean

/-- An empty chain is none. -/
theorem nil_cons_iff : h.Holds ([] :: chains) ↔ h.Holds chains := by
  constructor
  · intro holds
    exact ⟨fun l mem => holds.linked l (List.mem_cons_of_mem [] mem), holds.nodup, holds.made,
      holds.ref, holds.freed, holds.clean⟩
  · intro holds
    refine ⟨fun l mem => ?_, holds.nodup, holds.made, holds.ref, holds.freed, holds.clean⟩
    obtain rfl | inside := List.mem_cons.mp mem
    · trivial
    · exact holds.linked l inside

/-- A chain is freed with its reference. -/
theorem release (holds : h.Holds (l :: chains)) (enough : l.length ≤ fuel) :
    (Heap.release fuel h l.head?).Holds chains := by
  have nodup := holds.nodup
  rw [List.flatten_cons, List.nodup_append'] at nodup
  obtain ⟨once, others, apart⟩ := nodup
  have one : ∀ i ∈ l, h.ref i = 1 := by
    intro i mem
    rw [holds.ref, if_pos (by simp [mem])]
  rw [release_whole enough (holds.linked l List.mem_cons_self) once one]
  refine ⟨fun m mem => ?_, others, fun i mem => holds.made i (by simp [mem]), fun i => ?_,
    fun i => ?_, holds.clean⟩
  · exact @Linked.congr α h m _ (fun _ _ => rfl) (holds.linked m (List.mem_cons_of_mem l mem))
  · simp only [holds.ref, List.flatten_cons, List.mem_append]
    by_cases here : i ∈ l
    · rw [if_pos here, if_neg (apart here)]
    · rw [if_neg here, if_congr (or_iff_right here) rfl rfl]
  · rw [List.count_append, holds.freed, once.count]
    simp only [List.flatten_cons, List.mem_append]
    by_cases here : i ∈ l
    · have wasMade : i ∈ h.made := holds.made i (by simp [here])
      rw [if_pos here, if_neg (fun both => both.2 (.inl here)), if_pos ⟨wasMade, apart here⟩]
    · rw [if_neg here, Nat.add_zero,
        if_congr (and_congr_right fun _ => not_congr (or_iff_right here)) rfl rfl]

/-- A chain with a second reference to one of its cells is freed with both references. -/
theorem release_twice {l' : List α} {j : α} (holds : h.Holds ((l ++ j :: l') :: chains))
    (enough : (l ++ j :: l').length ≤ fuel) :
    (Heap.release fuel (Heap.release fuel (h.retain j) (l ++ j :: l').head?) (some j)).Holds
      chains := by
  have nodup := holds.nodup
  rw [List.flatten_cons, List.nodup_append'] at nodup
  rw [Heap.release_twice enough (holds.linked _ List.mem_cons_self) nodup.1 fun i mem => by
    rw [holds.ref, List.flatten_cons, if_pos (List.mem_append_left _ mem)]]
  exact holds.release enough

/-- A second reference that is given up again. -/
theorem release_retain {j : α} (holds : h.Holds chains) (mem : j ∈ chains.flatten)
    (enough : 0 < fuel) : Heap.release fuel (h.retain j) (some j) = h := by
  obtain ⟨n, rfl⟩ : ∃ n, fuel = n + 1 := ⟨fuel - 1, by omega⟩
  have one : h.ref j = 1 := by rw [holds.ref, if_pos mem]
  rw [retain, if_neg (by simp [one]), Heap.release]
  simp only [Function.update_self, one]
  rw [if_neg (by decide), if_neg (by decide), Function.update_idem, Nat.add_sub_cancel, ← one,
    Function.update_eq_self]

/-- A new cell before a chain. -/
theorem cons {i : α} (holds : h.Holds (l :: chains)) (fresh : i ∉ h.made) :
    ({ h with
      ref := Function.update h.ref i 1
      next := Function.update h.next i l.head?
      made := h.made ++ [i] } : Heap α).Holds ((i :: l) :: chains) := by
  have outside : i ∉ (l :: chains).flatten := fun mem => fresh (holds.made i mem)
  have kept : ∀ m ∈ l :: chains, ∀ k ∈ m, Function.update h.next i l.head? k = h.next k := by
    intro m inside k mem
    apply Function.update_of_ne
    rintro rfl
    exact outside (List.mem_flatten.mpr ⟨m, inside, mem⟩)
  have whole : ((i :: l) :: chains).flatten = i :: (l :: chains).flatten := rfl
  have never : h.freed.count i = 0 := by
    rw [holds.freed, if_neg fun both => fresh both.1]
  refine ⟨fun m mem => ?_, ?_, fun k mem => ?_, fun k => ?_, fun k => ?_, holds.clean⟩
  · obtain rfl | inside := List.mem_cons.mp mem
    · exact ⟨Function.update_self .., @Linked.congr α h l _ (kept l List.mem_cons_self)
        (holds.linked l List.mem_cons_self)⟩
    · have inside' := List.mem_cons_of_mem l inside
      exact @Linked.congr α h m _ (kept m inside') (holds.linked m inside')
  · rw [whole]
    exact List.nodup_cons.mpr ⟨outside, holds.nodup⟩
  · rw [whole] at mem
    obtain rfl | inside := List.mem_cons.mp mem
    · exact List.mem_append_right _ List.mem_cons_self
    · exact List.mem_append_left _ (holds.made k inside)
  · rw [whole]
    simp only [List.mem_cons]
    by_cases same : k = i
    · subst same
      rw [Function.update_self, if_pos (.inl rfl)]
    · rw [Function.update_of_ne same, holds.ref, if_congr (or_iff_right same) rfl rfl]
  · rw [whole]
    simp only [List.mem_cons, List.mem_append, List.not_mem_nil, or_false]
    by_cases same : k = i
    · subst same
      rw [never, if_neg fun both => both.2 (.inl rfl)]
    · rw [holds.freed, if_congr (and_congr (or_iff_left same).symm
        (not_congr (or_iff_right same).symm)) rfl rfl]

/-- A new chain of cells that were never made. -/
theorem allocate (holds : h.Holds chains) (fresh : ∀ i ∈ l, i ∉ h.made) (nodup : l.Nodup) :
    (h.allocate l).Holds (l :: chains) := by
  induction l with
  | nil => exact nil_cons_iff.mpr holds
  | cons i l ih =>
      obtain ⟨notBehind, others⟩ := List.nodup_cons.mp nodup
      refine (ih (fun j mem => fresh j (List.mem_cons_of_mem i mem)) others).cons ?_
      rw [allocate_made, List.mem_append, List.mem_reverse]
      exact fun made => made.elim (fresh i List.mem_cons_self) notBehind

/-- Two chains become one. -/
theorem link {a b : List α} {i j : α} (holds : h.Holds ((i :: a) :: (j :: b) :: chains))
    (enough : a.length ≤ fuel) :
    (Heap.link fuel h i j).Holds ((i :: a ++ j :: b) :: chains) := by
  have whole : ((i :: a ++ j :: b) :: chains).flatten =
      ((i :: a) :: (j :: b) :: chains).flatten := by
    simp only [List.flatten_cons, List.append_assoc]
  have linked := holds.linked (i :: a) List.mem_cons_self
  rw [Heap.link, lastCell_linked enough linked]
  refine ⟨fun m mem => ?_, ?_, ?_, ?_, ?_, holds.clean⟩
  · have nodup := holds.nodup
    rw [← whole, List.flatten_cons] at nodup
    obtain rfl | inside := List.mem_cons.mp mem
    · exact linked_append linked (holds.linked (j :: b) (by simp)) (List.nodup_append'.mp nodup).1
    · refine @Linked.congr α h m _ (fun k mem' => Function.update_of_ne ?_ _ _)
        (holds.linked m (by simp [inside]))
      rintro rfl
      have last := List.getLast_mem (List.cons_ne_nil i a)
      exact (List.nodup_append'.mp nodup).2.2 (List.mem_append_left _ last)
        (List.mem_flatten.mpr ⟨m, inside, mem'⟩)
  · rw [whole]
    exact holds.nodup
  · rw [whole]
    exact holds.made
  · rw [whole]
    exact holds.ref
  · rw [whole]
    exact holds.freed

end Holds

end Rules

end Heap

end LwipExt.Lib
