/-!
Partial versions of total computations.

A partial version stops where the language leaves the result open and otherwise agrees with the
total one. `Guarded p x a` says that `x` is a partial version of `a` that does not stop if `p`
holds; it is proved along the structure of a computation, one rule for each way to go on.
-/

namespace LwipExt.Lib

universe u v

variable {α : Type u} {β : Type v} {p q : Prop} {x : Option α} {a : α}

/-- `x` is a partial version of `a`, which goes through if `p` holds. -/
structure Guarded (p : Prop) (x : Option α) (a : α) : Prop where
  agrees : ∀ b, x = some b → b = a
  passes : p → x = some a

namespace Guarded

theorem total : Guarded p (some a) a := by
  constructor
  · intro b result
    exact (Option.some.inj result).symm
  · exact fun _ => rfl

theorem test [Decidable q] (implied : p → q) : Guarded p (if q then some a else none) a := by
  constructor
  · intro b result
    split at result
    · exact (Option.some.inj result).symm
    · cases result
  · intro holds
    exact if_pos (implied holds)

theorem mono (guarded : Guarded q x a) (implied : p → q) : Guarded p x a :=
  ⟨guarded.agrees, fun holds => guarded.passes (implied holds)⟩

/-- A computation that goes on: the guard of the rest follows from that of the first part. -/
theorem bind {f : α → Option β} {g : α → β} (first : Guarded p x a) (kept : p → q)
    (rest : Guarded q (f a) (g a)) : Guarded p (x.bind f) (g a) := by
  constructor
  · intro b result
    obtain ⟨a', found, result⟩ := Option.bind_eq_some_iff.mp result
    obtain rfl := first.agrees a' found
    exact rest.agrees b result
  · intro holds
    rw [first.passes holds, Option.bind_some]
    exact rest.passes (kept holds)

theorem map (guarded : Guarded p x a) (f : α → β) : Guarded p (x.map f) (f a) := by
  constructor
  · intro b result
    obtain ⟨a', found, result⟩ := Option.map_eq_some_iff.mp result
    obtain rfl := guarded.agrees a' found
    exact result.symm
  · intro holds
    rw [guarded.passes holds, Option.map_some]

end Guarded

end LwipExt.Lib
