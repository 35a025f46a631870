/-!
A do-while loop whose body may do another thing in every round.

`doWhile_spec` is the rule of total correctness: a measure that every repetition lowers bounds
the rounds, and what holds at the exit follows from an invariant.
-/

namespace LwipExt.Lib

variable {σ : Type} {body : Nat → σ → σ} {again : σ → Bool}

/-- The loop after `round` rounds, with `fuel` more at most. -/
def doWhile (body : Nat → σ → σ) (again : σ → Bool) : Nat → Nat → σ → Option σ
  | 0, _, _ => none
  | fuel + 1, round, s =>
      let s := body round s
      if again s then doWhile body again fuel (round + 1) s else some s

theorem doWhile_exit {fuel round : Nat} {s : σ} (exits : again (body round s) = false) :
    doWhile body again (fuel + 1) round s = some (body round s) := by
  simp only [doWhile]
  rw [exits]
  rfl

theorem doWhile_again {fuel round : Nat} {s : σ} (repeats : again (body round s) = true) :
    doWhile body again (fuel + 1) round s =
      doWhile body again fuel (round + 1) (body round s) := by
  simp only [doWhile]
  rw [repeats]
  rfl

/-- The loop ends, after more rounds than the measure at most, and its result does not depend on
how many more it might have had. -/
theorem doWhile_spec (measure : σ → Nat) (inv post : σ → Prop)
    (repeats : ∀ round s, inv s → again (body round s) = true →
      inv (body round s) ∧ measure (body round s) < measure s)
    (exits : ∀ round s, inv s → again (body round s) = false → post (body round s))
    (round : Nat) (s : σ) (holds : inv s) :
    ∃ s', post s' ∧ ∀ fuel, measure s < fuel → doWhile body again fuel round s = some s' := by
  induction bound : measure s using Nat.strongRecOn generalizing round s with
  | ind n ih =>
      cases test : again (body round s) with
      | false =>
          refine ⟨body round s, exits round s holds test, fun fuel enough => ?_⟩
          obtain ⟨fuel, rfl⟩ := Nat.exists_eq_add_one.mpr (Nat.zero_lt_of_lt enough)
          exact doWhile_exit test
      | true =>
          obtain ⟨kept, lower⟩ := repeats round s holds test
          obtain ⟨s', reached, ends⟩ := ih _ (bound ▸ lower) (round + 1) _ kept rfl
          refine ⟨s', reached, fun fuel enough => ?_⟩
          obtain ⟨fuel, rfl⟩ := Nat.exists_eq_add_one.mpr (Nat.zero_lt_of_lt enough)
          rw [doWhile_again test]
          exact ends fuel (by omega)

end LwipExt.Lib
