import Mathlib.Data.List.Basic

/-!
Runs of a deterministic system that takes one event at a time.

`run step s es` is the state after the events `es`. `Along step P s es` says that
every step of that run satisfies `P`, a predicate on the state before the step and
the event. Two rules carry every result about runs: `run_invariant` (a step
invariant under a guard holds after every guarded run) and `clean_run_iff` (a
property that a step can only destroy holds at the end of a run exactly when no
step destroyed it).
-/

namespace LwipExt.Lib

universe u v

variable {σ : Type u} {ε : Type v}

/-- The state after the events of a run. -/
def run (step : σ → ε → σ) : σ → List ε → σ
  | s, [] => s
  | s, e :: es => run step (step s e) es

/-- Every step of the run satisfies `P`. -/
def Along (step : σ → ε → σ) (P : σ → ε → Prop) : σ → List ε → Prop
  | _, [] => True
  | s, e :: es => P s e ∧ Along step P (step s e) es

section Rules

variable {step : σ → ε → σ} {P Q : σ → ε → Prop}

@[simp] theorem run_nil (s : σ) : run step s [] = s := rfl

@[simp] theorem run_cons (s : σ) (e : ε) (es : List ε) :
    run step s (e :: es) = run step (step s e) es := rfl

theorem run_append (s : σ) (es es' : List ε) :
    run step s (es ++ es') = run step (run step s es) es' := by
  induction es generalizing s with
  | nil => rfl
  | cons e es ih => exact ih (step s e)

@[simp] theorem along_nil (s : σ) : Along step P s [] := trivial

@[simp] theorem along_cons (s : σ) (e : ε) (es : List ε) :
    Along step P s (e :: es) ↔ P s e ∧ Along step P (step s e) es := Iff.rfl

theorem along_append (s : σ) (es es' : List ε) :
    Along step P s (es ++ es') ↔ Along step P s es ∧ Along step P (run step s es) es' := by
  induction es generalizing s with
  | nil => simp
  | cons e es ih => simp [ih, and_assoc]

theorem Along.mono (weaker : ∀ s e, P s e → Q s e) {s : σ} {es : List ε}
    (h : Along step P s es) : Along step Q s es := by
  induction es generalizing s with
  | nil => trivial
  | cons e es ih => exact ⟨weaker s e h.1, ih h.2⟩

instance decidableAlong [holds : ∀ s e, Decidable (P s e)] :
    ∀ (s : σ) (es : List ε), Decidable (Along step P s es)
  | _, [] => .isTrue trivial
  | s, e :: es => @instDecidableAnd _ _ (holds s e) (decidableAlong (step s e) es)

/-- What every guarded step preserves holds after every guarded run. -/
theorem run_invariant {Inv : σ → Prop} (preserved : ∀ s e, Inv s → P s e → Inv (step s e))
    {s : σ} {es : List ε} (init : Inv s) (guarded : Along step P s es) :
    Inv (run step s es) := by
  induction es generalizing s with
  | nil => exact init
  | cons e es ih => exact ih (preserved s e init guarded.1) guarded.2

/-- What every step preserves holds after every run. -/
theorem run_invariant_of_step (Inv : σ → Prop) (preserved : ∀ s e, Inv s → Inv (step s e))
    {s : σ} (init : Inv s) (es : List ε) : Inv (run step s es) := by
  induction es generalizing s with
  | nil => exact init
  | cons e es ih => exact ih (preserved s e init)

/-- In a run whose steps are guarded by `G`: if under an invariant a step keeps `Clean`
exactly when `P` holds, and what is no longer `Clean` stays so, then the run ends
`Clean` exactly when `P` holds along it. -/
theorem clean_guarded_run_iff (Inv Clean : σ → Prop) (G : σ → ε → Prop)
    (keeps : ∀ s e, Inv s → G s e → Clean s → (Clean (step s e) ↔ P s e))
    (preserved : ∀ s e, Inv s → G s e → Inv (step s e))
    (spoiled : ∀ s e, Inv s → G s e → ¬ Clean s → ¬ Clean (step s e))
    {s : σ} (init : Inv s) (clean : Clean s) {es : List ε} (guarded : Along step G s es) :
    Clean (run step s es) ↔ Along step P s es := by
  induction es generalizing s with
  | nil => simp [clean]
  | cons e es ih =>
      obtain ⟨guard, rest⟩ := guarded
      rw [run_cons, along_cons]
      by_cases holds : P s e
      · have rest_iff := ih (preserved s e init guard)
          ((keeps s e init guard clean).mpr holds) rest
        simpa [holds] using rest_iff
      · have dirty : Inv (step s e) ∧ ¬ Clean (step s e) :=
          ⟨preserved s e init guard, fun h => holds ((keeps s e init guard clean).mp h)⟩
        have stays : ∀ s e, (Inv s ∧ ¬ Clean s) → G s e → Inv (step s e) ∧ ¬ Clean (step s e) :=
          fun s e h guard => ⟨preserved s e h.1 guard, spoiled s e h.1 guard h.2⟩
        have ends := run_invariant stays dirty rest
        simp [holds, ends.2]

theorem along_of_forall (holds : ∀ s e, P s e) (s : σ) (es : List ε) : Along step P s es := by
  induction es generalizing s with
  | nil => trivial
  | cons e es ih => exact ⟨holds s e, ih (step s e)⟩

/-- If under an invariant a step keeps `Clean` exactly when `P` holds, and what is
no longer `Clean` stays so, then a run ends `Clean` exactly when `P` holds along
it. -/
theorem clean_run_iff (Inv Clean : σ → Prop)
    (keeps : ∀ s e, Inv s → Clean s → (Clean (step s e) ↔ P s e))
    (preserved : ∀ s e, Inv s → Inv (step s e))
    (spoiled : ∀ s e, Inv s → ¬ Clean s → ¬ Clean (step s e))
    {s : σ} (init : Inv s) (clean : Clean s) (es : List ε) :
    Clean (run step s es) ↔ Along step P s es :=
  clean_guarded_run_iff Inv Clean (fun _ _ => True) (fun s e inv _ => keeps s e inv)
    (fun s e inv _ => preserved s e inv) (fun s e inv _ => spoiled s e inv) init clean
    (along_of_forall (fun _ _ => trivial) s es)

/-- If under an invariant a step is as `Q` says exactly when it is as `P` says, and then keeps the
invariant, then a run is so exactly when it is. -/
theorem along_iff_of_inv (Inv : σ → Prop) (same : ∀ s e, Inv s → (Q s e ↔ P s e))
    (next : ∀ s e, Inv s → Q s e → Inv (step s e)) {s : σ} (init : Inv s) (es : List ε) :
    Along step Q s es ↔ Along step P s es := by
  induction es generalizing s with
  | nil => exact Iff.rfl
  | cons e es ih =>
      rw [along_cons, along_cons, ← same s e init]
      exact and_congr_right fun holds => ih (next s e init holds)

/-- If under an invariant a step from a good state ends in a good state exactly when `P` holds,
then all states of a run are good exactly when `P` holds along it. -/
theorem along_good_iff_of_inv (Inv Good : σ → Prop)
    (keeps : ∀ s e, Inv s → Good s → (Good (step s e) ↔ P s e))
    (preserved : ∀ s e, Inv s → Inv (step s e)) {s : σ} (init : Inv s) (good : Good s)
    (es : List ε) :
    Along step (fun s e => Good (step s e)) s es ↔ Along step P s es :=
  along_iff_of_inv (fun s => Inv s ∧ Good s) (fun s e inv => keeps s e inv.1 inv.2)
    (fun s e inv next => ⟨preserved s e inv.1, next⟩) ⟨init, good⟩ es

/-- If a step from a good state ends in a good state exactly when `P` holds, then all states of a
run are good exactly when `P` holds along it. -/
theorem along_good_iff (Good : σ → Prop)
    (keeps : ∀ s e, Good s → (Good (step s e) ↔ P s e)) {s : σ} (good : Good s) (es : List ε) :
    Along step (fun s e => Good (step s e)) s es ↔ Along step P s es :=
  along_good_iff_of_inv (fun _ => True) Good (fun s e _ => keeps s e) (fun _ _ _ => trivial) trivial
    good es

end Rules

/-! ### Recorded runs -/

/-- A step that is recorded, newest first, with the state before it. -/
def traced (step : σ → ε → σ) (s : σ × List (σ × ε)) (e : ε) : σ × List (σ × ε) :=
  (step s.1 e, (s.1, e) :: s.2)

/-- The steps of a run, newest first, each with the state before it. -/
def trace (step : σ → ε → σ) (s : σ) (es : List ε) : List (σ × ε) := (run (traced step) (s, []) es).2

section Traces

variable {step : σ → ε → σ} {P : σ → ε → Prop}

/-- What every guarded step preserves of the state and the record holds after a guarded run. -/
theorem trace_invariant (Inv : σ → List (σ × ε) → Prop)
    (preserved : ∀ s past e, Inv s past → P s e → Inv (step s e) ((s, e) :: past))
    {s : σ} {es : List ε} (init : Inv s []) (guarded : Along step P s es) :
    Inv (run step s es) (trace step s es) := by
  have general : ∀ past, Inv s past → Inv (run step s es) (run (traced step) (s, past) es).2 := by
    clear init
    induction es generalizing s with
    | nil => exact fun past init => init
    | cons e es ih =>
        exact fun past init => ih guarded.2 _ (preserved s past e init guarded.1)
  exact general [] init

/-- What every step preserves of the state and the record holds after a run. -/
theorem trace_invariant_of_step (Inv : σ → List (σ × ε) → Prop)
    (preserved : ∀ s past e, Inv s past → Inv (step s e) ((s, e) :: past))
    {s : σ} (init : Inv s []) (es : List ε) : Inv (run step s es) (trace step s es) := by
  refine trace_invariant (P := fun _ _ => True) Inv (fun s past e inv _ => preserved s past e inv)
    init ?_
  clear init
  induction es generalizing s with
  | nil => trivial
  | cons e es ih => exact ⟨trivial, ih⟩

end Traces

end LwipExt.Lib
