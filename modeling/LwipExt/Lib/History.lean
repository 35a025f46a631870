import Mathlib.Data.List.Basic

/-!
Histories: lists of events, newest first.

`Throughout P history` says that every event of a history is as `P` says, given what was before
it. `newest` finds the newest event of a kind, `since` keeps what came after it.
-/

namespace LwipExt.Lib

universe u v w

variable {ε : Type u} {β : Type v} {γ : Type w}

/-- Every event is as `P` says, given the history before it. -/
def Throughout (P : ε → List ε → Prop) (history : List ε) : Prop :=
  ∀ event past, event :: past <:+ history → P event past

@[simp] theorem throughout_nil (P : ε → List ε → Prop) : Throughout P [] := by
  intro event past suffix
  simp at suffix

@[simp] theorem throughout_cons {P : ε → List ε → Prop} {event : ε} {past : List ε} :
    Throughout P (event :: past) ↔ P event past ∧ Throughout P past := by
  constructor
  · intro all
    exact ⟨all event past List.suffix_rfl,
      fun earlier rest suffix => all earlier rest (suffix.trans (List.suffix_cons event past))⟩
  · rintro ⟨newest, all⟩ earlier rest suffix
    rcases List.suffix_cons_iff.mp suffix with same | suffix
    · cases same
      exact newest
    · exact all earlier rest suffix

theorem Throughout.mono {P Q : ε → List ε → Prop} (weaker : ∀ event past, P event past → Q event past)
    {history : List ε} (all : Throughout P history) : Throughout Q history :=
  fun event past suffix => weaker event past (all event past suffix)

instance decidableThroughout {P : ε → List ε → Prop}
    [holds : ∀ event past, Decidable (P event past)] :
    ∀ history, Decidable (Throughout P history)
  | [] => .isTrue (throughout_nil P)
  | event :: past =>
      @decidable_of_iff' _ _ throughout_cons
        (@instDecidableAnd _ _ (holds event past) (decidableThroughout past))

/-- What the newest event of a kind says. -/
def newest (pick : ε → Option β) (history : List ε) : Option β := history.findSome? pick

/-- The events after the newest one of a kind. -/
def since (pick : ε → Option β) (history : List ε) : List ε :=
  history.takeWhile fun event => (pick event).isNone

section Rules

variable {pick : ε → Option β} {event : ε} {past history : List ε}

@[simp] theorem newest_nil : newest pick [] = none := rfl

theorem newest_cons_of_some {b : β} (picked : pick event = some b) :
    newest pick (event :: past) = some b := by
  rw [newest, List.findSome?_cons, picked]

theorem newest_cons_of_none (other : pick event = none) :
    newest pick (event :: past) = newest pick past := by
  rw [newest, List.findSome?_cons, other]
  rfl

theorem since_cons_of_some {b : β} (picked : pick event = some b) :
    since pick (event :: past) = [] := by
  rw [since, List.takeWhile_cons_of_neg (by simp [picked])]

theorem since_cons_of_none (other : pick event = none) :
    since pick (event :: past) = event :: since pick past := by
  rw [since, List.takeWhile_cons_of_pos (by simp [other])]
  rfl

/-- What is newest since some event is newest. -/
theorem newest_of_since {choose : ε → Option γ} {g : γ}
    (found : newest choose (since pick history) = some g) : newest choose history = some g := by
  induction history with
  | nil => exact found
  | cons event past ih =>
      cases picked : pick event with
      | some b =>
          rw [since_cons_of_some picked] at found
          cases found
      | none =>
          rw [since_cons_of_none picked] at found
          cases chosen : choose event with
          | some g' =>
              rw [newest_cons_of_some chosen] at found ⊢
              exact found
          | none =>
              rw [newest_cons_of_none chosen] at found ⊢
              exact ih found

/-- What was found is in the history. -/
theorem mem_of_newest {b : β} (found : newest pick history = some b) :
    ∃ event ∈ history, pick event = some b := by
  obtain ⟨event, mem, picked⟩ := List.exists_of_findSome?_eq_some found
  exact ⟨event, mem, picked⟩

end Rules

/-! ### What lasts -/

/-- The newest event of the first kind has none of the second kind after it. -/
def Lasts (made ended : ε → Prop) : List ε → Prop
  | [] => False
  | event :: past => made event ∨ ¬ ended event ∧ Lasts made ended past

section Lasting

variable {made ended : ε → Prop} {history : List ε}

/-- What lasts was made by an event of the history that no later one ended. -/
theorem lasts_iff : Lasts made ended history ↔ ∃ later event past,
    history = later ++ event :: past ∧ made event ∧ ∀ e ∈ later, ¬ ended e := by
  induction history with
  | nil => simp [Lasts]
  | cons first rest ih =>
      rw [Lasts, ih]
      constructor
      · rintro (here | ⟨kept, later, event, past, rfl, there, none⟩)
        · exact ⟨[], first, rest, rfl, here, nofun⟩
        · exact ⟨first :: later, event, past, rfl, there, List.forall_mem_cons.mpr ⟨kept, none⟩⟩
      · rintro ⟨later, event, past, eq, there, none⟩
        cases later with
        | nil =>
            cases eq
            exact .inl there
        | cons first later =>
            cases eq
            rw [List.forall_mem_cons] at none
            exact .inr ⟨none.1, later, event, past, rfl, there, none.2⟩

instance decidableLasts [DecidablePred made] [DecidablePred ended] :
    ∀ history, Decidable (Lasts made ended history)
  | [] => .isFalse id
  | _ :: past =>
      @instDecidableOr _ _ inferInstance
        (@instDecidableAnd _ _ inferInstance (decidableLasts past))

end Lasting

end LwipExt.Lib
