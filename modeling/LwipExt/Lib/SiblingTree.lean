import Mathlib.Data.List.Basic

/-!
Trees of nodes that carry a pointer to their first child and one to their next sibling, and the
search of a path in them.

`walk` is one loop with one pointer, which goes down to the children of the first sibling that
fits the next step of the path, and never comes back. `walk_eq` says that this is the recursive
`lookup`, and `lookup_eq_some_iff` that with distinct siblings it finds the node at the end of
the path whenever there is one.
-/

namespace LwipExt.Lib

universe u v

/-- A pointer to a node; `null` is no node. -/
inductive SiblingTree (α : Type u) where
  | null
  | node (label : α) (child next : SiblingTree α)
  deriving DecidableEq, Repr

namespace SiblingTree

variable {α : Type u} {ρ : Type v}

/-- The node and the siblings behind it. -/
def siblings : SiblingTree α → List (SiblingTree α)
  | null => []
  | node a child next => node a child next :: siblings next

def children : SiblingTree α → List (SiblingTree α)
  | null => []
  | node _ child _ => child.siblings

variable (fits : α → ρ → Bool)

/-- The label of the node fits a step of a path. -/
def Fits (r : ρ) : SiblingTree α → Bool
  | null => false
  | node a _ _ => fits a r

/-- The node at the end of a path, where every step takes the first child that fits. -/
def lookup : SiblingTree α → List ρ → Option (SiblingTree α)
  | t, [] => some t
  | t, r :: path => (t.children.find? (Fits fits r)).bind fun c => lookup c path

/-- The loop, from the first sibling on. -/
def walk : SiblingTree α → List ρ → Option (SiblingTree α)
  | null, _ => none
  | node _ _ _, [] => none
  | node a child next, r :: path =>
      if fits a r then
        if path = [] then some (node a child next) else walk child path
      else walk next (r :: path)

/-- The path leads from one node to another. -/
inductive Reaches : SiblingTree α → List ρ → SiblingTree α → Prop
  | here (t : SiblingTree α) : Reaches t [] t
  | step {t c d : SiblingTree α} {r : ρ} {path : List ρ} :
      c ∈ t.children → Fits fits r c → Reaches c path d → Reaches t (r :: path) d

/-- No two siblings of the tree are alike. -/
def Distinct (alike : α → α → Bool) : SiblingTree α → Prop
  | null => True
  | node a child next =>
      (∀ s ∈ next.siblings, Fits (fun b a => alike a b) a s = false) ∧
        child.Distinct alike ∧ next.Distinct alike

instance decidableDistinct (alike : α → α → Bool) : (t : SiblingTree α) →
    Decidable (t.Distinct alike)
  | null => .isTrue trivial
  | node _ child next =>
      have := decidableDistinct alike child
      have := decidableDistinct alike next
      inferInstanceAs (Decidable (_ ∧ _ ∧ _))

/-- All labels of the tree have a property. -/
def All (p : α → Prop) : SiblingTree α → Prop
  | null => True
  | node a child next => p a ∧ child.All p ∧ next.All p

instance decidableAll (p : α → Prop) [DecidablePred p] : (t : SiblingTree α) → Decidable (t.All p)
  | null => .isTrue trivial
  | node _ child next =>
      have := decidableAll p child
      have := decidableAll p next
      inferInstanceAs (Decidable (_ ∧ _ ∧ _))

section Search

variable {fits}

/-- **The loop is the recursive search** among the siblings that it starts from. -/
theorem walk_eq (t : SiblingTree α) (r : ρ) (path : List ρ) :
    walk fits t (r :: path) =
      (t.siblings.find? (Fits fits r)).bind fun c => lookup fits c path := by
  induction t generalizing r path with
  | null => rfl
  | node a child next down on =>
      unfold walk siblings
      by_cases found : fits a r
      · have first : (node a child next :: next.siblings).find? (Fits fits r) =
            some (node a child next) := List.find?_cons_of_pos found
        rw [if_pos found, first]
        cases path with
        | nil => rfl
        | cons s path =>
            rw [if_neg (List.cons_ne_nil s path), down s path]
            rfl
      · have behind : (node a child next :: next.siblings).find? (Fits fits r) =
            next.siblings.find? (Fits fits r) := List.find?_cons_of_neg found
        rw [if_neg found, behind]
        exact on r path

variable {alike : α → α → Bool} {t c d : SiblingTree α} {r : ρ} {path : List ρ}

theorem distinct_of_mem (distinct : t.Distinct alike) (mem : c ∈ t.siblings) :
    c.Distinct alike := by
  induction t with
  | null => cases mem
  | node a child next _ on =>
      rcases List.mem_cons.mp mem with rfl | later
      · exact distinct
      · exact on distinct.2.2 later

theorem distinct_children (distinct : t.Distinct alike) (mem : c ∈ t.children) :
    c.Distinct alike := by
  cases t with
  | null => cases mem
  | node a child next => exact distinct_of_mem distinct.2.1 mem

/-- The only sibling that fits is the one that is found. -/
theorem find_siblings (congr : ∀ a b r, fits a r → fits b r → alike a b)
    (distinct : t.Distinct alike) (mem : c ∈ t.siblings) (fit : Fits fits r c) :
    t.siblings.find? (Fits fits r) = some c := by
  induction t with
  | null => cases mem
  | node a child next _ on =>
      unfold siblings at mem ⊢
      rcases List.mem_cons.mp mem with rfl | later
      · exact List.find?_cons_of_pos fit
      · have apart : ¬ fits a r := by
          intro first
          have differs := distinct.1 c later
          cases c with
          | null => cases fit
          | node b _ _ =>
              have same : alike a b := congr a b r first fit
              simp only [Fits, same, Bool.true_eq_false] at differs
        have behind : (node a child next :: next.siblings).find? (Fits fits r) =
            next.siblings.find? (Fits fits r) := List.find?_cons_of_neg apart
        rw [behind]
        exact on distinct.2.2 later

/-- **With distinct siblings the search finds what a path leads to.** -/
theorem lookup_eq_some_iff (congr : ∀ a b r, fits a r → fits b r → alike a b)
    (distinct : t.Distinct alike) :
    lookup fits t path = some d ↔ Reaches fits t path d := by
  induction path generalizing t with
  | nil =>
      constructor
      · intro found
        cases found
        exact .here _
      · intro reaches
        cases reaches
        rfl
  | cons r path ih =>
      constructor
      · intro found
        obtain ⟨c, first, rest⟩ := Option.bind_eq_some_iff.mp found
        have mem := List.mem_of_find?_eq_some first
        exact .step mem (List.find?_some first)
          ((ih (distinct_children distinct mem)).mp rest)
      · intro reaches
        cases reaches with
        | @step _ c _ _ _ mem fit rest =>
            have found : t.children.find? (Fits fits r) = some c := by
              cases t with
              | null => cases mem
              | node a child next => exact find_siblings congr distinct.2.1 mem fit
            unfold lookup
            rw [found]
            exact (ih (distinct_children distinct mem)).mpr rest

end Search

end SiblingTree

end LwipExt.Lib
