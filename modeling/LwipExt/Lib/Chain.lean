import Mathlib.Data.List.Nodup
import Mathlib.Logic.Function.Basic

/-!
Singly linked lists whose nodes carry their own link.

`Chain next head l` says that the nodes reached from `head` along `next`, up to NULL, are `l`.
Such a chain never comes back to a node (`Chain.nodup`). A node is put in front (`Chain.push`),
the walk of `unlinkAfter` takes one out (`Chain.unlinkAfter`), and the walk of `beforeLast` finds
the one in front of the last (`Chain.beforeLast`). Both walks carry a bound on their steps, and
are `none` when they need more.
-/

namespace LwipExt.Lib

universe u

variable {κ : Type u}

/-- The nodes from `head` along `next` are `l`. -/
def Chain (next : κ → Option κ) : Option κ → List κ → Prop
  | head, [] => head = none
  | head, a :: l => head = some a ∧ Chain next (next a) l

section Shape

variable {next : κ → Option κ} {head : Option κ} {l l' : List κ} {a : κ}

@[simp] theorem chain_nil : Chain next head [] ↔ head = none := Iff.rfl

@[simp] theorem chain_cons : Chain next head (a :: l) ↔ head = some a ∧ Chain next (next a) l :=
  Iff.rfl

/-- There is one list of nodes at most. -/
theorem Chain.unique (chain : Chain next head l) (chain' : Chain next head l') : l = l' := by
  induction l generalizing head l' with
  | nil =>
      cases l' with
      | nil => rfl
      | cons b l' =>
          rw [chain_nil.mp chain] at chain'
          cases chain'.1
  | cons a l ih =>
      cases l' with
      | nil =>
          rw [chain_nil.mp chain'] at chain
          cases chain.1
      | cons b l' =>
          obtain ⟨first, rest⟩ := chain
          obtain ⟨first', rest'⟩ := chain'
          rw [first] at first'
          cases first'
          rw [ih rest rest']

/-- The chain from a node on. -/
theorem Chain.from {s t : List κ} (chain : Chain next head (s ++ a :: t)) :
    Chain next (some a) (a :: t) := by
  induction s generalizing head with
  | nil =>
      obtain ⟨first, rest⟩ := chain
      exact ⟨rfl, rest⟩
  | cons b s ih => exact ih chain.2

/-- A chain that ends has no node twice. -/
theorem Chain.nodup (chain : Chain next head l) : l.Nodup := by
  induction l generalizing head with
  | nil => exact List.nodup_nil
  | cons a l ih =>
      obtain ⟨first, rest⟩ := chain
      refine List.nodup_cons.mpr ⟨?_, ih rest⟩
      intro again
      obtain ⟨s, t, rfl⟩ := List.append_of_mem again
      have whole : Chain next (some a) (a :: (s ++ a :: t)) := ⟨rfl, rest⟩
      have same := congrArg List.length (whole.unique rest.from)
      simp only [List.length_cons, List.length_append] at same
      omega

/-- Links of other nodes do not matter. -/
theorem Chain.congr {next' : κ → Option κ} (chain : Chain next head l)
    (same : ∀ a ∈ l, next' a = next a) : Chain next' head l := by
  induction l generalizing head with
  | nil => exact chain
  | cons a l ih =>
      obtain ⟨first, rest⟩ := chain
      refine ⟨first, ?_⟩
      rw [same a List.mem_cons_self]
      exact ih rest fun b mem => same b (List.mem_cons_of_mem a mem)

variable [DecidableEq κ]

/-- A node in front of the others. -/
theorem Chain.push (chain : Chain next head l) (fresh : a ∉ l) :
    Chain (Function.update next a head) (some a) (a :: l) := by
  refine ⟨rfl, ?_⟩
  rw [Function.update_self]
  refine chain.congr fun b mem => Function.update_of_ne ?_ _ _
  rintro rfl
  exact fresh mem

end Shape

section Walks

variable [DecidableEq κ] (next : κ → Option κ)

/-- Walk on from the node `last`, and unlink the node `c` when it comes next. -/
def unlinkAfter (c : κ) : Nat → κ → Option (κ → Option κ)
  | 0, _ => none
  | bound + 1, last =>
      match next last with
      | none => some next
      | some d =>
          if d = c then some (Function.update next last (next c)) else unlinkAfter c bound d

/-- Walk on from a node as long as another one follows, and return the last node passed. -/
def beforeLast : Nat → Option κ → Option κ → Option (Option κ)
  | _, none, found => some found
  | 0, some _, _ => none
  | bound + 1, some a, found =>
      match next a with
      | none => some found
      | some b => beforeLast bound (some b) (some a)

variable {next}

/-- The walk takes the node out, when it is there. -/
theorem Chain.unlinkAfter {c last : κ} {l : List κ} {bound : Nat}
    (chain : Chain next (some last) (last :: l)) (other : last ≠ c) (enough : l.length < bound) :
    ∃ next', Lib.unlinkAfter next c bound last = some next' ∧
      Chain next' (some last) (last :: l.erase c) ∧ ∀ d ∉ last :: l, next' d = next d := by
  induction bound generalizing last l with
  | zero => omega
  | succ bound ih =>
      have nodup := chain.nodup
      obtain ⟨-, rest⟩ := chain
      unfold Lib.unlinkAfter
      cases l with
      | nil =>
          have ends : next last = none := chain_nil.mp rest
          rw [ends]
          exact ⟨next, rfl, ⟨rfl, rest⟩, fun d _ => rfl⟩
      | cons d l =>
          obtain ⟨follows, behind⟩ := rest
          rw [follows]
          simp only
          have apart : last ∉ d :: l := (List.nodup_cons.mp nodup).1
          by_cases found : d = c
          · subst found
            rw [if_pos rfl, List.erase_cons_head]
            refine ⟨_, rfl, ⟨rfl, ?_⟩, ?_⟩
            · rw [Function.update_self]
              refine behind.congr fun e mem => Function.update_of_ne ?_ _ _
              rintro rfl
              exact apart (List.mem_cons_of_mem d mem)
            · intro e away
              exact Function.update_of_ne (List.ne_of_not_mem_cons away) _ _
          · rw [if_neg found]
            obtain ⟨next', walked, ⟨_, behind'⟩, frame⟩ :=
              ih ⟨rfl, behind⟩ found (by simpa using enough)
            refine ⟨next', walked, ?_, ?_⟩
            · rw [List.erase_cons_tail (by simpa using found)]
              refine ⟨rfl, ?_⟩
              rw [frame last apart]
              exact ⟨follows, behind'⟩
            · intro e away
              exact frame e (List.not_mem_of_not_mem_cons away)

omit [DecidableEq κ] in
/-- The walk stops in front of the last node, and at once when there is no other one. -/
theorem Chain.beforeLast {a : κ} {l : List κ} {bound : Nat} (found : Option κ)
    (chain : Chain next (some a) (a :: l)) (enough : l.length < bound) :
    ∃ p, Lib.beforeLast next bound (some a) found = some p ∧ (l = [] → p = found) ∧
      (l ≠ [] → ∃ b, p = some b ∧ next b = l.getLast?) := by
  induction bound generalizing a l found with
  | zero => omega
  | succ bound ih =>
      obtain ⟨-, rest⟩ := chain
      unfold Lib.beforeLast
      cases l with
      | nil =>
          have ends : next a = none := chain_nil.mp rest
          rw [ends]
          exact ⟨found, rfl, fun _ => rfl, fun more => absurd rfl more⟩
      | cons b l =>
          obtain ⟨follows, behind⟩ := rest
          rw [follows]
          obtain ⟨p, walked, ends, more⟩ := ih (some a) ⟨rfl, behind⟩ (by simpa using enough)
          refine ⟨p, walked, fun empty => absurd empty (List.cons_ne_nil b l), fun _ => ?_⟩
          cases l with
          | nil => exact ⟨a, ends rfl, follows⟩
          | cons c l =>
              rw [List.getLast?_cons_cons]
              exact more (List.cons_ne_nil c l)

end Walks

end LwipExt.Lib
