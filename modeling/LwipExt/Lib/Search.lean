import Mathlib.Data.List.Infix
import Mathlib.Tactic.Common

/-!
Searching a word for a token, reading no further than a stop symbol.

`findBefore stop token l` is the position of the first occurrence of `token` in
`l` that a left-to-right scan meets before it stands on `stop`. The main fact is
`findBefore_of_first`: in a word whose first part ends with its only occurrence
of the token and has no stop symbol, the scan finds that occurrence, whatever
follows.
-/

namespace LwipExt.Lib

universe u

variable {α : Type u} [DecidableEq α]

/-- Position of the first occurrence of `token` in `l`, met before `stop`. -/
def findBefore (stop : α) (token : List α) : List α → Option Nat
  | [] => none
  | a :: l =>
      if a = stop then none
      else if token.isPrefixOf (a :: l) then some 0
      else (findBefore stop token l).map (· + 1)

/-- Position of the first occurrence of `token` in `l`. -/
def findSub (token : List α) : List α → Option Nat
  | [] => if token = [] then some 0 else none
  | a :: l =>
      if token.isPrefixOf (a :: l) then some 0 else (findSub token l).map (· + 1)

section Find

variable {stop : α} {token : List α}

@[simp] theorem findBefore_nil : findBefore stop token [] = none := rfl

theorem findBefore_cons (a : α) (l : List α) :
    findBefore stop token (a :: l) =
      if a = stop then none
      else if token <+: a :: l then some 0
      else (findBefore stop token l).map (· + 1) := by
  simp [findBefore]

/-- What the scan reports is an occurrence of the token. -/
theorem isPrefix_of_findBefore {l : List α} {i : Nat} (found : findBefore stop token l = some i) :
    token <+: l.drop i := by
  induction l generalizing i with
  | nil => simp at found
  | cons a l ih =>
      rw [findBefore_cons] at found
      split_ifs at found with _ here
      · obtain rfl : i = 0 := by simpa using found.symm
        simpa using here
      · obtain ⟨j, found', rfl⟩ := Option.map_eq_some_iff.mp found
        simpa using ih found'

theorem findBefore_lt_length {l : List α} {i : Nat} (found : findBefore stop token l = some i) :
    i < l.length := by
  induction l generalizing i with
  | nil => simp at found
  | cons a l ih =>
      rw [findBefore_cons] at found
      split_ifs at found with _ here
      · obtain rfl : i = 0 := by simpa using found.symm
        simp
      · obtain ⟨j, found', rfl⟩ := Option.map_eq_some_iff.mp found
        simpa using ih found'

/-- The scan finds the only occurrence of the token in the part before `rest`,
when that part has no stop symbol and ends with the token. -/
theorem findBefore_of_first {before : List α} (rest : List α) (nonempty : token ≠ [])
    (noStop : stop ∉ before ++ token) (first : ¬ token <:+: (before ++ token).dropLast) :
    findBefore stop token (before ++ token ++ rest) = some before.length := by
  induction before with
  | nil =>
      obtain ⟨a, token', rfl⟩ := List.exists_cons_of_ne_nil nonempty
      have notStop : a ≠ stop := by
        rintro rfl
        simp at noStop
      simp [findBefore_cons, notStop]
  | cons b before ih =>
      have notStop : b ≠ stop := by
        rintro rfl
        simp at noStop
      have nonempty' : before ++ token ≠ [] := by simp [nonempty]
      have split : (b :: before ++ token).dropLast = b :: (before ++ token).dropLast := by
        rw [List.cons_append, List.dropLast_cons_of_ne_nil nonempty']
      rw [split] at first
      have notHere : ¬ token <+: b :: (before ++ token ++ rest) := by
        intro here
        have shorter : token.length ≤ (b :: (before ++ token).dropLast).length := by
          have := List.length_pos_of_ne_nil nonempty
          simp
          omega
        apply first
        refine List.IsPrefix.isInfix (List.prefix_of_prefix_length_le here ?_ shorter)
        exact List.cons_prefix_cons.mpr
          ⟨rfl, (List.dropLast_prefix _).trans (List.prefix_append _ _)⟩
      have tail := ih (fun mem => noStop (by simp at mem ⊢; tauto))
        (fun inside => first (inside.trans (List.suffix_cons _ _).isInfix))
      rw [List.cons_append, List.cons_append, findBefore_cons, if_neg notStop, if_neg notHere, tail]
      rfl

/-- A token that was found is found whatever follows. -/
theorem findBefore_append {l : List α} {i : Nat} (found : findBefore stop token l = some i)
    (rest : List α) : findBefore stop token (l ++ rest) = some i := by
  induction l generalizing i with
  | nil => cases found
  | cons a l ih =>
      rw [findBefore_cons] at found
      rw [List.cons_append, findBefore_cons]
      split_ifs at found with stopped here
      · have here' : token <+: a :: (l ++ rest) := here.trans (List.prefix_append (a :: l) rest)
        rw [if_neg stopped, if_pos here', found]
      · obtain ⟨j, found', rfl⟩ := Option.map_eq_some_iff.mp found
        have short : token.length ≤ (a :: l).length := by
          have inside := (isPrefix_of_findBefore found').length_le
          rw [List.length_drop] at inside
          rw [List.length_cons]
          omega
        have notHere : ¬ token <+: a :: (l ++ rest) := fun here' =>
          here (List.prefix_of_prefix_length_le here' (List.prefix_append (a :: l) rest) short)
        rw [if_neg stopped, if_neg notHere, ih found']
        rfl

/-- The scan does not look behind the first stop symbol. -/
theorem findBefore_takeWhile (noStop : stop ∉ token) (l : List α) :
    findBefore stop token (l.takeWhile (· ≠ stop)) = findBefore stop token l := by
  induction l with
  | nil => rfl
  | cons a l ih =>
      by_cases stopped : a = stop
      · rw [List.takeWhile_cons_of_neg (by simpa using stopped), findBefore_cons, if_pos stopped]
        rfl
      · have same : token <+: a :: l.takeWhile (· ≠ stop) ↔ token <+: a :: l := by
          rw [← List.takeWhile_cons_of_pos (p := (· ≠ stop)) (by simpa using stopped)]
          constructor
          · exact fun here => here.trans (List.takeWhile_prefix _)
          · rintro ⟨rest, whole⟩
            rw [← whole, List.takeWhile_append_of_pos]
            · exact List.prefix_append token _
            · intro b mem
              simpa using ne_of_mem_of_not_mem mem noStop
        rw [List.takeWhile_cons_of_pos (by simpa using stopped), findBefore_cons, findBefore_cons,
          if_neg stopped, if_neg stopped, ih, if_congr same rfl rfl]

/-- The scan finds the first occurrence, if no stop symbol is before it. -/
theorem findBefore_eq_some_iff (nonempty : token ≠ []) (noStop : stop ∉ token) {l : List α}
    {i : Nat} :
    findBefore stop token l = some i ↔
      ∃ before rest, l = before ++ token ++ rest ∧ before.length = i ∧ stop ∉ before ∧
        ¬ token <:+: (before ++ token).dropLast := by
  constructor
  · intro found
    induction l generalizing i with
    | nil => cases found
    | cons a l ih =>
        rw [findBefore_cons] at found
        split_ifs at found with stopped here
        · obtain ⟨rest, whole⟩ := here
          refine ⟨[], rest, whole.symm, Option.some.inj found, List.not_mem_nil, fun inside => ?_⟩
          have short := inside.length_le
          rw [List.nil_append, List.length_dropLast] at short
          have some := List.length_pos_of_ne_nil nonempty
          omega
        · obtain ⟨j, found', rfl⟩ := Option.map_eq_some_iff.mp found
          obtain ⟨before, rest, rfl, rfl, clean, first⟩ := ih found'
          refine ⟨a :: before, rest, rfl, rfl, ?_, fun inside => ?_⟩
          · exact List.not_mem_cons_of_ne_of_not_mem (Ne.symm stopped) clean
          · have some : before ++ token ≠ [] := by simp [nonempty]
            rw [List.cons_append, List.dropLast_cons_of_ne_nil some,
              List.infix_cons_iff] at inside
            refine inside.elim (fun here' => here ?_) first
            refine here'.trans (List.cons_prefix_cons.mpr ⟨rfl, ?_⟩)
            exact (List.dropLast_prefix _).trans (List.prefix_append _ _)
  · rintro ⟨before, rest, rfl, rfl, clean, first⟩
    refine findBefore_of_first rest nonempty (fun mem => ?_) first
    exact (List.mem_append.mp mem).elim clean noStop

/-- The scan finds the token exactly if it occurs before the first stop symbol. -/
theorem findBefore_isSome_iff (nonempty : token ≠ []) (noStop : stop ∉ token) (l : List α) :
    (findBefore stop token l).isSome ↔ token <:+: l.takeWhile (· ≠ stop) := by
  induction l with
  | nil => simpa using nonempty
  | cons a l ih =>
      rw [← findBefore_takeWhile noStop]
      by_cases stopped : a = stop
      · rw [List.takeWhile_cons_of_neg (by simpa using stopped)]
        simpa using nonempty
      · rw [List.takeWhile_cons_of_pos (by simpa using stopped), findBefore_cons,
          if_neg stopped, List.infix_cons_iff, ← ih, findBefore_takeWhile noStop]
        by_cases here : token <+: a :: l.takeWhile (· ≠ stop)
        · rw [if_pos here]
          exact iff_of_true rfl (.inl here)
        · rw [if_neg here, Option.isSome_map, or_iff_right here]

end Find

/-! ### The first element -/

section First

variable {β : Type u}

/-- All elements up to the first with `stop` are good. -/
def UpTo (stop good : β → Prop) : List β → Prop
  | [] => True
  | a :: l => good a ∧ (stop a ∨ UpTo stop good l)

theorem UpTo.congr {stop stop' good good' : β → Prop} (stops : ∀ a, stop a ↔ stop' a)
    (goods : ∀ a, good a ↔ good' a) (l : List β) : UpTo stop good l ↔ UpTo stop' good' l := by
  rw [funext fun a => propext (stops a), funext fun a => propext (goods a)]

/-- Two searches find the same if and only if the tests agree up to the first that is found. -/
theorem find?_eq_find?_iff {p q : β → Bool} {l : List β} :
    l.find? p = l.find? q ↔ UpTo (fun a => q a = true) (fun a => p a = true ↔ q a = true) l := by
  induction l with
  | nil => exact iff_of_true rfl trivial
  | cons a l ih =>
      rw [UpTo]
      by_cases found : p a = true
      · rw [List.find?_cons_of_pos found]
        by_cases wanted : q a = true
        · rw [List.find?_cons_of_pos wanted]
          exact iff_of_true rfl ⟨iff_of_true found wanted, .inl wanted⟩
        · rw [List.find?_cons_of_neg wanted]
          refine iff_of_false (fun other => wanted ?_) fun agree => wanted (agree.1.mp found)
          exact List.find?_some other.symm
      · rw [List.find?_cons_of_neg found]
        by_cases wanted : q a = true
        · rw [List.find?_cons_of_pos wanted]
          refine iff_of_false (fun other => found ?_) fun agree => found (agree.1.mpr wanted)
          exact List.find?_some other
        · rw [List.find?_cons_of_neg wanted, ih]
          constructor
          · exact fun rest => ⟨iff_of_false found wanted, .inr rest⟩
          · exact fun agree => agree.2.resolve_left wanted

end First

end LwipExt.Lib
