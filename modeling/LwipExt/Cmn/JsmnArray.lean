import LwipExt.Cmn.JsmnTokens
import Mathlib.Data.List.Find

/-!
What `jsmn_parse` does to the token array.

The tokens of the text are the same whatever the array held before (`jsmnParse_agree`),
they begin one behind the other (`jsmnParse_sorted`), and the rest of the array stays as
it was (`jsmnParse_rest`).
-/

namespace LwipExt

/-- A token of the array. -/
abbrev Jsmn.token (p : Jsmn) (i : Nat) : Jsmntok := p.tokens.getD i default

theorem Jsmn.addToken_ok {p p' : Jsmn} {token : Jsmntok} (added : p.addToken token = .ok p') :
    p.toknext < extJsonTokenSize ∧
      p' = { p with tokens := p.tokens.set p.toknext token, toknext := p.toknext + 1 } := by
  unfold Jsmn.addToken at added
  split at added
  · cases added
  · rename_i room
    cases added
    exact ⟨Nat.lt_of_not_le room, rfl⟩

theorem Jsmn.openToken_lt {p : Jsmn} {i : Nat} (found : p.openToken = some i) : i < p.toknext := by
  have mem := List.mem_of_find?_eq_some found
  simpa using mem

theorem Jsmn.close_ok {p p' : Jsmn} {type : JsmnType} (closed : p.close type = .ok p') :
    ∃ i, p.openToken = some i ∧
      p' = { p with tokens := p.tokens.set i { p.token i with stop := some (p.pos + 1) } } := by
  unfold Jsmn.close at closed
  split at closed
  · cases closed
  · rename_i i found
    simp only at closed
    split at closed
    · cases closed
    · cases closed
      exact ⟨i, found, rfl⟩

/-! ### One character -/

/-- What one character does: nothing, one more token, or the innermost open one is closed. -/
inductive JsmnStep (js : Bytes) (len : Nat) (p : Jsmn) : Jsmn → Prop where
  | skip : JsmnStep js len p p
  | add (token : Jsmntok) (pos : Nat) (room : p.toknext < extJsonTokenSize)
      (behind : p.pos ≤ token.start ∧ token.start ≤ pos) :
      JsmnStep js len p
        { pos := pos, toknext := p.toknext + 1, tokens := p.tokens.set p.toknext token }
  | close (i : Nat) (innermost : p.openToken = some i) :
      JsmnStep js len p
        { p with tokens := p.tokens.set i { p.token i with stop := some (p.pos + 1) } }

theorem JsmnStep.of_add {js : Bytes} {len : Nat} {p p' : Jsmn} {token : Jsmntok} {pos : Nat}
    (added : p.addToken token = .ok p') (behind : p.pos ≤ token.start ∧ token.start ≤ pos) :
    JsmnStep js len p { p' with pos := pos } := by
  obtain ⟨room, rfl⟩ := Jsmn.addToken_ok added
  exact .add token pos room behind

theorem JsmnStep.of_close {js : Bytes} {len : Nat} {p p' : Jsmn} {type : JsmnType}
    (closed : p.close type = .ok p') : JsmnStep js len p p' := by
  obtain ⟨i, found, rfl⟩ := Jsmn.close_ok closed
  exact .close i found

/-- A primitive that does not begin with one of the characters that end it is not empty. -/
theorem lt_primitiveEnd {js : Bytes} {len fuel pos found : Nat}
    (ends : primitiveEnd js len (fuel + 1) pos = .ok found) (here : inText js len pos = true)
    (goesOn : [58, 9, 13, 10, 32, 44, 93, 125].contains (jsAt js pos) = false) : pos < found := by
  rw [primitiveEnd, if_pos here] at ends
  simp only [goesOn, Bool.false_eq_true, if_false] at ends
  split at ends
  · cases ends
  · exact (primitiveEnd_le ends (lt_of_inText here)).1

theorem jsmnChar_step {js : Bytes} {len : Nat} {p p' : Jsmn} (here : inText js len p.pos = true)
    (step : jsmnChar js len p = .ok p') : JsmnStep js len p p' := by
  have lt := lt_of_inText here
  have opens {token : Jsmntok} (added : p.addToken token = .ok p') (start : token.start = p.pos) :
      JsmnStep js len p p' := by
    have same : p' = { p' with pos := p.pos } := by
      obtain ⟨-, rfl⟩ := Jsmn.addToken_ok added
      rfl
    rw [same]
    exact JsmnStep.of_add added ⟨start.ge, start.le⟩
  unfold jsmnChar at step
  simp only at step
  split at step
  · exact opens step rfl
  split at step
  · exact opens step rfl
  split at step
  · exact JsmnStep.of_close step
  split at step
  · exact JsmnStep.of_close step
  split at step
  · unfold jsmnParseString at step
    cases ends : stringEnd js len (len - p.pos) (p.pos + 1) with
    | error err => simp [ends, bind, Except.bind] at step
    | ok quote =>
        have bounds := stringEnd_le ends
        simp only [ends, bind, Except.bind] at step
        split at step
        · cases step
        · rename_i p₁ added
          cases step
          exact JsmnStep.of_add added ⟨Nat.le_succ _, bounds.1⟩
  rename_i noObjectEnd noArrayEnd _
  split at step
  · cases step
    exact .skip
  · rename_i noSkip
    unfold jsmnParsePrimitive at step
    cases ends : primitiveEnd js len (len - p.pos) p.pos with
    | error err => simp [ends, bind, Except.bind] at step
    | ok found =>
        simp only [ends, bind, Except.bind] at step
        split at step
        · cases step
        · rename_i p₁ added
          cases step
          have goesOn : [58, 9, 13, 10, 32, 44, 93, 125].contains (jsAt js p.pos) = false := by
            simp_all
          obtain ⟨fuel, fuel_eq⟩ := Nat.exists_eq_add_one_of_ne_zero (Nat.sub_ne_zero_of_lt lt)
          rw [fuel_eq] at ends
          have past := lt_primitiveEnd ends here goesOn
          exact JsmnStep.of_add added ⟨Nat.le_refl _, by simp only; omega⟩

/-! ### The whole text -/

/-- The tokens of the text begin one behind the other, before the position of the parser. -/
structure Jsmn.Sorted (p : Jsmn) : Prop where
  before : ∀ i < p.toknext, (p.token i).start < p.pos
  sorted : ∀ i j, i < j → j < p.toknext → (p.token i).start < (p.token j).start

/-- The array behind the tokens of the text is the old one. -/
structure Jsmn.Rests (old : List Jsmntok) (p : Jsmn) : Prop where
  full : p.tokens.length = extJsonTokenSize
  fits : p.toknext ≤ extJsonTokenSize
  rest : ∀ i, p.toknext ≤ i → p.token i = old.getD i default

theorem token_set {tokens : List Jsmntok} {i j : Nat} {token : Jsmntok} (lt : i < tokens.length) :
    (tokens.set i token).getD j default = if i = j then token else tokens.getD j default := by
  simp only [List.getD_eq_getElem?_getD, List.getElem?_set]
  split
  · simp [lt]
  · rfl

theorem Jsmn.Rests.step {js : Bytes} {len : Nat} {old : List Jsmntok} {p p' : Jsmn}
    (rests : p.Rests old) (step : JsmnStep js len p p') (pos : Nat) :
    Jsmn.Rests old { p' with pos := pos } := by
  cases step with
  | skip => exact ⟨rests.full, rests.fits, rests.rest⟩
  | add token pos room behind =>
      refine ⟨by simpa using rests.full, room, ?_⟩
      intro i le
      simp only [Jsmn.token, token_set (rests.full.symm ▸ room)]
      have le' : p.toknext + 1 ≤ i := le
      rw [if_neg (by omega)]
      exact rests.rest i (by omega)
  | close i innermost =>
      have lt := Jsmn.openToken_lt innermost
      refine ⟨by simpa using rests.full, rests.fits, ?_⟩
      intro k le
      have le' : p.toknext ≤ k := le
      simp only [Jsmn.token, token_set (lt_of_lt_of_le lt (rests.full.symm ▸ rests.fits))]
      rw [if_neg (by omega)]
      exact rests.rest k le'

theorem Jsmn.Sorted.step {js : Bytes} {len : Nat} {old : List Jsmntok} {p p' : Jsmn}
    (sorted : p.Sorted) (rests : p.Rests old) (step : JsmnStep js len p p') :
    Jsmn.Sorted { p' with pos := p'.pos + 1 } := by
  cases step with
  | skip =>
      exact ⟨fun i lt => Nat.lt_succ_of_lt (sorted.before i lt), sorted.sorted⟩
  | add token pos room behind =>
      have token_eq (i : Nat) : (p.tokens.set p.toknext token).getD i default =
          if p.toknext = i then token else p.token i := token_set (rests.full.symm ▸ room)
      constructor
      · intro i lt
        have lt' : i < p.toknext + 1 := lt
        simp only [Jsmn.token, token_eq]
        split
        · exact Nat.lt_succ_of_le behind.2
        · exact (sorted.before i (by omega)).trans_le
            ((behind.1.trans behind.2).trans (Nat.le_succ pos))
      · intro i j less lt
        have lt' : j < p.toknext + 1 := lt
        simp only [Jsmn.token, token_eq]
        rw [if_neg (by omega)]
        split
        · exact lt_of_lt_of_le (sorted.before i (by omega)) behind.1
        · exact sorted.sorted i j less (by omega)
  | close i innermost =>
      have lt := Jsmn.openToken_lt innermost
      have start_eq (k : Nat) : ((p.tokens.set i { p.token i with
          stop := some (p.pos + 1) }).getD k default).start = (p.token k).start := by
        rw [token_set (lt_of_lt_of_le lt (rests.full.symm ▸ rests.fits))]
        split
        · rename_i same
          rw [same]
        · rfl
      constructor
      · intro k lt
        simp only [Jsmn.token, start_eq]
        exact Nat.lt_succ_of_lt (sorted.before k lt)
      · intro k j less lt
        simp only [Jsmn.token, start_eq]
        exact sorted.sorted k j less lt

theorem jsmnLoop_array {old : List Jsmntok} {p : Jsmn} (sorted : p.Sorted) (rests : p.Rests old)
    (js : Bytes) (len fuel : Nat) :
    (jsmnLoop js len fuel p).1.Sorted ∧ (jsmnLoop js len fuel p).1.Rests old := by
  induction fuel generalizing p with
  | zero => exact ⟨sorted, rests⟩
  | succ fuel ih =>
      rw [jsmnLoop]
      split
      · rename_i here
        split
        · rename_i p' step
          have step := jsmnChar_step here step
          exact ih (sorted.step rests step) (rests.step step _)
        · exact ⟨sorted, rests⟩
      · exact ⟨sorted, rests⟩

theorem jsmnParse_fst (js : Bytes) (len : Nat) (tokens : List Jsmntok) :
    (jsmnParse js len tokens).1 = (jsmnLoop js len len { tokens := tokens }).1 := by
  unfold jsmnParse
  split
  · rename_i p ends
    rw [ends]
  · rfl

theorem jsmnParse_array (js : Bytes) (len : Nat) {tokens : List Jsmntok}
    (full : tokens.length = extJsonTokenSize) :
    (jsmnParse js len tokens).1.Sorted ∧ (jsmnParse js len tokens).1.Rests tokens := by
  rw [jsmnParse_fst]
  refine jsmnLoop_array ⟨?_, ?_⟩ ⟨full, Nat.zero_le _, ?_⟩ js len len
  · intro i lt
    exact absurd lt (Nat.not_lt_zero i)
  · intro i j _ lt
    exact absurd lt (Nat.not_lt_zero j)
  · intro i _
    rfl

/-! ### Two arrays -/

/-- Two parsers that have read the same tokens of a text, whatever is behind them. -/
structure Jsmn.Agree (p p' : Jsmn) : Prop where
  pos : p.pos = p'.pos
  toknext : p.toknext = p'.toknext
  own : ∀ i < p.toknext, p.token i = p'.token i

theorem Jsmn.Agree.openToken {p p' : Jsmn} (agree : p.Agree p') : p.openToken = p'.openToken := by
  unfold Jsmn.openToken
  rw [← agree.toknext]
  refine List.find?_congr ?_
  intro i mem
  have lt : i < p.toknext := by simpa using mem
  have token_eq := agree.own i lt
  simp only [Jsmn.token] at token_eq
  rw [token_eq]

/-- Both fail alike, or both go on. -/
inductive AgreeOn : Except JsmnError Jsmn → Except JsmnError Jsmn → Prop where
  | error (err : JsmnError) : AgreeOn (.error err) (.error err)
  | ok {p p' : Jsmn} (agree : p.Agree p') : AgreeOn (.ok p) (.ok p')

section Agree

variable {old old' : List Jsmntok} {p p' : Jsmn} (agree : p.Agree p') (rests : p.Rests old)
  (rests' : p'.Rests old')

include agree rests rests'

theorem AgreeOn.addToken (token : Jsmntok) :
    AgreeOn (p.addToken token) (p'.addToken token) := by
  unfold Jsmn.addToken
  rw [← agree.toknext]
  split
  · exact .error _
  · rename_i room
    have room : p.toknext < extJsonTokenSize := Nat.lt_of_not_le room
    refine .ok ⟨agree.pos, rfl, ?_⟩
    intro i lt
    have lt' : i < p.toknext + 1 := lt
    simp only [Jsmn.token, token_set (rests.full.symm ▸ room), token_set (rests'.full.symm ▸ room)]
    split
    · rfl
    · exact agree.own i (by omega)

theorem AgreeOn.close (type : JsmnType) : AgreeOn (p.close type) (p'.close type) := by
  unfold Jsmn.close
  rw [← agree.openToken, ← agree.pos]
  split
  · exact .error _
  · rename_i i found
    have lt := Jsmn.openToken_lt found
    have token_eq := agree.own i lt
    simp only [Jsmn.token] at token_eq
    simp only [token_eq]
    split
    · exact .error _
    · have inArray : i < p.tokens.length := lt.trans_le (rests.full.symm ▸ rests.fits)
      have inArray' : i < p'.tokens.length :=
        lt.trans_le (agree.toknext.le.trans (rests'.full.symm ▸ rests'.fits))
      refine .ok ⟨rfl, agree.toknext, ?_⟩
      intro k lt'
      simp only [Jsmn.token, token_set inArray, token_set inArray']
      split
      · rfl
      · exact agree.own k lt'

/-- A token is added, and the position set. -/
theorem AgreeOn.moved (token : Jsmntok) (pos : Nat) :
    AgreeOn ((p.addToken token).map fun p => { p with pos := pos })
      ((p'.addToken token).map fun p => { p with pos := pos }) := by
  have added := AgreeOn.addToken agree rests rests' token
  generalize p.addToken token = r, p'.addToken token = r' at added
  cases added with
  | error err => exact .error err
  | ok agree => exact .ok ⟨rfl, agree.toknext, agree.own⟩

theorem AgreeOn.char (js : Bytes) (len : Nat) :
    AgreeOn (jsmnChar js len p) (jsmnChar js len p') := by
  have moved := AgreeOn.moved agree rests rests'
  have closes := AgreeOn.close agree rests rests'
  have opens := AgreeOn.addToken agree rests rests'
  unfold jsmnChar
  simp only [← agree.pos]
  split
  · exact opens _
  split
  · exact opens _
  split
  · exact closes _
  split
  · exact closes _
  split
  · unfold jsmnParseString
    rw [← agree.pos]
    cases stringEnd js len (len - p.pos) (p.pos + 1) with
    | error err => exact .error err
    | ok quote => exact moved _ quote
  split
  · exact .ok agree
  · unfold jsmnParsePrimitive
    rw [← agree.pos]
    cases primitiveEnd js len (len - p.pos) p.pos with
    | error err => exact .error err
    | ok found => exact moved _ (found - 1)

end Agree

theorem jsmnLoop_agree {old old' : List Jsmntok} {p p' : Jsmn} (agree : p.Agree p')
    (rests : p.Rests old) (rests' : p'.Rests old') (js : Bytes) (len fuel : Nat) :
    (jsmnLoop js len fuel p).1.Agree (jsmnLoop js len fuel p').1 ∧
      (jsmnLoop js len fuel p).2 = (jsmnLoop js len fuel p').2 := by
  induction fuel generalizing p p' with
  | zero => exact ⟨agree, rfl⟩
  | succ fuel ih =>
      rw [jsmnLoop, jsmnLoop, ← agree.pos]
      split
      · rename_i here
        have here' : inText js len p'.pos = true := agree.pos ▸ here
        have both := AgreeOn.char agree rests rests' js len
        have step (q : Jsmn) (eq : jsmnChar js len p = .ok q) := jsmnChar_step here eq
        have step' (q : Jsmn) (eq : jsmnChar js len p' = .ok q) := jsmnChar_step here' eq
        generalize jsmnChar js len p = r at both step ⊢
        generalize jsmnChar js len p' = r' at both step' ⊢
        cases both with
        | error err => exact ⟨agree, rfl⟩
        | @ok q q' agree =>
            simp only [agree.pos]
            exact ih ⟨rfl, agree.toknext, agree.own⟩ (rests.step (step q rfl) _)
              (rests'.step (step' q' rfl) _)
      · exact ⟨agree, rfl⟩

/-- What the array held before does not matter to a parse. -/
theorem jsmnParse_agree (js : Bytes) (len : Nat) {old old' : List Jsmntok}
    (full : old.length = extJsonTokenSize) (full' : old'.length = extJsonTokenSize) :
    (jsmnParse js len old).1.Agree (jsmnParse js len old').1 ∧
      (jsmnParse js len old).2 = (jsmnParse js len old').2 := by
  have start (tokens : List Jsmntok) (full : tokens.length = extJsonTokenSize) :
      Jsmn.Rests tokens { tokens := tokens } :=
    ⟨full, Nat.zero_le _, fun _ _ => rfl⟩
  have fresh : Jsmn.Agree { tokens := old } { tokens := old' } :=
    ⟨rfl, rfl, fun i lt => absurd lt (Nat.not_lt_zero i)⟩
  obtain ⟨agree, same⟩ := jsmnLoop_agree fresh (start old full) (start old' full') js len len
  unfold jsmnParse
  generalize jsmnLoop js len len { tokens := old } = r at agree same ⊢
  generalize jsmnLoop js len len { tokens := old' } = r' at agree same ⊢
  obtain ⟨p, err⟩ := r
  obtain ⟨p', err'⟩ := r'
  cases same
  cases err with
  | none => exact ⟨agree, by simp only [agree.openToken]⟩
  | some err => exact ⟨agree, rfl⟩

end LwipExt
