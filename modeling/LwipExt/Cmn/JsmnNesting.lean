import LwipExt.Cmn.JsmnArray

/-!
The tokens of an accepted text.

Each of them is closed and stands between its delimiters (`Jsmntok.Delimited`), and of any two the
later one begins behind the earlier one or lies inside of it, which is then an object or an array
(`jsmnParse_nested`). Without parent links, this is all that tells which tokens belong together.
-/

namespace LwipExt

/-- The types of tokens that hold others. -/
def JsmnType.Holds (type : JsmnType) : Prop := type = .object ∨ type = .array

/-- An earlier token ends before a later one, or holds it. -/
def Jsmntok.Nests (outer inner : Jsmntok) : Prop :=
  (∃ stop, outer.stop = some stop ∧ stop ≤ inner.start) ∨
    outer.type.Holds ∧ outer.start < inner.start ∧
      ∀ stop, outer.stop = some stop → ∃ stop', inner.stop = some stop' ∧ stop' < stop

/-- The brackets of a type. -/
def JsmnType.bracket : JsmnType → UInt8 × UInt8
  | .object => (123, 125)
  | _ => (91, 93)

/-- A token stands between its delimiters: an object or array with them, once it is closed, a
string without. -/
def Jsmntok.Delimited (js : Bytes) (tok : Jsmntok) : Prop :=
  (tok.type.Holds → jsAt js tok.start = tok.type.bracket.1 ∧ ∀ stop, tok.stop = some stop →
    tok.start + 2 ≤ stop ∧ jsAt js (stop - 1) = tok.type.bracket.2) ∧
  (tok.type = .string → 0 < tok.start ∧ jsAt js (tok.start - 1) = 34 ∧
    ∀ stop, tok.stop = some stop → jsAt js stop = 34) ∧
  (tok.type = .primitive → ∀ stop, tok.stop = some stop → tok.start < stop)

/-- What one character makes of the parser. -/
inductive JsmnMove (js : Bytes) (p : Jsmn) : Jsmn → Prop where
  | skip : JsmnMove js p p
  | opens (type : JsmnType) (holds : type.Holds) (bracket : jsAt js p.pos = type.bracket.1)
      (room : p.toknext < extJsonTokenSize) :
      JsmnMove js p { p with
        tokens := p.tokens.set p.toknext { type := type, start := p.pos, stop := none }
        toknext := p.toknext + 1 }
  | string (quote : Nat) (before : jsAt js p.pos = 34) (behind : jsAt js quote = 34)
      (le : p.pos + 1 ≤ quote) (room : p.toknext < extJsonTokenSize) :
      JsmnMove js p
        { pos := quote
          tokens := p.tokens.set p.toknext
            { type := .string, start := p.pos + 1, stop := some quote }
          toknext := p.toknext + 1 }
  | primitive (found : Nat) (some_ : p.pos < found) (room : p.toknext < extJsonTokenSize) :
      JsmnMove js p
        { pos := found - 1
          tokens := p.tokens.set p.toknext
            { type := .primitive, start := p.pos, stop := some found }
          toknext := p.toknext + 1 }
  | close (i : Nat) (innermost : p.openToken = some i)
      (bracket : (p.token i).type.Holds → jsAt js p.pos = (p.token i).type.bracket.2) :
      JsmnMove js p
        { p with tokens := p.tokens.set i { p.token i with stop := some (p.pos + 1) } }

theorem stringEnd_quote {js : Bytes} {len fuel pos quote : Nat}
    (ends : stringEnd js len fuel pos = .ok quote) : jsAt js quote = 34 := by
  induction fuel generalizing pos with
  | zero => cases ends
  | succ fuel ih =>
      rw [stringEnd] at ends
      split at ends
      · simp only at ends
        split at ends
        next here =>
          cases ends
          exact here
        split at ends
        · split at ends
          · exact ih ends
          split at ends
          · split at ends
            · exact ih ends
            · cases ends
          · cases ends
        · exact ih ends
      · cases ends

theorem JsmnMove.of_close {js : Bytes} {p p' : Jsmn} {type : JsmnType}
    (closed : p.close type = .ok p') (here : jsAt js p.pos = type.bracket.2) : JsmnMove js p p' := by
  unfold Jsmn.close at closed
  split at closed
  · cases closed
  next i found =>
    simp only at closed
    split at closed
    · cases closed
    next same =>
      cases closed
      refine .close i found fun _ => ?_
      rw [here, Jsmn.token, not_not.mp same]

theorem jsmnChar_move {js : Bytes} {len : Nat} {p p' : Jsmn} (here : inText js len p.pos = true)
    (step : jsmnChar js len p = .ok p') : JsmnMove js p p' := by
  have lt := lt_of_inText here
  unfold jsmnChar at step
  simp only at step
  split at step
  next brace =>
    obtain ⟨room, rfl⟩ := Jsmn.addToken_ok step
    exact .opens .object (.inl rfl) brace room
  split at step
  next bracket =>
    obtain ⟨room, rfl⟩ := Jsmn.addToken_ok step
    exact .opens .array (.inr rfl) bracket room
  split at step
  next brace => exact .of_close step brace
  split at step
  next bracket => exact .of_close step bracket
  split at step
  next quoted =>
    unfold jsmnParseString at step
    cases ends : stringEnd js len (len - p.pos) (p.pos + 1) with
    | error err => simp [ends, bind, Except.bind] at step
    | ok quote =>
        simp only [ends, bind, Except.bind] at step
        split at step
        · cases step
        next p₁ added =>
          cases step
          obtain ⟨room, rfl⟩ := Jsmn.addToken_ok added
          exact .string quote quoted (stringEnd_quote ends) (stringEnd_le ends).1 room
  next noObjectEnd noArrayEnd _ =>
    split at step
    · cases step
      exact .skip
    next noSkip =>
      unfold jsmnParsePrimitive at step
      cases ends : primitiveEnd js len (len - p.pos) p.pos with
      | error err => simp [ends, bind, Except.bind] at step
      | ok found =>
          simp only [ends, bind, Except.bind] at step
          split at step
          · cases step
          next p₁ added =>
            cases step
            obtain ⟨room, rfl⟩ := Jsmn.addToken_ok added
            have goesOn : [58, 9, 13, 10, 32, 44, 93, 125].contains (jsAt js p.pos) = false := by
              simp_all
            obtain ⟨fuel, fuel_eq⟩ := Nat.exists_eq_add_one_of_ne_zero (Nat.sub_ne_zero_of_lt lt)
            rw [fuel_eq] at ends
            exact .primitive found (lt_primitiveEnd ends here goesOn) room

/-! ### The invariant -/

/-- The tokens of the text up to the position of the parser. -/
structure Jsmn.Nested (js : Bytes) (p : Jsmn) : Prop where
  full : p.tokens.length = extJsonTokenSize
  fits : p.toknext ≤ extJsonTokenSize
  before : ∀ i < p.toknext, (p.token i).start < p.pos
  ended : ∀ i < p.toknext, ∀ stop, (p.token i).stop = some stop →
    (p.token i).start ≤ stop ∧ stop ≤ p.pos
  opened : ∀ i < p.toknext, (p.token i).stop = none → (p.token i).type.Holds
  delimited : ∀ i < p.toknext, (p.token i).Delimited js
  nests : ∀ i j, i < j → j < p.toknext → (p.token i).Nests (p.token j)

section Invariant

variable {js : Bytes} {p p' : Jsmn}

/-- One more token, behind the others. -/
theorem Jsmn.Nested.add (nested : p.Nested js) (room : p.toknext < extJsonTokenSize)
    {token : Jsmntok} {pos : Nat} (start : p.pos ≤ token.start) (le : token.start < pos)
    (ended : ∀ stop, token.stop = some stop → token.start ≤ stop ∧ stop ≤ pos)
    (opened : token.stop = none → token.type.Holds) (delimited : token.Delimited js) :
    Jsmn.Nested js
      { pos := pos, tokens := p.tokens.set p.toknext token, toknext := p.toknext + 1 } := by
  have token_eq (i : Nat) : (p.tokens.set p.toknext token).getD i default =
      if p.toknext = i then token else p.token i := token_set (nested.full.symm ▸ room)
  have old {i : Nat} (lt : i < p.toknext) :
      (p.tokens.set p.toknext token).getD i default = p.token i := by
    rw [token_eq, if_neg (by omega)]
  have new : (p.tokens.set p.toknext token).getD p.toknext default = token := by
    rw [token_eq, if_pos rfl]
  have case_ {i : Nat} (lt : i < p.toknext + 1) : i < p.toknext ∨ i = p.toknext := by omega
  refine ⟨by simpa using nested.full, room, fun i lt => ?_, fun i lt stop is => ?_,
    fun i lt is => ?_, fun i lt => ?_, fun i j less lt => ?_⟩
  · rcases case_ lt with lt | rfl
    · simp only [Jsmn.token, old lt]
      exact (nested.before i lt).trans_le (start.trans le.le)
    · simp only [Jsmn.token, new]
      exact le
  · rcases case_ lt with lt | rfl
    · simp only [Jsmn.token, old lt] at is ⊢
      have earlier := nested.ended i lt stop is
      exact ⟨earlier.1, earlier.2.trans (start.trans le.le)⟩
    · simp only [Jsmn.token, new] at is ⊢
      exact ended stop is
  · rcases case_ lt with lt | rfl
    · simp only [Jsmn.token, old lt] at is ⊢
      exact nested.opened i lt is
    · simp only [Jsmn.token, new] at is ⊢
      exact opened is
  · rcases case_ lt with lt | rfl
    · simp only [Jsmn.token, old lt]
      exact nested.delimited i lt
    · simp only [Jsmn.token, new]
      exact delimited
  · rcases case_ lt with lt | rfl
    · simp only [Jsmn.token, old (less.trans lt), old lt]
      exact nested.nests i j less lt
    · simp only [Jsmn.token, old less, new]
      cases stop : (p.token i).stop with
      | some stop' =>
          exact .inl ⟨stop', stop, ((nested.ended i less stop' stop).2).trans start⟩
      | none =>
          refine .inr ⟨nested.opened i less stop, (nested.before i less).trans_le start,
            fun _ other => ?_⟩
          rw [stop] at other
          cases other

/-- What is behind the innermost open token is closed. -/
theorem Jsmn.openToken_innermost {i : Nat} (found : p.openToken = some i) :
    (p.token i).stop = none ∧ ∀ k, i < k → k < p.toknext → (p.token k).stop ≠ none := by
  obtain ⟨open_, before, behind, split, closed⟩ := List.find?_eq_some_iff_append.mp found
  refine ⟨of_decide_eq_true open_, fun k less lt other => ?_⟩
  have falling : (before ++ i :: behind).Pairwise (· > ·) := by
    rw [← split, List.pairwise_reverse]
    exact List.pairwise_lt_range
  have mem : k ∈ before ++ i :: behind := by
    rw [← split]
    simpa using lt
  rcases List.mem_append.mp mem with earlier | later
  · have not_open := closed k earlier
    simp only [Bool.not_eq_true', decide_eq_false_iff_not] at not_open
    exact not_open other
  · rcases List.mem_cons.mp later with rfl | later
    · exact absurd less (Nat.lt_irrefl _)
    · have above := List.rel_of_pairwise_cons (List.pairwise_append.mp falling).2.1 later
      omega

/-- The innermost open token is closed. -/
theorem Jsmn.Nested.close (nested : p.Nested js) {i : Nat} (innermost : p.openToken = some i)
    (bracket : (p.token i).type.Holds → jsAt js p.pos = (p.token i).type.bracket.2) :
    Jsmn.Nested js { p with
      pos := p.pos + 1
      tokens := p.tokens.set i { p.token i with stop := some (p.pos + 1) } } := by
  have lt := Jsmn.openToken_lt innermost
  obtain ⟨open_, behind⟩ := Jsmn.openToken_innermost innermost
  have holds := nested.opened i lt open_
  have token_eq (k : Nat) :
      (p.tokens.set i { p.token i with stop := some (p.pos + 1) }).getD k default =
        if i = k then { p.token i with stop := some (p.pos + 1) } else p.token k :=
    token_set (lt_of_lt_of_le lt (nested.full.symm ▸ nested.fits))
  refine ⟨by simpa using nested.full, nested.fits, fun k lt_k => ?_, fun k lt_k stop is => ?_,
    fun k lt_k is => ?_, fun k lt_k => ?_, fun k l less lt_l => ?_⟩
  · simp only [Jsmn.token, token_eq]
    split
    · exact (nested.before i lt).trans (Nat.lt_succ_self _)
    · exact (nested.before k lt_k).trans (Nat.lt_succ_self _)
  · simp only [Jsmn.token, token_eq] at is ⊢
    split at is
    next same =>
      cases is
      rw [if_pos same]
      exact ⟨Nat.le_succ_of_le (Nat.le_of_lt (nested.before i lt)), Nat.le_refl _⟩
    next other =>
      rw [if_neg other]
      have earlier := nested.ended k lt_k stop is
      exact ⟨earlier.1, Nat.le_succ_of_le earlier.2⟩
  · simp only [Jsmn.token, token_eq] at is ⊢
    split at is
    · cases is
    next other =>
      rw [if_neg other]
      exact nested.opened k lt_k is
  · simp only [Jsmn.token, token_eq]
    split
    · obtain ⟨holder, string, primitive⟩ := nested.delimited i lt
      refine ⟨fun _ => ⟨(holder holds).1, fun stop is => ?_⟩, fun other => ?_, fun other => ?_⟩
      · cases is
        have earlier := nested.before i lt
        exact ⟨Nat.succ_le_succ (Nat.succ_le_of_lt earlier), bracket holds⟩
      · simp only at other
        rcases holds with holds | holds <;> rw [other] at holds <;> cases holds
      · simp only at other
        rcases holds with holds | holds <;> rw [other] at holds <;> cases holds
    · exact nested.delimited k lt_k
  · have nests := nested.nests k l less lt_l
    simp only [Jsmn.token, token_eq]
    by_cases outer : i = k
    · subst outer
      rw [if_pos rfl, if_neg (by omega)]
      rcases nests with ⟨stop, is, _⟩ | ⟨_, starts, _⟩
      · rw [open_] at is
        cases is
      · refine .inr ⟨holds, starts, fun stop is => ?_⟩
        cases is
        obtain ⟨stop', is'⟩ := Option.ne_none_iff_exists'.mp (behind l less lt_l)
        exact ⟨stop', is', Nat.lt_succ_of_le (nested.ended l lt_l stop' is').2⟩
    · rw [if_neg outer]
      by_cases inner : i = l
      · subst inner
        rw [if_pos rfl]
        rcases nests with before | ⟨holds', starts, inside⟩
        · exact .inl before
        · refine .inr ⟨holds', starts, fun stop is => ?_⟩
          obtain ⟨stop', is', _⟩ := inside stop is
          rw [open_] at is'
          cases is'
      · rw [if_neg inner]
        exact nests

theorem Jsmn.Nested.move (nested : p.Nested js) (move : JsmnMove js p p') :
    Jsmn.Nested js { p' with pos := p'.pos + 1 } := by
  cases move with
  | skip =>
      exact { nested with
        before := fun i lt => Nat.lt_succ_of_lt (nested.before i lt)
        ended := fun i lt stop is =>
          ⟨(nested.ended i lt stop is).1, Nat.le_succ_of_le (nested.ended i lt stop is).2⟩ }
  | opens type holds bracket room =>
      refine nested.add room (Nat.le_refl _) (Nat.lt_succ_self _) (fun _ is => ?_) (fun _ => holds) ?_
      · cases is
      · refine ⟨fun _ => ⟨bracket, fun _ is => (by cases is)⟩, fun other => ?_, fun other => ?_⟩
        · rcases holds with rfl | rfl <;> cases other
        · rcases holds with rfl | rfl <;> cases other
  | string quote before behind le room =>
      refine nested.add room (Nat.le_succ _) (Nat.lt_succ_of_le le) (fun _ is => ?_)
        (fun other => ?_) ?_
      · cases is
        exact ⟨le, Nat.le_succ _⟩
      · cases other
      · refine ⟨fun other => ?_, fun _ => ⟨Nat.succ_pos _, before, fun _ is => ?_⟩, fun other => ?_⟩
        · rcases other with other | other <;> cases other
        · cases is
          exact behind
        · cases other
  | primitive found some_ room =>
      have same : found - 1 + 1 = found := by omega
      rw [same]
      refine nested.add room (Nat.le_refl _) some_ (fun _ is => ?_) (fun other => ?_) ?_
      · cases is
        exact ⟨Nat.le_of_lt some_, Nat.le_refl _⟩
      · cases other
      · refine ⟨fun other => ?_, fun other => ?_, fun _ _ is => ?_⟩
        · rcases other with other | other <;> cases other
        · cases other
        · cases is
          exact some_
  | close i innermost bracket => exact nested.close innermost bracket

theorem Jsmn.Nested.loop (nested : p.Nested js) (len fuel : Nat) :
    (jsmnLoop js len fuel p).1.Nested js := by
  induction fuel generalizing p with
  | zero => exact nested
  | succ fuel ih =>
      rw [jsmnLoop]
      split
      next here =>
        split
        next p' step => exact ih (nested.move (jsmnChar_move here step))
        next => exact nested
      · exact nested

end Invariant

/-! ### Accepted texts -/

/-- No token of an accepted text is open. -/
theorem closed_of_accepted {js : Bytes} {len : Nat} {tokens : List Jsmntok}
    (accepted : (jsmnParse js len tokens).2 = none) :
    ∀ i < (jsmnParse js len tokens).1.toknext,
      ((jsmnParse js len tokens).1.token i).stop ≠ none := by
  have none_ : (jsmnParse js len tokens).1.openToken = none := by
    rw [jsmnParse] at accepted ⊢
    rcases ends : jsmnLoop js len len { tokens := tokens } with ⟨p, _ | err⟩
    · simp only [ends] at accepted ⊢
      split at accepted
      · cases accepted
      next closed => simpa using closed
    · simp only [ends] at accepted
      cases accepted
  intro i lt open_
  rw [Jsmn.openToken, List.find?_eq_none] at none_
  exact none_ i (by simpa using lt) (decide_eq_true open_)

/-- The tokens of an accepted text are closed, stand between their delimiters in the text, and nest:
of any two, the later one is behind the earlier one or inside of it. -/
theorem jsmnParse_nested (js : Bytes) (len : Nat) {tokens : List Jsmntok}
    (full : tokens.length = extJsonTokenSize) (accepted : (jsmnParse js len tokens).2 = none) :
    (∀ i < (jsmnParse js len tokens).1.toknext, ∃ stop,
      ((jsmnParse js len tokens).1.token i).stop = some stop ∧
        ((jsmnParse js len tokens).1.token i).start ≤ stop ∧ stop ≤ len ∧
        ((jsmnParse js len tokens).1.token i).Delimited js) ∧
    ∀ i j, i < j → j < (jsmnParse js len tokens).1.toknext →
      ((jsmnParse js len tokens).1.token i).Nests ((jsmnParse js len tokens).1.token j) := by
  have nested : (jsmnParse js len tokens).1.Nested js := by
    rw [jsmnParse_fst]
    refine Jsmn.Nested.loop ⟨full, Nat.zero_le _, ?_, ?_, ?_, ?_, ?_⟩ len len
    all_goals intro i
    · exact fun lt => absurd lt (Nat.not_lt_zero i)
    · exact fun lt => absurd lt (Nat.not_lt_zero i)
    · exact fun lt => absurd lt (Nat.not_lt_zero i)
    · exact fun lt => absurd lt (Nat.not_lt_zero i)
    · exact fun j _ lt => absurd lt (Nat.not_lt_zero j)
  have inside := jsmnParse_inside js len tokens
  refine ⟨fun i lt => ?_, nested.nests⟩
  obtain ⟨stop, is⟩ := Option.ne_none_iff_exists'.mp (closed_of_accepted accepted i lt)
  exact ⟨stop, is, ((inside i lt).2 stop is).1, ((inside i lt).2 stop is).2,
    nested.delimited i lt⟩

/-- `{"a":[1]}`. -/
theorem jsmnParse_nested_object :
    let p := (jsmnParse [123, 34, 97, 34, 58, 91, 49, 93, 125] 9
      (List.replicate extJsonTokenSize default)).1
    ∀ i j, i < j → j < p.toknext → (p.token i).Nests (p.token j) :=
  (jsmnParse_nested _ _ List.length_replicate (by decide +kernel)).2

end LwipExt
