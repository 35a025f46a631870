import LwipExt.Cmn.Jsmn

/-!
Where the tokens of `jsmn_parse` lie.

The tokens a parse makes lie in the text it was given (`jsmnParse_inside`), and a parse
reads nothing but that text (`jsmnParse_congr`). Neither is true of the tokens behind
`toknext`, which earlier texts left.
-/

namespace LwipExt

/-- A token begins and ends before position `n`. -/
def Jsmntok.Inside (n : Nat) (tok : Jsmntok) : Prop :=
  tok.start ≤ n ∧ ∀ stop, tok.stop = some stop → tok.start ≤ stop ∧ stop ≤ n

/-- The parser is in the text, and so are the tokens it has made. -/
structure Jsmn.Inside (len : Nat) (p : Jsmn) : Prop where
  pos : p.pos ≤ len
  made : ∀ i < p.toknext, (p.tokens.getD i default).Inside p.pos

theorem Jsmntok.Inside.mono {m n : Nat} {tok : Jsmntok} (inside : tok.Inside m) (le : m ≤ n) :
    tok.Inside n := by
  refine ⟨inside.1.trans le, ?_⟩
  intro stop closed
  exact ⟨(inside.2 stop closed).1, (inside.2 stop closed).2.trans le⟩

theorem Jsmntok.inside_default (n : Nat) : (default : Jsmntok).Inside n := by
  refine ⟨Nat.zero_le n, ?_⟩
  intro stop closed
  cases closed
  exact ⟨Nat.le_refl 0, Nat.zero_le n⟩

theorem lt_of_inText {js : Bytes} {len pos : Nat} (inside : inText js len pos = true) :
    pos < len := by
  simp only [inText, Bool.and_eq_true, decide_eq_true_eq] at inside
  exact inside.1

/-! ### The scanners stay in the text -/

theorem primitiveEnd_le {js : Bytes} {len fuel pos found : Nat}
    (ends : primitiveEnd js len fuel pos = .ok found) (le : pos ≤ len) :
    pos ≤ found ∧ found ≤ len := by
  induction fuel generalizing pos with
  | zero =>
      cases ends
      exact ⟨Nat.le_refl _, le⟩
  | succ fuel ih =>
      rw [primitiveEnd] at ends
      split at ends
      · rename_i inside
        simp only at ends
        split at ends
        · cases ends
          exact ⟨Nat.le_refl _, le⟩
        · split at ends
          · cases ends
          · have := ih ends (lt_of_inText inside)
            omega
      · cases ends
        exact ⟨Nat.le_refl _, le⟩

theorem unicodeEnd_le {js : Bytes} {len left pos found : Nat}
    (ends : unicodeEnd js len left pos = .ok found) : pos ≤ found := by
  induction left generalizing pos with
  | zero =>
      cases ends
      exact Nat.le_refl _
  | succ left ih =>
      rw [unicodeEnd] at ends
      split at ends
      · simp only at ends
        split at ends
        · have := ih ends
          omega
        · cases ends
      · cases ends
        exact Nat.le_refl _

theorem stringEnd_le {js : Bytes} {len fuel pos quote : Nat}
    (ends : stringEnd js len fuel pos = .ok quote) : pos ≤ quote ∧ quote < len := by
  induction fuel generalizing pos with
  | zero => cases ends
  | succ fuel ih =>
      rw [stringEnd] at ends
      split at ends
      · rename_i inside
        simp only at ends
        split at ends
        · cases ends
          exact ⟨Nat.le_refl _, lt_of_inText inside⟩
        · split at ends
          · split at ends
            · have := ih ends
              omega
            · split at ends
              · split at ends
                · rename_i digits
                  have := ih ends
                  have := unicodeEnd_le digits
                  omega
                · cases ends
              · cases ends
          · have := ih ends
            omega
      · cases ends

/-! ### The steps stay in the text -/

theorem Jsmn.Inside.advance {len pos : Nat} {p : Jsmn} (inside : p.Inside len) (le : p.pos ≤ pos)
    (le_len : pos ≤ len) : ({ p with pos := pos } : Jsmn).Inside len :=
  ⟨le_len, fun i lt => (inside.made i lt).mono le⟩

/-- A token that lies in the text may be added. -/
theorem Jsmn.Inside.addToken {len : Nat} {p p' : Jsmn} {token : Jsmntok} (inside : p.Inside len)
    (added : p.addToken token = .ok p') {n : Nat} (le : p.pos ≤ n) (le_len : n ≤ len)
    (fits : token.Inside n) : ({ p' with pos := n } : Jsmn).Inside len := by
  unfold Jsmn.addToken at added
  split at added
  · cases added
  · cases added
    refine ⟨le_len, ?_⟩
    intro i lt
    simp only [List.getD_eq_getElem?_getD, List.getElem?_set]
    by_cases same : p.toknext = i
    · rw [if_pos same]
      split
      · exact fits
      · exact Jsmntok.inside_default n
    · rw [if_neg same, ← List.getD_eq_getElem?_getD]
      exact (inside.made i (by simp only at lt; omega)).mono le

theorem Jsmn.Inside.close {len : Nat} {p p' : Jsmn} {type : JsmnType} (inside : p.Inside len)
    (lt : p.pos < len) (closed : p.close type = .ok p') :
    ({ p' with pos := p'.pos + 1 } : Jsmn).Inside len := by
  unfold Jsmn.close at closed
  split at closed
  · cases closed
  · rename_i i found
    have opened : i < p.toknext := by
      have := List.mem_of_find?_eq_some found
      simpa using this
    simp only at closed
    split at closed
    · cases closed
    · cases closed
      refine ⟨lt, ?_⟩
      intro k made
      have here := inside.made k made
      simp only [List.getD_eq_getElem?_getD, List.getElem?_set]
      by_cases same : i = k
      · subst same
        rw [if_pos rfl]
        split
        · refine ⟨here.1.trans (Nat.le_succ _), ?_⟩
          intro stop closed
          cases closed
          exact ⟨here.1.trans (Nat.le_succ _), Nat.le_refl _⟩
        · exact Jsmntok.inside_default _
      · rw [if_neg same, ← List.getD_eq_getElem?_getD]
        exact here.mono (Nat.le_succ _)

/-- One character of the text. -/
theorem Jsmn.Inside.char {js : Bytes} {len : Nat} {p p' : Jsmn} (inside : p.Inside len)
    (here : inText js len p.pos = true) (step : jsmnChar js len p = .ok p') :
    ({ p' with pos := p'.pos + 1 } : Jsmn).Inside len := by
  have lt := lt_of_inText here
  have opening (type : JsmnType) :
      ({ type := type, start := p.pos, stop := none } : Jsmntok).Inside (p.pos + 1) :=
    ⟨Nat.le_succ _, fun _ closed => by cases closed⟩
  have pos_kept {token : Jsmntok} {p' : Jsmn} (added : p.addToken token = .ok p') :
      p'.pos = p.pos := by
    unfold Jsmn.addToken at added
    split at added
    · cases added
    · cases added
      rfl
  unfold jsmnChar at step
  simp only at step
  split at step
  · rw [pos_kept step]
    exact inside.addToken step (Nat.le_succ _) lt (opening _)
  split at step
  · rw [pos_kept step]
    exact inside.addToken step (Nat.le_succ _) lt (opening _)
  split at step
  · exact inside.close lt step
  split at step
  · exact inside.close lt step
  split at step
  · unfold jsmnParseString at step
    cases ends : stringEnd js len (len - p.pos) (p.pos + 1) with
    | error err => simp [ends, bind, Except.bind] at step
    | ok quote =>
        have bounds := stringEnd_le ends
        simp only [ends, bind, Except.bind] at step
        split at step
        · cases step
        · rename_i p₁ added
          cases step
          have fits : ({ type := .string, start := p.pos + 1, stop := some quote } : Jsmntok).Inside
              (quote + 1) := by
            refine ⟨Nat.le_succ_of_le bounds.1, ?_⟩
            intro stop closed
            cases closed
            exact ⟨bounds.1, Nat.le_succ _⟩
          have le : p.pos ≤ quote + 1 := by omega
          exact inside.addToken added le bounds.2 fits
  split at step
  · cases step
    exact inside.advance (Nat.le_succ _) lt
  · unfold jsmnParsePrimitive at step
    cases ends : primitiveEnd js len (len - p.pos) p.pos with
    | error err => simp [ends, bind, Except.bind] at step
    | ok found =>
        have bounds := primitiveEnd_le ends lt.le
        simp only [ends, bind, Except.bind] at step
        split at step
        · cases step
        · rename_i p₁ added
          cases step
          have fits : ({ type := .primitive, start := p.pos, stop := some found } : Jsmntok).Inside
              (found - 1 + 1) := by
            refine ⟨by simp only; omega, ?_⟩
            intro stop closed
            cases closed
            exact ⟨bounds.1, by omega⟩
          have le : p.pos ≤ found - 1 + 1 := by omega
          have le_len : found - 1 + 1 ≤ len := by omega
          exact inside.addToken added le le_len fits

theorem Jsmn.Inside.loop {len : Nat} {p : Jsmn} (inside : p.Inside len) (js : Bytes) (fuel : Nat) :
    (jsmnLoop js len fuel p).1.Inside len := by
  induction fuel generalizing p with
  | zero => exact inside
  | succ fuel ih =>
      rw [jsmnLoop]
      split
      · rename_i here
        split
        · rename_i p' step
          exact ih (inside.char here step)
        · exact inside
      · exact inside

/-- The tokens a parse makes lie in the text. -/
theorem jsmnParse_inside (js : Bytes) (len : Nat) (tokens : List Jsmntok) :
    ∀ i < (jsmnParse js len tokens).1.toknext,
      ((jsmnParse js len tokens).1.tokens.getD i default).Inside len := by
  have start : ({ tokens := tokens } : Jsmn).Inside len :=
    ⟨Nat.zero_le len, fun i lt => absurd lt (Nat.not_lt_zero i)⟩
  have final : (jsmnParse js len tokens).1.Inside len := by
    have loop := start.loop js len
    unfold jsmnParse
    split
    · rename_i p ends
      rw [ends] at loop
      exact loop
    · exact loop
  intro i lt
  exact (final.made i lt).mono final.pos

/-! ### The parse reads the text -/

section Congr

variable {js js' : Bytes} {len : Nat} (same : ∀ i < len, jsAt js i = jsAt js' i)

include same

theorem inText_congr (pos : Nat) : inText js len pos = inText js' len pos := by
  by_cases lt : pos < len
  · simp [inText, same pos lt]
  · simp [inText, lt]

theorem primitiveEnd_congr (fuel pos : Nat) :
    primitiveEnd js len fuel pos = primitiveEnd js' len fuel pos := by
  induction fuel generalizing pos with
  | zero => rfl
  | succ fuel ih =>
      simp only [primitiveEnd, ← inText_congr same, ih]
      split
      · rename_i here
        rw [same pos (lt_of_inText here)]
      · rfl

theorem unicodeEnd_congr (left pos : Nat) :
    unicodeEnd js len left pos = unicodeEnd js' len left pos := by
  induction left generalizing pos with
  | zero => rfl
  | succ left ih =>
      simp only [unicodeEnd, ← inText_congr same, ih]
      split
      · rename_i here
        rw [same pos (lt_of_inText here)]
      · rfl

theorem stringEnd_congr (fuel pos : Nat) :
    stringEnd js len fuel pos = stringEnd js' len fuel pos := by
  induction fuel generalizing pos with
  | zero => rfl
  | succ fuel ih =>
      simp only [stringEnd, ← inText_congr same, ih, ← unicodeEnd_congr same]
      split
      · rename_i here
        rw [same pos (lt_of_inText here)]
        split
        · rfl
        · split
          · rename_i escape
            rw [same (pos + 1) escape.2]
          · rfl
      · rfl

theorem jsmnChar_congr {p : Jsmn} (here : inText js len p.pos = true) :
    jsmnChar js len p = jsmnChar js' len p := by
  simp only [jsmnChar, jsmnParseString, jsmnParsePrimitive, stringEnd_congr same,
    primitiveEnd_congr same, same p.pos (lt_of_inText here)]

theorem jsmnLoop_congr (fuel : Nat) (p : Jsmn) :
    jsmnLoop js len fuel p = jsmnLoop js' len fuel p := by
  induction fuel generalizing p with
  | zero => rfl
  | succ fuel ih =>
      simp only [jsmnLoop, ← inText_congr same, ih]
      split
      · rename_i here
        rw [jsmnChar_congr same here]
      · rfl

/-- A parse depends on its text only. -/
theorem jsmnParse_congr (tokens : List Jsmntok) :
    jsmnParse js len tokens = jsmnParse js' len tokens := by
  rw [jsmnParse, jsmnParse, jsmnLoop_congr same]

end Congr

end LwipExt
