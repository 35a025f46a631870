import LwipExt.Bytes

/-!
The functions of the C library on strings that the sources use: comparison and search
without case, and what `snprintf` and its conversions leave in a buffer.
-/

namespace LwipExt

/-- `tolower` on an ASCII byte. -/
def toLower (b : UInt8) : UInt8 := if 65 ≤ b ∧ b ≤ 90 then b + 32 else b

/-- `IS_STRING_EQUAL`, that is `!strcasecmp`. -/
def isStringEqual (a b : Bytes) : Bool := (cstr a).map toLower = (cstr b).map toLower

/-- `strstr`: offset of `token` in the C string `buf`. -/
def strstr (buf token : Bytes) : Option Nat :=
  if token = [] then some 0 else Lib.findBefore 0 token buf

/-- `strcasestr`. -/
def strcasestr (buf token : Bytes) : Option Nat := strstr (buf.map toLower) (token.map toLower)

section Search

variable {buf token : Bytes}

theorem toLower_eq_zero_iff (b : UInt8) : toLower b = 0 ↔ b = 0 := by
  rw [UInt8.ext_iff, UInt8.ext_iff]
  unfold toLower
  split_ifs with upper
  · have low := UInt8.le_iff_toNat_le.mp upper.1
    have high := UInt8.le_iff_toNat_le.mp upper.2
    rw [UInt8.toNat_add]
    simp only [UInt8.reduceToNat] at low high ⊢
    omega
  · exact Iff.rfl

theorem cstr_map_toLower (buf : Bytes) : cstr (buf.map toLower) = (cstr buf).map toLower := by
  have same : (fun b => decide (b ≠ 0)) ∘ toLower = fun b => decide (b ≠ 0) := by
    funext b
    exact decide_eq_decide.mpr (not_congr (toLower_eq_zero_iff b))
  rw [cstr, cstr, List.takeWhile_map, same]

theorem zero_not_mem_map_toLower (noZero : 0 ∉ token) : 0 ∉ token.map toLower := by
  intro mem
  obtain ⟨b, inside, zero⟩ := List.mem_map.mp mem
  exact noZero ((toLower_eq_zero_iff b).mp zero ▸ inside)

/-- The C string of a text goes on behind the text, or ends at its NUL. -/
theorem cstr_append (text rest : Bytes) :
    cstr (text ++ rest) = if 0 ∈ text then cstr text else text ++ cstr rest := by
  by_cases zero : 0 ∈ text
  · have cut : (cstr text).length ≠ text.length := by
      intro same
      have whole : cstr text = text := (List.takeWhile_prefix _).eq_of_length same
      rw [← whole] at zero
      exact zero_not_mem_cstr text zero
    rw [if_pos zero, cstr, List.takeWhile_append]
    exact if_neg cut
  · rw [if_neg zero, cstr, List.takeWhile_append_of_pos]
    · rfl
    · intro b mem
      simpa using ne_of_mem_of_not_mem mem zero

theorem getD_length_cstr (x : Bytes) : x.getD (cstr x).length 0 = 0 := by
  induction x with
  | nil => rfl
  | cons c x ih =>
      by_cases zero : c = 0
      · rw [zero]
        rfl
      · have step : cstr (c :: x) = c :: cstr x := List.takeWhile_cons_of_pos (by simpa using zero)
        rw [step, List.length_cons, List.getD_cons_succ, ih]

/-- What a search in a text finds. -/
theorem lwipStrnstr_eq_some_iff (nonempty : token ≠ []) (noZero : 0 ∉ token) {i : Nat} :
    lwipStrnstr buf token buf.length = some i ↔
      ∃ before rest, buf = before ++ token ++ rest ∧ before.length = i ∧ 0 ∉ before ∧
        ¬ token <:+: (before ++ token).dropLast := by
  unfold lwipStrnstr
  rw [if_neg nonempty, List.take_length]
  exact Lib.findBefore_eq_some_iff nonempty noZero

theorem lwipStrnstr_isSome_iff (nonempty : token ≠ []) (noZero : 0 ∉ token) (n : Nat) :
    (lwipStrnstr buf token n).isSome ↔ token <:+: cstr (buf.take n) := by
  unfold lwipStrnstr
  rw [if_neg nonempty]
  exact Lib.findBefore_isSome_iff nonempty noZero _

/-- The search stops at the NUL. -/
theorem strstr_cstr (buf : Bytes) (noZero : 0 ∉ token) :
    strstr (cstr buf) token = strstr buf token := by
  unfold strstr
  rw [cstr, Lib.findBefore_takeWhile noZero]

theorem strcasestr_cstr (buf : Bytes) (noZero : 0 ∉ token) :
    strcasestr (cstr buf) token = strcasestr buf token := by
  rw [strcasestr, ← cstr_map_toLower, strstr_cstr _ (zero_not_mem_map_toLower noZero), strcasestr]

/-- What is found is found whatever follows. -/
theorem strstr_append {i : Nat} (found : strstr buf token = some i) (rest : Bytes) :
    strstr (buf ++ rest) token = some i := by
  unfold strstr at found ⊢
  split_ifs at found ⊢
  · exact found
  · exact Lib.findBefore_append found rest

theorem strcasestr_append {i : Nat} (found : strcasestr buf token = some i) (rest : Bytes) :
    strcasestr (buf ++ rest) token = some i := by
  rw [strcasestr, List.map_append]
  exact strstr_append found (rest.map toLower)

/-- A token is found exactly if it is in the C string, in any case of its letters. -/
theorem strcasestr_isSome_iff (nonempty : token ≠ []) (noZero : 0 ∉ token) (buf : Bytes) :
    (strcasestr buf token).isSome ↔ token.map toLower <:+: (cstr buf).map toLower := by
  have some : token.map toLower ≠ [] := fun none => nonempty (List.map_eq_nil_iff.mp none)
  rw [strcasestr, strstr, if_neg some,
    Lib.findBefore_isSome_iff some (zero_not_mem_map_toLower noZero), ← cstr_map_toLower, cstr]

end Search

/-- The bytes `snprintf` leaves in a buffer of `size` bytes, without the NUL. -/
def snprintf (size : Nat) (text : Bytes) : Bytes := text.take (size - 1)

/-- The bytes of `%d`. -/
def decimal (n : Nat) : Bytes := str (toString n)

end LwipExt
