import LwipExt.Cmn.JsmnArray
import LwipExt.UdpCmd.Json
import Mathlib.Data.List.GetD
import Mathlib.Tactic.IntervalCases

/-!
What `extJsonFindKeyToken` finds.

It takes the first string of the text that reads as the key, wherever it stands, and looks
one token too far. So it is right exactly if this string is the key of a member of an object
and, where the text has no such string, the token left behind those of the text does not
read as the key by chance (`lookup_correct_iff`).
-/

namespace LwipExt.UdpCmd

/-- What the accessors see after `extJsonParse` of a text over an array of tokens. -/
def Json.ofText (text : Bytes) (len : Nat) (old : List Jsmntok) : Json :=
  let p := (jsmnParse text len old).1
  { text := text, tokens := p.tokens, toknext := p.toknext }

/-! ### Members of objects -/

/-- The white space of JSON. -/
def isBlank (c : UInt8) : Bool := [32, 9, 10, 13].contains c

/-- Where a token begins in the text; a string begins with its quote. -/
def first (tok : Jsmntok) : Nat := if tok.type = .string then tok.start - 1 else tok.start

/-- The innermost object or array around a token. -/
def Json.container (j : Json) (k : Nat) : Option Nat :=
  (List.range k).reverse.find? fun i =>
    ((j.token i).type = .object ∨ (j.token i).type = .array) ∧
      (j.token k).start < (j.token i).stop.getD 0

/-- The tokens `k` and `k + 1` are the key and the value of a member of an object of the text:
a string that reads as the key stands directly in an object, behind its brace or a comma, and
the value behind a colon. -/
structure Json.IsMember (j : Json) (key : Bytes) (k : Nat) : Prop where
  reads : jsoneq j.text (j.token k) key = true
  value : k + 1 < j.toknext
  object : ∃ i, j.container k = some i ∧ (j.token i).type = .object
  starts : ∃ c ∈ [123, 44],
    ((j.text.take (first (j.token k))).filter fun c => ¬ isBlank c).getLast? = some c
  colon : ((j.text.take (first (j.token (k + 1)))).drop ((j.token k).start + key.length + 1)).filter
    (fun c => ¬ isBlank c) = [58]

/-- The lookup of a key in a text gives the value of a member that has the key, or nothing if
there is none, whatever the array held before. -/
structure LookupCorrect (text : Bytes) (len : Nat) (old : List Jsmntok) (key : Bytes) : Prop where
  found : ∀ tok, extJsonFindKeyToken (Json.ofText text len old) key = some tok →
    ∃ k, (Json.ofText text len old).IsMember key k ∧ tok = (Json.ofText text len old).token (k + 1)
  missing : extJsonFindKeyToken (Json.ofText text len old) key = none →
    ∀ k, ¬ (Json.ofText text len old).IsMember key k
  fresh : extJsonFindKeyToken (Json.ofText text len old) key =
    extJsonFindKeyToken (Json.ofText text len (List.replicate extJsonTokenSize default)) key

/-- The first of the text's tokens behind its first one that reads as a key. -/
structure Json.FirstReading (j : Json) (key : Bytes) (k : Nat) : Prop where
  pos : 0 < k
  own : k < j.toknext
  reads : jsoneq j.text (j.token k) key = true
  first : ∀ i, 0 < i → i < k → jsoneq j.text (j.token i) key = false

/-! ### The search -/

section Search

variable {j : Json} {key : Bytes}

theorem Json.IsMember.pos {k : Nat} (member : j.IsMember key k) : 0 < k := by
  obtain ⟨i, found, -⟩ := member.object
  have mem := List.mem_of_find?_eq_some found
  simp only [List.mem_reverse, List.mem_range] at mem
  omega

/-- The search stops at the first token that reads as the key, up to the one behind the last. -/
theorem extJsonFindKeyToken_eq_some {tok : Jsmntok} (found : extJsonFindKeyToken j key = some tok) :
    ∃ k, 0 < k ∧ k ≤ j.toknext ∧ jsoneq j.text (j.token k) key = true ∧
      (∀ i, 0 < i → i < k → jsoneq j.text (j.token i) key = false) ∧ tok = j.token (k + 1) := by
  unfold extJsonFindKeyToken at found
  rw [Option.map_eq_some_iff] at found
  obtain ⟨i, found, rfl⟩ := found
  rw [List.find?_range_eq_some] at found
  obtain ⟨reads, lt, before⟩ := found
  refine ⟨i + 1, Nat.succ_pos i, List.mem_range.mp lt, reads, ?_, rfl⟩
  intro k pos less
  have := before (k - 1) (by omega)
  rw [Nat.sub_add_cancel pos] at this
  simpa using this

theorem extJsonFindKeyToken_eq_none (none_ : extJsonFindKeyToken j key = none) :
    ∀ k, 0 < k → k ≤ j.toknext → jsoneq j.text (j.token k) key = false := by
  unfold extJsonFindKeyToken at none_
  rw [Option.map_eq_none_iff, List.find?_eq_none] at none_
  intro k pos le
  have := none_ (k - 1) (List.mem_range.mpr (by omega))
  rw [Nat.sub_add_cancel pos] at this
  simpa using this

theorem extJsonFindKeyToken_none
    (silent : ∀ k, 0 < k → k ≤ j.toknext → jsoneq j.text (j.token k) key = false) :
    extJsonFindKeyToken j key = none := by
  cases search : extJsonFindKeyToken j key with
  | none => rfl
  | some tok =>
      obtain ⟨k, pos, le, reads, -, -⟩ := extJsonFindKeyToken_eq_some search
      simp [silent k pos le] at reads

/-- If a token of the text reads as the key, there is a first one. -/
theorem Json.exists_first {k : Nat} (pos : 0 < k) (own : k < j.toknext)
    (reads : jsoneq j.text (j.token k) key = true) : ∃ i, j.FirstReading key i := by
  induction k using Nat.strongRecOn with
  | ind k ih =>
      by_cases earlier : ∃ i, 0 < i ∧ i < k ∧ jsoneq j.text (j.token i) key = true
      · obtain ⟨i, pos', less, reads'⟩ := earlier
        exact ih i less pos' (less.trans own) reads'
      · refine ⟨k, pos, own, reads, fun i pos' less => ?_⟩
        exact Bool.eq_false_iff.mpr fun reads' => earlier ⟨i, pos', less, reads'⟩

theorem extJsonFindKeyToken_first {k : Nat} (pos : 0 < k) (le : k ≤ j.toknext)
    (reads : jsoneq j.text (j.token k) key = true)
    (before : ∀ i, 0 < i → i < k → jsoneq j.text (j.token i) key = false) :
    extJsonFindKeyToken j key = some (j.token (k + 1)) := by
  cases search : extJsonFindKeyToken j key with
  | none => simp [extJsonFindKeyToken_eq_none search k pos le] at reads
  | some tok =>
      obtain ⟨i, pos', -, reads', before', rfl⟩ := extJsonFindKeyToken_eq_some search
      rcases Nat.lt_trichotomy i k with less | same | more
      · simp [before i pos' less] at reads'
      · rw [same]
      · simp [before' k pos more] at reads

end Search

/-! ### When the lookup is right -/

section Correct

variable {text : Bytes} {len : Nat} {old : List Jsmntok} {key : Bytes}

/-- The tokens of the text do not depend on the array. -/
theorem ofText_own {old' : List Jsmntok} (full : old.length = extJsonTokenSize)
    (full' : old'.length = extJsonTokenSize) :
    (Json.ofText text len old).toknext = (Json.ofText text len old').toknext ∧
      ∀ i < (Json.ofText text len old).toknext,
        (Json.ofText text len old).token i = (Json.ofText text len old').token i := by
  obtain ⟨agree, -⟩ := jsmnParse_agree text len full full'
  exact ⟨agree.toknext, agree.own⟩

/-- Tokens of the text that are equal are the same. -/
theorem ofText_token_inj (full : old.length = extJsonTokenSize) {i k : Nat}
    (own : i < (Json.ofText text len old).toknext) (own' : k < (Json.ofText text len old).toknext)
    (same : (Json.ofText text len old).token i = (Json.ofText text len old).token k) : i = k := by
  obtain ⟨sorted, -⟩ := jsmnParse_array text len full
  rcases Nat.lt_trichotomy i k with less | eq | more
  · have := sorted.sorted i k less own'
    exact absurd (congrArg Jsmntok.start same) this.ne
  · exact eq
  · have := sorted.sorted k i more own
    exact absurd (congrArg Jsmntok.start same.symm) this.ne

theorem ofText_stale (full : old.length = extJsonTokenSize) :
    (Json.ofText text len old).token (Json.ofText text len old).toknext =
      old.getD (Json.ofText text len old).toknext default :=
  (jsmnParse_array text len full).2.rest _ (Nat.le_refl _)

/-- Without a string that reads as the key, only the token left behind can be taken for it. -/
theorem ofText_silent (full : old.length = extJsonTokenSize)
    (absent : ∀ k, ¬ (Json.ofText text len old).FirstReading key k)
    (stale : 0 < (Json.ofText text len old).toknext →
      jsoneq text (old.getD (Json.ofText text len old).toknext default) key = false) :
    extJsonFindKeyToken (Json.ofText text len old) key = none := by
  refine extJsonFindKeyToken_none fun k pos le => ?_
  rcases Nat.lt_or_eq_of_le le with own | last
  · refine Bool.eq_false_iff.mpr fun reads => ?_
    obtain ⟨i, first⟩ := Json.exists_first pos own reads
    exact absent i first
  · subst last
    rw [ofText_stale full]
    exact stale pos

/-- The first of the text's tokens to read as the key is the same over every array. -/
theorem firstReading_congr {old' : List Jsmntok} (full : old.length = extJsonTokenSize)
    (full' : old'.length = extJsonTokenSize) {k : Nat}
    (first : (Json.ofText text len old).FirstReading key k) :
    (Json.ofText text len old').FirstReading key k := by
  obtain ⟨count, own⟩ := @ofText_own text len _ _ full full'
  refine ⟨first.pos, count ▸ first.own, ?_, ?_⟩
  · rw [← own k first.own]
    exact first.reads
  · intro i pos less
    rw [← own i (less.trans first.own)]
    exact first.first i pos less

theorem lookup_fresh_of_member (full : old.length = extJsonTokenSize) {k : Nat}
    (first : (Json.ofText text len old).FirstReading key k)
    (member : (Json.ofText text len old).IsMember key k) :
    extJsonFindKeyToken (Json.ofText text len old) key =
      extJsonFindKeyToken (Json.ofText text len (List.replicate extJsonTokenSize default)) key := by
  have full' : (List.replicate extJsonTokenSize (default : Jsmntok)).length = extJsonTokenSize :=
    List.length_replicate
  have first' := firstReading_congr full full' first
  rw [extJsonFindKeyToken_first first.pos first.own.le first.reads first.first,
    extJsonFindKeyToken_first first'.pos first'.own.le first'.reads first'.first,
    (ofText_own full full').2 _ member.value]

theorem lookup_fresh_of_absent (full : old.length = extJsonTokenSize)
    (absent : ∀ k, ¬ (Json.ofText text len old).FirstReading key k) :
    extJsonFindKeyToken (Json.ofText text len (List.replicate extJsonTokenSize default)) key =
      none := by
  have full' : (List.replicate extJsonTokenSize (default : Jsmntok)).length = extJsonTokenSize :=
    List.length_replicate
  refine ofText_silent full' (fun k first => absent k (firstReading_congr full' full first)) ?_
  intro _
  rw [List.getD_eq_getElem?_getD, List.getElem?_getD_replicate_default_eq]
  rfl

/-- The lookup is right exactly if the first of the text's strings that reads as the key is the
key of a member and, where there is none, the token left behind the last does not read as the
key. -/
theorem lookup_correct_iff (text : Bytes) (len : Nat) (old : List Jsmntok) (key : Bytes)
    (full : old.length = extJsonTokenSize) :
    LookupCorrect text len old key ↔
      (∀ k, (Json.ofText text len old).FirstReading key k →
        (Json.ofText text len old).IsMember key k) ∧
      ((∀ k, ¬ (Json.ofText text len old).FirstReading key k) →
        0 < (Json.ofText text len old).toknext →
        jsoneq text (old.getD (Json.ofText text len old).toknext default) key = false) := by
  constructor
  · intro correct
    constructor
    · intro k first
      obtain ⟨i, member, same⟩ := correct.found _
        (extJsonFindKeyToken_first first.pos first.own.le first.reads first.first)
      have le : k ≤ i := by
        by_contra less
        have reads := member.reads
        simp [first.first i member.pos (Nat.lt_of_not_le less)] at reads
      have value := member.value
      have at_ := ofText_token_inj full (by omega) value same
      have : k = i := by omega
      exact this ▸ member
    · intro absent nonempty
      refine Bool.eq_false_iff.mpr fun reads => ?_
      rw [← ofText_stale full] at reads
      have silent (i : Nat) (pos : 0 < i) (less : i < (Json.ofText text len old).toknext) :
          jsoneq (Json.ofText text len old).text ((Json.ofText text len old).token i) key = false := by
        refine Bool.eq_false_iff.mpr fun reads' => ?_
        obtain ⟨k, first⟩ := Json.exists_first pos less reads'
        exact absent k first
      obtain ⟨i, member, -⟩ := correct.found _
        (extJsonFindKeyToken_first nonempty (Nat.le_refl _) reads silent)
      have reads' := member.reads
      simp [silent i member.pos (by have := member.value; omega)] at reads'
  · rintro ⟨isKey, stale⟩
    by_cases present : ∃ k, (Json.ofText text len old).FirstReading key k
    · obtain ⟨k, first⟩ := present
      have found := extJsonFindKeyToken_first first.pos first.own.le first.reads first.first
      refine ⟨?_, ?_, lookup_fresh_of_member full first (isKey k first)⟩
      · intro tok eq
        rw [found] at eq
        cases eq
        exact ⟨k, isKey k first, rfl⟩
      · intro eq
        rw [found] at eq
        cases eq
    · have absent (k : Nat) : ¬ (Json.ofText text len old).FirstReading key k :=
        fun first => present ⟨k, first⟩
      have none_ := ofText_silent full absent (stale absent)
      refine ⟨?_, ?_, ?_⟩
      · intro tok eq
        rw [none_] at eq
        cases eq
      · intro _ k member
        have reads := member.reads
        have value := member.value
        simp [extJsonFindKeyToken_eq_none none_ k member.pos (by omega)] at reads
      · rw [none_, lookup_fresh_of_absent full absent]

end Correct

/-- A request in which a value is the word `cmd`. -/
def shadowedText : Bytes := str "\x7b\"mac\":\"cmd\",\"cmd\":\"get_param\"\x7d"

/-- A text with one member. -/
def plainText : Bytes := str "\x7b\"cmd\":\"get_param\"\x7d"

/-- An array without tokens. -/
def noTokens : List Jsmntok := List.replicate extJsonTokenSize default

/-- With one member, its value is found. -/
theorem lookup_plain : LookupCorrect plainText plainText.length noTokens (str "cmd") := by
  refine (lookup_correct_iff plainText plainText.length noTokens (str "cmd")
    List.length_replicate).mpr ⟨?_, ?_⟩
  · intro k first
    have own : k < 3 := first.own
    have pos := first.pos
    have reads := first.reads
    have at_ : k = 1 := by
      by_contra other
      have last : k = 2 := by omega
      subst last
      exact absurd reads (by decide +kernel)
    subst at_
    exact ⟨by decide +kernel, by decide +kernel, ⟨0, by decide +kernel, by decide +kernel⟩,
      ⟨123, by decide, by decide +kernel⟩, by decide +kernel⟩
  · intro _ _
    decide +kernel

/-- The value is taken for the key. -/
theorem value_taken_for_key :
    ¬ LookupCorrect shadowedText shadowedText.length noTokens (str "cmd") := by
  intro correct
  have search : extJsonFindKeyToken (Json.ofText shadowedText shadowedText.length noTokens)
      (str "cmd") = some { type := .string, start := 14, stop := some 17 } := by
    decide +kernel
  obtain ⟨k, member, same⟩ := correct.found _ search
  have count : (Json.ofText shadowedText shadowedText.length noTokens).toknext = 5 := by
    decide +kernel
  have value : k < 4 := by
    have := member.value
    omega
  have reads := member.reads
  have colon := member.colon
  interval_cases k
  · exact absurd reads (by decide +kernel)
  · exact absurd reads (by decide +kernel)
  · exact absurd colon (by decide +kernel)
  · exact absurd same (by decide +kernel)

end LwipExt.UdpCmd
