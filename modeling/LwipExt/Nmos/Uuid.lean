import LwipExt.Cmn.Hex
import LwipExt.Cmn.SysParams
import LwipExt.Nmos.ApiRequest
import Mathlib.Tactic.IntervalCases

/-!
UUIDs as text and as keys.

`extUuidParse` looks at the dashes only, `extUuidEqual` compares the raw bytes as strings without
case, and the test for a null UUID looks at five bytes. So what a lookup finds is not always the
resource with the UUID of the request (`uuids_exact_iff`); only printing and parsing a UUID always
gives it back (`extUuidParse_print`).
-/

namespace LwipExt.Nmos

abbrev Uuid := Vector UInt8 16

/-- `extUuidToString`. -/
def extUuidToString (guid : Uuid) : Bytes :=
  let digits (is : List (Fin 16)) : Bytes := is.flatMap fun i => hexByte 97 (guid.get i)
  let first := snprintf 64 (digits [0, 1, 2, 3] ++ str "-")
  let second := snprintf (64 - first.length)
    (digits [4, 5] ++ str "-" ++ digits [6, 7] ++ str "-" ++ digits [8, 9] ++ str "-")
  first ++ second ++ snprintf (64 - (first ++ second).length) (digits [10, 11, 12, 13, 14, 15])

/-- The octets of a UUID that stand for the clock in an SDP file. -/
def clockOctets : List (Fin 16) := [0, 1, 2, 3, 4, 5, 6, 7]

/-- `UUID_IS_NULL`. -/
def uuidIsNull (uuid : Uuid) : Bool :=
  uuid.get 0 = 0 && uuid.get 1 = 0 && uuid.get 2 = 0 && uuid.get 4 = 0 && uuid.get 15 = 0

/-- A UUID with the memory behind it. -/
structure Stored where
  uuid : Uuid
  behind : Bytes

/-- The memory from a UUID on. -/
def Stored.memory (stored : Stored) : Bytes := stored.uuid.toList ++ stored.behind

/-- `extUuidEqual`. -/
def extUuidEqual (dest src : Stored) : Bool :=
  if uuidIsNull dest.uuid || uuidIsNull src.uuid then false
  else isStringEqual dest.memory src.memory

/-- The lists of resources a node has a handler for. -/
inductive NmosList where
  | receivers
  | senders
  | flows
  | sources
  deriving DecidableEq, Repr

/-- The lists that `_nmosReceiversHander`, `_nmosSendersHander`, `_nmosFlowsHander` and
`_nmosSourcesHander` show on a device. -/
def NmosList.isShown (list : NmosList) (runCfg : RuntimeCfg) : Bool :=
  match list with
  | .receivers => ¬ extIsTx runCfg
  | .senders | .flows | .sources => extIsTx runCfg

/-- What these handlers answer with: `[]`, all resources, one, or `ID not found`. -/
inductive NmosAnswer (α : Type) where
  | empty
  | all
  | one (resource : α)
  | notFound
  deriving DecidableEq, Repr

/-- `_nmosSendersHander`, and the handlers of the other lists. -/
def nmosHander {α : Type} (nmosId : α → Stored) (list : NmosList) (runCfg : RuntimeCfg)
    (uuid : Stored) (resources : List α) : NmosAnswer α :=
  if ¬ list.isShown runCfg then .empty
  else if ¬ uuidIsNull uuid.uuid then
    match resources.find? fun resource => extUuidEqual uuid (nmosId resource) with
    | some resource => .one resource
    | none => .notFound
  else .all

/-! ### What is claimed of them -/

/-- The offsets of the dashes. -/
def dashOffsets : List Nat := [8, 13, 18, 23]

/-- The text begins with a UUID in the form 8-4-4-4-12. -/
def BeginsWithUuid (text : Bytes) : Prop :=
  ∀ i < extUuidStrLength,
    if i ∈ dashOffsets then text.getD i 0 = 45 else (hexDigit (text.getD i 0)).isSome = true

/-- The text has hexadecimal digits between its dashes, if the dashes are those of a UUID. -/
def DigitsBetween (text : Bytes) : Prop :=
  (∀ i ∈ dashOffsets, text.getD i 0 = 45) →
    ∀ i < extUuidStrLength, i ∉ dashOffsets → (hexDigit (text.getD i 0)).isSome = true

/-- The two strings are the same but for case. -/
def SameText (x y : Bytes) : Prop :=
  ∃ n, (x.take n).map toLower = (y.take n).map toLower ∧ 0 ∉ x.take n ∧ 0 ∉ y.take n ∧
    x.getD n 0 = 0 ∧ y.getD n 0 = 0

/-- Null bytes, case and the memory behind two UUIDs do not matter for whether they are equal. -/
structure Comparable (dest src : Stored) : Prop where
  equal : dest.uuid = src.uuid → uuidIsNull dest.uuid = false ∧
    (0 ∈ dest.uuid.toList ∨ SameText dest.behind src.behind)
  different : dest.uuid ≠ src.uuid → uuidIsNull dest.uuid = true ∨ uuidIsNull src.uuid = true ∨
    ¬ SameText dest.memory src.memory

/-- The UUID is comparable to those of the resources up to the first that has it. -/
def ComparableUpTo {α : Type} (nmosId : α → Stored) (uuid : Stored) (resources : List α) : Prop :=
  Lib.UpTo (fun resource => (nmosId resource).uuid = uuid.uuid)
    (fun resource => Comparable uuid (nmosId resource)) resources

/-- What a lookup is for. -/
def exactAnswer {α : Type} (nmosId : α → Stored) (uuid : Uuid) (resources : List α) :
    NmosAnswer α :=
  match resources.find? fun resource => (nmosId resource).uuid = uuid with
  | some resource => .one resource
  | none => .notFound

/-- The null UUID. -/
def nullUuid : Uuid := Vector.replicate 16 0

section Claims

variable {α : Type} (nmosId : α → Stored) (text : Bytes) (u : Uuid) (dest src : Stored)
  (list : NmosList) (runCfg : RuntimeCfg) (resources : List α)

/-- A UUID is what text, comparison and lookup take it for. -/
structure UuidsExact : Prop where
  accepts : (extUuidParse text).2 = true ↔ BeginsWithUuid text
  prints : extUuidParse (extUuidToString u) = (u, true)
  equal : dest.uuid ≠ nullUuid → src.uuid ≠ nullUuid →
    (extUuidEqual dest src = true ↔ dest.uuid = src.uuid)
  found : list.isShown runCfg = true → dest.uuid ≠ nullUuid →
    nmosHander nmosId list runCfg dest resources = exactAnswer nmosId dest.uuid resources

/-- What takes a UUID for another, or a text for one, does not occur. -/
structure UuidsClear : Prop where
  digits : DigitsBetween text
  comparable : dest.uuid ≠ nullUuid → src.uuid ≠ nullUuid → Comparable dest src
  upTo : list.isShown runCfg = true → dest.uuid ≠ nullUuid →
    uuidIsNull dest.uuid = false ∧ ComparableUpTo nmosId dest resources

end Claims

/-! ### Strings -/

theorem take_length_cstr (x : Bytes) : x.take (cstr x).length = cstr x :=
  (List.prefix_iff_eq_take.mp (List.takeWhile_prefix _)).symm

/-- A string ends at its first NUL. -/
theorem cstr_eq_take {x : Bytes} {n : Nat} (noZero : 0 ∉ x.take n) (zero : x.getD n 0 = 0) :
    cstr x = x.take n := by
  induction n generalizing x with
  | zero =>
      cases x with
      | nil => rfl
      | cons c x =>
          obtain rfl : c = 0 := zero
          rfl
  | succ n ih =>
      cases x with
      | nil => rfl
      | cons c x =>
          rw [List.take_succ_cons, List.mem_cons, not_or] at noZero
          have step : cstr (c :: x) = c :: cstr x :=
            List.takeWhile_cons_of_pos (by simpa using Ne.symm noZero.1)
          rw [step, List.take_succ_cons, ih noZero.2 zero]

/-- What `strcasecmp` compares. -/
theorem isStringEqual_iff {x y : Bytes} : isStringEqual x y = true ↔ SameText x y := by
  unfold isStringEqual
  rw [decide_eq_true_iff]
  constructor
  · intro same
    have length : (cstr x).length = (cstr y).length := by
      simpa using congrArg List.length same
    refine ⟨(cstr x).length, ?_, ?_, ?_, getD_length_cstr x, ?_⟩
    · rw [take_length_cstr, length, take_length_cstr, same]
    · rw [take_length_cstr]
      exact zero_not_mem_cstr x
    · rw [length, take_length_cstr]
      exact zero_not_mem_cstr y
    · rw [length]
      exact getD_length_cstr y
  · rintro ⟨n, same, noZero, noZero', zero, zero'⟩
    rw [cstr_eq_take noZero zero, cstr_eq_take noZero' zero', same]

/-- Two strings that begin alike. -/
theorem isStringEqual_append {text x y : Bytes} :
    isStringEqual (text ++ x) (text ++ y) = true ↔ 0 ∈ text ∨ isStringEqual x y = true := by
  unfold isStringEqual
  rw [decide_eq_true_iff, decide_eq_true_iff]
  induction text with
  | nil => simp
  | cons c text ih =>
      by_cases zero : c = 0
      · rw [zero]
        simp [cstr]
      · have step (rest : Bytes) : cstr (c :: rest) = c :: cstr rest :=
          List.takeWhile_cons_of_pos (by simpa using zero)
        rw [List.cons_append, List.cons_append, step, step, List.map_cons, List.map_cons,
          List.cons_inj_right, ih, List.mem_cons, or_iff_right (Ne.symm zero)]

/-! ### Parsing -/

theorem hasDashes_iff {text : Bytes} :
    hasDashes text = true ↔ ∀ i ∈ dashOffsets, text.getD i 0 = 45 := by
  unfold hasDashes dashOffsets
  rw [List.all_eq_true]
  constructor
  · exact fun all i mem => of_decide_eq_true (all i mem)
  · exact fun all i mem => decide_eq_true (all i mem)

/-- The parser asks for the dashes only. -/
theorem extUuidParse_accepts (text : Bytes) : (extUuidParse text).2 = hasDashes text := by
  unfold extUuidParse
  cases hasDashes text with
  | false => rfl
  | true => rfl

theorem beginsWithUuid_iff {text : Bytes} :
    BeginsWithUuid text ↔ hasDashes text = true ∧
      ∀ i < extUuidStrLength, i ∉ dashOffsets → (hexDigit (text.getD i 0)).isSome = true := by
  rw [hasDashes_iff]
  unfold BeginsWithUuid
  constructor
  · intro form
    constructor
    · intro i mem
      have inside : ∀ i ∈ dashOffsets, i < extUuidStrLength := by decide
      have dash := form i (inside i mem)
      rwa [if_pos mem] at dash
    · intro i inside other
      have digit := form i inside
      rwa [if_neg other] at digit
  · rintro ⟨dashes, digits⟩ i inside
    by_cases mem : i ∈ dashOffsets
    · rw [if_pos mem]
      exact dashes i mem
    · rw [if_neg mem]
      exact digits i inside mem

/-- The digits of a byte stand where the parser looks for them. -/
theorem extUuidToString_drop (u : Uuid) (i : Fin 16) :
    ∃ rest, (extUuidToString u).drop (uuidOffsets.get i) = hexByte 97 (u.get i) ++ rest := by
  obtain ⟨⟨bytes⟩, size⟩ := u
  match bytes, size with
  | [_, _, _, _, _, _, _, _, _, _, _, _, _, _, _, _], _ =>
      obtain ⟨i, inside⟩ := i
      interval_cases i <;> exact ⟨_, rfl⟩

/-- **Printing a UUID and parsing it gives it back.** -/
theorem extUuidParse_print (u : Uuid) : extUuidParse (extUuidToString u) = (u, true) := by
  have dashes : hasDashes (extUuidToString u) = true := by
    obtain ⟨⟨bytes⟩, size⟩ := u
    match bytes, size with
    | [_, _, _, _, _, _, _, _, _, _, _, _, _, _, _, _], _ => rfl
  unfold extUuidParse
  rw [if_pos dashes]
  refine Prod.ext (Vector.ext fun i inside => ?_) rfl
  obtain ⟨rest, text⟩ := extUuidToString_drop u ⟨i, inside⟩
  have value : (extSysAtoInt8 ((extUuidToString u).drop (uuidOffsets.get ⟨i, inside⟩))).1 =
      u.get ⟨i, inside⟩ := by
    rw [text, extSysAtoInt8_print]
  rw [Vector.getElem_map]
  exact value

/-! ### Comparing -/

/-- The comparison is exact for two UUIDs if and only if they are comparable. -/
theorem extUuidEqual_exact_iff (dest src : Stored) :
    (extUuidEqual dest src = true ↔ dest.uuid = src.uuid) ↔ Comparable dest src := by
  have equal : extUuidEqual dest src = true ↔ uuidIsNull dest.uuid = false ∧
      uuidIsNull src.uuid = false ∧ isStringEqual dest.memory src.memory = true := by
    unfold extUuidEqual
    cases uuidIsNull dest.uuid <;> cases uuidIsNull src.uuid <;> simp
  by_cases same : dest.uuid = src.uuid
  · have memory : isStringEqual dest.memory src.memory = true ↔
        0 ∈ dest.uuid.toList ∨ SameText dest.behind src.behind := by
      rw [← isStringEqual_iff, Stored.memory, Stored.memory, ← same, isStringEqual_append]
    rw [iff_true_right same, equal, memory, ← same]
    constructor
    · rintro ⟨nonNull, -, text⟩
      exact ⟨fun _ => ⟨nonNull, text⟩, fun differ => absurd same differ⟩
    · rintro ⟨alike, -⟩
      obtain ⟨nonNull, text⟩ := alike same
      exact ⟨nonNull, nonNull, text⟩
  · rw [iff_false_right same, equal, isStringEqual_iff]
    constructor
    · intro differs
      refine ⟨fun alike => absurd alike same, fun _ => ?_⟩
      by_contra alike
      rw [not_or, not_or, not_not, Bool.not_eq_true, Bool.not_eq_true] at alike
      exact differs alike
    · rintro ⟨-, differs⟩ ⟨nonNull, nonNull', text⟩
      rcases differs same with null | null | other
      · rw [nonNull] at null
        cases null
      · rw [nonNull'] at null
        cases null
      · exact other text

/-! ### Looking up -/

variable {α : Type} {nmosId : α → Stored}

/-- The first resource that compares equal is the first with the UUID. -/
theorem find_extUuidEqual_iff {uuid : Stored} {resources : List α} :
    (resources.find? fun resource => extUuidEqual uuid (nmosId resource)) =
        (resources.find? fun resource => (nmosId resource).uuid = uuid.uuid) ↔
      ComparableUpTo nmosId uuid resources := by
  rw [Lib.find?_eq_find?_iff]
  refine Lib.UpTo.congr (fun resource => decide_eq_true_iff) (fun resource => ?_) resources
  rw [decide_eq_true_iff, ← extUuidEqual_exact_iff, @eq_comm _ uuid.uuid]

/-- What a handler answers, and what it is to answer. -/
theorem nmosHander_exact_iff {list : NmosList} {runCfg : RuntimeCfg} {uuid : Stored}
    {resources : List α} (shown : list.isShown runCfg = true) :
    nmosHander nmosId list runCfg uuid resources = exactAnswer nmosId uuid.uuid resources ↔
      uuidIsNull uuid.uuid = false ∧ ComparableUpTo nmosId uuid resources := by
  rw [← find_extUuidEqual_iff]
  unfold nmosHander exactAnswer
  rw [if_neg (not_not.mpr shown)]
  cases uuidIsNull uuid.uuid with
  | true => cases resources.find? fun resource => (nmosId resource).uuid = uuid.uuid <;> simp
  | false =>
      rw [if_pos Bool.false_ne_true, eq_self, true_and]
      cases resources.find? fun resource => extUuidEqual uuid (nmosId resource) <;>
        cases resources.find? fun resource => (nmosId resource).uuid = uuid.uuid <;> simp

/-- **A UUID is what text, comparison and lookup take it for if and only if** digits stand between
the dashes, and null bytes, case and the memory behind do not decide a comparison. -/
theorem uuids_exact_iff (nmosId : α → Stored) (text : Bytes) (u : Uuid) (dest src : Stored)
    (list : NmosList) (runCfg : RuntimeCfg) (resources : List α) :
    UuidsExact nmosId text u dest src list runCfg resources ↔
      UuidsClear nmosId text dest src list runCfg resources := by
  have accepted : ((extUuidParse text).2 = true ↔ BeginsWithUuid text) ↔ DigitsBetween text := by
    rw [extUuidParse_accepts, beginsWithUuid_iff, hasDashes_iff]
    exact iff_self_and
  constructor
  · rintro ⟨accepts, -, equal, found⟩
    refine ⟨accepted.mp accepts, ?_, ?_⟩
    · exact fun nonNull nonNull' => (extUuidEqual_exact_iff dest src).mp (equal nonNull nonNull')
    · exact fun shown nonNull => (nmosHander_exact_iff shown).mp (found shown nonNull)
  · rintro ⟨digits, comparable, upTo⟩
    refine ⟨accepted.mpr digits, extUuidParse_print u, ?_, ?_⟩
    · exact fun nonNull nonNull' =>
        (extUuidEqual_exact_iff dest src).mpr (comparable nonNull nonNull')
    · exact fun shown nonNull => (nmosHander_exact_iff shown).mpr (upTo shown nonNull)

/-- A text without a digit is accepted as a UUID. -/
theorem not_uuids_exact : ¬ ∀ (text : Bytes) (u : Uuid) (dest src : Stored) (list : NmosList)
    (runCfg : RuntimeCfg) (resources : List Stored),
    UuidsExact id text u dest src list runCfg resources := by
  intro all
  obtain ⟨accepts, -⟩ := all (str "zzzzzzzz-zzzz-zzzz-zzzz-zzzzzzzzzzzz") nullUuid ⟨nullUuid, []⟩
    ⟨nullUuid, []⟩ .senders {} []
  have first := accepts.mp (by decide +kernel) 0 (by decide)
  revert first
  decide +kernel

end LwipExt.Nmos
