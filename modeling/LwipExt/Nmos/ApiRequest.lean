import LwipExt.Cmn.Address
import LwipExt.CString
import LwipExt.Http.Conn
import Mathlib.Data.List.TakeWhile

/-!
The resources in the URI of an NMOS request (`nnmos/extNmosHttp.c`), and the UUIDs among them
(`cmn/extCmnJsonUtils.c`).

`mhc->uri` is the string, its NUL and what was behind it before; the parser may look there.
-/

namespace LwipExt.Nmos

/-! ### UUIDs -/

/-- `EXT_UUID_STR_LENGTH`. -/
def extUuidStrLength : Nat := 36

/-- The offsets of the two digits of each byte. -/
def uuidOffsets : Vector Nat 16 := #v[0, 2, 4, 6, 9, 11, 14, 16, 19, 21, 24, 26, 28, 30, 32, 34]

/-- The dashes are where a UUID has them. -/
def hasDashes (text : Bytes) : Bool := [8, 13, 18, 23].all fun i => text.getD i 0 = 45

/-- `extUuidParse`: the UUID, and whether the dashes are there. -/
def extUuidParse (strUuid : Bytes) : Vector UInt8 16 × Bool :=
  if hasDashes strUuid then (uuidOffsets.map fun i => (extSysAtoInt8 (strUuid.drop i)).1, true)
  else (Vector.replicate 16 0, false)

/-! ### Resources -/

/-- `NMOS_URI_RESOURCE_LENGTH`. -/
def nmosUriResourceLength : Nat := 16

/-- `ExtNmosApiReq`; `resourceCount` is the number of resources. -/
structure ExtNmosApiReq where
  versionFlags : UInt8 := 0
  resources : List Bytes := []
  uuid : Vector UInt8 16 := Vector.replicate 16 0
  deriving DecidableEq, Repr

/-- A resource is copied, as far as it fits. -/
def ExtNmosApiReq.addResource (apiReq : ExtNmosApiReq) (resource : Bytes) (length : Nat) :
    ExtNmosApiReq :=
  { apiReq with
    resources := apiReq.resources ++ [resource.take (min length nmosUriResourceLength)] }

/-- `_extParseApiResource`: the `char` it returns, and the request. -/
def extParseApiResource (apiReq : ExtNmosApiReq) (resource : Bytes) : Nat × ExtNmosApiReq :=
  match strstr resource (str "/") with
  | some next =>
      match extUuidParse resource with
      | (uuid, true) => (extUuidStrLength + 1, { apiReq with uuid := uuid })
      | (uuid, false) =>
          ((next + 1) % 256, { apiReq with uuid := uuid }.addResource resource next)
  | none =>
      let length := (cstr resource).length
      if length ≠ extUuidStrLength then (length % 256, apiReq.addResource resource length)
      else
        match extUuidParse resource with
        | (uuid, true) => (extUuidStrLength, { apiReq with uuid := uuid })
        | (uuid, false) => (0, { apiReq with uuid := uuid })

/-- The offsets at which the loop called `_extParseApiResource`, with what it returned, and the
request. -/
structure Parsed where
  steps : List (Nat × Nat) := []
  apiReq : ExtNmosApiReq := {}
  deriving DecidableEq, Repr

/-- The loop of `extHttpNmosParseApiRequest`; `none` when the fuel runs out. -/
def parseResources (uri : Bytes) (urlLen : Nat) :
    (fuel : Nat) → ExtNmosApiReq → (version : Nat) → Option Parsed
  | 0, _, _ => none
  | fuel + 1, apiReq, version =>
      let (ret, apiReq) := extParseApiResource apiReq (uri.drop version)
      if version + ret < urlLen then
        (parseResources uri urlLen fuel apiReq (version + ret)).map fun parsed =>
          { parsed with steps := (version, ret) :: parsed.steps }
      else some { steps := [(version, ret)], apiReq := apiReq }

/-- `NMOS_API_TYPE`, the two that are parsed. -/
inductive NmosApiType where
  | node
  | connection
  deriving DecidableEq, Repr

/-- `NMOS_API_URI_NODE` and `NMOS_API_URI_CONNECTION`. -/
def NmosApiType.uri : NmosApiType → Bytes
  | .node => str "/x-nmos/node"
  | .connection => str "/x-nmos/connection"

/-- The flag of the API version. -/
def apiVersion (version : Bytes) : Option UInt8 :=
  if (lwipStrnstr version (str "v1.0") 4).isSome then some 1
  else if (lwipStrnstr version (str "v1.1") 4).isSome then some 2
  else if (lwipStrnstr version (str "v1.2") 4).isSome then some 4
  else none

/-- The offset of the first resource. -/
def firstResource (type : NmosApiType) : Nat := type.uri.length + 1 + (str "v1.2").length + 1

/-- `urlLen`. -/
def urlLen (uri : Bytes) : Nat := u16 (cstr uri).length

/-- The URI asks for the root of the API. -/
def isRootUri (uri : Bytes) (type : NmosApiType) : Bool :=
  urlLen uri + 1 = firstResource type || urlLen uri = firstResource type

/-- `extHttpNmosParseApiRequest`: whether it succeeds, and what it parsed. -/
def extHttpNmosParseApiRequest (fuel : Nat) (uri : Bytes) (type : NmosApiType) :
    Option (Bool × Parsed) :=
  match apiVersion (uri.drop (type.uri.length + 1)) with
  | none => some (false, {})
  | some flag =>
      let apiReq : ExtNmosApiReq := { versionFlags := flag }
      if isRootUri uri type then some (true, { apiReq := apiReq })
      else
        (parseResources uri (urlLen uri) fuel apiReq (firstResource type)).map fun parsed =>
          (true, parsed)

/-! ### Components of a path -/

/-- The path component at an offset of the URI. -/
def component (uri : Bytes) (pos : Nat) : Bytes := ((cstr uri).drop pos).takeWhile (· ≠ 47)

/-- A separator ends the component at an offset. -/
def isSeparated (uri : Bytes) (pos : Nat) : Prop := pos + (component uri pos).length < (cstr uri).length

instance (uri : Bytes) (pos : Nat) : Decidable (isSeparated uri pos) :=
  inferInstanceAs (Decidable (_ < _))

/-- The length of a component with its separator. -/
def componentLength (uri : Bytes) (pos : Nat) : Nat :=
  if isSeparated uri pos then (component uri pos).length + 1 else (component uri pos).length

/-- A step consumes a component and its separator. -/
def Consumes (uri : Bytes) (step : Nat × Nat) : Prop :=
  0 < step.2 ∧ step.2 = componentLength uri step.1

instance (uri : Bytes) : DecidablePred (Consumes uri) := fun _ => inferInstanceAs (Decidable (_ ∧ _))

/-- The parser stops, and its loop consumes a component at every step. -/
def ParsesComponents (uri : Bytes) (type : NmosApiType) : Prop :=
  ∃ fuel result, extHttpNmosParseApiRequest fuel uri type = some result ∧
    ∀ step ∈ result.2.steps, Consumes uri step

/-- Components of the length of a UUID, and the dashes of one, go together: a component in the
middle with the dashes is that long, and a last component of that length has them. -/
def FitsUuid (uri : Bytes) (pos : Nat) : Prop :=
  if isSeparated uri pos then
    hasDashes (uri.drop pos) = true → (component uri pos).length = extUuidStrLength
  else (component uri pos).length = extUuidStrLength → hasDashes (uri.drop pos) = true

instance (uri : Bytes) (pos : Nat) : Decidable (FitsUuid uri pos) :=
  inferInstanceAs (Decidable (if isSeparated uri pos then _ → _ else _ → _))

/-- A component begins at an offset of the path from `start` on. -/
def BeginsComponent (uri : Bytes) (start pos : Nat) : Prop :=
  pos < (cstr uri).length ∧ (pos = start ∨ start < pos ∧ (cstr uri)[pos - 1]? = some 47)

/-- The parser finds the version and no root. -/
def ParsesResources (uri : Bytes) (type : NmosApiType) : Prop :=
  (apiVersion (uri.drop (type.uri.length + 1))).isSome = true ∧ isRootUri uri type = false

instance (uri : Bytes) (type : NmosApiType) : Decidable (ParsesResources uri type) :=
  inferInstanceAs (Decidable (_ ∧ _))

/-- The URI has resources, if it is parsed for them, and their UUIDs are well formed. -/
def WellFormedUuids (uri : Bytes) (type : NmosApiType) : Prop :=
  ParsesResources uri type → firstResource type < (cstr uri).length ∧
    ∀ pos, BeginsComponent uri (firstResource type) pos → FitsUuid uri pos

/-! ### One step -/

/-- `strstr` finds the separator that ends the first component. -/
theorem strstr_slash (text : Bytes) :
    strstr text (str "/") =
      if ((cstr text).takeWhile (· ≠ 47)).length < (cstr text).length then
        some ((cstr text).takeWhile (· ≠ 47)).length
      else none := by
  have slash : str "/" = [47] := by decide
  rw [strstr, slash, if_neg (by simp)]
  induction text with
  | nil => rfl
  | cons b text ih =>
      rw [Lib.findBefore_cons]
      by_cases nul : b = 0
      · rw [if_pos nul]
        simp [cstr, nul]
      · rw [if_neg nul]
        have kept : cstr (b :: text) = b :: cstr text := by simp [cstr, nul]
        rw [kept]
        by_cases sep : b = 47
        · rw [if_pos (by simp [sep])]
          simp [sep]
        · rw [if_neg (by simpa using Ne.symm sep), ih, List.takeWhile_cons_of_pos (by simpa using sep)]
          simp only [List.length_cons, Nat.add_lt_add_iff_right]
          split <;> rfl

variable {uri : Bytes} {pos start : Nat}

theorem component_length_le (inside : pos ≤ (cstr uri).length) :
    pos + (component uri pos).length ≤ (cstr uri).length := by
  have le := (List.takeWhile_prefix (l := (cstr uri).drop pos) (· ≠ (47 : UInt8))).length_le
  rw [List.length_drop] at le
  unfold component
  omega

/-- What a step returns within the string. -/
theorem extParseApiResource_fst (apiReq : ExtNmosApiReq) (fits : (cstr uri).length < 128)
    (inside : pos < (cstr uri).length) :
    (extParseApiResource apiReq (uri.drop pos)).1 =
      if isSeparated uri pos then
        if hasDashes (uri.drop pos) then extUuidStrLength + 1 else (component uri pos).length + 1
      else if (component uri pos).length ≠ extUuidStrLength then (component uri pos).length
      else if hasDashes (uri.drop pos) then extUuidStrLength else 0 := by
  have text := cstr_drop inside.le
  have whole : ((cstr uri).drop pos).length = (cstr uri).length - pos := List.length_drop
  have le := component_length_le inside.le
  unfold extParseApiResource
  rw [strstr_slash, text, whole]
  change (match (if (component uri pos).length < _ then some (component uri pos).length else none)
    with | some next => _ | none => _ : Nat × ExtNmosApiReq).1 = _
  by_cases separated : isSeparated uri pos
  · have lt : pos + (component uri pos).length < (cstr uri).length := separated
    rw [if_pos (show (component uri pos).length < (cstr uri).length - pos by omega),
      if_pos separated]
    unfold extUuidParse
    by_cases dashes : hasDashes (uri.drop pos) = true
    · rw [if_pos dashes, if_pos dashes]
    · rw [if_neg dashes, if_neg dashes]
      exact Nat.mod_eq_of_lt (by omega)
  · have all : (component uri pos).length = (cstr uri).length - pos := by
      unfold isSeparated at separated
      omega
    rw [if_neg (by omega), if_neg separated, all]
    dsimp only
    by_cases uuid : (cstr uri).length - pos = extUuidStrLength
    · rw [if_neg (not_not.mpr uuid), if_neg (not_not.mpr uuid)]
      unfold extUuidParse
      by_cases dashes : hasDashes (uri.drop pos) = true
      · rw [if_pos dashes, if_pos dashes]
      · rw [if_neg dashes, if_neg dashes]
    · rw [if_pos uuid, if_pos uuid]
      exact Nat.mod_eq_of_lt (by omega)

/-- A step consumes its component exactly when the component fits its dashes. -/
theorem consumes_iff (apiReq : ExtNmosApiReq) (fits : (cstr uri).length < 128)
    (inside : pos < (cstr uri).length) :
    Consumes uri (pos, (extParseApiResource apiReq (uri.drop pos)).1) ↔ FitsUuid uri pos := by
  unfold Consumes FitsUuid componentLength
  dsimp only
  rw [extParseApiResource_fst apiReq fits inside]
  have le := component_length_le inside.le
  by_cases separated : isSeparated uri pos
  · rw [if_pos separated, if_pos separated, if_pos separated]
    by_cases dashes : hasDashes (uri.drop pos) = true
    · rw [if_pos dashes]
      constructor
      · intro consumed _
        exact (Nat.succ_injective consumed.2).symm
      · intro uuid
        rw [uuid dashes]
        exact ⟨Nat.succ_pos _, rfl⟩
    · rw [if_neg dashes]
      exact iff_of_true ⟨Nat.succ_pos _, rfl⟩ fun held => absurd held dashes
  · rw [if_neg separated, if_neg separated, if_neg separated]
    have positive : 0 < (component uri pos).length := by
      unfold isSeparated at separated
      omega
    by_cases uuid : (component uri pos).length = extUuidStrLength
    · rw [if_neg (not_not.mpr uuid)]
      by_cases dashes : hasDashes (uri.drop pos) = true
      · rw [if_pos dashes, uuid]
        exact iff_of_true ⟨Nat.succ_pos _, rfl⟩ fun _ => dashes
      · rw [if_neg dashes]
        exact iff_of_false (fun consumed => absurd consumed.1 (Nat.lt_irrefl 0))
          fun held => dashes (held uuid)
    · rw [if_pos uuid]
      exact iff_of_true ⟨positive, rfl⟩ fun held => absurd held uuid

/-! ### The loop -/

/-- A scan stops at what it does not accept. -/
theorem getElem?_takeWhile_length (accepts : UInt8 → Bool) {text : Bytes}
    (stopped : (text.takeWhile accepts).length < text.length) :
    ∃ b, text[(text.takeWhile accepts).length]? = some b ∧ accepts b = false := by
  induction text with
  | nil => simp at stopped
  | cons b text ih =>
      by_cases accepted : accepts b = true
      · rw [List.takeWhile_cons_of_pos accepted] at stopped ⊢
        simpa using ih (by simpa using stopped)
      · rw [List.takeWhile_cons_of_neg accepted]
        exact ⟨b, rfl, by simpa using accepted⟩

theorem separator_of_isSeparated (separated : isSeparated uri pos) :
    (cstr uri)[pos + (component uri pos).length]? = some 47 := by
  unfold isSeparated component at *
  have inside : (((cstr uri).drop pos).takeWhile fun b => decide (b ≠ 47)).length <
      ((cstr uri).drop pos).length := by
    rw [List.length_drop]
    omega
  obtain ⟨b, found, stop⟩ := getElem?_takeWhile_length _ inside
  rw [List.getElem?_drop] at found
  rw [found]
  simpa using stop

/-- There is no separator before the end of a component. -/
theorem component_le_separator {i : Nat} (found : (cstr uri)[i]? = some 47) (low : pos ≤ i) :
    pos + (component uri pos).length ≤ i := by
  by_contra high
  have inside : i - pos < (component uri pos).length := by omega
  have accepted : (47 : UInt8) ∈ component uri pos := by
    have held : (component uri pos)[i - pos]? = (cstr uri)[i]? := by
      unfold component at inside ⊢
      rw [List.getElem?_eq_getElem inside, List.IsPrefix.getElem (List.takeWhile_prefix _) inside,
        ← List.getElem?_eq_getElem, List.getElem?_drop, Nat.add_sub_cancel' low]
    exact List.mem_of_getElem? (held.trans found)
  simpa using List.mem_takeWhile_imp accepted

/-- The components after the first begin where that and its separator end. -/
theorem beginsComponent_iff (inside : pos < (cstr uri).length) (next : Nat) :
    BeginsComponent uri pos next ↔ next = pos ∨
      BeginsComponent uri (pos + componentLength uri pos) next := by
  have le := component_length_le inside.le
  unfold BeginsComponent componentLength
  by_cases separated : isSeparated uri pos
  · rw [if_pos separated]
    have lt : pos + (component uri pos).length < (cstr uri).length := separated
    constructor
    · rintro ⟨inside', rfl | ⟨after, found⟩⟩
      · exact .inl rfl
      · have far : pos + (component uri pos).length ≤ next - 1 :=
          component_le_separator found (by omega)
        rcases Nat.eq_or_lt_of_le (show pos + ((component uri pos).length + 1) ≤ next by omega)
          with same | later
        · exact .inr ⟨inside', .inl same.symm⟩
        · exact .inr ⟨inside', .inr ⟨later, found⟩⟩
    · rintro (rfl | ⟨inside', rfl | ⟨after, found⟩⟩)
      · exact ⟨inside, .inl rfl⟩
      · refine ⟨inside', .inr ⟨by omega, ?_⟩⟩
        rw [show pos + ((component uri pos).length + 1) - 1 =
          pos + (component uri pos).length by omega]
        exact separator_of_isSeparated separated
      · exact ⟨inside', .inr ⟨by omega, found⟩⟩
  · rw [if_neg separated]
    have last : pos + (component uri pos).length = (cstr uri).length := by
      unfold isSeparated at separated
      omega
    constructor
    · rintro ⟨inside', rfl | ⟨after, found⟩⟩
      · exact .inl rfl
      · have far : pos + (component uri pos).length ≤ next - 1 :=
          component_le_separator found (by omega)
        omega
    · rintro (rfl | ⟨inside', rfl | ⟨after, found⟩⟩)
      · exact ⟨inside, .inl rfl⟩
      · omega
      · omega

/-- From a component on, the loop stops and consumes a component at every step exactly when all
components fit their dashes. -/
theorem consumes_all_iff (apiReq : ExtNmosApiReq) (fits : (cstr uri).length < 128)
    (inside : pos < (cstr uri).length) :
    (∃ fuel parsed, parseResources uri (cstr uri).length fuel apiReq pos = some parsed ∧
        ∀ step ∈ parsed.steps, Consumes uri step) ↔
      ∀ next, BeginsComponent uri pos next → FitsUuid uri next := by
  induction left : (cstr uri).length - pos using Nat.strongRecOn generalizing pos apiReq with
  | ind left ih =>
      have consumed := consumes_iff apiReq fits inside
      generalize step : extParseApiResource apiReq (uri.drop pos) = result at consumed
      obtain ⟨ret, apiReq'⟩ := result
      have here : BeginsComponent uri pos pos := ⟨inside, .inl rfl⟩
      have round (fuel : Nat) : parseResources uri (cstr uri).length (fuel + 1) apiReq pos =
          if pos + ret < (cstr uri).length then
            (parseResources uri (cstr uri).length fuel apiReq' (pos + ret)).map fun parsed =>
              { parsed with steps := (pos, ret) :: parsed.steps }
          else some { steps := [(pos, ret)], apiReq := apiReq' } := by
        rw [parseResources, step]
      -- What is left to show once the first step consumed its component.
      have rest (first : Consumes uri (pos, ret)) (more : pos + ret < (cstr uri).length) :
          (∃ fuel parsed, parseResources uri (cstr uri).length fuel apiReq' (pos + ret) =
            some parsed ∧ ∀ step ∈ parsed.steps, Consumes uri step) ↔
          ∀ next, BeginsComponent uri (pos + componentLength uri pos) next →
            FitsUuid uri next := by
        have positive : 0 < ret := first.1
        have length : ret = componentLength uri pos := first.2
        rw [← length]
        exact ih ((cstr uri).length - (pos + ret)) (by omega) apiReq' more rfl
      constructor
      · rintro ⟨fuel, parsed, ran, consumes⟩ next begins
        cases fuel with
        | zero => cases ran
        | succ fuel =>
            rw [round] at ran
            split at ran
            · next more =>
                obtain ⟨parsed', ran', rfl⟩ := Option.map_eq_some_iff.mp ran
                have first := consumes _ List.mem_cons_self
                rcases (beginsComponent_iff inside next).mp begins with rfl | later
                · exact consumed.mp first
                · exact (rest first more).mp ⟨fuel, parsed', ran',
                    fun step mem => consumes step (List.mem_cons_of_mem _ mem)⟩ next later
            · next done =>
                cases ran
                have first := consumes _ List.mem_cons_self
                have length : ret = componentLength uri pos := first.2
                rcases (beginsComponent_iff inside next).mp begins with rfl | later
                · exact consumed.mp first
                · obtain ⟨inside', same | ⟨after, -⟩⟩ := later
                  · omega
                  · omega
      · intro fit
        have first : Consumes uri (pos, ret) := consumed.mpr (fit pos here)
        by_cases more : pos + ret < (cstr uri).length
        · obtain ⟨fuel, parsed, ran, consumes⟩ := (rest first more).mpr fun next later =>
            fit next ((beginsComponent_iff inside next).mpr (.inr later))
          refine ⟨fuel + 1, { parsed with steps := (pos, ret) :: parsed.steps }, ?_, ?_⟩
          · rw [round, if_pos more, ran]
            rfl
          · intro step mem
            rcases List.mem_cons.mp mem with rfl | earlier
            · exact first
            · exact consumes step earlier
        · refine ⟨1, { steps := [(pos, ret)], apiReq := apiReq' }, ?_, ?_⟩
          · rw [round, if_neg more]
          · intro step mem
            rw [List.mem_singleton.mp mem]
            exact first

/-- The loop runs at least once. -/
theorem first_step {urlLen fuel : Nat} {apiReq : ExtNmosApiReq} {parsed : Parsed}
    (ran : parseResources uri urlLen fuel apiReq pos = some parsed) :
    ∃ ret, (pos, ret) ∈ parsed.steps := by
  cases fuel with
  | zero => cases ran
  | succ fuel =>
      rw [parseResources] at ran
      dsimp only at ran
      split at ran
      · obtain ⟨parsed', -, rfl⟩ := Option.map_eq_some_iff.mp ran
        exact ⟨_, List.mem_cons_self⟩
      · cases ran
        exact ⟨_, List.mem_cons_self⟩

/-- Behind the string there is nothing to consume. -/
theorem inside_of_consumes {ret : Nat} (consumes : Consumes uri (pos, ret)) :
    pos < (cstr uri).length := by
  obtain ⟨positive, length⟩ := consumes
  by_contra outside
  have nothing : component uri pos = [] := by
    rw [component, List.drop_of_length_le (by omega)]
    rfl
  have last : ¬ isSeparated uri pos := by
    rw [isSeparated, nothing]
    exact outside
  dsimp only at positive length
  rw [componentLength, if_neg last, nothing] at length
  exact absurd positive (by simp [length])

theorem urlLen_eq (fits : (cstr uri).length < Http.uriBufSize) :
    urlLen uri = (cstr uri).length := by
  have short : (cstr uri).length < 128 := fits
  exact Nat.mod_eq_of_lt (by omega)

/-- A URI that is parsed for resources. -/
theorem parsesComponents_iff_of_resources {type : NmosApiType}
    (fits : (cstr uri).length < Http.uriBufSize) (resources : ParsesResources uri type) :
    ParsesComponents uri type ↔ firstResource type < (cstr uri).length ∧
      ∀ pos, BeginsComponent uri (firstResource type) pos → FitsUuid uri pos := by
  obtain ⟨version, notRoot⟩ := resources
  obtain ⟨flag, version⟩ := Option.isSome_iff_exists.mp version
  have parses (fuel : Nat) (result : Bool × Parsed) :
      extHttpNmosParseApiRequest fuel uri type = some result ↔
        ∃ parsed, parseResources uri (cstr uri).length fuel { versionFlags := flag }
          (firstResource type) = some parsed ∧ (true, parsed) = result := by
    unfold extHttpNmosParseApiRequest
    rw [version, notRoot, urlLen_eq fits]
    exact Option.map_eq_some_iff
  constructor
  · rintro ⟨fuel, result, ran, consumes⟩
    obtain ⟨parsed, looped, rfl⟩ := (parses fuel result).mp ran
    obtain ⟨ret, mem⟩ := first_step looped
    have inside := inside_of_consumes (consumes _ mem)
    exact ⟨inside, (consumes_all_iff _ fits inside).mp ⟨fuel, parsed, looped, consumes⟩⟩
  · rintro ⟨inside, fit⟩
    obtain ⟨fuel, parsed, ran, consumes⟩ :=
      (consumes_all_iff { versionFlags := flag } fits inside).mpr fit
    exact ⟨fuel, (true, parsed), (parses fuel _).mpr ⟨parsed, ran, rfl⟩, consumes⟩

/-- The parser stops after consuming one component at every step exactly when the UUIDs of the URI
are well formed. -/
theorem parses_components_iff (uri : Bytes) (type : NmosApiType)
    (fits : (cstr uri).length < Http.uriBufSize) :
    ParsesComponents uri type ↔ WellFormedUuids uri type := by
  by_cases resources : ParsesResources uri type
  · rw [parsesComponents_iff_of_resources fits resources]
    exact ⟨fun parses _ => parses, fun parses => parses resources⟩
  · refine iff_of_true ?_ fun held => absurd held resources
    unfold ParsesComponents extHttpNmosParseApiRequest
    cases version : apiVersion (uri.drop (type.uri.length + 1)) with
    | none => exact ⟨0, (false, {}), rfl, nofun⟩
    | some flag =>
        have root : isRootUri uri type = true := by
          by_contra other
          exact resources ⟨by rw [version]; rfl, by simpa using other⟩
        dsimp only
        refine ⟨0, (true, _), if_pos root, nofun⟩

/-- The request for the senders of a node. -/
theorem parses_components_iff_senders :
    (cstr (str "/x-nmos/node/v1.0/senders/")).length < Http.uriBufSize ∧
      (ParsesComponents (str "/x-nmos/node/v1.0/senders/") .node ↔
        WellFormedUuids (str "/x-nmos/node/v1.0/senders/") .node) := by
  have fits : (cstr (str "/x-nmos/node/v1.0/senders/")).length < Http.uriBufSize := by
    decide +kernel
  exact ⟨fits, parses_components_iff _ .node fits⟩

/-- On a last component of 36 characters that is no UUID the loop stands still. -/
theorem not_parses_components : ¬ ∀ (uri : Bytes) (type : NmosApiType),
    (cstr uri).length < Http.uriBufSize → ParsesComponents uri type := by
  intro parses
  have stuck := (parsesComponents_iff_of_resources (by decide +kernel) (by decide +kernel)).mp
    (parses (str "/x-nmos/node/v1.0/abcdefghijklmnopqrstuvwxyzabcdefghij") .node
      (by decide +kernel))
  have fit := stuck.2 (firstResource .node) ⟨stuck.1, .inl rfl⟩
  revert fit
  decide +kernel

end LwipExt.Nmos
