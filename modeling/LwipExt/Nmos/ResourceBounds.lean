import LwipExt.Nmos.ApiRequest

/-!
What the parser of the resources in a URI reads and stores (`nnmos/extNmosHttp.c`).

`visits` runs the loop of `extHttpNmosParseApiRequest` with a log of the bytes that each round
reads, and the request that it leaves. The rounds begin at `places`, which only depend on the
text. `parsesInside_iff` says for which URIs nothing outside the string is read, and `resources`
has room for what is stored.
-/

namespace LwipExt.Nmos

/-- `NMOS_URI_RESOURCE_MAX`. -/
def nmosUriResourceMax : Nat := 4

/-! ### What is read -/

/-- The bytes that `extSysAtoInt8` reads. -/
def atoInt8Reads (text : Bytes) : List Nat :=
  if (text.head?.bind hexDigit).isSome then [0, 1] else [0]

/-- The bytes that it reads for the digits at some offsets. -/
def digitReads (text : Bytes) (offsets : List Nat) : List Nat :=
  offsets.flatMap fun i => (atoInt8Reads (text.drop i)).map (i + ·)

/-- A dash is read, and what follows it if it is one. -/
def behindDash (text : Bytes) (i : Nat) (reads : List Nat) : List Nat :=
  i :: if text.getD i 0 = 45 then reads else []

/-- The bytes that `extUuidParse` reads. -/
def uuidReads (text : Bytes) : List Nat :=
  digitReads text [0, 2, 4, 6] ++
    behindDash text 8 (digitReads text [9, 11] ++
      behindDash text 13 (digitReads text [14, 16] ++
        behindDash text 18 (digitReads text [19, 21] ++
          behindDash text 23 (digitReads text [24, 26, 28, 30, 32, 34]))))

/-- The bytes that `_extParseApiResource` reads: `strstr` and `strlen` read to the separator or
the NUL, and `memcpy` what it copies. -/
def resourceReads (text : Bytes) : List Nat :=
  match strstr text (str "/") with
  | some next =>
      List.range (next + 1) ++ uuidReads text ++ List.range (min next nmosUriResourceLength)
  | none =>
      let length := (cstr text).length
      List.range (length + 1) ++
        if length ≠ extUuidStrLength then List.range (min length nmosUriResourceLength)
        else uuidReads text

/-- The bytes that `lwip_strnstr` reads to compare a token with the text that it is as long as. -/
def tokenReads (text token : Bytes) : List Nat :=
  List.range (min token.length
    (((List.zip text token).takeWhile fun pair => pair.1 = pair.2 ∧ pair.1 ≠ 0).length + 1))

/-- The bytes that the test of the API version reads, from the version on. -/
def versionReads (text : Bytes) : List Nat :=
  [str "v1.0", str "v1.1", str "v1.2"].flatMap (tokenReads text)

/-! ### The rounds -/

/-- A round of the loop: the bytes of the URI that it reads, and the request behind it. -/
structure Visit where
  reads : List Nat
  apiReq : ExtNmosApiReq

/-- The first rounds of the loop of `extHttpNmosParseApiRequest`. -/
def visits (uri : Bytes) (urlLen : Nat) : (rounds : Nat) → ExtNmosApiReq → (version : Nat) →
    List Visit
  | 0, _, _ => []
  | rounds + 1, apiReq, version =>
      let (ret, apiReq) := extParseApiResource apiReq (uri.drop version)
      { reads := (resourceReads (uri.drop version)).map (version + ·), apiReq } ::
        if version + ret < urlLen then visits uri urlLen rounds apiReq (version + ret) else []

/-- A round reads the string only, and `resources` holds what is stored, each with a NUL. -/
structure Visit.Inside (uri : Bytes) (v : Visit) : Prop where
  reads : ∀ i ∈ v.reads, i ≤ (cstr uri).length
  count : v.apiReq.resources.length ≤ nmosUriResourceMax
  ended : ∀ r ∈ v.apiReq.resources, r.length < nmosUriResourceLength

/-- The parser reads the string only, and stores what `resources` has room for. -/
def ParsesInside (uri : Bytes) (type : NmosApiType) : Prop :=
  (∀ i ∈ versionReads (uri.drop (type.uri.length + 1)),
      type.uri.length + 1 + i ≤ (cstr uri).length) ∧
    ∀ flag, apiVersion (uri.drop (type.uri.length + 1)) = some flag → isRootUri uri type = false →
      ∀ rounds, ∀ v ∈ visits uri (urlLen uri) rounds { versionFlags := flag } (firstResource type),
        v.Inside uri

/-! ### Where the rounds begin -/

/-- Where the next round begins: behind a UUID, or behind the separator. -/
def nextPlace (uri : Bytes) (pos : Nat) : Nat :=
  if hasDashes (uri.drop pos) then pos + extUuidStrLength + 1
  else pos + (component uri pos).length + 1

/-- The offsets at which rounds begin, while separators follow. -/
def places (uri : Bytes) : (bound : Nat) → (pos : Nat) → List Nat
  | 0, _ => []
  | bound + 1, pos =>
      pos :: if isSeparated uri pos ∧ nextPlace uri pos < (cstr uri).length then
        places uri bound (nextPlace uri pos) else []

/-- The text at an offset is stored as a resource. -/
def isStored (uri : Bytes) (pos : Nat) : Bool :=
  if isSeparated uri pos then !hasDashes (uri.drop pos)
  else (component uri pos).length ≠ extUuidStrLength

/-- The bytes where a UUID has its dashes are in the string, as far as the dashes before are
there, and behind the last one are the last digits. -/
def DashesInside (uri : Bytes) (pos : Nat) : Prop :=
  let text := uri.drop pos
  let length := (cstr uri).length
  pos + 8 ≤ length ∧ (text.getD 8 0 = 45 → pos + 13 ≤ length ∧
    (text.getD 13 0 = 45 → pos + 18 ≤ length ∧ (text.getD 18 0 = 45 → pos + 23 ≤ length ∧
      (text.getD 23 0 = 45 → pos + 34 ≤ length))))

/-- At a place of a URI, the text is as the parser needs it. -/
def PlaceInside (uri : Bytes) (pos : Nat) : Prop :=
  (isSeparated uri pos → DashesInside uri pos) ∧
    (isStored uri pos → (component uri pos).length < nmosUriResourceLength)

/-- The URI goes on behind the prefix, and if it is parsed for resources, then all places are as
the parser needs them, and at most four of them have resources. -/
def PlacesInside (uri : Bytes) (type : NmosApiType) : Prop :=
  (cstr uri).length ≠ type.uri.length ∧
    (ParsesResources uri type →
      let found := places uri (cstr uri).length (firstResource type)
      (∀ pos ∈ found, PlaceInside uri pos) ∧
        (found.filter (isStored uri)).length ≤ nmosUriResourceMax)

/-! ### Reads inside the string -/

section Reads

variable {uri : Bytes} {pos : Nat}

/-- Behind a byte of the string that is not its NUL, there is another one. -/
theorem succ_le_of_nonzero (inside : pos ≤ (cstr uri).length) (nonzero : uri.getD pos 0 ≠ 0) :
    pos + 1 ≤ (cstr uri).length := by
  rcases Nat.eq_or_lt_of_le inside with same | lt
  · rw [same, getD_length_cstr] at nonzero
    exact absurd rfl nonzero
  · exact lt

theorem isSome_hexDigit_ne_zero {b : UInt8} (digit : (hexDigit b).isSome) : b ≠ 0 := by
  rintro rfl
  revert digit
  decide

theorem digitReads_inside {offsets : List Nat} :
    (∀ i ∈ digitReads (uri.drop pos) offsets, pos + i ≤ (cstr uri).length) ↔
      ∀ i ∈ offsets, pos + i ≤ (cstr uri).length := by
  unfold digitReads atoInt8Reads
  constructor
  · intro inside i mem
    refine inside i (List.mem_flatMap.mpr ⟨i, mem, ?_⟩)
    split_ifs
    · simp
    · simp
  · intro inside j mem
    obtain ⟨i, mem, read⟩ := List.mem_flatMap.mp mem
    have here := inside i mem
    split_ifs at read with digit
    · simp only [List.map_cons, List.map_nil, List.mem_cons, List.not_mem_nil, or_false,
        Nat.add_zero] at read
      rcases read with rfl | rfl
      · exact here
      · rw [← Nat.add_assoc]
        refine succ_le_of_nonzero here ?_
        rw [List.drop_drop, List.head?_drop] at digit
        obtain ⟨d, found⟩ := Option.isSome_iff_exists.mp digit
        obtain ⟨b, at_, value⟩ := Option.bind_eq_some_iff.mp found
        rw [List.getD_eq_getElem?_getD, at_, Option.getD_some]
        exact isSome_hexDigit_ne_zero (by rw [value]; rfl)
    · simp only [List.map_cons, List.map_nil, List.mem_singleton, Nat.add_zero] at read
      rw [read]
      exact here

theorem behindDash_inside {text : Bytes} {i : Nat} {reads : List Nat} :
    (∀ j ∈ behindDash text i reads, pos + j ≤ (cstr uri).length) ↔
      pos + i ≤ (cstr uri).length ∧
        (text.getD i 0 = 45 → ∀ j ∈ reads, pos + j ≤ (cstr uri).length) := by
  unfold behindDash
  rw [List.forall_mem_cons]
  refine and_congr_right fun _ => ?_
  by_cases dash : text.getD i 0 = 45
  · rw [if_pos dash]
    exact ⟨fun inside _ => inside, fun inside => inside dash⟩
  · rw [if_neg dash]
    exact ⟨fun _ absurd_ => absurd absurd_ dash, fun _ j mem => by cases mem⟩

theorem uuidReads_inside :
    (∀ i ∈ uuidReads (uri.drop pos), pos + i ≤ (cstr uri).length) ↔ DashesInside uri pos := by
  unfold uuidReads DashesInside
  simp only [List.forall_mem_append, digitReads_inside, behindDash_inside, List.forall_mem_cons,
    List.not_mem_nil, false_implies, implies_true, and_true]
  constructor
  · rintro ⟨-, at8, from8⟩
    refine ⟨at8, fun dash8 => ?_⟩
    obtain ⟨-, at13, from13⟩ := from8 dash8
    refine ⟨at13, fun dash13 => ?_⟩
    obtain ⟨-, at18, from18⟩ := from13 dash13
    refine ⟨at18, fun dash18 => ?_⟩
    obtain ⟨-, at23, from23⟩ := from18 dash18
    exact ⟨at23, fun dash23 => (from23 dash23).2.2.2.2.2⟩
  · rintro ⟨at8, from8⟩
    refine ⟨by omega, at8, fun dash8 => ?_⟩
    obtain ⟨at13, from13⟩ := from8 dash8
    refine ⟨by omega, at13, fun dash13 => ?_⟩
    obtain ⟨at18, from18⟩ := from13 dash13
    refine ⟨by omega, at18, fun dash18 => ?_⟩
    obtain ⟨at23, from23⟩ := from18 dash18
    refine ⟨by omega, at23, fun dash23 => ?_⟩
    have last := from23 dash23
    omega

theorem strstr_slash_drop (inside : pos ≤ (cstr uri).length) :
    strstr (uri.drop pos) (str "/") =
      if isSeparated uri pos then some (component uri pos).length else none := by
  rw [strstr_slash, cstr_drop inside]
  have le := component_length_le inside
  have same : (component uri pos).length < ((cstr uri).drop pos).length ↔ isSeparated uri pos := by
    rw [List.length_drop]
    unfold isSeparated
    omega
  exact if_congr same rfl rfl

/-- A round reads the string only, when it does so behind a separator. -/
theorem resourceReads_inside (inside : pos < (cstr uri).length) :
    (∀ i ∈ resourceReads (uri.drop pos), pos + i ≤ (cstr uri).length) ↔
      (isSeparated uri pos → DashesInside uri pos) := by
  have scan {n : Nat} (le : pos + n ≤ (cstr uri).length + 1) :
      ∀ i ∈ List.range n, pos + i ≤ (cstr uri).length := by
    intro i mem
    have lt := List.mem_range.mp mem
    omega
  have le := component_length_le inside.le
  unfold resourceReads
  rw [strstr_slash_drop inside.le]
  by_cases separated : isSeparated uri pos
  · rw [if_pos separated, imp_iff_right separated, ← uuidReads_inside]
    simp only [List.forall_mem_append]
    refine ⟨fun reads => reads.1.2, fun reads => ⟨⟨scan ?_, reads⟩, scan ?_⟩⟩
    · unfold isSeparated at separated
      omega
    · omega
  · rw [if_neg separated, cstr_drop inside.le, List.length_drop]
    dsimp only
    refine iff_of_true ?_ fun absurd_ => absurd absurd_ separated
    rw [List.forall_mem_append]
    refine ⟨scan (by omega), ?_⟩
    split_ifs with length
    · exact scan (by omega)
    · refine uuidReads_inside.mpr ?_
      have whole : (cstr uri).length - pos = 36 := not_not.mp length
      unfold DashesInside
      dsimp only
      omega

theorem take_component (inside : pos ≤ (cstr uri).length) (n : Nat) :
    (uri.drop pos).take (min (component uri pos).length n) = (component uri pos).take n := by
  have whole : component uri pos <+: uri.drop pos := by
    refine (List.takeWhile_prefix _).trans ?_
    rw [← cstr_drop inside]
    exact List.takeWhile_prefix _
  rw [Nat.min_comm, ← List.take_take, ← List.prefix_iff_eq_take.mp whole]

/-- What a round stores. -/
theorem extParseApiResource_snd (apiReq : ExtNmosApiReq) (inside : pos < (cstr uri).length) :
    (extParseApiResource apiReq (uri.drop pos)).2.resources =
      if isStored uri pos then
        apiReq.resources ++ [(component uri pos).take nmosUriResourceLength]
      else apiReq.resources := by
  unfold extParseApiResource isStored
  rw [strstr_slash_drop inside.le]
  by_cases separated : isSeparated uri pos
  · rw [if_pos separated, if_pos separated]
    unfold extUuidParse
    by_cases dashes : hasDashes (uri.drop pos) = true
    · rw [if_pos dashes, dashes]
      rfl
    · rw [if_neg dashes, Bool.eq_false_iff.mpr dashes]
      dsimp only [ExtNmosApiReq.addResource]
      rw [take_component inside.le]
      rfl
  · have le := component_length_le inside.le
    have all : (cstr (uri.drop pos)).length = (component uri pos).length := by
      rw [cstr_drop inside.le, List.length_drop]
      unfold isSeparated at separated
      omega
    rw [if_neg separated, if_neg separated, all]
    dsimp only
    by_cases uuid : (component uri pos).length = extUuidStrLength
    · rw [if_neg (not_not.mpr uuid), decide_eq_false (not_not.mpr uuid)]
      unfold extUuidParse
      by_cases dashes : hasDashes (uri.drop pos) = true
      · rw [if_pos dashes]
        rfl
      · rw [if_neg dashes]
        rfl
    · rw [if_pos uuid, decide_eq_true uuid]
      dsimp only [ExtNmosApiReq.addResource]
      rw [take_component inside.le]
      rfl

/-- Where the next round begins. -/
theorem extParseApiResource_next (apiReq : ExtNmosApiReq) (fits : (cstr uri).length < 128)
    (inside : pos < (cstr uri).length) :
    let next := pos + (extParseApiResource apiReq (uri.drop pos)).1
    (isSeparated uri pos → next = nextPlace uri pos) ∧
      (¬ isSeparated uri pos →
        (cstr uri).length ≤ next ∨ next = pos ∧ isStored uri pos = false) := by
  intro next
  have ret := extParseApiResource_fst apiReq fits inside
  have le := component_length_le inside.le
  refine ⟨fun separated => ?_, fun last => ?_⟩
  · rw [if_pos separated] at ret
    unfold nextPlace
    split_ifs with dashes
    · rw [if_pos dashes] at ret
      omega
    · rw [if_neg dashes] at ret
      omega
  · have all : pos + (component uri pos).length = (cstr uri).length := by
      unfold isSeparated at last
      omega
    rw [if_neg last] at ret
    by_cases uuid : (component uri pos).length = extUuidStrLength
    · rw [if_neg (not_not.mpr uuid)] at ret
      split_ifs at ret with dashes
      · exact .inl (by omega)
      · refine .inr ⟨by omega, ?_⟩
        unfold isStored
        rw [if_neg last, decide_eq_false (not_not.mpr uuid)]
    · rw [if_pos uuid] at ret
      exact .inl (by omega)

/-- The first round from a place. -/
def firstVisit (uri : Bytes) (pos : Nat) (apiReq : ExtNmosApiReq) : Visit :=
  { reads := (resourceReads (uri.drop pos)).map (pos + ·)
    apiReq := (extParseApiResource apiReq (uri.drop pos)).2 }

theorem visits_succ (urlLen rounds : Nat) (apiReq : ExtNmosApiReq) :
    visits uri urlLen (rounds + 1) apiReq pos =
      firstVisit uri pos apiReq ::
        let next := pos + (extParseApiResource apiReq (uri.drop pos)).1
        if next < urlLen then
          visits uri urlLen rounds (extParseApiResource apiReq (uri.drop pos)).2 next
        else [] := rfl

end Reads

/-! ### The loop -/

section Loop

variable {uri : Bytes} {pos : Nat} {apiReq : ExtNmosApiReq}

/-- The first round from a place is inside when the place is, and there is room left. -/
theorem firstVisit_inside_iff (inside : pos < (cstr uri).length)
    (count : apiReq.resources.length ≤ nmosUriResourceMax)
    (ended : ∀ r ∈ apiReq.resources, r.length < nmosUriResourceLength) :
    (firstVisit uri pos apiReq).Inside uri ↔
      PlaceInside uri pos ∧
        apiReq.resources.length + (if isStored uri pos then 1 else 0) ≤ nmosUriResourceMax := by
  have stored := extParseApiResource_snd apiReq inside
  have reads : (∀ i ∈ (firstVisit uri pos apiReq).reads, i ≤ (cstr uri).length) ↔
      (isSeparated uri pos → DashesInside uri pos) := by
    rw [← resourceReads_inside inside]
    unfold firstVisit
    rw [List.forall_mem_map]
  unfold PlaceInside
  by_cases store : isStored uri pos = true
  · rw [if_pos store] at stored
    rw [if_pos store, imp_iff_right store]
    constructor
    · rintro ⟨read, many, last⟩
      have stored' : (firstVisit uri pos apiReq).apiReq.resources = _ := stored
      rw [stored'] at many last
      refine ⟨⟨reads.mp read, ?_⟩, by simpa using many⟩
      have short := last _ (List.mem_append_right _ (List.mem_singleton_self _))
      rw [List.length_take] at short
      omega
    · rintro ⟨⟨look, short⟩, many⟩
      refine ⟨reads.mpr look, ?_, ?_⟩
      · have stored' : (firstVisit uri pos apiReq).apiReq.resources = _ := stored
        rw [stored']
        simpa using many
      · have stored' : (firstVisit uri pos apiReq).apiReq.resources = _ := stored
        rw [stored']
        intro r mem
        rcases List.mem_append.mp mem with before | here
        · exact ended r before
        · rw [List.mem_singleton.mp here, List.length_take]
          omega
  · rw [if_neg store] at stored
    have stored' : (firstVisit uri pos apiReq).apiReq.resources = _ := stored
    rw [if_neg store]
    constructor
    · rintro ⟨read, -, -⟩
      exact ⟨⟨reads.mp read, fun absurd_ => absurd absurd_ store⟩, count⟩
    · rintro ⟨⟨look, -⟩, -⟩
      refine ⟨reads.mpr look, ?_, ?_⟩
      · rw [stored']
        exact count
      · rw [stored']
        exact ended

/-- Rounds that stay at a last component read the same again, and store nothing. -/
theorem visits_stuck (inside : pos < (cstr uri).length) (idle : isStored uri pos = false)
    (stays : ∀ apiReq, pos + (extParseApiResource apiReq (uri.drop pos)).1 = pos)
    (first : (firstVisit uri pos apiReq).Inside uri) (rounds : Nat) :
    ∀ v ∈ visits uri (cstr uri).length rounds apiReq pos, v.Inside uri := by
  induction rounds generalizing apiReq with
  | zero =>
      intro v mem
      cases mem
  | succ rounds ih =>
      rw [visits_succ]
      dsimp only
      rw [stays, if_pos inside, List.forall_mem_cons]
      have kept {apiReq : ExtNmosApiReq} : (firstVisit uri pos apiReq).apiReq.resources =
          apiReq.resources := by
        have stored := extParseApiResource_snd apiReq inside
        rw [idle] at stored
        exact stored
      refine ⟨first, ih ⟨first.reads, ?_, ?_⟩⟩
      · rw [kept]
        exact first.count
      · rw [kept]
        exact first.ended

/-- From a place on, all rounds are inside exactly when the places are. -/
theorem visits_inside_iff (fits : (cstr uri).length < 128) {bound : Nat}
    (inside : pos < (cstr uri).length) (enough : (cstr uri).length ≤ pos + bound)
    (count : apiReq.resources.length ≤ nmosUriResourceMax)
    (ended : ∀ r ∈ apiReq.resources, r.length < nmosUriResourceLength) :
    (∀ rounds, ∀ v ∈ visits uri (cstr uri).length rounds apiReq pos, v.Inside uri) ↔
      (∀ p ∈ places uri bound pos, PlaceInside uri p) ∧
        apiReq.resources.length + ((places uri bound pos).filter (isStored uri)).length ≤
          nmosUriResourceMax := by
  induction bound generalizing pos apiReq with
  | zero => omega
  | succ bound ih =>
      have here := firstVisit_inside_iff inside count ended
      have stored := extParseApiResource_snd apiReq inside
      obtain ⟨goes, last⟩ := extParseApiResource_next apiReq fits inside
      -- a place counts once if it is stored
      have counted (rest : List Nat) :
          ((pos :: rest).filter (isStored uri)).length =
            (if isStored uri pos then 1 else 0) + (rest.filter (isStored uri)).length := by
        rw [List.filter_cons]
        split_ifs
        · exact Nat.add_comm _ _
        · exact (Nat.zero_add _).symm
      have one : (∀ rounds, ∀ v ∈ visits uri (cstr uri).length rounds apiReq pos, v.Inside uri) →
          (firstVisit uri pos apiReq).Inside uri := by
        intro all
        exact all 1 _ (by rw [visits_succ]; exact List.mem_cons_self)
      unfold places
      by_cases more : isSeparated uri pos ∧ nextPlace uri pos < (cstr uri).length
      · obtain ⟨separated, next⟩ := more
        rw [if_pos ⟨separated, next⟩, List.forall_mem_cons, counted]
        have behind : pos < nextPlace uri pos := by
          unfold nextPlace
          split_ifs
          · omega
          · omega
        -- the request behind the first round
        have length : (firstVisit uri pos apiReq).apiReq.resources.length =
            apiReq.resources.length + if isStored uri pos then 1 else 0 := by
          rw [firstVisit, stored]
          split_ifs
          · rw [List.length_append, List.length_singleton]
          · rfl
        have rest (first : (firstVisit uri pos apiReq).Inside uri) :=
          ih next (by omega) first.count first.ended
        rw [length] at rest
        constructor
        · intro all
          have first := one all
          obtain ⟨places, room⟩ := (rest first).mp fun rounds v mem => by
            refine all (rounds + 1) v ?_
            rw [visits_succ]
            dsimp only
            rw [goes separated, if_pos next]
            exact List.mem_cons_of_mem _ mem
          exact ⟨⟨(here.mp first).1, places⟩, by omega⟩
        · rintro ⟨⟨place, places⟩, room⟩ rounds
          have first := here.mpr ⟨place, by omega⟩
          cases rounds with
          | zero =>
              intro v mem
              cases mem
          | succ rounds =>
              rw [visits_succ]
              dsimp only
              rw [goes separated, if_pos next, List.forall_mem_cons]
              exact ⟨first, (rest first).mpr ⟨places, by omega⟩ rounds⟩
      · rw [if_neg more, List.forall_mem_singleton, counted, List.filter_nil, List.length_nil,
          Nat.add_zero, ← here]
        refine ⟨one, fun first rounds => ?_⟩
        by_cases stays : pos + (extParseApiResource apiReq (uri.drop pos)).1 < (cstr uri).length
        · by_cases separated : isSeparated uri pos
          · rw [goes separated] at stays
            exact absurd ⟨separated, stays⟩ more
          · obtain ⟨-, idle⟩ := (last separated).resolve_left (by omega)
            refine visits_stuck inside idle (fun apiReq' => ?_) first rounds
            have last' := (extParseApiResource_next apiReq' fits inside).2 separated
            rw [extParseApiResource_fst apiReq' fits inside,
              ← extParseApiResource_fst apiReq fits inside]
            exact ((last separated).resolve_left (by omega)).1
        · cases rounds with
          | zero =>
              intro v mem
              cases mem
          | succ rounds =>
              rw [visits_succ]
              dsimp only
              rw [if_neg stays, List.forall_mem_singleton]
              exact first

end Loop

/-! ### The version -/

section Version

variable {uri : Bytes} {pos : Nat}

/-- A comparison stops at the NUL. -/
theorem tokenReads_inside (inside : pos ≤ (cstr uri).length) (token : Bytes) :
    ∀ i ∈ tokenReads (uri.drop pos) token, pos + i ≤ (cstr uri).length := by
  intro i mem
  have lt := List.mem_range.mp mem
  clear mem
  induction i with
  | zero => exact inside
  | succ i ih =>
      have before := ih (by omega)
      refine succ_le_of_nonzero before ?_
      have scanned : i < ((List.zip (uri.drop pos) token).takeWhile
          fun pair => pair.1 = pair.2 ∧ pair.1 ≠ 0).length := by omega
      have same := List.mem_takeWhile_imp (List.getElem_mem scanned)
      rw [List.IsPrefix.getElem (List.takeWhile_prefix _) scanned, List.getElem_zip,
        List.getElem_drop] at same
      rw [List.getD_eq_getElem?_getD, List.getElem?_eq_getElem, Option.getD_some]
      exact (of_decide_eq_true same).2

theorem versionReads_inside :
    (∀ i ∈ versionReads (uri.drop pos), pos + i ≤ (cstr uri).length) ↔
      pos ≤ (cstr uri).length := by
  constructor
  · intro reads
    refine reads 0 (List.mem_flatMap.mpr ⟨str "v1.0", List.mem_cons_self, ?_⟩)
    exact List.mem_range.mpr (by rw [Nat.lt_min]; exact ⟨by decide, Nat.succ_pos _⟩)
  · intro inside i mem
    obtain ⟨token, -, read⟩ := List.mem_flatMap.mp mem
    exact tokenReads_inside inside token i read

theorem token_inside (inside : pos ≤ (cstr uri).length) {token : Bytes} (length : token.length = 4)
    (noZero : 0 ∉ token) (found : (lwipStrnstr (uri.drop pos) token 4).isSome) :
    pos + 4 ≤ (cstr uri).length := by
  have nonempty : token ≠ [] := by
    rintro rfl
    cases length
  have occurs := (lwipStrnstr_isSome_iff nonempty noZero 4).mp found
  have long : 4 ≤ (cstr ((uri.drop pos).take 4)).length := length ▸ occurs.length_le
  have whole : cstr ((uri.drop pos).take 4) = (uri.drop pos).take 4 := by
    refine (List.takeWhile_prefix _).eq_of_length (Nat.le_antisymm (length_cstr_le _) ?_)
    exact (List.length_take_le _ _).trans long
  have text : cstr (uri.drop pos) = (uri.drop pos).take 4 ++ cstr ((uri.drop pos).drop 4) := by
    conv_lhs => rw [← List.take_append_drop 4 (uri.drop pos)]
    rw [cstr_append, if_neg]
    rw [← whole]
    exact zero_not_mem_cstr _
  have room := congrArg List.length text
  rw [cstr_drop inside, List.length_drop, List.length_append, ← whole] at room
  omega

/-- A version that is found is in the string. -/
theorem apiVersion_inside (inside : pos ≤ (cstr uri).length)
    (found : (apiVersion (uri.drop pos)).isSome) : pos + 4 ≤ (cstr uri).length := by
  unfold apiVersion at found
  split_ifs at found with v10 v11 v12
  · exact token_inside inside (by decide) (by decide) v10
  · exact token_inside inside (by decide) (by decide) v11
  · exact token_inside inside (by decide) (by decide) v12
  · cases found

end Version

/-- A string with the prefix of an API is as long as the prefix. -/
theorem prefix_le {uri : Bytes} {type : NmosApiType} (found : (strstr uri type.uri).isSome) :
    type.uri.length ≤ (cstr uri).length := by
  have noZero : 0 ∉ type.uri := by
    cases type
    · decide
    · decide
  obtain ⟨i, found⟩ := Option.isSome_iff_exists.mp found
  rw [← strstr_cstr uri noZero] at found
  unfold strstr at found
  rw [if_neg (by cases type <;> decide)] at found
  have occurs := (Lib.isPrefix_of_findBefore found).length_le
  rw [List.length_drop] at occurs
  omega

/-- **The parser of the resources.** For a URI with the prefix of an API in it, nothing outside
the string is read and `resources` holds what is stored exactly when the places of the URI are as
the parser needs them. -/
theorem parsesInside_iff {uri : Bytes} {type : NmosApiType}
    (fits : (cstr uri).length < Http.uriBufSize) (found : (strstr uri type.uri).isSome) :
    ParsesInside uri type ↔ PlacesInside uri type := by
  have long := prefix_le found
  have goesOn : type.uri.length + 1 ≤ (cstr uri).length ↔
      (cstr uri).length ≠ type.uri.length := by omega
  unfold ParsesInside PlacesInside
  rw [versionReads_inside, goesOn]
  refine and_congr_right fun more => ?_
  have inside := goesOn.mpr more
  -- the first place of a URI that is parsed for resources
  have start (resources : ParsesResources uri type) :
      firstResource type < (cstr uri).length := by
    obtain ⟨version, notRoot⟩ := resources
    have version_ := apiVersion_inside inside version
    unfold isRootUri at notRoot
    rw [urlLen_eq fits, Bool.or_eq_false_iff, decide_eq_false_iff_not,
      decide_eq_false_iff_not] at notRoot
    have first : firstResource type = type.uri.length + 1 + 4 + 1 := rfl
    omega
  have rounds (flag : UInt8) (resources : ParsesResources uri type) :
      (∀ rounds, ∀ v ∈ visits uri (cstr uri).length rounds { versionFlags := flag }
        (firstResource type), v.Inside uri) ↔ _ :=
    visits_inside_iff fits (start resources) (Nat.le_add_left _ _) (Nat.zero_le _)
      (fun r mem => by cases mem)
  constructor
  · intro all resources
    obtain ⟨flag, version⟩ := Option.isSome_iff_exists.mp resources.1
    have inside' := all flag version resources.2
    rw [urlLen_eq fits] at inside'
    obtain ⟨places, count⟩ := (rounds flag resources).mp inside'
    exact ⟨places, by simpa using count⟩
  · intro all flag version notRoot
    have resources : ParsesResources uri type := ⟨by rw [version]; rfl, notRoot⟩
    obtain ⟨places, count⟩ := all resources
    rw [urlLen_eq fits]
    exact (rounds flag resources).mpr ⟨places, by simpa using count⟩

/-- The request for the senders of a node. -/
def nodeSendersUri : Bytes := str "/x-nmos/node/v1.0/senders"

theorem parsesInside_sample :
    (cstr nodeSendersUri).length < Http.uriBufSize ∧
      (strstr nodeSendersUri NmosApiType.node.uri).isSome ∧
      places nodeSendersUri 25 18 = [18] ∧
      (ParsesInside nodeSendersUri .node ↔ PlacesInside nodeSendersUri .node) :=
  ⟨by decide +kernel, by decide +kernel, by decide +kernel,
    parsesInside_iff (by decide +kernel) (by decide +kernel)⟩

/-- A last separator behind a short name. -/
theorem not_parsesInside :
    ¬ ∀ (uri : Bytes) (type : NmosApiType), (cstr uri).length < Http.uriBufSize →
      (strstr uri type.uri).isSome → ParsesInside uri type := by
  intro always
  obtain ⟨-, rounds⟩ := always (str "/x-nmos/node/v1.0/self/") .node (by decide +kernel)
    (by decide +kernel)
  have first := rounds 1 (by decide +kernel) (by decide +kernel) 1 _ List.mem_cons_self
  have read := first.reads 26 (by decide +kernel)
  revert read
  decide +kernel

end LwipExt.Nmos
