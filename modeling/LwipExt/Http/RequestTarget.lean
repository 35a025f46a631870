import LwipExt.Http.Request
import LwipExt.CString
import Mathlib.Data.List.Infix

/-!
The request line: how `_mHttpParseUrl` of `exts/http/extHttpRequest.c` finds the target of a
request.

`IsTarget` says what the target of a request is, and `TargetRead` that a parse which reports
success has stored it. `targetRead_iff` says for which requests it has. Otherwise the parse
stores something else, or nothing, and the URI of an earlier request stays.
-/

namespace LwipExt.Http

/-! ### The parser with the memory behind the request -/

/-- `_mHttpParseUrl`, where `beyond` is the memory behind the received bytes: the search for the
CRLF of an HTTP/0.9 request starts one byte late, and ends one byte late. -/
def mHttpParseUrlIn (mhc : ExtHttpConn) (data beyond : Bytes) : ExtHttpConn × Bool :=
  let space := lwipStrnstr data [32] data.length
  let mhc := if space.isNone then { mhc with isV09 := true } else mhc
  if space.isNone ∧ mhc.method = .post then (mhc, false)
  else
    let sp := match space with
      | some position => some position
      | none => (lwipStrnstr ((data ++ beyond).drop 1) crlf data.length).map (· + 1)
    match sp with
    | none | some 0 => (mhc, true)
    | some uriLen =>
        if (lwipStrnstr data crlfcrlf data.length).isSome then
          ({ mhc with uri := data.take (min uriBufSize uriLen) }, true)
        else (mhc, false)

/-- The two calls at the start of `_mHttpParseRequest`. -/
def parseRequestLine (mhc : ExtHttpConn) (data beyond : Bytes) : ExtHttpConn × Bool :=
  let (mhc, len) := mHttpParseMethod mhc data
  if len = 0 then (mhc, false) else mHttpParseUrlIn mhc (data.drop len) beyond

/-- The bytes behind the method. -/
def behindMethod (mhc : ExtHttpConn) (data : Bytes) : Bytes :=
  data.drop (mHttpParseMethod mhc data).2

/-! ### Targets -/

/-- The target of a request, whose text behind the method is given: up to the space in its line,
or up to the end of a line without one. -/
structure IsTarget (text target : Bytes) : Prop where
  nonempty : target ≠ []
  noZero : 0 ∉ target
  noSpace : 32 ∉ target
  oneLine : ¬ crlf <:+: target
  ends : (∃ rest, text = target ++ 32 :: rest) ∨ ∃ rest, text = target ++ crlf ++ rest

/-- A parse that reports success has stored the target, and a NUL behind it. -/
def TargetRead (mhc : ExtHttpConn) (data beyond : Bytes) : Prop :=
  (parseRequestLine mhc data beyond).2 = true →
    ∃ target, IsTarget (behindMethod mhc data) target ∧ target.length < uriBufSize ∧
      (parseRequestLine mhc data beyond).1.uri = target

/-- The parser refuses the request because more is to come: there is no empty line yet, but a
separator, and not at the start. -/
def Waits (text beyond : Bytes) : Prop :=
  ¬ crlfcrlf <:+: cstr text ∧
    (32 ∈ cstr text ∧ text.head? ≠ some 32 ∨
      32 ∉ cstr text ∧ crlf <:+: cstr (((text ++ beyond).drop 1).take text.length))

/-- The target fits the buffer, and is followed by the first space of the request, if that has
a space. -/
def FitsFirst (text target : Bytes) : Prop :=
  target.length < uriBufSize ∧ (text.getD target.length 0 = 32 ∨ 32 ∉ cstr text)

section Searches

variable {text before rest beyond : Bytes}

theorem space_mem (noZero : 0 ∉ before) : 32 ∈ cstr (before ++ 32 :: rest) := by
  rw [cstr_append, if_neg noZero]
  refine List.mem_append_right _ ?_
  rw [cstr, List.takeWhile_cons_of_pos (by decide)]
  exact List.mem_cons_self

/-- The text up to the first space. -/
theorem exists_space (space : 32 ∈ cstr text) :
    ∃ before rest, text = before ++ 32 :: rest ∧ 0 ∉ before ∧ 32 ∉ before := by
  have found : (lwipStrnstr text [32] text.length).isSome := by
    rw [lwipStrnstr_isSome_iff (by decide) (by decide), List.take_length]
    exact (List.singleton_infix_iff _ _).mpr space
  obtain ⟨i, found⟩ := Option.isSome_iff_exists.mp found
  obtain ⟨before, rest, split, -, noZero, first⟩ :=
    (lwipStrnstr_eq_some_iff (by decide) (by decide)).mp found
  refine ⟨before, rest, by simpa using split, noZero, ?_⟩
  rw [List.dropLast_concat] at first
  intro mem
  exact first ((List.singleton_infix_iff _ _).mpr mem)

theorem space_search (noZero : 0 ∉ before) (noSpace : 32 ∉ before) :
    lwipStrnstr (before ++ 32 :: rest) [32] (before ++ 32 :: rest).length =
      some before.length := by
  refine (lwipStrnstr_eq_some_iff (by decide) (by decide)).mpr
    ⟨before, rest, by simp, rfl, noZero, ?_⟩
  rw [List.dropLast_concat]
  intro inside
  exact noSpace ((List.singleton_infix_iff _ _).mp inside)

theorem space_search_none (noSpace : 32 ∉ cstr text) :
    lwipStrnstr text [32] text.length = none := by
  rw [← Option.not_isSome_iff_eq_none, lwipStrnstr_isSome_iff (by decide) (by decide),
    List.take_length]
  intro inside
  exact noSpace ((List.singleton_infix_iff _ _).mp inside)

theorem ended_iff : (lwipStrnstr text crlfcrlf text.length).isSome ↔ crlfcrlf <:+: cstr text := by
  rw [lwipStrnstr_isSome_iff (by decide) (by decide), List.take_length]

/-- The text up to a space is determined. -/
theorem before_unique {before' rest' : Bytes} (noSpace : 32 ∉ before) (noSpace' : 32 ∉ before')
    (same : before ++ 32 :: rest = before' ++ 32 :: rest') : before = before' := by
  have cut {text : Bytes} (noSpace : 32 ∉ text) (rest : Bytes) :
      (text ++ 32 :: rest).takeWhile (· ≠ 32) = text := by
    rw [List.takeWhile_append_of_pos]
    · rw [List.takeWhile_cons_of_neg (by decide), List.append_nil]
    · intro b mem
      simpa using ne_of_mem_of_not_mem mem noSpace
  rw [← cut noSpace rest, same, cut noSpace']

end Searches

/-! ### What the parser does -/

section Parse

variable (mhc : ExtHttpConn) {text before rest beyond : Bytes}

/-- With a space. -/
theorem mHttpParseUrlIn_space (noZero : 0 ∉ before) (noSpace : 32 ∉ before) :
    mHttpParseUrlIn mhc (before ++ 32 :: rest) beyond =
      if before = [] then (mhc, true)
      else if crlfcrlf <:+: cstr (before ++ 32 :: rest) then
        ({ mhc with uri := (before ++ 32 :: rest).take (min uriBufSize before.length) }, true)
      else (mhc, false) := by
  unfold mHttpParseUrlIn
  rw [space_search noZero noSpace]
  simp only [Option.isNone_some, Bool.false_eq_true, false_and, if_false, ended_iff]
  cases before with
  | nil => rfl
  | cons b before => rw [if_neg (List.cons_ne_nil b before)]; rfl

/-- Without a space. -/
theorem mHttpParseUrlIn_noSpace (noSpace : 32 ∉ cstr text) :
    mHttpParseUrlIn mhc text beyond =
      if mhc.method = .post then ({ mhc with isV09 := true }, false)
      else
        (lwipStrnstr ((text ++ beyond).drop 1) crlf text.length).elim
          ({ mhc with isV09 := true }, true) fun i =>
            if crlfcrlf <:+: cstr text then
              ({ mhc with isV09 := true, uri := text.take (min uriBufSize (i + 1)) }, true)
            else ({ mhc with isV09 := true }, false) := by
  unfold mHttpParseUrlIn
  rw [space_search_none noSpace]
  simp only [Option.isNone_none, if_true, true_and, ended_iff]
  split_ifs
  · rfl
  · cases lwipStrnstr ((text ++ beyond).drop 1) crlf text.length with
    | none => rfl
    | some i => rfl
  · cases lwipStrnstr ((text ++ beyond).drop 1) crlf text.length with
    | none => rfl
    | some i => rfl

/-- The parser waits, or it reads the target. -/
def ReadsTarget (method : Method) (text beyond : Bytes) : Prop :=
  method = .post ∧ 32 ∉ cstr text ∨ Waits text beyond ∨
    ∃ target, IsTarget text target ∧ FitsFirst text target

/-- `_mHttpParseUrl` stores the target when it reports success. -/
def UrlRead (text beyond : Bytes) : Prop :=
  (mHttpParseUrlIn mhc text beyond).2 = true →
    ∃ target, IsTarget text target ∧ target.length < uriBufSize ∧
      (mHttpParseUrlIn mhc text beyond).1.uri = target

/-- A target that a space ends is the text before the first space. -/
theorem IsTarget.eq_before {target : Bytes} (isTarget : IsTarget (before ++ 32 :: rest) target)
    (noSpace : 32 ∉ before) (space : (before ++ 32 :: rest).getD target.length 0 = 32) :
    target = before := by
  obtain ⟨rest', split⟩ | ⟨rest', split⟩ := isTarget.ends
  · exact (before_unique noSpace isTarget.noSpace split).symm
  · rw [split, List.append_assoc, List.getD_append_right _ _ _ _ (Nat.le_refl _),
      Nat.sub_self] at space
    cases space

theorem not_isTarget_space {target : Bytes} : ¬ IsTarget (32 :: rest) target := by
  intro isTarget
  have noSpace := isTarget.noSpace
  obtain ⟨b, target, rfl⟩ := List.exists_cons_of_ne_nil isTarget.nonempty
  obtain ⟨rest', split⟩ | ⟨rest', split⟩ := isTarget.ends
  all_goals
    rw [List.cons.inj split |>.1] at noSpace
    exact noSpace List.mem_cons_self

/-- What is stored of the text up to a separator is that text, when it fits. -/
theorem take_uri {before rest : Bytes} (fits : before.length < uriBufSize) :
    (before ++ rest).take (min uriBufSize before.length) = before := by
  rw [Nat.min_eq_right fits.le, List.take_left]

/-- What is stored is too short to be a text that does not fit. -/
theorem length_take_uri {target : Bytes} {n : Nat} (stored : text.take (min uriBufSize n) = target)
    (short : target.length < uriBufSize) (inside : n ≤ text.length) : target.length = n := by
  rw [← stored, List.length_take] at short ⊢
  omega

theorem urlRead_space_iff (noZero : 0 ∉ before) (noSpace : 32 ∉ before) :
    UrlRead mhc (before ++ 32 :: rest) beyond ↔
      ReadsTarget mhc.method (before ++ 32 :: rest) beyond := by
  have mem : 32 ∈ cstr (before ++ 32 :: rest) := space_mem noZero
  unfold UrlRead ReadsTarget
  rw [mHttpParseUrlIn_space mhc noZero noSpace]
  by_cases empty : before = []
  · -- the space comes first, and the parse succeeds without a target
    subst empty
    rw [if_pos rfl]
    constructor
    · intro read
      obtain ⟨target, isTarget, -⟩ := read rfl
      exact absurd isTarget not_isTarget_space
    · rintro (⟨-, none⟩ | ⟨-, ⟨-, start⟩ | ⟨none, -⟩⟩ | ⟨target, isTarget, -⟩)
      · exact absurd mem none
      · exact absurd rfl start
      · exact absurd mem none
      · exact absurd isTarget not_isTarget_space
  rw [if_neg empty]
  by_cases ended : crlfcrlf <:+: cstr (before ++ 32 :: rest)
  · rw [if_pos ended]
    constructor
    · intro read
      obtain ⟨target, isTarget, short, stored⟩ := read rfl
      have length := length_take_uri stored short (by simp)
      have same : before = target := by
        rw [← stored, take_uri (length ▸ short)]
      subst same
      refine .inr (.inr ⟨before, isTarget, short, .inl ?_⟩)
      rw [List.getD_append_right _ _ _ _ (Nat.le_refl _), Nat.sub_self]
      rfl
    · rintro (⟨-, none⟩ | ⟨open_, -⟩ | ⟨target, isTarget, fits, first⟩)
      · exact absurd mem none
      · exact absurd ended open_
      · rintro -
        have same := isTarget.eq_before noSpace (first.resolve_right (not_not_intro mem))
        subst same
        exact ⟨target, isTarget, fits, take_uri fits⟩
  · rw [if_neg ended]
    refine iff_of_true (fun read => by cases read) (.inr (.inl ⟨ended, .inl ⟨mem, ?_⟩⟩))
    obtain ⟨b, before, rfl⟩ := List.exists_cons_of_ne_nil empty
    intro start
    exact noSpace (Option.some.inj start ▸ List.mem_cons_self)

/-- The CRLF behind a target is found, also by the search that starts late. -/
theorem IsTarget.crlf_search {target : Bytes} (isTarget : IsTarget text target)
    (noSpace : 32 ∉ cstr text) (beyond : Bytes) :
    (∃ rest, text = target ++ rest) ∧
      lwipStrnstr ((text ++ beyond).drop 1) crlf text.length = some (target.length - 1) := by
  have lines := isTarget.oneLine
  have noZero := isTarget.noZero
  obtain ⟨rest, rfl⟩ | ⟨rest, rfl⟩ := isTarget.ends
  · exact absurd (space_mem noZero) noSpace
  refine ⟨⟨crlf ++ rest, List.append_assoc _ _ _⟩, ?_⟩
  obtain ⟨b, t, rfl⟩ := List.exists_cons_of_ne_nil isTarget.nonempty
  unfold lwipStrnstr
  rw [if_neg (by decide)]
  refine (Lib.findBefore_eq_some_iff (by decide) (by decide)).mpr
    ⟨t, (rest ++ beyond).take (rest.length + 1), ?_, rfl, ?_, ?_⟩
  · have split : (b :: t ++ crlf ++ rest ++ beyond).drop 1 = t ++ crlf ++ (rest ++ beyond) := by
      simp
    have length : (b :: t ++ crlf ++ rest).length = (t ++ crlf).length + (rest.length + 1) := by
      simp
      omega
    rw [split, length, List.take_length_add_append]
  · exact fun mem => noZero (List.mem_cons_of_mem b mem)
  · intro inside
    have early : (t ++ crlf).dropLast = t ++ [13] := by
      have two : t ++ crlf = t ++ [13] ++ [10] := by simp [crlf]
      rw [two, List.dropLast_concat]
    rw [early, List.infix_concat_iff] at inside
    rcases inside with ⟨front, last⟩ | inside
    · have two : front ++ crlf = front ++ [13] ++ [10] := by simp [crlf]
      rw [two] at last
      cases (List.append_inj' last rfl).2
    · exact lines (inside.trans (List.suffix_cons b t).isInfix)

theorem urlRead_noSpace_iff (noSpace : 32 ∉ cstr text) :
    UrlRead mhc text beyond ↔ ReadsTarget mhc.method text beyond := by
  unfold UrlRead ReadsTarget
  rw [mHttpParseUrlIn_noSpace mhc noSpace]
  by_cases post : mhc.method = .post
  · rw [if_pos post]
    exact iff_of_true (fun read => by cases read) (.inl ⟨post, noSpace⟩)
  have late : (lwipStrnstr ((text ++ beyond).drop 1) crlf text.length).isSome ↔ _ :=
    lwipStrnstr_isSome_iff (by decide) (by decide) text.length
  rw [if_neg post]
  cases found : lwipStrnstr ((text ++ beyond).drop 1) crlf text.length with
  | none =>
      -- no end of a line, and the parse succeeds without a target
      have noTarget : ∀ target, ¬ IsTarget text target := by
        intro target isTarget
        have found' := (isTarget.crlf_search noSpace beyond).2
        rw [found] at found'
        cases found'
      rw [found] at late
      constructor
      · intro read
        obtain ⟨target, isTarget, -⟩ := read rfl
        exact absurd isTarget (noTarget target)
      · rintro (⟨is_, -⟩ | ⟨-, ⟨space, -⟩ | ⟨-, ends⟩⟩ | ⟨target, isTarget, -⟩)
        · exact absurd is_ post
        · exact absurd space noSpace
        · cases late.mpr ends
        · exact absurd isTarget (noTarget target)
  | some i =>
      rw [Option.elim_some]
      by_cases ended : crlfcrlf <:+: cstr text
      · rw [if_pos ended]
        constructor
        · intro read
          obtain ⟨target, isTarget, short, -⟩ := read rfl
          exact .inr (.inr ⟨target, isTarget, short, .inr noSpace⟩)
        · rintro (⟨is_, -⟩ | ⟨open_, -⟩ | ⟨target, isTarget, fits, -⟩)
          · exact absurd is_ post
          · exact absurd ended open_
          · rintro -
            obtain ⟨⟨rest, rfl⟩, found'⟩ := isTarget.crlf_search noSpace beyond
            rw [found] at found'
            have some_ := List.length_pos_iff.mpr isTarget.nonempty
            have length : i + 1 = target.length := by
              rw [Option.some.inj found']
              omega
            refine ⟨target, isTarget, fits, ?_⟩
            rw [length]
            exact take_uri fits
      · rw [if_neg ended]
        rw [found] at late
        exact iff_of_true (fun read => by cases read)
          (.inr (.inl ⟨ended, .inr ⟨noSpace, late.mp rfl⟩⟩))

/-- A successful parse of the URI stores the target exactly for these requests. -/
theorem urlRead_iff (text : Bytes) :
    UrlRead mhc text beyond ↔ ReadsTarget mhc.method text beyond := by
  by_cases space : 32 ∈ cstr text
  · obtain ⟨before, rest, rfl, noZero, noSpace⟩ := exists_space space
    exact urlRead_space_iff mhc noZero noSpace
  · exact urlRead_noSpace_iff mhc space

end Parse

/-- **The target of a request.** A request parse that reports success has stored the target of
the request exactly when the method is not known, or more is to come, or the target fits the
buffer and a line that ends with it has no space behind it. -/
theorem targetRead_iff (mhc : ExtHttpConn) (data beyond : Bytes) :
    TargetRead mhc data beyond ↔
      (mHttpParseMethod mhc data).2 = 0 ∨
        ReadsTarget (mHttpParseMethod mhc data).1.method (behindMethod mhc data) beyond := by
  unfold TargetRead behindMethod parseRequestLine
  dsimp only
  by_cases unknown : (mHttpParseMethod mhc data).2 = 0
  · rw [if_pos unknown]
    exact iff_of_true (fun read => by cases read) (.inl unknown)
  · rw [if_neg unknown, or_iff_right unknown]
    exact urlRead_iff _ _

/-- Two spaces behind the method, on a connection that has a URI from before. -/
theorem not_targetRead :
    ¬ ∀ (mhc : ExtHttpConn) (data beyond : Bytes), TargetRead mhc data beyond := by
  intro always
  have behind : behindMethod { uri := str "/old" } (str "GET  HTTP/1.1\r\n\r\n") =
      32 :: str "HTTP/1.1\r\n\r\n" := by decide +kernel
  obtain ⟨target, isTarget, -⟩ :=
    always { uri := str "/old" } (str "GET  HTTP/1.1\r\n\r\n") [] (by decide +kernel)
  rw [behind] at isTarget
  exact not_isTarget_space isTarget

/-! ### The request parse that follows -/

section Request

variable (site : Site) (ss : Session) (data : Bytes) (chained : Bool)

theorem mHttpParseUrlIn_nil (mhc : ExtHttpConn) :
    mHttpParseUrlIn mhc data [] = mHttpParseUrl mhc data := by
  unfold mHttpParseUrlIn mHttpParseUrl
  generalize appended : data ++ [] = whole
  obtain rfl : data = whole := (List.append_nil data).symm.trans appended
  rfl

/-- A request whose line was not parsed is refused. -/
theorem mHttpParseRequest_refuses (refused : (parseRequestLine ss.mhc data []).2 = false) :
    (mHttpParseRequest site ss data chained).2 = false := by
  unfold parseRequestLine at refused
  unfold mHttpParseRequest
  dsimp only at refused ⊢
  split_ifs at refused ⊢
  · rfl
  · rw [mHttpParseUrlIn_nil] at refused
    generalize mHttpParseUrl _ _ = read at refused
    obtain ⟨mhc, ok⟩ := read
    subst refused
    rfl

/-- A request whose line was parsed is handled with the URI that the parse left. -/
theorem mHttpParseRequest_handles {mhc : ExtHttpConn}
    (read : parseRequestLine ss.mhc data [] = (mhc, true)) :
    mHttpParseRequest site ss data chained =
      if mhc.method = .post then extHttpPostRequest { ss with mhc } data
      else (({ ss with mhc } : Session).set fun mhc =>
        { extHttpHandleRequest site mhc with postDataLeft := 0 }, true) := by
  unfold parseRequestLine at read
  unfold mHttpParseRequest
  dsimp only at read ⊢
  by_cases unknown : (mHttpParseMethod ss.mhc data).2 = 0
  · rw [if_pos unknown] at read
    cases read
  · rw [if_neg unknown, mHttpParseUrlIn_nil] at read
    rw [if_neg unknown]
    simp only [read]

end Request

end LwipExt.Http
