import LwipExt.Http.Post
import LwipExt.CString

/-!
The length of a POST body: `extHttpParseContentLength` of `exts/http/extHttpRequest.c`.

A header block is the text in front of the first empty line. `HeaderAt` says that a line of it
is a Content-Length header, and `LengthRead` that the function takes its result from such a line,
and finds none only where there is none. It searches the block for the name alone, so that
depends on where the name occurs first and on what follows it (`lengthRead_iff`).
-/

namespace LwipExt.Http

/-! ### Headers -/

/-- `HTTP_HDR_CONTENT_LEN_DIGIT_MAX_LEN`. -/
def contentLenDigitMaxLen : Nat := 10

def isDigit (b : UInt8) : Bool := 48 ≤ b ∧ b ≤ 57

/-- The value of decimal digits. -/
def digitsValue (digits : Bytes) : Nat := digits.foldl (fun n b => n * 10 + (b.toNat - 48)) 0

/-- The digits of a length: as many as are allowed, and their value is an `int`. -/
structure IsLength (digits : Bytes) (n : Nat) : Prop where
  nonempty : digits ≠ []
  all : ∀ b ∈ digits, isDigit b
  short : digits.length ≤ contentLenDigitMaxLen
  value : digitsValue digits = n
  fits : n < 2147483648

/-- Behind the text `before`, a line of the header block says that the body has `n` bytes. -/
def HeaderAt (block before digits : Bytes) (n : Nat) : Prop :=
  IsLength digits n ∧ crlf <:+ before ∧
    ∃ rest, block ++ crlf = before ++ contentLengthHeader ++ digits ++ crlf ++ rest

/-- The block says that the body has `n` bytes. -/
def SaysLength (block : Bytes) (n : Nat) : Prop := ∃ before digits, HeaderAt block before digits n

/-- The name is in the block for the first time behind the text `before`. -/
def FirstName (block before : Bytes) : Prop :=
  lwipStrnstr block contentLengthHeader block.length = some before.length ∧ before <+: block

/-- The result of the function comes from a Content-Length header, or there is none. -/
structure LengthRead (mhc : ExtHttpConn) (data : Bytes) (headerEnd : Nat) : Prop where
  found : ∀ n, (extHttpParseContentLength mhc data headerEnd).2 = some n →
    ∃ before digits, FirstName (data.take headerEnd) before ∧
      HeaderAt (data.take headerEnd) before digits n
  absent : (extHttpParseContentLength mhc data headerEnd).2 = none →
    ∀ n, ¬ SaysLength (data.take headerEnd) n

/-- The text behind the name is refused: its line does not end within ten bytes, or `atoi` reads
a negative number, or it reads 0 and the text is not a single `0`. -/
def Refused (number : Bytes) : Prop :=
  (lwipStrnstr number crlf contentLenDigitMaxLen).isNone ∨ atoi number < 0 ∨
    atoi number = 0 ∧ ¬ [48, 13] <+: number

/-- The name is not there, or it is there first in a header with up to eight digits that are not
several zeros, or what follows it is refused and no line is a header. -/
def ReadsLength (data : Bytes) (headerEnd : Nat) : Prop :=
  let block := data.take headerEnd
  (∀ before, ¬ FirstName block before) ∨
    (∃ before digits n, FirstName block before ∧ HeaderAt block before digits n ∧
      digits.length ≤ 8 ∧ (n = 0 → digits = [48])) ∨
    ∃ before, FirstName block before ∧ Refused (data.drop (before.length + 16)) ∧
      ∀ n, ¬ SaysLength block n

/-! ### Numbers -/

section Numbers

variable {digits rest : Bytes} {n : Nat}

theorem takeWhile_digits (all : ∀ b ∈ digits, isDigit b) :
    (digits ++ crlf ++ rest).takeWhile (fun b => 48 ≤ b ∧ b ≤ 57) = digits := by
  rw [List.append_assoc, List.takeWhile_append_of_pos]
  · have stop : (crlf ++ rest).takeWhile (fun b => 48 ≤ b ∧ b ≤ 57) = [] := by
      simp [crlf]
    rw [stop, List.append_nil]
  · intro b mem
    exact all b mem

theorem isDigit_bounds {b : UInt8} (digit : isDigit b) : 48 ≤ b.toNat ∧ b.toNat ≤ 57 := by
  unfold isDigit at digit
  rw [decide_eq_true_iff] at digit
  exact ⟨UInt8.le_iff_toNat_le.mp digit.1, UInt8.le_iff_toNat_le.mp digit.2⟩

/-- What `atoi` reads from the digits of a header. -/
theorem atoi_digits (isLength : IsLength digits n) :
    atoi (digits ++ crlf ++ rest) = n := by
  have text : (digits ++ crlf ++ rest).takeWhile (fun b => 48 ≤ b ∧ b ≤ 57) = digits :=
    takeWhile_digits isLength.all
  have value := isLength.value
  have all := isLength.all
  obtain ⟨b, digits, rfl⟩ := List.exists_cons_of_ne_nil isLength.nonempty
  obtain ⟨low, high⟩ := isDigit_bounds (all b List.mem_cons_self)
  have noSpace : ¬ (b = 32 ∨ 9 ≤ b ∧ b ≤ 13) := by
    rintro (rfl | ⟨-, small⟩)
    · exact absurd low (by decide)
    · have := UInt8.le_iff_toNat_le.mp small
      simp only [UInt8.reduceToNat] at this
      omega
  have notMinus : b ≠ 45 := by
    rintro rfl
    exact absurd low (by decide)
  have notPlus : b ≠ 43 := by
    rintro rfl
    exact absurd low (by decide)
  unfold atoi
  rw [List.cons_append, List.cons_append, List.dropWhile_cons_of_neg (by simpa using noSpace)]
  rw [List.cons_append, List.cons_append] at text
  split
  · next eq => exact absurd (List.cons.inj eq).1 notMinus
  · next eq => exact absurd (List.cons.inj eq).1 notPlus
  · unfold leadingNat
    rw [text]
    exact congrArg Int.ofNat value

/-- A line with up to eight bytes ends within ten. -/
theorem window_iff (all : ∀ b ∈ digits, isDigit b) :
    (lwipStrnstr (digits ++ crlf ++ rest) crlf contentLenDigitMaxLen).isSome ↔
      digits.length ≤ 8 := by
  have zero : 0 ∉ digits := fun mem => absurd (isDigit_bounds (all 0 mem)).1 (by decide)
  have feed : 10 ∉ digits := fun mem => absurd (isDigit_bounds (all 10 mem)).1 (by decide)
  rw [lwipStrnstr_isSome_iff (by decide) (by decide)]
  constructor
  · intro inside
    by_contra long
    have mem : (10 : UInt8) ∈ (digits ++ crlf ++ rest).take contentLenDigitMaxLen :=
      (List.takeWhile_sublist _).subset (inside.subset (by decide))
    have early : (digits ++ crlf ++ rest).take contentLenDigitMaxLen <+: digits ++ [13] := by
      have two : digits ++ crlf ++ rest = digits ++ [13] ++ (10 :: rest) := by simp [crlf]
      rw [two, List.take_append_of_le_length]
      · exact List.take_prefix _ _
      · rw [List.length_append, List.length_singleton, contentLenDigitMaxLen]
        omega
    have mem' := early.subset mem
    rw [List.mem_append, List.mem_singleton] at mem'
    exact mem'.elim feed (by decide)
  · intro short
    have whole : (digits ++ crlf ++ rest).take contentLenDigitMaxLen =
        digits ++ crlf ++ rest.take (contentLenDigitMaxLen - (digits.length + 2)) := by
      have split : contentLenDigitMaxLen =
          (digits ++ crlf).length + (contentLenDigitMaxLen - (digits.length + 2)) := by
        simp [contentLenDigitMaxLen, crlf]
        omega
      rw [split, List.take_length_add_append]
      simp [crlf]
    rw [whole, cstr_append, if_neg]
    · exact ⟨digits, _, rfl⟩
    · rw [List.mem_append]
      exact fun mem => mem.elim zero (by decide)

end Numbers

/-! ### What the function returns -/

section Result

variable {data block before number : Bytes} {headerEnd : Nat}

theorem startsWithZero_iff : [48, 13] <+: number ↔ number.getD 0 0 = 48 ∧ number.getD 1 0 = 13 := by
  match number with
  | [] => decide
  | [b] => simp
  | b :: c :: number => simp [eq_comm]

/-- Without the name there is no length. -/
theorem extHttpParseContentLength_none (mhc : ExtHttpConn)
    (absent : lwipStrnstr data contentLengthHeader headerEnd = none) :
    (extHttpParseContentLength mhc data headerEnd).2 = none := by
  unfold extHttpParseContentLength
  simp only [absent]

/-- With the name, what follows it decides. -/
theorem extHttpParseContentLength_some (mhc : ExtHttpConn) {p : Nat}
    (found : lwipStrnstr data contentLengthHeader headerEnd = some p) :
    (Refused (data.drop (p + 16)) → (extHttpParseContentLength mhc data headerEnd).2 = none) ∧
      (¬ Refused (data.drop (p + 16)) →
        (extHttpParseContentLength mhc data headerEnd).2 =
          some (atoi (data.drop (p + 16))).toNat) := by
  unfold extHttpParseContentLength Refused
  simp only [found, startsWithZero_iff, contentLenDigitMaxLen]
  generalize data.drop (p + 16) = number
  by_cases window : (lwipStrnstr number crlf 10).isNone = true
  · rw [if_pos window]
    exact ⟨fun _ => rfl, fun kept => absurd (.inl window) kept⟩
  · have same : (atoi number < 0 ∨ atoi number = 0 ∧
          (number.getD 0 0 ≠ 48 ∨ number.getD 1 0 ≠ 13)) ↔
        (lwipStrnstr number crlf 10).isNone = true ∨ atoi number < 0 ∨
          atoi number = 0 ∧ ¬ (number.getD 0 0 = 48 ∧ number.getD 1 0 = 13) := by
      rw [or_iff_right window, not_and_or]
    rw [if_neg window]
    constructor
    · intro refused
      rw [if_pos (same.mpr refused)]
    · intro kept
      rw [if_neg (fun refused => kept (same.mp refused))]

/-- The search for the name is one in the block. -/
theorem search_block : lwipStrnstr data contentLengthHeader headerEnd =
    lwipStrnstr (data.take headerEnd) contentLengthHeader (data.take headerEnd).length := by
  unfold lwipStrnstr
  rw [List.take_length]

theorem firstName_of_found {p : Nat}
    (found : lwipStrnstr block contentLengthHeader block.length = some p) :
    FirstName block (block.take p) ∧ (block.take p).length = p := by
  have search := found
  unfold lwipStrnstr at search
  rw [if_neg (by decide), List.take_length] at search
  have inside := Lib.findBefore_lt_length search
  have length : (block.take p).length = p := by
    rw [List.length_take]
    omega
  exact ⟨⟨by rw [length, found], List.take_prefix _ _⟩, length⟩

theorem FirstName.unique {before' : Bytes} (first : FirstName block before)
    (first' : FirstName block before') : before = before' := by
  obtain ⟨found, prefix_⟩ := first
  obtain ⟨found', prefix'⟩ := first'
  rw [found] at found'
  exact (List.prefix_of_prefix_length_le prefix_ prefix' (Option.some.inj found').le).eq_of_length
    (Option.some.inj found')

/-- A header contains the name. -/
theorem HeaderAt.name_mem {digits : Bytes} {n : Nat} (header : HeaderAt block before digits n) :
    before ++ contentLengthHeader <+: block := by
  obtain ⟨isLength, -, rest, split⟩ := header
  have some_ := List.length_pos_iff.mpr isLength.nonempty
  have length := congrArg List.length split
  simp only [List.length_append] at length
  have whole : before ++ contentLengthHeader <+: block ++ crlf :=
    ⟨digits ++ crlf ++ rest, by rw [split]; simp only [List.append_assoc]⟩
  refine List.prefix_of_prefix_length_le whole (List.prefix_append _ _) ?_
  rw [List.length_append]
  omega

/-- What follows the name of a header, in the received bytes. -/
theorem HeaderAt.number_eq {digits body : Bytes} {n : Nat}
    (header : HeaderAt block before digits n) :
    ∃ rest, (block ++ crlfcrlf ++ body).drop (before.length + 16) = digits ++ crlf ++ rest := by
  obtain ⟨-, -, rest, split⟩ := header
  have whole : block ++ crlfcrlf ++ body =
      before ++ contentLengthHeader ++ (digits ++ crlf ++ (rest ++ crlf ++ body)) := by
    have two : crlfcrlf = crlf ++ crlf := rfl
    rw [two, ← List.append_assoc block, split]
    simp only [List.append_assoc]
  have length : before.length + 16 = (before ++ contentLengthHeader).length := by
    rw [List.length_append]
    rfl
  refine ⟨rest ++ crlf ++ body, ?_⟩
  rw [whole, length, List.drop_left]

/-- A block with a header has the name in it. -/
theorem found_of_saysLength (noZero : 0 ∉ block) {n : Nat} (told : SaysLength block n) :
    ∃ p, lwipStrnstr block contentLengthHeader block.length = some p := by
  obtain ⟨before, digits, header⟩ := told
  obtain ⟨rest, split⟩ := header.name_mem
  rw [← Option.isSome_iff_exists, lwipStrnstr_isSome_iff (by decide) (by decide),
    List.take_length, cstr_of_not_mem noZero]
  exact ⟨before, rest, split⟩

/-- The digits of a header are read when there are few of them, and they are not several zeros. -/
theorem not_refused_iff {digits rest : Bytes} {n : Nat} (isLength : IsLength digits n) :
    ¬ Refused (digits ++ crlf ++ rest) ↔ digits.length ≤ 8 ∧ (n = 0 → digits = [48]) := by
  have all := isLength.all
  unfold Refused
  rw [atoi_digits isLength, not_or, not_or, not_and_not_right, Option.isNone_iff_eq_none,
    ← ne_eq, Option.ne_none_iff_isSome, window_iff all]
  refine and_congr_right fun _ => ?_
  rw [and_iff_right (by omega)]
  refine imp_congr (by omega) ?_
  obtain ⟨b, digits, rfl⟩ := List.exists_cons_of_ne_nil isLength.nonempty
  rw [List.cons_append, List.cons_append, List.cons_prefix_cons]
  cases digits with
  | nil => simp [crlf, eq_comm]
  | cons c digits =>
      have digit := isDigit_bounds (all c (List.mem_cons_of_mem _ List.mem_cons_self))
      have notReturn : (13 : UInt8) ≠ c := by
        rintro rfl
        exact absurd digit.1 (by decide)
      rw [List.cons_append, List.cons_append, List.cons_prefix_cons]
      simp [notReturn]

end Result

/-- **The length of a POST body.** For a header block that ends, the result comes from a
Content-Length header, or there is none to take it from, exactly when `ReadsLength` holds. -/
theorem lengthRead_iff (mhc : ExtHttpConn) {data : Bytes} {headerEnd : Nat}
    (ended : lwipStrnstr data crlfcrlf data.length = some headerEnd) :
    LengthRead mhc data headerEnd ↔ ReadsLength data headerEnd := by
  obtain ⟨block, body, rfl, rfl, noZero, -⟩ :=
    (lwipStrnstr_eq_some_iff (by decide) (by decide)).mp ended
  have cut : (block ++ crlfcrlf ++ body).take block.length = block := by
    rw [List.append_assoc, List.take_left]
  have search : lwipStrnstr (block ++ crlfcrlf ++ body) contentLengthHeader block.length =
      lwipStrnstr block contentLengthHeader block.length := by
    rw [search_block, cut]
  unfold ReadsLength
  rw [cut]
  cases found : lwipStrnstr block contentLengthHeader block.length with
  | none =>
      have none_ := extHttpParseContentLength_none mhc (search.trans found)
      refine iff_of_true ⟨?_, ?_⟩ (.inl ?_)
      · intro n some_
        rw [none_] at some_
        cases some_
      · intro _ n told
        rw [cut] at told
        obtain ⟨p, found'⟩ := found_of_saysLength noZero told
        rw [found] at found'
        cases found'
      · rintro before ⟨found', -⟩
        rw [found] at found'
        cases found'
  | some p =>
      obtain ⟨first, length⟩ := firstName_of_found found
      obtain ⟨refuses, takes⟩ := extHttpParseContentLength_some mhc (search.trans found)
      have number_eq {before digits : Bytes} {n : Nat} (first' : FirstName block before)
          (header : HeaderAt block before digits n) :
          ∃ rest, (block ++ crlfcrlf ++ body).drop (p + 16) = digits ++ crlf ++ rest := by
        rw [← length, first.unique first']
        exact header.number_eq
      by_cases refused : Refused ((block ++ crlfcrlf ++ body).drop (p + 16))
      · have none_ := refuses refused
        constructor
        · intro read
          have absent := read.absent none_
          rw [cut] at absent
          exact .inr (.inr ⟨_, first, length.symm ▸ refused, absent⟩)
        · rintro (nowhere | ⟨before, digits, n, first', header, short, zeros⟩ | ⟨-, -, -, absent⟩)
          · exact absurd first (nowhere _)
          · obtain ⟨rest, number⟩ := number_eq first' header
            rw [number] at refused
            exact absurd refused ((not_refused_iff header.1).mpr ⟨short, zeros⟩)
          · refine ⟨?_, ?_⟩
            · intro n some_
              rw [none_] at some_
              cases some_
            · intro _
              rw [cut]
              exact absent
      · have some_ := takes refused
        constructor
        · intro read
          obtain ⟨before, digits, first', header⟩ := read.found _ some_
          rw [cut] at first' header
          obtain ⟨rest, number⟩ := number_eq first' header
          rw [number] at refused
          obtain ⟨short, zeros⟩ := (not_refused_iff header.1).mp refused
          exact .inr (.inl ⟨before, digits, _, first', header, short, zeros⟩)
        · rintro (nowhere | ⟨before, digits, n, first', header, -, -⟩ | ⟨before, first', again, -⟩)
          · exact absurd first (nowhere _)
          · obtain ⟨rest, number⟩ := number_eq first' header
            rw [number, atoi_digits header.1] at some_
            refine ⟨?_, ?_⟩
            · intro m found'
              rw [some_] at found'
              cases found'
              rw [cut]
              exact ⟨before, digits, first', header⟩
            · intro none_
              rw [some_] at none_
              cases none_
          · rw [← first.unique first', length] at again
            exact absurd again refused

/-- A request with a length of one digit, and the same with a length of nine. -/
def postRequest (length : String) : Bytes :=
  str "POST /mcuUpdate HTTP/1.1\r\nContent-Length: " ++ str length ++ crlfcrlf

theorem lengthRead_sample :
    lwipStrnstr (postRequest "5") crlfcrlf (postRequest "5").length = some 43 ∧
      (extHttpParseContentLength {} (postRequest "5") 43).2 = some 5 ∧
      (LengthRead {} (postRequest "5") 43 ↔ ReadsLength (postRequest "5") 43) :=
  ⟨by decide +kernel, by decide +kernel, lengthRead_iff {} (by decide +kernel)⟩

/-- A length of nine digits is refused. -/
theorem not_lengthRead :
    ¬ ∀ (mhc : ExtHttpConn) (data : Bytes) (headerEnd : Nat),
      lwipStrnstr data crlfcrlf data.length = some headerEnd → LengthRead mhc data headerEnd := by
  intro always
  have read := always {} (postRequest "100000000") 51 (by decide +kernel)
  refine read.absent (by decide +kernel) 100000000 ?_
  refine ⟨str "POST /mcuUpdate HTTP/1.1\r\n", str "100000000", ⟨?_, ?_, ?_, ?_, ?_⟩, ?_, [], ?_⟩
  all_goals decide +kernel

end LwipExt.Http
