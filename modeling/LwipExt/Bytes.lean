import LwipExt.Lib.Search
import Mathlib.Data.List.GetD

/-!
Bytes, machine widths and the memory helpers the C sources share.

A C buffer is the list of its bytes so far; the bytes after the list are the zeros
of the `memset` that initialised it. `bufRead` and `bufWrite` are `memcpy` out of
and into such a buffer, and `lwipStrnstr` is `lwip_strnstr` of `core/def.c`.
-/

namespace LwipExt

abbrev Bytes := List UInt8

/-- The bytes of a string literal of the source. -/
def str (s : String) : Bytes := s.toList.map fun c => UInt8.ofNat c.toNat

/-- `MHTTP_CRLF`. -/
def crlf : Bytes := [13, 10]

/-- `MHTTP_CRLF MHTTP_CRLF`, the end of an HTTP header block. -/
def crlfcrlf : Bytes := [13, 10, 13, 10]

/-- Conversion to `unsigned short`. -/
def u16 (n : Nat) : Nat := n % 65536

/-- `a - b` converted to `unsigned short`. -/
def sub16 (a b : Nat) : Nat := ((a : Int) - (b : Int)).emod 65536 |>.toNat

/-- A C string: the bytes before the first NUL. -/
def cstr (buf : Bytes) : Bytes := buf.takeWhile (· ≠ 0)

theorem length_cstr_le (buf : Bytes) : (cstr buf).length ≤ buf.length :=
  List.Sublist.length_le (List.takeWhile_sublist _)

theorem zero_not_mem_cstr (buf : Bytes) : 0 ∉ cstr buf := by
  intro mem
  have text := List.all_takeWhile (p := (· ≠ 0)) (l := buf)
  have nonzero := List.all_eq_true.mp text 0 mem
  simp at nonzero

theorem cstr_of_not_mem {text : Bytes} (noZero : 0 ∉ text) : cstr text = text := by
  induction text with
  | nil => rfl
  | cons c text ih =>
      obtain ⟨first, others⟩ := not_or.mp (List.mem_cons.not.mp noZero)
      have rest : text.takeWhile (· ≠ 0) = text := ih others
      rw [cstr, List.takeWhile_cons_of_pos (by simpa using Ne.symm first), rest]

theorem cstr_drop {buf : Bytes} {pos : Nat} (inside : pos ≤ (cstr buf).length) :
    cstr (buf.drop pos) = (cstr buf).drop pos := by
  induction buf generalizing pos with
  | nil => simp [cstr]
  | cons b buf ih =>
      cases pos with
      | zero => rfl
      | succ pos =>
          by_cases nul : b = 0
          · simp [cstr, nul] at inside
          · have kept : cstr (b :: buf) = b :: cstr buf := by simp [cstr, nul]
            rw [kept] at inside ⊢
            exact ih (by simpa using inside)

/-- Lists of one length with the same bytes. -/
theorem ext_getD {x y : Bytes} (length : x.length = y.length)
    (same : ∀ i < y.length, x.getD i 0 = y.getD i 0) : x = y := by
  apply List.ext_getElem length
  intro i lt lt'
  have at_ := same i lt'
  rwa [List.getD_eq_getElem _ _ lt, List.getD_eq_getElem _ _ lt'] at at_

theorem getD_drop (x : Bytes) (n i : Nat) : (x.drop n).getD i 0 = x.getD (n + i) 0 := by
  rw [List.getD_eq_getElem?_getD, List.getElem?_drop, ← List.getD_eq_getElem?_getD]

theorem getD_take (x : Bytes) {n i : Nat} (lt : i < n) : (x.take n).getD i 0 = x.getD i 0 := by
  rw [List.getD_eq_getElem?_getD, List.getElem?_take_of_lt lt, ← List.getD_eq_getElem?_getD]

theorem getD_set (data : Bytes) (a j : Nat) (v : UInt8) :
    (data.set a v).getD j 0 = if j = a ∧ j < data.length then v else data.getD j 0 := by
  rw [List.getD_eq_getElem?_getD, List.getElem?_set, List.getD_eq_getElem?_getD]
  by_cases same : a = j
  · subst same
    by_cases inside : a < data.length
    · simp [inside]
    · rw [if_pos rfl, if_neg inside, if_neg (fun both => inside both.2),
        List.getElem?_eq_none (Nat.not_lt.mp inside)]
  · rw [if_neg same, if_neg (fun both => same both.1.symm)]

/-- The `n` bytes of a zero-initialised buffer from offset `off`. -/
def bufRead (buf : Bytes) (off n : Nat) : Bytes :=
  let held := (buf.drop off).take n
  held ++ List.replicate (n - held.length) 0

/-- A buffer after `src` was copied to offset `off`. -/
def bufWrite (buf : Bytes) (off : Nat) (src : Bytes) : Bytes :=
  bufRead buf 0 off ++ src ++ buf.drop (off + src.length)

/-- `lwip_strnstr`: offset of `token` in the first `n` bytes of `buffer`, looked for
no further than the terminating NUL. -/
def lwipStrnstr (buffer token : Bytes) (n : Nat) : Option Nat :=
  if token = [] then some 0 else Lib.findBefore 0 token (buffer.take n)

@[simp] theorem length_bufRead (buf : Bytes) (off n : Nat) : (bufRead buf off n).length = n := by
  simp only [bufRead, List.length_append, List.length_replicate, List.length_take,
    List.length_drop]
  omega

/-- Reading fewer bytes gives a prefix of what reading more bytes gives. -/
theorem take_bufRead (buf : Bytes) (off : Nat) {k n : Nat} (le : k ≤ n) :
    (bufRead buf off n).take k = bufRead buf off k := by
  simp only [bufRead, List.take_append, List.take_take, List.length_take, List.length_drop,
    List.take_replicate]
  congr 2 <;> omega

/-- Reading on from the middle of a region reads the rest of it. -/
theorem drop_bufRead (buf : Bytes) (off k n : Nat) :
    (bufRead buf off n).drop k = bufRead buf (off + k) (n - k) := by
  simp only [bufRead, List.drop_append, List.drop_take, List.drop_drop, List.length_take,
    List.length_drop, List.drop_replicate]
  congr 2
  omega

/-- What a region holds is what the buffer holds there. -/
theorem getD_bufRead (buf : Bytes) (off : Nat) {i n : Nat} (lt : i < n) :
    (bufRead buf off n).getD i 0 = buf.getD (off + i) 0 := by
  simp only [bufRead, List.getD_eq_getElem?_getD, List.getElem?_append, List.length_take,
    List.length_drop, List.getElem?_take, List.getElem?_drop, List.getElem?_replicate]
  by_cases held : i < min n (buf.length - off)
  · simp [held, lt]
  · have past : buf.length ≤ off + i := by omega
    simp only [held, if_false, List.getElem?_eq_none past]
    split <;> rfl

/-- A read depends on what it reads. -/
theorem bufRead_congr {buf buf' : Bytes} {off n : Nat}
    (same : ∀ i < n, buf.getD (off + i) 0 = buf'.getD (off + i) 0) :
    bufRead buf off n = bufRead buf' off n := by
  apply List.ext_getElem (by simp)
  intro i lt lt'
  have lt_n : i < n := by simpa using lt
  have at_ := same i lt_n
  rw [← getD_bufRead buf off lt_n, ← getD_bufRead buf' off lt_n,
    List.getD_eq_getElem?_getD, List.getD_eq_getElem?_getD, List.getElem?_eq_getElem lt,
    List.getElem?_eq_getElem lt'] at at_
  exact at_

/-- A copy leaves alone what lies before it. -/
theorem getD_bufWrite (buf src : Bytes) {off i : Nat} (lt : i < off) :
    (bufWrite buf off src).getD i 0 = buf.getD i 0 := by
  have inside : i < (bufRead buf 0 off).length := by simpa using lt
  calc (bufWrite buf off src).getD i 0
      = (bufRead buf 0 off).getD i 0 := by
        rw [bufWrite, List.append_assoc, List.getD_eq_getElem?_getD,
          List.getElem?_append_left inside, ← List.getD_eq_getElem?_getD]
    _ = buf.getD i 0 := by rw [getD_bufRead buf 0 lt, Nat.zero_add]

/-- What a copy leaves at a position. -/
theorem getD_bufWrite_eq (buf src : Bytes) (off i : Nat) :
    (bufWrite buf off src).getD i 0 =
      if i < off then buf.getD i 0
      else if i < off + src.length then src.getD (i - off) 0 else buf.getD i 0 := by
  by_cases before : i < off
  · rw [getD_bufWrite buf src before, if_pos before]
  · rw [if_neg before]
    have past : off ≤ i := Nat.le_of_not_lt before
    rw [List.getD_eq_getElem?_getD, bufWrite, List.append_assoc,
      List.getElem?_append_right (by simpa using past), length_bufRead]
    by_cases inside : i < off + src.length
    · rw [if_pos inside, List.getElem?_append_left (by omega), ← List.getD_eq_getElem?_getD]
    · have reached : off + src.length + (i - off - src.length) = i := by omega
      rw [if_neg inside, List.getElem?_append_right (by omega), List.getElem?_drop, reached,
        ← List.getD_eq_getElem?_getD]

theorem length_bufWrite (buf : Bytes) (off : Nat) (src : Bytes) :
    (bufWrite buf off src).length = max buf.length (off + src.length) := by
  rw [bufWrite, List.length_append, List.length_append, length_bufRead, List.length_drop]
  omega

/-- A buffer holds a text at an offset. -/
def Holds (buf : Bytes) (off : Nat) (text : Bytes) : Prop :=
  ∀ i < text.length, buf.getD (off + i) 0 = text.getD i 0

theorem Holds.read {buf text : Bytes} {off : Nat} (holds : Holds buf off text) :
    bufRead buf off text.length = text := by
  have zero : bufRead text 0 text.length = text := by simp [bufRead]
  conv_rhs => rw [← zero]
  apply List.ext_getElem (by simp)
  intro i lt lt'
  have inside : i < text.length := by simpa using lt
  have at_ := holds i inside
  rw [← getD_bufRead buf off inside] at at_
  rw [List.getD_eq_getElem?_getD, List.getElem?_eq_getElem lt, Option.getD_some] at at_
  simp [at_, zero, inside]

theorem Holds.self (text : Bytes) : Holds text 0 text := by
  intro i _
  rw [Nat.zero_add]

theorem Holds.nil (buf : Bytes) (off : Nat) : Holds buf off [] :=
  fun i lt => absurd lt (Nat.not_lt_zero i)

/-- A buffer holds two texts, one behind the other. -/
theorem Holds.append {buf text text' : Bytes} {off : Nat} (first : Holds buf off text)
    (second : Holds buf (off + text.length) text') : Holds buf off (text ++ text') := by
  intro i lt
  have split_ : (text ++ text').getD i 0 =
      if i < text.length then text.getD i 0 else text'.getD (i - text.length) 0 := by
    simp only [List.getD_eq_getElem?_getD, List.getElem?_append]
    split <;> rfl
  rw [split_]
  by_cases inside : i < text.length
  · rw [if_pos inside, first i inside]
  · have reached : off + text.length + (i - text.length) = off + i := by omega
    have at_ := second (i - text.length) (by rw [List.length_append] at lt; omega)
    rw [if_neg inside, ← at_, reached]

/-- A copy stands where it was put. -/
theorem Holds.written (buf : Bytes) (off : Nat) (text rest : Bytes) :
    Holds (bufWrite buf off (text ++ rest)) off text := by
  intro i lt
  rw [getD_bufWrite_eq, if_neg (by omega), if_pos (by rw [List.length_append]; omega),
    Nat.add_sub_cancel_left, List.getD_eq_getElem?_getD, List.getElem?_append_left lt,
    List.getD_eq_getElem?_getD]

/-- A copy leaves alone a text that lies before or behind it. -/
theorem Holds.kept {buf text src : Bytes} {off off' : Nat} (holds : Holds buf off text)
    (apart : off + text.length ≤ off' ∨ off' + src.length ≤ off) :
    Holds (bufWrite buf off' src) off text := by
  intro i lt
  rw [getD_bufWrite_eq, ← holds i lt]
  rcases apart with before | behind
  · rw [if_pos (by omega)]
  · rw [if_neg (by omega), if_neg (by omega)]

/-- Both parts of a text that a buffer holds. -/
theorem Holds.parts {buf text text' : Bytes} {off : Nat} (holds : Holds buf off (text ++ text')) :
    Holds buf off text ∧ Holds buf (off + text.length) text' := by
  constructor
  · intro i lt
    rw [holds i (by rw [List.length_append]; omega), List.getD_eq_getElem?_getD,
      List.getElem?_append_left lt, ← List.getD_eq_getElem?_getD]
  · intro i lt
    rw [Nat.add_assoc, holds (text.length + i) (by rw [List.length_append]; omega),
      List.getD_eq_getElem?_getD, List.getElem?_append_right (Nat.le_add_right _ _),
      Nat.add_sub_cancel_left, ← List.getD_eq_getElem?_getD]

theorem sub16_of_le {a b : Nat} (le : b ≤ a) (small : a < 65536) : sub16 a b = a - b := by
  unfold sub16
  have : ((a : Int) - b).emod 65536 = (a - b : Nat) := by
    rw [← Int.ofNat_sub le]
    exact Int.emod_eq_of_lt (by omega) (by omega)
  rw [this, Int.toNat_natCast]

/-- A difference below zero wraps. -/
theorem sub16_of_lt {a b : Nat} (lt : a < b) (small : b ≤ 65536) :
    sub16 a b = 65536 + a - b := by
  unfold sub16
  have : ((a : Int) - b).emod 65536 = (65536 + a - b : Nat) := by
    change ((a : Int) - b) % 65536 = _
    omega
  rw [this, Int.toNat_natCast]

theorem u16_of_lt {n : Nat} (small : n < 65536) : u16 n = n := Nat.mod_eq_of_lt small

end LwipExt
