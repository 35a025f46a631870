import Mathlib.Algebra.GroupWithZero.Nat
import Mathlib.Data.List.Basic
import Mathlib.Tactic.Common

/-!
Frames whose length is written to the base 128.

A frame is one byte, the length of its body (low digits first, all but the last with the high bit),
and the body. `readFrames` reads the frames in a stream as far as they are complete: of a stream of
frames that is cut anywhere, it reads the frames up to there (`readFrames_cut`).
-/

namespace LwipExt.Lib

/-- A number to the base 128, low digits first. -/
def encodeLength (n : Nat) : List UInt8 :=
  if 0 < n / 128 then UInt8.ofNat (n % 128 + 128) :: encodeLength (n / 128)
  else [UInt8.ofNat (n % 128)]
termination_by n

/-- Reads a number of at most so many digits. -/
def readLength : (digits : Nat) → List UInt8 → Option (Nat × List UInt8)
  | 0, _ => none
  | _, [] => none
  | digits + 1, b :: rest =>
      if b.toNat < 128 then some (b.toNat, rest)
      else (readLength digits rest).map fun (n, rest) => (b.toNat - 128 + 128 * n, rest)

/-- A byte with its body. -/
abbrev Frame : Type := UInt8 × List UInt8

/-- The bytes of a frame. -/
def Frame.encode (f : Frame) : List UInt8 := f.1 :: encodeLength f.2.length ++ f.2

/-- Reads a frame. -/
def readFrame : List UInt8 → Option (Frame × List UInt8)
  | [] => none
  | first :: rest =>
      match readLength 4 rest with
      | some (n, rest) => if n ≤ rest.length then some ((first, rest.take n), rest.drop n) else none
      | none => none

/-- Reads frames while they are complete. -/
def readFrames : (fuel : Nat) → List UInt8 → List Frame
  | 0, _ => []
  | fuel + 1, bytes =>
      match readFrame bytes with
      | some (f, rest) => f :: readFrames fuel rest
      | none => []

theorem encodeLength_ne_nil (n : Nat) : encodeLength n ≠ [] := by
  rw [encodeLength]
  split <;> exact List.cons_ne_nil _ _

/-- The first digit, and the others. -/
theorem encodeLength_cases (n : Nat) :
    n < 128 ∧ encodeLength n = [UInt8.ofNat n] ∨
      128 ≤ n ∧ encodeLength n = UInt8.ofNat (n % 128 + 128) :: encodeLength (n / 128) := by
  rcases Nat.lt_or_ge n 128 with small | large
  · left
    rw [encodeLength, if_neg (by omega), Nat.mod_eq_of_lt small]
    exact ⟨small, rfl⟩
  · right
    refine ⟨large, ?_⟩
    rw [encodeLength, if_pos (by omega)]

theorem toNat_ofNat_digit {n : Nat} (small : n < 256) : (UInt8.ofNat n).toNat = n := by
  rw [UInt8.toNat_ofNat']
  exact Nat.mod_eq_of_lt small

theorem readLength_encodeLength {digits n : Nat} (small : n < 128 ^ digits) (pos : 0 < digits)
    (rest : List UInt8) : readLength digits (encodeLength n ++ rest) = some (n, rest) := by
  induction digits generalizing n with
  | zero => cases pos
  | succ digits ih =>
      rcases encodeLength_cases n with ⟨below, is⟩ | ⟨above, is⟩
      · have digit := toNat_ofNat_digit (n := n) (by omega)
        rw [is, List.cons_append, readLength, if_pos (by omega), digit]
        rfl
      · have digit := toNat_ofNat_digit (n := n % 128 + 128) (by omega)
        have fewer : n / 128 < 128 ^ digits := by
          rw [Nat.pow_succ] at small
          exact Nat.div_lt_of_lt_mul (by omega)
        have more : 0 < digits := by
          by_contra none_
          obtain rfl : digits = 0 := by omega
          simp only [Nat.zero_add, Nat.pow_one] at small
          omega
        rw [is, List.cons_append, readLength, if_neg (by omega), ih fewer more, digit]
        simp only [Option.map_some, Option.some.injEq, Prod.mk.injEq, and_true]
        omega

/-- A length that is cut is not read. -/
theorem readLength_cut {digits n : Nat} {bytes rest : List UInt8} (cut : rest ≠ [])
    (whole : encodeLength n = bytes ++ rest) : readLength digits bytes = none := by
  induction bytes generalizing digits n with
  | nil => cases digits <;> rfl
  | cons b bytes ih =>
      cases digits with
      | zero => rfl
      | succ digits =>
          rcases encodeLength_cases n with ⟨below, is⟩ | ⟨above, is⟩
          · rw [is, List.cons_append] at whole
            have none_ := (List.append_eq_nil_iff.mp (List.cons.inj whole).2.symm).2
            exact absurd none_ cut
          · rw [is, List.cons_append] at whole
            obtain ⟨first, others⟩ := List.cons.inj whole
            have digit := toNat_ofNat_digit (n := n % 128 + 128) (by omega)
            rw [readLength, ← first, if_neg (by omega), ih others]
            rfl

theorem readFrame_encode {f : Frame} (small : f.2.length < 128 ^ 4) (rest : List UInt8) :
    readFrame (f.encode ++ rest) = some (f, rest) := by
  have length := readLength_encodeLength small (by decide) (f.2 ++ rest)
  rw [Frame.encode, List.cons_append, List.cons_append, List.append_assoc, readFrame, length]
  simp only [List.length_append, Nat.le_add_right, if_true, List.take_left, List.drop_left]

/-- A frame that is cut is not read. -/
theorem readFrame_cut {f : Frame} (small : f.2.length < 128 ^ 4) {bytes rest : List UInt8}
    (cut : rest ≠ []) (whole : f.encode = bytes ++ rest) : readFrame bytes = none := by
  cases bytes with
  | nil => rfl
  | cons first bytes =>
      rw [Frame.encode, List.cons_append, List.cons_append] at whole
      have behind := (List.cons.inj whole).2
      rw [readFrame]
      rcases List.append_eq_append_iff.mp behind with ⟨more, is, body⟩ | ⟨more, is, tail⟩
      · rw [is, readLength_encodeLength small (by decide)]
        have short : ¬ f.2.length ≤ more.length := by
          have := List.length_pos_of_ne_nil cut
          rw [body, List.length_append]
          omega
        simp only [short, if_false]
      · rcases List.eq_nil_or_concat more with rfl | ⟨_, _, rfl⟩
        · rw [List.append_nil] at is
          rw [← is, ← List.append_nil (encodeLength _), readLength_encodeLength small (by decide)]
          have short : ¬ f.2.length ≤ ([] : List UInt8).length := by
            have := List.length_pos_of_ne_nil cut
            rw [List.nil_append] at tail
            rw [← tail, List.length_nil]
            omega
          simp only [short, if_false]
        · rw [readLength_cut (by simp) is]

theorem Frame.encode_ne_nil (f : Frame) : f.encode ≠ [] := List.cons_ne_nil _ _

/-- Of a stream of frames that is cut somewhere, the frames before are read. -/
theorem readFrames_cut {frames : List Frame} (small : ∀ f ∈ frames, f.2.length < 128 ^ 4)
    {bytes : List UInt8} (cut : bytes <+: frames.flatMap Frame.encode) {fuel : Nat}
    (enough : bytes.length ≤ fuel) :
    ∃ k ≤ frames.length, readFrames fuel bytes = frames.take k ∧
      (frames.take k).flatMap Frame.encode <+: bytes ∧
      (k < frames.length → bytes.length < ((frames.take (k + 1)).flatMap Frame.encode).length) := by
  induction frames generalizing bytes fuel with
  | nil =>
      rw [List.flatMap_nil, List.prefix_nil] at cut
      subst cut
      refine ⟨0, Nat.le_refl _, ?_, List.prefix_refl _, fun lt => by cases lt⟩
      cases fuel <;> rfl
  | cons f frames ih =>
      obtain ⟨smallFirst, smallRest⟩ := List.forall_mem_cons.mp small
      obtain ⟨rest, whole⟩ := cut
      rw [List.flatMap_cons] at whole
      have complete {more : List UInt8} (is : bytes = f.encode ++ more)
          (cut : more <+: frames.flatMap Frame.encode) :
          ∃ k ≤ (f :: frames).length, readFrames fuel bytes = (f :: frames).take k ∧
            ((f :: frames).take k).flatMap Frame.encode <+: bytes ∧
            (k < (f :: frames).length →
              bytes.length < (((f :: frames).take (k + 1)).flatMap Frame.encode).length) := by
        have some_ := List.length_pos_of_ne_nil f.encode_ne_nil
        rw [is, List.length_append] at enough
        obtain ⟨fuel, rfl⟩ : ∃ left, fuel = left + 1 := ⟨fuel - 1, by omega⟩
        have left : more.length ≤ fuel := by omega
        obtain ⟨k, le, reads, before, behind⟩ := ih smallRest cut left
        refine ⟨k + 1, Nat.succ_le_succ le, ?_, ?_, fun lt => ?_⟩
        · rw [is, readFrames, readFrame_encode smallFirst]
          simp only [reads, List.take_succ_cons]
        · rw [is, List.take_succ_cons, List.flatMap_cons]
          exact (List.prefix_append_right_inj _).mpr before
        · have := behind (Nat.lt_of_succ_lt_succ lt)
          rw [is, List.take_succ_cons, List.flatMap_cons, List.length_append, List.length_append]
          omega
      rcases List.append_eq_append_iff.mp whole with ⟨more, is, tail⟩ | ⟨more, is, tail⟩
      · by_cases cut : more = []
        · subst cut
          rw [List.append_nil] at is
          exact complete (by rw [is, List.append_nil]) (List.nil_prefix)
        · refine ⟨0, Nat.zero_le _, ?_, List.nil_prefix, fun _ => ?_⟩
          · cases fuel with
            | zero => rfl
            | succ fuel => rw [readFrames, readFrame_cut smallFirst cut is]; rfl
          · have := List.length_pos_of_ne_nil cut
            rw [List.take_succ_cons, List.take_zero, List.flatMap_singleton, is,
              List.length_append]
            omega
      · exact complete is ⟨rest, tail.symm⟩

end LwipExt.Lib
