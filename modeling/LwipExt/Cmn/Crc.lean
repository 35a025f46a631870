import LwipExt.Cmn.Address
import LwipExt.Lib.Crc
import Mathlib.Tactic.IntervalCases

/-!
What `cmnMuxCRC32b` computes.

`crc32` is the standard check, bit by bit. The code adds a byte to the register through
`char`: where that type is signed, a byte of 0x80 and above also sets the 24 high bits.
What this adds is added to the result, so the code computes the standard check exactly
when the additions cancel (`crc_standard_iff`).
-/

namespace LwipExt

open Lib.Crc

/-- The reflected polynomial of CRC-32. -/
def crcPolynomial : BitVec 32 := 0xEDB88320

/-- The bits of a message in the order they are sent, the lowest of each byte first. -/
def messageBits (message : Bytes) : List Bool := message.flatMap fun c => bits 8 c.toBitVec

/-- CRC-32: initial value and final addition `0xFFFFFFFF`. -/
def crc32 (message : Bytes) : UInt32 :=
  ⟨crc crcPolynomial 0xFFFFFFFF 0xFFFFFFFF (messageBits message)⟩

/-- What a signed `char` adds to a byte. -/
def signBits (c : UInt8) : UInt32 := if 128 ≤ c then 0xffffff00 else 0

/-- The sign bits of all bytes of a message, taken as words of their own by an empty
register, leave it empty. -/
def SignsCancel (message : Bytes) : Prop :=
  absorb crcPolynomial 8 0#32 (message.map fun c => (signBits c).toBitVec) = 0#32

instance (message : Bytes) : Decidable (SignsCancel message) := inferInstanceAs (Decidable (_ = _))

/-! ### The rounds -/

theorem crcRound_toBitVec (crc : UInt32) :
    (crcRound crc).toBitVec = shift crcPolynomial crc.toBitVec := by
  have mask : (0 - (crc &&& 1)).toBitVec = if crc.toBitVec.getLsbD 0 then BitVec.allOnes 32 else 0 := by
    have low : (crc &&& 1).toBitVec = BitVec.setWidth 32 (BitVec.ofBool (crc.toBitVec.getLsbD 0)) := by
      rw [UInt32.toBitVec_and]
      exact BitVec.and_one_eq_setWidth_ofBool_getLsbD
    rw [UInt32.toBitVec_sub, low]
    cases crc.toBitVec.getLsbD 0 <;> rfl
  have shifted : (crc >>> 1).toBitVec = crc.toBitVec >>> 1 := rfl
  rw [crcRound, UInt32.toBitVec_xor, UInt32.toBitVec_and, mask, shifted, shift, feed, Bool.xor_false]
  cases crc.toBitVec.getLsbD 0 with
  | false => exact BitVec.xor_zero
  | true => rw [if_pos rfl, if_pos rfl, BitVec.and_allOnes]; rfl

theorem repeat_crcRound (n : Nat) (crc : UInt32) :
    (Nat.repeat crcRound n crc).toBitVec = (shift crcPolynomial)^[n] crc.toBitVec := by
  induction n with
  | zero => rfl
  | succ n ih =>
      rw [Function.iterate_succ_apply', ← ih]
      exact crcRound_toBitVec _

theorem low_byte (c : UInt8) (i : Nat) : c.toUInt32.toBitVec.getLsbD i = c.toBitVec.getLsbD i := by
  rw [UInt8.toBitVec_toUInt32, BitVec.getLsbD_setWidth]
  by_cases inWord : i < 32
  · rw [decide_eq_true inWord, Bool.true_and]
  · rw [decide_eq_false inWord, Bool.false_and, BitVec.getLsbD_of_ge _ i (by omega)]

/-- A `char` is its byte and its sign bits. -/
theorem charToUInt_eq (charSigned : Bool) (c : UInt8) :
    charToUInt charSigned c = c.toUInt32 ^^^ if charSigned then signBits c else 0 := by
  have disjoint : c.toUInt32 ||| 0xffffff00 = c.toUInt32 ^^^ 0xffffff00 := by
    apply UInt32.toBitVec_inj.mp
    rw [UInt32.toBitVec_or, UInt32.toBitVec_xor]
    apply BitVec.eq_of_getLsbD_eq
    intro i _
    rw [BitVec.getLsbD_or, BitVec.getLsbD_xor, low_byte]
    by_cases inByte : i < 8
    · have clear : (0xffffff00 : UInt32).toBitVec.getLsbD i = false := by
        interval_cases i <;> rfl
      rw [clear, Bool.or_false, Bool.xor_false]
    · rw [BitVec.getLsbD_of_ge _ i (Nat.le_of_not_lt inByte), Bool.false_or, Bool.false_xor]
  unfold charToUInt signBits
  cases charSigned with
  | false => simp
  | true =>
      by_cases high : 128 ≤ c
      · simp [high, disjoint]
      · simp [high]

/-! ### A message -/

/-- The register of the code, with the sign bits of a signed `char` apart. -/
theorem cmnMuxCRC32b_toBitVec (charSigned : Bool) (message : Bytes) :
    (cmnMuxCRC32b charSigned message).toBitVec =
      (crc32 message).toBitVec ^^^ absorb crcPolynomial 8 0#32
        (message.map fun c => (if charSigned then signBits c else 0).toBitVec) := by
  have register_eq (crc : UInt32) :
      (message.foldl (fun crc c => Nat.repeat crcRound 8 (crc ^^^ charToUInt charSigned c))
          crc).toBitVec =
        absorb crcPolynomial 8 crc.toBitVec
          (message.map fun c => (charToUInt charSigned c).toBitVec) := by
    induction message generalizing crc with
    | nil => rfl
    | cons c message ih =>
        rw [List.foldl_cons, ih, List.map_cons, absorb_cons, repeat_crcRound, UInt32.toBitVec_xor]
  have words : (message.map fun c => (charToUInt charSigned c).toBitVec) =
      message.map fun c => c.toUInt32.toBitVec ^^^
        (if charSigned then signBits c else 0).toBitVec := by
    simp only [charToUInt_eq, UInt32.toBitVec_xor]
  have standard : absorb crcPolynomial 8 0xFFFFFFFF (message.map fun c => c.toUInt32.toBitVec) =
      register crcPolynomial 0xFFFFFFFF (messageBits message) := by
    have short : ∀ word ∈ message.map fun c => c.toUInt32.toBitVec,
        ∀ i, 8 ≤ i → word.getLsbD i = false := by
      intro word mem i high
      obtain ⟨c, _, rfl⟩ := List.mem_map.mp mem
      rw [low_byte]
      exact BitVec.getLsbD_of_ge _ i high
    rw [absorb_eq_register crcPolynomial short, messageBits, List.flatMap_map]
    have same (c : UInt8) : bits 8 c.toUInt32.toBitVec = bits 8 c.toBitVec := by
      rw [bits_eq_map, bits_eq_map, funext (low_byte c)]
    simp only [same]
  have zero : (0xFFFFFFFF : BitVec 32) = 0xFFFFFFFF ^^^ 0#32 := rfl
  have added := absorb_xor crcPolynomial 8 (fun c : UInt8 => c.toUInt32.toBitVec)
    (fun c => (if charSigned then signBits c else 0).toBitVec) 0xFFFFFFFF 0#32 message
  rw [← words, ← zero, standard] at added
  have start : (0xFFFFFFFF : UInt32).toBitVec = 0xFFFFFFFF := rfl
  rw [cmnMuxCRC32b, UInt32.toBitVec_not, register_eq, start, added, ← BitVec.xor_allOnes]
  rw [crc32, crc, BitVec.xor_assoc, BitVec.xor_assoc]
  congr 1
  exact BitVec.xor_comm _ _

theorem cmnMuxCRC32b_unsigned (message : Bytes) : cmnMuxCRC32b false message = crc32 message := by
  apply UInt32.toBitVec_inj.mp
  rw [cmnMuxCRC32b_toBitVec, absorb_zero, BitVec.xor_zero]
  intro word mem
  obtain ⟨_, _, rfl⟩ := List.mem_map.mp mem
  rfl

theorem cmnMuxCRC32b_signed_iff (message : Bytes) :
    cmnMuxCRC32b true message = crc32 message ↔ SignsCancel message := by
  rw [← UInt32.toBitVec_inj, cmnMuxCRC32b_toBitVec, SignsCancel]
  constructor
  · intro same
    exact (BitVec.xor_right_inj _).mp (same.trans BitVec.xor_zero.symm)
  · intro cancel
    have cancel : absorb crcPolynomial 8 0#32 (message.map fun c =>
        (if true = true then signBits c else 0).toBitVec) = 0#32 := cancel
    rw [cancel]
    exact BitVec.xor_zero

/-- **On every target the code computes CRC-32 exactly if the sign bits cancel.** -/
theorem crc_standard_iff (message : Bytes) :
    (∀ charSigned, cmnMuxCRC32b charSigned message = crc32 message) ↔ SignsCancel message := by
  rw [← cmnMuxCRC32b_signed_iff]
  constructor
  · intro standard
    exact standard true
  · intro signed charSigned
    cases charSigned with
    | false => exact cmnMuxCRC32b_unsigned message
    | true => exact signed

/-- The register of a signed target for the one byte 0x80. -/
theorem not_crc_standard :
    ¬ ∀ (charSigned : Bool) (message : Bytes), cmnMuxCRC32b charSigned message = crc32 message := by
  intro standard
  exact absurd (standard true [0x80]) (by decide +kernel)

/-! ### When the sign bits cancel -/

theorem signBits_eq_zero {c : UInt8} (ascii : c < 128) : (signBits c).toBitVec = 0#32 := by
  rw [signBits, if_neg (UInt8.not_le.mpr ascii)]
  rfl

/-- A message without bytes of 0x80 and above has no sign bits. -/
theorem SignsCancel.of_ascii {message : Bytes} (ascii : ∀ c ∈ message, c < 128) :
    SignsCancel message := by
  apply absorb_zero
  intro word mem
  obtain ⟨c, inMessage, rfl⟩ := List.mem_map.mp mem
  exact signBits_eq_zero (ascii c inMessage)

/-- The sign bits of a single byte do not cancel. -/
theorem not_signsCancel_of_one {before behind : Bytes} {c : UInt8} (ascii : ∀ b ∈ before, b < 128)
    (high : 128 ≤ c) (ascii' : ∀ b ∈ behind, b < 128) : ¬ SignsCancel (before ++ c :: behind) := by
  intro cancel
  have none : absorb crcPolynomial 8 0#32 (before.map fun b => (signBits b).toBitVec) = 0#32 :=
    SignsCancel.of_ascii ascii
  have zeros : ∀ word ∈ behind.map fun b => (signBits b).toBitVec, word = 0#32 := by
    intro word mem
    obtain ⟨b, inBehind, rfl⟩ := List.mem_map.mp mem
    exact signBits_eq_zero (ascii' b inBehind)
  rw [SignsCancel, List.map_append, absorb_append, none, List.map_cons, absorb_cons] at cancel
  have empty := rounds_eq_zero (by decide) (eq_zero_of_absorb_zeros (by decide) zeros cancel)
  rw [BitVec.zero_xor, signBits, if_pos high] at empty
  exact absurd empty (by decide)

end LwipExt
