import Mathlib.Data.List.GetD
import Mathlib.Tactic.Common

/-!
The frames of the WebSocket protocol, with lengths of 7 and 16 bits.

A client masks the payload of a frame with a key of four bytes, a server does not. Masking twice
gives the payload back (`mask_mask`), and an unmasked frame is decoded to what it carries
(`decodeFrame_plainFrame`).
-/

namespace LwipExt.Lib

/-- The key byte for a position. -/
def keyAt (key : List UInt8) (i : Nat) : UInt8 := key.getD (i % 4) 0

/-- Each byte of a payload and the key byte of its position. -/
def mask (key payload : List UInt8) : List UInt8 := payload.mapIdx fun i b => b ^^^ keyAt key i

/-- First byte and length of a frame that is complete; `maskBit` is the top bit of the length. -/
def frameHead (opcode maskBit : UInt8) (length : Nat) : List UInt8 :=
  if 125 < length then
    [0x80 ||| opcode, maskBit ||| 126, UInt8.ofNat (length / 256), UInt8.ofNat length]
  else [0x80 ||| opcode, maskBit ||| UInt8.ofNat length]

/-- A frame as a client sends it. -/
def maskedFrame (opcode : UInt8) (key payload : List UInt8) : List UInt8 :=
  frameHead opcode 0x80 payload.length ++ key ++ mask key payload

/-- A frame as a server sends it. -/
def plainFrame (opcode : UInt8) (payload : List UInt8) : List UInt8 :=
  frameHead opcode 0 payload.length ++ payload

/-- The length of a frame and what follows it. -/
def frameLength (len7 : UInt8) (rest : List UInt8) : Option (Nat × List UInt8) :=
  if len7 < 126 then some (len7.toNat, rest)
  else if len7 = 126 then
    match rest with
    | high :: low :: rest => some (high.toNat * 256 + low.toNat, rest)
    | _ => none
  else none

/-- The opcode and the payload of a complete frame of a server; nothing may follow it. -/
def decodeFrame : List UInt8 → Option (UInt8 × List UInt8)
  | first :: second :: rest =>
      if first &&& 0x80 = 0 ∨ second &&& 0x80 ≠ 0 then none
      else
        (frameLength second rest).bind fun (length, payload) =>
          if payload.length = length then some (first &&& 0x0f, payload) else none
  | _ => none

variable {opcode : UInt8} {key payload : List UInt8}

@[simp] theorem length_mask (key payload : List UInt8) :
    (mask key payload).length = payload.length := List.length_mapIdx

theorem getD_mask (key : List UInt8) {i : Nat} (lt : i < payload.length) :
    (mask key payload).getD i 0 = payload.getD i 0 ^^^ keyAt key i := by
  rw [mask, List.getD_eq_getElem _ _ (by simpa using lt), List.getD_eq_getElem _ _ lt,
    List.getElem_mapIdx]

/-- Masking twice gives the payload back. -/
theorem mask_mask (key payload : List UInt8) : mask key (mask key payload) = payload := by
  apply List.ext_getElem (by simp)
  intro i _ _
  simp [mask, UInt8.xor_assoc]

theorem length_frameHead (opcode maskBit : UInt8) (length : Nat) :
    (frameHead opcode maskBit length).length = if 125 < length then 4 else 2 := by
  unfold frameHead
  split <;> rfl

/-- The two bytes of a length. -/
theorem length_bytes {n : Nat} (lt : n < 65536) :
    (UInt8.ofNat (n / 256)).toNat * 256 + (UInt8.ofNat n).toNat = n := by
  rw [UInt8.toNat_ofNat', UInt8.toNat_ofNat']
  omega

/-- The bits of a first byte. -/
theorem firstByte_bits (lt : opcode < 16) :
    (0x80 ||| opcode) &&& 0x80 ≠ 0 ∧ (0x80 ||| opcode) &&& 0x0f = opcode := by
  have all : ∀ n < 16, (0x80 ||| UInt8.ofNat n) &&& 0x80 ≠ 0 ∧
      (0x80 ||| UInt8.ofNat n) &&& 0x0f = UInt8.ofNat n := by
    decide +kernel
  have here := all opcode.toNat (UInt8.lt_iff_toNat_lt.mp lt)
  rwa [UInt8.ofNat_toNat] at here

/-- The bits of a length below 127, without and with the mask bit. -/
theorem length_bits {n : Nat} (lt : n < 127) :
    UInt8.ofNat n &&& 0x80 = 0 ∧ (0x80 ||| UInt8.ofNat n) &&& 0x7f = UInt8.ofNat n := by
  have all : ∀ n < 127, UInt8.ofNat n &&& 0x80 = 0 ∧
      (0x80 ||| UInt8.ofNat n) &&& 0x7f = UInt8.ofNat n := by
    decide +kernel
  exact all n lt

/-- **A frame of a server is decoded to what it carries.** -/
theorem decodeFrame_plainFrame (code : opcode < 16) (fits : payload.length < 65536) :
    decodeFrame (plainFrame opcode payload) = some (opcode, payload) := by
  obtain ⟨fin, low⟩ := firstByte_bits code
  unfold plainFrame frameHead
  by_cases long : 125 < payload.length
  · rw [if_pos long]
    have bytes := length_bytes fits
    have noMask : (126 : UInt8) &&& 128 = 0 := by decide
    simp only [List.cons_append, List.nil_append, decodeFrame, UInt8.zero_or, fin, noMask, ne_eq,
      not_true_eq_false, or_self, if_false, frameLength, UInt8.lt_irrefl, if_true,
      Option.bind_some, bytes, low]
  · rw [if_neg long]
    obtain ⟨noMask, -⟩ := @length_bits payload.length (by omega)
    have value : (UInt8.ofNat payload.length).toNat = payload.length := by
      rw [UInt8.toNat_ofNat']
      omega
    have short : UInt8.ofNat payload.length < 126 := by
      rw [UInt8.lt_iff_toNat_lt, value]
      change payload.length < 126
      omega
    simp only [List.cons_append, List.nil_append, decodeFrame, UInt8.zero_or, fin, noMask, ne_eq,
      not_true_eq_false, or_self, if_false, frameLength, short, if_true, Option.bind_some, value,
      low]

end LwipExt.Lib
