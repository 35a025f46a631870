import LwipExt.CString
import Mathlib.Data.List.Basic

/-!
The digits that `%d` prints.

A number is read back from its digits (`foldl_decimal`), and they have no leading zero
(`head_decimal`).
-/

namespace LwipExt

theorem decimal_eq (n : Nat) :
    decimal n = (Nat.toDigits 10 n).map fun c => UInt8.ofNat c.toNat :=
  congrArg (List.map _) Nat.toList_repr

theorem decimal_of_lt {n : Nat} (digit : n < 10) : decimal n = [UInt8.ofNat (48 + n)] := by
  have all : ∀ n < 10,
      [Nat.digitChar n].map (fun c => UInt8.ofNat c.toNat) = [UInt8.ofNat (48 + n)] := by
    decide +kernel
  rw [decimal_eq, Nat.toDigits_eq_if (by decide), if_pos digit]
  exact all n digit

/-- The last digit. -/
theorem decimal_of_le {n : Nat} (more : 10 ≤ n) :
    decimal n = decimal (n / 10) ++ [UInt8.ofNat (48 + n % 10)] := by
  have last := decimal_of_lt (Nat.mod_lt n (by decide))
  rw [decimal_eq, Nat.toDigits_eq_if (by decide), if_pos (Nat.mod_lt n (by decide))] at last
  rw [decimal_eq, Nat.toDigits_eq_if (by decide), if_neg (Nat.not_lt.mpr more), List.map_append,
    last, decimal_eq]

theorem decimal_ne_nil (n : Nat) : decimal n ≠ [] := by
  rw [decimal_eq]
  exact fun empty => Nat.toDigits_ne_nil (List.map_eq_nil_iff.mp empty)

theorem head_decimal {n : Nat} (pos : 0 < n) : (decimal n).head? ≠ some 48 := by
  induction n using Nat.strong_induction_on with
  | _ n ih =>
      by_cases digit : n < 10
      · have all : ∀ n < 10, 0 < n → [UInt8.ofNat (48 + n)].head? ≠ some 48 := by decide +kernel
        rw [decimal_of_lt digit]
        exact all n digit pos
      · have before := ih (n / 10) (by omega) (by omega)
        obtain ⟨b, bs, digits⟩ := List.exists_cons_of_ne_nil (decimal_ne_nil (n / 10))
        rw [digits] at before
        rw [decimal_of_le (Nat.le_of_not_lt digit), digits]
        exact before

/-- The digits have the value of the number. -/
theorem foldl_decimal (n : Nat) :
    (decimal n).foldl (fun n b => n * 10 + (b.toNat - 48)) 0 = n := by
  have value : ∀ d < 10, (UInt8.ofNat (48 + d)).toNat - 48 = d := by decide +kernel
  induction n using Nat.strong_induction_on with
  | _ n ih =>
      by_cases digit : n < 10
      · rw [decimal_of_lt digit, List.foldl_cons, List.foldl_nil, value n digit]
        omega
      · rw [decimal_of_le (Nat.le_of_not_lt digit), List.foldl_append, ih (n / 10) (by omega),
          List.foldl_cons, List.foldl_nil, value _ (Nat.mod_lt n (by decide))]
        omega

end LwipExt
