import Oracion.Decimal.Fixed
import Oracion.Decimal.Numeral

/-!
# The numerals of numbers

A natural number is written with decimal digits, at least one, and with no zero at the front
unless it is zero.  The digits stand for the number, and so they do behind zeros that fill a column.

## Main results

* `toString_head` — the digits of a number, and the first of them.
* `value_toString` — **the numeral of a number stands for it.**
* `word?_toString` — so it does for a reader of numbers with at most 64 bits.
* `value_digits` — zeros at the front make no difference.
-/

namespace Oracion
namespace Decimal

theorem isDigit_of_mem_toString {n : Nat} {c : Char} (h : c ∈ (toString n).toList) :
    c.isDigit = true := by
  rw [Nat.toString_eq_repr, Nat.toList_repr] at h
  exact Nat.isDigit_of_mem_toDigits (by decide) (by decide) h

/-- The numeral of a number that is not zero does not start with one. -/
theorem exists_toDigits_eq_cons {n : Nat} (hn : 0 < n) :
    ∃ d ds, Nat.toDigits 10 n = d :: ds ∧ d ≠ '0' := by
  induction n using Nat.strongRecOn with
  | _ n ih =>
    by_cases hlt : n < 10
    · have hdigit : ∀ m < 10, 0 < m → Nat.digitChar m ≠ '0' := by decide
      exact ⟨n.digitChar, [], Nat.toDigits_of_lt_base hlt, hdigit n hlt hn⟩
    · -- the front is that of the numeral without its last digit
      obtain ⟨d, ds, hds, hd⟩ := ih (n / 10) (by omega) (by omega)
      refine ⟨d, ds ++ [(n % 10).digitChar], ?_, hd⟩
      rw [Nat.toDigits_of_base_le (by decide) (by omega), hds]
      rfl

/-- The numeral of a number is a zero alone, or starts with another digit. -/
theorem toString_head (n : Nat) :
    (toString n).toList = ['0'] ∨ ∃ d ds, (toString n).toList = d :: ds ∧ d ≠ '0' := by
  rw [Nat.toString_eq_repr, Nat.toList_repr]
  rcases Nat.eq_zero_or_pos n with rfl | hn
  · exact .inl (Nat.toDigits_zero 10)
  · exact .inr (exists_toDigits_eq_cons hn)

/-- **The numeral of a number stands for it.** -/
theorem value_toString (n : Nat) : value (toString n).toList = n := by
  rw [Nat.toString_eq_repr, Nat.toList_repr]
  exact Nat.ofDigitChars_ten_toDigits

/-- The numeral of a number with at most 64 bits is read as that number. -/
theorem word?_toString {n : Nat} (h : n ≤ maxWord) : word? (toString n).toList = some n := by
  have hne : (toString n).toList.isEmpty = false := by
    rcases toString_head n with hzero | ⟨d, ds, hds, -⟩
    · rw [hzero]
      rfl
    · rw [hds]
      rfl
  have hdigits : (toString n).toList.all Char.isDigit = true :=
    List.all_eq_true.mpr fun c hc => isDigit_of_mem_toString hc
  unfold word?
  rw [value_toString, hne, hdigits]
  exact if_pos (by simpa using h)

/-! ### Numerals in a column -/

theorem toList_digits (width n : Nat) :
    (digits width n).toList =
      List.replicate (width - (toString n).length) '0' ++ (toString n).toList := by
  rw [digits, Text.padLeft, String.toList_append, Text.toList_times]
  exact congrArg (· ++ (toString n).toList) List.flatten_replicate_singleton

theorem isDigit_of_mem_digits {width n : Nat} {c : Char} (h : c ∈ (digits width n).toList) :
    c.isDigit = true := by
  rw [toList_digits, List.mem_append] at h
  rcases h with hzero | hdigit
  · rw [List.eq_of_mem_replicate hzero]
    rfl
  · exact isDigit_of_mem_toString hdigit

/-- Zeros at the front make no difference to what a numeral stands for. -/
theorem value_replicate_append (k : Nat) (ds : List Char) :
    value (List.replicate k '0' ++ ds) = value ds := by
  induction k with
  | zero => rfl
  | succ k ih =>
    rw [← ih]
    rfl

/-- **A numeral that fills a column stands for its number**, also if it is wider. -/
theorem value_digits (width n : Nat) : value (digits width n).toList = n := by
  rw [toList_digits, value_replicate_append, value_toString]

end Decimal
end Oracion
