/-!
# Numerals

A numeral is a text of decimal digits.  Zeros at its front do not count, and what it
stands for must have at most 64 bits.

## Main definitions

* `value` — the number that digits stand for.
* `word?` — the same for a text that may be no numeral, or one too large.
-/

namespace Oracion
namespace Decimal

/-- The number that decimal digits stand for. -/
def value (digits : List Char) : Nat := digits.foldl (fun n d => 10 * n + (d.toNat - 48)) 0

/-- The largest number of 64 bits. -/
def maxWord : Nat := 18446744073709551615

/-- The number that a text stands for, if it is a numeral. -/
def word? (text : List Char) : Option Nat :=
  if !text.isEmpty && text.all Char.isDigit && value text ≤ maxWord then some (value text)
  else none

/-- What a numeral stands for has at most 64 bits. -/
theorem le_maxWord_of_word? {text : List Char} {n : Nat} (h : word? text = some n) :
    n ≤ maxWord := by
  unfold word? at h
  split at h
  · next hn =>
    simp only [Bool.and_eq_true, decide_eq_true_eq] at hn
    exact Option.some.inj h ▸ hn.2
  · cases h

end Decimal
end Oracion
