/-!
# Rounding a quotient

Division of natural numbers to the nearest natural number; a half goes to the even
neighbour.

## Main definitions

* `roundDiv` — the natural number nearest to a quotient.

## Main results

* `two_mul_roundDiv_le`, `le_two_mul_roundDiv` — the result is within one half of the
  quotient.
-/

namespace Oracion
namespace Decimal

/-- The natural number nearest to `num / den`; of two equally near, the even one. -/
def roundDiv (num den : Nat) : Nat :=
  let q := num / den
  let r := num % den
  if 2 * r < den then q
  else if den < 2 * r then q + 1
  else if q % 2 = 0 then q
  else q + 1

theorem two_mul_roundDiv_le (num den : Nat) :
    2 * den * roundDiv num den ≤ 2 * num + den := by
  have h := Nat.div_add_mod num den
  unfold roundDiv
  generalize num / den = q at *
  generalize num % den = r at *
  have h1 : 2 * den * q = 2 * (den * q) := Nat.mul_assoc ..
  have h2 : 2 * den * (q + 1) = 2 * (den * q) + 2 * den := by rw [Nat.mul_add, h1, Nat.mul_one]
  dsimp only
  split
  · omega
  · split
    · omega
    · split <;> omega

theorem le_two_mul_roundDiv {num den : Nat} (hden : 0 < den) :
    2 * num ≤ 2 * den * roundDiv num den + den := by
  have h := Nat.div_add_mod num den
  have hr := Nat.mod_lt num hden
  unfold roundDiv
  generalize num / den = q at *
  generalize num % den = r at *
  have h1 : 2 * den * q = 2 * (den * q) := Nat.mul_assoc ..
  have h2 : 2 * den * (q + 1) = 2 * (den * q) + 2 * den := by rw [Nat.mul_add, h1, Nat.mul_one]
  dsimp only
  split
  · omega
  · split
    · omega
    · split <;> omega

end Decimal
end Oracion
