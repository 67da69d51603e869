import Oracion.Decimal.Rounding

/-!
# Binary numbers with 53 bits

Percentages and times are computed with numbers that carry 53 significant bits, each
operation rounding its exact result to the nearest of them and a tie to the one whose
last bit is zero.  Only numbers between `2 ^ (-64)` and `2 ^ 71` occur, so the
exponent needs no bound.

## Main definitions

* `Binary` — a natural number times a power of two.
* `Binary.nearest` — the nearest such number to a quotient.
* `Binary.ofNat`, `Binary.mul`, `Binary.div` — the rounded operations.
-/

namespace Oracion
namespace Decimal

/-- The number `significand * 2 ^ exponent`. -/
structure Binary where
  /-- The significant bits. -/
  significand : Nat
  /-- The power of two that they are multiplied with. -/
  exponent : Int
  deriving DecidableEq, Repr, Inhabited

namespace Binary

/-- How many bits a significand has. -/
def bits : Nat := 53

/-- The numerator of the number as a quotient. -/
def num (x : Binary) : Nat := x.significand * Nat.pow 2 x.exponent.toNat

/-- The denominator of the number as a quotient. -/
def den (x : Binary) : Nat := Nat.pow 2 (-x.exponent).toNat

/-- The greatest `k` with `2 ^ k ≤ num / den`, for a quotient that is not zero. -/
def scale (num den : Nat) : Int :=
  let k : Int := (num.log2 : Int) - den.log2
  if num * Nat.pow 2 (-k).toNat < den * Nat.pow 2 k.toNat then k - 1 else k

/-- The number with 53 significant bits that is nearest to `num / den`. -/
def nearest (num den : Nat) : Binary :=
  if num = 0 then ⟨0, 0⟩
  else
    let e := scale num den - (bits - 1 : Nat)
    ⟨roundDiv (num * Nat.pow 2 (-e).toNat) (den * Nat.pow 2 e.toNat), e⟩

/-- The number nearest to a natural number. -/
def ofNat (n : Nat) : Binary := nearest n 1

/-- The rounded product. -/
def mul (x y : Binary) : Binary := nearest (x.num * y.num) (x.den * y.den)

/-- The rounded quotient. -/
def div (x y : Binary) : Binary := nearest (x.num * y.den) (x.den * y.num)

end Binary
end Decimal
end Oracion
