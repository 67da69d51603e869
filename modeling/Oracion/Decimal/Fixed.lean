import Oracion.Decimal.Binary
import Oracion.Text

/-!
# Numbers with a set number of places

A number is written with a set number of places after the point: its exact value is
rounded once, and a half goes to the even neighbour.

## Main definitions

* `digits` — a natural number in decimal, filled with zeros up to a width.
* `Binary.fixed` — a number with a set number of places.
-/

namespace Oracion
namespace Decimal

/-- A natural number in decimal with at least `width` digits. -/
def digits (width : Nat) (n : Nat) : String := Text.padLeft width "0" (toString n)

/-- A number of `10 ^ (-places)` as a decimal with that many places, at least one. -/
def pointed (places : Nat) (n : Nat) : String :=
  toString (n / Nat.pow 10 places) ++ "." ++ digits places (n % Nat.pow 10 places)

/-- A number with `places` places after the point. -/
def Binary.fixed (places : Nat) (x : Binary) : String :=
  pointed places (roundDiv (x.num * Nat.pow 10 places) x.den)

end Decimal
end Oracion
