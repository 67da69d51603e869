/-!
# Character classes

A class of characters is a list of ranges of code points.  The classes of this
library come from the Unicode character database.

## Main definitions

* `Range`, `Class` — a range of code points, and a class as a list of them.
* `Class.holds` — membership.
-/

namespace Oracion
namespace Chars

/-- The code points from `first` to `last`, both included. -/
structure Range where
  /-- The least code point. -/
  first : Nat
  /-- The greatest code point. -/
  last : Nat
  deriving DecidableEq, Repr, Inhabited

/-- A class of characters, as the ranges that make it up. -/
abbrev Class := List Range

/-- Whether a character belongs to a class. -/
def Class.holds (k : Class) (c : Char) : Bool :=
  k.any fun r => r.first ≤ c.toNat && c.toNat ≤ r.last

/-- A character belongs to a class when one of its ranges has it between its ends. -/
theorem Class.holds_iff {k : Class} {c : Char} :
    k.holds c = true ↔ ∃ r ∈ k, r.first ≤ c.toNat ∧ c.toNat ≤ r.last := by
  simp [Class.holds]

end Chars
end Oracion
