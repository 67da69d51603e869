import Oracion.Decimal.Fixed

/-!
# Durations

A span of time in whole nanoseconds, and its text: the largest unit of which there is
at least one, with as many places as it takes.

## Main definitions

* `Duration`, with `seconds`, `subNanos` and `micros`.
* `Duration.render` — a duration as text.
-/

namespace Oracion

/-- A span of time. -/
structure Duration where
  /-- Its length in nanoseconds. -/
  nanos : Nat
  deriving DecidableEq, Repr, Inhabited

namespace Duration

/-- How many nanoseconds a second has. -/
def perSecond : Nat := 1000000000

/-- No time at all. -/
def zero : Duration := ⟨0⟩

/-- So many seconds and so many nanoseconds. -/
def ofParts (seconds nanos : Nat) : Duration := ⟨seconds * perSecond + nanos⟩

/-- The whole seconds. -/
def seconds (d : Duration) : Nat := d.nanos / perSecond

/-- The nanoseconds beyond the whole seconds. -/
def subNanos (d : Duration) : Nat := d.nanos % perSecond

/-- The whole microseconds. -/
def micros (d : Duration) : Nat := d.nanos / 1000

/-- Two durations after one another. -/
def add (d e : Duration) : Duration := ⟨d.nanos + e.nanos⟩

/-- The longer of two durations. -/
def max (d e : Duration) : Duration := ⟨Nat.max d.nanos e.nanos⟩

/-- An equal share of a duration, in whole nanoseconds. -/
def share (d : Duration) (n : Nat) : Duration := ⟨d.nanos / n⟩

/-! ### Text -/

/-- A text without the zeros at its end. -/
def dropZeros (s : String) : String :=
  String.ofList (s.toList.reverse.dropWhile (· == '0')).reverse

/-- A number of `10 ^ (-places)` with no more places than it needs. -/
def shortened (places n : Nat) : String :=
  let whole := toString (n / Nat.pow 10 places)
  let fraction := dropZeros (Decimal.digits places (n % Nat.pow 10 places))
  if fraction = "" then whole else whole ++ "." ++ fraction

/-- A duration in the largest of the units s, ms, µs and ns of which it has at least
one, with all its digits. -/
def render (d : Duration) : String :=
  if perSecond ≤ d.nanos then shortened 9 d.nanos ++ "s"
  else if 1000000 ≤ d.nanos then shortened 6 d.nanos ++ "ms"
  else if 1000 ≤ d.nanos then shortened 3 d.nanos ++ "µs"
  else toString d.nanos ++ "ns"

theorem seconds_ofParts {s n : Nat} (h : n < perSecond) : (ofParts s n).seconds = s := by
  simp only [ofParts, seconds, perSecond] at *
  omega

theorem subNanos_ofParts {s n : Nat} (h : n < perSecond) : (ofParts s n).subNanos = n := by
  simp only [ofParts, subNanos, perSecond] at *
  omega

end Duration
end Oracion
